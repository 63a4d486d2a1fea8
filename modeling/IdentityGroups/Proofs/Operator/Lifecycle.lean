import Mathlib
import IdentityGroups.Proofs.Group.Body
import IdentityGroups.Proofs.Operator.Report

/-! # The life of one resource

The specification is edited, applies run one at a time against a Vault and a Kubernetes that answer as
they like, and may be cut off anywhere. A status that claims to have observed the current generation is
backed by a write: whatever was last reported, the next apply only reads when there is nothing to send.
-/

namespace IdentityGroups

namespace Sync

def Wrote (g : Group) (tr : List Turn) : Prop :=
  ∃ path body response, (⟨.write path body, .ok response⟩ : Turn) ∈ tr ∧ Group.Carries body g

variable {g : Group} {tr : List Turn} {s' : GroupState}

theorem Wrote.cons (h : Wrote g tr) (turn : Turn) : Wrote g (turn :: tr) := by
  obtain ⟨path, body, response, hmem, hc⟩ := h
  exact ⟨path, body, response, List.mem_cons_of_mem _ hmem, hc⟩

theorem Updating.wrote {id : String} {res : Except Error Outcome} (h : Updating id g tr res s')
    (hres : ∃ outcome, res = .ok outcome) : Wrote g tr := by
  cases h with
  | rejected =>
    obtain ⟨_, h⟩ := hres
    cases h
  | sent h => exact ⟨_, _, _, List.mem_cons_self, g.updateBody_carries⟩

theorem Creating.wrote {s : GroupState} {res : Except Error String} (h : Creating s tr res s')
    (hres : ∃ id, res = .ok id) : Wrote s.group tr := by
  cases h with
  | rejected =>
    obtain ⟨_, h⟩ := hres
    cases h
  | answered hid h => exact ⟨_, _, _, List.mem_cons_self, Group.createBody_carries _⟩
  | unfound hid hf => exact ⟨_, _, _, List.mem_cons_self, Group.createBody_carries _⟩
  | lost hid hf => exact ⟨_, _, _, List.mem_cons_self, Group.createBody_carries _⟩
  | lookedUp hid hf h => exact ⟨_, _, _, List.mem_cons_self, Group.createBody_carries _⟩

theorem Claiming.wrote {replaced : Option String} {s : GroupState} {res : Except Error Report}
    (h : Claiming replaced s tr res s') (hres : ∃ report, res = .ok report) : Wrote s.group tr := by
  cases h with
  | failed =>
    obtain ⟨_, h⟩ := hres
    cases h
  | adopted hf h =>
    obtain ⟨_, hres⟩ := hres
    obtain ⟨outcome, ho, _⟩ := map_eq_ok_iff.1 hres
    exact (h.wrote ⟨outcome, ho⟩).cons _
  | created hf h =>
    obtain ⟨_, hres⟩ := hres
    obtain ⟨id, hid, _⟩ := map_eq_ok_iff.1 hres
    exact (h.wrote ⟨id, hid⟩).cons _

/-- A pass that succeeds has sent the attributes, unless it kept a group whose specification was
observed before. -/
theorem Passing.wrote {tracked : Option Tracked} {specChanged : Bool} {res : Except Error Report}
    (h : Passing g tracked specChanged tr res s') (hres : ∃ report, res = .ok report) :
    Wrote g tr ∨ (tracked.isSome ∧ specChanged = false) := by
  cases h with
  | claimed h => exact .inl (h.wrote hres)
  | undeleted =>
    obtain ⟨_, h⟩ := hres
    cases h
  | replaced ht h => exact .inl ((h.wrote hres).cons _)
  | updated ht h =>
    obtain ⟨_, hres⟩ := hres
    obtain ⟨outcome, ho, _⟩ := map_eq_ok_iff.1 hres
    exact .inl (h.wrote ⟨outcome, ho⟩)
  | refreshed ht h => exact .inr ⟨rfl, rfl⟩

end Sync

namespace Operator
open Program Json.Decode

/-! ## States and steps -/

structure Apply where
  generation : Int64
  rest : Program Effect.Answer (Except Error Next)

/-- One resource, the apply under way if there is one, and the bodies of the writes that were accepted
in applies of the current generation. -/
structure Life where
  spec : Spec
  generation : Int64
  status : Json := .null
  running : Option Apply := none
  sent : List Json := []

namespace Life

/-- What a turn of an apply of the given generation does: an accepted write counts for the generation
that it was sent for, an accepted patch is merged. -/
def take (L : Life) (generation : Int64) : Turn → Life
  | ⟨.vault (.write _ body), .ok _⟩ =>
    if generation = L.generation then { L with sent := body :: L.sent } else L
  | ⟨.patchStatus _ _ patch, .accepted⟩ => { L with status := Status.merged L.status patch }
  | _ => L

/-- An edit may come at any time. An apply starts from the specification and status of that time, when
none runs; its effects are answered in any way; and it may be over after any of them. -/
inductive Step : Life → Life → Prop
  | edit {L : Life} (spec : Spec) {generation : Int64} (h : L.generation < generation) :
      Step L { L with spec, generation, sent := [] }
  | start {L : Life} {resync : Nat} {now : Time.Instant} {r : Resource} (h : L.running = none)
      (hspec : r.spec = L.spec) (hgen : r.generation = some L.generation)
      (hstatus : optional Status.decode L.status = .ok r.status) :
      Step L { L with running := some ⟨L.generation, (apply resync now r).run⟩ }
  | turn {L : Life} {generation : Int64} {e : Effect}
      {next : e.Answer → Program Effect.Answer (Except Error Next)}
      (h : L.running = some ⟨generation, .call e next⟩) (a : e.Answer) :
      Step L { L.take generation ⟨e, a⟩ with running := some ⟨generation, next a⟩ }
  | stop {L : Life} : Step L { L with running := none }

inductive Reachable : Life → Prop
  | new (spec : Spec) (generation : Int64) : Reachable { spec, generation }
  | step {L L' : Life} (h : Reachable L) (hs : Step L L') : Reachable L'

theorem take_spec (L : Life) (generation : Int64) (turn : Turn) : (L.take generation turn).spec = L.spec := by
  unfold take
  split
  · split <;> rfl
  · rfl
  · rfl

theorem take_generation (L : Life) (generation : Int64) (turn : Turn) :
    (L.take generation turn).generation = L.generation := by
  unfold take
  split
  · split <;> rfl
  · rfl
  · rfl

theorem take_status (L : Life) (generation : Int64) (turn : Turn) :
    (L.take generation turn).status = statusAfter L.status [turn] := by
  obtain ⟨e, a⟩ := turn
  cases e with
  | vault request =>
    cases request with
    | write path body =>
      cases a with
      | error f => rfl
      | ok response =>
        simp only [take]
        split <;> rfl
    | read path => rfl
    | delete path => rfl
  | patchStatus space name patch => cases a <;> rfl
  | patchObject space name operations => rfl
  | count family labels => rfl
  | timed => rfl

theorem sent_subset_take (L : Life) (generation : Int64) (turn : Turn) :
    L.sent ⊆ (L.take generation turn).sent := by
  unfold take
  split
  · split
    · exact List.subset_cons_self _ _
    · exact List.Subset.refl _
  · exact List.Subset.refl _
  · exact List.Subset.refl _

theorem mem_sent_take (L : Life) {turn : Turn} {path : String} {body : Json} {response : Option Vault.Secret}
    (h : (⟨.write path body, .ok response⟩ : Sync.Turn) ∈ exchanged [turn]) :
    body ∈ (L.take L.generation turn).sent := by
  obtain ⟨e, a⟩ := turn
  cases e with
  | vault request =>
    cases List.mem_singleton.1 h
    simp [take]
  | patchStatus => cases h
  | patchObject => cases h
  | count => cases h
  | timed => cases h

/-! ## The invariant -/

/-- The next apply has nothing to send, or what it has was accepted since the generation appeared. -/
structure Covered (L : Life) (s : Option Status) : Prop where
  observed : ∀ g, s.bind (·.observedGeneration) = some g → g ≤ L.generation
  written : L.spec.group.Valid → (∃ id, s.bind (·.id) = some id ∧ id ≠ "") →
    s.bind (·.observedGeneration) = some L.generation → ∃ body ∈ L.sent, Group.Carries body L.spec.group

/-- Where an apply of `r` stands that found the status `j` and has exchanged the turns `tr`. While its
generation is the current one, its accepted writes count and what it found is covered. -/
structure UnderWay (L : Life) (generation : Int64) (r : Resource) (j : Json) (tr : List Turn) : Prop where
  generation_eq : r.generation = some generation
  held : Status.Held j r.status
  status_eq : L.status = statusAfter j tr
  generation_le : generation ≤ L.generation
  spec_eq : generation = L.generation → r.spec = L.spec
  counted : generation = L.generation → ∀ path body response,
    (⟨.write path body, .ok response⟩ : Sync.Turn) ∈ exchanged tr → body ∈ L.sent
  covered : generation = L.generation → r.spec.group.Valid → r.tracked?.isSome → r.specChanged = false →
    ∃ body ∈ L.sent, Group.Carries body r.spec.group

structure Inv (L : Life) : Prop where
  status : ∃ s, Status.Held L.status s ∧ Covered L s
  running : ∀ p, L.running = some p → ∃ resync now r j tr,
    (apply resync now r).run.Reaches tr p.rest ∧ UnderWay L p.generation r j tr

theorem inv_new (spec : Spec) (generation : Int64) : Inv { spec, generation } where
  status := by
    refine ⟨none, .absent, ?_, ?_⟩
    · intro g h
      cases h
    · rintro _ ⟨id, h, _⟩
      cases h
  running := by
    intro p h
    cases h

theorem inv_edit {L : Life} (hi : Inv L) (spec : Spec) {generation : Int64} (h : L.generation < generation) :
    Inv { L with spec, generation, sent := [] } where
  status := by
    obtain ⟨s, hs, hc⟩ := hi.status
    refine ⟨s, hs, ?_, ?_⟩
    · intro g hg
      exact Int64.le_of_lt (Int64.lt_of_le_of_lt (hc.observed g hg) h)
    · rintro _ _ hg
      exact absurd (hc.observed generation hg) (Int64.not_le.2 h)
  running := by
    intro p hp
    obtain ⟨resync, now, r, j, tr, hr, hu⟩ := hi.running p hp
    have hlt : p.generation < generation := Int64.lt_of_le_of_lt hu.generation_le h
    have hne : p.generation ≠ generation := fun he => Int64.lt_irrefl (he ▸ hlt)
    exact ⟨resync, now, r, j, tr, hr,
      { hu with
        generation_le := Int64.le_of_lt hlt
        spec_eq := fun he => absurd he hne
        counted := fun he => absurd he hne
        covered := fun he => absurd he hne }⟩

theorem inv_start {L : Life} (hi : Inv L) {resync : Nat} {now : Time.Instant} {r : Resource}
    (hspec : r.spec = L.spec) (hgen : r.generation = some L.generation)
    (hstatus : optional Status.decode L.status = .ok r.status) :
    Inv { L with running := some ⟨L.generation, (apply resync now r).run⟩ } := by
  obtain ⟨s, hs, hc⟩ := hi.status
  have hsame : s = r.status := Except.ok.inj (hs.decode.symm.trans hstatus)
  subst hsame
  refine ⟨⟨r.status, hs, hc.observed, hc.written⟩, fun p hp => ?_⟩
  cases hp
  refine ⟨resync, now, r, L.status, [], .start _, ?_⟩
  exact
    { generation_eq := hgen
      held := hs
      status_eq := rfl
      generation_le := Int64.le_refl _
      spec_eq := fun _ => hspec
      counted := fun _ _ _ _ h => by cases h
      covered := fun _ hv ht hch => by
        obtain ⟨t, ht⟩ := Option.isSome_iff_exists.1 ht
        have hobs : r.status.bind (·.observedGeneration) = some L.generation := by
          rw [← hgen]
          simpa [Resource.specChanged] using hch
        rw [hspec] at hv ⊢
        exact hc.written hv ⟨t.id, Status.id_of_tracked? ht⟩ hobs }

/-- Of a status with the generation of an apply it is enough to show what is written while that
generation is the current one. -/
theorem UnderWay.covered_of {L : Life} {generation : Int64} {r : Resource} {j : Json} {tr : List Turn}
    (hu : UnderWay L generation r j tr) {s : Status} (hs : s.observedGeneration = r.generation)
    (hw : generation = L.generation → L.spec.group.Valid → (∃ id, s.id = some id ∧ id ≠ "") →
      ∃ body ∈ L.sent, Group.Carries body L.spec.group) : Covered L (some s) := by
  rw [hu.generation_eq] at hs
  refine ⟨fun g hg => ?_, fun hv hid hg => ?_⟩
  · cases hs.symm.trans hg
    exact hu.generation_le
  · cases hs.symm.trans hg
    exact hw rfl hv hid

theorem UnderWay.written {L : Life} {generation : Int64} {r : Resource} {j : Json} {tr : List Turn}
    (hu : UnderWay L generation r j tr) (hg : generation = L.generation) {report : Sync.Report}
    {state : GroupState} (hp : Passed r tr (.ok report) state) :
    ∃ body ∈ L.sent, Group.Carries body L.spec.group := by
  rw [← hu.spec_eq hg]
  rcases hp.passing.wrote ⟨report, rfl⟩ with ⟨path, body, response, hmem, hc⟩ | ⟨ht, hch⟩
  · exact ⟨body, hu.counted hg path body response hmem, hc⟩
  · exact hu.covered hg hp.valid ht hch

/-- The status that an accepted patch of an apply leaves is covered. -/
theorem UnderWay.covered_patch {L : Life} {generation : Int64} {r : Resource} {j : Json} {tr : List Turn}
    {resync : Nat} {now : Time.Instant} {patch : Json} (hu : UnderWay L generation r j tr)
    (hp : (tr = [] ∧ Announces r patch) ∨ ∃ result, Reports resync now r tr patch result) :
    ∃ s, Status.Held (Status.merged L.status patch) s ∧ Covered L s := by
  rw [hu.status_eq]
  rcases hp with ⟨rfl, hv, ht, _, rfl⟩ | ⟨result, hrep⟩
  · refine ⟨_, hu.held.pending r.generation, hu.covered_of rfl ?_⟩
    rintro _ _ ⟨id, hid, hne⟩
    have hid : r.status.bind (·.id) = some id := by
      rw [← hid]
      cases r.status <;> rfl
    have htracked := Status.tracked?_isSome hid hne
    rw [show r.status.bind Status.tracked? = none from ht] at htracked
    cases htracked
  · obtain ⟨s, hs, _, hmeta⟩ := hrep.begun.held hu.held
    cases hrep with
    | invalid ho htr =>
      refine ⟨_, hs.failed _ _ _ none now, hu.covered_of rfl fun hg hv => ?_⟩
      rw [← hu.spec_eq hg] at hv
      rw [show r.spec.group.objection? = none from hv] at ho
      cases ho
    | @failed e state hp =>
      refine ⟨_, hs.failed _ _ _ (some state) now, ?_, ?_⟩
      · intro g hg
        cases hg
      · rintro _ _ hg
        cases hg
    | drifted hp =>
      refine ⟨_, hs.drifted _ _ now, hu.covered_of rfl ?_⟩
      rintro _ _ ⟨id, hid, _⟩
      cases hid
    | @ready report state hp =>
      exact ⟨_, hs.ready state r.status _ _ now hmeta, hu.covered_of rfl fun hg _ _ => hu.written hg hp⟩

theorem Covered.mono {L L' : Life} {s : Option Status} (h : Covered L s) (hspec : L'.spec = L.spec)
    (hgen : L'.generation = L.generation) (hsent : L.sent ⊆ L'.sent) : Covered L' s where
  observed := by
    rw [hgen]
    exact h.observed
  written := by
    rw [hgen, hspec]
    intro hv hid hg
    obtain ⟨body, hmem, hc⟩ := h.written hv hid hg
    exact ⟨body, hsent hmem, hc⟩

theorem inv_turn {L : Life} (hi : Inv L) {generation : Int64} {e : Effect}
    {next : e.Answer → Program Effect.Answer (Except Error Next)}
    (h : L.running = some ⟨generation, .call e next⟩) (a : e.Answer) :
    Inv { L.take generation ⟨e, a⟩ with running := some ⟨generation, next a⟩ } := by
  obtain ⟨resync, now, r, j, tr, hr, hu⟩ := hi.running _ h
  have hspec := take_spec L generation ⟨e, a⟩
  have hgen := take_generation L generation ⟨e, a⟩
  have hsent := sent_subset_take L generation ⟨e, a⟩
  constructor
  · -- only an accepted patch changes the status
    suffices hs : ∃ s, Status.Held (L.take generation ⟨e, a⟩).status s ∧ Covered L s by
      obtain ⟨s, hs, hc⟩ := hs
      exact ⟨s, hs, hc.mono hspec hgen hsent⟩
    rw [take_status]
    cases e with
    | patchStatus space name patch =>
      cases a with
      | accepted => exact hu.covered_patch (report_of_reaches hr)
      | refused => exact hi.status
    | vault => exact hi.status
    | patchObject => exact hi.status
    | count => exact hi.status
    | timed => exact hi.status
  · intro p hp
    cases hp
    refine ⟨resync, now, r, j, tr ++ [⟨e, a⟩], hr.snoc a, ?_⟩
    exact
      { generation_eq := hu.generation_eq
        held := hu.held
        status_eq := by
          rw [statusAfter_append, ← hu.status_eq]
          exact take_status L generation ⟨e, a⟩
        generation_le := hgen ▸ hu.generation_le
        spec_eq := fun hg => (hu.spec_eq (hg.trans hgen)).trans hspec.symm
        counted := fun hg path body response hmem => by
          have hcur : generation = L.generation := hg.trans hgen
          rw [exchanged_append] at hmem
          rcases List.mem_append.1 hmem with hmem | hmem
          · exact hsent (hu.counted hcur path body response hmem)
          · subst hcur
            exact mem_sent_take L hmem
        covered := fun hg hv ht hch => by
          obtain ⟨body, hmem, hc⟩ := hu.covered (hg.trans hgen) hv ht hch
          exact ⟨body, hsent hmem, hc⟩ }

theorem inv_stop {L : Life} (hi : Inv L) : Inv { L with running := none } := by
  obtain ⟨s, hs, hc⟩ := hi.status
  exact ⟨⟨s, hs, hc.observed, hc.written⟩, fun _ h => by cases h⟩

theorem inv_step {L L' : Life} (hi : Inv L) (h : Step L L') : Inv L' := by
  cases h with
  | edit spec h => exact inv_edit hi spec h
  | start _ hspec hgen hstatus => exact inv_start hi hspec hgen hstatus
  | turn h a => exact inv_turn hi h a
  | stop => exact inv_stop hi

theorem Reachable.inv {L : Life} (h : Reachable L) : Inv L := by
  induction h with
  | new spec generation => exact inv_new spec generation
  | step _ hs ih => exact inv_step ih hs

/-- No change of a specification is lost without a word: a status that tracks a group and claims to have
observed the current generation is backed by an accepted write of this generation that carries every
optional attribute of the specification. -/
theorem spec_change_sent {L : Life} (h : Reachable L) :
    ∃ s, optional Status.decode L.status = .ok s ∧ (L.spec.group.Valid →
      (∃ id, s.bind (·.id) = some id ∧ id ≠ "") → s.bind (·.observedGeneration) = some L.generation →
        ∃ body ∈ L.sent, Group.Carries body L.spec.group) := by
  obtain ⟨s, hs, hc⟩ := h.inv.status
  exact ⟨s, hs.decode, hc.written⟩

/-! A group without a status is created and reported, its policies having been sent. -/

def announced : Spec := { name := "g", policies := some ["p"] }

def announcing : Resource where
  metadata := { name := some "r", generation := some 1 }
  spec := announced

theorem apply_announcing : apply 300 .epoch announcing = applyValid 300 .epoch announcing := by
  have hv : announcing.spec.group.objection? = none := by decide
  unfold apply
  rw [hv]

theorem spec_change_sent_created :
    ∃ L, Reachable L ∧ L.spec = announced ∧ L.generation = 1 ∧
      ∃ body ∈ L.sent, Group.Carries body announced.group := by
  have h1 := (Reachable.new announced 1).step (@Step.start _ 300 .epoch announcing rfl rfl rfl rfl)
  rw [apply_announcing] at h1
  have h2 := h1.step (.turn rfl Verdict.accepted)
  have h3 := h2.step (.turn rfl (show Vault.Reply from .ok none))
  have h4 := h3.step (.turn rfl (show Vault.Reply from .ok (some (.withData (.ofList [("id", .str "1")])))))
  have h5 := h4.step (.turn rfl (show Vault.Reply from .ok (some (.withData (.ofList [("name", .str "g")])))))
  have h6 := h5.step (.turn rfl ())
  have h7 := h6.step (.turn rfl Verdict.accepted)
  have hheld := (Status.Held.pending .absent (some 1)).ready ⟨some "1", announced.group⟩ none (some 1)
    (inSyncMessage .created) .epoch rfl
  obtain ⟨s, hs, hw⟩ := spec_change_sent h7
  have hsame := Except.ok.inj (hheld.decode.symm.trans hs)
  subst hsame
  exact ⟨_, h7, rfl, rfl, hw (by decide) ⟨"1", rfl, by decide⟩ rfl⟩

end Life

end Operator

end IdentityGroups
