import Mathlib
import IdentityGroups.Operator.World
import IdentityGroups.Proofs.Operator.Report
import IdentityGroups.Proofs.Sync.Fitting

/-! # What a report of readiness is worth

A group is reported as ready after a pass over it, whatever was read of it. Whether a group with the name and
the kind that are asked for is then stored was decided by what was stored before.
-/

namespace IdentityGroups

namespace StatusPatch
open Entries

def text? (k : String) (patch : Json) : Option String :=
  ((patch.member? "status").bind (·.member? k)).bind Json.text?

theorem text?_body {members : List (String × Json)} (hd : Distinct members) (k : String) :
    text? k (body members) = (find? k members).bind Json.text? := by
  have hstatus : (body members).member? "status" = some (.object members) := rfl
  have hmember : (Json.object members).member? k = find? k members := find?_ofList k hd
  rw [text?, hstatus, Option.bind_some, hmember]

theorem phase_ready (state : GroupState) (previous : Option Status) (generation : Option Int64)
    (message : String) (now : Time.Instant) :
    text? "phase" (ready state previous generation message now) = some "Ready" :=
  text?_body (by simp [Distinct]) "phase"

theorem id_ready (state : GroupState) (previous : Option Status) (generation : Option Int64)
    (message : String) (now : Time.Instant) :
    text? "id" (ready state previous generation message now) = state.id := by
  refine (text?_body (by simp [Distinct]) "id").trans ?_
  cases h : state.id <;> rfl

theorem phase_drifted (generation : Option Int64) (message : String) (now : Time.Instant) :
    text? "phase" (drifted generation message now) = some "Drifted" :=
  text?_body (by simp [Distinct]) "phase"

theorem phase_pending (generation : Option Int64) : text? "phase" (pending generation) = some "Pending" :=
  text?_body (by simp [Distinct]) "phase"

theorem phase_failed (generation : Option Int64) (reason message : String) (state : Option GroupState)
    (now : Time.Instant) : text? "phase" (failed generation reason message state now) = some "Failed" := by
  rcases state with _ | ⟨_ | id, group⟩
  · exact text?_body (by simp [Distinct]) "phase"
  · exact text?_body (by simp [Distinct]) "phase"
  · exact text?_body (by simp [Distinct]) "phase"

end StatusPatch

namespace Operator
open Program Vault Vault.Store Sync
variable {r : Resource} {resync : Nat} {now : Time.Instant} {tr : List Turn} {patch : Json}

/-- Of the turns of a run those with Vault are answered by Vault alone. -/
theorem answered_exchanged {V : Type} {answer : Request → V → Reply × V} {w w' : World V}
    (h : Answered (World.handle answer) tr w w') : Answered answer (exchanged tr) w.vault w'.vault := by
  induction tr generalizing w with
  | nil => exact congrArg World.vault h
  | cons turn tr ih =>
    obtain ⟨op, b⟩ := turn
    obtain ⟨hb, h⟩ := answered_cons_iff.1 h
    have hrest := ih h
    cases op with
    | vault request => exact ⟨hb, hrest⟩
    | patchStatus space name patch => exact hrest
    | patchObject space name operations => exact hrest
    | count family labels => exact hrest
    | timed => exact hrest

/-- A patch that reports readiness is the report of a pass that did not find its group gone. -/
theorem Reports.ready_eq {result : Except Error Next} (h : Reports resync now r tr patch result)
    (hp : StatusPatch.text? "phase" patch = some "Ready") : ∃ report state,
      Passed r tr (.ok report) state ∧ report.outcome ≠ .gone ∧ report ≠ ⟨.refreshed, .skipped⟩ ∧
        patch = StatusPatch.ready state r.status r.generation (inSyncMessage report.action) now := by
  cases h with
  | invalid =>
    rw [StatusPatch.phase_failed] at hp
    exact absurd hp (by decide)
  | failed =>
    rw [StatusPatch.phase_failed] at hp
    exact absurd hp (by decide)
  | drifted =>
    rw [StatusPatch.phase_drifted] at hp
    exact absurd hp (by decide)
  | @ready report state h hg hs => exact ⟨report, state, h, hg, hs, rfl⟩

theorem Reports.ready_inv {result : Except Error Next} (h : Reports resync now r tr patch result)
    (hp : StatusPatch.text? "phase" patch = some "Ready") : ∃ report state,
      Passed r tr (.ok report) state ∧ report.outcome ≠ .gone ∧ StatusPatch.text? "id" patch = state.id := by
  obtain ⟨report, state, hpassed, hgone, _, rfl⟩ := h.ready_eq hp
  exact ⟨report, state, hpassed, hgone, StatusPatch.id_ready _ _ _ _ _⟩

/-- Whatever Kubernetes answers, when an apply reports readiness a group of the name and the kind is stored
under the id that it reports just when what was stored before suited it. -/
theorem ready_fits_iff {w w' : World Store} {space name : String}
    {next : Verdict → Program Effect.Answer (Except Error Next)} (hs : WellFormed w.vault)
    (ht : w.vault.traps = []) (hd : w.vault.discardsCreates = false)
    (h : (apply resync now r).run.Reaches tr (call (.patchStatus space name patch) next))
    (ha : Answered (World.handle Store.answer) tr w w')
    (hp : StatusPatch.text? "phase" patch = some "Ready") : ∃ id, StatusPatch.text? "id" patch = some id ∧
      (Fits w'.vault r.spec.group id ↔ Suits w.vault r.spec.group r.tracked?) := by
  rcases report_of_reaches h with ⟨_, hannounces⟩ | ⟨result, hreports⟩
  · obtain ⟨_, _, _, rfl⟩ := hannounces
    rw [StatusPatch.phase_pending] at hp
    exact absurd hp (by decide)
  · obtain ⟨report, state, hpassed, hgone, hid⟩ := hreports.ready_inv hp
    obtain ⟨s', hserved, hquiet⟩ :=
      answered_related quiet_answer (answered_exchanged ha) (⟨ht, rfl⟩ : Quiet w.vault w.vault.clearLog)
    obtain ⟨id, hstate, hfits⟩ := hpassed.passing.fits_iff hserved (hs.of_groups rfl) hd
      hpassed.valid.name_ne_empty rfl hgone
    refine ⟨id, hid.trans hstate, ?_⟩
    rw [fits_congr hquiet.groups_eq, hfits, suits_clearLog]

/-! A resource without a status asks for the internal group `g1`. A group of that name is stored already. -/

def resourceNew : Resource where
  metadata := { name := some "r1", inNamespace? := some "team", generation := some 1 }
  spec := { name := "g1" }

def heldAs (kind : GroupKind) : World Store where
  cluster := { object := .obj [
    ("metadata", .obj [("generation", .ofInt64 1), ("name", .str "r1"), ("namespace", .str "team")]),
    ("spec", .obj [("name", .str "g1"), ("type", .str "internal")])] }
  vault := Store.put {} "pre" (made "pre" { name := "g1", kind })

theorem wellFormed_heldAs (kind : GroupKind) : WellFormed (heldAs kind).vault := by
  have hname : ({ name := "g1", kind } : Group).name ≠ "" := by
    change "g1" ≠ ""
    decide
  exact (wellFormed_of_empty rfl).put_made (by decide) hname rfl

/-- What a report says of the phase and the id, if the program begins with one. -/
def opensWith? {α : Type} (p : Program Effect.Answer α) : Option (Option String × Option String) :=
  match p.opening? with
  | some (.patchStatus _ _ patch) => some (StatusPatch.text? "phase" patch, StatusPatch.text? "id" patch)
  | _ => none

theorem opensWith?_eq_some_iff {α : Type} {p : Program Effect.Answer α} {phase id : Option String} :
    opensWith? p = some (phase, id) ↔ ∃ space name patch next, p = call (.patchStatus space name patch) next ∧
      StatusPatch.text? "phase" patch = phase ∧ StatusPatch.text? "id" patch = id := by
  constructor
  · intro h
    unfold opensWith? at h
    split at h
    · rename_i space name patch hopening
      obtain ⟨next, rfl⟩ := opening?_eq_some_iff.1 hopening
      cases h
      exact ⟨space, name, patch, next, rfl, rfl, rfl⟩
    · cases h
  · rintro ⟨space, name, patch, next, rfl, rfl, rfl⟩
    rfl

/-- After five calls the apply reports readiness: the create was announced, the name looked up, the group
updated and read, and the pass counted. -/
def afterFive (kind : GroupKind) : World Store :=
  (apply 300 .epoch resourceNew).run.runFor (World.handle Store.answer) 5 (heldAs kind)

theorem reports_ready_heldAs (kind : GroupKind) : ∃ tr space name patch next,
    (apply 300 .epoch resourceNew).run.Reaches tr (call (.patchStatus space name patch) next) ∧
      Answered (World.handle Store.answer) tr (heldAs kind) (afterFive kind) ∧
      StatusPatch.text? "phase" patch = some "Ready" ∧ StatusPatch.text? "id" patch = some "pre" := by
  have hopens : opensWith? ((apply 300 .epoch resourceNew).run.left (World.handle Store.answer) 5 (heldAs kind)) =
      some (some "Ready", some "pre") := by
    cases kind <;> decide +kernel
  obtain ⟨space, name, patch, next, hleft, hphase, hid⟩ := opensWith?_eq_some_iff.1 hopens
  obtain ⟨tr, hreaches, hanswered⟩ :=
    reaches_left (World.handle Store.answer) 5 (apply 300 .epoch resourceNew).run (heldAs kind)
  rw [hleft] at hreaches
  exact ⟨tr, space, name, patch, next, hreaches, hanswered, hphase, hid⟩

/-- An internal group is taken over, and is what is reported. -/
theorem ready_fits_internal : ∃ tr space name patch next,
    (apply 300 .epoch resourceNew).run.Reaches tr (call (.patchStatus space name patch) next) ∧
      Answered (World.handle Store.answer) tr (heldAs .internal) (afterFive .internal) ∧
      StatusPatch.text? "phase" patch = some "Ready" ∧ ∃ id, StatusPatch.text? "id" patch = some id ∧
        Fits (afterFive .internal).vault resourceNew.spec.group id := by
  obtain ⟨tr, space, name, patch, next, hreaches, hanswered, hphase, _⟩ := reports_ready_heldAs .internal
  have hsuits : Suits (heldAs .internal).vault resourceNew.spec.group resourceNew.tracked? := by
    intro id stored hf _
    unfold heldAs at hf
    rw [find?_put] at hf
    split at hf
    · cases hf
      exact find?_type_made "pre" { name := "g1" }
    · cases hf
  obtain ⟨id, hid, hfits⟩ :=
    ready_fits_iff (wellFormed_heldAs .internal) rfl rfl hreaches hanswered hphase
  exact ⟨tr, space, name, patch, next, hreaches, hanswered, hphase, id, hid, hfits.2 hsuits⟩

/-- An external group is taken over as well, and reported as ready though an internal one is asked for. -/
theorem ready_external_unfit : WellFormed (heldAs .external).vault ∧ resourceNew.spec.group.Valid ∧
    ∃ tr space name patch next,
      (apply 300 .epoch resourceNew).run.Reaches tr (call (.patchStatus space name patch) next) ∧
        Answered (World.handle Store.answer) tr (heldAs .external) (afterFive .external) ∧
        StatusPatch.text? "phase" patch = some "Ready" ∧ ∀ id, StatusPatch.text? "id" patch = some id →
          ¬ Fits (afterFive .external).vault resourceNew.spec.group id := by
  obtain ⟨tr, space, name, patch, next, hreaches, hanswered, hphase, hpre⟩ := reports_ready_heldAs .external
  have hvalid : resourceNew.spec.group.Valid := by
    change Group.Valid { name := "g1" }
    decide
  have hkind : ((afterFive .external).vault.groups.find? "pre").bind (·.find? "type") =
      some (.str "external") := by
    decide +kernel
  refine ⟨wellFormed_heldAs .external, hvalid, tr, space, name, patch, next, hreaches, hanswered, hphase, ?_⟩
  rintro id hid ⟨stored, hf, _, htype⟩
  obtain rfl := Option.some.inj (hpre.symm.trans hid)
  rw [hf, Option.bind_some, htype] at hkind
  exact absurd hkind (by decide)

end Operator

end IdentityGroups
