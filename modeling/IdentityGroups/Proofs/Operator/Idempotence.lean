import Mathlib
import IdentityGroups.Proofs.Operator.Convergence
import IdentityGroups.Proofs.Sync.Fitting
import IdentityGroups.Proofs.Sync.Showing

/-! # An apply that has nothing left to do

After an apply that reported the group as ready, with the name and the kind of the specification, the next one
reads that group once. It is answered as the last read of the one before, so it comes to the same state, and
reports it anew with the times and the message of its own.
-/

namespace IdentityGroups

def Condition.undated (c : Condition) : Condition := { c with lastTransitionTime := .epoch, message := none }

/-- The status without what each report gives anew: its times and its messages. -/
def Status.undated (s : Status) : Status :=
  { s with
    message := none
    lastSyncTime := none
    conditions := s.conditions.map Condition.undated }

theorem Status.undated_ready (state : GroupState) (generation : Option Int64) (message message' : String)
    (now now' : Time.Instant) : (ready state generation message now).undated =
      (ready state generation message' now').undated := rfl

namespace Sync
open Program Vault Vault.Store
variable {tr : List Turn} {g : Group} {id : String} {s t : Store} {state : GroupState}

/-- A store that answers a read under an id with a failure does not say that a credential has expired. -/
theorem not_expired_of_served {f : Failure} (h : (serve (.read (Group.idPath id)) s).1 = .error f) :
    f.isExpiredCredential = false := by
  simp only [serve, perform, Request.path] at h
  rcases target_idPath_byId_or id with ⟨k, hk⟩ | hpath
  · simp only [hk] at h
    cases h
  · have hother : target "identity/group/id" = .other := by decide
    simp only [hpath, hother] at h
    cases h
    decide

/-- A store shows the group as it is read from what is left, and would be read again. -/
theorem Showing.reread {p q : Prop} (h : Showing tr p q g state) (ha : Answered serve tr s t) : p ∧ ∃ id,
    state.id = some id ∧
      afterRead ⟨some id, g⟩ id (serve (.read (Group.idPath id)) t).1 = (.ok .refreshed, state) := by
  cases h with
  | @decoded id o hd hp =>
    obtain ⟨secret, hlast, hpayload, ho⟩ := hd
    obtain ⟨u, hreply, rfl⟩ := answered_getLast? ha hlast
    have hsome : payload? (some secret) = some secret := by simp [payload?, hpayload]
    refine ⟨hp, id, rfl, ?_⟩
    rw [serve_read_unchanged, ← hreply]
    simp only [afterRead, hsome, ho]
  | @unread id hu =>
    obtain ⟨f, hlast, hf⟩ := hu
    obtain ⟨u, hreply, _⟩ := answered_getLast? ha hlast
    rw [not_expired_of_served hreply.symm] at hf
    cases hf

/-- The id that a pass ends with is not empty. -/
theorem Passing.id_ne_empty {tracked : Option Tracked} {specChanged : Bool} {res : Except Error Report}
    (h : Passing g tracked specChanged tr res state) (ht : ∀ t, tracked = some t → t.id ≠ "")
    (hid : state.id = some id) : id ≠ "" := by
  cases h.fate with
  | unknown _ hnone =>
    rw [hnone] at hid
    cases hid
  | learnt hl hset =>
    rcases hset with ⟨hset, _⟩ | ⟨hnone, _⟩
    · obtain rfl := Option.some.inj (hset.symm.trans hid)
      obtain ⟨_, _, _, _, _, _, hne⟩ := (hl _).2 rfl
      exact hne
    · rw [hnone] at hid
      cases hid
  | @kept t htracked _ hset =>
    rcases hset with ⟨hset, _⟩ | ⟨hnone, _⟩
    · obtain rfl := Option.some.inj (hset.symm.trans hid)
      exact ht t htracked
    · rw [hnone] at hid
      cases hid

/-- A pass over a group that neither is replaced nor has changed reads it. -/
theorem run_pass_reading {t : Tracked} (ht : g.mustReplace t = false) (i : Option String) :
    (pass (some t) false).run.run ⟨i, g⟩ = call (.read (Group.idPath t.id)) fun reply =>
      done ((afterRead ⟨some t.id, g⟩ t.id reply).1.map (⟨.refreshed, ·⟩),
        (afterRead ⟨some t.id, g⟩ t.id reply).2) := by
  rw [run_pass]
  simp only [ht, Bool.false_eq_true, if_false]
  rw [run_maintain]
  simp only [Bool.false_eq_true, if_false]
  rw [run_read rfl]
  rfl

end Sync

namespace Operator
open Program Vault Vault.Store Sync
variable {w w₁ : World Store} {r : Resource} {s : Store} {id : String} {resync : Nat}
  {now now' : Time.Instant}

/-- A store with no failures laid out answers a read and logs it. -/
theorem answer_read (ht : s.traps = []) (path : String) : answer (.read path) s =
    ((serve (.read path) s.clearLog).1, { s with log := s.log ++ [Request.read path] }) := by
  have ha : answer (.read path) s = serve (.read path) { s with log := s.log ++ [.read path] } := by
    simp only [answer, ht, Trap.spring]
    rfl
  have hlog : s.clearLog = { s with log := s.log ++ [Request.read path] }.clearLog := rfl
  rw [ha, hlog, serve_clearLog]
  exact Prod.ext rfl (serve_read_unchanged _ _)

/-- The group under `id` is reported as ready, in the state to which a read of it comes. -/
structure InLine (w : World Store) (r : Resource) (id : String) (state : GroupState) (message : String)
    (now : Time.Instant) : Prop where
  accepting : Accepting w { r with status := some (.ready state r.generation message now) }
  traps : w.vault.traps = []
  held : state.id = some id
  id_ne_empty : id ≠ ""
  reads : afterRead ⟨some id, r.spec.group⟩ id (serve (.read (Group.idPath id)) w.vault.clearLog).1 =
    (.ok .refreshed, state)

theorem phase_concluded_ready {res : Except Sync.Error Report} {state : GroupState}
    (h : (concluded r now state res).phase = some "Ready") :
    ∃ report, res = .ok report ∧ report.outcome ≠ .gone := by
  rcases res with e | ⟨action, outcome⟩
  · have hfailed : some "Failed" = some "Ready" := h
    exact absurd hfailed (by decide)
  · refine ⟨_, rfl, ?_⟩
    rintro rfl
    have hdrifted : some "Drifted" = some "Ready" := h
    exact absurd hdrifted (by decide)

/-- An apply after which the phase is that of a group in line has brought it in line. -/
theorem Accepting.inLine {result : Except Json.Mismatch (Except Error Next)} {status : Status}
    (h : Accepting w r) (hn : r.anyName ≠ "") (hv : r.spec.group.Valid) (ht : w.vault.traps = [])
    (hrun : w.runOn Store.answer (apply resync now) = (result, w₁))
    (hstatus : Resource.decode w₁.cluster.object = .ok { r with status := some status })
    (hphase : status.phase = some "Ready") : result = .ok (.ok (.after resync)) ∧ ∃ id state message,
      InLine w₁ r id state message now ∧ status = .ready state r.generation message now := by
  rcases hpass : ((Sync.pass r.tracked? r.specChanged).run.run { group := r.spec.group }).run Store.answer
    w.vault with ⟨⟨res, state⟩, v⟩
  obtain ⟨tr, hyields, hanswered⟩ := yields_run Store.answer
    ((Sync.pass r.tracked? r.specChanged).run.run { group := r.spec.group }) w.vault
  rw [hpass] at hyields hanswered
  have hpassing := passing_of_yields hyields
  obtain ⟨s, hserved, hquiet⟩ :=
    answered_related quiet_answer hanswered (⟨ht, rfl⟩ : Quiet w.vault w.vault.clearLog)
  obtain ⟨w', hw', rfl, hafter⟩ := h.applied Store.answer resync now state hn hv hpass
  obtain ⟨rfl, rfl⟩ := Prod.mk.inj (hrun.symm.trans hw')
  have hskip : res ≠ .ok ⟨.refreshed, .skipped⟩ := by
    rintro rfl
    obtain ⟨hrefreshed, _⟩ := (hpassing.showing rfl (by simp)).reread hserved
    cases hrefreshed
  have haccepting := hafter hskip
  obtain rfl : status = concluded (announced r) now state res :=
    Option.some.inj (congrArg Resource.status (Except.ok.inj (hstatus.symm.trans haccepting.kept.decode)))
  obtain ⟨report, rfl, hgone⟩ := phase_concluded_ready hphase
  rw [concluded_ready now state hgone, generation_announced] at haccepting ⊢
  obtain ⟨_, id, hheld, hreads⟩ := (hpassing.showing rfl hgone).reread hserved
  have hne : id ≠ "" := hpassing.id_ne_empty (fun t htracked => (Status.id_of_tracked? htracked).2) hheld
  obtain ⟨htraps, rfl⟩ := hquiet
  have hreturned : returned resync (.ok report) = .ok (.after resync) :=
    returned_ready resync hgone fun h => hskip (congrArg Except.ok h)
  exact ⟨congrArg Except.ok hreturned, id, state, _, ⟨haccepting, htraps, hheld, hne, hreads⟩, rfl⟩

theorem InLine.apply {state : GroupState} {message : String} (h : InLine w r id state message now)
    (hn : r.anyName ≠ "") (hv : r.spec.group.Valid) (hname : state.group.name = r.spec.group.name)
    (hkind : state.group.kind = r.spec.group.kind) (now' : Time.Instant) : ∃ w',
      w.runOn Store.answer (apply resync now') = (.ok (.ok (.after resync)), w') ∧
      w'.vault = { w.vault with log := w.vault.log ++ [Request.read (Group.idPath id)] } ∧
      Accepting w' { r with status := some (.ready state r.generation (inSyncMessage .refreshed) now') } := by
  let reporting : Resource := { r with status := some (.ready state r.generation message now) }
  have htracked : reporting.tracked? = some ⟨id, some state.group.name, some state.group.kind⟩ :=
    tracked?_of_id h.held h.id_ne_empty
  have hsame : reporting.specChanged = false := specChanged_eq_false_iff.2 rfl
  have hkept : r.spec.group.mustReplace ⟨id, some state.group.name, some state.group.kind⟩ = false := by
    simp [Group.mustReplace, hname, hkind]
  have hpass : ((Sync.pass reporting.tracked? reporting.specChanged).run.run { group := r.spec.group }).run
      Store.answer w.vault = ((.ok ⟨.refreshed, .refreshed⟩, state),
        { w.vault with log := w.vault.log ++ [Request.read (Group.idPath id)] }) := by
    rw [htracked, hsame, run_pass_reading hkept, run_call, answer_read h.traps]
    simp only [h.reads]
    rfl
  obtain ⟨w', hrun, hvault, hafter⟩ := h.accepting.applied Store.answer resync now' state hn hv hpass
  have hafter := hafter (by simp)
  rw [announced_eq (.inl (by rw [htracked]; rfl))] at hafter
  exact ⟨w', hrun, hvault, hafter⟩

/-- After an apply that reported the group as ready, with the name and the kind of the specification, the next
apply sends one request, a read of that group, and comes to the same: the store is left as it is but for its
log, and the status but for its times and its messages. -/
theorem apply_idempotent {result : Except Json.Mismatch (Except Error Next)} {status : Status}
    (h : Accepting w r) (hn : r.anyName ≠ "") (hv : r.spec.group.Valid) (ht : w.vault.traps = [])
    (hrun : w.runOn Store.answer (apply resync now) = (result, w₁))
    (hstatus : Resource.decode w₁.cluster.object = .ok { r with status := some status })
    (hphase : status.phase = some "Ready") (hname : status.name = some r.spec.group.name)
    (hkind : status.kind = some r.spec.group.kind) : ∃ id w₂ status', status.id = some id ∧
      w₁.runOn Store.answer (apply resync now') = (result, w₂) ∧
      w₂.vault = { w₁.vault with log := w₁.vault.log ++ [Request.read (Group.idPath id)] } ∧
      Resource.decode w₂.cluster.object = .ok { r with status := some status' } ∧
      status'.undated = status.undated := by
  obtain ⟨rfl, id, state, message, hline, rfl⟩ := h.inLine hn hv ht hrun hstatus hphase
  obtain ⟨w₂, hrun₂, hvault, hafter⟩ := hline.apply hn hv (Option.some.inj hname) (Option.some.inj hkind) now'
  exact ⟨id, w₂, _, hline.held, hrun₂, hvault, hafter.kept.decode, Status.undated_ready _ _ _ _ _ _⟩

/-! The metadata of the group were changed behind the operator's back, and the resource was edited since. -/

def reportedOwn : Status where
  id := some "old"
  phase := some "Ready"
  name := some "g1"
  kind := some .internal
  metadata := some (.ofList [("env", "prod")])
  observedGeneration := some 1

def resourceOwn : Resource where
  metadata := { name := some "r1", inNamespace? := some "team", generation := some 2 }
  spec := { name := "g1" }
  status := some reportedOwn

def groupForeign : Group where
  name := "g1"
  metadata := some (.ofList [("owner", "core")])
  memberGroupIds := some []
  memberEntityIds := some []

def foreign : World Store where
  cluster := { object := .obj [
    ("metadata", .obj [("generation", .ofInt64 2), ("name", .str "r1"), ("namespace", .str "team")]),
    ("spec", .obj [("name", .str "g1"), ("type", .str "internal")]), ("status", reportedOwn.encode)] }
  vault := Store.put {} "old" (made "old" groupForeign)

def reportedForeign : Status := .ready ⟨some "old", groupForeign⟩ (some 2) (inSyncMessage .updated) .epoch

theorem accepting_foreign : Accepting foreign resourceOwn where
  kept := ⟨_, rfl, rfl, rfl, Status.held_encode (some reportedOwn)⟩
  codes := rfl

theorem apply_idempotent_foreign : ∃ w₁ w₂ status,
    foreign.runOn Store.answer (apply 300 .epoch) = (.ok (.ok (.after 300)), w₁) ∧
    Resource.decode w₁.cluster.object = .ok { resourceOwn with status := some reportedForeign } ∧
    w₁.runOn Store.answer (apply 300 .epoch) = (.ok (.ok (.after 300)), w₂) ∧
    w₂.vault = { w₁.vault with log := w₁.vault.log ++ [Request.read (Group.idPath "old")] } ∧
    Resource.decode w₂.cluster.object = .ok { resourceOwn with status := some status } ∧
    status.undated = reportedForeign.undated := by
  have hvalid : resourceOwn.spec.group.Valid := by
    change Group.Valid { name := "g1" }
    decide
  have hnamed : resourceOwn.anyName ≠ "" := by
    change "r1" ≠ ""
    decide
  have hreported : Resource.decode (foreign.runOn Store.answer (apply 300 .epoch)).2.cluster.object =
      .ok { resourceOwn with status := some reportedForeign } := by
    decide +kernel
  have hfirst : (foreign.runOn Store.answer (apply 300 .epoch)).1 = .ok (.ok (.after 300)) := by
    decide +kernel
  generalize hrun : foreign.runOn Store.answer (apply 300 .epoch) = run at hreported hfirst
  obtain ⟨result, w₁⟩ := run
  obtain rfl : result = .ok (.ok (.after 300)) := hfirst
  obtain ⟨id, w₂, status, hid, hrun₂, hvault, hstatus, hsame⟩ :=
    apply_idempotent accepting_foreign hnamed hvalid rfl hrun hreported rfl rfl rfl
  obtain rfl : "old" = id := Option.some.inj hid
  exact ⟨w₁, w₂, status, rfl, hreported, hrun₂, hvault, hstatus, hsame⟩

end Operator

end IdentityGroups
