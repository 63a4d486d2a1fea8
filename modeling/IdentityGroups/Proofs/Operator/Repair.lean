import Mathlib
import IdentityGroups.Proofs.Operator.Recovery
import IdentityGroups.Proofs.Sync.Faults

/-! # One failure is repaired by the next apply

One request of an apply to Vault fails, whichever it is, and makes the apply fail. The report of the failure
names the group if its id is known and clears the generation observed, so that the next apply sends the
specification. If nothing else fails it succeeds, and the group is stored with all that is asked for.
-/

namespace IdentityGroups.Operator
open Program Vault Vault.Store Sync
variable {r : Resource} {g : Group} {tracked : Option Tracked} {s t : Store} {state : GroupState} {resync : Nat}
  {now : Time.Instant}

/-- The store answers, but for the request that the countdown comes to, for which a failure is laid out. -/
def answerOrFail (f : Failure) : Request → Option Nat × Store → Reply × (Option Nat × Store) :=
  faulting Store.answer fun request s => answer request (s.failNext request.method f)

def World.withVault {U V : Type} (w : World V) (vault : U) : World U :=
  { cluster := w.cluster, vault, metrics := w.metrics }

theorem run_answerOrFail (f : Failure) {α : Type} (p : Exchange α) {s : Store} (hs : s.traps = []) (k : Nat) :
    (p.run (answerOrFail f) (some k, s)).1 = (p.run (faulting serve (failing f)) (some k, s.clearLog)).1 ∧
      Quiet (p.run (answerOrFail f) (some k, s)).2.2
        (p.run (faulting serve (failing f)) (some k, s.clearLog)).2.2 := by
  have hfault : ∀ request s t, Quiet s t →
      (answer request (s.failNext request.method f)).1 = (failing f request t).1 ∧
        Quiet (answer request (s.failNext request.method f)).2 (failing f request t).2 := quiet_failNext f
  obtain ⟨hres, _, hq⟩ := run_related (R := fun c d => c.1 = d.1 ∧ Quiet c.2 d.2)
    (faulting_related quiet_answer hfault) p (s := (some k, s)) (t := (some k, s.clearLog)) ⟨rfl, hs, rfl⟩
  exact ⟨hres, hq⟩

/-! ## The report of a failure -/

theorem returned_eq_error_iff {res : Except Sync.Error Report} {e : Error} :
    returned resync res = .error e ↔ ∃ cause, res = .error cause ∧ e = .sync cause := by
  constructor
  · intro h
    cases res with
    | error cause =>
      cases h
      exact ⟨cause, rfl, rfl⟩
    | ok report =>
      obtain ⟨action, outcome⟩ := report
      cases outcome <;> cases action <;> cases h
  · rintro ⟨cause, rfl, rfl⟩
    rfl

theorem tracked?_announced (r : Resource) : (announced r).tracked? = r.tracked? := by
  unfold announced
  split
  · cases h : r.status <;> simp [Resource.tracked?, Status.tracked?, Status.pending, h]
  · rfl

def afterFailure (r : Resource) (now : Time.Instant) (state : GroupState) (e : Sync.Error) : Resource :=
  { r with status := some (concluded (announced r) now state (.error e)) }

theorem tracked?_afterFailure (e : Sync.Error) (hid : ∀ id, state.id = some id → id ≠ "") :
    (afterFailure r now state e).tracked? = retracked r.tracked? state := by
  obtain ⟨_ | id, group⟩ := state
  · rw [retracked, ← tracked?_announced r]
    simp only [Resource.tracked?, afterFailure, concluded, Status.failed, Status.known, Option.bind_some]
    cases (announced r).status <;> rfl
  · exact tracked?_of_id rfl (hid id rfl)

theorem specChanged_afterFailure (hg : r.generation.isSome) (e : Sync.Error) :
    (afterFailure r now state e).specChanged = true := by
  obtain ⟨generation, hgen⟩ := Option.isSome_iff_exists.1 hg
  have hmeta : r.metadata.generation = some generation := hgen
  simp [Resource.specChanged, Resource.generation, afterFailure, concluded, Status.failed, hmeta]

/-! ## The next apply -/

/-- In the world the resource `r'` reports as ready the group `x`, stored with all that `r` asks for. A group
that `r` tracks is `x` or, if it is to be replaced, gone. Any other group is as it was among `groups`. -/
structure Mended (groups : Dict Stored) (r : Resource) (w : World Store) (r' : Resource) (x : Tracked)
    (stored : Stored) : Prop where
  decoded : Resource.decode w.cluster.object = .ok r'
  spec : r'.spec = r.spec
  ready : r'.status.bind (·.phase) = some "Ready"
  tracked : r'.tracked? = some x
  held : w.vault.groups.find? x.id = some stored
  name : nameOf? stored = some r.spec.group.name
  kind : stored.find? "type" = some (.str r.spec.group.kind.word)
  carries : Group.Carries (.ofDict stored) r.spec.group
  unique {id : String} {other : Stored} (hf : w.vault.groups.find? id = some other)
    (hn : nameOf? other = some r.spec.group.name) : id = x.id
  same {y : Tracked} (hy : r.tracked? = some y) (hr : r.spec.group.mustReplace y = false) : y.id = x.id
  replaced {y : Tracked} (hy : r.tracked? = some y) (hr : r.spec.group.mustReplace y) :
    w.vault.groups.find? y.id = none
  others {id : String} (hx : id ≠ x.id) (hy : ∀ y, r.tracked? = some y → y.id ≠ id) :
    w.vault.groups.find? id = groups.find? id

theorem mended_of_assigned {w : World Store} {r' : Resource} {x : Tracked} {stored : Stored} (hs : Working s)
    (ht : Tracks s r.tracked? r.spec.group) (hw : Holds w r' t) (hspec : r'.spec = r.spec)
    (hready : r'.status.bind (·.phase) = some "Ready") (hx : r'.tracked? = some x)
    (h : Assigned (cleared r.tracked? r.spec.group s) r.spec.group x.id t (sent r.spec.group stored))
    (hsame : ∀ y, r.tracked? = some y → r.spec.group.mustReplace y = false → y.id = x.id) :
    Mended s.groups r w r' x (sent r.spec.group stored) := by
  have hgroups : w.vault.groups = t.groups := hw.store.groups_eq
  refine ⟨hw.kept.decode, hspec, hready, hx, hgroups ▸ h.held, h.name, h.kind, carries_sent _ _, ?_,
    @hsame, ?_, ?_⟩
  · intro id other hf hn
    rw [hgroups] at hf
    exact h.wellFormed.unique hf h.held (hn.trans h.name.symm)
  · intro y hy hr
    rw [hy] at h ht
    rw [hgroups]
    exact ht.gone hs hr h
  · intro id hid hy
    rw [hgroups, h.others id hid]
    cases htracked : r.tracked? with
    | none => rfl
    | some y =>
      cases hr : r.spec.group.mustReplace y with
      | false => rw [cleared_keeping hr]
      | true => rw [cleared_replacing hr, find?_drop, if_neg (hy y htracked)]

/-- What an apply that fails because of its pass leaves of the resource and of Vault. -/
theorem leaves_of_failed {w : World Store} (hk : Accepting w r) (hr : Proper r) (hw : Working w.vault)
    (ht : Tracks w.vault r.tracked? r.spec.group) (f : Failure) (k : Nat) {e : Error}
    {w' : World (Option Nat × Store)}
    (hfail : (w.withVault (some k, w.vault)).runOn (answerOrFail f) (apply resync now) = (.ok (.error e), w')) :
    ∃ cause state t, Leaves r.tracked? r.spec.group w.vault.clearLog state t ∧
      Holds (w'.withVault w'.vault.2) (afterFailure r now state cause) t := by
  have hts : Tracks w.vault.clearLog r.tracked? r.spec.group := ⟨ht.reported, ht.settled⟩
  obtain ⟨hsame, hquiet⟩ := run_answerOrFail f
    ((pass r.tracked? r.specChanged).run.run { group := r.spec.group }) hw.traps k
  have hends := (withstands_pass hw.clearLog hts hr.name_ne_empty f r.specChanged none).run k
  rcases hpass : ((pass r.tracked? r.specChanged).run.run { group := r.spec.group }).run (answerOrFail f)
    (some k, w.vault) with ⟨⟨res, state⟩, n, v⟩
  rw [← hsame, hpass] at hends
  rw [hpass] at hquiet
  have hstart : Accepting (w.withVault (some k, w.vault)) r := ⟨hk.kept, hk.codes⟩
  obtain ⟨_, hrun, hv, ha⟩ := hstart.applied (answerOrFail f) resync now state hr.named hr.valid hpass
  rw [hfail] at hrun
  obtain ⟨herror, rfl⟩ := Prod.mk.inj hrun
  obtain ⟨cause, rfl, _⟩ := returned_eq_error_iff.1 (Except.ok.inj herror).symm
  have hafter : Accepting w' (afterFailure r now state cause) := ha (by simp)
  refine ⟨cause, state, _, hends cause rfl, ⟨hafter.kept, hafter.codes⟩, ?_⟩
  rw [World.withVault, hv]
  exact hquiet

theorem leaves_addressable (h : Leaves tracked g s state t) : ∀ id, state.id = some id → id ≠ "" := by
  intro id hid
  cases h with
  | unknown _ _ => cases hid
  | known _ ha =>
    cases hid
    exact (ha.wellFormed.sound ha.held).addressable.1

/-- The apply after one that failed succeeds. -/
theorem mended_of_leaves {w : World Store} {cause : Sync.Error} (hr : Proper r) (hs : Working s)
    (ht : Tracks s r.tracked? r.spec.group) (h : Leaves r.tracked? r.spec.group s state t)
    (hw : Holds w (afterFailure r now state cause) t) (resync' : Nat) (now' : Time.Instant) :
    ∃ w' r' x stored, w.runOn Store.answer (apply resync' now') = (.ok (.ok (.after resync')), w') ∧
      Mended s.groups r w' r' x stored := by
  obtain ⟨action, id, g', stored, t', hnext, ha, hname, hkind, hsame⟩ := h.repaired hs ht hr.name_ne_empty
  have hpass : passOn (afterFailure r now state cause) t =
      ((.ok ⟨action, .refreshed⟩, ⟨some id, g'⟩), t') := by
    rw [passOn, tracked?_afterFailure cause (leaves_addressable h), specChanged_afterFailure hr.generation]
    exact hnext
  obtain ⟨hres, hafter⟩ := hw.runOn_apply resync' now' hr.named hr.valid hpass
  rw [returned_ready resync' (by simp) (by simp)] at hres
  have hid : id ≠ "" := (ha.wellFormed.sound ha.held).addressable.1
  exact ⟨_, _, ⟨id, some g'.name, some g'.kind⟩, _, Prod.ext hres rfl,
    mended_of_assigned hs ht (hafter (by simp)) rfl rfl (tracked?_of_id rfl hid) ha hsame⟩

/-- After an apply that failed because one of its requests did, whichever and however, the next apply
succeeds: the resource is ready and its group is stored with all that is asked for. -/
theorem failure_repaired {w : World Store} (hk : Accepting w r) (hr : Proper r) (hw : Working w.vault)
    (ht : Tracks w.vault r.tracked? r.spec.group) (f : Failure) (k : Nat) {e : Error}
    {w₁ : World (Option Nat × Store)}
    (hfail : (w.withVault (some k, w.vault)).runOn (answerOrFail f) (apply resync now) = (.ok (.error e), w₁))
    (resync' : Nat) (now' : Time.Instant) :
    ∃ w₂ r' x stored, (w₁.withVault w₁.vault.2).runOn Store.answer (apply resync' now') =
      (.ok (.ok (.after resync')), w₂) ∧ Mended w.vault.groups r w₂ r' x stored := by
  obtain ⟨cause, state, t, hleaves, hholds⟩ := leaves_of_failed hk hr hw ht f k hfail
  exact mended_of_leaves hr hw.clearLog ⟨ht.reported, ht.settled⟩ hleaves hholds resync' now'

/-! The group `a` is tracked and renamed to `b`. Vault deletes the one and makes the other, and then the
connection breaks: the group cannot be read back. -/

def reportedBefore : Status where
  id := some "old"
  phase := some "Ready"
  name := some "a"
  kind := some .internal
  observedGeneration := some 1

def resourceRenamed : Resource where
  metadata := { name := some "r1", inNamespace? := some "team", generation := some 2 }
  spec := { name := "b", policies := some ["p"] }
  status := some reportedBefore

def renamed : World Store where
  cluster := { object := .obj [
    ("metadata", .obj [("generation", .ofInt64 2), ("name", .str "r1"), ("namespace", .str "team")]),
    ("spec", .obj [("name", .str "b"), ("policies", .arr [.str "p"]), ("type", .str "internal")]),
    ("status", reportedBefore.encode)] }
  vault := Store.put { nextIds := ["new"] } "old" (made "old" { name := "a" })

def unreadable : Except Json.Mismatch (Except Error Next) × World (Option Nat × Store) :=
  (renamed.withVault (some 3, renamed.vault)).runOn (answerOrFail (.transport "reset")) (apply 300 .epoch)

theorem working_renamed : Working renamed.vault where
  wellFormed := (wellFormed_of_empty rfl).put_made (by decide) (by decide) rfl
  traps := rfl
  creates := rfl
  addressable := by
    change Addressable "new"
    decide
  unused := by decide

theorem tracks_renamed : Tracks renamed.vault resourceRenamed.tracked? resourceRenamed.spec.group where
  reported := by
    rintro x ⟨⟩
    exact ⟨made "old" { name := "a" }, "a", .internal, rfl, rfl, rfl, rfl, rfl⟩
  settled := by
    intro id stored hf _ ho
    have hne : "old" ≠ id := ho _ rfl
    unfold renamed at hf
    rw [find?_put, if_neg hne] at hf
    cases hf

theorem failure_repaired_renamed :
    unreadable.1 = .ok (.error (.sync (.read .read "new" (.transport "reset")))) ∧
    ∃ w r' x stored, (unreadable.2.withVault unreadable.2.vault.2).runOn Store.answer (apply 300 .epoch) =
      (.ok (.ok (.after 300)), w) ∧ Mended renamed.vault.groups resourceRenamed w r' x stored := by
  have heta : ∀ {α β : Type} (x : α × β) a, x.1 = a → x = (a, x.2) := by
    rintro α β x _ rfl
    rfl
  have hk : Accepting renamed resourceRenamed :=
    ⟨⟨_, rfl, rfl, rfl, Status.held_encode (some reportedBefore)⟩, rfl⟩
  have hr : Proper resourceRenamed := by
    refine ⟨?_, ?_, rfl⟩
    · change "r1" ≠ ""
      decide
    · change Group.Valid { name := "b", policies := some ["p"] }
      decide
  have hpass : (((pass resourceRenamed.tracked? resourceRenamed.specChanged).run.run
      { group := resourceRenamed.spec.group }).run (answerOrFail (.transport "reset"))
        (some 3, renamed.vault)).1 =
      (.error (.read .read "new" (.transport "reset")), ⟨some "new", resourceRenamed.spec.group⟩) := by
    decide +kernel
  have hk' : Accepting (renamed.withVault (some 3, renamed.vault)) resourceRenamed := ⟨hk.kept, hk.codes⟩
  obtain ⟨w, hrun, _⟩ := hk'.applied (answerOrFail (.transport "reset")) 300 .epoch _ hr.named hr.valid
    (heta _ _ hpass)
  have hfailed : unreadable = (_, w) := hrun
  rw [hfailed]
  exact ⟨rfl, failure_repaired hk hr working_renamed tracks_renamed (.transport "reset") 3 hrun 300 .epoch⟩

end IdentityGroups.Operator
