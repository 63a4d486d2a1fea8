import Mathlib
import IdentityGroups.Proofs.Operator.OnWorld
import IdentityGroups.Proofs.Resource.RoundTrip

/-! # Groups that vanish

A tracked group is deleted behind the operator's back. A pass that replaces or that only reads finds out,
and within three applies there is a group again with the name and the kind asked for. A pass that sends
attributes does not find out: the write under the unknown id fails, the report of the failure keeps the id
and clears the generation observed, and so the next pass sends attributes again, and every pass after it.
-/

namespace IdentityGroups.Operator
open Program Vault Vault.Store Sync
variable {w : World Store} {r : Resource} {t : Tracked} {s f : Store} {g' : Group} {id : String}
  {resync : Nat} {now : Time.Instant}

/-! ## Passes over a resource -/

theorem passOn_untracked (hs : Working s) (hn : r.spec.group.name ≠ "") (ht : r.tracked? = none) :
    ∃ id g' f action, passOn r s = ((.ok ⟨action, .refreshed⟩, ⟨some id, g'⟩), f) ∧
      Settled f r.spec.group id g' ∧ (g'.kind = r.spec.group.kind ∨ Working f) := by
  obtain ⟨id, g', f, hc, hkind⟩ := exists_claims hs hn
  obtain ⟨action, hrun⟩ := hc.run none
  refine ⟨id, g', f, action, ?_, hc.settled, hkind⟩
  rw [passOn, ht, run_pass]
  exact hrun

theorem run_replacing (ht : r.tracked? = some t) (hr : r.spec.group.mustReplace t) (hid : Addressable t.id) :
    passOn r s = ((claim (some t.id)).run.run ⟨none, r.spec.group⟩).run serve (s.drop t.id) := by
  rw [passOn, ht, run_pass]
  simp only [if_pos hr]
  rw [run_call, serve_delete hid]

theorem passOn_replacing (hs : Working s) (hn : r.spec.group.name ≠ "") (ht : r.tracked? = some t)
    (hr : r.spec.group.mustReplace t) (hid : Addressable t.id) :
    ∃ id g' f action, passOn r s = ((.ok ⟨action, .refreshed⟩, ⟨some id, g'⟩), f) ∧
      Settled f r.spec.group id g' ∧ (g'.kind = r.spec.group.kind ∨ Working f) := by
  obtain ⟨id, g', f, hc, hkind⟩ := exists_claims (hs.drop t.id) hn
  obtain ⟨action, hrun⟩ := hc.run (some t.id)
  exact ⟨id, g', f, action, (run_replacing ht hr hid).trans hrun, hc.settled, hkind⟩

/-- A group of the name that is to be replaced is made anew. -/
theorem passOn_remaking {stored : Stored} (hs : Working s) (hn : r.spec.group.name ≠ "")
    (ht : r.tracked? = some t) (hr : r.spec.group.mustReplace t) (hf : s.groups.find? t.id = some stored)
    (hname : nameOf? stored = some r.spec.group.name) :
    ∃ id g' f action, passOn r s = ((.ok ⟨action, .refreshed⟩, ⟨some id, g'⟩), f) ∧
      Settled f r.spec.group id g' ∧ g'.kind = r.spec.group.kind := by
  -- Names are unique, so that once the group is deleted none is left to adopt.
  have hfree : (s.drop t.id).idForName? r.spec.group.name = none := by
    refine idForName?_eq_none_iff.2 fun id' stored' h' hn' => ?_
    rw [find?_drop] at h'
    split at h'
    · cases h'
    · rename_i hne
      exact hne (hs.wellFormed.unique hf h' (hname.trans hn'.symm))
  obtain ⟨g', f, hc, hkind⟩ := claims_new (hs.drop t.id) hn hfree
  obtain ⟨action, hrun⟩ := hc.run (some t.id)
  have hid := (hs.wellFormed.sound hf).addressable
  exact ⟨_, g', f, action, (run_replacing ht hr hid).trans hrun, hc.settled, hkind⟩

/-- A read finds that the group is gone. -/
theorem passOn_reading (ht : r.tracked? = some t) (hr : r.spec.group.mustReplace t = false)
    (hc : r.specChanged = false) (hid : Addressable t.id) (hf : s.groups.find? t.id = none) :
    passOn r s = ((.ok ⟨.refreshed, .gone⟩, ⟨none, r.spec.group⟩), s) := by
  rw [passOn, ht, hc, run_pass]
  simp only [hr, Bool.false_eq_true, if_false]
  rw [run_maintain]
  simp only [Bool.false_eq_true, if_false]
  rw [run_bind, serve_reading hid, hf]
  rfl

/-- A write of attributes finds only that the id is not known. -/
theorem passOn_updating (ht : r.tracked? = some t) (hr : r.spec.group.mustReplace t = false)
    (hc : r.specChanged = true) (hid : Addressable t.id) (hf : s.groups.find? t.id = none) :
    passOn r s = ((.error (.write .update t.id (.api 400 ["group not found"])),
      ⟨some t.id, r.spec.group⟩), s) := by
  rw [passOn, ht, hc, run_pass]
  simp only [hr, Bool.false_eq_true, if_false]
  rw [run_maintain]
  simp only [if_true]
  rw [run_bind, serve_updating_lost hid hf]
  rfl

/-! ## Worlds after an apply -/

theorem tracked?_of_id {status : Status} (h : status.id = some id) (hne : id ≠ "") :
    status.tracked? = some ⟨id, status.name, status.kind⟩ := by
  simp [Status.tracked?, h, hne]

/-- The resource reports as ready a stored group with the name and the kind of `g`. -/
def Restored (w : World Store) (g : Group) : Prop :=
  ∃ r t stored, Resource.decode w.cluster.object = .ok r ∧ r.status.bind (·.phase) = some "Ready" ∧
    r.tracked? = some t ∧ w.vault.groups.find? t.id = some stored ∧
    stored.find? "name" = some (.str g.name) ∧ stored.find? "type" = some (.str g.kind.word)

structure Proper (r : Resource) : Prop where
  named : r.anyName ≠ ""
  valid : r.spec.group.Valid
  generation : r.generation.isSome

theorem Proper.name_ne_empty (h : Proper r) : r.spec.group.name ≠ "" := h.valid.name_ne_empty

theorem Proper.reporting (h : Proper r) (status : Status) : Proper { r with status := some status } :=
  ⟨h.named, h.valid, h.generation⟩

/-- The resource reports as ready the group `g'`, which is settled in the store under the id. -/
structure Claimed (w : World Store) (r : Resource) (id : String) (g' : Group) (f : Store) : Prop where
  holds : Holds w r f
  proper : Proper r
  settled : Settled f r.spec.group id g'
  phase : r.status.bind (·.phase) = some "Ready"
  tracked : r.tracked? = some ⟨id, some g'.name, some g'.kind⟩

theorem Holds.claimed {action : Action} (h : Holds w r s) (hr : Proper r)
    (hpass : passOn r s = ((.ok ⟨action, .refreshed⟩, ⟨some id, g'⟩), f))
    (hset : Settled f r.spec.group id g') : ∃ status,
      Claimed (w.runOn Store.answer (apply resync now)).2 { r with status := some status } id g' f := by
  have hid : id ≠ "" := by
    obtain ⟨stored, hf, _⟩ := hset.attributes
    exact (hset.wellFormed.sound hf).addressable.1
  have hafter := (h.runOn_apply resync now hr.named hr.valid hpass).2 (by simp)
  exact ⟨_, hafter, hr.reporting _, hset, rfl, tracked?_of_id rfl hid⟩

theorem Claimed.restored (h : Claimed w r id g' f) (hk : g'.kind = r.spec.group.kind) :
    Restored w r.spec.group := by
  obtain ⟨stored, hf, hname, htype, _⟩ := h.settled.attributes
  refine ⟨r, _, stored, h.holds.kept.decode, h.phase, h.tracked, ?_, hname, hk ▸ htype⟩
  rw [h.holds.store.groups_eq]
  exact hf

theorem Claimed.replaced (h : Claimed w r id g' f) (hf : Working f) (hk : g'.kind ≠ r.spec.group.kind) :
    Restored (w.runOn Store.answer (apply resync now)).2 r.spec.group := by
  have hr : r.spec.group.mustReplace ⟨id, some g'.name, some g'.kind⟩ := by
    simp [Group.mustReplace, hk]
  obtain ⟨stored, hheld, hname, _⟩ := h.settled.held
  obtain ⟨id', g'', f', action, hpass, hset, hkind⟩ :=
    passOn_remaking hf h.proper.name_ne_empty h.tracked hr hheld hname
  obtain ⟨status, hc⟩ := h.holds.claimed h.proper hpass hset
  exact hc.restored hkind

def applied (resync : Nat) (times : Nat → Time.Instant) (w : World Store) : Nat → World Store
  | 0 => w
  | n + 1 => ((applied resync times w n).runOn Store.answer (apply resync (times n))).2

variable {times : Nat → Time.Instant}

theorem Claimed.restored_within {n : Nat} (h : Claimed (applied resync times w n) r id g' f)
    (hk : g'.kind = r.spec.group.kind ∨ Working f) :
    ∃ k ≤ n + 1, Restored (applied resync times w k) r.spec.group := by
  by_cases hkind : g'.kind = r.spec.group.kind
  · exact ⟨n, Nat.le_succ n, h.restored hkind⟩
  · have hf := hk.resolve_left hkind
    exact ⟨n + 1, le_rfl, h.replaced hf hkind⟩

/-! ## Lost groups -/

/-- The resource tracks a group that the store does not hold. -/
structure Lost (w : World Store) (r : Resource) (t : Tracked) : Prop where
  kept : Resource.Kept w.cluster.object r
  accepting : w.cluster.codes = []
  proper : Proper r
  working : Working w.vault
  tracked : r.tracked? = some t
  addressable : Addressable t.id
  missing : w.vault.groups.find? t.id = none

theorem Lost.holds (h : Lost w r t) : Holds w r w.vault.clearLog :=
  ⟨⟨h.kept, h.accepting⟩, h.working.traps, rfl⟩

theorem restored_replacing (h : Lost w r t) (hr : r.spec.group.mustReplace t) :
    ∃ n ≤ 2, Restored (applied resync times w n) r.spec.group := by
  obtain ⟨id, g', f, action, hpass, hset, hk⟩ :=
    passOn_replacing h.working.clearLog h.proper.name_ne_empty h.tracked hr h.addressable
  obtain ⟨status, hc⟩ := h.holds.claimed h.proper hpass hset
  have hc' : Claimed (applied resync times w 1) _ id g' f := hc
  exact hc'.restored_within hk

theorem restored_reading (h : Lost w r t) (hr : r.spec.group.mustReplace t = false)
    (hc : r.specChanged = false) : ∃ n ≤ 3, Restored (applied resync times w n) r.spec.group := by
  have hdrift : Holds (applied resync times w 1) _ w.vault.clearLog :=
    h.holds.applied h.proper.named h.proper.valid (.inl (by rw [h.tracked]; rfl))
      (passOn_reading h.tracked hr hc h.addressable h.missing) (by simp)
  obtain ⟨id, g', f, action, hpass, hset, hk⟩ := passOn_untracked
    (r := { r with status := some (concluded r (times 0) ⟨none, r.spec.group⟩ (.ok ⟨.refreshed, .gone⟩)) })
    h.working.clearLog h.proper.name_ne_empty rfl
  obtain ⟨status, hc⟩ := hdrift.claimed (h.proper.reporting _) hpass hset
  have hc' : Claimed (applied resync times w 2) _ id g' f := hc
  exact hc'.restored_within hk

/-- The next pass sends attributes to an id that the store does not know. -/
structure Stuck (w : World Store) (r : Resource) (t : Tracked) (s : Store) : Prop where
  holds : Holds w r s
  proper : Proper r
  tracked : r.tracked? = some t
  kept : r.spec.group.mustReplace t = false
  changed : r.specChanged = true
  addressable : Addressable t.id
  missing : s.groups.find? t.id = none

/-- The failure keeps the id and clears the generation observed. -/
theorem Stuck.apply (h : Stuck w r t s) : ∃ status : Status,
    Stuck (w.runOn Store.answer (apply resync now)).2 { r with status := some status }
      ⟨t.id, some r.spec.group.name, some r.spec.group.kind⟩ s := by
  have hpass := passOn_updating h.tracked h.kept h.changed h.addressable h.missing
  refine ⟨_, h.holds.applied h.proper.named h.proper.valid (.inl (by rw [h.tracked]; rfl)) hpass (by simp),
    h.proper.reporting _, tracked?_of_id rfl h.addressable.1, ?_, ?_, h.addressable, h.missing⟩
  · simp [Group.mustReplace]
  · obtain ⟨generation, hg⟩ := Option.isSome_iff_exists.1 h.proper.generation
    have hg' : r.metadata.generation = some generation := hg
    simp [Resource.specChanged, Resource.generation, concluded, Status.failed, hg']

theorem Stuck.applied (h : Stuck w r t s) (resync : Nat) (times : Nat → Time.Instant) (n : Nat) : ∃ r' t',
    Stuck (applied resync times w n) r' t' s := by
  induction n with
  | zero => exact ⟨r, t, h⟩
  | succ n ih =>
    obtain ⟨r', t', h'⟩ := ih
    obtain ⟨status, h''⟩ := h'.apply
    exact ⟨_, _, h''⟩

theorem Stuck.not_restored (h : Stuck w r t s) (g : Group) : ¬ Restored w g := by
  rintro ⟨r', t', stored, hd, _, ht, hf, _⟩
  cases hd.symm.trans h.holds.kept.decode
  cases ht.symm.trans h.tracked
  rw [h.holds.store.groups_eq, h.missing] at hf
  cases hf

theorem Lost.stuck (h : Lost w r t) (hr : r.spec.group.mustReplace t = false)
    (hc : r.specChanged = true) : Stuck w r t w.vault.clearLog :=
  ⟨h.holds, h.proper, h.tracked, hr, hc, h.addressable, h.missing⟩

theorem specChanged_eq_false_iff :
    r.specChanged = false ↔ r.status.bind (·.observedGeneration) = r.generation := by
  simp [Resource.specChanged]

/-- A lost group is made again, within three applies, just when the next pass replaces it or only reads
it; otherwise no apply ever makes it again. -/
theorem lost_restored_iff (h : Lost w r t) (resync : Nat) (times : Nat → Time.Instant) :
    ((∃ n ≤ 3, Restored (applied resync times w n) r.spec.group) ↔
      (r.spec.group.mustReplace t ∨ r.status.bind (·.observedGeneration) = r.generation)) ∧
    (¬ (r.spec.group.mustReplace t ∨ r.status.bind (·.observedGeneration) = r.generation) →
      ∀ n, ¬ Restored (applied resync times w n) r.spec.group) := by
  have hnever : ¬ (r.spec.group.mustReplace t ∨ r.status.bind (·.observedGeneration) = r.generation) →
      ∀ n, ¬ Restored (applied resync times w n) r.spec.group := by
    intro hcond n
    rw [not_or, ← specChanged_eq_false_iff] at hcond
    have hstuck := h.stuck (by simpa using hcond.1) (by simpa using hcond.2)
    obtain ⟨r', t', h'⟩ := hstuck.applied resync times n
    exact h'.not_restored _
  refine ⟨⟨fun hrestored => ?_, fun hcond => ?_⟩, hnever⟩
  · by_contra hcond
    obtain ⟨n, _, hn⟩ := hrestored
    exact hnever hcond n hn
  · cases hr : r.spec.group.mustReplace t with
    | true =>
      obtain ⟨n, hn, hrestored⟩ := restored_replacing h hr
      exact ⟨n, by omega, hrestored⟩
    | false =>
      rcases hcond with hcond | hcond
      · rw [hr] at hcond
        cases hcond
      · exact restored_reading h hr (specChanged_eq_false_iff.2 hcond)

/-! A resource of generation 2 tracks `old`, of which Vault knows nothing, and reports that it observed some
generation. -/

def reportedGone (observed : Int64) : Status where
  id := some "old"
  phase := some "Ready"
  name := some "g1"
  kind := some .internal
  observedGeneration := some observed

def resourceGone (observed : Int64) : Resource where
  metadata := { name := some "r1", inNamespace? := some "team", generation := some 2 }
  spec := { name := "g1" }
  status := some (reportedGone observed)

def gone (observed : Int64) : World Store where
  cluster := { object := .obj [
    ("metadata", .obj [("generation", .ofInt64 2), ("name", .str "r1"), ("namespace", .str "team")]),
    ("spec", .obj [("name", .str "g1"), ("type", .str "internal")]),
    ("status", (reportedGone observed).encode)] }
  vault := { nextIds := ["new"] }

theorem lost_gone (observed : Int64) :
    Lost (gone observed) (resourceGone observed) ⟨"old", some "g1", some .internal⟩ where
  kept := ⟨_, rfl, rfl, rfl, Status.held_encode (some (reportedGone observed))⟩
  accepting := rfl
  proper := by
    refine ⟨?_, ?_, rfl⟩
    · change "r1" ≠ ""
      decide
    · change Group.Valid { name := "g1" }
      decide
  working := by
    refine ⟨wellFormed_of_empty rfl, rfl, rfl, ?_, rfl⟩
    change Addressable "new"
    decide
  tracked := rfl
  addressable := by decide
  missing := rfl

/-- When generation 2 was observed the group is made again. -/
theorem gone_observed_restored :
    ∃ n ≤ 3, Restored (applied 300 (fun _ => .epoch) (gone 2) n) { name := "g1" } :=
  (lost_restored_iff (lost_gone 2) 300 fun _ => .epoch).1.2 (.inr rfl)

/-- When generation 1 was observed it is not, and never will be. -/
theorem gone_unobserved_not_restored :
    ¬ ∃ n ≤ 3, Restored (applied 300 (fun _ => .epoch) (gone 1) n) { name := "g1" } := by
  have hchanged : (resourceGone 1).specChanged = true := by decide
  have hstuck := (lost_gone 1).stuck (by decide) hchanged
  rintro ⟨n, _, hn⟩
  obtain ⟨r', t', h'⟩ := hstuck.applied 300 (fun _ => .epoch) n
  exact h'.not_restored _ hn

end IdentityGroups.Operator
