import Mathlib
import IdentityGroups.Proofs.Operator.Recovery
import IdentityGroups.Proofs.Sync.Effect

/-! # Name and kind come right within three applies

An apply reports the group as it was read. What differs from the specification in the report makes the next
apply replace the group, by one of the name that is stored or by a new one. A wrong name weighs more than a
wrong kind: a group that is taken over for its name may be of another kind, but no other group of that name
is left when it is replaced in turn. So each apply lessens the discrepancy, and one that finds none changes
nothing.
-/

namespace IdentityGroups.Operator
open Program Vault Vault.Store Sync
variable {w : World Store} {r : Resource} {t : Tracked} {s f : Store} {g' : Group} {id : String}
  {resync : Nat} {now : Time.Instant}

/-- How far the group that is shown is from the desired one in what cannot change in place. -/
def discrepancy (desired shown : Group) : Nat :=
  if shown.name ≠ desired.name then 2 else if shown.kind ≠ desired.kind then 1 else 0

theorem discrepancy_le (desired shown : Group) : discrepancy desired shown ≤ 2 := by
  unfold discrepancy
  split
  · exact le_rfl
  · split <;> omega

theorem discrepancy_eq_zero_iff {desired shown : Group} :
    discrepancy desired shown = 0 ↔ shown.name = desired.name ∧ shown.kind = desired.kind := by
  unfold discrepancy
  by_cases hn : shown.name = desired.name <;> by_cases hk : shown.kind = desired.kind <;> simp [hn, hk]

theorem discrepancy_le_one {desired shown : Group} (hn : shown.name = desired.name) :
    discrepancy desired shown ≤ 1 := by
  unfold discrepancy
  rw [if_neg (not_not.2 hn)]
  split <;> omega

theorem name_of_discrepancy {desired shown : Group} (h : discrepancy desired shown = 1) :
    shown.name = desired.name := by
  by_contra hn
  rw [discrepancy, if_pos hn] at h
  cases h

/-- The group is replaced just when there is a discrepancy. -/
theorem mustReplace_shown_iff (desired shown : Group) (id : String) :
    desired.mustReplace ⟨id, some shown.name, some shown.kind⟩ ↔ discrepancy desired shown ≠ 0 := by
  rw [ne_eq, discrepancy_eq_zero_iff, Group.mustReplace]
  simp only [Option.any_some, Bool.or_eq_true, decide_eq_true_eq]
  tauto

/-- The resource reports as ready, for the generation it has, the group under the id, which shows `g'`. -/
structure Faithful (w : World Store) (r : Resource) (id : String) (g' : Group) (s : Store) : Prop where
  holds : Holds w r s
  proper : Proper r
  wellFormed : WellFormed s
  held : ∃ stored, s.groups.find? id = some stored ∧ Shows stored r.spec.group g'
  phase : r.status.bind (·.phase) = some "Ready"
  tracked : r.tracked? = some ⟨id, some g'.name, some g'.kind⟩
  observed : r.specChanged = false

/-- The store still answers a create with an id that is not in use, unless no create is due any more. -/
def Provided (g g' : Group) (s : Store) : Prop := discrepancy g g' = 0 ∨ Working s

/-- The world reports a group of the specification with a discrepancy of `n` at most. -/
def OffByAtMost (n : Nat) (spec : Spec) (w : World Store) : Prop :=
  ∃ r id g' s, Faithful w r id g' s ∧ r.spec = spec ∧ discrepancy spec.group g' ≤ n ∧ Provided spec.group g' s

/-! ## One apply -/

/-- An apply whose pass read the group reports what it read. -/
theorem Holds.faithful {action : Action} {stored : Stored} (h : Holds w r s) (hr : Proper r)
    (hpass : passOn r s = ((.ok ⟨action, .refreshed⟩, ⟨some id, g'⟩), f)) (hf : WellFormed f)
    (hheld : f.groups.find? id = some stored) (hg : Shows stored r.spec.group g')
    (resync : Nat) (now : Time.Instant) :
    (w.runOn Store.answer (apply resync now)).1 = .ok (.ok (.after resync)) ∧
      ∃ status, Faithful (w.runOn Store.answer (apply resync now)).2 { r with status := some status } id g' f := by
  obtain ⟨hres, hafter⟩ := h.runOn_apply resync now hr.named hr.valid hpass
  rw [returned_ready resync (by simp) (by simp)] at hres
  have hid : id ≠ "" := (hf.sound hheld).addressable.1
  have hobserved : Resource.specChanged { r with status := some (concluded (announced r) now ⟨some id, g'⟩
      (.ok ⟨action, .refreshed⟩)) } = false := by
    rw [specChanged_eq_false_iff, concluded_ready now _ (by simp), generation_announced]
    rfl
  exact ⟨hres, _, hafter (by simp), hr.reporting _, hf, ⟨stored, hheld, hg⟩, rfl, tracked?_of_id rfl hid,
    hobserved⟩

/-- An apply that claimed a group leaves at most its kind to be put right. -/
theorem Holds.offByAtMost {action : Action} {n : Nat} (h : Holds w r s) (hr : Proper r)
    (hpass : passOn r s = ((.ok ⟨action, .refreshed⟩, ⟨some id, g'⟩), f))
    (hset : Settled f r.spec.group id g') (hkind : g'.kind = r.spec.group.kind ∨ Working f)
    (hn : discrepancy r.spec.group g' ≤ n) (resync : Nat) (now : Time.Instant) :
    (w.runOn Store.answer (apply resync now)).1 = .ok (.ok (.after resync)) ∧
      OffByAtMost n r.spec (w.runOn Store.answer (apply resync now)).2 := by
  obtain ⟨stored, hheld, _, _, hg⟩ := hset.held
  obtain ⟨_, _, _, _, hname⟩ := hset.attributes
  obtain ⟨hres, status, hfaithful⟩ := h.faithful hr hpass hset.wellFormed hheld hg resync now
  have hprovided : Provided r.spec.group g' f :=
    hkind.imp_left fun hkind => discrepancy_eq_zero_iff.2 ⟨hname, hkind⟩
  exact ⟨hres, _, id, g', f, hfaithful, rfl, hn, hprovided⟩

theorem passOn_keeping {former : Stored} (hs : WellFormed s) (ht : r.tracked? = some t)
    (hr : r.spec.group.mustReplace t = false) (hf : s.groups.find? t.id = some former) :
    ∃ action g' stored, passOn r s = ((.ok ⟨action, .refreshed⟩, ⟨some t.id, g'⟩),
        maintained s r.spec.group r.specChanged t.id former) ∧
      PassEffect (some t) r.specChanged r.spec.group s action t.id g'
        (maintained s r.spec.group r.specChanged t.id former) former stored := by
  have hrun : passOn r s = ((maintain t.id r.specChanged).run.run ⟨none, r.spec.group⟩).run serve s := by
    rw [passOn, ht, run_pass]
    simp only [hr, Bool.false_eq_true, if_false]
  rw [hrun]
  exact effect_keeping hs hr hf

theorem working_maintained {former : Stored} (hs : Working s) (g : Group) (specChanged : Bool)
    (hf : s.groups.find? id = some former) : Working (maintained s g specChanged id former) := by
  unfold maintained
  split
  · exact hs.put_sent hf g
  · exact hs

def Tracking (s : Store) (r : Resource) : Prop := ∀ t, r.tracked? = some t → (s.groups.find? t.id).isSome

/-- The first apply, of a resource whose status may say anything of the group. -/
theorem Holds.offByAtMost_two (h : Holds w r s) (hr : Proper r) (hs : Working s) (ht : Tracking s r) (resync : Nat)
    (now : Time.Instant) : (w.runOn Store.answer (apply resync now)).1 = .ok (.ok (.after resync)) ∧
      OffByAtMost 2 r.spec (w.runOn Store.answer (apply resync now)).2 := by
  cases htracked : r.tracked? with
  | none =>
    obtain ⟨id, g', f, action, hpass, hset, hkind⟩ := passOn_untracked hs hr.name_ne_empty htracked
    exact h.offByAtMost hr hpass hset hkind (discrepancy_le _ _) resync now
  | some t =>
    obtain ⟨former, hf⟩ := Option.isSome_iff_exists.1 (ht t htracked)
    cases hmust : r.spec.group.mustReplace t with
    | true =>
      have hid := (hs.wellFormed.sound hf).addressable
      obtain ⟨id, g', f, action, hpass, hset, hkind⟩ :=
        passOn_replacing hs hr.name_ne_empty htracked hmust hid
      exact h.offByAtMost hr hpass hset hkind (discrepancy_le _ _) resync now
    | false =>
      obtain ⟨action, g', stored, hpass, heffect⟩ := passOn_keeping hs.wellFormed htracked hmust hf
      obtain ⟨hres, status, hfaithful⟩ :=
        h.faithful hr hpass heffect.wellFormed heffect.held heffect.shows resync now
      have hprovided : Provided r.spec.group g' (maintained s r.spec.group r.specChanged t.id former) :=
        .inr (working_maintained hs r.spec.group r.specChanged hf)
      exact ⟨hres, _, t.id, g', _, hfaithful, rfl, discrepancy_le _ _, hprovided⟩

/-! ## Every further apply -/

/-- An apply of a group that is right in name and kind only reads it. -/
theorem Faithful.kept (h : Faithful w r id g' s) (hd : discrepancy r.spec.group g' = 0) (resync : Nat)
    (now : Time.Instant) : (w.runOn Store.answer (apply resync now)).1 = .ok (.ok (.after resync)) ∧
      ∃ status, Faithful (w.runOn Store.answer (apply resync now)).2 { r with status := some status } id g' s := by
  obtain ⟨former, hf, hg⟩ := h.held
  have hmust : r.spec.group.mustReplace ⟨id, some g'.name, some g'.kind⟩ = false := by
    rw [← Bool.not_eq_true, mustReplace_shown_iff]
    exact not_not.2 hd
  obtain ⟨action, g'', stored, hpass, heffect⟩ := passOn_keeping h.wellFormed h.tracked hmust hf
  have hsame : maintained s r.spec.group r.specChanged id former = s := by
    rw [h.observed]
    rfl
  rw [hsame] at hpass heffect
  cases hf.symm.trans heffect.held
  cases hg.unique heffect.shows
  exact h.holds.faithful h.proper hpass h.wellFormed hf hg resync now

/-- An apply of a group that is wrong in name or kind lessens the discrepancy. -/
theorem Faithful.mended {n : Nat} (h : Faithful w r id g' s) (hs : Working s)
    (hd : discrepancy r.spec.group g' ≠ 0) (hn : discrepancy r.spec.group g' ≤ n + 1) (resync : Nat)
    (now : Time.Instant) : (w.runOn Store.answer (apply resync now)).1 = .ok (.ok (.after resync)) ∧
      OffByAtMost n r.spec (w.runOn Store.answer (apply resync now)).2 := by
  obtain ⟨stored, hf, hg⟩ := h.held
  have hsound := hs.wellFormed.sound hf
  have hmust := (mustReplace_shown_iff r.spec.group g' id).2 hd
  have hname_ne := h.proper.name_ne_empty
  by_cases hone : discrepancy r.spec.group g' = 1
  · -- The group has the name, so that a new one is made in its place.
    obtain ⟨name, _, hstored⟩ := hsound.name
    obtain ⟨kind, hkind⟩ := hsound.kind
    obtain ⟨hshown, _⟩ := hg.eq_of_sound hsound hstored hkind
    have hname : nameOf? stored = some r.spec.group.name := by
      rw [nameOf?_eq_some_iff, hstored, ← hshown, name_of_discrepancy hone]
    obtain ⟨id', g'', f, action, hpass, hset, hkind⟩ :=
      passOn_remaking hs hname_ne h.tracked hmust hf hname
    obtain ⟨_, _, _, _, hname'⟩ := hset.attributes
    have hzero : discrepancy r.spec.group g'' = 0 := discrepancy_eq_zero_iff.2 ⟨hname', hkind⟩
    exact h.holds.offByAtMost h.proper hpass hset (.inl hkind) (by omega) resync now
  · obtain ⟨id', g'', f, action, hpass, hset, hkind⟩ :=
      passOn_replacing hs hname_ne h.tracked hmust hsound.addressable
    obtain ⟨_, _, _, _, hname'⟩ := hset.attributes
    have hle : discrepancy r.spec.group g'' ≤ 1 := discrepancy_le_one hname'
    exact h.holds.offByAtMost h.proper hpass hset hkind (by omega) resync now

theorem OffByAtMost.step {n : Nat} {spec : Spec} (h : OffByAtMost (n + 1) spec w) (resync : Nat) (now : Time.Instant) :
    (w.runOn Store.answer (apply resync now)).1 = .ok (.ok (.after resync)) ∧
      OffByAtMost n spec (w.runOn Store.answer (apply resync now)).2 := by
  obtain ⟨r, id, g', s, hfaithful, rfl, hn, hprovided⟩ := h
  by_cases hd : discrepancy r.spec.group g' = 0
  · obtain ⟨hres, status, hkept⟩ := hfaithful.kept hd resync now
    exact ⟨hres, _, id, g', s, hkept, rfl, by rw [hd]; exact Nat.zero_le n, .inl hd⟩
  · exact hfaithful.mended (hprovided.resolve_left hd) hd hn resync now

/-- Where nothing is wrong an apply changes no group. -/
theorem OffByAtMost.stays {spec : Spec} (h : OffByAtMost 0 spec w) (resync : Nat) (now : Time.Instant) :
    (w.runOn Store.answer (apply resync now)).1 = .ok (.ok (.after resync)) ∧
      OffByAtMost 0 spec (w.runOn Store.answer (apply resync now)).2 ∧
      (w.runOn Store.answer (apply resync now)).2.vault.groups = w.vault.groups := by
  obtain ⟨r, id, g', s, hfaithful, rfl, hn, _⟩ := h
  have hd : discrepancy r.spec.group g' = 0 := Nat.le_zero.1 hn
  obtain ⟨hres, status, hkept⟩ := hfaithful.kept hd resync now
  refine ⟨hres, ⟨_, id, g', s, hkept, rfl, hn, .inl hd⟩, ?_⟩
  rw [hkept.holds.store.groups_eq, hfaithful.holds.store.groups_eq]

theorem OffByAtMost.restored {spec : Spec} (h : OffByAtMost 0 spec w) : Restored w spec.group := by
  obtain ⟨r, id, g', s, hfaithful, rfl, hn, _⟩ := h
  obtain ⟨hname, hkind⟩ := discrepancy_eq_zero_iff.1 (Nat.le_zero.1 hn)
  obtain ⟨stored, hf, hg⟩ := hfaithful.held
  have hsound := hfaithful.wellFormed.sound hf
  obtain ⟨name, _, hstored⟩ := hsound.name
  obtain ⟨kind, hstoredKind⟩ := hsound.kind
  obtain ⟨rfl, rfl⟩ := hg.eq_of_sound hsound hstored hstoredKind
  refine ⟨r, _, stored, hfaithful.holds.kept.decode, hfaithful.phase, hfaithful.tracked, ?_, ?_, ?_⟩
  · rw [hfaithful.holds.store.groups_eq]
    exact hf
  · rw [hstored, hname]
  · rw [hstoredKind, hkind]

/-! ## The run of applies -/

theorem offByAtMost_applied (times : Nat → Time.Instant)
    (h : OffByAtMost 2 r.spec (applied resync times w 1)) (n : Nat) :
    OffByAtMost (2 - n) r.spec (applied resync times w (n + 1)) := by
  induction n with
  | zero => exact h
  | succ n ih =>
    cases hn : 2 - n with
    | zero =>
      rw [hn] at ih
      have hzero : 2 - (n + 1) = 0 := by omega
      rw [hzero]
      exact (ih.stays resync (times (n + 1))).2.1
    | succ k =>
      rw [hn] at ih
      have hk : 2 - (n + 1) = k := by omega
      rw [hk]
      exact (ih.step resync (times (n + 1))).2

/-- Whatever the status says of a group that is stored, or if it tracks none, every apply succeeds. After
three the group that is tracked is stored with the name and the kind of the specification, and further
applies keep it and change no group. -/
theorem name_and_kind_converge (h : Accepting w r) (hr : Proper r) (hw : Working w.vault)
    (ht : Tracking w.vault r) (resync : Nat) (times : Nat → Time.Instant) :
    (∀ n, ((applied resync times w n).runOn Store.answer (apply resync (times n))).1 =
      .ok (.ok (.after resync))) ∧
    ∀ n ≥ 3, Restored (applied resync times w n) r.spec.group ∧
      (applied resync times w n).vault.groups = (applied resync times w 3).vault.groups := by
  have hholds : Holds w r w.vault.clearLog := ⟨h, hw.traps, rfl⟩
  obtain ⟨hfirst, htwo⟩ := hholds.offByAtMost_two hr hw.clearLog ht resync (times 0)
  have hoff := offByAtMost_applied times htwo
  have hzero : ∀ n ≥ 3, OffByAtMost 0 r.spec (applied resync times w n) := by
    intro n hn
    obtain ⟨k, rfl⟩ := Nat.exists_eq_add_of_le' hn
    have hk := hoff (k + 2)
    have : 2 - (k + 2) = 0 := by omega
    rwa [this] at hk
  refine ⟨?_, ?_⟩
  · intro n
    cases n with
    | zero => exact hfirst
    | succ n =>
      have hn := hoff n
      cases hk : 2 - n with
      | zero =>
        rw [hk] at hn
        exact (hn.stays resync (times (n + 1))).1
      | succ k =>
        rw [hk] at hn
        exact (hn.step resync (times (n + 1))).1
  · intro n hn
    refine ⟨(hzero n hn).restored, ?_⟩
    induction n, hn using Nat.le_induction with
    | base => rfl
    | succ n hn ih => exact ((hzero n hn).stays resync (times n)).2.2.trans ih

/-! The status says that `old` has the name `g1`. It was renamed since, and `g1` is the name of an external group:
the first apply finds the one, the second takes over the other, and the third makes a new group. -/

def renamedSince : Store :=
  (Store.put { nextIds := ["new"] } "old" (made "old" { name := "x" })).put "pre"
    (made "pre" { name := "g1", kind := .external })

def stale : World Store := { gone 1 with vault := renamedSince }

theorem working_renamedSince : Working renamedSince where
  wellFormed :=
    ((wellFormed_of_empty rfl).put_made (by decide) (by decide) rfl).put_made (by decide) (by decide) (by decide)
  traps := rfl
  creates := rfl
  addressable := by
    change Addressable "new"
    decide
  unused := by decide

theorem name_and_kind_converge_stale :
    (∀ n, ((applied 300 (fun _ => .epoch) stale n).runOn Store.answer (apply 300 .epoch)).1 =
      .ok (.ok (.after 300))) ∧
    ∀ n ≥ 3, Restored (applied 300 (fun _ => .epoch) stale n) { name := "g1" } ∧
      (applied 300 (fun _ => .epoch) stale n).vault.groups =
        (applied 300 (fun _ => .epoch) stale 3).vault.groups := by
  have hlost := lost_gone 1
  have haccepting : Accepting stale (resourceGone 1) := ⟨hlost.kept, hlost.accepting⟩
  have htracking : Tracking stale.vault (resourceGone 1) := by
    rintro t ⟨⟩
    decide
  exact name_and_kind_converge haccepting hlost.proper working_renamedSince htracking 300 fun _ => .epoch

end IdentityGroups.Operator
