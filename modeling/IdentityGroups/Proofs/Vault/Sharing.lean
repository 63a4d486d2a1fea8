import Mathlib
import IdentityGroups.Proofs.Vault.Naming

/-! # Parts of a store

Which groups of a store are someone's own depends on the ids they are stored under and on their attributes.
Stores agree on a part when they hold the same of it, and a write or a deletion within a part leaves what is
not in it alone. The ids of the groups to be created are shared by all.
-/

namespace IdentityGroups.Vault.Store
variable {own other : String → Stored → Prop} {s t u : Store} {id name : String} {stored : Stored}

def Agree (own : String → Stored → Prop) (s t : Store) : Prop :=
  ∀ id stored, own id stored → (s.groups.find? id = some stored ↔ t.groups.find? id = some stored)

theorem Agree.of_groups (h : s.groups = t.groups) : Agree own s t := by
  intro id stored _
  rw [h]

theorem Agree.refl (own : String → Stored → Prop) (s : Store) : Agree own s s := .of_groups rfl

theorem Agree.symm (h : Agree own s t) : Agree own t s := fun id stored ho => (h id stored ho).symm

theorem Agree.trans (hst : Agree own s t) (htu : Agree own t u) : Agree own s u :=
  fun id stored ho => (hst id stored ho).trans (htu id stored ho)

theorem Agree.mono (h : Agree own s t) (ho : ∀ id stored, other id stored → own id stored) :
    Agree other s t := fun id stored hother => h id stored (ho id stored hother)

theorem Agree.find?_eq (h : Agree own s t) (ho : ∀ stored, own id stored) :
    s.groups.find? id = t.groups.find? id := by
  ext stored
  exact h id stored (ho stored)

theorem Agree.idForName?_eq (h : Agree own s t) (hs : WellFormed s) (ht : WellFormed t)
    (ho : ∀ id stored, nameOf? stored = some name → own id stored) : s.idForName? name = t.idForName? name := by
  ext id
  rw [hs.indexed.idForName?_eq_some_iff, ht.indexed.idForName?_eq_some_iff]
  refine exists_congr fun stored => and_congr_left fun hn => ?_
  exact h id stored (ho id stored hn)

theorem Agree.put (h : Agree own s t) (id : String) (stored : Stored) :
    Agree own (s.put id stored) (t.put id stored) := by
  intro id' stored' ho
  rw [find?_put, find?_put]
  split
  · rfl
  · exact h id' stored' ho

theorem Agree.drop (h : Agree own s t) (id : String) : Agree own (s.drop id) (t.drop id) := by
  intro id' stored' ho
  rw [find?_drop, find?_drop]
  split
  · rfl
  · exact h id' stored' ho

/-! ## What is left alone -/

theorem agree_put (hs : ∀ stored, s.groups.find? id = some stored → own id stored) (ho : own id stored) :
    Agree (fun id stored => ¬ own id stored) s (s.put id stored) := by
  intro id' stored' hn
  rw [find?_put]
  split
  · rename_i he
    subst he
    constructor
    · intro hf
      exact absurd (hs stored' hf) hn
    · intro hf
      cases hf
      exact absurd ho hn
  · rfl

theorem agree_drop (hs : ∀ stored, s.groups.find? id = some stored → own id stored) :
    Agree (fun id stored => ¬ own id stored) s (s.drop id) := by
  intro id' stored' hn
  rw [find?_drop]
  split
  · rename_i he
    subst he
    constructor
    · intro hf
      exact absurd (hs stored' hf) hn
    · intro hf
      cases hf
  · rfl

/-! ## Ids to be given -/

def upcoming (s : Store) : Nat → String
  | 0 => s.takeId.1
  | k + 1 => s.takeId.2.upcoming k

theorem upcoming_eq (hids : s.nextIds = t.nextIds) (hgen : s.generated = t.generated) (k : Nat) :
    s.upcoming k = t.upcoming k := by
  induction k generalizing s t with
  | zero =>
    simp only [upcoming, takeId, hids, hgen]
    cases t.nextIds <;> rfl
  | succ k ih =>
    simp only [upcoming]
    refine ih ?_ ?_
    · simp only [takeId, hids, hgen]
      cases t.nextIds <;> rfl
    · simp only [takeId, hids, hgen]
      cases t.nextIds <;> rfl

theorem upcoming_put (s : Store) (id : String) (stored : Stored) (k : Nat) :
    (s.put id stored).upcoming k = s.upcoming k := upcoming_eq (s := s.put id stored) (t := s) rfl rfl k

theorem upcoming_drop (s : Store) (id : String) (k : Nat) : (s.drop id).upcoming k = s.upcoming k :=
  upcoming_eq (s := s.drop id) (t := s) rfl rfl k

theorem upcoming_clearLog (s : Store) (k : Nat) : s.clearLog.upcoming k = s.upcoming k :=
  upcoming_eq (s := s.clearLog) (t := s) rfl rfl k

def handing (s : Store) (id : String) : Store := { s with nextIds := [id] }

theorem Working.handing (h : Working s) (hid : Addressable id) (hu : s.groups.find? id = none) :
    Working (s.handing id) where
  wellFormed := h.wellFormed.of_groups rfl
  traps := h.traps
  creates := h.creates
  addressable := hid
  unused := hu

end IdentityGroups.Vault.Store
