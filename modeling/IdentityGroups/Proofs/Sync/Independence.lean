import Mathlib
import IdentityGroups.Proofs.Program.Interleaving
import IdentityGroups.Proofs.Sync.Claims
import IdentityGroups.Proofs.Vault.Sharing

/-! # Passes over different groups

Passes over groups of different names share a store: they delete, adopt and create between each other's
requests, and take ids from one supply. What a pass owns is the group it tracks and the group of its name.
Every request of a pass keeps what the passes were promised of the store, and leaves alone what the others
own.
-/

namespace IdentityGroups.Sync
open Program Vault Vault.Store
variable {ι : Type} {s : Store} {id : String} {stored : Stored} {m : Nat} {i j : ι}

structure Task where
  tracked : Option Tracked
  specChanged : Bool
  start : Option String
  group : Group

namespace Task

def program (k : Task) : Exchange (Except Error Report × GroupState) :=
  (pass k.tracked k.specChanged).run.run ⟨k.start, k.group⟩

/-- What a pass is about: the group it tracks, whatever is stored of it, and the group of its name. -/
def Owns (k : Task) (id : String) (stored : Stored) : Prop :=
  (∃ x, k.tracked = some x ∧ x.id = id) ∨ nameOf? stored = some k.group.name

theorem Owns.sent {k : Task} (h : k.Owns id stored) (g : Group) : k.Owns id (sent g stored) := by
  rcases h with h | h
  · exact .inl h
  · exact .inr ((nameOf?_sent g stored).trans h)

end Task

/-- Passes over valid groups of different names, of which none tracks what another one tracks or is named. -/
structure Independent (task : ι → Task) (s : Store) : Prop where
  valid (i : ι) : (task i).group.Valid
  names {i j : ι} (h : (task i).group.name = (task j).group.name) : i = j
  tracked {i : ι} {x : Tracked} (h : (task i).tracked = some x) : Addressable x.id
  ids {i j : ι} {x y : Tracked} (hi : (task i).tracked = some x) (hj : (task j).tracked = some y)
    (h : x.id = y.id) : i = j
  apart {i j : ι} {x : Tracked} {stored : Stored} (hi : (task i).tracked = some x)
    (hf : s.groups.find? x.id = some stored) (hn : nameOf? stored = some (task j).group.name) : i = j

/-- As many ids as there are passes, all different, are neither stored nor tracked. -/
structure Supplied (task : ι → Task) (s : Store) : Prop where
  addressable {k : Nat} (hk : (k : ℕ∞) < ENat.card ι) : Addressable (s.upcoming k)
  unused {k : Nat} (hk : (k : ℕ∞) < ENat.card ι) : s.groups.find? (s.upcoming k) = none
  untracked {k : Nat} (hk : (k : ℕ∞) < ENat.card ι) {i : ι} {x : Tracked} (hx : (task i).tracked = some x) :
    x.id ≠ s.upcoming k
  distinct {k l : Nat} (hk : (k : ℕ∞) < ENat.card ι) (hl : (l : ℕ∞) < ENat.card ι)
    (h : s.upcoming k = s.upcoming l) : k = l

variable {task : ι → Task} {s₀ : Store}

theorem zero_lt_card (i : ι) : ((0 : Nat) : ℕ∞) < ENat.card ι := by
  have : Nonempty ι := ⟨i⟩
  exact ENat.card_pos

/-! ## What every request keeps -/

/-- Of the ids laid out in `s₀`, `m` were given, each to the group of a pass that had none. -/
structure Given (task : ι → Task) (s₀ s : Store) (m : Nat) : Prop where
  le : (m : ℕ∞) ≤ ENat.card ι
  upcoming (k : Nat) : s.upcoming k = s₀.upcoming (m + k)
  held {k : Nat} (hk : k < m) : ∃ i, s.idForName? (task i).group.name = some (s₀.upcoming k)
  unused {k : Nat} (hm : m ≤ k) (hk : (k : ℕ∞) < ENat.card ι) : s.groups.find? (s₀.upcoming k) = none

structure Shared (task : ι → Task) (s₀ s : Store) : Prop where
  wellFormed : WellFormed s
  creates : s.discardsCreates = false
  apart {i j : ι} {x : Tracked} {stored : Stored} (hi : (task i).tracked = some x)
    (hf : s.groups.find? x.id = some stored) (hn : nameOf? stored = some (task j).group.name) : i = j
  given : ∃ m, Given task s₀ s m

theorem shared_start (hs : WellFormed s₀) (hd : s₀.discardsCreates = false) (hi : Independent task s₀)
    (hids : Supplied task s₀) : Shared task s₀ s₀ := by
  refine ⟨hs, hd, hi.apart, 0, ⟨?_, fun k => ?_, fun hk => ?_, fun _ hk => hids.unused hk⟩⟩
  · exact zero_le
  · rw [Nat.zero_add]
  · exact absurd hk (Nat.not_lt_zero _)

theorem Given.lt_card (h : Given task s₀ s m) {k : Nat} (hk : k < m) : (k : ℕ∞) < ENat.card ι := by
  have hkm : (k : ℕ∞) < m := by exact_mod_cast hk
  exact lt_of_lt_of_le hkm h.le

/-- There is an id left for a pass whose name is free. -/
theorem Given.lt (h : Given task s₀ s m) (hids : Supplied task s₀)
    (hfree : s.idForName? (task i).group.name = none) : (m : ℕ∞) < ENat.card ι := by
  choose holder hholder using fun k : Fin m => h.held k.isLt
  -- Each id that was given is held by a pass of its own, and none of them by the pass that has none.
  have hinj : Function.Injective holder := by
    intro k l hkl
    have hid := hholder k
    rw [hkl, hholder l, Option.some_inj] at hid
    exact Fin.ext (hids.distinct (h.lt_card k.isLt) (h.lt_card l.isLt) hid.symm)
  have hnot : i ∉ Set.range holder := by
    rintro ⟨k, rfl⟩
    cases hfree.symm.trans (hholder k)
  have hcard := ENat.card_le_card_of_injective (Fin.cons_injective_iff.2 ⟨hnot, hinj⟩)
  rw [ENat.card_eq_coe_fintype_card, Fintype.card_fin] at hcard
  exact lt_of_lt_of_le (by exact_mod_cast Nat.lt_succ_self m) hcard

theorem Shared.put_sent (h : Shared task s₀ s) (hf : s.groups.find? id = some stored) (g : Group) :
    Shared task s₀ (s.put id (sent g stored)) := by
  obtain ⟨m, hm⟩ := h.given
  refine ⟨h.wellFormed.put_sent hf g, h.creates, fun {i j x st} hi hx hn => ?_, m, hm.le, ?_, ?_, ?_⟩
  · rw [find?_put] at hx
    split at hx
    · rename_i he
      cases hx
      rw [nameOf?_sent] at hn
      exact h.apart hi (he ▸ hf) hn
    · exact h.apart hi hx hn
  · exact fun k => (upcoming_put s id _ k).trans (hm.upcoming k)
  · intro k hk
    obtain ⟨i, hi⟩ := hm.held hk
    exact ⟨i, (h.wellFormed.indexed.idForName?_put_sent hf g _).trans hi⟩
  · intro k hmk hk
    have hu := hm.unused hmk hk
    have hne : id ≠ s₀.upcoming k := by
      rintro rfl
      cases hf.symm.trans hu
    rw [find?_put, if_neg hne, hu]

theorem Shared.drop (h : Shared task s₀ s) (hids : Supplied task s₀) {x : Tracked}
    (hx : (task i).tracked = some x) : Shared task s₀ (s.drop x.id) := by
  obtain ⟨m, hm⟩ := h.given
  have hw := h.wellFormed.drop x.id
  refine ⟨hw, h.creates, fun {i j y st} hi hf hn => ?_, m, hm.le, ?_, ?_, ?_⟩
  · rw [find?_drop] at hf
    split at hf
    · cases hf
    · exact h.apart hi hf hn
  · exact fun k => (upcoming_drop s x.id k).trans (hm.upcoming k)
  · intro k hk
    obtain ⟨i, hi⟩ := hm.held hk
    obtain ⟨stored, hf, hn⟩ := h.wellFormed.indexed.idForName?_eq_some_iff.1 hi
    refine ⟨i, hw.indexed.idForName?_eq_some_iff.2 ⟨stored, ?_, hn⟩⟩
    rw [find?_drop, if_neg (hids.untracked (hm.lt_card hk) hx), hf]
  · intro k hmk hk
    rw [find?_drop, hm.unused hmk hk, ite_self]

/-- The next id, if a pass is to make its group. -/
theorem Shared.next (h : Shared task s₀ s) (hids : Supplied task s₀)
    (hfree : s.idForName? (task i).group.name = none) : Addressable s.takeId.1 ∧
      s.groups.find? s.takeId.1 = none ∧ s₀.groups.find? s.takeId.1 = none ∧
        ∀ j x, (task j).tracked = some x → x.id ≠ s.takeId.1 := by
  obtain ⟨m, hm⟩ := h.given
  have hlt := hm.lt hids hfree
  have hnext : s.takeId.1 = s₀.upcoming m := hm.upcoming 0
  rw [hnext]
  exact ⟨hids.addressable hlt, hm.unused le_rfl hlt, hids.unused hlt, fun j x hx => hids.untracked hlt hx⟩

theorem Shared.put_made (h : Shared task s₀ s) (hi : Independent task s₀) (hids : Supplied task s₀)
    (hfree : s.idForName? (task i).group.name = none) :
    Shared task s₀ (s.takeId.2.put s.takeId.1 (made s.takeId.1 (task i).group)) := by
  obtain ⟨m, hm⟩ := h.given
  have hlt := hm.lt hids hfree
  have hnext : s.takeId.1 = s₀.upcoming m := hm.upcoming 0
  obtain ⟨hid, hunused, _, huntracked⟩ := h.next hids hfree
  have hs : WellFormed s.takeId.2 := h.wellFormed.of_groups (takeId_groups s)
  have hfree' : s.takeId.2.idForName? (task i).group.name = none := by
    rwa [Store.idForName?, takeId_groups]
  have hw := hs.put_made hid (hi.valid i).name_ne_empty hfree'
  have hother : ∀ other, s.takeId.1 ≠ other →
      (s.takeId.2.put s.takeId.1 (made s.takeId.1 (task i).group)).groups.find? other =
        s.groups.find? other := by
    intro other hne
    rw [find?_put, if_neg hne, takeId_groups]
  refine ⟨hw, ?_, fun {j l x st} hj hf hn => ?_, m + 1, ?_, ?_, ?_, ?_⟩
  · exact (takeId_discardsCreates s).trans h.creates
  · rw [hother _ (huntracked j x hj).symm] at hf
    exact h.apart hj hf hn
  · exact Order.add_one_le_of_lt hlt
  · intro k
    calc (s.takeId.2.put s.takeId.1 (made s.takeId.1 (task i).group)).upcoming k
        = s.upcoming (k + 1) := upcoming_put _ _ _ k
      _ = s₀.upcoming (m + 1 + k) := by rw [hm.upcoming, Nat.add_assoc, Nat.add_comm 1 k]
  · intro k hk
    by_cases hkm : k = m
    · subst hkm
      refine ⟨i, ?_⟩
      rw [← hnext]
      exact hw.indexed.idForName?_put (nameOf?_eq_some_iff.2 (find?_name_made _ _))
    · obtain ⟨j, hj⟩ := hm.held (show k < m by omega)
      obtain ⟨stored, hf, hn⟩ := h.wellFormed.indexed.idForName?_eq_some_iff.1 hj
      have hne : s.takeId.1 ≠ s₀.upcoming k := by
        intro he
        rw [← he, hunused] at hf
        cases hf
      refine ⟨j, hw.indexed.idForName?_eq_some_iff.2 ⟨stored, ?_, hn⟩⟩
      rw [hother _ hne, hf]
  · intro k hmk hk
    have hne : s.takeId.1 ≠ s₀.upcoming k := by
      intro he
      rw [hnext] at he
      have := hids.distinct hlt hk he
      omega
    rw [hother _ hne, hm.unused (by omega) hk]

/-! ## What a pass relies on and what it guarantees -/

def Rely (task : ι → Task) (s₀ : Store) (i : ι) (s t : Store) : Prop :=
  Shared task s₀ s → Shared task s₀ t ∧ Agree (task i).Owns s t

def Guarantee (task : ι → Task) (s₀ : Store) (i : ι) (s t : Store) : Prop :=
  Shared task s₀ s → Shared task s₀ t ∧ Agree (fun id stored => ¬ (task i).Owns id stored) s t

theorem guarantee_refl (task : ι → Task) (s₀ : Store) (i : ι) (s : Store) : Guarantee task s₀ i s s :=
  fun h => ⟨h, .refl _ s⟩

/-- Of a group that is stored no two passes own anything. -/
theorem Shared.not_owns (h : Shared task s₀ s) (hi : Independent task s₀) (hij : i ≠ j)
    (hf : s.groups.find? id = some stored) (hj : (task j).Owns id stored) : ¬ (task i).Owns id stored := by
  rintro (⟨x, hx, rfl⟩ | hn)
  · rcases hj with ⟨y, hy, hid⟩ | hname
    · exact hij (hi.ids hx hy hid.symm)
    · exact hij (h.apart hx hf hname)
  · rcases hj with ⟨y, hy, rfl⟩ | hname
    · exact hij (h.apart hy hf hn).symm
    · exact hij (hi.names (Option.some.inj (hn.symm.trans hname)))

theorem compatible (hi : Independent task s₀) : Compatible (Rely task s₀) (Guarantee task s₀) where
  refl i s := fun h => ⟨h, .refl _ s⟩
  trans i s t u hst htu := by
    intro hs
    obtain ⟨ht, hast⟩ := hst hs
    obtain ⟨hu, hatu⟩ := htu ht
    exact ⟨hu, hast.trans hatu⟩
  others {i j} hij {s t} h := by
    intro hs
    obtain ⟨ht, ha⟩ := h hs
    refine ⟨ht, fun id stored hj => ⟨fun hf => ?_, fun hf => ?_⟩⟩
    · exact (ha id stored (hs.not_owns hi hij hf hj)).1 hf
    · exact (ha id stored (ht.not_owns hi hij hf hj)).2 hf

end IdentityGroups.Sync
