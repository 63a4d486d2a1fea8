import Mathlib
import IdentityGroups.Json.Merge

/-! # What a merge patch leaves behind

A patch decides each member that it names and leaves the others alone, so the result of a patch is
known from its look-ups. Canonical values stay canonical.
-/

namespace IdentityGroups

namespace Entries
variable {α : Type}

def Distinct (l : List (String × α)) : Prop := (l.map (·.1)).Nodup

instance (l : List (String × α)) : Decidable (Distinct l) := by unfold Distinct; infer_instance

theorem Ascending.distinct {l : List (String × α)} (h : Ascending l) : Distinct l := by
  refine List.pairwise_map.2 (h.imp ?_)
  intro a b hab heq
  exact String.lt_irrefl _ (heq ▸ hab)

theorem find?_eq_none_iff {k : String} {l : List (String × α)} :
    find? k l = none ↔ k ∉ l.map (·.1) := by
  induction l with
  | nil => simp [find?]
  | cons q l ih =>
    by_cases h : q.1 = k
    · simp [find?, h]
    · simp [find?, h, ih, Ne.symm h]

theorem find?_append (k : String) (l l' : List (String × α)) :
    find? k (l ++ l') = (find? k l).or (find? k l') := by
  induction l with
  | nil => rfl
  | cons q l ih => by_cases h : q.1 = k <;> simp [find?, h, ih]

theorem find?_foldl_insert (k : String) {pairs : List (String × α)} (h : Distinct pairs)
    (l : List (String × α)) :
    find? k (pairs.foldl (fun l p => insert p.1 p.2 l) l) = (find? k pairs).or (find? k l) := by
  induction pairs generalizing l with
  | nil => rfl
  | cons p pairs ih =>
    obtain ⟨hp, hd⟩ := List.nodup_cons.1 h
    rw [List.foldl_cons, ih hd, find?_insert]
    by_cases hk : p.1 = k
    · have hn : find? k pairs = none := find?_eq_none_iff.2 (hk ▸ hp)
      simp [find?, hk, hn]
    · simp [find?, hk]

/-- Entering pairs with distinct keys changes no look-up. -/
theorem find?_ofList (k : String) {pairs : List (String × α)} (h : Distinct pairs) :
    find? k (ofList pairs) = find? k pairs := by
  rw [ofList, find?_foldl_insert k h, find?]
  exact Option.or_none

theorem ofList_eq {pairs l : List (String × α)} (h : Distinct pairs) (hl : Ascending l)
    (hf : ∀ k, find? k pairs = find? k l) : ofList pairs = l :=
  eq_of_find?_eq (ascending_ofList pairs) hl fun k => (find?_ofList k h).trans (hf k)

theorem ofList_self {l : List (String × α)} (h : Ascending l) : ofList l = l :=
  ofList_eq h.distinct h fun _ => rfl

theorem mem_of_mem_ofList {pairs : List (String × α)} {p : String × α} (hp : p ∈ ofList pairs) : p ∈ pairs := by
  have hfold : ∀ l : List (String × α), p ∈ pairs.foldl (fun l p => insert p.1 p.2 l) l → p ∈ pairs ∨ p ∈ l := by
    clear hp
    induction pairs with
    | nil => exact fun l h => .inr h
    | cons q pairs ih =>
      intro l h
      rcases ih _ h with h | h
      · exact .inl (List.mem_cons_of_mem _ h)
      · rcases mem_insert h with rfl | h
        · exact .inl List.mem_cons_self
        · exact .inr h
  exact (hfold [] hp).resolve_right List.not_mem_nil

theorem find?_eq_some_iff {k : String} {v : α} {l : List (String × α)} (h : Distinct l) :
    find? k l = some v ↔ (k, v) ∈ l := by
  induction l with
  | nil => simp [find?]
  | cons q l ih =>
    obtain ⟨hq, hd⟩ := List.nodup_cons.1 h
    rw [find?, List.mem_cons]
    by_cases hk : q.1 = k
    · have hn : (k, v) ∉ l := by
        intro hmem
        exact hq (List.mem_map.2 ⟨(k, v), hmem, hk.symm⟩)
      obtain ⟨k', v'⟩ := q
      subst hk
      simp [hn, eq_comm]
    · have hne : (k, v) ≠ q := fun he => hk (congrArg Prod.fst he).symm
      rw [if_neg hk, ih hd]
      simp [hne]

end Entries

theorem Dict.find?_insertIfNew {α : Type} (d : Dict α) (k k' : String) (v : α) :
    (d.insertIfNew k v).find? k' = (d.find? k').or (if k = k' then some v else none) := by
  unfold Dict.insertIfNew Dict.contains
  by_cases hk : k = k'
  · subst hk
    cases hd : d.find? k <;> simp [hd]
  · cases hd : d.find? k <;> simp [hk]

/-- Of several values for one key that is new the first is entered. -/
theorem Dict.find?_foldl_insertIfNew {α : Type} (pairs : List (String × α)) (d : Dict α) (k : String) :
    (pairs.foldl (fun d p => d.insertIfNew p.1 p.2) d).find? k = (d.find? k).or (Entries.find? k pairs) := by
  induction pairs generalizing d with
  | nil => simp [Entries.find?]
  | cons p pairs ih =>
    rw [List.foldl_cons, ih, Dict.find?_insertIfNew, Option.or_assoc, Entries.find?]
    by_cases hk : p.1 = k <;> simp [hk]

theorem Dict.find?_ofList {α : Type} (k : String) {pairs : List (String × α)} (h : Entries.Distinct pairs) :
    (Dict.ofList pairs).find? k = Entries.find? k pairs := Entries.find?_ofList k h

namespace Json
open Entries

def patched (old : Option Json) : Json → Option Json
  | .null => none
  | v => some (merge (old.getD .null) v)

theorem mergeMembers_cons_null (m : List (String × Json)) (k : String) (patch : List (String × Json)) :
    mergeMembers m ((k, .null) :: patch) = mergeMembers (erase k m) patch := by
  rw [mergeMembers]

theorem mergeMembers_cons {v : Json} (hv : v ≠ .null) (m : List (String × Json)) (k : String)
    (patch : List (String × Json)) : mergeMembers m ((k, v) :: patch) =
      mergeMembers (insert k (merge ((find? k m).getD .null) v) m) patch := by
  rw [mergeMembers]
  exact hv

theorem ascending_mergeMembers (patch : List (String × Json)) {m : List (String × Json)}
    (hm : Ascending m) : Ascending (mergeMembers m patch) := by
  induction patch generalizing m with
  | nil => simpa [mergeMembers] using hm
  | cons p patch ih =>
    obtain ⟨k, v⟩ := p
    by_cases hv : v = .null
    · rw [hv, mergeMembers_cons_null]
      exact ih (ascending_erase k hm)
    · rw [mergeMembers_cons hv]
      exact ih (ascending_insert k _ hm)

/-- Each member that a patch names is decided by it, every other stays. -/
theorem find?_mergeMembers {patch m : List (String × Json)} (hp : Distinct patch) (hm : Ascending m)
    (k : String) : find? k (mergeMembers m patch) =
      match find? k patch with
      | none => find? k m
      | some v => patched (find? k m) v := by
  induction patch generalizing m with
  | nil => simp [mergeMembers, find?]
  | cons p patch ih =>
    obtain ⟨k', v⟩ := p
    obtain ⟨hk', hd⟩ := List.nodup_cons.1 hp
    by_cases hv : v = .null
    · rw [hv, mergeMembers_cons_null, ih hd (ascending_erase k' hm), Entries.find?_erase hm]
      by_cases hk : k' = k
      · have hn : find? k patch = none := find?_eq_none_iff.2 (hk ▸ hk')
        simp [find?, hk, hn, patched]
      · simp [find?, hk]
    · rw [mergeMembers_cons hv, ih hd (ascending_insert k' _ hm), Entries.find?_insert]
      by_cases hk : k' = k
      · have hn : find? k patch = none := find?_eq_none_iff.2 (hk ▸ hk')
        have hp' : patched (find? k m) v = some (merge ((find? k m).getD .null) v) := by
          cases v <;> first | rfl | exact absurd rfl hv
        simp [find?, hk, hn, hp']
      · simp [find?, hk]

/-! ## Canonical values -/

theorem canonicalMembers_iff {m : List (String × Json)} :
    CanonicalMembers m ↔ ∀ p ∈ m, p.2.Canonical := by
  induction m with
  | nil => simp [CanonicalMembers]
  | cons p m ih => obtain ⟨k, j⟩ := p; simp [CanonicalMembers, ih]

theorem canonicalItems_iff {items : List Json} :
    CanonicalItems items ↔ ∀ j ∈ items, j.Canonical := by
  induction items with
  | nil => simp [CanonicalItems]
  | cons j items ih => simp [CanonicalItems, ih]

theorem canonical_obj_iff {m : List (String × Json)} :
    (Json.obj m).Canonical ↔ Ascending m ∧ ∀ p ∈ m, p.2.Canonical := by
  rw [Canonical, canonicalMembers_iff]

theorem canonical_of_find? {m : List (String × Json)} (h : ∀ p ∈ m, p.2.Canonical) {k : String} {j : Json}
    (hj : find? k m = some j) : j.Canonical := by
  induction m with
  | nil => simp [find?] at hj
  | cons p m ih =>
    by_cases hk : p.1 = k
    · rw [find?, if_pos hk] at hj
      exact Option.some.inj hj ▸ h p List.mem_cons_self
    · rw [find?, if_neg hk] at hj
      exact ih (fun q hq => h q (List.mem_cons_of_mem _ hq)) hj

theorem canonical_ofList {pairs : List (String × Json)} (h : ∀ p ∈ pairs, p.2.Canonical) :
    ∀ p ∈ ofList pairs, p.2.Canonical := fun p hp => h p (mem_of_mem_ofList hp)

theorem canonical_object {pairs : List (String × Json)} (h : ∀ p ∈ pairs, p.2.Canonical) :
    (object pairs).Canonical :=
  canonical_obj_iff.2 ⟨ascending_ofList pairs, canonical_ofList h⟩

theorem membersOrNone_canonical {j : Json} (h : j.Canonical) : (Json.obj j.membersOrNone).Canonical := by
  cases j with
  | obj m => exact h
  | _ => exact canonical_obj_iff.2 ⟨List.Pairwise.nil, by simp [membersOrNone]⟩

mutual

theorem canonical_merge {target : Json} (ht : target.Canonical) :
    ∀ {patch : Json}, patch.Canonical → (merge target patch).Canonical
  | .obj members, hp => by
    rw [merge]
    exact canonical_mergeMembers (membersOrNone_canonical ht) (canonical_obj_iff.1 hp).2
  | .null, _ => by simp [merge, Canonical]
  | .bool _, _ => by simp [merge, Canonical]
  | .num _, _ => by simp [merge, Canonical]
  | .str _, _ => by simp [merge, Canonical]
  | .arr _, hp => by simpa [merge] using hp

theorem canonical_mergeMembers {target : List (String × Json)} (ht : (Json.obj target).Canonical) :
    ∀ {patch : List (String × Json)}, (∀ p ∈ patch, p.2.Canonical) →
      (Json.obj (mergeMembers target patch)).Canonical
  | [], _ => by simpa [mergeMembers] using ht
  | (k, v) :: patch, hp => by
    obtain ⟨hasc, hmem⟩ := canonical_obj_iff.1 ht
    have hrest : ∀ p ∈ patch, p.2.Canonical := fun p h => hp p (List.mem_cons_of_mem _ h)
    by_cases hv : v = .null
    · rw [hv, mergeMembers_cons_null]
      refine canonical_mergeMembers (canonical_obj_iff.2 ⟨ascending_erase k hasc, ?_⟩) hrest
      exact fun p h => hmem p ((erase_sublist k target).subset h)
    · rw [mergeMembers_cons hv]
      refine canonical_mergeMembers (canonical_obj_iff.2 ⟨ascending_insert k _ hasc, ?_⟩) hrest
      intro p h
      rcases mem_insert h with rfl | h
      · refine canonical_merge ?_ (hp (k, v) List.mem_cons_self)
        cases hf : find? k target with
        | none => simp [Canonical]
        | some j => exact canonical_of_find? hmem hf
      · exact hmem p h

end

/-! ## Members written for a value only -/

theorem find?_memberIfSome {α : Type} (k k' : String) (f : α → Json) (o : Option α) :
    find? k (memberIfSome k' f o) = if k' = k then o.map f else none := by
  cases o with
  | none => simp [memberIfSome, find?]
  | some a => by_cases h : k' = k <;> simp [memberIfSome, find?, h]

theorem keys_memberIfSome {α : Type} (k : String) (f : α → Json) (o : Option α) :
    ((memberIfSome k f o).map (·.1)).Sublist [k] := by
  cases o with
  | none => exact List.nil_sublist _
  | some a => exact List.Sublist.refl _

end Json

end IdentityGroups
