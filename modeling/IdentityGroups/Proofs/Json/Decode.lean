import Mathlib
import IdentityGroups.Group.Decode
import IdentityGroups.Proofs.Json.Merge
import IdentityGroups.Proofs.Time.ReadBack

/-! # What decoders read

A decoder of an optional member depends on one look-up, and every value that the library writes reads
back.
-/

namespace IdentityGroups

theorem bind_eq_ok_iff {ε α β : Type} {x : Except ε α} {f : α → Except ε β} {b : β} :
    x >>= f = .ok b ↔ ∃ a, x = .ok a ∧ f a = .ok b := by
  cases x with
  | error e => simp [bind, Except.bind]
  | ok a => simp [bind, Except.bind]

theorem map_eq_ok_iff {ε α β : Type} {x : Except ε α} {f : α → β} {b : β} :
    x.map f = .ok b ↔ ∃ a, x = .ok a ∧ f a = b := by
  cases x with
  | error e => simp [Except.map]
  | ok a => simp [Except.map]

namespace Json.Decode
open Entries
variable {α : Type}

theorem optionalMember_eq (m : List (String × Json)) (k : String) (item : Decoder α) :
    optionalMember m k item =
      match find? k m with
      | none => .ok none
      | some j => optional item j := by
  unfold optionalMember present?
  cases find? k m with
  | none => rfl
  | some j =>
    change ((optional item j).map some).map Option.join = optional item j
    cases optional item j <;> rfl

theorem memberOr_eq (default : α) (m : List (String × Json)) (k : String) (item : Decoder α) :
    memberOr default m k item =
      match find? k m with
      | none => .ok default
      | some j => item j := by
  unfold memberOr present?
  cases find? k m with
  | none => rfl
  | some j =>
    change ((item j).map some).map (·.getD default) = item j
    cases item j <;> rfl

theorem present?_ofList {p : List (String × Json)} (hp : Distinct p) {k : String} {v : Json}
    (hk : find? k p = some v) {item : Decoder α} {a : α} (hi : item v = .ok a) :
    present? (ofList p) k item = .ok (some a) := by
  rw [present?, find?_ofList k hp, hk]
  simp only [hi, Except.map]

theorem optionalMember_ofList {p : List (String × Json)} (hp : Distinct p) {k : String}
    {v : Json} (hk : find? k p = some v) (item : Decoder α) :
    optionalMember (ofList p) k item = optional item v := by
  rw [optionalMember_eq, find?_ofList k hp, hk]

/-! ## Values that read back -/

theorem text_str (s : String) : text (.str s) = .ok s := rfl

theorem int64_ofInt64 (n : Int64) : int64 (.ofInt64 n) = .ok n := by
  have hn : n.toInt < 0x8000000000000000 := Int64.toInt_lt n
  simp only [int64, ofInt64, if_pos hn, Int64.ofInt_toInt]

theorem instant_render (t : Time.Instant) : instant (.str t.render) = .ok t := by
  rw [instant, Time.parse_render, Except.mapError]

theorem kind_word (k : GroupKind) : GroupKind.decode (.str k.word) = .ok k := by
  simp only [GroupKind.decode, GroupKind.decode.ofWord, GroupKind.ofWord?_word]

theorem mapM_text (l : List String) : (l.map Json.str).mapM text = .ok l := by
  induction l with
  | nil => rfl
  | cons s l ih => rw [List.map_cons, List.mapM_cons, ih]; rfl

theorem list_ofTexts (l : List String) : list text (.ofTexts l) = .ok l := mapM_text l

theorem mapM_textMember (l : List (String × String)) :
    (l.map fun p => (p.1, Json.str p.2)).mapM
      (fun p => do return (p.1, ← text p.2) : String × Json → Except Mismatch (String × String)) = .ok l := by
  induction l with
  | nil => rfl
  | cons p l ih => rw [List.map_cons, List.mapM_cons, ih]; rfl

theorem dict_ofTextDict (d : Dict String) : dict text (.ofTextDict d) = .ok d := by
  have h := mapM_textMember d.entries
  have hd : Dict.ofList d.entries = d := by
    cases d with
    | mk entries ascending => simp only [Dict.ofList, Entries.ofList_self ascending]
  simp only [dict, ofTextDict, ofDict, Dict.map]
  exact bind_eq_ok_iff.2 ⟨d.entries, h, congrArg Except.ok hd⟩

theorem optional_ofOption {f : α → Json} {item : Decoder α} (hf : ∀ a, f a ≠ .null)
    (hi : ∀ a, item (f a) = .ok a) (o : Option α) : optional item (.ofOption f o) = .ok o := by
  cases o with
  | none => rfl
  | some a =>
    have ho : optional item (f a) = (item (f a)).map some := by
      unfold optional
      split
      · rename_i h
        exact absurd h (hf a)
      · rfl
    rw [ofOption, ho, hi]
    rfl

/-! ## Texts under keys -/

/-- An object that reads as a dictionary of texts holds these texts and nothing else. -/
theorem find?_of_dict_text {m : List (String × Json)} {d : Dict String} (hm : Ascending m)
    (h : dict text (.obj m) = .ok d) (k : String) : find? k m = (d.find? k).map .str := by
  obtain ⟨pairs, hp, hd⟩ := bind_eq_ok_iff.1 h
  have hpairs : m = pairs.map fun p => (p.1, Json.str p.2) := by
    clear h hd hm
    induction m generalizing pairs with
    | nil => cases hp; rfl
    | cons q m ih =>
      rw [List.mapM_cons] at hp
      obtain ⟨p, hq, hp⟩ := bind_eq_ok_iff.1 hp
      obtain ⟨ps, hps, hp⟩ := bind_eq_ok_iff.1 hp
      obtain ⟨s, hs, hq⟩ := bind_eq_ok_iff.1 hq
      cases hp
      cases hq
      obtain ⟨k, j⟩ := q
      cases j with
      | str t => cases hs; rw [List.map_cons, ← ih ps hps]
      | _ => cases hs
  have hdist : Distinct pairs := by
    have := hm.distinct
    rw [hpairs, Distinct, List.map_map] at this
    exact this
  cases hd
  rw [hpairs, Entries.find?_map]
  exact congrArg (Option.map Json.str) (find?_ofList k hdist).symm

end Json.Decode

end IdentityGroups
