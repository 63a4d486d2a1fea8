import Mathlib
import IdentityGroups.Proofs.Vault.Address
import IdentityGroups.Url

/-! # An address and its parts

An address that is put together of a scheme, an authority and the segments of a path, none of which holds a
character that ends it, is taken apart into them; only segments of dots are lost, and take others with them.
-/

namespace IdentityGroups

namespace Text

theorem trimBy_eq_self {p : Char → Bool} {s : String} (h : ∀ c ∈ s.toList, p c = false) : trimBy p s = s := by
  have hdrop : s.toList.dropWhile p = s.toList := by
    cases hs : s.toList with
    | nil => rfl
    | cons c cs =>
      have hc : p c = false := h c (by rw [hs]; exact List.mem_cons_self)
      rw [List.dropWhile_cons_of_neg]
      simp [hc]
  have hkeep : dropEndWhile p s.toList = s.toList :=
    dropEndWhile_eq_self fun c hc => h c (List.mem_of_getLast? hc)
  rw [trimBy, hdrop, hkeep, String.ofList_toList]

end Text

namespace Url

/-! ## Segments -/

def isPlain (c : Char) : Bool := keptInPath c && !isSlash c

theorem isPlain_iff {c : Char} : isPlain c ↔ keptInPath c ∧ isSlash c = false := by
  simp [isPlain]

theorem keptInPath_iff {c : Char} : keptInPath c ↔
    '!' ≤ c ∧ c ≤ '~' ∧ c ∉ ['"', '#', '<', '>', '?', '`', '\x7b', '\x7d'] := by
  simp [keptInPath]

theorem lt_of_isPlain {c : Char} (h : isPlain c) : ' ' < c := by
  have hlow : '!' ≤ c := (keptInPath_iff.1 (isPlain_iff.1 h).1).1
  exact lt_of_lt_of_le (by decide) hlow

theorem ne_of_isPlain {c : Char} (h : isPlain c) : c ≠ '?' ∧ c ≠ '#' := by
  have hkept := (keptInPath_iff.1 (isPlain_iff.1 h).1).2.2
  constructor <;> rintro rfl <;> exact hkept (by decide)

theorem splitOnP_intercalate {segments : List (List Char)} (hne : segments ≠ [])
    (h : ∀ s ∈ segments, ∀ c ∈ s, isSlash c = false) :
    (['/'].intercalate segments).splitOnP isSlash = segments := by
  induction segments with
  | nil => exact absurd rfl hne
  | cons s segments ih =>
    cases segments with
    | nil =>
      rw [List.intercalate_singleton, List.splitOnP_eq_singleton (h s List.mem_cons_self)]
    | cons s' segments =>
      have hrest := ih (by simp) fun t ht => h t (List.mem_cons_of_mem _ ht)
      rw [List.intercalate_cons_cons, List.append_assoc, List.singleton_append,
        List.splitOnP_append_cons_of_forall_mem (h s List.mem_cons_self) '/' (by decide), hrest]

theorem flatMap_encodeUnless {kept : Char → Bool} {s : List Char} (h : ∀ c ∈ s, kept c) :
    s.flatMap (encodeUnless kept) = s := by
  induction s with
  | nil => rfl
  | cons c s ih =>
    rw [List.flatMap_cons, ih fun d hd => h d (List.mem_cons_of_mem _ hd), encodeUnless,
      if_pos (h c List.mem_cons_self)]
    rfl

/-- Only a last segment of dots is resolved when the others are none. -/
theorem resolve_append_singleton {segments : List (List Char)} (h : ∀ s ∈ segments, dots? s = none)
    (before : List (List Char)) (last : List Char) : resolve before (segments ++ [last]) =
      match dots? last with
      | none => before.reverse ++ segments ++ [last]
      | some 1 => before.reverse ++ segments ++ [[]]
      | some _ => (stepBack (segments.reverse ++ before)).reverse ++ [[]] := by
  induction segments generalizing before with
  | nil =>
    rw [List.nil_append, resolve]
    split <;> simp [*]
  | cons s segments ih =>
    have hs := h s List.mem_cons_self
    have hstep : resolve before (s :: (segments ++ [last])) = resolve (s :: before) (segments ++ [last]) := by
      obtain ⟨t, rest, hrest⟩ := List.exists_cons_of_ne_nil (show segments ++ [last] ≠ [] by simp)
      rw [hrest, resolve, hs]
      simp
    rw [List.cons_append, hstep, ih (fun t ht => h t (List.mem_cons_of_mem _ ht))]
    split <;> simp

theorem stepBack_sublist (before : List (List Char)) : (stepBack before).Sublist before := by
  cases before with
  | nil => exact List.Sublist.refl _
  | cons s before =>
    rw [stepBack]
    split
    · exact List.Sublist.refl _
    · exact List.sublist_cons_self _ _

/-- A resolved path has no segment of its own but an empty one. -/
theorem mem_resolve {before segments : List (List Char)} {s : List Char} (h : s ∈ resolve before segments) :
    s = [] ∨ s ∈ before ∨ s ∈ segments := by
  have hback (l : List (List Char)) (hs : s ∈ stepBack l) : s ∈ l := (stepBack_sublist l).subset hs
  fun_induction resolve before segments with
  | case1 before => exact .inr (.inl (List.mem_reverse.1 h))
  | case2 before t hd =>
    rcases List.mem_cons.1 (List.mem_reverse.1 h) with rfl | h
    · exact .inr (.inr List.mem_cons_self)
    · exact .inr (.inl h)
  | case3 before t hd =>
    rcases List.mem_cons.1 (List.mem_reverse.1 h) with rfl | h
    · exact .inl rfl
    · exact .inr (.inl h)
  | case4 before t n hd hn =>
    rcases List.mem_cons.1 (List.mem_reverse.1 h) with rfl | h
    · exact .inl rfl
    · exact .inr (.inl (hback _ h))
  | case5 before t rest hrest hd ih =>
    rcases ih h with h | h | h
    · exact .inl h
    · rcases List.mem_cons.1 h with rfl | h
      · exact .inr (.inr List.mem_cons_self)
      · exact .inr (.inl h)
    · exact .inr (.inr (List.mem_cons_of_mem _ h))
  | case6 before t rest hrest hd ih =>
    exact (ih h).imp_right (.imp_right (List.mem_cons_of_mem _))
  | case7 before t rest hrest hd n hn ih =>
    exact (ih h).imp_right (.imp (hback _) (List.mem_cons_of_mem _))

/-! ## The parts of an address -/

/-- A character that neither ends an authority nor is dropped from it, nor ends credentials in it. -/
def isAuthorityChar (c : Char) : Bool := ' ' < c && !isSlash c && c ∉ ['?', '#', '@']

theorem isAuthorityChar_iff {c : Char} :
    isAuthorityChar c ↔ ' ' < c ∧ isSlash c = false ∧ c ≠ '?' ∧ c ≠ '#' ∧ c ≠ '@' := by
  simp [isAuthorityChar, and_assoc]

/-- An address with the text of a scheme and of an authority, and with these segments. -/
structure Spells (text : List Char) (scheme authority : List Char) (segments : List (List Char)) : Prop where
  text_eq : text = scheme ++ ':' :: '/' :: '/' :: (authority ++ '/' :: ['/'].intercalate segments)
  scheme : ∀ c ∈ scheme, isSchemeChar c
  authority_ne : authority ≠ []
  authority : ∀ c ∈ authority, isAuthorityChar c
  segments_ne : segments ≠ []
  segments : ∀ s ∈ segments, ∀ c ∈ s, isPlain c

theorem lt_of_isSchemeChar {c : Char} (h : isSchemeChar c) : ' ' < c := by
  by_contra hc
  have hlow : c.toNat ≤ 32 := Nat.le_of_not_lt hc
  have hall : ∀ n ≤ 32, isSchemeChar (Char.ofNat n) = false := by decide
  have hfalse := hall c.toNat hlow
  rw [Char.ofNat_toNat] at hfalse
  rw [hfalse] at h
  cases h

theorem mem_intercalate {segments : List (List Char)} {c : Char} (h : c ∈ ['/'].intercalate segments) :
    c = '/' ∨ ∃ s ∈ segments, c ∈ s := by
  induction segments with
  | nil => cases h
  | cons s segments ih =>
    cases segments with
    | nil =>
      rw [List.intercalate_singleton] at h
      exact .inr ⟨s, List.mem_cons_self, h⟩
    | cons t segments =>
      rw [List.intercalate_cons_cons, List.mem_append, List.mem_append, List.mem_singleton] at h
      rcases h with (h | h) | h
      · exact .inr ⟨s, List.mem_cons_self, h⟩
      · exact .inl h
      · refine (ih h).imp_right ?_
        rintro ⟨u, hu, hc⟩
        exact ⟨u, List.mem_cons_of_mem _ hu, hc⟩

namespace Spells
variable {text scheme authority : List Char} {segments : List (List Char)}

theorem visible (h : Spells text scheme authority segments) {c : Char} (hc : c ∈ text) : ' ' < c := by
  rw [h.text_eq] at hc
  simp only [List.mem_append, List.mem_cons] at hc
  rcases hc with hc | rfl | rfl | rfl | hc | rfl | hc
  · exact lt_of_isSchemeChar (h.scheme c hc)
  · decide
  · decide
  · decide
  · exact (isAuthorityChar_iff.1 (h.authority c hc)).1
  · decide
  · rcases mem_intercalate hc with rfl | ⟨s, hs, hc⟩
    · decide
    · exact lt_of_isPlain (h.segments s hs c hc)

/-- Neither a query nor a fragment begins after the scheme. -/
theorem unmarked (h : Spells text scheme authority segments) {c : Char}
    (hc : c ∈ authority ++ '/' :: ['/'].intercalate segments) : c ≠ '?' ∧ c ≠ '#' := by
  rw [List.mem_append, List.mem_cons] at hc
  rcases hc with hc | rfl | hc
  · have hchar := isAuthorityChar_iff.1 (h.authority c hc)
    exact ⟨hchar.2.2.1, hchar.2.2.2.1⟩
  · decide
  · rcases mem_intercalate hc with rfl | ⟨s, hs, hc⟩
    · decide
    · exact ne_of_isPlain (h.segments s hs c hc)

theorem no_fragment (h : Spells text scheme authority segments) : '#' ∉ text := by
  intro hmark
  rw [h.text_eq] at hmark
  simp only [List.mem_append, List.mem_cons] at hmark
  rcases hmark with hmark | hmark | hmark | hmark | hmark
  · exact absurd (h.scheme '#' hmark) (by decide)
  · exact absurd hmark (by decide)
  · exact absurd hmark (by decide)
  · exact absurd hmark (by decide)
  · exact (h.unmarked (by simpa using hmark)).2 rfl

theorem encoded_resolved (h : Spells text scheme authority segments) :
    ((resolve [] segments).map fun s => String.ofList (s.flatMap (encodeUnless keptInPath))) =
      (resolve [] segments).map String.ofList := by
  refine List.map_congr_left fun s hs => congrArg String.ofList (flatMap_encodeUnless fun c hc => ?_)
  rcases mem_resolve hs with rfl | hs | hs
  · cases hc
  · cases hs
  · exact (isPlain_iff.1 (h.segments s hs c hc)).1

end Spells

section
variable {α : Type} {p : α → Bool} {l rest : List α} {a : α} (h : ∀ x ∈ l, p x) (ha : p a = false)
include h ha

theorem takeWhile_append_cons : (l ++ a :: rest).takeWhile p = l := by
  rw [List.takeWhile_append_of_pos h, List.takeWhile_cons_of_neg (by simp [ha]), List.append_nil]

theorem dropWhile_append_cons : (l ++ a :: rest).dropWhile p = a :: rest := by
  rw [List.dropWhile_append_of_pos h, List.dropWhile_cons_of_neg (by simp [ha])]

end

/-- An address is taken apart as it was put together; its segments are resolved. -/
theorem parse?_of_spells {s : String} {scheme authority : List Char} {segments : List (List Char)}
    (h : Spells s.toList scheme authority segments) : parse? s =
      if scheme.map Char.toLower ≠ "http".toList ∧ scheme.map Char.toLower ≠ "https".toList then none
      else (hostPort? authority).map fun (host, port) => {
        scheme := String.ofList (scheme.map Char.toLower)
        host, port
        segments := (resolve [] segments).map String.ofList
        query := none } := by
  have htrim : Text.trimBy (· ≤ ' ') s = s :=
    Text.trimBy_eq_self fun c hc => by simpa using h.visible hc
  have hfilter : (s.toList.filter fun c => c ≠ '\t' ∧ c ≠ '\n' ∧ c ≠ '\r') = s.toList := by
    refine List.filter_eq_self.2 fun c hc => ?_
    have hlt := h.visible hc
    have hne (d : Char) (hd : d ≤ ' ') : c ≠ d := by
      rintro rfl
      exact absurd hlt (not_lt.2 hd)
    simp [hne]
  have hcolon : isSchemeChar ':' = false := by decide
  have hends : ∀ c ∈ authority, (!isSlash c && decide (c ≠ '?')) = true := by
    intro c hc
    have hchar := isAuthorityChar_iff.1 (h.authority c hc)
    simp [hchar.2.1, hchar.2.2.1]
  have hopens : ('/' :: '/' :: (authority ++ '/' :: ['/'].intercalate segments)).dropWhile isSlash =
      authority ++ '/' :: ['/'].intercalate segments := by
    obtain ⟨c, cs, hcs⟩ := List.exists_cons_of_ne_nil h.authority_ne
    have hc := (isAuthorityChar_iff.1 (h.authority c (by rw [hcs]; exact List.mem_cons_self))).2.1
    rw [List.dropWhile_cons_of_pos (by decide), List.dropWhile_cons_of_pos (by decide), hcs, List.cons_append,
      List.dropWhile_cons_of_neg (by simp [hc])]
  have hfragment : beforeFragment (authority ++ '/' :: ['/'].intercalate segments) =
      authority ++ '/' :: ['/'].intercalate segments :=
    List.takeWhile_eq_self_iff.2 fun c hc => by simpa using (h.unmarked hc).2
  have huser : afterUser authority = authority := by
    rw [afterUser, if_neg]
    intro hat
    exact (isAuthorityChar_iff.1 (h.authority '@' hat)).2.2.2.2 rfl
  have hpath : ∀ c ∈ '/' :: ['/'].intercalate segments, decide (c ≠ '?') = true := fun c hc => by
    simpa using (h.unmarked (List.mem_append_right _ hc)).1
  have hsplit : (['/'].intercalate segments).splitOnP isSlash = segments :=
    splitOnP_intercalate h.segments_ne fun s hs c hc => (isPlain_iff.1 (h.segments s hs c hc)).2
  have hslash : (!isSlash '/' && decide ('/' ≠ '?')) = false := rfl
  unfold parse?
  rw [htrim, hfilter, h.text_eq]
  simp only [takeWhile_append_cons h.scheme hcolon, dropWhile_append_cons h.scheme hcolon,
    Option.bind_eq_bind, Option.bind_some, hopens, hfragment,
    takeWhile_append_cons hends hslash, dropWhile_append_cons hends hslash, huser,
    List.takeWhile_eq_self_iff.2 hpath, List.dropWhile_eq_nil_iff.2 hpath, List.drop_succ_cons,
    List.drop_zero, hsplit, h.encoded_resolved]
  split
  · rfl
  · cases hostPort? authority <;> rfl

end Url

end IdentityGroups
