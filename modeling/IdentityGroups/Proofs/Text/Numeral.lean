import Mathlib
import IdentityGroups.Text.Numeral

/-! # What numerals are read as

A numeral of any length is read as the number that its digits spell, as long as that is in range. Otherwise the
first character that fails decides the fault: it is no digit, or it takes the number past the largest one.
-/

namespace IdentityGroups.Text.Numeral
variable {largest n : Nat} {s : String} {cs : List Char} {fault : Fault}

def unsigned : List Char → List Char
  | '+' :: cs => cs
  | cs => cs

def Denotes (s : String) (n : Nat) : Prop :=
  ∃ sign digits : List Char, s.toList = sign ++ digits ∧ (sign = [] ∨ sign = ['+']) ∧ digits ≠ [] ∧
    (∀ c ∈ digits, c.isDigit) ∧ Nat.ofDigitChars 10 digits 0 = n

/-- How the characters after a number fail: one of them is no digit, or takes the number too far, and those before
it are digits that do not. -/
inductive Stops (largest n : Nat) (cs : List Char) : Fault → Prop
  | noDigit {read rest : List Char} {c : Char} (hcs : cs = read ++ c :: rest) (hread : ∀ d ∈ read, d.isDigit)
      (hfits : Nat.ofDigitChars 10 read n ≤ largest) (hc : c.isDigit = false) : Stops largest n cs .invalidDigit
  | tooLarge {read rest : List Char} {c : Char} (hcs : cs = read ++ c :: rest) (hread : ∀ d ∈ read, d.isDigit)
      (hfits : Nat.ofDigitChars 10 read n ≤ largest) (hc : c.isDigit = true)
      (hlarge : largest < Nat.ofDigitChars 10 (read ++ [c]) n) : Stops largest n cs .overflow

/-- How a text fails to be a number in range: it is empty, or nothing but a sign, or one of its characters fails. -/
inductive FailsBy (largest : Nat) (s : String) : Fault → Prop
  | empty (hs : s = "") : FailsBy largest s .empty
  | loneSign (hs : s = "+") : FailsBy largest s .invalidDigit
  | stops {fault : Fault} (h : Stops largest 0 (unsigned s.toList) fault) : FailsBy largest s fault

def rendering (signed : Bool) (zeros n : Nat) : String :=
  String.ofList ((if signed then ['+'] else []) ++ List.replicate zeros '0' ++ Nat.toDigits 10 n)

/-! ## Digits -/

theorem isDigit_iff_toNat {c : Char} : c.isDigit = true ↔ 48 ≤ c.toNat ∧ c.toNat ≤ 57 := by
  simp [Char.isDigit, UInt32.le_iff_toNat_le]

theorem isDigit_iff_le {c : Char} : c.isDigit = true ↔ '0' ≤ c ∧ c ≤ '9' := by
  simp [isDigit_iff_toNat, Char.le_def, UInt32.le_iff_toNat_le]

theorem digit?_of_isDigit {c : Char} (h : c.isDigit = true) : digit? c = some (c.toNat - '0'.toNat) :=
  if_pos (isDigit_iff_le.1 h)

theorem digit?_of_not_isDigit {c : Char} (h : c.isDigit = false) : digit? c = none :=
  if_neg fun hc => Bool.eq_false_iff.1 h (isDigit_iff_le.2 hc)

theorem le_ofDigitChars (n : Nat) (cs : List Char) : n ≤ Nat.ofDigitChars 10 cs n := by
  induction cs generalizing n with
  | nil => exact Nat.le_refl n
  | cons c cs ih =>
    rw [Nat.ofDigitChars_cons]
    exact le_trans (by omega) (ih _)

/-- The first digit makes the number from which the others go on. -/
theorem ofDigitChars_cons_eq (c : Char) (cs : List Char) (n : Nat) :
    Nat.ofDigitChars 10 (c :: cs) n = Nat.ofDigitChars 10 cs (Nat.ofDigitChars 10 [c] n) :=
  Nat.ofDigitChars_append (l := [c]) n

theorem extend_cons_of_fits {c : Char} (hc : c.isDigit = true)
    (hfits : Nat.ofDigitChars 10 [c] n ≤ largest) :
    extend largest n (c :: cs) = extend largest (Nat.ofDigitChars 10 [c] n) cs := by
  have hn : n * 10 + (c.toNat - '0'.toNat) = Nat.ofDigitChars 10 [c] n := by
    rw [Nat.ofDigitChars_cons, Nat.mul_comm]
    rfl
  rw [extend, digit?_of_isDigit hc]
  simp only [hn, if_pos hfits]

/-- Digits that stay in range are read through. -/
theorem extend_append {read : List Char} (hread : ∀ c ∈ read, c.isDigit)
    (hfits : Nat.ofDigitChars 10 read n ≤ largest) (rest : List Char) :
    extend largest n (read ++ rest) = extend largest (Nat.ofDigitChars 10 read n) rest := by
  induction read generalizing n with
  | nil => rfl
  | cons c read ih =>
    obtain ⟨hc, hread⟩ := List.forall_mem_cons.1 hread
    rw [ofDigitChars_cons_eq] at hfits ⊢
    rw [List.cons_append, extend_cons_of_fits hc ((le_ofDigitChars _ _).trans hfits), ih hread hfits]

theorem extend_of_stops (h : Stops largest n cs fault) : extend largest n cs = .error fault := by
  cases h with
  | noDigit hcs hread hfits hc =>
    rw [hcs, extend_append hread hfits, extend, digit?_of_not_isDigit hc]
  | @tooLarge read rest c hcs hread hfits hc hlarge =>
    rw [Nat.ofDigitChars_append, Nat.ofDigitChars_cons, Nat.mul_comm] at hlarge
    rw [hcs, extend_append hread hfits, extend, digit?_of_isDigit hc]
    exact if_neg (Nat.not_le.2 hlarge)

/-- What fails after a digit fails after the digits that begin with it. -/
theorem Stops.cons {c : Char} (hc : c.isDigit = true) (h : Stops largest (Nat.ofDigitChars 10 [c] n) cs fault) :
    Stops largest n (c :: cs) fault := by
  cases h with
  | @noDigit read rest d hcs hread hfits hd =>
    have hsplit : c :: cs = (c :: read) ++ d :: rest := congrArg (c :: ·) hcs
    exact .noDigit hsplit (List.forall_mem_cons.2 ⟨hc, hread⟩) hfits hd
  | @tooLarge read rest d hcs hread hfits hd hlarge =>
    have hsplit : c :: cs = (c :: read) ++ d :: rest := congrArg (c :: ·) hcs
    exact .tooLarge hsplit (List.forall_mem_cons.2 ⟨hc, hread⟩) hfits hd hlarge

/-- Characters are digits that stay in range, or one of them fails. -/
theorem fits_or_stops (hn : n ≤ largest) (cs : List Char) :
    ((∀ c ∈ cs, c.isDigit) ∧ Nat.ofDigitChars 10 cs n ≤ largest) ∨ ∃ fault, Stops largest n cs fault := by
  induction cs generalizing n with
  | nil => exact .inl ⟨by simp, hn⟩
  | cons c cs ih =>
    have hsplit : c :: cs = [] ++ c :: cs := rfl
    cases hc : c.isDigit with
    | false => exact .inr ⟨_, .noDigit hsplit (by simp) hn hc⟩
    | true =>
      by_cases hfits : Nat.ofDigitChars 10 [c] n ≤ largest
      · rcases ih hfits with ⟨hcs, hle⟩ | ⟨fault, hstops⟩
        · exact .inl ⟨List.forall_mem_cons.2 ⟨hc, hcs⟩, hle⟩
        · exact .inr ⟨fault, hstops.cons hc⟩
      · exact .inr ⟨_, .tooLarge hsplit (by simp) hn hc (Nat.not_le.1 hfits)⟩

/-! ## Whole texts -/

theorem parse_eq (hempty : s ≠ "") (hsign : s ≠ "+") :
    parse largest s = extend largest 0 (unsigned s.toList) := by
  unfold parse unsigned
  split
  · rename_i h
    exact absurd (String.toList_eq_nil_iff.1 h) hempty
  · rename_i h
    exact absurd (String.toList_inj.1 h) hsign
  · rename_i h
    rw [h]
    rfl
  · rename_i hs
    split
    · rename_i h
      exact absurd h (hs _)
    · rfl

theorem unsigned_append {sign digits : List Char} (hsign : sign = [] ∨ sign = ['+']) (hne : digits ≠ [])
    (hdigits : ∀ c ∈ digits, c.isDigit) : unsigned (sign ++ digits) = digits := by
  rcases hsign with rfl | rfl
  · obtain ⟨c, cs, rfl⟩ := List.exists_cons_of_ne_nil hne
    have hc : c ≠ '+' := by
      rintro rfl
      exact absurd (hdigits '+' List.mem_cons_self) (by decide)
    rw [List.nil_append, unsigned]
    rintro cs' he
    exact hc (List.cons.inj he).1
  · rfl

/-- A numeral is read through its digits. -/
theorem denotes_iff : Denotes s n ↔ unsigned s.toList ≠ [] ∧ (∀ c ∈ unsigned s.toList, c.isDigit) ∧
    Nat.ofDigitChars 10 (unsigned s.toList) 0 = n := by
  constructor
  · rintro ⟨sign, digits, hs, hsign, hne, hdigits, hn⟩
    rw [hs, unsigned_append hsign hne hdigits]
    exact ⟨hne, hdigits, hn⟩
  · rintro ⟨hne, hdigits, hn⟩
    have hsplit : ∃ sign, s.toList = sign ++ unsigned s.toList ∧ (sign = [] ∨ sign = ['+']) := by
      generalize s.toList = l
      unfold unsigned
      split
      · exact ⟨['+'], rfl, .inr rfl⟩
      · exact ⟨[], rfl, .inl rfl⟩
    obtain ⟨sign, hs, hsign⟩ := hsplit
    exact ⟨sign, _, hs, hsign, hne, hdigits, hn⟩

theorem Denotes.unique {m : Nat} (hm : Denotes s m) (hn : Denotes s n) : m = n :=
  (denotes_iff.1 hm).2.2.symm.trans (denotes_iff.1 hn).2.2

theorem denotes_rendering (signed : Bool) (zeros n : Nat) : Denotes (rendering signed zeros n) n := by
  refine ⟨if signed then ['+'] else [], List.replicate zeros '0' ++ Nat.toDigits 10 n, ?_, ?_, ?_, ?_, ?_⟩
  · rw [rendering, String.toList_ofList, List.append_assoc]
  · cases signed
    · exact .inl rfl
    · exact .inr rfl
  · simp [Nat.toDigits_ne_nil]
  · intro c hc
    rcases List.mem_append.1 hc with hc | hc
    · rw [List.eq_of_mem_replicate hc]
      decide
    · exact Nat.isDigit_of_mem_toDigits (by decide) (by decide) hc
  · rw [Nat.ofDigitChars_append, Nat.ofDigitChars_replicate_zero, Nat.mul_zero]
    exact Nat.ofDigitChars_toDigits (by decide) (by decide)

theorem Denotes.ne (h : Denotes s n) : s ≠ "" ∧ s ≠ "+" := by
  have hne := (denotes_iff.1 h).1
  constructor
  · rintro rfl
    exact hne rfl
  · rintro rfl
    exact hne rfl

theorem parse_of_denotes (h : Denotes s n) (hn : n ≤ largest) : parse largest s = .ok n := by
  obtain ⟨-, hdigits, rfl⟩ := denotes_iff.1 h
  have hread := extend_append hdigits hn []
  rw [List.append_nil] at hread
  rw [parse_eq h.ne.1 h.ne.2, hread, extend]

theorem parse_of_failsBy (h : FailsBy largest s fault) : parse largest s = .error fault := by
  cases h with
  | empty hs => rw [hs]; rfl
  | loneSign hs => rw [hs]; rfl
  | stops h =>
    have hne : unsigned s.toList ≠ [] := by
      cases h with
      | noDigit hcs => simp [hcs]
      | tooLarge hcs => simp [hcs]
    have hempty : s ≠ "" := by
      rintro rfl
      exact hne rfl
    have hsign : s ≠ "+" := by
      rintro rfl
      exact hne rfl
    rw [parse_eq hempty hsign, extend_of_stops h]

/-- Every text is a numeral in range or fails in one of the ways. -/
theorem denotes_or_failsBy (largest : Nat) (s : String) :
    (∃ n ≤ largest, Denotes s n) ∨ ∃ fault, FailsBy largest s fault := by
  by_cases hempty : s = ""
  · exact .inr ⟨_, .empty hempty⟩
  · by_cases hsign : s = "+"
    · exact .inr ⟨_, .loneSign hsign⟩
    · rcases fits_or_stops (Nat.zero_le largest) (unsigned s.toList) with ⟨hdigits, hle⟩ | ⟨fault, h⟩
      · have hne : unsigned s.toList ≠ [] := by
          unfold unsigned
          split
          · rename_i cs hs
            rintro rfl
            exact hsign (String.toList_inj.1 hs)
          · exact fun h => hempty (String.toList_eq_nil_iff.1 h)
        exact .inl ⟨_, hle, denotes_iff.2 ⟨hne, hdigits, rfl⟩⟩
      · exact .inr ⟨fault, .stops h⟩

/-- A text is read as the number in range that it denotes, and as no other. -/
theorem parse_eq_ok_iff : parse largest s = .ok n ↔ Denotes s n ∧ n ≤ largest := by
  constructor
  · intro h
    rcases denotes_or_failsBy largest s with ⟨m, hm, hs⟩ | ⟨fault, hs⟩
    · rw [parse_of_denotes hs hm] at h
      cases h
      exact ⟨hs, hm⟩
    · rw [parse_of_failsBy hs] at h
      cases h
  · rintro ⟨hs, hn⟩
    exact parse_of_denotes hs hn

theorem parse_eq_error_iff : parse largest s = .error fault ↔ FailsBy largest s fault := by
  constructor
  · intro h
    rcases denotes_or_failsBy largest s with ⟨m, hm, hs⟩ | ⟨fault', hs⟩
    · rw [parse_of_denotes hs hm] at h
      cases h
    · rw [parse_of_failsBy hs] at h
      cases h
      exact hs
  · exact parse_of_failsBy

end IdentityGroups.Text.Numeral
