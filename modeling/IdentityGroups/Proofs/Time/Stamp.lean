import Mathlib
import IdentityGroups.Proofs.Time.Calendar
import IdentityGroups.Proofs.Time.ReadBack

/-! # Timestamps and their instants

A timestamp of the grammar (RFC 3339) is read as the instant that its fields say: local time less the offset, a
fraction of which nine digits count, and the sixtieth second of a minute as a leap second.
-/

namespace IdentityGroups.Time

inductive Zone where
  | universal (letter : Char) (isLetter : letter = 'Z' ∨ letter = 'z')
  | offset (west : Bool) (hours : Fin 24) (minutes : Fin 60)

namespace Zone

def chars : Zone → List Char
  | universal letter _ => [letter]
  | offset west hours minutes => (if west then '-' else '+') :: padded 2 hours ++ ':' :: padded 2 minutes

def seconds : Zone → Int
  | universal _ _ => 0
  | offset west hours minutes =>
    let east : Int := (hours * 60 + minutes) * 60
    if west then -east else east

end Zone

structure Stamp where
  date : Date
  isWritten : 0 ≤ date.year ∧ date.year ≤ 9999
  separator : Char
  isSeparator : separator = 'T' ∨ separator = 't' ∨ separator = ' '
  hour : Fin 24
  minute : Fin 60
  /-- The sixtieth is a leap second. -/
  sec : Fin 61
  fraction : List (Fin 10)
  zone : Zone

/-- Digits of which each counts a tenth of the one before; the first counts `10 ^ (k - 1)`, and only `k` of them
count. -/
def leading : (k : Nat) → List (Fin 10) → Nat
  | 0, _ => 0
  | _ + 1, [] => 0
  | k + 1, d :: ds => d * 10 ^ k + leading k ds

def digitChars (ds : List (Fin 10)) : List Char := ds.map fun d => d.val.digitChar

namespace Stamp

def fractionChars : List (Fin 10) → List Char
  | [] => []
  | ds => '.' :: digitChars ds

def chars (st : Stamp) : List Char :=
  padded 4 st.date.year.toNat ++ '-' :: (padded 2 st.date.month ++ '-' :: (padded 2 st.date.day ++ st.separator ::
    (padded 2 st.hour ++ ':' :: (padded 2 st.minute ++ ':' :: (padded 2 st.sec ++
      (fractionChars st.fraction ++ st.zone.chars))))))

def text (st : Stamp) : String := String.ofList st.chars

def seconds (st : Stamp) : Int :=
  st.date.number * 86400 + (st.hour.val * 3600 + st.minute.val * 60 + min st.sec.val 59 : Nat) - st.zone.seconds

def nano (st : Stamp) : Nat := leading 9 st.fraction + if st.sec = 60 then second else 0

end Stamp

/-! ## The fraction -/

theorem leading_lt (k : Nat) (ds : List (Fin 10)) : leading k ds < 10 ^ k := by
  induction k generalizing ds with
  | zero => exact Nat.one_pos
  | succ k ih =>
    cases ds with
    | nil => exact Nat.pow_pos (by decide)
    | cons d ds =>
      have hd : d.val * 10 ^ k ≤ 9 * 10 ^ k := Nat.mul_le_mul_right _ (by omega)
      have hds := ih ds
      rw [leading, Nat.pow_succ]
      omega

theorem isDigit_digitChar : ∀ d : Fin 10, d.val.digitChar.isDigit := by decide

theorem exists_digitChar {c : Char} (h : c.isDigit) : ∃ d : Fin 10, d.val.digitChar = c := by
  obtain ⟨hlow, hhigh⟩ := Text.Numeral.isDigit_iff_toNat.1 h
  have hdigit : ∀ n, 48 ≤ n → n ≤ 57 → (n - 48).digitChar = Char.ofNat n := by
    intro n _ _
    interval_cases n <;> rfl
  exact ⟨⟨c.toNat - 48, by omega⟩, (hdigit _ hlow hhigh).trans (Char.ofNat_toNat c)⟩

theorem toNat_digitChar_fin : ∀ d : Fin 10, d.val.digitChar.toNat - '0'.toNat = d.val := by decide

theorem isDigit_of_mem_digitChars {ds : List (Fin 10)} {c : Char} (h : c ∈ digitChars ds) : c.isDigit := by
  obtain ⟨d, -, rfl⟩ := List.mem_map.1 h
  exact isDigit_digitChar d

theorem length_digitChars (ds : List (Fin 10)) : (digitChars ds).length = ds.length := List.length_map _

theorem digitChars_take_drop (k : Nat) (ds : List (Fin 10)) :
    digitChars (ds.take k) ++ digitChars (ds.drop k) = digitChars ds := by
  rw [digitChars, digitChars, ← List.map_append, List.take_append_drop]
  rfl

/-- Zeros in place of the digits that are missing make up the value of those that count. -/
theorem ofDigitChars_leading (k n : Nat) (ds : List (Fin 10)) :
    Nat.ofDigitChars 10 (digitChars (ds.take k)) n * 10 ^ (k - (ds.take k).length) =
      n * 10 ^ k + leading k ds := by
  induction k generalizing n ds with
  | zero => simp [leading, digitChars]
  | succ k ih =>
    cases ds with
    | nil => simp [leading, digitChars]
    | cons d ds =>
      have ih := ih (10 * n + d.val) ds
      rw [digitChars] at ih ⊢
      rw [List.take_succ_cons, List.map_cons, Nat.ofDigitChars_cons, toNat_digitChar_fin, List.length_cons,
        Nat.add_sub_add_right, ih, leading, Nat.pow_succ]
      ring

/-- Nine digits are read at most. -/
theorem number_digitChars {ds : List (Fin 10)} (hne : ds ≠ []) {c : Char} {cs : List Char} (h : digit? c = none) :
    number 9 (digitChars ds ++ c :: cs) =
      .ok ((Nat.ofDigitChars 10 (digitChars (ds.take 9)) 0, (ds.take 9).length),
        digitChars (ds.drop 9) ++ c :: cs) := by
  have hsmall : Nat.ofDigitChars 10 (digitChars (ds.take 9)) 0 < 0x8000000000000000 := by
    have hvalue := ofDigitChars_leading 9 0 ds
    have hlt := leading_lt 9 ds
    have hpow : 1 ≤ 10 ^ (9 - (ds.take 9).length) := Nat.one_le_pow _ _ (by decide)
    have hle := Nat.le_mul_of_pos_right (Nat.ofDigitChars 10 (digitChars (ds.take 9)) 0) hpow
    omega
  have hends : (digitChars (ds.take 9)).length = 9 ∨
      ∀ d ∈ (digitChars (ds.drop 9) ++ c :: cs).head?, digit? d = none := by
    rw [length_digitChars, List.length_take]
    rcases Nat.le_total 9 ds.length with hlong | hshort
    · exact .inl (Nat.min_eq_left hlong)
    · rw [List.drop_eq_nil_of_le hshort]
      exact .inr (head?_not_digit h)
  have hle : (digitChars (ds.take 9)).length ≤ 9 := by
    rw [length_digitChars]
    exact List.length_take_le 9 ds
  have hnumber := number_digits (by simp [digitChars, hne]) (fun c => isDigit_of_mem_digitChars) hsmall hle hends
  rwa [← List.append_assoc, digitChars_take_drop, length_digitChars] at hnumber

theorem dropWhile_digitChars (ds : List (Fin 10)) {c : Char} {cs : List Char} (h : digit? c = none) :
    (digitChars ds ++ c :: cs).dropWhile (fun c => (digit? c).isSome) = c :: cs := by
  have hdigits : ∀ c ∈ digitChars ds, (digit? c).isSome := fun c hc => by
    rw [digit?_of_isDigit (isDigit_of_mem_digitChars hc)]
    rfl
  rw [List.dropWhile_append_of_pos hdigits, List.dropWhile_cons_of_neg (by simp [h])]

/-- What stands for the zone ends the digits before it. -/
theorem exists_cons_chars (z : Zone) : ∃ c cs, z.chars = c :: cs ∧ digit? c = none ∧ c ≠ '.' := by
  cases z with
  | universal letter h => rcases h with rfl | rfl <;> exact ⟨_, _, rfl, rfl, by decide⟩
  | offset west hours minutes => cases west <;> exact ⟨_, _, rfl, rfl, by decide⟩

theorem readFraction_stamp (ds : List (Fin 10)) (z : Zone) :
    readFraction (Stamp.fractionChars ds ++ z.chars) = .ok (leading 9 ds, z.chars) := by
  obtain ⟨c, cs, hz, hdigit, hpoint⟩ := exists_cons_chars z
  rw [hz]
  cases ds with
  | nil =>
    rw [Stamp.fractionChars, List.nil_append]
    unfold readFraction
    split
    · rename_i h
      exact absurd (List.cons.inj h).1 hpoint
    · rfl
  | cons d ds =>
    have hnumber : number 9 (digitChars (d :: ds) ++ c :: cs) = _ :=
      number_digitChars (List.cons_ne_nil d ds) hdigit
    have hvalue := ofDigitChars_leading 9 0 (d :: ds)
    rw [Nat.zero_mul, Nat.zero_add] at hvalue
    simp only [Stamp.fractionChars, List.cons_append, readFraction, hnumber, bind, Except.bind, pure, Except.pure,
      dropWhile_digitChars _ hdigit]
    exact congrArg (fun n => Except.ok (n, c :: cs)) hvalue

/-! ## The offset -/

theorem map_digit?_padded : ∀ n < 100, (padded 2 n).map digit? = [some (n / 10), some (n % 10)] := by decide

theorem padded_two {n : Nat} (h : n < 100) :
    ∃ c d, padded 2 n = [c, d] ∧ digit? c = some (n / 10) ∧ digit? d = some (n % 10) := by
  have hmap := map_digit?_padded n h
  obtain ⟨c, ds, hpadded, hc, hds⟩ := List.map_eq_cons_iff.1 hmap
  obtain ⟨d, es, rfl, hd, hes⟩ := List.map_eq_cons_iff.1 hds
  obtain rfl := List.map_eq_nil_iff.1 hes
  exact ⟨c, d, hpadded, hc, hd⟩

/-- A sign and the hours and minutes that it stands before. -/
theorem readOffset_signed {c : Char} (hc : c = '+' ∨ c = '-') {hours minutes : Nat} (hh : hours < 100)
    (hm : minutes < 60) : readOffset (c :: (padded 2 hours ++ ':' :: padded 2 minutes)) =
      .ok (if c = '+' then ((hours : Int) * 60 + minutes) * 60 else -(((hours : Int) * 60 + minutes) * 60),
        []) := by
  obtain ⟨h1, h2, hhours, hh1, hh2⟩ := padded_two hh
  obtain ⟨m1, m2, hminutes, hm1, hm2⟩ := padded_two (show minutes < 100 by omega)
  have hblank : Text.isBlank m1 = false := isBlank_of_isDigit (isDigit_of_mem_padded (by rw [hminutes]; simp))
  have hcolon : m1 ≠ ':' := by
    rintro rfl
    cases hm1
  have hskip : (':' :: [m1, m2]).dropWhile (fun c => c = ':' || Text.isBlank c) = [m1, m2] := by
    rw [List.dropWhile_cons_of_pos (by decide), List.dropWhile_cons_of_neg (by simp [hblank, hcolon])]
  have hfive : ¬ 5 < minutes / 10 := by omega
  have hhour : ((hours / 10 : Nat) : Int) * 10 + ((hours % 10 : Nat) : Int) = hours := by omega
  have hminute : ((minutes / 10 : Nat) : Int) * 10 + ((minutes % 10 : Nat) : Int) = minutes := by omega
  have hletters : ((c :: ([h1, h2] ++ ':' :: [m1, m2])).take 3).map Char.toUpper ≠ ['U', 'T', 'C'] := by
    intro h
    have hfirst := (List.cons.inj h).1
    rcases hc with rfl | rfl <;> exact absurd hfirst (by decide)
  have hsign : c = '+' ∨ c = '-' ∨ c = '\u2212' := hc.imp_right .inl
  rw [hhours, hminutes]
  unfold readOffset
  split
  · rename_i h
    cases h
  · rename_i h
    rw [(List.cons.inj h).1] at hc
    rcases hc with hc | hc <;> exact absurd hc (by decide)
  · rename_i h
    rw [(List.cons.inj h).1] at hc
    rcases hc with hc | hc <;> exact absurd hc (by decide)
  · rename_i h
    obtain ⟨rfl, rfl⟩ := List.cons.inj h
    rw [if_neg hletters, if_pos hsign]
    simp only [List.cons_append, List.nil_append, twoChars, bind, Except.bind, hh1, hh2, hskip, hm1, hm2,
      if_neg hfive, pure, Except.pure, hhour, hminute]

theorem readOffset_chars (z : Zone) : readOffset (skipBlank z.chars) = .ok (z.seconds, []) := by
  cases z with
  | universal letter h => rcases h with rfl | rfl <;> rfl
  | offset west hours minutes =>
    cases west with
    | false => exact readOffset_signed (.inl rfl) (by omega) minutes.isLt
    | true => exact readOffset_signed (.inr rfl) (by omega) minutes.isLt

theorem seconds_range (z : Zone) : (-86400 < z.seconds ∧ z.seconds < 86400) ∧ z.seconds % 60 = 0 := by
  cases z with
  | universal letter h =>
    have hzero : (Zone.universal letter h).seconds = 0 := rfl
    omega
  | offset west hours minutes =>
    unfold Zone.seconds
    cases west <;> simp <;> omega

/-- A timestamp is read as the instant that its fields say. -/
theorem parse_text (st : Stamp) :
    ∃ t, Instant.parse st.text = .ok t ∧ t.seconds = st.seconds ∧ t.nano = st.nano := by
  obtain ⟨⟨hlow, hhigh⟩, hminutes⟩ := seconds_range st.zone
  have hleading := leading_lt 9 st.fraction
  have hyear : padded 4 st.date.year.toNat = printYear st.date.year := (if_pos st.isWritten).symm
  have hparse := parseChars_fields st.date st.isSeparator (Nat.le_of_lt_succ st.hour.isLt)
    (Nat.le_of_lt_succ st.minute.isLt) (Nat.le_of_lt_succ st.sec.isLt) (readFraction_stamp st.fraction st.zone)
    (readOffset_chars st.zone) ⟨hlow, hhigh⟩
  have hclock : IsClock ((st.hour * 60 + st.minute) * 60 + if st.sec.val = 60 then 59 else st.sec.val)
      (if st.sec.val = 60 then leading 9 st.fraction + second else leading 9 st.fraction) := by
    have hsecond : second = 1000000000 := rfl
    refine ⟨?_, ?_, ?_⟩ <;> split <;> omega
  have hfirst : firstYear < st.date.year := lt_of_lt_of_le (by decide) st.isWritten.1
  have hlast : st.date.year < lastYear := lt_of_le_of_lt st.isWritten.2 (by decide)
  obtain ⟨t, ht⟩ := toUniversal_ok hfirst hlast hclock hminutes
  obtain ⟨hseconds, hnano⟩ := seconds_of_toUniversal hclock.1 hlow hhigh ht
  refine ⟨t, ?_, ?_, ?_⟩
  · unfold Instant.parse Stamp.text Stamp.chars
    rw [String.toList_ofList, hyear, hparse, ht]
  · have hsec : (if st.sec.val = 60 then 59 else st.sec.val) = min st.sec.val 59 := by split <;> omega
    rw [hseconds, Stamp.seconds, hsec]
    omega
  · have hsec : st.sec.val = 60 ↔ st.sec = 60 := by
      rw [Fin.ext_iff]
      rfl
    rw [hnano, Stamp.nano]
    simp only [hsec]
    split <;> omega

/-! ## The normal form -/

theorem leading_mod (k : Nat) (ds : List (Fin 10)) : leading k ds % 10 ^ (k - ds.length) = 0 := by
  induction k generalizing ds with
  | zero => simp [leading]
  | succ k ih =>
    cases ds with
    | nil => simp [leading]
    | cons d ds =>
      have hdvd : 10 ^ (k - ds.length) ∣ d.val * 10 ^ k :=
        Dvd.dvd.mul_left (Nat.pow_dvd_pow 10 (Nat.sub_le _ _)) _
      rw [leading, List.length_cons, Nat.add_sub_add_right]
      exact Nat.mod_eq_zero_of_dvd (hdvd.add (Nat.dvd_of_mod_eq_zero (ih ds)))

theorem exists_digits {l : List Char} (h : ∀ c ∈ l, c.isDigit) : ∃ ds, digitChars ds = l := by
  induction l with
  | nil => exact ⟨[], rfl⟩
  | cons c l ih =>
    obtain ⟨ds, hds⟩ := ih fun c hc => h c (List.mem_cons_of_mem _ hc)
    obtain ⟨d, hd⟩ := exists_digitChar (h c List.mem_cons_self)
    exact ⟨d :: ds, congrArg₂ List.cons hd hds⟩

/-- How many digits the fraction is written with: the least of none, three, six and nine that say all of it. -/
def fractionLength (nano : Nat) : Nat :=
  if nano = 0 then 0 else if nano % 1000000 = 0 then 3 else if nano % 1000 = 0 then 6 else 9

theorem exists_fraction {nano : Nat} (h : nano < second) :
    ∃ ds, Stamp.fractionChars ds = printFraction nano ∧ ds.length = fractionLength nano := by
  have hsecond : second = 1000000000 := rfl
  have hpadded {k n : Nat} (hk : 0 < k) (hn : n < 10 ^ k) :
      ∃ ds, Stamp.fractionChars ds = '.' :: padded k n ∧ ds.length = k := by
    obtain ⟨ds, hds⟩ : ∃ ds, digitChars ds = padded k n := exists_digits fun _ => isDigit_of_mem_padded
    have hlength : ds.length = k := by
      rw [← length_padded hk hn, ← hds, length_digitChars]
    obtain ⟨d, ds', rfl⟩ := List.exists_cons_of_length_pos (hlength ▸ hk)
    exact ⟨d :: ds', by rw [← hds]; rfl, hlength⟩
  unfold printFraction fractionLength
  split
  · exact ⟨[], rfl, rfl⟩
  · split
    · exact hpadded (by decide) (by omega)
    · split
      · exact hpadded (by decide) (by omega)
      · exact hpadded (by decide) (by omega)

theorem fractionLength_mem (nano : Nat) : fractionLength nano ∈ [0, 3, 6, 9] := by
  unfold fractionLength
  split_ifs <;> simp

/-- Digits of three, six or nine places say no more than the fraction of the normal form does. -/
theorem fractionLength_le {ds : List (Fin 10)} (h : ds.length ∈ [0, 3, 6, 9]) :
    fractionLength (leading 9 ds) ≤ ds.length := by
  have hmod := leading_mod 9 ds
  have hlt := leading_lt 9 ds
  unfold fractionLength
  simp only [List.mem_cons, List.not_mem_nil, or_false] at h
  rcases h with h | h | h | h <;> rw [h] at hmod ⊢ <;> norm_num at hmod <;> split_ifs <;> omega

/-- An instant in the years that are written without a sign is written as a timestamp in universal time, whose
fraction has no more digits than any other with none, three, six or nine. -/
theorem exists_stamp (t : Instant) (hyear : 0 ≤ t.date.year ∧ t.date.year ≤ 9999) :
    ∃ st : Stamp, st.text = t.render ∧ st.zone.chars = ['Z'] ∧ st.fraction.length ∈ [0, 3, 6, 9] ∧
      ∀ st' : Stamp, Instant.parse st'.text = .ok t → st'.fraction.length ∈ [0, 3, 6, 9] →
        st.fraction.length ≤ st'.fraction.length := by
  obtain ⟨hsec, hnano, hleap⟩ := t.isClock
  have hsecond : second = 1000000000 := rfl
  have hfraction : (if second ≤ t.nano then t.nano - second else t.nano) < second := by split <;> omega
  obtain ⟨ds, hds, hlength⟩ := exists_fraction hfraction
  let st : Stamp := {
    date := t.date
    isWritten := hyear
    separator := 'T'
    isSeparator := .inl rfl
    hour := ⟨t.secondOfDay / 3600, by omega⟩
    minute := ⟨t.secondOfDay / 60 % 60, by omega⟩
    sec := ⟨t.secondOfDay % 60 + if second ≤ t.nano then 1 else 0, by split <;> omega⟩
    fraction := ds
    zone := .universal 'Z' (.inl rfl) }
  refine ⟨st, ?_, rfl, ?_, fun st' hparse hst' => ?_⟩
  · have hprint : st.chars = t.print := by
      have hyear' : printYear t.date.year = padded 4 t.date.year.toNat := if_pos hyear
      unfold Stamp.chars Instant.print
      rw [hyear', hds]
      simp only [List.append_assoc, List.cons_append]
      rfl
    rw [Stamp.text, hprint]
    rfl
  · exact hlength ▸ fractionLength_mem _
  · obtain ⟨t', hparse', -, hnano'⟩ := parse_text st'
    cases hparse.symm.trans hparse'
    have hlt := leading_lt 9 st'.fraction
    have hvalue : (if second ≤ t.nano then t.nano - second else t.nano) = leading 9 st'.fraction := by
      rw [hnano', Stamp.nano]
      split_ifs <;> omega
    have hle := fractionLength_le hst'
    rw [← hvalue, ← hlength] at hle
    exact hle

end IdentityGroups.Time
