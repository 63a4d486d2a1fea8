import Mathlib
import IdentityGroups.Proofs.Text.Numeral
import IdentityGroups.Time.Rfc3339

/-! # A written instant reads back

Every field is written in digits that the reader takes whole, since what follows a field is never a
digit. Years outside the four-digit range carry a sign, after which any number of digits is read.
-/

namespace IdentityGroups.Time

/-! ## Digits -/

theorem digit?_of_isDigit {c : Char} (h : c.isDigit) : digit? c = some (c.toNat - '0'.toNat) :=
  Text.Numeral.digit?_of_isDigit h

/-- The digits of a numeral are taken whole when the width or what follows ends them. -/
theorem digitsUpTo_append {ds rest : List Char} {width : Nat} (n : Nat) (hds : ∀ c ∈ ds, c.isDigit)
    (hw : ds.length ≤ width) (hr : ds.length = width ∨ ∀ c ∈ rest.head?, digit? c = none) :
    digitsUpTo width n (ds ++ rest) = ((Nat.ofDigitChars 10 ds n, ds.length), rest) := by
  induction ds generalizing width n with
  | nil =>
    cases width with
    | zero => simp [digitsUpTo]
    | succ width =>
      cases rest with
      | nil => simp [digitsUpTo]
      | cons c rest =>
        have hc : digit? c = none := (hr.resolve_left (by simp)) c rfl
        simp [digitsUpTo, hc]
  | cons d ds ih =>
    cases width with
    | zero => simp at hw
    | succ width =>
      have hd := digit?_of_isDigit (hds d List.mem_cons_self)
      have ih := ih (n * 10 + (d.toNat - '0'.toNat)) (fun c hc => hds c (List.mem_cons_of_mem _ hc))
        (Nat.le_of_succ_le_succ hw) (hr.imp_left Nat.succ.inj)
      rw [List.cons_append, digitsUpTo, hd]
      simp only [ih]
      rw [Nat.ofDigitChars_cons, Nat.mul_comm 10 n, List.length_cons]

theorem isDigit_of_mem_padded {width n : Nat} {c : Char} (h : c ∈ padded width n) : c.isDigit := by
  rcases List.mem_append.1 h with h | h
  · rw [List.eq_of_mem_replicate h]
    decide
  · exact Nat.isDigit_of_mem_toDigits (by decide) (by decide) h

theorem ofDigitChars_padded (width n : Nat) : Nat.ofDigitChars 10 (padded width n) 0 = n := by
  simp [padded, Nat.ofDigitChars_append]

theorem length_padded {width n : Nat} (hw : 0 < width) (h : n < 10 ^ width) :
    (padded width n).length = width := by
  have := (Nat.length_toDigits_le_iff (b := 10) (by decide) hw).2 h
  simp only [padded, List.length_append, List.length_replicate]
  omega

theorem padded_ne_nil (width n : Nat) : padded width n ≠ [] := by
  simp [padded, Nat.toDigits_ne_nil]

/-- Digits are read as the number that they spell, up to what a signed word holds. -/
theorem number_digits {w : Nat} {ds r : List Char} (hne : ds ≠ []) (hds : ∀ c ∈ ds, c.isDigit)
    (hn : Nat.ofDigitChars 10 ds 0 < 0x8000000000000000) (hw : ds.length ≤ w)
    (hr : ds.length = w ∨ ∀ c ∈ r.head?, digit? c = none) :
    number w (ds ++ r) = .ok ((Nat.ofDigitChars 10 ds 0, ds.length), r) := by
  have hd := digitsUpTo_append 0 hds hw hr
  obtain ⟨c, cs, rfl⟩ := List.exists_cons_of_ne_nil hne
  unfold number
  simp only [List.cons_append] at hd ⊢
  rw [hd]
  simp [hn]

/-- A number written in digits reads back. -/
theorem number_append {w k n : Nat} {r : List Char} (hn : n < 0x8000000000000000)
    (hw : (padded k n).length ≤ w) (hr : (padded k n).length = w ∨ ∀ c ∈ r.head?, digit? c = none) :
    number w (padded k n ++ r) = .ok ((n, (padded k n).length), r) := by
  have hnum := number_digits (padded_ne_nil k n) (fun c => isDigit_of_mem_padded)
    (by rwa [ofDigitChars_padded]) hw hr
  rwa [ofDigitChars_padded] at hnum

/-! ## Fields and separators -/

theorem isBlank_of_isDigit {c : Char} (h : c.isDigit) : Text.isBlank c = false := by
  have hc := Text.Numeral.isDigit_iff_toNat.1 h
  obtain ⟨n, hn⟩ : ∃ n, c.toNat = n := ⟨_, rfl⟩
  have : c = Char.ofNat n := by rw [← hn, Char.ofNat_toNat]
  rw [hn] at hc
  obtain ⟨hl, hu⟩ := hc
  subst this
  interval_cases n <;> rfl

theorem skipBlank_cons {c : Char} {cs : List Char} (h : Text.isBlank c = false) :
    skipBlank (c :: cs) = c :: cs := by
  simp [skipBlank, h]

theorem skipBlank_padded (width n : Nat) (rest : List Char) :
    skipBlank (padded width n ++ rest) = padded width n ++ rest := by
  obtain ⟨c, cs, hc⟩ := List.exists_cons_of_ne_nil (padded_ne_nil width n)
  have hd : c.isDigit := isDigit_of_mem_padded (hc ▸ List.mem_cons_self)
  rw [hc, List.cons_append]
  exact skipBlank_cons (isBlank_of_isDigit hd)

theorem field_padded {low high n : Nat} {rest : List Char} (hn : low ≤ n ∧ n ≤ high)
    (hh : high < 100) : field low high (padded 2 n ++ rest) = .ok (n, rest) := by
  have hl : (padded 2 n).length = 2 := length_padded (by decide) (by omega)
  have h := number_append (r := rest) (n := n) (k := 2) (w := 2) (by omega) (by omega) (.inl hl)
  simp only [field, skipBlank_padded, h]
  simp [bind, Except.bind, hn, pure, Except.pure]

theorem separator_cons {c : Char} {rest : List Char} (h : Text.isBlank c = false) :
    separator c (c :: rest) = .ok rest := by
  simp [separator, skipBlank_cons h]

/-! ## The year, the fraction and the offset -/

theorem head?_not_digit {c : Char} {rest : List Char} (h : digit? c = none) :
    ∀ d ∈ (c :: rest).head?, digit? d = none := by
  intro d hd
  cases hd
  exact h

theorem readYear_printYear (d : Date) (rest : List Char) :
    readYear (printYear d.year ++ '-' :: rest) = .ok (d.year, '-' :: rest) := by
  obtain ⟨hlow, hhigh⟩ := d.isDate.1
  simp only [firstYear, lastYear] at hlow hhigh
  generalize d.year = y at hlow hhigh
  have hdash : ∀ c ∈ ('-' :: rest).head?, digit? c = none := head?_not_digit rfl
  have hrange : -0x80000000 ≤ y ∧ y < 0x80000000 := by omega
  unfold printYear
  split
  · rename_i hy
    have hlen : (padded 4 y.toNat).length = 4 := length_padded (by decide) (by omega)
    have hnum := number_append (k := 4) (w := 4) (n := y.toNat) (by omega) (by omega) (.inr hdash)
    have hy' : 1 * (y.toNat : Int) = y := by omega
    obtain ⟨c, cs, hc⟩ := List.exists_cons_of_ne_nil (padded_ne_nil 4 y.toNat)
    have hdigit : c.isDigit := isDigit_of_mem_padded (hc ▸ List.mem_cons_self)
    have hminus : c ≠ '-' := by rintro rfl; exact absurd hdigit (by decide)
    have hplus : c ≠ '+' := by rintro rfl; exact absurd hdigit (by decide)
    unfold readYear
    rw [skipBlank_padded, hc, List.cons_append]
    rw [hc, List.cons_append] at hnum
    split
    rename_i heq
    split at heq
    · rename_i h
      exact absurd (List.cons.inj h).1 hminus
    · rename_i h
      exact absurd (List.cons.inj h).1 hplus
    · cases heq
      simp only [hnum, bind, Except.bind, hy', if_pos hrange, pure, Except.pure]
  · rename_i hy
    have hlen : (padded 4 y.natAbs).length ≤ (padded 4 y.natAbs ++ '-' :: rest).length := by simp
    have hnum := number_append (k := 4) (n := y.natAbs) (by omega) hlen (.inr hdash)
    by_cases hneg : y < 0
    · have hy' : -1 * (y.natAbs : Int) = y := by omega
      simp only [readYear, if_pos hneg, List.cons_append, skipBlank_cons (c := '-') rfl, hnum, bind,
        Except.bind, hy', if_pos hrange, pure, Except.pure]
    · have hy' : 1 * (y.natAbs : Int) = y := by omega
      simp only [readYear, if_neg hneg, List.cons_append, skipBlank_cons (c := '+') rfl, hnum, bind,
        Except.bind, hy', if_pos hrange, pure, Except.pure]

/-- A fraction of `k` digits counts units of ten to the power `9 - k` nanoseconds. -/
theorem readFraction_padded {k n : Nat} (hk : 0 < k) (hk9 : k ≤ 9) (hn : n < 10 ^ k) :
    readFraction ('.' :: padded k n ++ ['Z']) = .ok (n * 10 ^ (9 - k), ['Z']) := by
  have hlen := length_padded hk hn
  have hle : 10 ^ k ≤ 10 ^ 9 := Nat.pow_le_pow_right (by decide) hk9
  have hnum := number_append (k := k) (w := 9) (n := n) (r := ['Z']) (by omega) (by omega)
    (.inr (head?_not_digit rfl))
  simp only [List.cons_append, readFraction, hnum, hlen]
  rfl

theorem readFraction_printFraction {nano : Nat} (h : nano < second) :
    readFraction (printFraction nano ++ ['Z']) = .ok (nano, ['Z']) := by
  unfold second at h
  unfold printFraction
  split
  · rename_i h0
    rw [h0]
    rfl
  · split
    · rename_i h3
      have hn : nano / 1000000 * 10 ^ (9 - 3) = nano := by omega
      rw [readFraction_padded (by decide) (by decide) (by omega), hn]
    · split
      · rename_i h6
        have hn : nano / 1000 * 10 ^ (9 - 6) = nano := by omega
        rw [readFraction_padded (by decide) (by decide) (by omega), hn]
      · rw [readFraction_padded (by decide) (by decide) (by omega), Nat.sub_self,
          Nat.pow_zero, Nat.mul_one]

/-! ## The whole timestamp -/

theorem Instant.of?_self (t : Instant) : of? t.date t.secondOfDay t.nano = some t :=
  dif_pos t.isClock

/-- The offset is a variable here so that its value is not computed with. -/
theorem toUniversal_self (t : Instant) {offset : Int} (h : offset = 0) :
    toUniversal t.date t.secondOfDay t.nano offset = .ok t := by
  have hs : t.secondOfDay < 86400 := t.isClock.1
  have h0 : ¬ ((t.secondOfDay : Int) - offset < 0) := by omega
  have h1 : (t.secondOfDay : Int) - offset < 86400 := by omega
  have hm : (((t.secondOfDay : Int) - offset) % 86400).toNat = t.secondOfDay := by omega
  simp only [toUniversal, if_neg h0, if_pos h1, hm, Instant.of?_self]

theorem Date.of?_self (d : Date) : of? d.year d.month d.day = some d :=
  dif_pos d.isDate

theorem daysIn_le (year : Int) (month : Nat) : daysIn year month ≤ 31 := by
  unfold daysIn
  split
  · split <;> decide
  · split <;> decide

/-- Any second up to the sixtieth, written after the other fields, is read back with what follows it. -/
theorem parseChars_fields (d : Date) {hour minute sec nano : Nat} {offset : Int} {t : Char}
    {rest zone : List Char} (ht : t = 'T' ∨ t = 't' ∨ t = ' ') (hh : hour ≤ 23) (hm : minute ≤ 59) (hs : sec ≤ 60)
    (hfraction : readFraction rest = .ok (nano, zone)) (hzone : readOffset (skipBlank zone) = .ok (offset, []))
    (hrange : -86400 < offset ∧ offset < 86400) :
    Instant.parseChars (printYear d.year ++ '-' :: (padded 2 d.month ++ '-' :: (padded 2 d.day ++ t ::
      (padded 2 hour ++ ':' :: (padded 2 minute ++ ':' :: (padded 2 sec ++ rest)))))) =
    toUniversal d ((hour * 60 + minute) * 60 + if sec = 60 then 59 else sec)
      (if sec = 60 then nano + second else nano) offset := by
  obtain ⟨-, ⟨hm1, hm12⟩, hd1, hd⟩ := d.isDate
  have hd31 := hd.trans (daysIn_le _ _)
  have hrange' : ¬ (offset ≤ -86400 ∨ 86400 ≤ offset) := by omega
  unfold Instant.parseChars
  simp only [readYear_printYear, bind, Except.bind, pure, Except.pure, separator_cons (c := '-') rfl,
    separator_cons (c := ':') rfl, field_padded ⟨hm1, hm12⟩ (by decide),
    field_padded ⟨hd1, hd31⟩ (by decide), if_pos ht, field_padded ⟨Nat.zero_le _, hh⟩ (by decide),
    field_padded ⟨Nat.zero_le _, hm⟩ (by decide), field_padded ⟨Nat.zero_le _, hs⟩ (by decide),
    hfraction, hzone, Date.of?_self, if_neg hrange']
  by_cases h60 : sec = 60
  · simp [h60, skipBlank]
  · simp [h60, skipBlank]

/-- The sixtieth second of a minute stands for its last one with a thousand million nanoseconds more. -/
theorem parse_render (t : Instant) : Instant.parse t.render = .ok t := by
  obtain ⟨hsec, hnano, hleap⟩ := t.isClock
  have hz : readOffset (skipBlank ['Z']) = .ok (0, []) := rfl
  unfold Instant.parse Instant.render Instant.print
  rw [String.toList_ofList]
  simp only [List.append_assoc, List.cons_append]
  by_cases hl : second ≤ t.nano
  · have h59 := hleap hl
    have h60 : t.secondOfDay % 60 + 1 = 60 := by omega
    have hback : t.nano - second + second = t.nano := by omega
    have hclock : (t.secondOfDay / 3600 * 60 + t.secondOfDay / 60 % 60) * 60 + 59 = t.secondOfDay := by
      omega
    simp only [hl, if_true]
    rw [parseChars_fields t.date (.inl rfl) (by omega) (by omega) (by omega)
      (readFraction_printFraction (by omega)) hz (by decide), if_pos h60, if_pos h60, hback, hclock]
    exact toUniversal_self t rfl
  · have h60 : t.secondOfDay % 60 + 0 ≠ 60 := by omega
    have hclock : (t.secondOfDay / 3600 * 60 + t.secondOfDay / 60 % 60) * 60 + (t.secondOfDay % 60 + 0) =
        t.secondOfDay := by omega
    simp only [hl, if_false]
    rw [parseChars_fields t.date (.inl rfl) (by omega) (by omega) (by omega)
      (readFraction_printFraction (by omega)) hz (by decide), if_neg h60, if_neg h60, hclock]
    exact toUniversal_self t rfl

end IdentityGroups.Time
