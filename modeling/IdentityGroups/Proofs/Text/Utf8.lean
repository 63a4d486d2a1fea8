import Mathlib
import IdentityGroups.Text.Utf8

/-! # Encoded text decodes

The machine is followed over the one to four bytes of a character. The bounds that a first byte puts on
the second one are met because a character is neither written longer than needed nor a surrogate.
-/

namespace IdentityGroups.Text.Utf8

theorem first_ascii {n : Nat} (h : n < 0x80) : first (UInt8.ofNat n) = .finished (Char.ofNat n) := by
  interval_cases n <;> rfl

theorem first_two {n : Nat} (hl : 2 ≤ n) (h : n < 0x20) :
    first (UInt8.ofNat (n + 0xc0)) = .more ⟨1, 1, 0x80, 0xbf, n⟩ := by
  interval_cases n <;> rfl

theorem first_three {n : Nat} (h : n < 0x10) : first (UInt8.ofNat (n + 0xe0)) =
    .more ⟨1, 2, if n = 0 then 0xa0 else 0x80, if n = 0xd then 0x9f else 0xbf, n⟩ := by
  interval_cases n <;> rfl

theorem first_four {n : Nat} (h : n < 5) : first (UInt8.ofNat (n + 0xf0)) =
    .more ⟨1, 3, if n = 0 then 0x90 else 0x80, if n = 4 then 0x8f else 0xbf, n⟩ := by
  interval_cases n <;> rfl

/-- A byte within the bounds continues the character. -/
theorem next_continuation (p : Partial) {n : Nat} (hl : p.low.toNat ≤ n + 0x80)
    (hh : n + 0x80 ≤ p.high.toNat) : p.next (UInt8.ofNat (n + 0x80)) =
      if p.owed ≤ 1 then .finished (Char.ofNat (p.bits * 64 + n))
      else .more ⟨p.seen + 1, p.owed - 1, 0x80, 0xbf, p.bits * 64 + n⟩ := by
  have hb : n + 0x80 < 256 := Nat.lt_of_le_of_lt hh p.high.toNat_lt
  have hn : (UInt8.ofNat (n + 0x80)).toNat = n + 0x80 := by
    rw [UInt8.toNat_ofNat']
    omega
  have hin : p.low ≤ UInt8.ofNat (n + 0x80) ∧ UInt8.ofNat (n + 0x80) ≤ p.high := by
    rw [UInt8.le_iff_toNat_le, UInt8.le_iff_toNat_le, hn]
    exact ⟨hl, hh⟩
  rw [Partial.next, if_pos hin, hn]
  simp only [Nat.add_sub_cancel]

theorem next_last {seen n bits : Nat} {low high : UInt8} (hl : low.toNat ≤ n + 0x80)
    (hh : n + 0x80 ≤ high.toNat) : Partial.next ⟨seen, 1, low, high, bits⟩ (UInt8.ofNat (n + 0x80)) =
      .finished (Char.ofNat (bits * 64 + n)) :=
  next_continuation _ hl hh

theorem next_more (owed : Nat) {seen n bits : Nat} {low high : UInt8} (hl : low.toNat ≤ n + 0x80)
    (hh : n + 0x80 ≤ high.toNat) :
    Partial.next ⟨seen, owed + 2, low, high, bits⟩ (UInt8.ofNat (n + 0x80)) =
      .more ⟨seen + 1, owed + 1, 0x80, 0xbf, bits * 64 + n⟩ :=
  (next_continuation _ hl hh).trans (if_neg (by simp))

/-- Six bits are between the bounds of a byte that nothing more is known of. -/
theorem continuation_bounds (v : Nat) :
    (0x80 : UInt8).toNat ≤ v % 0x40 + 0x80 ∧ v % 0x40 + 0x80 ≤ (0xbf : UInt8).toNat := by
  change 0x80 ≤ _ ∧ _ ≤ 0xbf
  omega

/-- A three-byte character is not one of two bytes, nor a surrogate. -/
theorem second_of_three {v : Nat} (hl : 0x7ff < v) (hv : v < 0xd800 ∨ 0xdfff < v) :
    (if v / 4096 = 0 then (0xa0 : UInt8) else 0x80).toNat ≤ v / 64 % 0x40 + 0x80 ∧
      v / 64 % 0x40 + 0x80 ≤ (if v / 4096 = 0xd then (0x9f : UInt8) else 0xbf).toNat := by
  constructor
  · split
    · change 0xa0 ≤ _
      omega
    · exact (continuation_bounds _).1
  · split
    · change _ ≤ 0x9f
      omega
    · exact (continuation_bounds _).2

/-- A four-byte character is not one of three bytes, nor past the last. -/
theorem second_of_four {v : Nat} (hl : 0xffff < v) (hv : v < 0x110000) :
    (if v / 262144 = 0 then (0x90 : UInt8) else 0x80).toNat ≤ v / 4096 % 0x40 + 0x80 ∧
      v / 4096 % 0x40 + 0x80 ≤ (if v / 262144 = 4 then (0x8f : UInt8) else 0xbf).toNat := by
  constructor
  · split
    · change 0x90 ≤ _
      omega
    · exact (continuation_bounds _).1
  · split
    · change _ ≤ 0x8f
      omega
    · exact (continuation_bounds _).2

theorem decodeFrom_char (c : Char) (i : Nat) (rest : List UInt8) :
    decodeFrom none i (String.utf8EncodeChar c ++ rest) =
      (decodeFrom none (i + (String.utf8EncodeChar c).length) rest).map (c :: ·) := by
  have hc : Char.ofNat c.val.toNat = c := Char.ofNat_toNat c
  have hvalid : c.val.toNat < 0xd800 ∨ (0xdfff < c.val.toNat ∧ c.val.toNat < 0x110000) := c.valid
  simp only [String.utf8EncodeChar]
  generalize c.val.toNat = v at hc hvalid
  obtain ⟨hl, hh⟩ := continuation_bounds v
  obtain ⟨hl', hh'⟩ := continuation_bounds (v / 64)
  by_cases h1 : v ≤ 0x7f
  · rw [if_pos h1]
    simp only [List.cons_append, List.nil_append, decodeFrom, first_ascii (Nat.lt_succ_of_le h1), hc,
      List.length_cons, List.length_nil]
  rw [if_neg h1]
  by_cases h2 : v ≤ 0x7ff
  · have hmod : v / 64 % 0x20 = v / 64 := by omega
    have hfirst := first_two (n := v / 64) (by omega) (by omega)
    have hv : v / 64 * 64 + v % 0x40 = v := by omega
    rw [if_pos h2, hmod]
    simp only [List.cons_append, List.nil_append, decodeFrom, hfirst, next_last hl hh, hv, hc,
      List.length_cons, List.length_nil]
  rw [if_neg h2]
  by_cases h3 : v ≤ 0xffff
  · have hmod : v / 4096 % 0x10 = v / 4096 := by omega
    have hfirst := first_three (n := v / 4096) (by omega)
    obtain ⟨hl₂, hh₂⟩ := second_of_three (Nat.lt_of_not_le h2) (by omega)
    have hv : (v / 4096 * 64 + v / 64 % 0x40) * 64 + v % 0x40 = v := by omega
    rw [if_pos h3, hmod]
    simp only [List.cons_append, List.nil_append, decodeFrom, hfirst, next_more 0 hl₂ hh₂,
      next_last hl hh, hv, hc, List.length_cons, List.length_nil]
  · have hmod : v / 262144 % 0x08 = v / 262144 := by omega
    have hfirst := first_four (n := v / 262144) (by omega)
    obtain ⟨hl₂, hh₂⟩ := second_of_four (Nat.lt_of_not_le h3) (by omega)
    have hv : ((v / 262144 * 64 + v / 4096 % 0x40) * 64 + v / 64 % 0x40) * 64 + v % 0x40 = v := by omega
    rw [if_neg h3, hmod]
    simp only [List.cons_append, List.nil_append, decodeFrom, hfirst, next_more 1 hl₂ hh₂,
      next_more 0 hl' hh', next_last hl hh, hv, hc, List.length_cons, List.length_nil]

theorem decodeFrom_encode (cs : List Char) (i : Nat) :
    decodeFrom none i (cs.flatMap String.utf8EncodeChar) = .ok cs := by
  induction cs generalizing i with
  | nil => rfl
  | cons c cs ih =>
    rw [List.flatMap_cons, decodeFrom_char, ih]
    rfl

theorem decode_encode (s : String) : decode (encode s) = .ok s := by
  rw [decode, encode, decodeFrom_encode]
  simp [Except.map]

end IdentityGroups.Text.Utf8
