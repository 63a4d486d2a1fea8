import Mathlib
import IdentityGroups.Proofs.Text.Utf8
import IdentityGroups.Text.Percent

/-! # Percent encoding loses nothing

What is written for a byte is ASCII and has no slash, and reads back as that byte before anything that
follows, so an encoded text decodes to itself.
-/

namespace IdentityGroups.Text.Percent

theorem utf8EncodeChar_ascii {c : Char} (h : c.toNat < 0x80) :
    String.utf8EncodeChar c = [UInt8.ofNat c.toNat] := by
  have hc : c.val.toNat ≤ 0x7f := Nat.le_of_lt_succ h
  simp only [String.utf8EncodeChar, if_pos hc]
  rfl

theorem hexValue?_hexDigit {n : Nat} (h : n < 16) :
    hexValue? (UInt8.ofNat (hexDigit n).toNat) = some (UInt8.ofNat n) := by
  interval_cases n <;> rfl

theorem hexDigit_ascii {n : Nat} (h : n < 16) : (hexDigit n).toNat < 0x80 ∧ hexDigit n ≠ '/' := by
  interval_cases n <;> decide

theorem isUnreserved_ascii {b : UInt8} (h : isUnreserved b) : b.toNat < 0x80 ∧ b ≠ 0x25 ∧ b ≠ 0x2f := by
  obtain ⟨n, hn, rfl⟩ : ∃ n, n < 256 ∧ b = UInt8.ofNat n := ⟨b.toNat, b.toNat_lt, (UInt8.ofNat_toNat).symm⟩
  revert n
  decide +kernel

theorem toNat_charOf {n : Nat} (h : n < 0x80) : (Char.ofNat n).toNat = n := by
  interval_cases n <;> rfl

theorem decodeBytes_cons {b : UInt8} (h : b ≠ 0x25) (rest : List UInt8) :
    decodeBytes (b :: rest) = b :: decodeBytes rest := by
  rw [decodeBytes.eq_def]
  simp only [if_neg h]

theorem decodeBytes_escape {h l x y : UInt8} (hx : hexValue? h = some x) (hy : hexValue? l = some y)
    (rest : List UInt8) : decodeBytes (0x25 :: h :: l :: rest) = (x * 16 + y) :: decodeBytes rest := by
  rw [decodeBytes.eq_def]
  simp only [if_true, hx, hy]

/-- Each byte reads back from what is written for it. -/
theorem decodeBytes_encodeByte (b : UInt8) (rest : List UInt8) :
    decodeBytes ((encodeByte b).flatMap String.utf8EncodeChar ++ rest) = b :: decodeBytes rest := by
  unfold encodeByte
  split
  · rename_i h
    obtain ⟨hb, hne, _⟩ := isUnreserved_ascii h
    have hc : (Char.ofNat b.toNat).toNat = b.toNat := toNat_charOf hb
    rw [List.flatMap_singleton, utf8EncodeChar_ascii (hc.trans_lt hb), hc, UInt8.ofNat_toNat]
    exact decodeBytes_cons hne rest
  · have hlt : b.toNat < 256 := b.toNat_lt
    have hh : b.toNat / 16 < 16 := by omega
    have hl : b.toNat % 16 < 16 := by omega
    have hp : String.utf8EncodeChar '%' = [0x25] := utf8EncodeChar_ascii (by decide)
    simp only [List.flatMap_cons, List.flatMap_nil, hp, utf8EncodeChar_ascii (hexDigit_ascii hh).1,
      utf8EncodeChar_ascii (hexDigit_ascii hl).1, List.cons_append, List.nil_append]
    rw [decodeBytes_escape (hexValue?_hexDigit hh) (hexValue?_hexDigit hl)]
    congr 1
    apply UInt8.toNat_inj.1
    rw [UInt8.toNat_add, UInt8.toNat_mul, UInt8.toNat_ofNat', UInt8.toNat_ofNat']
    change (b.toNat / 16 % 256 * 16 % 256 + b.toNat % 16 % 256) % 256 = b.toNat
    omega

theorem decodeBytes_encodeBytes (bs : List UInt8) :
    decodeBytes ((bs.flatMap encodeByte).flatMap String.utf8EncodeChar) = bs := by
  induction bs with
  | nil => rfl
  | cons b bs ih => rw [List.flatMap_cons, List.flatMap_append, decodeBytes_encodeByte, ih]

theorem decode_encode (s : String) : decode (encode s) = .ok s := by
  have h : Utf8.encode (encode s) = ((Utf8.encode s).flatMap encodeByte).flatMap String.utf8EncodeChar := by
    rw [encode, Utf8.encode, String.toList_ofList]
  rw [decode, h, decodeBytes_encodeBytes, Utf8.decode_encode]

theorem encode_injective : Function.Injective encode := by
  intro s s' h
  have hd := decode_encode s
  rw [h, decode_encode] at hd
  exact (Except.ok.inj hd).symm

/-! ## What is written -/

def IsHexDigit (c : Char) : Prop := c.isDigit ∨ ('A' ≤ c ∧ c ≤ 'F')

instance (c : Char) : Decidable (IsHexDigit c) := by unfold IsHexDigit; infer_instance

inductive Escaped : List Char → Prop
  | nil : Escaped []
  | plain {c : Char} {rest : List Char} (hc : c.isAlphanum ∨ c ∈ ['-', '_', '.', '~']) (h : Escaped rest) :
      Escaped (c :: rest)
  | escape {c d : Char} {rest : List Char} (hc : IsHexDigit c) (hd : IsHexDigit d) (h : Escaped rest) :
      Escaped ('%' :: c :: d :: rest)

theorem isHexDigit_hexDigit {n : Nat} (h : n < 16) : IsHexDigit (hexDigit n) := by
  interval_cases n <;> decide

theorem plain_of_isUnreserved {b : UInt8} (h : isUnreserved b) :
    (Char.ofNat b.toNat).isAlphanum ∨ Char.ofNat b.toNat ∈ ['-', '_', '.', '~'] := by
  obtain ⟨n, hn, rfl⟩ : ∃ n, n < 256 ∧ b = UInt8.ofNat n := ⟨b.toNat, b.toNat_lt, (UInt8.ofNat_toNat).symm⟩
  revert n
  decide +kernel

theorem escaped_flatMap (bs : List UInt8) : Escaped (bs.flatMap encodeByte) := by
  induction bs with
  | nil => exact .nil
  | cons b bs ih =>
    rw [List.flatMap_cons, encodeByte]
    split
    · rename_i h
      exact .plain (plain_of_isUnreserved h) ih
    · have hlt : b.toNat < 256 := b.toNat_lt
      exact .escape (isHexDigit_hexDigit (by omega)) (isHexDigit_hexDigit (by omega)) ih

theorem escaped_encode (s : String) : Escaped (encode s).toList := by
  rw [encode, String.toList_ofList]
  exact escaped_flatMap _

theorem slash_not_mem_encode (s : String) : '/' ∉ (encode s).toList := by
  rw [encode, String.toList_ofList, List.mem_flatMap]
  rintro ⟨b, _, hb⟩
  unfold encodeByte at hb
  split at hb
  · rename_i h
    obtain ⟨hlt, _, hne⟩ := isUnreserved_ascii h
    have hc := congrArg Char.toNat (List.mem_singleton.1 hb)
    rw [toNat_charOf hlt] at hc
    exact hne (UInt8.toNat_inj.1 hc.symm)
  · have hlt : b.toNat < 256 := b.toNat_lt
    simp only [List.mem_cons, List.not_mem_nil, or_false] at hb
    rcases hb with hb | hb | hb
    · exact absurd hb (by decide)
    · exact (hexDigit_ascii (by omega)).2 hb.symm
    · exact (hexDigit_ascii (by omega)).2 hb.symm

theorem encode_ne_empty {s : String} (h : s ≠ "") : encode s ≠ "" := by
  intro he
  have hd := decode_encode s
  rw [he] at hd
  exact h (Except.ok.inj hd).symm

end IdentityGroups.Text.Percent
