import IdentityGroups.Text.Utf8

/-! # Percent encoding

A text becomes one segment of a path: each byte of its UTF-8 form that is not unreserved is written
`%` and two upper-case hexadecimal digits. Decoding takes `%` with two digits of either case for a
byte; any other `%` stands for itself.
-/

namespace IdentityGroups.Text.Percent

/-- The bytes that stand for themselves: letters, digits and `- . _ ~`. -/
def isUnreserved (b : UInt8) : Bool :=
  (0x41 ≤ b && b ≤ 0x5a) || (0x61 ≤ b && b ≤ 0x7a) || (0x30 ≤ b && b ≤ 0x39) ||
    b = 0x2d || b = 0x2e || b = 0x5f || b = 0x7e

def hexDigit (n : Nat) : Char :=
  if n < 10 then Char.ofNat (48 + n) else Char.ofNat (55 + n)

def encodeByte (b : UInt8) : List Char :=
  if isUnreserved b then [Char.ofNat b.toNat]
  else ['%', hexDigit (b.toNat / 16), hexDigit (b.toNat % 16)]

def encode (s : String) : String := String.ofList ((Utf8.encode s).flatMap encodeByte)

def hexValue? (b : UInt8) : Option UInt8 :=
  if 0x30 ≤ b && b ≤ 0x39 then some (b - 0x30)
  else if 0x41 ≤ b && b ≤ 0x46 then some (b - 0x37)
  else if 0x61 ≤ b && b ≤ 0x66 then some (b - 0x57)
  else none

def decodeBytes : List UInt8 → List UInt8
  | [] => []
  | b :: rest =>
    if b = 0x25 then
      match rest with
      | h :: l :: rest' =>
        match hexValue? h, hexValue? l with
        | some x, some y => (x * 16 + y) :: decodeBytes rest'
        | _, _ => b :: decodeBytes (h :: l :: rest')
      | rest => b :: decodeBytes rest
    else b :: decodeBytes rest

def decode (s : String) : Except Utf8.Malformed String :=
  Utf8.decode (decodeBytes (Utf8.encode s))

end IdentityGroups.Text.Percent
