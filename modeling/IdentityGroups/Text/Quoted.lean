import IdentityGroups.Text.Unprinted

/-! # Quoted text

A text between double quotes, as it appears in messages: quotes and backslashes take a backslash,
tab, line feed, carriage return and NUL their letters, and other characters that cannot be shown
their number in braces.
-/

namespace IdentityGroups.Text.Quoted

def hexDigits (n : Nat) : List Char := Nat.toDigits 16 n

def encodeChar (c : Char) : List Char :=
  if c = '\x00' then ['\\', '0']
  else if c = '\t' then ['\\', 't']
  else if c = '\r' then ['\\', 'r']
  else if c = '\n' then ['\\', 'n']
  else if c = '\\' ∨ c = '"' then ['\\', c]
  else if ' ' ≤ c ∧ c ≤ '~' then [c]
  else if isUnprinted c then ['\\', 'u', '\x7b'] ++ hexDigits c.toNat ++ ['\x7d']
  else [c]

def encode (s : String) : String :=
  String.ofList ('"' :: s.toList.flatMap encodeChar ++ ['"'])

end IdentityGroups.Text.Quoted
