/-! # Unsigned numerals

A numeral is an optional `+` and decimal digits, read from the left into a width: the first
character that is no digit, or that takes the number past the largest one, decides the error.
-/

namespace IdentityGroups.Text.Numeral

inductive Fault where
  | empty
  | invalidDigit
  | overflow
  deriving DecidableEq, Repr

def Fault.message : Fault → String
  | .empty => "cannot parse integer from empty string"
  | .invalidDigit => "invalid digit found in string"
  | .overflow => "number too large to fit in target type"

def digit? (c : Char) : Option Nat :=
  if '0' ≤ c ∧ c ≤ '9' then some (c.toNat - 48) else none

/-- Appends the digits `cs` to `n`; `largest` is the greatest number allowed. -/
def extend (largest : Nat) : Nat → List Char → Except Fault Nat
  | n, [] => .ok n
  | n, c :: cs =>
    match digit? c with
    | none => .error .invalidDigit
    | some d => if n * 10 + d ≤ largest then extend largest (n * 10 + d) cs else .error .overflow

def parse (largest : Nat) (s : String) : Except Fault Nat :=
  match s.toList with
  | [] => .error .empty
  | ['+'] => .error .invalidDigit
  | '+' :: cs => extend largest 0 cs
  | cs => extend largest 0 cs

def largest16 : Nat := 65535

def largest64 : Nat := 18446744073709551615

end IdentityGroups.Text.Numeral
