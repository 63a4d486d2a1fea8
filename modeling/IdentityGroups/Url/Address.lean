/-! # Addresses of hosts

A host may be given by its number: as numbers between dots, the last of which takes up the bytes
that the others leave (version 4 of the protocol), or as eight groups of two bytes, where two colons
stand for as many zero groups as are missing (version 6).
-/

namespace IdentityGroups.Url.Address

def valueOf (base : Nat) (digits : List Char) : Nat :=
  digits.foldl (fun n c => base * n + (if c.isDigit then c.toNat - 48 else c.toLower.toNat - 87)) 0

def isOctal (c : Char) : Bool := '0' ≤ c && c ≤ '7'

def isHex (c : Char) : Bool :=
  c.isDigit || ('a' ≤ c && c ≤ 'f') || ('A' ≤ c && c ≤ 'F')

/-- The number that a part between dots is: in base 16 after `0x`, in base 8 after another zero, and
in base 10. -/
def number? (part : List Char) : Option Nat :=
  let inBase (base : Nat) (isDigit : Char → Bool) (digits : List Char) :=
    if digits.all isDigit then some (valueOf base digits) else none
  match part with
  | [] => none
  | '0' :: 'x' :: digits => inBase 16 isHex digits
  | '0' :: 'X' :: digits => inBase 16 isHex digits
  | '0' :: d :: digits => inBase 8 isOctal (d :: digits)
  | digits => inBase 10 Char.isDigit digits

def parts (labels : List (List Char)) : List (List Char) :=
  if labels.getLast? = some [] then labels.dropLast else labels

/-- Whether labels can only be meant as numbers. -/
def areNumeric (labels : List (List Char)) : Bool :=
  match (parts labels).getLast? with
  | none => false
  | some part => (part ≠ [] && part.all Char.isDigit) || (number? part).isSome

def v4? (labels : List (List Char)) : Option Nat := do
  let numbers ← (parts labels).mapM number?
  let bytes := numbers.dropLast
  let last ← numbers.getLast?
  let places := 4 - bytes.length
  if bytes.length < 4 ∧ bytes.all (· ≤ 255) ∧ last < Nat.pow 256 places then
    some (bytes.foldl (fun n b => 256 * n + b) 0 * Nat.pow 256 places + last)
  else none

def byte? (digits : List Char) : Option Nat :=
  if digits ≠ [] ∧ digits.all Char.isDigit ∧ (digits.head? = some '0' → digits.length = 1) ∧
      valueOf 10 digits ≤ 255 then
    some (valueOf 10 digits)
  else none

def group? (digits : List Char) : Option Nat :=
  if digits ≠ [] ∧ digits.all isHex ∧ digits.length ≤ 4 then some (valueOf 16 digits) else none

def dotted? (text : List Char) : Option (List Nat) := do
  match ← (text.splitOn '.').mapM byte? with
  | [a, b, c, d] => some [256 * a + b, 256 * c + d]
  | _ => none

def someGroups? (text : List Char) : Option (List Nat) := (text.splitOn ':').mapM group?

def groups? (text : List Char) : Option (List Nat) :=
  if text = [] then some [] else someGroups? text

/-- The groups between colons at the end of an address: the last two may be given as bytes. -/
def lastGroups? (text : List Char) : Option (List Nat) :=
  let last := (text.reverse.takeWhile (· ≠ ':')).reverse
  if '.' ∈ last then do
    let before := text.take (text.length - last.length)
    let groups ← if before = [] then some [] else someGroups? before.dropLast
    let bytes ← dotted? last
    return groups ++ bytes
  else groups? text

def splitGap : List Char → List Char × Option (List Char)
  | [] => ([], none)
  | ':' :: ':' :: rest => ([], some rest)
  | c :: rest => ((c :: (splitGap rest).1), (splitGap rest).2)

/-- The eight groups of an address; two colons stand for one group at least. -/
def v6? (text : List Char) : Option (List Nat) := do
  match splitGap text with
  | (all, none) =>
    let groups ← lastGroups? all
    if groups.length = 8 then some groups else none
  | (left, some right) =>
    let before ← groups? left
    let after ← lastGroups? right
    let missing := 8 - (before.length + after.length)
    if missing = 0 then none else some (before ++ List.replicate missing 0 ++ after)

end IdentityGroups.Url.Address
