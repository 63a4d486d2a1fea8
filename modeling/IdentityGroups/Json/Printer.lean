import IdentityGroups.Json.Basic
import IdentityGroups.Decimal.Shortest

/-! # JSON text, written

The compact form: no blanks, members in their order, and in texts only quotes, backslashes and
control characters escaped, the commoner of these by a letter.
-/

namespace IdentityGroups.Json

def hexDigit (n : Nat) : Char :=
  if n < 10 then Char.ofNat (48 + n) else Char.ofNat (87 + n)

def escapeLetter? (c : Char) : Option Char :=
  if c = '"' then some '"'
  else if c = '\\' then some '\\'
  else if c = '\x08' then some 'b'
  else if c = '\t' then some 't'
  else if c = '\n' then some 'n'
  else if c = '\x0c' then some 'f'
  else if c = '\r' then some 'r'
  else none

def printChar (c : Char) : List Char :=
  match escapeLetter? c with
  | some e => ['\\', e]
  | none =>
    if c < ' ' then ['\\', 'u', '0', '0', hexDigit (c.toNat / 16), hexDigit (c.toNat % 16)] else [c]

def printText (s : String) : List Char := '"' :: s.toList.flatMap printChar ++ ['"']

def printInt : Int → List Char
  | .ofNat n => Decimal.digitsOf n
  | .negSucc n => '-' :: Decimal.digitsOf (n + 1)

def printNumber : Number → List Char
  | .int n _ => printInt n
  | .float x => x.pointed.toList

mutual

def print : Json → List Char
  | .null => "null".toList
  | .bool b => if b then "true".toList else "false".toList
  | .num n => printNumber n
  | .str s => printText s
  | .arr items => '[' :: printItems items ++ [']']
  | .obj members => '\x7b' :: printMembers members ++ ['\x7d']

def printItems : List Json → List Char
  | [] => []
  | [j] => j.print
  | j :: items => j.print ++ ',' :: printItems items

def printMembers : List (String × Json) → List Char
  | [] => []
  | [(k, j)] => printText k ++ ':' :: j.print
  | (k, j) :: members => printText k ++ ':' :: j.print ++ ',' :: printMembers members

end

def render (j : Json) : String := String.ofList j.print

end IdentityGroups.Json
