import IdentityGroups.Text.Percent

/-! # Paths of addresses

A path consists of segments after slashes. Characters that it cannot hold are percent-encoded, and
segments of one or two dots are resolved.
-/

namespace IdentityGroups.Url

def encodeUnless (kept : Char → Bool) (c : Char) : List Char :=
  if kept c then [c]
  else (String.utf8EncodeChar c).flatMap fun b =>
    ['%', Text.Percent.hexDigit (b.toNat / 16), Text.Percent.hexDigit (b.toNat % 16)]

def keptInPath (c : Char) : Bool :=
  '!' ≤ c ∧ c ≤ '~' ∧ c ∉ ['"', '#', '<', '>', '?', '`', '\x7b', '\x7d']

def keptInQuery (c : Char) : Bool := '!' ≤ c ∧ c ≤ '~' ∧ c ∉ ['"', '#', '<', '>', '\'']

def afterDot? : List Char → Option (List Char)
  | '.' :: rest => some rest
  | '%' :: '2' :: e :: rest => if e.toLower = 'e' then some rest else none
  | _ => none

def dots? (segment : List Char) : Option Nat :=
  match afterDot? segment with
  | none => none
  | some [] => some 1
  | some rest => if afterDot? rest = some [] then some 2 else none

/-- Whether a segment names a drive: a letter with a colon or a bar. -/
def isDrive : List Char → Bool
  | [c, mark] => c.isAlpha && (mark = ':' || mark = '|')
  | _ => false

/-- The segments so far, the last first, without the last one; a drive is not left. -/
def stepBack : List (List Char) → List (List Char)
  | [] => []
  | s :: before => if isDrive s then s :: before else before

/-- The segments of a path without those of dots: one dot is no step, two dots take back the step
before. `before` holds the segments so far, the last first. -/
def resolve (before : List (List Char)) : List (List Char) → List (List Char)
  | [] => before.reverse
  | [s] =>
    match dots? s with
    | none => (s :: before).reverse
    | some 1 => ([] :: before).reverse
    | some _ => ([] :: stepBack before).reverse
  | s :: rest =>
    match dots? s with
    | none => resolve (s :: before) rest
    | some 1 => resolve before rest
    | some _ => resolve (stepBack before) rest

def isSlash (c : Char) : Bool := c = '/' || c = '\\'

example : resolve [] ["C:".toList, "..".toList, "x".toList] = ["C:".toList, "x".toList] := by decide

end IdentityGroups.Url
