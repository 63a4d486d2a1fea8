/-! # Written tables of code points

A table is a text of words between blanks. Code points are written in hexadecimal with lower-case
letters, a range as its first and its last code point with a dash between, a sequence with commas.
A word that ends in a colon says for which code point the next word stands; each later one stands
for the code point after.
-/

namespace IdentityGroups.Unicode

structure Range where
  first : Nat
  last : Nat
  deriving DecidableEq, Repr

def Range.contains (r : Range) (c : Char) : Bool := r.first ≤ c.toNat && c.toNat ≤ r.last

namespace Table

abbrev Word := List Char

def words (s : String) : List Word :=
  (s.toList.splitOnP fun c => c = ' ' || c = '\n').filter (· ≠ [])

def digit (c : Char) : Nat := if c ≤ '9' then c.toNat - 48 else c.toNat - 87

def codePoint (w : Word) : Nat := w.foldl (fun n c => 16 * n + digit c) 0

def sequence (w : Word) : List Char := (w.splitOn ',').map fun p => Char.ofNat (codePoint p)

def range (w : Word) : Range :=
  match w.splitOn '-' with
  | [first, last] => ⟨codePoint first, codePoint last⟩
  | _ => ⟨codePoint w, codePoint w⟩

def ranges (s : String) : List Range := (words s).map range

/-- The ranges of a table whose words are a range, a colon and a code point. -/
def targets (s : String) : List (Range × Nat) :=
  (words s).map fun w => (range (w.takeWhile (· ≠ ':')), codePoint ((w.dropWhile (· ≠ ':')).drop 1))

/-- The sequences of a table, each with the code point for which it stands, the last first. -/
def sequences (s : String) : List (Nat × List Char) :=
  ((words s).foldl (fun (next, found) w =>
    if w.getLast? = some ':' then (codePoint w.dropLast, found)
    else (next + 1, (next, sequence w) :: found)) (0, [])).2

def classOf? {α : Type} (table : List (α × List Range)) (c : Char) : Option α :=
  (table.find? fun (_, rs) => rs.any (·.contains c)).map (·.1)

end Table

example : Table.ranges "41-5a\n  aa" = [⟨0x41, 0x5a⟩, ⟨0xaa, 0xaa⟩] := by decide
example : Table.sequences "bc: 31,2044,34 b: 61 62" =
    [(0xc, ['b']), (0xb, ['a']), (0xbc, ['1', '\u2044', '4'])] := by decide

end IdentityGroups.Unicode
