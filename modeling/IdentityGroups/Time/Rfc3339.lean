import IdentityGroups.Text.Blank
import IdentityGroups.Time.Instant

/-! # Timestamps (RFC 3339)

Written, an instant has a four-digit year (a sign and more digits outside the years 0 to 9999), the
letters `T` and `Z`, and the shortest of no, three, six or nine fraction digits that is exact.

Read, a timestamp may have a sign before its year, fewer digits in each field, blanks before its
fields and separators, a blank for the `T`, an offset of hours and minutes or `UTC` for the `Z`,
and any number of fraction digits, of which nine count. Each field is compared with its range as
soon as it is read.
-/

namespace IdentityGroups.Time

inductive Fault where
  | tooShort
  | invalid
  | outOfRange
  | tooLong
  | impossible
  deriving DecidableEq, Repr

def Fault.message : Fault → String
  | .tooShort => "premature end of input"
  | .invalid => "input contains invalid characters"
  | .outOfRange => "input is out of range"
  | .tooLong => "trailing input"
  | .impossible => "no possible date and time matching input"

/-! ## Writing -/

def padded (width n : Nat) : List Char :=
  let ds := Nat.toDigits 10 n
  List.replicate (width - ds.length) '0' ++ ds

def printYear (year : Int) : List Char :=
  if 0 ≤ year ∧ year ≤ 9999 then padded 4 year.toNat
  else (if year < 0 then '-' else '+') :: padded 4 year.natAbs

def printFraction (nano : Nat) : List Char :=
  if nano = 0 then []
  else if nano % 1000000 = 0 then '.' :: padded 3 (nano / 1000000)
  else if nano % 1000 = 0 then '.' :: padded 6 (nano / 1000)
  else '.' :: padded 9 nano

namespace Instant

def print (t : Instant) : List Char :=
  let leap := second ≤ t.nano
  printYear t.date.year ++ '-' :: padded 2 t.date.month ++ '-' :: padded 2 t.date.day ++ 'T' ::
    padded 2 (t.secondOfDay / 3600) ++ ':' :: padded 2 (t.secondOfDay / 60 % 60) ++ ':' ::
    padded 2 (t.secondOfDay % 60 + if leap then 1 else 0) ++
    printFraction (if leap then t.nano - second else t.nano) ++ ['Z']

def render (t : Instant) : String := String.ofList t.print

end Instant

/-! ## Reading -/

def skipBlank (cs : List Char) : List Char := cs.dropWhile Text.isBlank

def digit? (c : Char) : Option Nat :=
  if '0' ≤ c ∧ c ≤ '9' then some (c.toNat - 48) else none

def digitsUpTo : (width n : Nat) → List Char → (Nat × Nat) × List Char
  | 0, n, cs => ((n, 0), cs)
  | _ + 1, n, [] => ((n, 0), [])
  | width + 1, n, c :: cs =>
    match digit? c with
    | none => ((n, 0), c :: cs)
    | some d =>
      let ((m, count), rest) := digitsUpTo width (n * 10 + d) cs
      ((m, count + 1), rest)

def number (width : Nat) (cs : List Char) : Except Fault ((Nat × Nat) × List Char) :=
  match cs with
  | [] => .error .tooShort
  | _ =>
    match digitsUpTo width 0 cs with
    | ((_, 0), _) => .error .invalid
    | ((n, count), rest) =>
      if n < 0x8000000000000000 then .ok ((n, count), rest) else .error .outOfRange

def field (low high : Nat) (cs : List Char) : Except Fault (Nat × List Char) := do
  let ((n, _), rest) ← number 2 (skipBlank cs)
  if low ≤ n ∧ n ≤ high then return (n, rest) else throw .outOfRange

def separator (c : Char) (cs : List Char) : Except Fault (List Char) :=
  match skipBlank cs with
  | [] => .error .tooShort
  | d :: rest => if d = c then .ok rest else .error .invalid

/-- A year: any number of digits after a sign, up to four without one. -/
def readYear (cs : List Char) : Except Fault (Int × List Char) := do
  let (sign, width, cs) : Int × Nat × List Char := match skipBlank cs with
    | '-' :: cs => (-1, cs.length, cs)
    | '+' :: cs => (1, cs.length, cs)
    | cs => (1, 4, cs)
  let ((n, _), rest) ← number width cs
  let year := sign * n
  if -0x80000000 ≤ year ∧ year < 0x80000000 then return (year, rest) else throw .outOfRange

/-- Nanoseconds after a point, or none; digits beyond the ninth are skipped. -/
def readFraction (cs : List Char) : Except Fault (Nat × List Char) :=
  match cs with
  | '.' :: cs => do
    let ((n, count), rest) ← number 9 cs
    return (n * Nat.pow 10 (9 - count), rest.dropWhile fun c => (digit? c).isSome)
  | cs => return (0, cs)

/-- Two characters, the first of which starts at the front; a lone character of one byte is not
enough. -/
def twoChars (cs : List Char) : Except Fault ((Char × Char) × List Char) :=
  match cs with
  | [] => .error .tooShort
  | [c] => if c.toNat < 128 then .error .tooShort else .error .invalid
  | c :: d :: rest => .ok ((c, d), rest)

/-- Seconds east of universal time: `Z`, `UTC`, or a sign, two digits of hours and two of minutes,
between which colons and blanks do not count. -/
def readOffset (cs : List Char) : Except Fault (Int × List Char) :=
  match cs with
  | [] => .error .tooShort
  | 'z' :: rest => .ok (0, rest)
  | 'Z' :: rest => .ok (0, rest)
  | c :: rest =>
    if (cs.take 3).map Char.toUpper = ['U', 'T', 'C'] then .ok (0, cs.drop 3)
    else if c = '+' ∨ c = '-' ∨ c = '\u2212' then do
      let ((h1, h2), rest) ← twoChars rest
      match digit? h1, digit? h2 with
      | some x1, some x2 =>
        let ((m1, m2), rest) ← twoChars (rest.dropWhile fun c => c = ':' || Text.isBlank c)
        match digit? m1, digit? m2 with
        | some y1, some y2 =>
          if 5 < y1 then throw .outOfRange
          else
            let seconds : Int := ((x1 * 10 + x2) * 60 + (y1 * 10 + y2)) * 60
            return (if c = '+' then seconds else -seconds, rest)
        | _, _ => throw .invalid
      | _, _ => throw .invalid
    else .error .invalid

/-- The instant at a local date and second of the day, `offset` seconds east of universal time. -/
def toUniversal (date : Date) (secondOfDay nano : Nat) (offset : Int) : Except Fault Instant :=
  let s : Int := secondOfDay - offset
  let date? :=
    if s < 0 then date.previous? else if s < 86400 then some date else date.next?
  match date? with
  | none => .error .impossible
  | some date =>
    match Instant.of? date (s % 86400).toNat nano with
    | none => .error .outOfRange
    | some t => .ok t

namespace Instant

def parseChars (cs : List Char) : Except Fault Instant := do
  let (year, cs) ← readYear cs
  let cs ← separator '-' cs
  let (month, cs) ← field 1 12 cs
  let cs ← separator '-' cs
  let (day, cs) ← field 1 31 cs
  let cs ← match cs with
    | [] => throw .tooShort
    | c :: cs => if c = 'T' ∨ c = 't' ∨ c = ' ' then pure cs else throw .invalid
  let (hour, cs) ← field 0 23 cs
  let cs ← separator ':' cs
  let (minute, cs) ← field 0 59 cs
  let cs ← separator ':' cs
  let (sec, cs) ← field 0 60 cs
  let (nano, cs) ← readFraction cs
  let (offset, cs) ← readOffset (skipBlank cs)
  if skipBlank cs ≠ [] then throw .tooLong
  match Date.of? year month day with
  | none => throw .outOfRange
  | some date =>
    if offset ≤ -86400 ∨ 86400 ≤ offset then throw .outOfRange
    let (sec, nano) := if sec = 60 then (59, nano + second) else (sec, nano)
    toUniversal date ((hour * 60 + minute) * 60 + sec) nano offset

def parse (s : String) : Except Fault Instant := parseChars s.toList

end Instant

end IdentityGroups.Time
