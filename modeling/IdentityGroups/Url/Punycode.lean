/-! # Punycode

A label with characters outside ASCII has a form within ASCII (RFC 3492). Its ASCII characters come
first, up to the last dash; then each other character has a number, which counts on from the one
before through all pairs of a code point and a place in the label, place by place. A number has its
lowest digit first; which digits are its last depends on a bias that follows the numbers read.
-/

namespace IdentityGroups.Url.Punycode

/-- The value of a digit: letters come before digits, in either case. -/
def digit? (c : Char) : Option Nat :=
  if c.isAlpha then some (c.toLower.toNat - 97)
  else if c.isDigit then some (c.toNat - 22)
  else none

def threshold (place bias : Nat) : Nat := max 1 (min 26 (place - bias))

def bound : Nat := 0x100000000

/-- The number at the start of a text, and what follows it. `place` is 36 times the number of the
digit, counted from 1, `weight` that of the digit and `sum` what the digits before come to. -/
def number? (bias place weight sum : Nat) : List Char → Option (Nat × List Char)
  | [] => none
  | c :: cs =>
    match digit? c with
    | none => none
    | some d =>
      let t := threshold place bias
      if sum + d * weight ≥ bound then none
      else if d < t then some (sum + d * weight, cs)
      else if weight * (36 - t) ≥ bound then none
      else number? bias (place + 36) (weight * (36 - t)) (sum + d * weight) cs

theorem number?_length {bias : Nat} : ∀ {cs : List Char} {place weight sum n : Nat} {rest : List Char},
    number? bias place weight sum cs = some (n, rest) → rest.length < cs.length
  | [], _, _, _, _, _, h => by simp [number?] at h
  | c :: cs, place, weight, sum, n, rest, h => by
    simp only [number?] at h
    split at h
    · cases h
    · split at h
      · cases h
      · split at h
        · cases h
          simp
        · split at h
          · cases h
          · have := number?_length h
            simp
            omega

def scale (n : Nat) : Nat × Nat :=
  if n > 455 then
    let (times, left) := scale (n / 35)
    (times + 1, left)
  else (0, n)

def bias (delta size : Nat) (atStart : Bool) : Nat :=
  let halved := if atStart then delta / 700 else delta / 2
  let (times, left) := scale (halved + halved / size)
  36 * times + 36 * left / (left + 38)

/-- Reads the numbers of characters into a label. The last number led to the place `place` of the
code point `codePoint`. -/
def insertAll (bent codePoint place : Nat) (label : List Char) (cs : List Char) :
    Option (List Char) :=
  if cs = [] then some label
  else
    match _h : number? bent 36 1 place cs with
    | none => none
    | some (n, rest) =>
      let size := label.length + 1
      let next := codePoint + n / size
      if next.isValidChar then
        insertAll (bias (n - place) size (place = 0)) next (n % size + 1)
          (label.insertIdx (n % size) (Char.ofNat next)) rest
      else none
termination_by cs.length
decreasing_by exact number?_length _h

/-- The label whose form within ASCII is given. A dash with nothing before it is no digit. -/
def decode? (cs : List Char) : Option (List Char) :=
  let numbers := (cs.reverse.takeWhile (· ≠ '-')).reverse
  let ascii := cs.take (cs.length - numbers.length - 1)
  if numbers.length + 1 = cs.length then none else insertAll 72 128 0 ascii numbers

end IdentityGroups.Url.Punycode
