import IdentityGroups.Decimal.Binary64

/-! # The shortest decimal that reads back

The decimals that round to a number form an interval around it, ends included when its significand
is even. Grids of 1, 2, … 17 significant digits are tried in turn; on each the two neighbours of
the number are compared with the interval, the first grid with a hit wins, and of two hits the
nearer, or the even one of two equally near.
-/

namespace IdentityGroups.Decimal

/-- The decimal `digits * 10 ^ exponent`; `digits` does not end in zero, or is zero. -/
structure Shortest where
  digits : Nat
  exponent : Int
  deriving DecidableEq, Repr

/-- A quotient of natural numbers with an interval around it, all over one denominator. -/
structure Around where
  low : Nat
  value : Nat
  high : Nat
  denominator : Nat
  closed : Bool

def around (x : Binary64) : Around :=
  let m := x.significand
  -- Below a power of two the numbers lie twice as close.
  let below := if x.fraction = 0 ∧ 1 < x.field then 1 else 2
  let up := x.scale - 1076
  { low := (4 * m - below) <<< up
    value := 4 * m <<< up
    high := (4 * m + 2) <<< up
    denominator := 1 <<< (1076 - x.scale)
    closed := m % 2 = 0 }

def stepsBelow (denominator : Nat) : (fuel count value : Nat) → Nat
  | 0, count, _ => count
  | fuel + 1, count, value =>
    if value * 10 < denominator then stepsBelow denominator fuel (count + 1) (value * 10) else count

/-- The least `k` with `value < 10 ^ k * denominator`, for a value above zero. -/
def magnitude (a : Around) : Int :=
  let whole := a.value / a.denominator
  if whole ≠ 0 then (Nat.toDigits 10 whole).length
  else -(stepsBelow a.denominator 400 0 a.value : Int)

def Around.holds (a : Around) (digits : Nat) (exponent : Int) : Bool :=
  let point := digits * Nat.pow 10 exponent.toNat * a.denominator
  let down := Nat.pow 10 (-exponent).toNat
  if a.closed then a.low * down ≤ point ∧ point ≤ a.high * down
  else a.low * down < point ∧ point < a.high * down

/-- The point of the grid of multiples of `10 ^ exponent` that stands for the number, if one
does. -/
def Around.onGrid? (a : Around) (exponent : Int) : Option Nat :=
  let down := Nat.pow 10 (-exponent).toNat
  let unit := Nat.pow 10 exponent.toNat * a.denominator
  let scaled := a.value * down
  let c := scaled / unit
  let twice := 2 * (scaled % unit)
  match a.holds c exponent && c ≠ 0, a.holds (c + 1) exponent with
  | true, true =>
    if twice < unit then some c
    else if unit < twice then some (c + 1)
    else some (if c % 2 = 0 then c else c + 1)
  | true, false => some c
  | false, true => some (c + 1)
  | false, false => none

def dropZeros (fuel digits : Nat) (exponent : Int) : Shortest :=
  match fuel with
  | 0 => ⟨digits, exponent⟩
  | fuel + 1 =>
    if digits ≠ 0 ∧ digits % 10 = 0 then dropZeros fuel (digits / 10) (exponent + 1)
    else ⟨digits, exponent⟩

/-- The first grid of `count`, `count + 1`, … digits with a hit. -/
def Around.search (a : Around) (k : Int) : (fuel count : Nat) → Shortest
  | 0, _ => ⟨0, 0⟩
  | fuel + 1, count =>
    match a.onGrid? (k - count) with
    | some c => dropZeros 20 c (k - count)
    | none => a.search k fuel (count + 1)

/-- The shortest decimal that reads back as the absolute value of `x`. -/
def shortest (x : Binary64) : Shortest :=
  if x.significand = 0 then ⟨0, 0⟩
  else
    let a := around x
    a.search (magnitude a) 17 1

def digitsOf (n : Nat) : List Char := Nat.toDigits 10 n

def Shortest.positional (d : Shortest) : List Char :=
  let ds := digitsOf d.digits
  if 0 ≤ d.exponent then
    if d.digits = 0 then ['0'] else ds ++ List.replicate d.exponent.toNat '0'
  else
    let places := (-d.exponent).toNat
    if places < ds.length then ds.take (ds.length - places) ++ '.' :: ds.drop (ds.length - places)
    else '0' :: '.' :: List.replicate (places - ds.length) '0' ++ ds

/-- A decimal with a point always present, positional between `10 ^ -5` and `10 ^ 16` and with an
exponent outside. -/
def Shortest.pointed (d : Shortest) : List Char :=
  let ds := digitsOf d.digits
  let top : Int := ds.length + d.exponent
  if d.digits = 0 then ['0', '.', '0']
  else if 0 ≤ d.exponent ∧ top ≤ 16 then d.positional ++ ['.', '0']
  else if d.exponent < 0 ∧ -5 < top ∧ top ≤ 16 then d.positional
  else
    let lead := match ds with
      | [] => []
      | [c] => [c]
      | c :: cs => c :: '.' :: cs
    lead ++ 'e' :: (toString (top - 1)).toList

def Binary64.pointed (x : Binary64) : String :=
  String.ofList ((if x.isNegative then ['-'] else []) ++ (shortest x).pointed)

def Binary64.positional (x : Binary64) : String :=
  String.ofList ((if x.isNegative then ['-'] else []) ++ (shortest x).positional)

end IdentityGroups.Decimal
