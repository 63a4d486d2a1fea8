/-! # Instants

An instant is a day of the Gregorian calendar, a second of that day and nanoseconds, in universal
time. A leap second is the last second of a minute with a thousand million nanoseconds or more.
Days form a line with two ends, on which an offset from universal time moves by one at most.
-/

namespace IdentityGroups.Time

def isLeapYear (year : Int) : Bool := year % 4 = 0 ∧ (year % 100 ≠ 0 ∨ year % 400 = 0)

def daysIn (year : Int) (month : Nat) : Nat :=
  if month = 2 then (if isLeapYear year then 29 else 28)
  else if month = 4 ∨ month = 6 ∨ month = 9 ∨ month = 11 then 30
  else 31

def firstYear : Int := -262143
def lastYear : Int := 262142

def IsDate (year : Int) (month day : Nat) : Prop :=
  (firstYear ≤ year ∧ year ≤ lastYear) ∧ (1 ≤ month ∧ month ≤ 12) ∧
    (1 ≤ day ∧ day ≤ daysIn year month)

instance (year : Int) (month day : Nat) : Decidable (IsDate year month day) := by
  unfold IsDate; infer_instance

structure Date where
  year : Int
  month : Nat
  day : Nat
  isDate : IsDate year month day
  deriving DecidableEq

namespace Date

def of? (year : Int) (month day : Nat) : Option Date :=
  if h : IsDate year month day then some ⟨year, month, day, h⟩ else none

def next? (d : Date) : Option Date :=
  if d.day < daysIn d.year d.month then of? d.year d.month (d.day + 1)
  else if d.month < 12 then of? d.year (d.month + 1) 1
  else of? (d.year + 1) 1 1

def previous? (d : Date) : Option Date :=
  if 1 < d.day then of? d.year d.month (d.day - 1)
  else if 1 < d.month then of? d.year (d.month - 1) (daysIn d.year (d.month - 1))
  else of? (d.year - 1) 12 31

end Date

/-- How many nanoseconds a leap second adds to the second before it. -/
def second : Nat := 1000000000

def IsClock (secondOfDay nano : Nat) : Prop :=
  secondOfDay < 86400 ∧ nano < 2 * second ∧ (second ≤ nano → secondOfDay % 60 = 59)

instance (s n : Nat) : Decidable (IsClock s n) := by unfold IsClock; infer_instance

structure Instant where
  date : Date
  secondOfDay : Nat
  nano : Nat
  isClock : IsClock secondOfDay nano
  deriving DecidableEq

namespace Instant

def of? (date : Date) (secondOfDay nano : Nat) : Option Instant :=
  if h : IsClock secondOfDay nano then some ⟨date, secondOfDay, nano, h⟩ else none

def epoch : Instant := ⟨⟨1970, 1, 1, by decide⟩, 0, 0, by decide⟩

instance : Inhabited Instant := ⟨epoch⟩

end Instant

end IdentityGroups.Time
