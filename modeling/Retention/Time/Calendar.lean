import Retention.Text.Digits

/-!
# The civil calendar

Days are counted from 1970-01-01 in the proleptic Gregorian calendar. `Date.ofDay` finds the year
whose first day (`yearStart`) is the last one not after the day, then walks through the lengths of
that year's months.
-/

namespace Retention.Time

structure Date where
  year : Int
  /-- From 1 to 12. -/
  month : Nat
  /-- From 1 to the length of the month. -/
  day : Nat
deriving DecidableEq, Repr

/-- Days from 0000-01-01 to the first day of `year`: one more than 365 for every leap year
passed. -/
def yearStart (year : Int) : Int :=
  365 * year + (year + 3) / 4 - (year + 99) / 100 + (year + 399) / 400

/-- The year of a day counted from 0000-01-01. Years of average length give a guess that is at most
one year off. -/
def yearOf (day : Int) : Int :=
  let guess := 400 * day / 146097
  if day < yearStart guess then guess - 1
  else if yearStart (guess + 1) ≤ day then guess + 1
  else guess

def monthLengths (leap : Bool) : List Nat :=
  [31, if leap then 29 else 28, 31, 30, 31, 30, 31, 31, 30, 31, 30, 31]

/-- The month, counted from `month`, and the day in it, both of them counted from 1 and 0, of the
`n`-th day of months with these lengths. -/
def monthAndDay (month : Nat) : List Nat → Nat → Nat × Nat
  | [], n => (month, n)
  | length :: rest, n =>
    if n < length then (month, n) else monthAndDay (month + 1) rest (n - length)

/-- The days from 0000-01-01 to 1970-01-01. -/
def epochDay : Int := 719528

def Date.ofDay (day : Int) : Date :=
  let day := day + epochDay
  let year := yearOf day
  let start := yearStart year
  let leap := yearStart (year + 1) - start == 366
  let (month, n) := monthAndDay 1 (monthLengths leap) (day - start).toNat
  { year, month, day := n + 1 }

/-- The year in four digits; outside 0 to 9999 it carries a sign. -/
def yearText (year : Int) : List Char :=
  if 0 ≤ year ∧ year ≤ 9999 then Text.padded 4 year.toNat
  else (if year < 0 then '-' else '+') :: Text.padded 4 year.natAbs

/-- The date as year, month and day with hyphens between. -/
def Date.text (d : Date) : List Char :=
  yearText d.year ++ '-' :: Text.padded 2 d.month ++ '-' :: Text.padded 2 d.day

end Retention.Time
