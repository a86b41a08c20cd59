import Retention.Text.Digits

/-!
# Shortest decimals

A finite double stands for every number that rounds to it, an interval around its value. Its text
is the decimal with the fewest digits in that interval, and of those the nearest one, written
without an exponent (`shortest`).
-/

namespace Retention.Text

structure Ratio where
  num : Nat
  den : Nat
deriving DecidableEq, Repr

namespace Ratio

def le (a b : Ratio) : Bool := a.num * b.den ≤ b.num * a.den

def lt (a b : Ratio) : Bool := a.num * b.den < b.num * a.den

/-- The product of `n` and ten to the power of `e`. -/
def ofDecimal (n : Nat) (e : Int) : Ratio :=
  if 0 ≤ e then ⟨n * Nat.pow 10 e.toNat, 1⟩ else ⟨n, Nat.pow 10 (-e).toNat⟩

/-- The product of `n` and two to the power of `e`. -/
def ofBinary (n : Nat) (e : Int) : Ratio :=
  if 0 ≤ e then ⟨n * Nat.pow 2 e.toNat, 1⟩ else ⟨n, Nat.pow 2 (-e).toNat⟩

/-- The distance between `a` and `b` as a fraction. -/
def distance (a b : Ratio) : Ratio :=
  ⟨(a.num * b.den - b.num * a.den) + (b.num * a.den - a.num * b.den), a.den * b.den⟩

/-- The exponent of the first decimal digit of a positive fraction. -/
def exponent (a : Ratio) : Int :=
  let guess : Int := (Nat.toDigits 10 a.num).length - (Nat.toDigits 10 a.den).length
  if le (ofDecimal 1 guess) a then guess else guess - 1

/-- The whole number of units of ten to the power of `e` in the fraction. -/
def units (a : Ratio) (e : Int) : Nat :=
  if 0 ≤ e then a.num / (a.den * Nat.pow 10 e.toNat) else a.num * Nat.pow 10 (-e).toNat / a.den

end Ratio

/-- The highest of the 53 bits of a mantissa, which is not stored. -/
def hiddenBit : Nat := 0x10000000000000

/-- The numbers that round to one double. -/
structure Interval where
  low : Ratio
  value : Ratio
  high : Ratio
  /-- Whether the ends round to it too. -/
  closed : Bool

namespace Interval

/-- The interval of the double `m * 2 ^ e`, whose mantissa has 53 bits or the lowest exponent. -/
def ofParts (m : Nat) (e : Int) : Interval where
  low :=
    if m = hiddenBit ∧ -1074 < e then .ofBinary (4 * m - 1) (e - 2)
    else .ofBinary (4 * m - 2) (e - 2)
  value := .ofBinary m e
  high := .ofBinary (4 * m + 2) (e - 2)
  closed := m % 2 == 0

def contains (i : Interval) (r : Ratio) : Bool :=
  if i.closed then i.low.le r && r.le i.high else i.low.lt r && r.lt i.high

/-- Of the two decimals with the last digit at exponent `e` that enclose the value, those in the
interval, the nearer one first. -/
def atExponent (i : Interval) (e : Int) : Option Nat :=
  let below := i.value.units e
  let near (n : Nat) := i.contains (.ofDecimal n e)
  let gap (n : Nat) := Ratio.distance i.value (.ofDecimal n e)
  if near below && near (below + 1) then
    some (if (gap below).le (gap (below + 1)) then below else below + 1)
  else if near below then some below
  else if near (below + 1) then some (below + 1)
  else none

/-- The first of `rounds` exponents, from `e` down, at which the interval holds a decimal. -/
def search (i : Interval) : (rounds : Nat) → Int → Nat × Int
  | 0, e => (i.value.units e, e)
  | rounds + 1, e =>
    match i.atExponent e with
    | some n => (n, e)
    | none => i.search rounds (e - 1)

end Interval

/-- The decimal `n * 10 ^ e` in positional notation. -/
def positional (n : Nat) (e : Int) : List Char :=
  let digits := Nat.toDigits 10 n
  if 0 ≤ e then digits ++ List.replicate e.toNat '0'
  else
    let places := (-e).toNat
    let digits := List.replicate (places + 1 - digits.length) '0' ++ digits
    digits.take (digits.length - places) ++ '.' :: digits.drop (digits.length - places)

/-- The shortest decimal of a double; a whole number has no point. -/
def shortest (x : Float) : List Char :=
  let bits : Nat := x.toBits.toNat
  let sign := if bits / (2048 * hiddenBit) = 1 then ['-'] else []
  let biased : Nat := bits / hiddenBit % 2048
  let fraction : Nat := bits % hiddenBit
  if biased = 2047 then
    if fraction = 0 then sign ++ "inf".toList else "NaN".toList
  else if biased = 0 ∧ fraction = 0 then sign ++ ['0']
  else
    let (m, e) : Nat × Int :=
      if biased = 0 then (fraction, -1074) else (fraction + hiddenBit, (biased : Int) - 1075)
    let i := Interval.ofParts m e
    let (n, e) := i.search 17 i.value.exponent
    sign ++ positional n e

end Retention.Text
