/-!
# Punycode

Text in letters, digits and hyphens that stands for text in any characters (`decode`). What is in
front of the last hyphen stands for itself. The rest are numbers, each of which tells by how much to
go on, through all characters from code point 128 and for each through all places in the text, to
the next character and its place.

A number is written with its lowest digit first. A digit below the threshold of its place ends it;
the thresholds follow the numbers before (`adapted`).
-/

namespace Retention.Text.Punycode

/-- A letter in either case is a digit from 0 to 25, a digit one from 26 to 35. -/
def digitValue (c : Char) : Option Nat :=
  if 'a' ≤ c ∧ c ≤ 'z' then some (c.toNat - 'a'.toNat)
  else if 'A' ≤ c ∧ c ≤ 'Z' then some (c.toNat - 'A'.toNat)
  else if '0' ≤ c ∧ c ≤ '9' then some (c.toNat - '0'.toNat + 26)
  else none

/-- The threshold of the digit whose place is `k` when the bias is that. -/
def threshold (k bias : Nat) : Nat := if k ≤ bias + 1 then 1 else min 26 (k - bias)

/-- Divides by 35 until at most 455 is left, and tells how often. -/
def reduced (delta : Nat) : Nat × Nat :=
  if 455 < delta then
    let (left, count) := reduced (delta / 35)
    (left, count + 1)
  else (delta, 0)
termination_by delta
decreasing_by omega

/-- The bias after a number that made the text `length` characters long. -/
def adapted (delta length : Nat) (first : Bool) : Nat :=
  let delta := if first then delta / 700 else delta / 2
  let (left, count) := reduced (delta + delta / length)
  36 * count + 36 * left / (left + 38)

structure State where
  text : List Char
  codePoint : Nat := 128
  place : Nat := 0
  bias : Nat := 72
  first : Bool := true
  /-- The number that is being read so far, the weight of its next digit, and the place of that. -/
  number : Nat := 0
  weight : Nat := 1
  k : Nat := 36

namespace State

/-- Puts the next character in its place. -/
def insert (s : State) : Option State :=
  let length := s.text.length + 1
  let position := s.place + s.number
  let codePoint := s.codePoint + position / length
  let place := position % length
  if codePoint.isValidChar then
    some {
      text := s.text.take place ++ Char.ofNat codePoint :: s.text.drop place
      codePoint
      place := place + 1
      bias := adapted s.number length s.first
      first := false }
  else none

def read (s : State) (c : Char) : Option State := do
  let digit ← digitValue c
  let t := threshold s.k s.bias
  let s := { s with number := s.number + digit * s.weight }
  if digit < t then s.insert else some { s with weight := s.weight * (36 - t), k := s.k + 36 }

/-- Whether no number is left unfinished. -/
def isBetween (s : State) : Bool := s.k == 36

end State

/-- The text that is written as `cs`, if any is. -/
def decode (cs : List Char) : Option (List Char) := do
  let numbers := (cs.reverse.takeWhile (· != '-')).reverse
  let plain := cs.take (cs.length - numbers.length - 1)
  let numbers := if plain.isEmpty then cs else numbers
  let s ← numbers.foldlM State.read { text := plain }
  if s.isBetween then some s.text else none

end Retention.Text.Punycode
