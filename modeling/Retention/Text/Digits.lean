/-!
# Numerals

A number written in decimal, filled with zeros on the left to a fixed width (`padded`), and numerals
of any base read back (`ofDigits`). Numbers that are asked of a reader are read digit by digit
(`readNatural`): the first character that is no digit, or the first digit with which the number is
too large, decides what is wrong.
-/

namespace Retention.Text

/-- The first whole number that 64 bits with a sign do not hold. -/
abbrev signedBound : Int := 0x8000000000000000

/-- The decimal digits of `n`, with zeros in front up to `width` characters. -/
def padded (width n : Nat) : List Char :=
  let digits := Nat.toDigits 10 n
  List.replicate (width - digits.length) '0' ++ digits

/-- The value of `c` as a digit of the given base, at most thirty-six; letters count in either
case. -/
def digitValue (base : Nat) (c : Char) : Option Nat :=
  let value :=
    if '0' ≤ c ∧ c ≤ '9' then c.toNat - '0'.toNat
    else if 'a' ≤ c ∧ c ≤ 'z' then c.toNat - 'a'.toNat + 10
    else if 'A' ≤ c ∧ c ≤ 'Z' then c.toNat - 'A'.toNat + 10
    else base
  if value < base then some value else none

/-- The number that `digits` stand for, read from the left onto `acc`; `none` at the first
character that is no digit of the base. -/
def ofDigits (base : Nat) (acc : Nat) : List Char → Option Nat
  | [] => some acc
  | c :: rest =>
    match digitValue base c with
    | some value => ofDigits base (acc * base + value) rest
    | none => none

/-- Why a text is no number of the kind that was asked for. -/
inductive NumeralFault
  | empty
  | badDigit
  | tooLarge
  | tooSmall
deriving DecidableEq, Repr

def NumeralFault.message : NumeralFault → String
  | empty => "cannot parse integer from empty string"
  | badDigit => "invalid digit found in string"
  | tooLarge => "number too large to fit in target type"
  | tooSmall => "number too small to fit in target type"

/-- Reads decimal digits onto `acc`; numbers from `bound` on are too large. -/
def readDigits (bound acc : Nat) : List Char → Except NumeralFault Nat
  | [] => .ok acc
  | c :: rest =>
    match digitValue 10 c with
    | some value =>
      if acc * 10 + value < bound then readDigits bound (acc * 10 + value) rest
      else .error .tooLarge
    | none => .error .badDigit

/-- Reads a number below `bound`, which may have a plus sign in front. -/
def readNatural (bound : Nat) : List Char → Except NumeralFault Nat
  | [] => .error .empty
  | ['+'] => .error .badDigit
  | '+' :: digits => readDigits bound 0 digits
  | digits => readDigits bound 0 digits

/-- Reads a number of 64 bits with a sign. -/
def readInteger : List Char → Except NumeralFault Int
  | ['-'] => .error .badDigit
  | '-' :: digits =>
    match readDigits (signedBound.toNat + 1) 0 digits with
    | .ok n => .ok (-Int.ofNat n)
    | .error .tooLarge => .error .tooSmall
    | .error fault => .error fault
  | digits => (readNatural signedBound.toNat digits).map Int.ofNat

end Retention.Text
