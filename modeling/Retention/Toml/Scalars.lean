import Retention.Text.Digits
import Retention.Toml.Value

/-!
# Numbers, truth values and moments

A scalar without quotes is one run of characters, which is read as a whole (`scalarOf?`). Numerals
may have single underscores between digits; decimal ones have no leading zero.

Some runs are numbers by their looks only: a base without digits (`0x`), a whole number with a
wrong character after its first underscore (`1_79-05-27`), a decimal that exceeds every double
(`1e999`). They are values that cannot be read.
-/

namespace Retention.Toml

/-- Whether `c` is a digit of some base. -/
def isAnyDigit (c : Char) : Bool := (Text.digitValue 16 c).isSome

/-- Whether every underscore stands between two digits, the character before the list being one if
`afterDigit`. -/
def underscoresInside (afterDigit : Bool) : List Char → Bool
  | [] => true
  | '_' :: rest => afterDigit && rest.head?.any isAnyDigit && underscoresInside false rest
  | c :: rest => underscoresInside (isAnyDigit c) rest

/-- Digits with underscores. -/
def numeral? (base : Nat) (cs : List Char) : Option Nat :=
  if !cs.isEmpty && underscoresInside false cs then
    Text.ofDigits base 0 (cs.filter (· != '_'))
  else none

/-- A decimal numeral without a leading zero. -/
def decimal? (cs : List Char) : Option Nat :=
  if cs.head? = some '0' ∧ cs ≠ ['0'] then none else numeral? 10 cs

/-- Whether the text is negative, and the text without its sign. -/
def unsigned (cs : List Char) : Bool × List Char :=
  match cs with
  | '-' :: rest => (true, rest)
  | '+' :: rest => (false, rest)
  | _ => (false, cs)

def isExponentMark (c : Char) : Bool := c == 'e' || c == 'E'

/-- Whether the run is that of a whole number as far as its first underscore, from where on it may
hold whatever is no mark of a fraction or an exponent. -/
def looksWhole (cs : List Char) : Bool :=
  let rest := cs.dropWhile Char.isDigit
  cs.head?.any (fun c => c.isDigit && c != '0') && rest.head? == some '_' &&
    !rest.any (fun c => c == '.' || isExponentMark c) && underscoresInside false cs

/-- The number after the letter of a base. -/
def prefixed? (base : Nat) (digits : List Char) : Option Value :=
  if digits.isEmpty then some .unreadable
  else (numeral? base digits).map fun n => .integer n

def integer? : List Char → Option Value
  | '0' :: 'x' :: digits => prefixed? 16 digits
  | '0' :: 'o' :: digits => prefixed? 8 digits
  | '0' :: 'b' :: digits => prefixed? 2 digits
  | cs =>
    let (negative, digits) := unsigned cs
    match decimal? digits with
    | some n => some (.integer (if negative then -Int.ofNat n else Int.ofNat n))
    | none => if looksWhole digits then some .unreadable else none

/-- The double nearest to `n * 10 ^ e`; it may be infinite. -/
def double (n : Nat) (e : Int) : Float :=
  let size : Int := (Nat.toDigits 10 n).length + e
  if n = 0 ∨ size < -400 then 0.0
  else if 400 < size then 1.0 / 0.0
  else Float.ofScientific (if 0 ≤ e then n * Nat.pow 10 e.toNat else n) (e < 0) (-e).toNat

/-- The double with the sign, unless the number exceeds every double. -/
def decimalValue (negative : Bool) (x : Float) : Value :=
  if x.isInf then .unreadable else .float (if negative then -x else x)

/-- The exponent after an `e`. -/
def exponent? (cs : List Char) : Option Int := do
  let (negative, digits) := unsigned cs
  let n ← numeral? 10 digits
  return if negative then -Int.ofNat n else Int.ofNat n

/-- A number with a fraction, an exponent or both, or one of the words for what is no number. -/
def float? (cs : List Char) : Option Value := do
  let (negative, cs) := unsigned cs
  if cs = "inf".toList then
    return .float (if negative then -1.0 / 0.0 else 1.0 / 0.0)
  if cs = "nan".toList then
    return .float (0.0 / 0.0)
  let (mantissa, power) := cs.span (!isExponentMark ·)
  let e ← match power with
    | [] => some 0
    | _ :: power => exponent? power
  let (whole, fraction) := mantissa.span (· != '.')
  let _ ← decimal? whole
  match fraction with
  | [] =>
    if power.isEmpty then none
    else return decimalValue negative (double (← decimal? whole) e)
  | _ :: places =>
    let _ ← numeral? 10 places
    let digits := places.filter (· != '_')
    let n ← numeral? 10 (whole ++ digits)
    return decimalValue negative (double n (e - digits.length))

/-- A number of exactly so many digits between the two bounds, and the rest. -/
def digits? (count low high : Nat) (cs : List Char) : Option (Nat × List Char) := do
  let digits := cs.take count
  if digits.length ≠ count then
    none
  let n ← Text.ofDigits 10 0 digits
  if low ≤ n ∧ n ≤ high then some (n, cs.drop count) else none

def drop? (c : Char) : List Char → Option (List Char)
  | d :: rest => if c = d then some rest else none
  | [] => none

def daysInMonth (year month : Nat) : Nat :=
  if month = 2 then if year % 4 = 0 ∧ (year % 100 ≠ 0 ∨ year % 400 = 0) then 29 else 28
  else if month = 4 ∨ month = 6 ∨ month = 9 ∨ month = 11 then 30
  else 31

/-- The text after a date. -/
def date? (cs : List Char) : Option (List Char) := do
  let (year, cs) ← digits? 4 0 9999 cs
  let (month, cs) ← digits? 2 1 12 (← drop? '-' cs)
  let (_, cs) ← digits? 2 1 (daysInMonth year month) (← drop? '-' cs)
  return cs

/-- The text after a time of day; the seconds may be left out. -/
def time? (cs : List Char) : Option (List Char) := do
  let (_, cs) ← digits? 2 0 23 cs
  let (_, cs) ← digits? 2 0 59 (← drop? ':' cs)
  match cs with
  | ':' :: rest =>
    let (_, rest) ← digits? 2 0 60 rest
    match rest with
    | '.' :: fraction =>
      let left := fraction.dropWhile Char.isDigit
      if left.length < fraction.length then some left else none
    | _ => some rest
  | _ => some cs

/-- The text after an offset from universal time. -/
def offset? : List Char → Option (List Char)
  | 'Z' :: rest => some rest
  | 'z' :: rest => some rest
  | c :: rest => do
    if c ≠ '+' ∧ c ≠ '-' then
      none
    let (_, rest) ← digits? 2 0 23 rest
    let (_, rest) ← digits? 2 0 59 (← drop? ':' rest)
    return rest
  | [] => none

/-- Whether the text is a time, a date, or both with or without an offset. -/
def isMoment (cs : List Char) : Bool :=
  time? cs == some [] ||
    match date? cs with
    | none => false
    | some [] => true
    | some (separator :: rest) =>
      (separator == 'T' || separator == 't' || separator == ' ') &&
        match time? rest with
        | none => false
        | some [] => true
        | some left => offset? left == some []

/-- The value that a run of characters stands for. -/
def scalarOf? (cs : List Char) : Option Value :=
  if cs = "true".toList then some (.boolean true)
  else if cs = "false".toList then some (.boolean false)
  else integer? cs <|> float? cs <|> if isMoment cs then some .moment else none

/-- Blanks, line ends, comments and the marks of the grammar end a run. -/
def isScalarChar (c : Char) : Bool := !" \t\r\n#=,[]\x7b\x7d".toList.contains c

/-- The run of characters of a scalar. A date may be parted from its time by a single space. -/
def scalarRun (cs : List Char) : List Char :=
  let run := cs.takeWhile isScalarChar
  match date? run, cs.drop run.length with
  | some [], ' ' :: rest =>
    let time := rest.takeWhile isScalarChar
    if time.head?.any Char.isDigit then run ++ ' ' :: time else run
  | _, _ => run

/-- A scalar without quotes, and the text after it. -/
def scalar? (cs : List Char) : Option (Value × List Char) := do
  let run := scalarRun cs
  let value ← scalarOf? run
  return (value, cs.drop run.length)

end Retention.Toml
