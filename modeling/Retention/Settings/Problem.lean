import Retention.Text.Quoted
import Retention.Text.Shortest
import Retention.Toml.Value

/-!
# Problems with settings

Why settings were not accepted: the file could not be read, a reference has no value, the text is
malformed or holds a value that does not fit (`Misfit`), or the settings contradict themselves.
-/

namespace Retention.Settings

open Text (signedBound)
open Toml (Value)

/-- Names in backticks, as they are listed for a reader. -/
def alternatives : List String → String
  | [] => ""
  | [a] => s!"`{a}`"
  | [a, b] => s!"`{a}` or `{b}`"
  | names => "one of " ++ ", ".intercalate (names.map fun name => s!"`{name}`")

/-- A value that does not fit where it stands. -/
inductive Misfit
  | unknownField (name : String) (known : List String)
  | unknownVariant (name : String) (known : List String)
  | missingField (name : String)
  | wrongType (found expected : String)
  | wrongValue (found expected : String)
  | wrongLength (length : Nat) (expected : String)
  /-- One that is not told apart from malformed text. -/
  | malformed
deriving DecidableEq, Repr

def Misfit.message? : Misfit → Option String
  | unknownField name known => some s!"unknown field `{name}`, expected {alternatives known}"
  | unknownVariant name known => some s!"unknown variant `{name}`, expected {alternatives known}"
  | missingField name => some s!"missing field `{name}`"
  | wrongType found expected => some s!"invalid type: {found}, expected {expected}"
  | wrongValue found expected => some s!"invalid value: {found}, expected {expected}"
  | wrongLength length expected => some s!"invalid length {length}, expected {expected}"
  | malformed => none

inductive Problem
  | unreadable (path reason : String)
  | unknownVariable (name : String)
  | misfit (misfit : Misfit)
  | contradiction (message : String)
deriving DecidableEq, Repr

def Problem.message : Problem → String
  | unreadable path reason => s!"Failed to read config file {path}: {reason}"
  | unknownVariable name => s!"Environment variable not found: {name}"
  | misfit m => "Failed to parse config: " ++ m.message?.getD ""
  | contradiction message => s!"Configuration validation error: {message}"

/-- The first whole number that 128 bits with a sign do not hold. -/
abbrev longSignedBound : Int := 0x80000000000000000000000000000000

/-- Whole numbers that fit into 64 bits, with or without a sign. -/
def isWord (n : Int) : Bool := -signedBound ≤ n && n < UInt64.size

/-- How a whole number is shown; those beyond 128 bits are not. -/
def integerText? (n : Int) : Option String :=
  if isWord n then some s!"integer `{n}`"
  else if -longSignedBound ≤ n ∧ n < longSignedBound then some s!"integer `{n}` as i128"
  else if 0 ≤ n ∧ n < 2 * longSignedBound then some s!"integer `{n}` as u128"
  else none

/-- The shortest decimal of a double, with a point if it is finite. -/
def floatText (x : Float) : String :=
  let digits := Text.shortest x
  String.ofList (if x.isFinite && !digits.contains '.' then digits ++ ['.', '0'] else digits)

/-- How a value of the wrong type is shown; one that cannot be read is not. -/
def found? : Value → Option String
  | .string text => some s!"string {Text.quoted text}"
  | .integer n => integerText? n
  | .float x => some s!"floating point `{floatText x}`"
  | .unreadable => none
  | .boolean b => some s!"boolean `{b}`"
  | .moment => some "map"
  | .array _ => some "sequence"
  | .table _ => some "map"

/-- The value where something else was expected. -/
def wrongType (v : Value) (expected : String) : Misfit :=
  match found? v with
  | some found => .wrongType found expected
  | none => .malformed

end Retention.Settings
