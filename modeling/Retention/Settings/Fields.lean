import Retention.Settings.Problem

/-!
# Reading sections

A section is a table whose keys are its fields, or an array of their values in the order in which
the fields are declared. Its values are checked one after the other (`checkFields`), and the first
that does not fit is the misfit of the section; then the fields are taken, each with its default
(`optional`).
-/

namespace Retention.Settings

open Toml (Value Entries)

abbrev Reader (α : Type) := Value → Except Misfit α

/-- A whole number below `bound`, the first that the type of that name does not hold. -/
def wholeNumber (bound : Nat) (type : String) : Reader Nat
  | .integer n =>
    if 0 ≤ n ∧ n < bound then .ok n.toNat
    else if isWord n then .error (.wrongValue s!"integer `{n}`" type)
    else .error (wrongType (.integer n) type)
  | v => .error (wrongType v type)

def word32 : Reader UInt32 := fun v => (wholeNumber UInt32.size "u32" v).map Nat.toUInt32

def word64 : Reader UInt64 := fun v => (wholeNumber UInt64.size "u64" v).map Nat.toUInt64

def boolean : Reader Bool
  | .boolean b => .ok b
  | v => .error (wrongType v "a boolean")

def string : Reader String
  | .string text => .ok text
  | v => .error (wrongType v "a string")

def strings : Reader (List String)
  | .array items => items.mapM string
  | v => .error (wrongType v "a sequence")

/-- One of the names, for what it stands. -/
def variant {α : Type} (names : List (String × α)) (name : String) : Except Misfit α :=
  match names.lookup name with
  | some a => .ok a
  | none => .error (.unknownVariant name (names.map (·.1)))

/-- A name, by itself or as the only key of a table with nothing under it. -/
def choice {α : Type} (names : List (String × α)) : Reader α
  | .string name => variant names name
  | .table [(name, payload)] => do
    let a ← variant names name
    match payload with
    | .table [] => .ok a
    | .array [] => .ok a
    | _ => .error .malformed
  | _ => .error .malformed

/-- The key under which a date or a time appears where a section is expected. -/
def momentKey : String := "$__toml_private_datetime"

/-- A field of a section: its name, and what its values have to pass. -/
structure Field where
  name : String
  check : Value → Except Misfit Unit

def field {α : Type} (name : String) (read : Reader α) : Field :=
  ⟨name, fun v => (read v).map fun _ => ()⟩

/-- Passes if every key is the name of a field and every value passes that field's check. -/
def checkFields (fields : List Field) (entries : Entries) : Except Misfit Unit :=
  entries.forM fun (key, v) =>
    match fields.find? (·.name == key) with
    | some field => field.check v
    | none => .error (.unknownField key (fields.map (·.name)))

/-- The entries of a section, of which `expected` tells what it is. -/
def entriesOf (expected : String) (fields : List Field) : Reader Entries
  | .table entries => .ok entries
  | .array items => .ok ((fields.map (·.name)).zip items)
  | .moment => .ok [(momentKey, .string "")]
  | v => .error (wrongType v expected)

/-- The checked entries of a section. -/
def section? (expected : String) (fields : List Field) : Reader Entries := fun v => do
  let entries ← entriesOf expected fields v
  checkFields fields entries
  return entries

/-- The value of a field, or the default where it is left out. -/
def optional {α : Type} (entries : Entries) (name : String) (read : Reader α) (default : α) :
    Except Misfit α :=
  match entries.lookup name with
  | some v => read v
  | none => .ok default

end Retention.Settings
