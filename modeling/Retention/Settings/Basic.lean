import Retention.Settings.Database
import Retention.Settings.Expansion
import Retention.Settings.Logging
import Retention.Settings.Retention
import Retention.Toml.Document

/-!
# Settings

Settings are a text with references to the environment, which are replaced first (`expand`); then
the text is read as a document, its sections are read, and the rules among them are checked. The
database comes before retention.
-/

namespace Retention

open Settings in
structure Settings where
  database : DatabaseSettings := .none
  observability : ObservabilitySettings := {}
  retention : RetentionSettings := {}
deriving DecidableEq, Repr

namespace Settings

open Text (signedBound)
open Toml (Value Entries)

/-- The text of a moment that is written out under `momentKey`. -/
def writtenMoment : Reader Unit
  | .string text => if Toml.isMoment text.toList then .ok () else .error .malformed
  | v => .error (wrongType v "string containing a datetime")

mutual

/-- Passes if every number in the value can be read and every whole number fits into 64 bits with a
sign. A table whose first key is `momentKey` has to hold a moment there, and nothing else of it is
looked at. -/
def checkValue : Value → Except Misfit Unit
  | .integer n =>
    if -signedBound ≤ n ∧ n < signedBound then .ok ()
    else if isWord n then .error .malformed
    else .error (wrongType (.integer n) "any valid TOML value")
  | .unreadable => .error .malformed
  | .array items => checkValues items
  | .table [] => .ok ()
  | .table ((key, v) :: rest) =>
    if key = momentKey then writtenMoment v
    else do
      checkValue v
      checkMembers rest
  | _ => .ok ()

def checkValues : List Value → Except Misfit Unit
  | [] => .ok ()
  | v :: rest => do
    checkValue v
    checkValues rest

def checkMembers : Entries → Except Misfit Unit
  | [] => .ok ()
  | (_, v) :: rest => do
    checkValue v
    checkMembers rest

end

def document (text : String) : Except Misfit Entries :=
  match Toml.parse? text with
  | some entries => .ok entries
  | none => .error .malformed

/-- A section that stands alone in a text. -/
def readSection {α : Type} (read : Reader α) (text : String) : Except Misfit α := do
  read (.table (← document text))

def fields : List Field :=
  [field "database" DatabaseSettings.read, field "observability" ObservabilitySettings.read,
    field "retention" RetentionSettings.read]

def ofEntries (entries : Entries) : Except Misfit Settings := do
  checkFields fields entries
  return {
    database := ← optional entries "database" DatabaseSettings.read .none
    observability := ← optional entries "observability" ObservabilitySettings.read {}
    retention := ← optional entries "retention" RetentionSettings.read {} }

def contradiction? (s : Settings) : Option String :=
  s.database.contradiction? <|> s.retention.contradiction?

/-- The settings in a document without references. -/
def ofDocument (entries : Entries) : Except Problem Settings := do
  let settings ← (checkValue (.table entries) *> ofEntries entries).mapError Problem.misfit
  match settings.contradiction? with
  | some message => throw (.contradiction message)
  | none => return settings

def ofText (env : Environment) (text : String) : Except Problem Settings := do
  let expanded ← (expand env text).mapError Problem.unknownVariable
  let entries ← (document expanded).mapError Problem.misfit
  ofDocument entries

end Settings

end Retention
