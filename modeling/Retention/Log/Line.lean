import Retention.Log.Filter
import Retention.Text.Quoted

/-!
# Log lines

A record takes one line in the compact layout and as an object, several in the pretty one. The time
in front and the place of the event are told on demand. The place is a line of a file, by which a
reader of the log finds what was under way.
-/

namespace Retention.Log

open Settings (LoggingSettings)
open Time (Instant)

namespace Level

/-- The level in five characters. -/
def aligned (l : Level) : String :=
  String.ofList (List.replicate (5 - l.text.length) ' ') ++ l.text

end Level

namespace Value

def text : Value → String
  | number n => toString n
  | shown text => text
  | quoted text => Text.quoted text

end Value

namespace Event

def file (e : Event) : String :=
  let path := match e.target.splitOn "::" with
    | [_] => ["main"]
    | [_, part] => [part, "mod"]
    | _ :: parts => parts
    | [] => []
  "src/" ++ "/".intercalate path ++ ".rs"

def line : Event → Nat
  | chunkSized .. => 35
  | chunkRemoved .. => 100
  | removalStarted .. => 72
  | removalFinished .. => 79
  | removalFailed .. => 95
  | repositoryUnknown .. => 126
  | repositoryUnresolved .. => 132
  | jobsStarted .. => 57
  | jobsFound .. => 100
  | jobChunkDeleted .. => 110
  | jobsFailed .. => 64
  | jobsDeleted .. => 70
  | pruningStarted => 32
  | unreferencedFound .. => 66
  | pruningChunk .. => 80
  | pruningFailed .. => 43
  | cycleAborted .performance .. => 91
  | cycleAborted .jobs .. => 86
  | cycleStarted .. => 46
  | pauseIgnored => 95
  | databaseOpened .. => 93
  | optionsRefused .. => 103
  | intervalChosen .. => 108
  | connectionFailed .. => 117
  | healthCheckFailed .. => 123
  | runCompleted .. => 133
  | stepUnfinished .. => 140
  | runAborted .. => 148
  | runFailed .. => 156

def place (e : Event) : String := s!"{e.file}:{e.line}"

end Event

namespace Record

/-- The time in front of a line, with a blank after it. -/
def stampText (s : LoggingSettings) (time : Instant) : String :=
  if s.timestamps then time.logged ++ " " else ""

/-- Message, fields and the fields of the span in one line. -/
def compact (s : LoggingSettings) (time : Instant) (r : Record) : String :=
  let e := r.event
  let span := if r.span.isSome then spanName ++ ": " else ""
  let place := if s.places then e.place ++ ": " else ""
  let fields := e.fields.map fun f => s!" {f.name}={f.value.text}"
  let source := (r.span.map fun d => s!" {spanField}={d.name}").getD ""
  stampText s time ++ e.level.aligned ++ " " ++ span ++ e.target ++ ": " ++ place ++ e.message ++
    String.join fields ++ source

/-- Message and fields in a line, the place and the span each in one of their own, and an empty
line. -/
def pretty (s : LoggingSettings) (time : Instant) (r : Record) : List String :=
  let e := r.event
  let fields := e.fields.map fun f => s!", {f.name}: {f.value.text}"
  let first := "  " ++ stampText s time ++ e.level.aligned ++ " " ++ e.target ++ ": " ++
    e.message ++ String.join fields
  let place := if s.places then ["    at " ++ e.place] else []
  let span := r.span.toList.map fun d =>
    s!"    in {spanTarget}::{spanName} with {spanField}: {d.name}"
  first :: place ++ span ++ [""]

/-- A character within quotes in an object. -/
def escapedInObject (c : Char) : List Char :=
  if c = '"' then ['\\', '"']
  else if c = '\\' then ['\\', '\\']
  else if c = '\n' then ['\\', 'n']
  else if c = '\r' then ['\\', 'r']
  else if c = '\t' then ['\\', 't']
  else if c = '\x08' then ['\\', 'b']
  else if c = '\x0c' then ['\\', 'f']
  else if c < ' ' then
    let digits := Nat.toDigits 16 c.toNat
    '\\' :: 'u' :: List.replicate (4 - digits.length) '0' ++ digits
  else [c]

def quotedInObject (text : String) : String :=
  String.ofList ('"' :: text.toList.flatMap escapedInObject ++ ['"'])

/-- Names with values that are written already. -/
def object (members : List (String × String)) : String :=
  let written := members.map fun (name, value) => quotedInObject name ++ ":" ++ value
  "\x7b" ++ ",".intercalate written ++ "\x7d"

def member (f : Field) : String × String :=
  match f.value with
  | .number n => (f.name, toString n)
  | .shown text => (f.name, quotedInObject text)
  | .quoted text => (f.name, quotedInObject text)

def json (s : LoggingSettings) (time : Instant) (r : Record) : String :=
  let e := r.event
  let stamp := if s.timestamps then [("timestamp", quotedInObject time.logged)] else []
  let place :=
    if s.places then [("filename", quotedInObject e.file), ("line_number", toString e.line)] else []
  let span := r.span.toList.map fun d =>
    ("span", object [(spanField, quotedInObject d.name), ("name", quotedInObject spanName)])
  object <| stamp ++ [("level", quotedInObject e.level.text),
    ("fields", object (("message", quotedInObject e.message) :: e.fields.map member)),
    ("target", quotedInObject e.target)] ++ place ++ span

/-- The lines of a record in the layout of the settings. -/
def lines (s : LoggingSettings) (time : Instant) (r : Record) : List String :=
  match s.layout with
  | .pretty => r.pretty s time
  | .compact => [r.compact s time]
  | .json => [r.json s time]

end Record

end Retention.Log
