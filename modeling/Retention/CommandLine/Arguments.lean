import Retention.Cycle.Domain
import Retention.Text.Digits
import Retention.Text.Terminal

/-!
# Arguments

A command line has options, some of them with a value, and may name a domain as its command; options
may stand before and after the command. What stands after the command wins.

An option with a value takes the word after it, unless that starts with a hyphen. Whether the value
fits is looked at when the next option starts or the line ends; the faults of the words after a
command come before those still open in front of it.
-/

namespace Retention.CommandLine

open Retention.Cycle (DataDomain)

inductive ValueOption
  | config | days | chunkSize | sleepTime
deriving DecidableEq, Repr

namespace ValueOption

def all : List ValueOption := [.config, .days, .chunkSize, .sleepTime]

def name : ValueOption → String
  | .config => "config"
  | .days => "days"
  | .chunkSize => "chunk-size"
  | .sleepTime => "sleep-time"

/-- How the option and its value are shown. -/
def usage : ValueOption → String
  | .config => "--config <CONFIG>"
  | .days => "--days <DAYS>"
  | .chunkSize => "--chunk-size <CHUNK_SIZE>"
  | .sleepTime => "--sleep-time <SLEEP_TIME>"

end ValueOption

inductive ArgumentError
  | unexpectedArgument (word : String)
  | unknownCommand (word : String)
  | missingValue (option : ValueOption)
  | badValue (option : ValueOption) (value reason : String)
  /-- An option that was given before, as it is shown. -/
  | repeated (option : String)
  /-- A value for an option that takes none. -/
  | needlessValue (value option : String)
deriving DecidableEq, Repr

def ArgumentError.message : ArgumentError → String
  | unexpectedArgument word => s!"unexpected argument '{Text.shown word}' found"
  | unknownCommand word => s!"unrecognized subcommand '{Text.shown word}'"
  | missingValue option => s!"a value is required for '{option.usage}' but none was supplied"
  | badValue option value reason =>
    s!"invalid value '{Text.shown value}' for '{option.usage}': {reason}"
  | repeated option => s!"the argument '{option}' cannot be used multiple times"
  | needlessValue value option =>
    s!"unexpected value '{Text.shown value}' for '{option}' found; no more were expected"

inductive Topic
  | program
  | command (domain : DataDomain)
  | help
deriving DecidableEq, Repr

/-- Why a command line starts no run. -/
inductive Stop
  | help (topic : Topic)
  | version
  | refused (error : ArgumentError)
deriving DecidableEq, Repr

structure Given where
  config : Option String := none
  days : Option UInt32 := none
  chunkSize : Option UInt32 := none
  sleepTime : Option UInt64 := none
  debug : Bool := false
deriving DecidableEq, Repr

structure Request where
  domain : Option DataDomain
  given : Given
deriving DecidableEq, Repr

namespace Given

/-- The options of both, those of `inner` where both have them. -/
def override (outer inner : Given) : Given where
  config := inner.config <|> outer.config
  days := inner.days <|> outer.days
  chunkSize := inner.chunkSize <|> outer.chunkSize
  sleepTime := inner.sleepTime <|> outer.sleepTime
  debug := outer.debug || inner.debug

end Given

/-- A whole number of 64 bits with a sign that lies between the bounds. -/
def numberWithin (low high : Int) (text : String) : Except String Int := do
  let n ← (Text.readInteger text.toList).mapError (·.message)
  if low ≤ n ∧ n ≤ high then
    return n
  throw s!"{n} is not in {low}..={high}"

namespace Given

def has (g : Given) : ValueOption → Bool
  | .config => g.config.isSome
  | .days => g.days.isSome
  | .chunkSize => g.chunkSize.isSome
  | .sleepTime => g.sleepTime.isSome

/-- Takes the value of an option that was not given before. -/
def store (g : Given) (option : ValueOption) (value : String) : Except Stop Given := do
  if g.has option then
    throw (.refused (.repeated option.usage))
  let bad (reason : String) : Stop := .refused (.badValue option value reason)
  match option with
  | .config =>
    if value = "" then
      throw (.refused (.missingValue option))
    return { g with config := some value }
  | .days =>
    let n ← (numberWithin 0 (UInt32.size - 1) value).mapError bad
    return { g with days := some n.toNat.toUInt32 }
  | .chunkSize =>
    let n ← (numberWithin 1 (UInt32.size - 1) value).mapError bad
    return { g with chunkSize := some n.toNat.toUInt32 }
  | .sleepTime =>
    let n ← (Text.readNatural UInt64.size value.toList).mapError (bad ·.message)
    return { g with sleepTime := some n.toUInt64 }

end Given

/-- An option whose value has not been looked at, and the value if it was met. -/
abbrev Pending := Option (ValueOption × Option String)

/-- Takes the value that was left to be looked at. -/
def resolve (pending : Pending) (given : Given) : Except Stop Given :=
  match pending with
  | none => .ok given
  | some (option, none) => .error (.refused (.missingValue option))
  | some (option, some value) => given.store option value

inductive Command
  | cycle (domain : DataDomain)
  | help
deriving DecidableEq, Repr

def commandNames : List (String × Command) :=
  [("from:treeherder", .cycle .jobs), ("from:perfherder", .cycle .performance), ("help", .help)]

def command? (word : String) : Option Command := commandNames.lookup word

/-- What the words after `help` ask about. -/
def topicOf : List String → Stop
  | [] => .help .program
  | word :: rest =>
    match command? word, rest with
    | some (.cycle domain), [] => .help (.command domain)
    | some .help, [] => .help .help
    | some _, next :: _ => .refused (.unknownCommand next)
    | none, _ => .refused (.unknownCommand word)

/-- The command under which words are read: none, or one of a domain. -/
abbrev Scope := Option DataDomain

namespace Scope

def topic : Scope → Topic
  | none => .program
  | some domain => .command domain

/-- A word that is neither an option nor a command. -/
def surplus (scope : Scope) (trailing : Bool) (word : String) : Stop :=
  match scope with
  | none =>
    if trailing && (command? word).isSome then .refused (.unexpectedArgument word)
    else .refused (.unknownCommand word)
  | some _ => .refused (.unexpectedArgument word)

end Scope

/-- Where reading has got to: the options so far, and the one whose value is pending. -/
structure Progress where
  given : Given := {}
  pending : Pending := none
deriving DecidableEq, Repr

namespace Progress

/-- Starts an option; its value may be attached to it. -/
def option (p : Progress) (option : ValueOption) (attached : Option String) :
    Except Stop Progress := do
  let given ← resolve p.pending p.given
  match attached with
  | some value => return ⟨← given.store option value, none⟩
  | none => return ⟨given, some (option, none)⟩

def debug (p : Progress) : Except Stop Progress := do
  let given ← resolve p.pending p.given
  if given.debug then
    throw (.refused (.repeated "--debug"))
  return ⟨{ given with debug := true }, none⟩

/-- Stops for help or the version, unless a pending value is bad. -/
def stop (p : Progress) (reason : Stop) : Except Stop Progress := do
  let _ ← resolve p.pending p.given
  throw reason

/-- A word with two hyphens in front; `name` is what follows them up to an equals sign, `attached`
what follows that. -/
def long (p : Progress) (scope : Scope) (name : String) (attached : Option String) :
    Except Stop Progress :=
  match ValueOption.all.find? (·.name == name) with
  | some option => p.option option attached
  | none =>
    let flag (act : Except Stop Progress) : Except Stop Progress :=
      match attached with
      | some value => .error (.refused (.needlessValue value ("--" ++ name)))
      | none => act
    if name = "debug" then flag p.debug
    else if name = "help" then flag (p.stop (.help scope.topic))
    else if name = "version" ∧ scope.isNone then flag (p.stop .version)
    else .error (.refused (.unexpectedArgument ("--" ++ name)))

/-- A word with one hyphen in front, of which `letter` is the next character. -/
def short (p : Progress) (scope : Scope) (letter : Char) (rest : List Char) :
    Except Stop Progress :=
  if letter = 'c' then
    match rest with
    | [] => p.option .config none
    | '=' :: value => p.option .config (some (String.ofList value))
    | value => p.option .config (some (String.ofList value))
  else if letter = 'h' then p.stop (.help scope.topic)
  else if letter = 'V' ∧ scope.isNone then p.stop .version
  else .error (.refused (.unexpectedArgument (String.ofList ['-', letter])))

end Progress

/-- The two sides of the first equals sign. -/
def splitValue (cs : List Char) : String × Option String :=
  match cs.span (· != '=') with
  | (name, []) => (String.ofList name, none)
  | (name, _ :: value) => (String.ofList name, some (String.ofList value))

/-- Reads words; after two bare hyphens, in a `trailing` part, they are no options any more. -/
def readWords (scope : Scope) : (trailing : Bool) → Progress → List String → Except Stop Request
  | _, p, [] => do
    return ⟨scope, ← resolve p.pending p.given⟩
  | trailing, p, word :: rest =>
    let awaited := match p.pending with
      | some (option, none) => some option
      | _ => none
    let plain : Except Stop Request :=
      match awaited, trailing with
      | some option, false =>
        readWords scope false { p with pending := some (option, some word) } rest
      | _, _ => .error (scope.surplus trailing word)
    if trailing then plain
    else
      match if scope.isNone ∧ awaited.isNone then command? word else none with
      | some .help => .error (topicOf rest)
      | some (.cycle domain) => do
        let inner ← readWords (some domain) false {} rest
        let given ← resolve p.pending p.given
        return { inner with given := given.override inner.given }
      | none =>
        match word.toList with
        | ['-', '-'] => readWords scope true p rest
        | '-' :: '-' :: long => do
          let (name, attached) := splitValue long
          readWords scope false (← p.long scope name attached) rest
        | '-' :: letter :: more => do
          readWords scope false (← p.short scope letter more) rest
        | _ => plain

def parse (words : List String) : Except Stop Request := readWords none false {} words

end Retention.CommandLine
