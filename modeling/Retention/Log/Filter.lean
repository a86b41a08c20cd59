import Retention.Log.Directive
import Retention.Settings.Logging

/-!
# Log filters

A filter is a list of directives. An event is logged if the directives that are for it allow its
level. Of those that can be told from the event itself the most specific decides: the one for the
longest start of a target, then one for a field, then the later one. Inside of a span that the other
directives are for, events are logged up to the most talkative level among these, whatever they are
themselves. Without directives only errors are logged.

The one span is that of a cycle. It counts as an event of its own: where it is not kept, nothing is
inside of it.
-/

namespace Retention.Log

open Retention.Cycle (DataDomain)
open Settings (LoggingSettings)

def spanName : String := "cycle_data"

def spanTarget : String := "cycler::cycling::selector"

/-- The field of the span; its value is the name of the domain. -/
def spanField : String := "source"

def spanLevel : Level := .info

namespace Directive

/-- Whether it is for the event. -/
def fitsEvent (d : Directive) (e : Event) : Bool :=
  d.fitsTarget e.target && d.field.all fun m => e.fieldNames.contains m.name

/-- Whether it is for events inside of the span of a cycle; the value of its field may still tell
otherwise. -/
def fitsSpan (d : Directive) : Bool :=
  d.isDynamic && d.fitsTarget spanTarget && d.span.all (· == spanName) &&
    d.field.all (·.name == spanField)

/-- Whether the other directive is to decide where both are for an event. -/
def yieldsTo (d other : Directive) : Bool :=
  let length (d : Directive) := d.target.elim 0 fun start => start.utf8ByteSize + 1
  if length d ≠ length other then length d < length other
  else
    match d.field, other.field with
    | some m, some n => !(n.name < m.name)
    | some _, none => false
    | none, _ => true

end Directive

abbrev Filter := List Directive

namespace Filter

def errorsOnly : Filter := [{ level := some .error }]

/-- The directives between commas, if all of them are well formed. -/
def parse (text : String) : Except DirectiveFault Filter := do
  let directives ← ((text.splitOn ",").filter (· != "")).mapM Directive.parse
  return if directives.isEmpty then errorsOnly else directives

/-- The better of two directives. -/
def better (best : Option Directive) (d : Directive) : Option Directive :=
  match best with
  | some b => if b.yieldsTo d then some d else some b
  | none => some d

/-- Whether the directive that decides among those given allows the level. -/
def decides (candidates : List Directive) (level : Level) : Bool :=
  (candidates.foldl better none).any fun d => level.verbosity ≤ verbosity d.level

/-- Whether the event is logged on its own account. -/
def allowsEvent (f : Filter) (e : Event) : Bool :=
  decides (f.filter fun d => d.isStatic && d.fitsEvent e) e.level

/-- The highest verbosity that anything can have to pass. The values of fields are known too late
to bound it. -/
def maxVerbosity (f : Filter) : Nat :=
  if f.any fun d => d.field.any (·.value.isSome) then Level.trace.verbosity
  else (f.map (verbosity ·.level)).foldl max 0

/-- Whether the span of a cycle is kept. -/
def keepsSpan (f : Filter) : Bool :=
  spanLevel.verbosity ≤ f.maxVerbosity &&
    (f.any Directive.fitsSpan ||
      decides (f.filter fun d => d.isStatic && d.fitsTarget spanTarget) spanLevel)

/-- The directives without those that a later one for the same replaces. -/
def withoutReplaced : Filter → Filter
  | [] => []
  | d :: rest =>
    if rest.any fun other => { other with level := d.level } == d then withoutReplaced rest
    else d :: withoutReplaced rest

/-- The verbosity up to which events are logged inside of the span of a cycle on this domain. -/
def spanVerbosity (f : Filter) (domain : DataDomain) : Nat :=
  let inside := f.withoutReplaced.filter fun d =>
    d.fitsSpan && d.field.all (·.fits domain.name)
  (inside.map (verbosity ·.level)).foldl max 0

/-- The level of the settings, raised to `debug` on demand. -/
def baseLevel (s : LoggingSettings) (debug : Bool) : Level :=
  if debug && s.level.verbosity < Level.debug.verbosity then .debug else s.level

/-- The filter of the settings. An override replaces it; a list of directives that is not well
formed leaves the level alone. Reading the list may break down. -/
def ofSettings (s : LoggingSettings) (debug : Bool) (override : Option String) :
    Except DirectiveFault Filter :=
  let base : Directive := { level := some (baseLevel s debug) }
  let directives := match override, s.filter with
    | some text, _ => parse text
    | none, some text => parse ((baseLevel s debug).text ++ "," ++ text)
    | none, none => .ok [base]
  match directives with
  | .error .malformed => .ok [base]
  | directives => directives

def apply (f : Filter) (records : List Record) : List Record :=
  let records := records.map fun r => if f.keepsSpan then r else { r with span := none }
  records.filter fun r =>
    f.allowsEvent r.event ||
      r.span.any fun domain => r.event.level.verbosity ≤ f.spanVerbosity domain

end Filter

end Retention.Log
