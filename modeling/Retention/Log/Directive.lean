import Retention.Log.Event
import Retention.Text.Pattern.Parser

/-!
# Directives

A directive says up to which level events are logged, and may be for some of them only: those whose
target has a given start, those inside of a span with a given name, those with a given field or
inside of a span with one. It is written `target[span{field=value}]=level`, and every part may
be left out; what stands alone is a level if it can be read as one, a target otherwise. A value is
a pattern for the text of the field, or a number or truth value, which no text equals.

White space around a directive does not count when its parts are told from each other, but the
parts are taken from where they would stand without that in front: with a blank in front, a part
starts and ends one character early. If it would start or end inside of a character, reading
directives breaks down.
-/

namespace Retention.Log

/-- A field that a directive is for, and perhaps the text of its value. -/
structure FieldMatch where
  name : String
  value : Option String
deriving DecidableEq, Repr

structure Directive where
  /-- The start of the targets that it is for; all targets without one. -/
  target : Option String := none
  span : Option String := none
  field : Option FieldMatch := none
  /-- The most talkative level that is logged; none if nothing is. -/
  level : Option Level := some .trace
deriving DecidableEq, Repr

inductive DirectiveFault
  | malformed
  /-- A part would start or end inside of a character. -/
  | brokenCharacter
deriving DecidableEq, Repr

/-- How talkative a level is; zero is none. -/
def verbosity (level : Option Level) : Nat := level.elim 0 Level.verbosity

namespace FieldMatch

/-- Whether the text is a decimal number, with a fraction or an exponent or without. -/
def isDecimal (cs : List Char) : Bool :=
  let (mantissa, power) := cs.span fun c => c != 'e' && c != 'E'
  let (whole, fraction) := mantissa.span (· != '.')
  let exponent := match power.drop 1 with
    | '+' :: digits => digits
    | '-' :: digits => digits
    | digits => digits
  (whole ++ fraction.drop 1).all Char.isDigit && !(whole ++ fraction.drop 1).isEmpty &&
    (power.isEmpty || (exponent.all Char.isDigit && !exponent.isEmpty))

/-- Whether the text is that of a number or a truth value. -/
def isPlain (text : String) : Bool :=
  let unsigned := match text.toList with
    | '+' :: rest => rest
    | '-' :: rest => rest
    | cs => cs
  let name := (String.ofList unsigned).map Char.toLower
  text == "true" || text == "false" || ["inf", "infinity", "nan"].contains name ||
    isDecimal unsigned

/-- A field, with a value after an equals sign; a second equals sign ends the value. -/
def parse (text : String) : Except DirectiveFault FieldMatch :=
  match text.splitOn "=" with
  | name :: value :: _ =>
    if isPlain value || (Text.Pattern.parse? value).isSome then .ok ⟨name, some value⟩
    else .error .malformed
  | _ => if text = "" then .error .malformed else .ok ⟨text, none⟩

/-- Whether the value of the field fits, given the text that it is shown as. -/
def fits (m : FieldMatch) (shown : String) : Bool :=
  match m.value with
  | none => true
  | some value => !isPlain value && ((Text.Pattern.parse? value).any (·.matches shown))

end FieldMatch

namespace Directive

/-- A level by name, in letters of either case, or by number; zero and `off` are none. -/
def level? (text : String) : Option (Option Level) :=
  match Text.readNatural UInt64.size text.toList with
  | .ok 0 => some none
  | .ok n => (Level.all.find? (·.verbosity == n)).map some
  | .error _ =>
    let name := text.map Char.toUpper
    if name = "OFF" then some none else (Level.all.find? (·.text == name)).map some

/-- The text without its first `n` bytes. -/
def dropBytes : (n : Nat) → List Char → Except DirectiveFault (List Char)
  | 0, cs => .ok cs
  | n + 1, c :: cs =>
    if c.utf8Size ≤ n + 1 then dropBytes (n + 1 - c.utf8Size) cs else .error .brokenCharacter
  | _ + 1, [] => .error .brokenCharacter
termination_by _ cs => cs.length

/-- The first `n` bytes of the text. -/
def takeBytes (n : Nat) (cs : List Char) : Except DirectiveFault (List Char) := do
  let rest ← dropBytes n cs
  return cs.take (cs.length - rest.length)

/-- The part of the text between two bytes. -/
def part (cs : List Char) (start stop : Nat) : Except DirectiveFault String := do
  return String.ofList (← takeBytes (stop - start) (← dropBytes start cs))

/-- What is being read, and the byte at which it started. -/
inductive Place
  | start
  | levelOrTarget (start : Nat)
  | span (start : Nat)
  | field (start : Nat)
  | fieldEnd
  | spanEnd
  | level (start : Nat)
deriving DecidableEq, Repr

/-- The characters with which a level or a target may start. -/
def isFirst (c : Char) : Bool := c == '-' || c == ':' || c == '_' || Text.isAlphanumeric c

/-- The directive with the level that the text names; all levels if it is empty. -/
def withLevel (d : Directive) (text : String) : Except DirectiveFault Directive :=
  if text = "" then .ok d
  else
    match level? text with
    | some level => .ok { d with level }
    | none => .error .malformed

/-- Reads the character at byte `i`; the parts are taken from `cs`. -/
def step (cs : List Char) (d : Directive) (place : Place) (i : Nat) (c : Char) :
    Except DirectiveFault (Directive × Place) :=
  match place with
  | .start =>
    if c = '[' then .ok (d, .span (i + 1))
    else if isFirst c then .ok (d, .levelOrTarget i)
    else .error .malformed
  | .levelOrTarget start => do
    if c = '=' then
      return ({ d with target := some (← part cs start i) }, .level (i + 1))
    else if c = '[' then
      return ({ d with target := some (← part cs start i) }, .span (i + 1))
    else return (d, place)
  | .span start => do
    if c = ']' then
      return ({ d with span := some (← part cs start i) }, .spanEnd)
    else if c = '\x7b' then
      let name ← part cs start i
      return ({ d with span := if name = "" then none else some name }, .field (i + 1))
    else return (d, place)
  | .field start => do
    if c = '\x7d' then
      let text ← part cs start i
      if text = "" then
        throw .malformed
      return ({ d with field := some (← FieldMatch.parse text) }, .fieldEnd)
    else return (d, place)
  | .fieldEnd => if c = ']' then .ok (d, .spanEnd) else .error .malformed
  | .spanEnd => if c = '=' then .ok (d, .level (i + 1)) else .error .malformed
  | .level _ => .ok (d, place)

/-- Reads from byte `i` on; the parts are taken from `cs`. -/
def readFrom (cs : List Char) (d : Directive) (place : Place) (i : Nat) :
    List Char → Except DirectiveFault Directive
  | c :: rest => do
    let (d, place) ← step cs d place i c
    readFrom cs d place (i + c.utf8Size) rest
  | [] => do
    match place with
    | .levelOrTarget start =>
      let text := String.ofList (← dropBytes start cs)
      match level? text with
      | some level => return { d with level }
      | none => return { d with target := some text }
    | .level start => d.withLevel (String.ofList (← dropBytes start cs))
    | .spanEnd => return d
    | _ => throw .malformed

def parse (text : String) : Except DirectiveFault Directive :=
  readFrom text.toList {} .start 0 (Text.trim text.toList)

/-- Whether it is for targets like this one. -/
def fitsTarget (d : Directive) (target : String) : Bool :=
  d.target.all fun start => start.toList.isPrefixOf target.toList

/-- Whether it can be told from an event alone if the directive is for it. -/
def isStatic (d : Directive) : Bool :=
  d.span.isNone && d.field.all (·.value.isNone)

/-- Whether it is for events inside of some spans, whatever they are themselves. -/
def isDynamic (d : Directive) : Bool := d.span.isSome || d.field.isSome

end Directive

end Retention.Log
