/-!
# Text on a terminal

A terminal takes some characters for orders instead of showing them: control characters, and
sequences that start with an escape. `shown` is what is left of a text without them. White space is
shown, except in the strings that some sequences carry.

White space in the middle of a sequence is shown with all that follows it, up to the next character
that is not; from there the sequence goes on.
-/

namespace Retention.Text

/-- What an escape has started. -/
inductive Sequence
  | none
  /-- Only the escape was read. -/
  | opened
  /-- The escape and marks that call for one more character. -/
  | marked
  /-- Parameters, up to a letter or a sign like one. -/
  | parameters
  /-- A string, up to the next escape. -/
  | string
  /-- A string that a bell ends, too. -/
  | title
deriving DecidableEq, Repr

namespace Sequence

/-- Whether the character is shown, and what goes on after it. -/
def step (s : Sequence) (c : Char) : Bool × Sequence :=
  let white := c == '\t' || c == '\n' || c == '\x0c' || c == '\r'
  if c = '\x1b' then (false, opened)
  else if c = '\x18' ∨ c = '\x1a' then (false, none)
  else
    match s with
    | none => (white || (' ' ≤ c && c != '\x7f'), none)
    | string => (false, string)
    | title => (false, if c = '\x07' then none else title)
    | opened =>
      if c < ' ' ∨ '\x7f' ≤ c then (white, opened)
      else if c < '0' then (false, marked)
      else if c = '[' then (false, parameters)
      else if c = ']' then (false, title)
      else if c = 'P' ∨ c = 'X' ∨ c = '^' ∨ c = '_' then (false, string)
      else (false, none)
    | marked =>
      if c < ' ' ∨ '\x7f' ≤ c then (white, marked)
      else (false, if c < '0' then marked else none)
    | parameters =>
      if c < ' ' ∨ '\x7f' ≤ c then (white, parameters)
      else (false, if c < '@' then parameters else none)

/-- What is shown of a text; `showing` tells that the character before it was shown. -/
def shown (s : Sequence) (showing : Bool) : List Char → List Char
  | [] => []
  | c :: rest =>
    let (now, next) := if showing then none.step c else s.step c
    let next := if showing ∧ next = none ∧ c ≠ '\x18' ∧ c ≠ '\x1a' then s else next
    if now then c :: shown next true rest else shown next false rest

end Sequence

def shown (text : String) : String := String.ofList (Sequence.none.shown false text.toList)

end Retention.Text
