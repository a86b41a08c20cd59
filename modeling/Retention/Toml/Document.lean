import Retention.Toml.Scalars
import Retention.Toml.Strings
import Retention.Toml.Tree

/-!
# Documents

A document is read line by line: headers open tables, keys with values fill the table that is open.
Arrays and inline tables may span lines, hold comments and end in a comma; they may be nested
`maxDepth` deep. In an inline table lines may end on both sides of an equals sign, too.
-/

namespace Retention.Toml

/-- Arrays and inline tables may be nested this deep. -/
def maxDepth : Nat := 80

/-- The text after a comment; without one, the text itself. -/
def skipComment? : List Char → Option (List Char)
  | '#' :: rest =>
    let comment := rest.takeWhile fun c => c != '\n' && c != '\r'
    if comment.any isForbidden then none else some (rest.drop comment.length)
  | cs => some cs

/-- The text after blanks, comments and line ends; `rounds` bounds the number of lines. -/
def skipLines? : (rounds : Nat) → List Char → Option (List Char)
  | 0, cs => some cs
  | rounds + 1, cs => do
    let cs ← skipComment? (skipBlanks cs)
    match lineEnd? cs with
    | some rest => skipLines? rounds rest
    | none => return cs

def skipSpace? (cs : List Char) : Option (List Char) := skipLines? (cs.length + 1) cs

/-- The items of an array and the text after its bracket; `item` reads one of them. -/
def items? (item : List Char → Option (Value × List Char)) :
    (rounds : Nat) → List Char → Option (List Value × List Char)
  | 0, _ => none
  | rounds + 1, cs => do
    match ← skipSpace? cs with
    | ']' :: rest => return ([], rest)
    | cs =>
      let (v, rest) ← item cs
      match ← skipSpace? rest with
      | ']' :: rest => return ([v], rest)
      | ',' :: rest =>
        let (vs, rest) ← items? item rounds rest
        return (v :: vs, rest)
      | _ => none

/-- A key and its value; `skip` passes what may stand on both sides of the equals sign. -/
def assignment? (skip : List Char → Option (List Char))
    (item : List Char → Option (Value × List Char)) (cs : List Char) :
    Option ((List String × Value) × List Char) := do
  let (path, rest) ← key? cs
  match ← skip rest with
  | '=' :: rest =>
    let (v, rest) ← item (← skip rest)
    return ((path, v), rest)
  | _ => none

/-- The members of an inline table, added to those given, and the text after its brace. -/
def members? (item : List Char → Option (Value × List Char)) :
    (rounds : Nat) → Members → List Char → Option (Members × List Char)
  | 0, _, _ => none
  | rounds + 1, members, cs => do
    match ← skipSpace? cs with
    | '\x7d' :: rest => return (members, rest)
    | cs =>
      let ((path, v), rest) ← assignment? skipSpace? item cs
      let members ← members.assign v path
      match ← skipSpace? rest with
      | '\x7d' :: rest => return (members, rest)
      | ',' :: rest => members? item rounds members rest
      | _ => none

/-- A value and the text after it; `depth` bounds how deep arrays and inline tables are nested. -/
def value? : (depth : Nat) → List Char → Option (Value × List Char)
  | 0, cs =>
    match string? cs with
    | some (text, rest) => some (.string text, rest)
    | none => scalar? cs
  | depth + 1, cs =>
    match cs with
    | '[' :: rest => do
      let (items, rest) ← items? (value? depth) (rest.length + 1) rest
      return (.array items, rest)
    | '\x7b' :: rest => do
      let (members, rest) ← members? (value? depth) (rest.length + 1) [] rest
      return (.table (toEntries members), rest)
    | _ =>
      match string? cs with
      | some (text, rest) => some (.string text, rest)
      | none => scalar? cs

/-- The path of a header and the text after its brackets. -/
def headerPath? (closing : List Char) (cs : List Char) : Option (List String × List Char) := do
  let (path, rest) ← key? (skipBlanks cs)
  let rest := skipBlanks rest
  if rest.take closing.length = closing then some (path, rest.drop closing.length) else none

/-- The text of the next line, after blanks and a comment that end this one. -/
def nextLine? (cs : List Char) : Option (List Char) := do
  match ← skipComment? (skipBlanks cs) with
  | [] => some []
  | cs => lineEnd? cs

/-- Adds a header to the document; the last part of its path is the table that it opens. -/
def openHeader (add : String → Members → Option Members) (path : List String)
    (document : Members) : Option Members := do
  let key ← path.getLast?
  document.within (add key) path.dropLast

/-- Reads lines into the document; `path` leads to the table that is open. -/
def lines? : (rounds : Nat) → (path : List String) → Members → List Char → Option Members
  | 0, _, _, _ => none
  | rounds + 1, path, document, cs => do
    match ← skipSpace? cs with
    | [] => return document
    | '[' :: '[' :: rest =>
      let (path, rest) ← headerPath? [']', ']'] rest
      lines? rounds path (← openHeader Members.openNext path document) (← nextLine? rest)
    | '[' :: rest =>
      let (path, rest) ← headerPath? [']'] rest
      lines? rounds path (← openHeader Members.openTable path document) (← nextLine? rest)
    | cs =>
      let ((key, v), rest) ← assignment? (some ∘ skipBlanks) (value? maxDepth) cs
      lines? rounds path (← document.within (Members.assign v key) path) (← nextLine? rest)

/-- A line that gives a value to a key. -/
theorem lines?_assignment {n : Nat} {path key : List String} {document : Members} {v : Value}
    {cs rest : List Char} (begins : skipSpace? cs = some cs)
    (assigned : assignment? (some ∘ skipBlanks) (value? maxDepth) cs = some ((key, v), rest)) :
    lines? (n + 1) path document cs = (document.within (Members.assign v key) path).bind
      fun document => (nextLine? rest).bind (lines? n path document) := by
  simp only [lines?, begins, Option.bind_eq_bind, Option.bind_some]
  split
  · cases assigned
  · cases assigned
  · cases assigned
  · rw [assigned]
    rfl

/-- The text without a byte order mark at its start. -/
def withoutMark : List Char → List Char
  | '\ufeff' :: rest => rest
  | cs => cs

/-- The document that the text holds, unless it is malformed. -/
def parse? (text : String) : Option Entries := do
  let cs := withoutMark text.toList
  return toEntries (← lines? (cs.length + 1) [] [] cs)

end Retention.Toml
