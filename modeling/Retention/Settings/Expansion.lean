/-!
# References to the environment

In a settings text `${NAME}` stands for the value of a variable of the environment; the name is one
or more characters other than the closing brace, on one line. From the first `#` of a line to its
end no reference counts. Values are taken as they are, and references in them are not looked at.
Line ends become single newlines.
-/

namespace Retention.Settings

abbrev Environment := String → Option String

/-- The name of the reference that starts with a dollar sign in front of `cs`, if one does. -/
def reference? : List Char → Option (List Char)
  | '\x7b' :: rest =>
    let name := rest.takeWhile fun c => c != '\x7d' && c != '\n'
    if name.isEmpty || (rest.drop name.length).head? != some '\x7d' then none else some name
  | _ => none

/-- Replaces the references in a text, or gives the first name without a value. The next `skip`
characters belong to a reference that was replaced, and `comment` tells whether a `#` was passed on
this line. -/
def expandChars (env : Environment) : (skip : Nat) → (comment : Bool) → List Char →
    Except String (List Char)
  | _, _, [] => .ok []
  | skip + 1, comment, c :: rest => expandChars env skip (comment || c == '#') rest
  | 0, comment, c :: rest =>
    if c = '\n' then
      ('\n' :: ·) <$> expandChars env 0 false rest
    else if c = '\r' ∧ rest.head? = some '\n' then
      expandChars env 0 comment rest
    else
      match if c = '$' ∧ !comment then reference? rest else none with
      | none => (c :: ·) <$> expandChars env 0 (comment || c == '#') rest
      | some name =>
        match env (String.ofList name) with
        | none => .error (String.ofList name)
        | some value => (value.toList ++ ·) <$> expandChars env (name.length + 2) false rest

/-- The text with every reference replaced, or the first name without a value. -/
def expand (env : Environment) (text : String) : Except String String :=
  String.ofList <$> expandChars env 0 false text.toList

end Retention.Settings
