import Retention.Text.Digits
import Retention.Text.Letters
import Retention.Text.Pattern

/-!
# Patterns in text

Regular expressions as they are written (`Pattern.parse?`). Letters between `(?` and `)` change how
the rest of a group is read, or a group of their own if a colon follows (`Mode`): whether letters
fit in either case, which way of repeating comes first, and whether blanks and comments count.

Classes of characters stand in brackets. They may be nested, and two of them may be taken together
by `&&`, `--` and `~~`: what is in both, in the first only, or in one of them only.
-/

namespace Retention.Text

namespace Pattern

structure Mode where
  anyCase : Bool := false
  shortFirst : Bool := false
  /-- Blanks and comments do not count. -/
  spaced : Bool := false
  /-- Bytes are not characters of their own. -/
  wholeCharacters : Bool := true

abbrev CharSet := Char → Bool

namespace Mode

/-- The mode with a letter set or unset. -/
def set (m : Mode) (value : Bool) : Char → Option Mode
  | 'i' => some { m with anyCase := value }
  | 'U' => some { m with shortFirst := value }
  | 'x' => some { m with spaced := value }
  | 'u' => some { m with wholeCharacters := value }
  | 'm' | 's' | 'R' => some m
  | _ => none

/-- A character by itself. -/
def accepts (m : Mode) (c : Char) : CharSet := fun d =>
  d == c || (m.anyCase && d.toLower == c.toLower)

/-- A class with the letters of the other case, if that does not count. -/
def widened (m : Mode) (set : CharSet) : CharSet := fun c =>
  set c || (m.anyCase && (set c.toLower || set c.toUpper))

/-- The text without blanks and comments in front, where these do not count. -/
def skip (m : Mode) : (comment : Bool) → List Char → List Char
  | _, [] => []
  | comment, c :: rest =>
    if !m.spaced then c :: rest
    else if comment then skip m (c != '\n') rest
    else if c = '#' then skip m true rest
    else if isWhite c then skip m false rest
    else c :: rest

/-- The letters up to a colon or a parenthesis, which is left. None stands twice, and a minus sign
stands once at most, not at the end. -/
def letters? (m : Mode) (seen : List Char) (value : Bool) : List Char → Option (Mode × List Char)
  | [] => none
  | c :: rest =>
    if c = ':' ∨ c = ')' then if seen.head? = some '-' then none else some (m, c :: rest)
    else if seen.contains c then none
    else if c = '-' then letters? m ('-' :: seen) false rest
    else do letters? (← m.set value c) (c :: seen) value rest

end Mode

/-- The class that a letter after a backslash names. -/
def classOf? (letter : Char) : Option CharSet :=
  let word (c : Char) := isAlphanumeric c || c == '_'
  match letter with
  | 'd' => some (·.isDigit)
  | 'D' => some (!·.isDigit)
  | 'w' => some word
  | 'W' => some (!word ·)
  | 's' => some isWhite
  | 'S' => some (!isWhite ·)
  | _ => none

/-- The classes with names, which stand between `[:` and `:]`. -/
def namedClasses : List (String × CharSet) := [
  ("alnum", Char.isAlphanum), ("alpha", Char.isAlpha), ("ascii", (· < '\x80')),
  ("blank", fun c => c == ' ' || c == '\t'), ("cntrl", fun c => c < ' ' || c == '\x7f'),
  ("digit", Char.isDigit), ("graph", fun c => ' ' < c && c < '\x7f'), ("lower", Char.isLower),
  ("print", fun c => ' ' ≤ c && c < '\x7f'),
  ("punct", fun c => ' ' < c && c < '\x7f' && !c.isAlphanum),
  ("space", fun c => c == ' ' || ('\t' ≤ c && c ≤ '\r')), ("upper", Char.isUpper),
  ("word", fun c => c.isAlphanum || c == '_'),
  ("xdigit", fun c => (digitValue 16 c).isSome)]

/-- The character with a number of so many hexadecimal digits. -/
def charOfDigits? (count : Nat) (cs : List Char) : Option (Char × List Char) := do
  let digits := cs.take count
  let n ← ofDigits 16 0 digits
  if digits.length = count ∧ n.isValidChar then some (Char.ofNat n, cs.drop count) else none

/-- The character that stands after a backslash. -/
def escaped? : List Char → Option (Char × List Char)
  | 'n' :: rest => some ('\n', rest)
  | 't' :: rest => some ('\t', rest)
  | 'r' :: rest => some ('\r', rest)
  | 'f' :: rest => some ('\x0c', rest)
  | 'v' :: rest => some ('\x0b', rest)
  | 'a' :: rest => some ('\x07', rest)
  | 'x' :: rest => charOfDigits? 2 rest
  | 'u' :: rest => charOfDigits? 4 rest
  | 'U' :: rest => charOfDigits? 8 rest
  | c :: rest => if c < '\x80' ∧ !c.isAlphanum ∧ c ≠ '<' ∧ c ≠ '>' then some (c, rest) else none
  | [] => none

/-- A class with a name, and whether it is to be turned around. -/
def named? (cs : List Char) : Option (CharSet × List Char) := do
  let turned := cs.head? == some '^'
  let cs := if turned then cs.drop 1 else cs
  let (name, rest) := cs.span Char.isAlpha
  let set ← namedClasses.lookup (String.ofList name)
  match rest with
  | ':' :: ']' :: rest => some (if turned then (!set ·) else set, rest)
  | _ => none

/-- How two classes are taken together. -/
def together? : Char → Option (Bool → Bool → Bool)
  | '&' => some (· && ·)
  | '-' => some fun a b => a && !b
  | '~' => some (· != ·)
  | _ => none

/-- A character within brackets, or a class that a backslash begins. -/
def member? : List Char → Option ((Char ⊕ CharSet) × List Char)
  | '\\' :: cs =>
    match cs.head?.bind classOf? with
    | some set => some (.inr set, cs.drop 1)
    | none => (escaped? cs).map fun (c, rest) => (.inl c, rest)
  | c :: rest => some (.inl c, rest)
  | [] => none

mutual

/-- A class after its opening bracket, up to its closing one. -/
def brackets? (m : Mode) : (rounds : Nat) → List Char → Option (CharSet × List Char)
  | 0, _ => none
  | rounds + 1, cs => do
    let cs := m.skip false cs
    let turned := cs.head? == some '^'
    let cs := if turned then m.skip false (cs.drop 1) else cs
    if turned ∧ !m.wholeCharacters then
      none
    let (set, rest) ← union? m rounds false (fun _ => false) cs
    let (set, rest) ← operands? m rounds set rest
    return (if turned then (!set ·) else set, rest)

/-- Operators on classes and the classes after them, up to the closing bracket. -/
def operands? (m : Mode) : (rounds : Nat) → CharSet → List Char → Option (CharSet × List Char)
  | 0, _, _ => none
  | rounds + 1, set, cs =>
    match cs with
    | ']' :: rest => some (set, rest)
    | c :: _ :: rest => do
      let combine ← together? c
      let (other, rest) ← union? m rounds true (fun _ => false) rest
      operands? m rounds (fun c => combine (set c) (other c)) rest
    | _ => none

/-- Members of a class, which are added to `set`, up to an operator or the closing bracket; that
is a member itself where nothing has `begun`. -/
def union? (m : Mode) : (rounds : Nat) → (begun : Bool) → CharSet → List Char →
    Option (CharSet × List Char)
  | 0, _, _, _ => none
  | rounds + 1, begun, set, cs => do
    let cs := m.skip false cs
    let more (added : CharSet) (rest : List Char) :=
      union? m rounds true (fun c => set c || m.widened added c) rest
    match cs with
    | '[' :: ':' :: rest =>
      match named? rest with
      | some (added, rest) => more added rest
      | none => do
        let (added, rest) ← brackets? m rounds (':' :: rest)
        more added rest
    | '[' :: rest => do
      let (added, rest) ← brackets? m rounds rest
      more added rest
    | _ =>
      let ends := begun && match cs with
        | ']' :: _ => true
        | c :: d :: _ => c == d && (together? c).isSome
        | _ => false
      if ends then
        return (set, cs)
      let (front, rest) ← member? cs
      match front, m.skip false rest with
      | .inl low, '-' :: back =>
        match back with
        | ']' :: _ => more (· == low) rest
        | '-' :: _ => more (· == low) rest
        | _ =>
          match ← member? (m.skip false back) with
          | (.inl high, rest) =>
            if low ≤ high then more (fun c => low ≤ c && c ≤ high) rest else none
          | (.inr _, _) => none
      | .inl c, _ => more (· == c) rest
      | .inr added, '-' :: back =>
        match back with
        | ']' :: _ => more added rest
        | '-' :: _ => more added rest
        | _ => none
      | .inr added, _ => more added rest

end

/-- The signs of repetition after a part. -/
def repetitions (m : Mode) : (rounds : Nat) → Pattern → List Char → Pattern × List Char
  | 0, p, cs => (p, cs)
  | rounds + 1, p, cs =>
    let cs := m.skip false cs
    let sign (make : Bool → Pattern) (rest : List Char) :=
      match rest with
      | '?' :: rest => repetitions m rounds (make m.shortFirst) rest
      | _ => repetitions m rounds (make !m.shortFirst) rest
    match cs with
    | '*' :: rest => sign (repeated p false) rest
    | '+' :: rest => sign (repeated p true) rest
    | '?' :: rest => sign (optional p) rest
    | _ => (p, cs)

/-- What follows the name of a group, which an angle bracket ends. -/
def afterName? (cs : List Char) : Option (List Char) :=
  let isFirst (c : Char) := c == '_' || (isAlphanumeric c && !c.isDigit)
  let isNext (c : Char) := isAlphanumeric c || "_.[]".contains c
  match cs.span (· != '>') with
  | (c :: name, _ :: rest) => if isFirst c ∧ name.all isNext then some rest else none
  | _ => none

/-- The mode that letters in parentheses of their own set. -/
def modeChange? (m : Mode) : List Char → Option (Mode × List Char)
  | '(' :: '?' :: letter :: rest =>
    match m.letters? [] true (letter :: rest) with
    | some (changed, ')' :: rest) => if letter = ')' then none else some (changed, rest)
    | _ => none
  | _ => none

mutual

/-- One part without signs of repetition; `rounds` bounds the number of parts. -/
def part? (m : Mode) : (rounds : Nat) → List Char → Option (Pattern × List Char)
  | 0, _ => none
  | rounds + 1, cs =>
    match cs with
    | '.' :: rest => if m.wholeCharacters then some (one (· != '\n'), rest) else none
    | '^' :: rest => some (first, rest)
    | '$' :: rest => some (last, rest)
    | '[' :: rest => (brackets? m (2 * rest.length + 2) rest).map fun (set, rest) => (one set, rest)
    | '(' :: '?' :: 'P' :: '<' :: rest => do group? m rounds (← afterName? rest)
    | '(' :: '?' :: '<' :: rest => do group? m rounds (← afterName? rest)
    | '(' :: '?' :: rest => do
      match ← m.letters? [] true rest with
      | (own, ':' :: rest) => group? own rounds rest
      | _ => none
    | '(' :: rest => group? m rounds rest
    | '\\' :: 'A' :: rest => some (first, rest)
    | '\\' :: 'z' :: rest => some (last, rest)
    | '\\' :: rest =>
      match rest with
      | c :: more =>
        match classOf? c with
        | some set => if m.wholeCharacters || c.isLower then some (one set, more) else none
        | none => (escaped? rest).map fun (c, rest) => (one (m.accepts c), rest)
      | [] => none
    | c :: rest => if "*+?\x7b)|".contains c then none else some (one (m.accepts c), rest)
    | [] => none

/-- The rest of a group, and the text after its parenthesis. -/
def group? (m : Mode) : (rounds : Nat) → List Char → Option (Pattern × List Char)
  | 0, _ => none
  | rounds + 1, cs => do
    match ← parts? m rounds cs with
    | (p, ')' :: rest) => return (p, rest)
    | _ => none

/-- Parts one after the other and alternatives, as far as the pattern or the group goes. -/
def parts? (m : Mode) : (rounds : Nat) → List Char → Option (Pattern × List Char)
  | 0, _ => none
  | rounds + 1, cs => do
    let (front, m, rest) ← sequence? m rounds cs
    match rest with
    | '|' :: rest => do
      let (back, rest) ← parts? m rounds rest
      return (either front back, rest)
    | _ => return (front, rest)

/-- Parts one after the other, and the mode after them. -/
def sequence? (m : Mode) : (rounds : Nat) → List Char → Option (Pattern × Mode × List Char)
  | 0, _ => none
  | rounds + 1, cs =>
    let cs := m.skip false cs
    match cs with
    | [] => some (empty, m, [])
    | '|' :: _ => some (empty, m, cs)
    | ')' :: _ => some (empty, m, cs)
    | _ =>
      match modeChange? m cs with
      | some (m, rest) => sequence? m rounds rest
      | none => do
        let (p, rest) ← part? m rounds cs
        let (p, rest) := repetitions m (rest.length + 1) p rest
        let (others, m, rest) ← sequence? m rounds rest
        return (sequence p others, m, rest)

end

/-- The pattern that the text spells, unless it is malformed. -/
def parse? (text : String) : Option Pattern :=
  match parts? {} (3 * text.length + 3) text.toList with
  | some (p, []) => some p
  | _ => none

end Pattern

end Retention.Text
