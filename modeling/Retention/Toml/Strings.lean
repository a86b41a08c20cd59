import Retention.Text.Digits

/-!
# Keys and strings

A string stands in double quotes, where a backslash starts an escape, or in single quotes, where
nothing does; three quotes open one that may span lines. Readers take the text after the opening
quotes and give the string and what follows the closing ones, or nothing if the text is malformed.

Control characters other than the tab are refused, and so is a carriage return that does not end a
line. Line ends are kept as they are.
-/

namespace Retention.Toml

def isBlank (c : Char) : Bool := c == ' ' || c == '\t'

/-- Control characters, the tab apart, have no place in strings and comments. -/
def isForbidden (c : Char) : Bool := (c < ' ' && c != '\t') || c == '\x7f'

def skipBlanks (cs : List Char) : List Char := cs.dropWhile isBlank

/-- The text after a line end. -/
def lineEnd? : List Char → Option (List Char)
  | '\n' :: rest => some rest
  | '\r' :: '\n' :: rest => some rest
  | _ => none

/-- The character of a hexadecimal numeral; surrogates have none. -/
def codePoint? (digits : List Char) : Option Char := do
  let n ← Text.ofDigits 16 0 digits
  if h : n.isValidChar then some (Char.ofNatAux n h) else none

/-- The character that an escape stands for, and the number of characters after its backslash. -/
def escape? : List Char → Option (Char × Nat)
  | 'b' :: _ => some ('\x08', 1)
  | 't' :: _ => some ('\t', 1)
  | 'n' :: _ => some ('\n', 1)
  | 'f' :: _ => some ('\x0c', 1)
  | 'r' :: _ => some ('\r', 1)
  | 'e' :: _ => some ('\x1b', 1)
  | '"' :: _ => some ('"', 1)
  | '\\' :: _ => some ('\\', 1)
  | 'x' :: a :: b :: _ => (codePoint? [a, b]).map (·, 3)
  | 'u' :: a :: b :: c :: d :: _ => (codePoint? [a, b, c, d]).map (·, 5)
  | 'U' :: a :: b :: c :: d :: e :: f :: g :: h :: _ =>
    (codePoint? [a, b, c, d, e, f, g, h]).map (·, 9)
  | _ => none

/-- The rest of a string in double quotes. What was read stands in `acc`, backwards, and the next
`skip` characters have been read too. -/
def basicString (acc : List Char) : (skip : Nat) → List Char → Option (String × List Char)
  | _, [] => none
  | skip + 1, _ :: rest => basicString acc skip rest
  | 0, c :: rest =>
    if c = '"' then some (String.ofList acc.reverse, rest)
    else if c = '\\' then
      match escape? rest with
      | some (c, length) => basicString (c :: acc) length rest
      | none => none
    else if isForbidden c then none
    else basicString (c :: acc) 0 rest

/-- The rest of a string in single quotes. -/
def literalString (acc : List Char) : List Char → Option (String × List Char)
  | [] => none
  | c :: rest =>
    if c = '\x27' then some (String.ofList acc.reverse, rest)
    else if isForbidden c then none
    else literalString (c :: acc) rest

/-- The number of times that `quote` stands at the front, five at most: a string that spans lines
may end in two quotes before the three that close it. -/
def closingQuotes (quote : Char) (cs : List Char) : Nat :=
  min (cs.takeWhile (· == quote)).length 5

/-- The text after the line end that may follow the opening quotes. -/
def skipLineEnd (cs : List Char) : List Char := (lineEnd? cs).getD cs

/-- The number of characters at the front that are blanks or make up line ends. -/
def spaceLength : List Char → Nat
  | '\r' :: '\n' :: rest => spaceLength rest + 2
  | c :: rest => if isBlank c || c == '\n' then spaceLength rest + 1 else 0
  | [] => 0

/-- The number of characters at the front that are blanks or make up line ends, if there is a line
end among them. -/
def foldedLength? (cs : List Char) : Option Nat := do
  let _ ← lineEnd? (skipBlanks cs)
  return spaceLength cs

/-- The rest of a string in three double quotes, read as `basicString` is. A backslash at the end of
a line takes away the line end and what is blank after it. -/
def basicLines (acc : List Char) : (skip : Nat) → List Char → Option (String × List Char)
  | _, [] => none
  | skip + 1, _ :: rest => basicLines acc skip rest
  | 0, c :: rest =>
    if c = '"' then
      let quotes := closingQuotes '"' (c :: rest)
      if 3 ≤ quotes then
        some (String.ofList (List.replicate (quotes - 3) '"' ++ acc).reverse,
          rest.drop (quotes - 1))
      else basicLines ('"' :: acc) 0 rest
    else if c = '\\' then
      match foldedLength? rest, escape? rest with
      | some length, _ => basicLines acc length rest
      | none, some (c, length) => basicLines (c :: acc) length rest
      | none, none => none
    else if c = '\n' then basicLines ('\n' :: acc) 0 rest
    else if c = '\r' then
      if rest.head? = some '\n' then basicLines ('\r' :: acc) 0 rest else none
    else if isForbidden c then none
    else basicLines (c :: acc) 0 rest

/-- The rest of a string in three single quotes. -/
def literalLines (acc : List Char) : (skip : Nat) → List Char → Option (String × List Char)
  | _, [] => none
  | skip + 1, _ :: rest => literalLines acc skip rest
  | 0, c :: rest =>
    if c = '\x27' then
      let quotes := closingQuotes '\x27' (c :: rest)
      if 3 ≤ quotes then
        some (String.ofList (List.replicate (quotes - 3) '\x27' ++ acc).reverse,
          rest.drop (quotes - 1))
      else literalLines ('\x27' :: acc) 0 rest
    else if c = '\n' then literalLines ('\n' :: acc) 0 rest
    else if c = '\r' then
      if rest.head? = some '\n' then literalLines ('\r' :: acc) 0 rest else none
    else if isForbidden c then none
    else literalLines (c :: acc) 0 rest

/-- A string of any of the four forms; `none` also where no quote stands. -/
def string? : List Char → Option (String × List Char)
  | '"' :: '"' :: '"' :: rest => basicLines [] 0 (skipLineEnd rest)
  | '"' :: rest => basicString [] 0 rest
  | '\x27' :: '\x27' :: '\x27' :: rest => literalLines [] 0 (skipLineEnd rest)
  | '\x27' :: rest => literalString [] rest
  | _ => none

def isBareKeyChar (c : Char) : Bool := c.isAlphanum || c == '-' || c == '_'

/-- One part of a key. -/
def simpleKey? : List Char → Option (String × List Char)
  | '"' :: rest => basicString [] 0 rest
  | '\x27' :: rest => literalString [] rest
  | cs =>
    let bare := cs.takeWhile isBareKeyChar
    if bare.isEmpty then none else some (String.ofList bare, cs.drop bare.length)

/-- A key has no more parts than this. -/
def maxParts : Nat := 80

/-- The parts of a key after the first, each with a dot before it; `room` bounds their number. -/
def moreKeys? (room : Nat) (cs : List Char) : Option (List String × List Char) :=
  match skipBlanks cs, room with
  | '.' :: rest, room + 1 => do
    let (part, rest) ← simpleKey? (skipBlanks rest)
    let (parts, rest) ← moreKeys? room rest
    return (part :: parts, rest)
  | '.' :: _, 0 => none
  | rest, _ => some ([], rest)

/-- A key with its dotted parts, and the text after the blanks that follow it. -/
def key? (cs : List Char) : Option (List String × List Char) := do
  let (part, rest) ← simpleKey? cs
  let (parts, rest) ← moreKeys? (maxParts - 1) rest
  return (part :: parts, rest)

end Retention.Toml
