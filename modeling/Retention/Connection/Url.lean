import Retention.Connection.DomainName
import Retention.Text.Digits

/-!
# Addresses on the net

A URL is a scheme, then, after two slashes, a user, a host and a port, then a path and a query. It
is read from the left, and the first fault is told (`UrlFault`). Escapes stay as they are, but in
names of hosts.

Schemes of the web know names of hosts and take a backslash for a slash. So do files, which have
neither user nor port. With any other scheme the host is any text without some characters, and
without slashes after the scheme there is no host.
-/

namespace Retention.Connection

inductive UrlFault
  | noScheme
  | emptyHost
  | badHost
  | badName
  | badDottedAddress
  | badGroupedAddress
  | badPort
deriving DecidableEq, Repr

def UrlFault.message : UrlFault → String
  | noScheme => "relative URL without a base"
  | emptyHost => "empty host"
  | badHost => "invalid domain character"
  | badName => "invalid international domain name"
  | badDottedAddress => "invalid IPv4 address"
  | badGroupedAddress => "invalid IPv6 address"
  | badPort => "invalid port number"

inductive Scheme
  | file
  /-- A scheme of the web, with the port that goes without saying. -/
  | web (port : Nat)
  | other
deriving DecidableEq, Repr

namespace Scheme

def webPorts : List (String × Nat) :=
  [("http", 80), ("https", 443), ("ws", 80), ("wss", 443), ("ftp", 21)]

def ofName (name : String) : Scheme :=
  if name = "file" then file else (webPorts.lookup name).elim other web

def isSlash (s : Scheme) (c : Char) : Bool := c == '/' || (c == '\\' && s != other)

/-- Whether the user, host and port end there. -/
def endsAuthority (s : Scheme) (c : Char) : Bool := s.isSlash c || c == '?' || c == '#'

/-- The scheme before the first colon, and the text after it. -/
def split? (cs : List Char) : Option (Scheme × List Char) :=
  let isSchemeChar (c : Char) := c.isAlphanum || c == '+' || c == '-' || c == '.'
  match cs.span isSchemeChar with
  | (first :: name, ':' :: rest) =>
    if first.isAlpha then some (ofName ((String.ofList (first :: name)).map Char.toLower), rest)
    else none
  | _ => none

end Scheme

structure Url where
  user : List Char := []
  password : List Char := []
  /-- Empty without a host. -/
  host : List Char := []
  /-- A port that is not the one of the scheme. -/
  port? : Option Nat := none
  /-- Without slashes in front. -/
  path : List Char
  query : List Char
deriving DecidableEq, Repr

namespace Url

/-- Control characters and spaces around an address do not count, nor tabs and line ends in it. -/
def trimmed (text : String) : List Char :=
  let ignored (c : Char) := c ≤ ' '
  let cs := (text.toList.dropWhile ignored).reverse.dropWhile ignored
  cs.reverse.filter fun c => c != '\t' && c != '\n' && c != '\r'

def isPathEnd (c : Char) : Bool := c == '?' || c == '#'

/-- The query, which a question mark begins and a hash ends. -/
def queryOf (cs : List Char) : List Char :=
  match cs with
  | '?' :: query => query.takeWhile (· != '#')
  | _ => []

/-- The pieces between slashes; they are never none. -/
def pieces (isSlash : Char → Bool) : List Char → List (List Char)
  | [] => [[]]
  | c :: rest =>
    if isSlash c then [] :: pieces isSlash rest
    else
      match pieces isSlash rest with
      | piece :: others => (c :: piece) :: others
      | [] => [[c]]

/-- A letter of a drive, which a colon or a bar follows. -/
def isDrive (cs : List Char) : Bool :=
  match cs with
  | [letter, mark] => letter.isAlpha && (mark == ':' || mark == '|')
  | _ => false

/-- How often a step of a path goes back or stays. A dot may be an escape. -/
def dots? (step : List Char) : Option Nat :=
  let plain := ((String.ofList step).map Char.toLower).replace "%2e" "."
  if plain = ".." then some 2 else if plain = "." then some 1 else none

/-- Takes another step of a path, after those before it in reverse. The drive of a file is never
left. -/
def take (s : Scheme) (before : List (List Char)) (step : List Char) : List (List Char) :=
  match dots? step, before with
  | none, _ => step :: before
  | some 2, [drive] => if s = .file ∧ isDrive drive then [drive] else []
  | some 2, _ :: before => before
  | some _, before => before

/-- The path in a text, without the slashes in front and without steps that go back or stay. -/
def pathOf (s : Scheme) (cs : List Char) : List Char :=
  let cs := match cs with
    | c :: rest => if s.isSlash c then rest else cs
    | [] => []
  let steps := ((pieces s.isSlash cs).foldl (take s) []).reverse
  ((List.intercalate ['/'] steps)).dropWhile (· == '/')

/-- A URL with the path and the query in a text. -/
def ofPath (s : Scheme) (cs : List Char) : Url :=
  let (path, rest) := cs.span (!isPathEnd ·)
  { path := pathOf s path, query := queryOf rest }

/-- The user and the password before the last at sign, and the text after it. -/
def splitUser (authority : List Char) : Option (List Char × List Char) × List Char :=
  let rest := (authority.reverse.takeWhile (· != '@')).reverse
  if rest.length = authority.length then (none, rest)
  else
    let front := authority.take (authority.length - rest.length - 1)
    let user := front.takeWhile (· != ':')
    (some (user, front.drop (user.length + 1)), rest)

/-- The host, up to a colon outside of brackets, and the text after it. -/
def splitHost (bracketed : Bool) : List Char → List Char × List Char
  | [] => ([], [])
  | c :: rest =>
    if c = ':' ∧ !bracketed then ([], c :: rest)
    else
      let (host, rest) := splitHost (c == '[' || (c != ']' && bracketed)) rest
      (c :: host, rest)

/-- Characters that no host has, whatever the scheme. -/
def isForbiddenInHost (c : Char) : Bool :=
  c.toNat = 0 || " #/:<>?@[\\]^|".contains c

/-- A host by its name. -/
def nameOf (host : List Char) : Except UrlFault (List Char) :=
  match DomainName.ofBytes? (Text.percentDecoded 0 host) with
  | none => .error .badName
  | some name =>
    if name.isEmpty then .error .emptyHost
    else if HostAddress.endsInNumber name && !HostAddress.isNumeric name then
      .error .badDottedAddress
    else .ok name

/-- The host in a text; in brackets stands an address of the sixth version. -/
def hostOf (s : Scheme) (host : List Char) : Except UrlFault (List Char) :=
  match host with
  | '[' :: rest =>
    if rest.getLast? = some ']' ∧ HostAddress.isGrouped rest.dropLast then .ok host
    else .error .badGroupedAddress
  | _ =>
    if s ≠ .other then nameOf host
    else if host.any isForbiddenInHost then .error .badHost
    else .ok host

/-- The port after a colon, if one is told, and the text after it; a port is below 2¹⁶. -/
def portOf (s : Scheme) (cs : List Char) : Except UrlFault (Option Nat × List Char) :=
  let (digits, rest) := cs.span Char.isDigit
  match Text.ofDigits 10 0 digits with
  | none => .error .badPort
  | some port =>
    if UInt16.size ≤ port || !(rest.isEmpty || rest.head? = some '\\') then .error .badPort
    else if digits.isEmpty || s = .web port then .ok (none, rest)
    else .ok (some port, rest)

/-- Reads what follows two slashes. -/
def withHost (s : Scheme) (cs : List Char) : Except UrlFault Url := do
  let (authority, rest) := cs.span (!s.endsAuthority ·)
  let (account?, hostAndPort) := splitUser authority
  let (user, password) := account?.getD ([], [])
  if authority = ['@'] ∧ !rest.isEmpty then
    throw .emptyHost
  let (host, afterHost) := splitHost false hostAndPort
  if host.isEmpty && (s != .other || !afterHost.isEmpty) then
    throw .emptyHost
  let host ← hostOf s host
  let (port?, tail) ← match afterHost with
    | ':' :: port => portOf s port
    | _ => .ok (none, [])
  if host.isEmpty && !(user.isEmpty && password.isEmpty) then
    throw .emptyHost
  return { ofPath s (tail ++ rest) with user, password, host, port? }

/-- Reads what follows the scheme of a file. After two slashes comes a host, unless it looks like a
drive; the one named `localhost` does not count. -/
def ofFile (cs : List Char) : Except UrlFault Url :=
  match cs with
  | a :: b :: rest =>
    let (text, path) := rest.span (!Scheme.file.endsAuthority ·)
    if !(Scheme.file.isSlash a && Scheme.file.isSlash b) then .ok (ofPath .file cs)
    else if isDrive text then .ok (ofPath .file rest)
    else if text.isEmpty then .ok (ofPath .file path)
    else do
      let host ← hostOf .file text
      let host := if host = "localhost".toList then [] else host
      return { ofPath .file path with host }
  | _ => .ok (ofPath .file cs)

/-- Reads what follows any other scheme. Without slashes there is only a path, whose steps do not
count. -/
def ofOther (cs : List Char) : Except UrlFault Url :=
  match cs with
  | '/' :: '/' :: rest => withHost .other rest
  | '/' :: _ => .ok (ofPath .other cs)
  | _ =>
    let (path, rest) := cs.span (!isPathEnd ·)
    .ok { path, query := queryOf rest }

def ofText (text : String) : Except UrlFault Url :=
  match Scheme.split? (trimmed text) with
  | none => .error .noScheme
  | some (.file, rest) => ofFile rest
  | some (.web port, rest) => withHost (.web port) (rest.dropWhile (Scheme.web port).isSlash)
  | some (.other, rest) => ofOther rest

end Url

end Retention.Connection
