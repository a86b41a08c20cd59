import Retention.Settings.Database
import Retention.Store.Error
import Retention.Text.Utf8

/-!
# Addresses of database files

The path in the settings of a file is the path of the file, unless it starts with `file:`. Then it
is an address: after two slashes comes a host, which has to be this one, then the path and, after a
question mark, parameters. Percent signs are escapes in both; a zero byte ends what it stands in. A
hash ends the address.

Parameters may ask for less access than the settings give, or for a database in memory; they are
taken in their order. A parameter without a name does not count.
-/

namespace Retention.Connection

open Settings (FileSettings)
open Store (DatabaseError Refusal)

inductive Access
  | read
  | write
  /-- A file that is not there is made. -/
  | create
  /-- There is no file. -/
  | memory
deriving DecidableEq, Repr

structure FileAddress where
  /-- Without a path the database is not kept. -/
  path : String
  access : Access
  /-- Whether the file is taken to be one that nobody can change. -/
  immutable : Bool := false
  /-- Another file, which tells who may read and write a new one; it has to be there. -/
  modeOf? : Option String := none
deriving DecidableEq, Repr

namespace Access

def names : List (String × Access) :=
  [("ro", .read), ("rw", .write), ("rwc", .create), ("memory", .memory)]

/-- How much an access permits; a database in memory permits everything. -/
def permitted : Access → Nat
  | read => 1
  | write => 2
  | create => 3
  | memory => 4

/-- How much has to be permitted for an access. -/
def demanded : Access → Nat
  | memory => 0
  | access => access.permitted

end Access

namespace FileAddress

/-- The bytes without what follows a zero byte. -/
def beforeZero (bytes : List UInt8) : List UInt8 := bytes.takeWhile (· != 0)

/-- The text of a part of an address. -/
def partText (cs : List Char) : String :=
  Text.ofUtf8Leniently (beforeZero (Text.percentDecoded 0 cs))

/-- The two sides of the first `mark`; the second is empty without one. -/
def splitAt (mark : Char) (cs : List Char) : List Char × List Char :=
  let front := cs.takeWhile (· != mark)
  (front, cs.drop (front.length + 1))

/-- The parameters in a query, by name and value. -/
def parametersOf (query : List Char) : List (String × String) :=
  let pairs := ((String.ofList query).splitOn "&").map fun pair =>
    let (name, value) := splitAt '=' pair.toList
    (partText name, partText value)
  pairs.filter (·.1 != "")

/-- What follows the host, if that is this one. -/
def afterHost (cs : List Char) : Except Refusal (List Char) :=
  match cs with
  | '/' :: '/' :: rest =>
    let host := String.ofList (rest.takeWhile (· != '/'))
    if host = "" ∨ host = "localhost" then .ok (rest.dropWhile (· != '/'))
    else .error (.foreignHost host)
  | _ => .ok cs

/-- The layers between a database and its file that there are; the last one keeps it in memory. -/
def layers : List String := ["unix", "unix-none", "unix-dotfile", "unix-excl", "memdb"]

/-- The access that a parameter leaves. -/
def restrict (access : Access) (parameter : String × String) : Except Refusal Access :=
  let (name, value) := parameter
  if name = "mode" then
    match Access.names.lookup value with
    | none => .error (.unknownMode "access" value)
    | some wanted =>
      if wanted.demanded ≤ access.permitted then .ok wanted
      else .error (.forbiddenMode "access" value)
  else if name = "cache" ∧ value ≠ "shared" ∧ value ≠ "private" then
    .error (.unknownMode "cache" value)
  else .ok access

/-- Whether the value of a switch turns it on: a word for yes, or a number of 32 bits whose last
byte is not zero. -/
def isOn (value : String) : Bool :=
  let digits := value.toList.takeWhile Char.isDigit
  if digits.isEmpty then ["on", "yes", "true"].contains (value.map Char.toLower)
  else
    match Text.readDigits 0x80000000 0 digits with
    | .ok n => n % 256 != 0
    | .error _ => false

/-- The address that a text after `file:` tells. -/
def ofUri (access : Access) (cs : List Char) : Except Refusal FileAddress := do
  let rest ← afterHost cs
  let (path, query) := splitAt '?' (splitAt '#' rest).1
  let parameters := parametersOf query
  let access ← parameters.foldlM restrict access
  let layer := ((parameters.filter (·.1 == "vfs")).getLast?.map (·.2)).getD "unix"
  if !layers.contains layer then
    throw (.unknownLayer layer)
  return {
    path := partText path
    access := if layer = "memdb" then .memory else access
    immutable := (parameters.lookup "immutable").any isOn
    modeOf? := parameters.lookup "modeof" }

def ofSettings (settings : FileSettings) : Except DatabaseError FileAddress :=
  let access : Access := if settings.createIfMissing then .create else .write
  if settings.path.contains '\x00' then
    .error (.io "filename passed to SQLite must not contain nul bytes")
  else
    match settings.path.toList with
    | 'f' :: 'i' :: 'l' :: 'e' :: ':' :: rest => (ofUri access rest).mapError .refused
    | _ => .ok { path := settings.path, access }

def isInFile (a : FileAddress) : Bool :=
  a.access != .memory && a.path != "" && a.path != ":memory:"

end FileAddress

end Retention.Connection
