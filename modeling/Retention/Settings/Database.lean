import Retention.Settings.Fields

/-!
# Database settings

A database is none at all, a file, or a server. The field `type` tells which, and decides which
other fields there are; without a database they are not looked at. As an array the section starts
with the type and has no more items than there are fields.
-/

namespace Retention.Settings

open Text (signedBound)
open Toml (Value Entries)

structure FileSettings where
  path : String
  createIfMissing : Bool := false
  /-- Whether readers are not blocked by deletes. -/
  writeAhead : Bool := true
  busyTimeoutMilliseconds : UInt64 := 5000
deriving DecidableEq, Repr

inductive Encryption
  | disable | prefer | require | verifyAuthority | verifyFull
deriving DecidableEq, Repr

def encryptionNames : List (String × Encryption) :=
  [("disable", .disable), ("prefer", .prefer), ("require", .require),
    ("verify_ca", .verifyAuthority), ("verify_full", .verifyFull)]

structure ServerSettings where
  url : String
  connectTimeoutSeconds : UInt64 := 10
  lockTimeoutMilliseconds : UInt64 := 30000
  encryption : Encryption := .prefer
deriving DecidableEq, Repr

inductive DatabaseSettings
  | none
  | file (settings : FileSettings)
  | server (settings : ServerSettings)
deriving DecidableEq, Repr

inductive DatabaseKind
  | none | file | server
deriving DecidableEq, Repr

def databaseKindNames : List (String × DatabaseKind) :=
  [("none", .none), ("sqlite", .file), ("postgres", .server)]

/-- A mode of encryption: a name, or a table with the name as its only key and nothing under it. -/
def encryptionMode : Reader Encryption
  | .string name => variant encryptionNames name
  | .moment => variant encryptionNames momentKey
  | .table [(name, payload)] => do
    let mode ← variant encryptionNames name
    match payload with
    | .table [] => .ok mode
    | v => .error (wrongType v "unit")
  | .table _ => .error (.wrongValue "map" "map with a single key")
  | v => .error (wrongType v "string or map")

/-- A field without which the section is refused. -/
def required {α : Type} (entries : Entries) (name : String) (read : Reader α)
    (missing : Misfit) : Except Misfit α :=
  match entries.lookup name with
  | some v => read v
  | none => .error missing

namespace FileSettings

def fields : List Field :=
  [field "path" string, field "create_if_missing" boolean, field "wal_mode" boolean,
    field "busy_timeout_ms" word64]

def ofEntries (missing : Misfit) (entries : Entries) : Except Misfit FileSettings := do
  checkFields fields entries
  let path ← required entries "path" string missing
  let default : FileSettings := { path }
  return {
    path
    createIfMissing := ← optional entries "create_if_missing" boolean default.createIfMissing
    writeAhead := ← optional entries "wal_mode" boolean default.writeAhead
    busyTimeoutMilliseconds := ← optional entries "busy_timeout_ms" word64
      default.busyTimeoutMilliseconds }

end FileSettings

namespace ServerSettings

def fields : List Field :=
  [field "url" string, field "connect_timeout_secs" word64, field "lock_timeout_ms" word64,
    field "ssl_mode" encryptionMode]

def ofEntries (missing : Misfit) (entries : Entries) : Except Misfit ServerSettings := do
  checkFields fields entries
  let url ← required entries "url" string missing
  let default : ServerSettings := { url }
  return {
    url
    connectTimeoutSeconds := ← optional entries "connect_timeout_secs" word64
      default.connectTimeoutSeconds
    lockTimeoutMilliseconds := ← optional entries "lock_timeout_ms" word64
      default.lockTimeoutMilliseconds
    encryption := ← optional entries "ssl_mode" encryptionMode default.encryption }

end ServerSettings

def databaseKind : Reader DatabaseKind
  | .string name => variant databaseKindNames name
  | .integer n =>
    if signedBound ≤ n ∧ n < UInt64.size then
      .error (.wrongValue s!"integer `{n}`" "variant index 0 <= i < 3")
    else .error (wrongType (.integer n) "variant identifier")
  | v => .error (wrongType v "variant identifier")

mutual

/-- Passes if every number in the value can be read and no whole number exceeds 64 bits; the first
that does is not what `expected` tells. -/
def checkWords (expected : String) : Value → Except Misfit Unit
  | .integer n => if isWord n then .ok () else .error (wrongType (.integer n) expected)
  | .unreadable => .error .malformed
  | .array items => checkItems expected items
  | .table entries => checkEntries expected entries
  | _ => .ok ()

def checkItems (expected : String) : List Value → Except Misfit Unit
  | [] => .ok ()
  | v :: rest => do
    checkWords expected v
    checkItems expected rest

def checkEntries (expected : String) : Entries → Except Misfit Unit
  | [] => .ok ()
  | (_, v) :: rest => do
    checkWords expected v
    checkEntries expected rest

end

/-- The type among the entries of a section, `kind` if it was met before; the values of the other
ones are looked through on the way. -/
def kindOf (kind : Option DatabaseKind) : Entries → Except Misfit DatabaseKind
  | [] =>
    match kind with
    | some kind => .ok kind
    | none => .error (.missingField "type")
  | (key, v) :: rest => do
    if key = "type" then
      kindOf (some (← databaseKind v)) rest
    else
      checkWords "any value" v
      kindOf kind rest

namespace DatabaseSettings

def ofTable (entries : Entries) : Except Misfit DatabaseSettings := do
  let kind ← kindOf Option.none entries
  let rest := entries.filter (·.1 != "type")
  match kind with
  | .none => return .none
  | .file => return .file (← FileSettings.ofEntries (.missingField "path") rest)
  | .server => return .server (← ServerSettings.ofEntries (.missingField "url") rest)

/-- Refuses more items than there are fields. -/
def checkLength (fields : Nat) (items : List Value) : Except Misfit Unit :=
  if fields < items.length then
    .error (.wrongLength items.length s!"{fields} elements in sequence")
  else .ok ()

def ofArray : List Value → Except Misfit DatabaseSettings
  | [] => .error (.missingField "type")
  | type :: items => do
    let kind ← databaseKind type
    checkItems "any value" items
    let named (fields : List Field) := (fields.map (·.name)).zip items
    match kind with
    | .none =>
      checkLength 0 items
      return .none
    | .file =>
      let missing := .wrongLength 0 "struct SqliteConfig with 4 elements"
      let settings ← FileSettings.ofEntries missing (named FileSettings.fields)
      checkLength 4 items
      return .file settings
    | .server =>
      let missing := .wrongLength 0 "struct PostgresConfig with 4 elements"
      let settings ← ServerSettings.ofEntries missing (named ServerSettings.fields)
      checkLength 4 items
      return .server settings

def read : Reader DatabaseSettings
  | .table entries => ofTable entries
  | .array items => ofArray items
  | .moment => ofTable [(momentKey, .string "")]
  | v => .error (wrongType v "internally tagged enum DatabaseConfig")

def isNone : DatabaseSettings → Bool
  | .none => true
  | _ => false

/-- The first rule that the settings break. -/
def contradiction? : DatabaseSettings → Option String
  | .none => Option.none
  | .file settings => if settings.path = "" then some "SQLite path cannot be empty" else Option.none
  | .server settings =>
    if settings.url = "" then some "PostgreSQL URL cannot be empty" else Option.none

end DatabaseSettings

end Retention.Settings
