import Retention.Connection.Files
import Retention.Connection.Url
import Retention.Settings.Expansion
import Retention.Store.Error
import Retention.Text.Quoted

/-!
# Servers

The URL of a server tells where it listens: at a host, or in a directory with a socket in it
(`Server`). What the URL leaves open the environment decides. Escapes in it have to be text, and its
parameters, which come after all else, have to have values that they take (`ServerFault`).
-/

namespace Retention.Connection

open Settings (Environment)
open Store (DatabaseError)
open Text (NumeralFault Utf8Fault)

inductive ServerFault
  | url (fault : UrlFault)
  | text (fault : Utf8Fault)
  | number (fault : NumeralFault)
  | hostAddress
  | encryption (value : String)
deriving DecidableEq, Repr

def ServerFault.message : ServerFault → String
  | url fault => fault.message
  | text fault => fault.message
  | number fault => fault.message
  | hostAddress => "invalid IP address syntax"
  | encryption value =>
    let shown := Text.quoted value
    s!"error with configuration: unknown value {shown} for `ssl_mode`"

structure Server where
  /-- A host that begins with a slash is a directory. -/
  host : String
  directory? : Option String := none
  port : Nat
deriving DecidableEq, Repr

namespace Server

/-- What the environment tells. -/
def ofEnvironment (env : Environment) : Server where
  host := ((env "PGHOSTADDR").or (env "PGHOST")).getD "localhost"
  port :=
    let told := (env "PGPORT").bind fun text =>
      (Text.readNatural UInt16.size text.toList).toOption
    told.getD 5432

def unescaped (cs : List Char) : Except ServerFault String :=
  (Text.ofUtf8 (Text.percentDecoded 0 cs)).mapError .text

def atHost (server : Server) (host : List Char) : Except ServerFault Server :=
  if host.isEmpty then .ok server
  else if (Text.percentDecoded 0 host).head? = some '/'.toUInt8 then
    (unescaped host).map fun text => { server with directory? := some text }
  else .ok { server with host := String.ofList host }

/-- A name or value in a query, where plus signs are spaces. -/
def queryText (cs : List Char) : String :=
  let spaced := cs.map fun c => if c = '+' then ' ' else c
  Text.ofUtf8Leniently (Text.percentDecoded 0 spaced)

/-- The parameters in a query, by name and value. -/
def parametersOf (query : List Char) : List (String × String) :=
  let pairs := ((String.ofList query).splitOn "&").filter (· != "")
  pairs.map fun pair =>
    let name := pair.toList.takeWhile (· != '=')
    (queryText name, queryText (pair.toList.drop (name.length + 1)))

def encryptionModes : List String :=
  ["disable", "allow", "prefer", "require", "verify-ca", "verify-full"]

def numberBelow (bound : Nat) (text : String) : Except ServerFault Nat :=
  (Text.readNatural bound text.toList).mapError .number

def withParameter (server : Server) (parameter : String × String) : Except ServerFault Server :=
  let (name, value) := parameter
  match name with
  | "sslmode" | "ssl-mode" =>
    if encryptionModes.contains (value.map Char.toLower) then .ok server
    else .error (.encryption value)
  | "statement-cache-capacity" => (numberBelow UInt64.size value).map fun _ => server
  | "host" =>
    .ok (if value.startsWith "/" then { server with directory? := some value }
      else { server with host := value })
  | "hostaddr" =>
    if HostAddress.isDotted value.toList || HostAddress.isGrouped value.toList then
      .ok { server with host := value }
    else .error .hostAddress
  | "port" => (numberBelow UInt16.size value).map fun port => { server with port }
  | _ => .ok server

def ofUrl (env : Environment) (text : String) : Except ServerFault Server := do
  let url ← (Url.ofText text).mapError .url
  let server ← (ofEnvironment env).atHost url.host
  let server := { server with port := url.port?.getD server.port }
  discard <| unescaped url.user
  discard <| unescaped url.password
  discard <| unescaped url.path
  (parametersOf url.query).foldlM withParameter server

/-- The path of the socket, if the server listens in a directory. -/
def socketPath? (server : Server) : Option String :=
  let told := if server.host.startsWith "/" then some server.host else none
  (server.directory?.or told).map fun directory => s!"{directory}/.s.PGSQL.{server.port}"

/-- The bytes that the path of a socket stays below. -/
def socketPathBound : Nat := 108

/-- Why the server does not answer: nothing listens at the path of its socket, or at its port. -/
def silence (server : Server) (files : Files) : DatabaseError :=
  match server.socketPath? with
  | none => .poolTimedOut
  | some path =>
    if path.contains '\x00' then .io "paths must not contain interior null bytes"
    else if socketPathBound ≤ path.utf8ByteSize then .io "path must be shorter than SUN_LEN"
    else if files.isThere path then .poolTimedOut
    else
      match (files.content path).text with
      | .error reason => .io reason
      | .ok _ => .poolTimedOut

end Server

end Retention.Connection
