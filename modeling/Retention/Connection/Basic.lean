import Retention.Connection.FileAddress
import Retention.Connection.Files
import Retention.Connection.Server
import Retention.Settings.Database

/-!
# Connections

A database is a file among others (`Files`). Opening one that is not there makes a new file, if the
settings say so and its directory is there. An empty file is a database without tables; a file with
any other content is none. A database in memory has no tables, and is gone after the run. No server
answers here.
-/

namespace Retention.Connection

open Settings (DatabaseSettings Environment FileSettings ServerSettings)
open Store (DatabaseError)

/-- The longest time, in milliseconds, that a connection may be told to wait for a lock. -/
def maxBusyTimeout : Nat := 0x7fffffff

structure Opened where
  store : Store
  files : Files
  /-- The path of its file, if it is kept. -/
  kept? : Option String := none
  /-- Whether it must not change. -/
  fixed : Bool := false

/-- The files when the database holds that store. -/
def Opened.after (database : Opened) (store : Store) : Files :=
  match database.kept? with
  | none => database.files
  | some path => database.files.put path (.database store)

/-- The file at an address, and its path; a new one is empty. -/
def fileAt (address : FileAddress) (files : Files) : Except DatabaseError (File × String) :=
  match files.collapse address.path with
  | none => .error (.refused .cannotOpen)
  | some p =>
    if address.modeOf?.any (!files.isThere ·) then .error (.refused .cannotExamine)
    else
      match files.at? p with
      | some .directory => .error (.refused .cannotOpen)
      | some file => .ok (file, p.path)
      | none =>
        if address.access = .create ∧ files.hasRoom p then .ok (.bytes .empty, p.path)
        else .error (.refused .cannotOpen)

/-- The store in a file. -/
def storeIn : File → Except DatabaseError Store
  | .database store => .ok store
  | .bytes content => if content.isEmpty then .ok .blank else .error (.refused .notADatabase)
  | .directory => .error (.refused .cannotOpen)

/-- Opens the database in a file. A connection does not survive being told to wait longer than it
can; and one that may only read cannot see to it that readers are not blocked, unless nobody else
can change the file. -/
def openFile (settings : FileSettings) (files : Files) : Except DatabaseError Opened := do
  let address ← FileAddress.ofSettings settings
  let kept? ← if address.isInFile then some <$> fileAt address files else pure none
  if maxBusyTimeout < settings.busyTimeoutMilliseconds.toNat then
    throw .workerCrashed
  match kept? with
  | none => return { store := .blank, files }
  | some (file, path) =>
    let store ← storeIn file
    let fixed := address.immutable || address.access == .read
    if settings.writeAhead && fixed && !address.immutable then
      throw (.refused .readOnly)
    return { store, files := files.put path (.database store), kept? := some path, fixed }

inductive Fault
  | failed (error : DatabaseError)
  /-- The time by which there has to be a connection is out of the range of the clock. -/
  | deadlineOutOfRange
deriving DecidableEq, Repr

/-- From so many seconds on a wait is too long: the clock counts seconds in 64 bits with a sign, and
has run for more than an hour. -/
def waitBound : Nat := Text.signedBound.toNat - 3600

/-- Connects to the server of the settings, which fails. Without time for it nothing is tried. -/
def connectServer (settings : ServerSettings) (env : Environment) (files : Files) : Fault :=
  match Server.ofUrl env settings.url with
  | .error fault => .failed (.configuration fault.message)
  | .ok server =>
    let wait := settings.connectTimeoutSeconds.toNat
    if waitBound ≤ wait then .deadlineOutOfRange
    else .failed (if wait = 0 then .poolTimedOut else server.silence files)

def connect (settings : DatabaseSettings) (env : Environment) (files : Files) :
    Except Fault Opened :=
  match settings with
  | .none => .error (.failed .notConfigured)
  | .file settings => (openFile settings files).mapError .failed
  | .server settings => .error (connectServer settings env files)

/-- Whether a connection answers; one that was closed does not. -/
def health (closed : Bool) : Except DatabaseError Unit :=
  if closed then .error .poolClosed else .ok ()

end Retention.Connection
