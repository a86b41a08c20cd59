import Retention.Store.Schema

/-!
# Database errors

What can go wrong between a run and its store, each with its wording (`DatabaseError.message`) and
whether the same statement could succeed later (`DatabaseError.isTransient`): lock waits, deadlocks,
cancelled statements, pool timeouts and lost connections pass, all else stays wrong.
-/

namespace Retention.Store

/-- Why the store itself refuses a statement or a connection. -/
inductive Refusal
  | missingTable (table : TableName)
  /-- A table that rows of the addressed table point at is gone. -/
  | missingParent (table : TableName)
  | tooManyVariables
  | foreignKey
  | takenKey (table : TableName)
  | takenName
  | full
  | cannotOpen
  | cannotExamine
  | notADatabase
  /-- The database must not change. -/
  | readOnly
  /-- The address of a file names another host. -/
  | foreignHost (host : String)
  /-- The address of a file asks for what there is not, or for more than is granted. -/
  | unknownMode (kind name : String)
  | forbiddenMode (kind name : String)
  | unknownLayer (name : String)
deriving DecidableEq, Repr

namespace Refusal

def code : Refusal → String
  | missingTable _ => "1"
  | missingParent _ => "1"
  | tooManyVariables => "1"
  | foreignKey => "787"
  | takenKey _ => "1555"
  | takenName => "2067"
  | full => "13"
  | cannotOpen => "14"
  | cannotExamine => "1802"
  | notADatabase => "26"
  | readOnly => "8"
  | foreignHost _ => "1"
  | unknownMode .. => "1"
  | forbiddenMode .. => "3"
  | unknownLayer _ => "1"

def text : Refusal → String
  | missingTable table => "no such table: " ++ table.text
  | missingParent table => "no such table: main." ++ table.text
  | tooManyVariables => "too many SQL variables"
  | foreignKey => "FOREIGN KEY constraint failed"
  | takenKey table => "UNIQUE constraint failed: " ++ table.text ++ ".id"
  | takenName => "UNIQUE constraint failed: repository.name"
  | full => "database or disk is full"
  | cannotOpen => "unable to open database file"
  | cannotExamine => "disk I/O error"
  | notADatabase => "file is not a database"
  | readOnly => "attempt to write a readonly database"
  | foreignHost host => "invalid uri authority: " ++ host
  | unknownMode kind name => "no such " ++ kind ++ " mode: " ++ name
  | forbiddenMode kind name => kind ++ " mode not allowed: " ++ name
  | unknownLayer name => "no such vfs: " ++ name

def message (r : Refusal) : String := "(code: " ++ r.code ++ ") " ++ r.text

end Refusal

inductive DatabaseError
  | notConfigured
  | internal (message : String)
  | poolTimedOut
  | poolClosed
  | workerCrashed
  | rowNotFound
  | protocol (message : String)
  | columnNotFound (name : String)
  | typeNotFound (name : String)
  | configuration (message : String)
  | io (message : String)
  | database (code : Option String) (message : String)
  | refused (cause : Refusal)
deriving DecidableEq, Repr

namespace DatabaseError

/-- Codes of lock contention and of cancelled statements, in three families of databases. -/
def transientCodes : List String :=
  ["5", "6", "261", "262", "517", "518", "773", "40001", "40P01", "55P03", "57014", "1205", "1213"]

/-- The code that the database gave, if it gave one. -/
def code? : DatabaseError → Option String
  | database code _ => code
  | refused cause => some cause.code
  | _ => none

/-- Whether the same statement could succeed later. -/
def isTransient : DatabaseError → Bool
  | poolTimedOut => true
  | io _ => true
  | e => e.code?.any transientCodes.contains

/-- The kinds that a caller tells apart. -/
inductive Kind
  | notConfigured | internal | driver
deriving DecidableEq, Repr

def kind : DatabaseError → Kind
  | notConfigured => .notConfigured
  | internal _ => .internal
  | _ => .driver

def message : DatabaseError → String
  | notConfigured => "Database not configured"
  | internal m => "Internal error: " ++ m
  | poolTimedOut => "Database error: pool timed out while waiting for an open connection"
  | poolClosed => "Database error: attempted to acquire a connection on a closed pool"
  | workerCrashed => "Database error: attempted to communicate with a crashed background worker"
  | rowNotFound =>
    "Database error: no rows returned by a query that expected to return at least one row"
  | protocol m => "Database error: encountered unexpected or invalid data: " ++ m
  | columnNotFound n => "Database error: no column found for name: " ++ n
  | typeNotFound n => "Database error: type named " ++ n ++ " not found"
  | configuration m => "Database error: error with configuration: " ++ m
  | io m => "Database error: error communicating with database: " ++ m
  | database _ m => "Database error: error returned from database: " ++ m
  | refused cause => "Database error: error returned from database: " ++ cause.message

end DatabaseError

end Retention.Store
