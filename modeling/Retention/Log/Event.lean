import Retention.Cycle.Budget
import Retention.Cycle.Domain
import Retention.Store.Error

/-!
# Events

What a run tells a log. Each event has a level, a target (the part of the program that speaks), a
message and named fields; a field without a value is left out.
-/

namespace Retention.Log

open Retention.Cycle (DataDomain Overrun)
open Store (DatabaseError LookupKind)
open Time (Duration Instant)

/-- From the most severe to the most talkative. -/
inductive Level
  | error | warn | info | debug | trace
deriving DecidableEq, Repr

namespace Level

def all : List Level := [.error, .warn, .info, .debug, .trace]

def text : Level → String
  | error => "ERROR"
  | warn => "WARN"
  | info => "INFO"
  | debug => "DEBUG"
  | trace => "TRACE"

/-- How talkative the level is, from 1 to 5. -/
def verbosity : Level → Nat
  | error => 1
  | warn => 2
  | info => 3
  | debug => 4
  | trace => 5

end Level

inductive Value
  | number (n : Nat)
  /-- Text that is shown as it is. -/
  | shown (text : String)
  /-- Text that is shown in quotes. -/
  | quoted (text : String)
deriving DecidableEq, Repr

structure Field where
  name : String
  value : Value
deriving DecidableEq, Repr

inductive Event
  | chunkSized (boundary : Option Int) (older : UInt64) (nominal : UInt32)
  | chunkRemoved (strategy : String) (limit : UInt32) (deleted : UInt64)
  | removalStarted (strategy : String) (cutoff : Instant)
  | removalFinished (strategy : String) (deleted : UInt64) (statements : UInt32)
  | removalFailed (strategy : String) (error : DatabaseError)
  | repositoryUnknown (repository : String)
  | repositoryUnresolved (repository : String) (error : DatabaseError)
  | jobsStarted (cutoff : Instant)
  | jobsFound (eligible : UInt64)
  | jobChunkDeleted (deleted total : UInt64)
  | jobsFailed (error : DatabaseError)
  | jobsDeleted (deleted : UInt64)
  | pruningStarted
  | unreferencedFound (kind : LookupKind) (count : Nat)
  | pruningChunk (kind : LookupKind) (size remaining : Nat)
  | pruningFailed (kind : LookupKind) (error : DatabaseError)
  | cycleAborted (domain : DataDomain) (reason : Overrun) (deleted : UInt64)
  | cycleStarted (domain : DataDomain) (days chunkSize : UInt32) (maxRuntime : Option Duration)
  | pauseIgnored
  | databaseOpened (path : String)
  | optionsRefused (error : String) (domain : DataDomain)
  | intervalChosen (configPath : String) (days : UInt32)
  | connectionFailed (error : DatabaseError)
  | healthCheckFailed (error : DatabaseError)
  | runCompleted (domain : DataDomain) (deleted : UInt64) (elapsed : Duration)
  | stepUnfinished (step : String) (error : String)
  | runAborted (domain : DataDomain) (deleted : UInt64) (reason : Overrun)
  | runFailed (error : String) (domain : DataDomain)
deriving DecidableEq, Repr

namespace Event

def level : Event → Level
  | chunkSized .. => .trace
  | chunkRemoved .. | jobChunkDeleted .. | pruningChunk .. | pauseIgnored | databaseOpened .. =>
    .debug
  | removalStarted .. | removalFinished .. | jobsStarted .. | jobsFound .. | jobsDeleted ..
  | pruningStarted | unreferencedFound .. | cycleStarted .. | intervalChosen ..
  | runCompleted .. => .info
  | repositoryUnknown .. | cycleAborted .. | stepUnfinished .. | runAborted .. => .warn
  | removalFailed .. | repositoryUnresolved .. | jobsFailed .. | pruningFailed ..
  | optionsRefused .. | connectionFailed .. | healthCheckFailed .. | runFailed .. => .error

def target : Event → String
  | chunkSized .. => "cycler::cycling::chunk_sizer"
  | chunkRemoved .. => "cycler::cycling::strategy"
  | removalStarted .. | removalFinished .. | removalFailed .. | repositoryUnknown ..
  | repositoryUnresolved .. | cycleAborted .performance .. => "cycler::cycling::perfherder"
  | jobsStarted .. | jobsFound .. | jobChunkDeleted .. | jobsFailed .. | jobsDeleted ..
  | cycleAborted .jobs .. => "cycler::cycling::treeherder"
  | pruningStarted | unreferencedFound .. | pruningChunk .. | pruningFailed .. =>
    "cycler::cycling::pruner"
  | cycleStarted .. | pauseIgnored => "cycler::cycling::selector"
  | databaseOpened .. => "cycler::db"
  | optionsRefused .. | intervalChosen .. | connectionFailed .. | healthCheckFailed ..
  | runCompleted .. | stepUnfinished .. | runAborted .. | runFailed .. => "cycle_data"

def message : Event → String
  | chunkSized .. => "Sized chunk"
  | chunkRemoved .. => "Removed chunk"
  | removalStarted .. => "Running removal strategy"
  | removalFinished .. => "Removal strategy finished"
  | removalFailed .. => "Removal strategy failed"
  | repositoryUnknown .. => "Repository not found, skipping scoped removal"
  | repositoryUnresolved .. => "Could not resolve repository, skipping scoped removal"
  | jobsStarted .. => "Cycling jobs across all repositories"
  | jobsFound eligible => s!"Found {eligible} jobs older than the cutoff"
  | jobChunkDeleted .. => "Deleted job chunk"
  | jobsFailed .. => "Error running cycle_data"
  | jobsDeleted deleted => s!"Deleted {deleted} jobs"
  | pruningStarted => "Pruning ancillary data: job types, groups and machines"
  | unreferencedFound kind count => s!"Removing {count} records from {kind.text}"
  | pruningChunk _ size remaining => s!"Deleting {size} of {remaining}"
  | pruningFailed .. => "Error pruning ancillary data"
  | cycleAborted .. => "Cycling aborted"
  | cycleStarted domain .. => s!"Cycling {domain.title} data"
  | pauseIgnored => "Sleep time is ignored when cycling performance data"
  | databaseOpened .. => "Opened SQLite database"
  | optionsRefused .. => "Invalid cycling options"
  | intervalChosen _ days => s!"Cycle interval: {days} days"
  | connectionFailed .. => "Failed to connect to database"
  | healthCheckFailed .. => "Database health check failed"
  | runCompleted .. => "Cycling complete"
  | stepUnfinished .. => "Step did not finish"
  | runAborted _ _ reason => s!"{reason.message}, remaining data is left for the next run"
  | runFailed .. => "Cycling failed"

def text (name : String) (value : String) : Field := ⟨name, .shown value⟩

def number (name : String) (value : Nat) : Field := ⟨name, .number value⟩

/-- How a log shows a boundary between old and young rows. -/
def boundaryText : Option Int → String
  | none => "None"
  | some id => s!"Some({id})"

def fields : Event → List Field
  | chunkSized boundary older nominal =>
    [text "boundary" (boundaryText boundary), number "older" older.toNat,
      number "nominal" nominal.toNat]
  | chunkRemoved strategy limit deleted =>
    [text "strategy" strategy, number "limit" limit.toNat, number "deleted" deleted.toNat]
  | removalStarted strategy cutoff => [text "strategy" strategy, text "cutoff" cutoff.display]
  | removalFinished strategy deleted statements =>
    [text "strategy" strategy, number "deleted" deleted.toNat,
      number "statements" statements.toNat]
  | removalFailed strategy error => [text "strategy" strategy, text "error" error.message]
  | repositoryUnknown repository => [text "repository" repository]
  | repositoryUnresolved repository error =>
    [text "repository" repository, text "error" error.message]
  | jobsStarted cutoff => [text "cutoff" cutoff.display]
  | jobsFound eligible => [number "eligible" eligible.toNat]
  | jobChunkDeleted deleted total => [number "deleted" deleted.toNat, number "total" total.toNat]
  | jobsFailed error => [text "error" error.message]
  | jobsDeleted deleted => [number "deleted" deleted.toNat]
  | pruningStarted => []
  | unreferencedFound kind count => [text "kind" kind.text, number "count" count]
  | pruningChunk kind .. => [text "kind" kind.text]
  | pruningFailed kind error => [text "kind" kind.text, text "error" error.message]
  | cycleAborted _ reason deleted =>
    [text "reason" reason.message, number "deleted" deleted.toNat]
  | cycleStarted domain days chunkSize maxRuntime =>
    [text "source" domain.name, number "days" days.toNat, number "chunk_size" chunkSize.toNat] ++
      (maxRuntime.map fun d => number "max_runtime_secs" d.seconds).toList
  | pauseIgnored => []
  | databaseOpened path => [text "path" path]
  | optionsRefused error domain => [text "error" error, text "source" domain.name]
  | intervalChosen configPath _ => [text "config_file" configPath]
  | connectionFailed error => [text "error" error.message]
  | healthCheckFailed error => [text "error" error.message]
  | runCompleted domain deleted elapsed =>
    [text "source" domain.name, number "deleted" deleted.toNat,
      number "elapsed_secs" elapsed.seconds]
  | stepUnfinished step error => [text "step" step, ⟨"error", .quoted error⟩]
  | runAborted domain deleted _ =>
    [text "source" domain.name, number "deleted" deleted.toNat]
  | runFailed error domain => [text "error" error, text "source" domain.name]

/-- The names of the fields, those without a value included. -/
def fieldNames (e : Event) : List String :=
  "message" :: match e with
    | cycleStarted .. => ["source", "days", "chunk_size", "max_runtime_secs"]
    | e => e.fields.map (·.name)

end Event

/-- An event, and the domain of the cycle in whose course it happened, if one was under way. -/
structure Record where
  event : Event
  span : Option DataDomain
deriving DecidableEq, Repr

end Retention.Log
