import Retention.Cycle.Budget
import Retention.Log.Event
import Retention.Store.Delete

/-!
# What a run stands on

A run reads two clocks, pauses and logs (`Host`), and works on the data through three groups of
operations (`JobAccess`, `LookupAccess`, `PerformanceAccess`). All of them act on a state `σ` that
the run does not look into, so a run is defined for any store, any clock and any other writer.

A call may fail; what it did to the state before it failed stays.
-/

namespace Retention.Cycle

open Log (Event Record)
open Store (DatabaseError LookupKind Statement)
open Time (Duration Instant)

/-- An operation on the data, with the error that it may end with. -/
abbrev Call (σ α : Type) := ExceptT DatabaseError (StateM σ) α

structure Host (σ : Type) where
  /-- A clock that never goes back. -/
  clock : StateM σ Duration
  now : StateM σ Instant
  pause : Duration → StateM σ Unit
  write : Record → StateM σ Unit
  /-- The cycle that the run is in the course of. -/
  span : Option DataDomain := none

namespace Host

variable {σ : Type}

def log (host : Host σ) (event : Event) : StateM σ Unit :=
  host.write ⟨event, host.span⟩

/-- The host whose log tells that the cycle of this domain is under way. -/
def within (host : Host σ) (domain : DataDomain) : Host σ :=
  { host with span := some domain }

def check (host : Host σ) (guard : Guard) : StateM σ Budget := do
  return guard.check (← host.clock)

end Host

structure JobAccess (σ : Type) where
  countBefore : Instant → Call σ UInt64
  /-- Deletes up to that many jobs and their dependents in one transaction. -/
  deleteChunkBefore : Instant → UInt32 → Call σ UInt64

structure LookupAccess (σ : Type) where
  unreferencedIds : LookupKind → Call σ (List Int)
  deleteUnreferenced : LookupKind → List Int → Call σ UInt64

structure PerformanceAccess (σ : Type) where
  repositoryId? : String → Call σ (Option Int)
  /-- By cutoff and scope. -/
  maxIdAfter : Instant → Option Int → Call σ (Option Int)
  /-- By cutoff, highest key, scope and cap. -/
  countAtOrBefore : Instant → Option Int → Option Int → UInt32 → Call σ UInt64
  /-- By cutoff, scope and limit. -/
  deleteBefore : Instant → Option Int → UInt32 → Call σ UInt64

/-- The statement as an operation on a store: one that fails changes nothing. -/
def ofStatement {α : Type} (statement : Statement α) : Call Store α := fun s =>
  match statement s with
  | .ok (a, s') => (.ok a, s')
  | .error e => (.error e, s)

/-- The query as an operation on a store. -/
def ofQuery {α : Type} (query : Store → Except DatabaseError α) : Call Store α := fun s =>
  (query s, s)

namespace Direct

/-! Access to a store that nobody else works on. -/

def jobs : JobAccess Store where
  countBefore cutoff := ofQuery (·.countJobsBefore cutoff)
  deleteChunkBefore cutoff size := ofStatement (Store.deleteJobChunk cutoff size)

def lookups : LookupAccess Store where
  unreferencedIds kind := ofQuery (·.unreferencedIds kind)
  deleteUnreferenced kind ids := ofStatement (Store.deleteUnreferenced kind ids)

def performance : PerformanceAccess Store where
  repositoryId? name := ofQuery (·.repositoryId? name)
  maxIdAfter cutoff scope := ofQuery (·.maxIdAfter cutoff scope)
  countAtOrBefore cutoff maxId scope cap := ofQuery (·.countAtOrBefore cutoff maxId scope cap)
  deleteBefore cutoff scope limit := ofStatement (Store.deleteData cutoff scope limit)

end Direct

namespace Fixed

/-! Access to a store that must not change. -/

def jobs : JobAccess Store :=
  { Direct.jobs with
    deleteChunkBefore cutoff size := ofStatement (Store.Fixed.deleteJobChunk cutoff size) }

def lookups : LookupAccess Store :=
  { Direct.lookups with
    deleteUnreferenced kind ids := ofStatement (Store.Fixed.deleteUnreferenced kind ids) }

def performance : PerformanceAccess Store :=
  { Direct.performance with
    deleteBefore cutoff scope limit := ofStatement (Store.Fixed.deleteData cutoff scope limit) }

end Fixed

end Retention.Cycle
