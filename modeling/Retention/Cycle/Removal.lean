import Retention.Cycle.Access
import Retention.Cycle.Report

/-!
# Removal of performance data

A removal deletes the performance data before its cutoff, of all repositories or of one, chunk by
chunk. The cutoff stays as it is for the whole removal.

Keys grow with time, so the highest key of a young row marks where old rows end. A chunk is sized
by the number of old rows up to there (`idealChunkSize`), and the chunks stop once one was not
filled, or was sized below the chunk size and nothing old is left (`run`).
-/

namespace Retention.Cycle

open Store (DatabaseError)
open Time (Instant)

/-- How a removal, or a part of a cycle, ends. -/
inductive Ending
  | within
  | exceeded (reason : Overrun)
  | failed (error : DatabaseError)
  /-- The rounds it was given did not suffice. -/
  | unfinished
deriving DecidableEq, Repr

variable {σ : Type}

/-- The number of rows that the next delete may take: between one and `nominal`, unless that is
zero. -/
def idealChunkSize (host : Host σ) (access : PerformanceAccess σ) (cutoff : Instant)
    (nominal : UInt32) (scope : Option Int) : Call σ UInt32 := do
  let boundary ← access.maxIdAfter cutoff scope
  let older ← access.countAtOrBefore cutoff boundary scope nominal
  host.log (.chunkSized boundary older nominal)
  if older = 0 then
    return nominal
  return (min older nominal.toUInt64).toUInt32

inductive RemovalKind
  /-- All repositories. -/
  | main
  /-- One repository, with a retention of its own. -/
  | single (repository : String) (id : Int)
deriving DecidableEq, Repr

structure Removal where
  kind : RemovalKind
  cutoff : Instant
  chunkSize : UInt32
deriving DecidableEq, Repr

namespace Removal

def main (cutoff : Instant) (chunkSize : UInt32) : Removal := ⟨.main, cutoff, chunkSize⟩

/-- The removal for the repository of that name, if there is one. -/
def single? (access : PerformanceAccess σ) (repository : String) (cutoff : Instant)
    (chunkSize : UInt32) : Call σ (Option Removal) := do
  let id? ← access.repositoryId? repository
  return id?.map fun id => ⟨.single repository id, cutoff, chunkSize⟩

def name (r : Removal) : String :=
  match r.kind with
  | .main => "main"
  | .single repository _ => "scoped:" ++ repository

def scope (r : Removal) : Option Int :=
  match r.kind with
  | .main => none
  | .single _ id => some id

/-- Sizes one delete and issues it; the size and the number of rows that went. -/
def removeSized (r : Removal) (host : Host σ) (access : PerformanceAccess σ) :
    Call σ (UInt32 × UInt64) := do
  let limit ← idealChunkSize host access r.cutoff r.chunkSize r.scope
  let deleted ← access.deleteBefore r.cutoff r.scope limit
  host.log (.chunkRemoved r.name limit deleted)
  return (limit, deleted)

def remove (r : Removal) (host : Host σ) (access : PerformanceAccess σ) : Call σ UInt64 := do
  let (_, deleted) ← r.removeSized host access
  return deleted

/-- Whether a row in scope at or before the cutoff is left. -/
def hasRemaining (r : Removal) (access : PerformanceAccess σ) : Call σ Bool := do
  let left ← access.countAtOrBefore r.cutoff none r.scope 1
  return 0 < left

/-- Deletes chunk by chunk, the guard permitting. The step counts every delete that completed,
whatever comes after it. -/
def run (r : Removal) (host : Host σ) (access : PerformanceAccess σ) (guard : Guard) :
    (rounds : Nat) → StepReport → StateM σ (Ending × StepReport)
  | 0, step => return (.unfinished, step)
  | rounds + 1, step => do
    match ← host.check guard with
    | .exceeded reason => return (.exceeded reason, step)
    | .within =>
      match ← (r.removeSized host access).run with
      | .error e => return (.failed e, step)
      | .ok (limit, deleted) =>
        let step := step.record deleted
        if deleted < limit.toUInt64 then
          return (.within, step)
        else if r.chunkSize ≤ limit then
          r.run host access guard rounds step
        else
          match ← (r.hasRemaining access).run with
          | .error e => return (.failed e, step)
          | .ok false => return (.within, step)
          | .ok true => r.run host access guard rounds step

end Removal

end Retention.Cycle
