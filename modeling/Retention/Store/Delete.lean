import Retention.Store.Query

/-!
# Deletions

The statements that a run issues: one chunk of jobs with their logs and details (`deleteJobChunk`),
rows of a lookup table that no job points at (`deleteUnreferenced`), and performance data
(`deleteData`). Each takes the lowest keys first and tells how many rows went.

A chunk of jobs is one transaction over three tables, and a job that a pin still points at makes
all of it fail. So would a job that is left without its lookup row, were a statement to take one.

In a database that must not change (`Fixed`) they fail where they would first change it. A statement
that is only prepared, or that is not reached, fails or succeeds as it does elsewhere.
-/

namespace Retention.Store

open Time (Instant)

/-- A statement binds at most this many values. -/
def maxVariables : Nat := 32766

def checkVariables (count : Nat) : Except DatabaseError Unit :=
  if maxVariables < count then .error (.refused .tooManyVariables) else .ok ()

/-- The tables that jobs point at, in the order in which a missing one is noticed. -/
def jobParents : List TableName := [.machine, .jobGroup, .jobType]

/-- The first `size` jobs submitted before the cutoff. -/
def jobChunk (jobs : Table Job) (cutoff : Instant) (size : UInt32) : List Int :=
  let text := cutoff.stored
  ((jobs.rows.filter fun row => row.submitted < text).take size.toNat).map (·.id)

/-- Deletes the first `size` jobs submitted before the cutoff, with their logs and details. -/
def deleteJobChunk (cutoff : Instant) (size : UInt32) : Statement UInt64 := fun s => do
  let jobs ← need .job s.job
  let chosen := jobChunk jobs cutoff size
  if chosen.isEmpty then
    return (0, s)
  checkVariables chosen.length
  let logs ← need .jobLog s.jobLog
  let details ← need .jobDetail s.jobDetail
  needParents s jobParents
  let set : Std.TreeSet Int := .ofList chosen compare
  let pinned := match s.jobPin with
    | some pins => pins.rows.any fun pin => set.contains pin.job
    | none => false
  if pinned then
    throw (.refused .foreignKey)
  let s := { s with
    job := some (jobs.filter fun row => !set.contains row.id)
    jobLog := some (logs.filter fun row => !set.contains row.job)
    jobDetail := some (details.filter fun row => !set.contains row.job) }
  return (chosen.length.toUInt64, s)

/-- Deletes those of the given rows that no job points at. -/
def deleteUnreferenced (kind : LookupKind) (ids : List Int) : Statement UInt64 := fun s => do
  if ids.isEmpty then
    return (0, s)
  checkVariables ids.length
  let table ← need kind.table (s.lookups kind)
  let jobs ← need .job s.job
  let listed : Std.TreeSet Int := .ofList ids compare
  let used : Std.TreeSet Int := .ofList (jobs.rows.map (·.reference kind)) compare
  let left := table.filter fun row => !(listed.contains row.id && !used.contains row.id)
  -- once the rows are gone, a job that pointed at one of them undoes it all
  let stay : Std.TreeSet Int := .ofList left.ids compare
  if table.rows.any fun row => used.contains row.id && !stay.contains row.id then
    throw (.refused .foreignKey)
  return ((table.rows.length - left.rows.length).toUInt64, s.setLookups kind (some left))

/-- Deletes the first `limit` rows in scope that were pushed before the cutoff. -/
def deleteData (cutoff : Instant) (scope : Option Int) (limit : UInt32) : Statement UInt64 :=
  fun s => do
    let data ← need .performanceDatum s.performanceDatum
    needParents s [.repository]
    let text := cutoff.stored
    let left := data.withoutFirst
      (fun row => decide (row.pushed < text ∧ row.InScope scope)) limit.toNat
    return ((data.rows.length - left.rows.length).toUInt64,
      { s with performanceDatum := some left })

namespace Fixed

/-- The statement in a database that must not change. -/
def refuse (statement : Statement UInt64) : Statement UInt64 := fun s => do
  discard <| statement s
  throw (.refused .readOnly)

/-- The logs of the jobs would be the first to go. -/
def deleteJobChunk (cutoff : Instant) (size : UInt32) : Statement UInt64 := fun s => do
  let chosen := jobChunk (← need .job s.job) cutoff size
  if chosen.isEmpty then
    return (0, s)
  checkVariables chosen.length
  discard <| need .jobLog s.jobLog
  throw (.refused .readOnly)

def deleteUnreferenced (kind : LookupKind) (ids : List Int) : Statement UInt64 :=
  if ids.isEmpty then fun s => return (0, s) else refuse (Store.deleteUnreferenced kind ids)

def deleteData (cutoff : Instant) (scope : Option Int) (limit : UInt32) : Statement UInt64 :=
  refuse (Store.deleteData cutoff scope limit)

end Fixed

end Retention.Store
