import Retention.Cycle.Policy
import Retention.Settings.Fields

/-!
# Retention settings

For each domain: after how many days rows go, how many go at once, and how long a run may take. A
limit of zero hours is none. Performance data have one repository with a retention of its own, and
hosts to which the floor does not apply.
-/

namespace Retention.Settings

open Time (Duration)

/-- The length of time of so many hours, none for zero; it has at most 2⁶⁴ - 1 seconds. -/
def hours (h : UInt64) : Option Duration :=
  if h = 0 then none else some (.ofSeconds (min (3600 * h.toNat) (UInt64.size - 1)))

structure JobRetention where
  days : UInt32 := 120
  chunkSize : UInt32 := 100
  /-- Seconds to pause between chunks. -/
  pauseSeconds : UInt64 := 0
  maxRuntimeHours : UInt64 := 0
deriving DecidableEq, Repr

namespace JobRetention

def maxRuntime (r : JobRetention) : Option Duration := hours r.maxRuntimeHours

def fields : List Field :=
  [field "days" word32, field "chunk_size" word32, field "sleep_time_secs" word64,
    field "max_runtime_hours" word64]

def read : Reader JobRetention := fun v => do
  let entries ← section? "struct JobRetentionConfig" fields v
  let default : JobRetention := {}
  return {
    days := ← optional entries "days" word32 default.days
    chunkSize := ← optional entries "chunk_size" word32 default.chunkSize
    pauseSeconds := ← optional entries "sleep_time_secs" word64 default.pauseSeconds
    maxRuntimeHours := ← optional entries "max_runtime_hours" word64 default.maxRuntimeHours }

end JobRetention

structure PerformanceRetention where
  days : UInt32 := Cycle.retentionFloor
  chunkSize : UInt32 := 100
  maxRuntimeHours : UInt64 := 23
  /-- The repository with a retention of its own, and that retention. -/
  scopedRepository : String := "try"
  scopedDays : UInt32 := 28
  floorExemptHosts : List String := []
deriving DecidableEq, Repr

namespace PerformanceRetention

def maxRuntime (r : PerformanceRetention) : Option Duration := hours r.maxRuntimeHours

/-- Whether the floor does not apply to this host. -/
def isFloorExempt (r : PerformanceRetention) (host : Option String) : Bool :=
  host.any r.floorExemptHosts.contains

def fields : List Field :=
  [field "days" word32, field "chunk_size" word32, field "max_runtime_hours" word64,
    field "scoped_repository" string, field "scoped_days" word32,
    field "floor_exempt_hosts" strings]

def read : Reader PerformanceRetention := fun v => do
  let entries ← section? "struct PerformanceRetentionConfig" fields v
  let default : PerformanceRetention := {}
  return {
    days := ← optional entries "days" word32 default.days
    chunkSize := ← optional entries "chunk_size" word32 default.chunkSize
    maxRuntimeHours := ← optional entries "max_runtime_hours" word64 default.maxRuntimeHours
    scopedRepository := ← optional entries "scoped_repository" string default.scopedRepository
    scopedDays := ← optional entries "scoped_days" word32 default.scopedDays
    floorExemptHosts := ← optional entries "floor_exempt_hosts" strings
      default.floorExemptHosts }

end PerformanceRetention

structure RetentionSettings where
  jobs : JobRetention := {}
  performance : PerformanceRetention := {}
deriving DecidableEq, Repr

namespace RetentionSettings

def fields : List Field :=
  [field "jobs" JobRetention.read, field "performance" PerformanceRetention.read]

def read : Reader RetentionSettings := fun v => do
  let entries ← section? "struct RetentionConfig" fields v
  return {
    jobs := ← optional entries "jobs" JobRetention.read {}
    performance := ← optional entries "performance" PerformanceRetention.read {} }

/-- The first rule that the settings break. -/
def contradiction? (r : RetentionSettings) : Option String :=
  if r.jobs.chunkSize = 0 then some "retention.jobs.chunk_size must be at least 1"
  else if r.performance.chunkSize = 0 then
    some "retention.performance.chunk_size must be at least 1"
  else if UInt64.size ≤ 3600 * r.jobs.maxRuntimeHours.toNat then
    some s!"retention.jobs.max_runtime_hours is out of range: {r.jobs.maxRuntimeHours}"
  else if UInt64.size ≤ 3600 * r.performance.maxRuntimeHours.toNat then
    let h := r.performance.maxRuntimeHours
    some s!"retention.performance.max_runtime_hours is out of range: {h}"
  else if r.performance.scopedRepository = "" then
    some "retention.performance.scoped_repository cannot be empty"
  else none

end RetentionSettings

end Retention.Settings
