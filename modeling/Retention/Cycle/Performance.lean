import Retention.Cycle.Outcome
import Retention.Cycle.Policy
import Retention.Cycle.Removal

/-!
# The cycle of performance data

One removal covers all repositories; a second one, with a retention of its own, covers a single
repository, if that exists. An error that may pass ends its removal but not the cycle; any other
error ends the cycle.
-/

namespace Retention.Cycle

open Time (Instant)

variable {σ : Type}

/-- The repository whose data go sooner than all other, and after how many days. -/
structure SingleRetention where
  repository : String
  days : UInt32
deriving DecidableEq, Repr

structure PerformanceCycle where
  policy : Policy
  single : SingleRetention
deriving DecidableEq

namespace PerformanceCycle

/-- A cycle whose policy keeps to the floor, unless it is exempt. -/
def make (policy : Policy) (single : SingleRetention) (floorExempt : Bool) :
    Except PolicyError PerformanceCycle := do
  if !floorExempt then
    policy.checkFloor retentionFloor
  return ⟨policy, single⟩

/-- Runs the removals in turn and adds a step for each. -/
def runAll (host : Host σ) (access : PerformanceAccess σ) (guard : Guard) (rounds : Nat) :
    List Removal → Report → StateM σ Outcome
  | [], report => do
    return .completed { report with elapsed := guard.elapsed (← host.clock) }
  | removal :: rest, report => do
    host.log (.removalStarted removal.name removal.cutoff)
    let (ending, step) ← removal.run host access guard rounds { name := removal.name }
    host.log (.removalFinished removal.name step.deleted step.statements)
    match ending with
    | .within => runAll host access guard rounds rest (report.push step)
    | .exceeded reason =>
      let report := { report.push step with elapsed := guard.elapsed (← host.clock) }
      host.log (.cycleAborted .performance reason report.totalDeleted)
      return .aborted report reason
    | .unfinished => return .unfinished
    | .failed e =>
      if e.isTransient then
        host.log (.removalFailed removal.name e)
        runAll host access guard rounds rest (report.push (step.fail e))
      else
        return .failed e

def run (c : PerformanceCycle) (host : Host σ) (access : PerformanceAccess σ) (rounds : Nat) :
    StateM σ Outcome := do
  let guard : Guard := ⟨← host.clock, c.policy.maxRuntime⟩
  let now ← host.now
  match c.policy.cutoff? now, now.daysBefore? c.single.days.toNat with
  | some cutoff, some singleCutoff =>
    let chunkSize := c.policy.chunkSize
    let main := Removal.main cutoff chunkSize
    let report : Report := { domain := .performance }
    match ← (Removal.single? access c.single.repository singleCutoff chunkSize).run with
    | .ok (some single) => runAll host access guard rounds [main, single] report
    | .ok none =>
      host.log (.repositoryUnknown c.single.repository)
      runAll host access guard rounds [main] report
    | .error e =>
      if e.isTransient then
        host.log (.repositoryUnresolved c.single.repository e)
        let step : StepReport := { name := "scoped:" ++ c.single.repository }
        runAll host access guard rounds [main] (report.push (step.fail e))
      else
        return .failed e
  | _, _ => return .cutoffOutOfRange

end PerformanceCycle

end Retention.Cycle
