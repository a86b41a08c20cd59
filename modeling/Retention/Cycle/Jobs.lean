import Retention.Cycle.Outcome
import Retention.Cycle.Policy
import Retention.Cycle.Pruning
import Retention.Cycle.Removal

/-!
# The cycle of jobs

Jobs submitted before the cutoff are deleted chunk by chunk, with a pause between chunks; then the
lookup rows that no job points at any more are pruned. An error that may pass ends the deletion of
jobs but not the cycle; any other error ends the cycle.
-/

namespace Retention.Cycle

open Time (Duration Instant)

variable {σ : Type}

structure JobCycle where
  policy : Policy
  pause : Duration
deriving DecidableEq

namespace JobCycle

/-- Deletes full chunks until one is not full. -/
def deleteChunks (c : JobCycle) (host : Host σ) (access : JobAccess σ) (guard : Guard)
    (cutoff : Instant) : (rounds : Nat) → StepReport → StateM σ (Ending × StepReport)
  | 0, step => return (.unfinished, step)
  | rounds + 1, step => do
    match ← host.check guard with
    | .exceeded reason => return (.exceeded reason, step)
    | .within =>
      match ← (access.deleteChunkBefore cutoff c.policy.chunkSize).run with
      | .error e => return (.failed e, step)
      | .ok deleted =>
        let step := step.record deleted
        host.log (.jobChunkDeleted deleted step.deleted)
        if deleted < c.policy.chunkSize.toUInt64 then
          return (.within, step)
        else
          if c.pause ≠ 0 then
            host.pause c.pause
          c.deleteChunks host access guard cutoff rounds step

/-- Counts the jobs that are to go, then deletes them. -/
def deleteJobs (c : JobCycle) (host : Host σ) (access : JobAccess σ) (guard : Guard)
    (cutoff : Instant) (rounds : Nat) : StateM σ (Ending × StepReport) := do
  let step : StepReport := { name := "jobs" }
  match ← (access.countBefore cutoff).run with
  | .error e => return (.failed e, step)
  | .ok eligible =>
    host.log (.jobsFound eligible)
    c.deleteChunks host access guard cutoff rounds step

/-- What follows the deletion of jobs, unless the cycle failed there. -/
def finish (c : JobCycle) (host : Host σ) (access : LookupAccess σ) (guard : Guard)
    (ended : Budget) (step : StepReport) : StateM σ Outcome := do
  host.log (.jobsDeleted step.deleted)
  let report : Report := { domain := .jobs, steps := [step] }
  let (ended, report) ← match ended with
    | .within => prune host access guard c.policy.chunkSize report
    | .exceeded reason => pure (.exceeded reason, report)
  let report := { report with elapsed := guard.elapsed (← host.clock) }
  match ended with
  | .within => return .completed report
  | .exceeded reason =>
    host.log (.cycleAborted .jobs reason report.totalDeleted)
    return .aborted report reason

def run (c : JobCycle) (host : Host σ) (jobs : JobAccess σ) (lookups : LookupAccess σ)
    (rounds : Nat) : StateM σ Outcome := do
  let guard : Guard := ⟨← host.clock, c.policy.maxRuntime⟩
  match c.policy.cutoff? (← host.now) with
  | none => return .cutoffOutOfRange
  | some cutoff =>
    host.log (.jobsStarted cutoff)
    let (ending, step) ← c.deleteJobs host jobs guard cutoff rounds
    match ending with
    | .within => c.finish host lookups guard .within step
    | .exceeded reason => c.finish host lookups guard (.exceeded reason) step
    | .unfinished => return .unfinished
    | .failed e =>
      if e.isTransient then
        host.log (.jobsFailed e)
        c.finish host lookups guard .within (step.fail e)
      else
        return .failed e

end JobCycle

end Retention.Cycle
