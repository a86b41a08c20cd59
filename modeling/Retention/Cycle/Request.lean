import Retention.Cycle.Jobs
import Retention.Cycle.Performance
import Retention.Settings.Retention

/-!
# Requests

A request names a domain and may override some of its settings. What is overridden and what is not
decides the cycle (`Cycler.make`); whether the floor applies depends on the host that the request
comes from.
-/

namespace Retention.Cycle

open Log (Event)
open Settings (RetentionSettings)
open Time (Duration)

/-- What a request overrides. -/
structure Options where
  days : Option UInt32 := none
  chunkSize : Option UInt32 := none
  /-- Seconds to pause between chunks of jobs. -/
  pauseSeconds : Option UInt64 := none
deriving DecidableEq, Repr

inductive Cycler
  | jobs (cycle : JobCycle)
  | performance (cycle : PerformanceCycle)
deriving DecidableEq

structure DataAccess (σ : Type) where
  jobs : JobAccess σ
  lookups : LookupAccess σ
  performance : PerformanceAccess σ

/-- Access to a store that nobody else works on. -/
def Direct.data : DataAccess Store := ⟨Direct.jobs, Direct.lookups, Direct.performance⟩

/-- Access to a store that must not change. -/
def Fixed.data : DataAccess Store := ⟨Fixed.jobs, Fixed.lookups, Fixed.performance⟩

namespace Cycler

/-- The cycle that was asked for, from the host of that name, if it has one. -/
def make (domain : DataDomain) (options : Options) (settings : RetentionSettings)
    (siteHost : Option String) : Except PolicyError Cycler :=
  match domain with
  | .jobs => do
    let jobs := settings.jobs
    let policy ← Policy.make (options.days.getD jobs.days)
      (options.chunkSize.getD jobs.chunkSize) jobs.maxRuntime
    let pause := options.pauseSeconds.getD jobs.pauseSeconds
    return .jobs ⟨policy, .ofSeconds pause.toNat⟩
  | .performance => do
    let performance := settings.performance
    let policy ← Policy.make (options.days.getD performance.days)
      (options.chunkSize.getD performance.chunkSize) performance.maxRuntime
    let single := ⟨performance.scopedRepository, performance.scopedDays⟩
    let cycle ← PerformanceCycle.make policy single (performance.isFloorExempt siteHost)
    return .performance cycle

/-- What there is to remark on a request, whatever becomes of it. -/
def notices (domain : DataDomain) (options : Options) : List Event :=
  match domain, options.pauseSeconds with
  | .performance, some seconds => if seconds = 0 then [] else [.pauseIgnored]
  | _, _ => []

def domain : Cycler → DataDomain
  | jobs _ => .jobs
  | performance _ => .performance

def policy : Cycler → Policy
  | jobs cycle => cycle.policy
  | performance cycle => cycle.policy

def run {σ : Type} (c : Cycler) (host : Host σ) (access : DataAccess σ) (rounds : Nat) :
    StateM σ Outcome := do
  let policy := c.policy
  host.log (.cycleStarted c.domain policy.days policy.chunkSize policy.maxRuntime)
  let host := host.within c.domain
  match c with
  | jobs cycle => cycle.run host access.jobs access.lookups rounds
  | performance cycle => cycle.run host access.performance rounds

end Cycler

end Retention.Cycle
