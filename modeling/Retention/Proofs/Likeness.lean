import Mathlib.Tactic.SplitIfs
import Retention.Cycle.Request

/-!
# Runs that are alike

A run looks at no state itself, it leaves that to its host and to its access to the data. Wherever
these do alike, so does the run: it comes to the same outcome, and states that were related stay so
(`Cycler.run_alike`). Only the instant that a run takes for its present may be found in another way.
-/

namespace Retention.Cycle

open Log (Event Record)
open Store (DatabaseError LookupKind)
open Time (Duration Instant)

variable {σ τ α β : Type}

/-- From related states both computations come to the same, and to states that are related. -/
def Alike (R R' : σ → τ → Prop) (x : StateM σ α) (y : StateM τ α) : Prop :=
  ∀ s t, R s t → (x s).1 = (y t).1 ∧ R' (x s).2 (y t).2

namespace Alike

variable {R R' R'' : σ → τ → Prop}

theorem pure {a : α} : Alike R R (Pure.pure a) (Pure.pure a) := fun _ _ h => ⟨rfl, h⟩

theorem bind {x : StateM σ α} {y : StateM τ α} {f : α → StateM σ β} {g : α → StateM τ β}
    (hx : Alike R R' x y) (hf : ∀ a, Alike R' R'' (f a) (g a)) :
    Alike R R'' (x >>= f) (y >>= g) := by
  intro s t h
  obtain ⟨same, next⟩ := hx s t h
  change (f (x s).1 (x s).2).1 = (g (y t).1 (y t).2).1 ∧ R'' (f (x s).1 (x s).2).2 _
  rw [same]
  exact hf _ _ _ next

theorem call_bind {x : Call σ α} {y : Call τ α} {f : α → Call σ β} {g : α → Call τ β}
    (hx : Alike R R x y) (hf : ∀ a, Alike R R (f a) (g a)) :
    Alike R R (x >>= f : Call σ β) (y >>= g : Call τ β) := by
  refine bind (f := ExceptT.bindCont f) (g := ExceptT.bindCont g) hx fun result => ?_
  rcases result with e | a
  · exact pure
  · exact hf a

theorem call_lift {x : StateM σ α} {y : StateM τ α} (h : Alike R R x y) :
    Alike R R (liftM x : Call σ α) (liftM y : Call τ α) :=
  bind h fun _ => pure

end Alike

/-- The hosts do alike, but for the present instant. -/
structure Host.Alike (R : σ → τ → Prop) (host : Host σ) (host' : Host τ) : Prop where
  clock : Cycle.Alike R R host.clock host'.clock
  pause (d : Duration) : Cycle.Alike R R (host.pause d) (host'.pause d)
  write (record : Record) : Cycle.Alike R R (host.write record) (host'.write record)
  span : host.span = host'.span

structure JobAccess.Alike (R : σ → τ → Prop) (access : JobAccess σ) (access' : JobAccess τ) :
    Prop where
  countBefore (cutoff : Instant) :
    Cycle.Alike R R (access.countBefore cutoff) (access'.countBefore cutoff)
  deleteChunkBefore (cutoff : Instant) (size : UInt32) : Cycle.Alike R R
    (access.deleteChunkBefore cutoff size) (access'.deleteChunkBefore cutoff size)

structure LookupAccess.Alike (R : σ → τ → Prop) (access : LookupAccess σ)
    (access' : LookupAccess τ) : Prop where
  unreferencedIds (kind : LookupKind) :
    Cycle.Alike R R (access.unreferencedIds kind) (access'.unreferencedIds kind)
  deleteUnreferenced (kind : LookupKind) (ids : List Int) : Cycle.Alike R R
    (access.deleteUnreferenced kind ids) (access'.deleteUnreferenced kind ids)

structure PerformanceAccess.Alike (R : σ → τ → Prop) (access : PerformanceAccess σ)
    (access' : PerformanceAccess τ) : Prop where
  repositoryId? (name : String) :
    Cycle.Alike R R (access.repositoryId? name) (access'.repositoryId? name)
  maxIdAfter (cutoff : Instant) (scope : Option Int) :
    Cycle.Alike R R (access.maxIdAfter cutoff scope) (access'.maxIdAfter cutoff scope)
  countAtOrBefore (cutoff : Instant) (maxId scope : Option Int) (cap : UInt32) : Cycle.Alike R R
    (access.countAtOrBefore cutoff maxId scope cap)
    (access'.countAtOrBefore cutoff maxId scope cap)
  deleteBefore (cutoff : Instant) (scope : Option Int) (limit : UInt32) : Cycle.Alike R R
    (access.deleteBefore cutoff scope limit) (access'.deleteBefore cutoff scope limit)

structure DataAccess.Alike (R : σ → τ → Prop) (access : DataAccess σ) (access' : DataAccess τ) :
    Prop where
  jobs : access.jobs.Alike R access'.jobs
  lookups : access.lookups.Alike R access'.lookups
  performance : access.performance.Alike R access'.performance

/-- The hosts do alike before a run looks at the clock (`R₀`), between that and its look at the
present instant (`R₁`), and afterwards (`R`). -/
structure Host.BeginAlike (R₀ R₁ R : σ → τ → Prop) (host : Host σ) (host' : Host τ) : Prop where
  write (record : Record) : Cycle.Alike R₀ R₀ (host.write record) (host'.write record)
  clock : Cycle.Alike R₀ R₁ host.clock host'.clock
  now : Cycle.Alike R₁ R host.now host'.now
  after : host.Alike R host'

section Runs

variable {R : σ → τ → Prop} {host : Host σ} {host' : Host τ}

theorem Host.Alike.log (hosts : host.Alike R host') (event : Event) :
    Cycle.Alike R R (host.log event) (host'.log event) := by
  unfold Host.log
  rw [hosts.span]
  exact hosts.write _

theorem Host.Alike.check (hosts : host.Alike R host') (guard : Guard) :
    Cycle.Alike R R (host.check guard) (host'.check guard) :=
  hosts.clock.bind fun _ => .pure

/-! ### Removals -/

section Removals

variable {access : PerformanceAccess σ} {access' : PerformanceAccess τ}
  (hosts : host.Alike R host') (accesses : access.Alike R access')
include accesses

theorem Removal.hasRemaining_alike (r : Removal) :
    Alike R R (r.hasRemaining access) (r.hasRemaining access') :=
  .call_bind (accesses.countAtOrBefore _ _ _ _) fun _ => .pure

theorem Removal.single?_alike (repository : String) (cutoff : Instant) (chunkSize : UInt32) :
    Alike R R (single? access repository cutoff chunkSize)
      (single? access' repository cutoff chunkSize) :=
  .call_bind (accesses.repositoryId? _) fun _ => .pure

include hosts

theorem idealChunkSize_alike (cutoff : Instant) (nominal : UInt32) (scope : Option Int) :
    Alike R R (idealChunkSize host access cutoff nominal scope)
      (idealChunkSize host' access' cutoff nominal scope) := by
  refine .call_bind (accesses.maxIdAfter _ _) fun boundary => ?_
  refine .call_bind (accesses.countAtOrBefore _ _ _ _) fun older => ?_
  refine .call_bind (.call_lift (hosts.log _)) fun _ => ?_
  split_ifs <;> exact .pure

theorem Removal.removeSized_alike (r : Removal) :
    Alike R R (r.removeSized host access) (r.removeSized host' access') := by
  refine .call_bind (idealChunkSize_alike hosts accesses _ _ _) fun limit => ?_
  refine .call_bind (accesses.deleteBefore _ _ _) fun deleted => ?_
  exact .call_bind (.call_lift (hosts.log _)) fun _ => .pure

theorem Removal.run_alike (r : Removal) (guard : Guard) : ∀ (rounds : Nat) (step : StepReport),
    Alike R R (r.run host access guard rounds step) (r.run host' access' guard rounds step)
  | 0, _ => .pure
  | rounds + 1, step => by
    rw [Removal.run, Removal.run]
    refine (hosts.check guard).bind fun budget => ?_
    rcases budget with _ | reason
    · refine (r.removeSized_alike hosts accesses).bind fun result => ?_
      rcases result with e | ⟨limit, deleted⟩
      · exact .pure
      simp only
      split_ifs
      · exact .pure
      · exact run_alike r guard rounds _
      · refine (r.hasRemaining_alike accesses).bind fun left => ?_
        rcases left with e | _ | _
        · exact .pure
        · exact .pure
        · exact run_alike r guard rounds _
    · exact .pure

theorem PerformanceCycle.runAll_alike (guard : Guard) (rounds : Nat) :
    ∀ (removals : List Removal) (report : Report),
      Alike R R (runAll host access guard rounds removals report)
        (runAll host' access' guard rounds removals report)
  | [], _ => hosts.clock.bind fun _ => .pure
  | r :: rest, report => by
    rw [runAll, runAll]
    refine (hosts.log _).bind fun _ => ?_
    refine (r.run_alike hosts accesses guard rounds _).bind fun out =>
      (hosts.log _).bind fun _ => ?_
    rcases out with ⟨_ | reason | e | _, step⟩
    · exact runAll_alike guard rounds rest _
    · exact hosts.clock.bind fun _ => (hosts.log _).bind fun _ => .pure
    · simp only
      split_ifs
      · exact (hosts.log _).bind fun _ => runAll_alike guard rounds rest _
      · exact .pure
    · exact .pure

omit hosts in
theorem PerformanceCycle.run_alike {R₀ R₁ : σ → τ → Prop} (c : PerformanceCycle)
    (hosts : host.BeginAlike R₀ R₁ R host') (rounds : Nat) :
    Alike R₀ R (c.run host access rounds) (c.run host' access' rounds) := by
  have all := runAll_alike hosts.after accesses
  refine hosts.clock.bind fun started => hosts.now.bind fun now => ?_
  rcases c.policy.cutoff? now with _ | cutoff
  · exact .pure
  rcases now.daysBefore? c.single.days.toNat with _ | singleCutoff
  · exact .pure
  refine (Removal.single?_alike accesses _ _ _).bind fun single => ?_
  rcases single with e | _ | single
  · simp only
    split_ifs
    · exact (hosts.after.log _).bind fun _ => all _ _ _ _
    · exact .pure
  · exact (hosts.after.log _).bind fun _ => all _ _ _ _
  · exact all _ _ _ _

end Removals

/-! ### Pruning and the cycle of jobs -/

section Jobs

variable {access : LookupAccess σ} {access' : LookupAccess τ}
  (hosts : host.Alike R host') (accesses : access.Alike R access')
include hosts accesses

theorem pruneChunks_alike (guard : Guard) (kind : LookupKind) :
    ∀ (chunks : List (List Int)) (remaining : Nat) (step : StepReport),
      Alike R R (pruneChunks host access guard kind remaining chunks step)
        (pruneChunks host' access' guard kind remaining chunks step)
  | [], _, _ => .pure
  | ids :: rest, remaining, step => by
    rw [pruneChunks, pruneChunks]
    refine (hosts.check guard).bind fun budget => ?_
    rcases budget with _ | reason
    · refine (hosts.log _).bind fun _ => (accesses.deleteUnreferenced _ _).bind fun result => ?_
      rcases result with e | deleted
      · exact (hosts.log _).bind fun _ => .pure
      · exact pruneChunks_alike guard kind rest _ _
    · exact .pure

theorem pruneKind_alike (guard : Guard) (chunkSize : UInt32) (kind : LookupKind) :
    Alike R R (pruneKind host access guard chunkSize kind)
      (pruneKind host' access' guard chunkSize kind) := by
  refine (accesses.unreferencedIds kind).bind fun result => ?_
  rcases result with e | ids
  · exact (hosts.log _).bind fun _ => .pure
  · exact (hosts.log _).bind fun _ => pruneChunks_alike hosts accesses guard kind _ _ _

theorem pruneKinds_alike (guard : Guard) (chunkSize : UInt32) :
    ∀ (kinds : List LookupKind) (report : Report),
      Alike R R (pruneKinds host access guard chunkSize kinds report)
        (pruneKinds host' access' guard chunkSize kinds report)
  | [], _ => .pure
  | kind :: rest, report => by
    rw [pruneKinds, pruneKinds]
    refine (hosts.check guard).bind fun budget => ?_
    rcases budget with _ | reason
    · refine (pruneKind_alike hosts accesses guard chunkSize kind).bind fun out => ?_
      rcases out with ⟨_ | reason, step⟩
      · exact pruneKinds_alike guard chunkSize rest _
      · exact .pure
    · exact .pure

theorem prune_alike (guard : Guard) (chunkSize : UInt32) (report : Report) :
    Alike R R (prune host access guard chunkSize report)
      (prune host' access' guard chunkSize report) :=
  (hosts.log _).bind fun _ => pruneKinds_alike hosts accesses guard chunkSize _ report

namespace JobCycle

theorem finish_alike (c : JobCycle) (guard : Guard) (ended : Budget) (step : StepReport) :
    Alike R R (c.finish host access guard ended step)
      (c.finish host' access' guard ended step) := by
  refine (hosts.log _).bind fun _ => ?_
  rcases ended with _ | reason
  · refine (prune_alike hosts accesses guard _ _).bind fun out => ?_
    rcases out with ⟨_ | reason, report⟩
    · exact hosts.clock.bind fun _ => .pure
    · exact hosts.clock.bind fun _ => (hosts.log _).bind fun _ => .pure
  · simp only [pure_bind]
    exact hosts.clock.bind fun _ => (hosts.log _).bind fun _ => .pure

omit hosts accesses

variable {jobs : JobAccess σ} {jobs' : JobAccess τ} (jobs_alike : jobs.Alike R jobs')
include hosts jobs_alike

theorem deleteChunks_alike (c : JobCycle) (guard : Guard) (cutoff : Instant) :
    ∀ (rounds : Nat) (step : StepReport),
      Alike R R (c.deleteChunks host jobs guard cutoff rounds step)
        (c.deleteChunks host' jobs' guard cutoff rounds step)
  | 0, _ => .pure
  | rounds + 1, step => by
    rw [deleteChunks, deleteChunks]
    refine (hosts.check guard).bind fun budget => ?_
    rcases budget with _ | reason
    · refine (jobs_alike.deleteChunkBefore cutoff _).bind fun result => ?_
      rcases result with e | deleted
      · exact .pure
      refine (hosts.log _).bind fun _ => ?_
      simp only
      split_ifs
      · exact .pure
      · exact (hosts.pause _).bind fun _ => deleteChunks_alike c guard cutoff rounds _
      · exact deleteChunks_alike c guard cutoff rounds _
    · exact .pure

theorem deleteJobs_alike (c : JobCycle) (guard : Guard) (cutoff : Instant) (rounds : Nat) :
    Alike R R (c.deleteJobs host jobs guard cutoff rounds)
      (c.deleteJobs host' jobs' guard cutoff rounds) := by
  refine (jobs_alike.countBefore cutoff).bind fun result => ?_
  rcases result with e | eligible
  · exact .pure
  · exact (hosts.log _).bind fun _ => c.deleteChunks_alike hosts jobs_alike guard cutoff rounds _

omit hosts in
include accesses in
theorem run_alike {R₀ R₁ : σ → τ → Prop} (c : JobCycle) (hosts : host.BeginAlike R₀ R₁ R host')
    (rounds : Nat) :
    Alike R₀ R (c.run host jobs access rounds) (c.run host' jobs' access' rounds) := by
  have finish := c.finish_alike hosts.after accesses
  refine hosts.clock.bind fun started => hosts.now.bind fun now => ?_
  rcases c.policy.cutoff? now with _ | cutoff
  · exact .pure
  refine (hosts.after.log _).bind fun _ => ?_
  refine (c.deleteJobs_alike hosts.after jobs_alike _ cutoff rounds).bind fun out => ?_
  rcases out with ⟨_ | reason | e | _, step⟩
  · exact finish _ _ _
  · exact finish _ _ _
  · simp only
    split_ifs
    · exact (hosts.after.log _).bind fun _ => finish _ _ _
    · exact .pure
  · exact .pure

end JobCycle

end Jobs

theorem Host.BeginAlike.within {R₀ R₁ : σ → τ → Prop} (hosts : host.BeginAlike R₀ R₁ R host')
    (domain : DataDomain) : (host.within domain).BeginAlike R₀ R₁ R (host'.within domain) where
  write := hosts.write
  clock := hosts.clock
  now := hosts.now
  after :=
    { clock := hosts.after.clock, pause := hosts.after.pause, write := hosts.after.write
      span := rfl }

/-- Where hosts and accesses do alike, so does a cycle. -/
theorem Cycler.run_alike {R₀ R₁ : σ → τ → Prop} (c : Cycler) {access : DataAccess σ}
    {access' : DataAccess τ} (hosts : host.BeginAlike R₀ R₁ R host')
    (span : host.span = host'.span) (accesses : access.Alike R access') (rounds : Nat) :
    Alike R₀ R (c.run host access rounds) (c.run host' access' rounds) := by
  have log (event : Event) : Alike R₀ R₀ (host.log event) (host'.log event) := by
    unfold Host.log
    rw [span]
    exact hosts.write _
  refine (log _).bind fun _ => ?_
  cases c with
  | jobs c => exact c.run_alike accesses.lookups accesses.jobs (hosts.within _) rounds
  | performance c => exact c.run_alike accesses.performance (hosts.within _) rounds

end Runs

end Retention.Cycle
