import Mathlib.Tactic.SplitIfs
import Retention.Cycle.Jobs
import Retention.Proofs.PruningCourse

/-!
# The course of the cycle of jobs

The jobs are counted, then deleted in chunks with a look at the clock before each and a pause after
each full one; pruning follows unless the cycle failed or ran out of time. Whatever the world
answers, the acts of a cycle are such a course, and the course tells the outcome
(`JobCycle.run_course`).
-/

namespace Retention.Cycle

open Store (DatabaseError LookupKind)
open Time (Instant)

variable {σ : Type}

namespace JobCycle

def pauses (c : JobCycle) : List (Act σ) := if c.pause ≠ 0 then [.paused c.pause] else []

theorem pauses_read (c : JobCycle) : ∀ act ∈ (c.pauses : List (Act σ)), act.deletes = false := by
  unfold pauses
  split_ifs <;> simp [Act.deletes]

/-- The acts of deleting chunks, of so many at most. -/
inductive ChunksDeleted (c : JobCycle) (guard : Guard) (cutoff : Instant) :
    Nat → Ending → List (Act σ) → Prop
  | spent : ChunksDeleted c guard cutoff 0 .unfinished []
  | tripped {n reading reason} (check : guard.check reading = .exceeded reason) :
    ChunksDeleted c guard cutoff (n + 1) (.exceeded reason) [.looked reading]
  | failed {n reading e b a} (check : guard.check reading = .within) :
    ChunksDeleted c guard cutoff (n + 1) (.failed e) [.looked reading,
      .asked (.deleteChunkBefore cutoff c.policy.chunkSize) b (.error e) a]
  | last {n reading k b a} (check : guard.check reading = .within)
    (few : k < c.policy.chunkSize.toUInt64) :
    ChunksDeleted c guard cutoff (n + 1) .within [.looked reading,
      .asked (.deleteChunkBefore cutoff c.policy.chunkSize) b (.ok k) a]
  | full {n reading k b a ending later} (check : guard.check reading = .within)
    (filled : ¬ k < c.policy.chunkSize.toUInt64)
    (next : ChunksDeleted c guard cutoff n ending later) :
    ChunksDeleted c guard cutoff (n + 1) ending (.looked reading ::
      .asked (.deleteChunkBefore cutoff c.policy.chunkSize) b (.ok k) a :: (c.pauses ++ later))

def jobsStep : StepReport := { name := "jobs" }

inductive JobsDeleted (c : JobCycle) (guard : Guard) (cutoff : Instant) (rounds : Nat) :
    Ending × StepReport → List (Act σ) → Prop
  | uncounted {e b a} :
    JobsDeleted c guard cutoff rounds (.failed e, jobsStep)
      [.asked (.countBefore cutoff) b (.error e) a]
  | counted {eligible b a ending acts} (chunks : c.ChunksDeleted guard cutoff rounds ending acts) :
    JobsDeleted c guard cutoff rounds (ending, jobsStep.after acts)
      (.asked (.countBefore cutoff) b (.ok eligible) a :: acts)

inductive Finished (c : JobCycle) (guard : Guard) :
    Budget → StepReport → Outcome → List (Act σ) → Prop
  | unpruned {reason step reading} :
    Finished c guard (.exceeded reason) step
      (.aborted ⟨.jobs, [step], guard.elapsed reading⟩ reason) [.looked reading]
  | tripped {step reason report acts reading}
    (pruned : KindsPruned guard c.policy.chunkSize LookupKind.all ⟨.jobs, [step], 0⟩
      (.exceeded reason, report) acts) :
    Finished c guard .within step
      (.aborted { report with elapsed := guard.elapsed reading } reason) (acts ++ [.looked reading])
  | pruned {step report acts reading}
    (pruned : KindsPruned guard c.policy.chunkSize LookupKind.all ⟨.jobs, [step], 0⟩
      (.within, report) acts) :
    Finished c guard .within step
      (.completed { report with elapsed := guard.elapsed reading }) (acts ++ [.looked reading])

/-- The acts of a cycle, with its outcome. -/
inductive Course (c : JobCycle) (now : Instant) (rounds : Nat) : Outcome → List (Act σ) → Prop
  | outOfRange {started} (none : c.policy.cutoff? now = none) :
    Course c now rounds .cutoffOutOfRange [.looked started]
  | unfinished {started cutoff step acts} (some : c.policy.cutoff? now = some cutoff)
    (jobs : c.JobsDeleted ⟨started, c.policy.maxRuntime⟩ cutoff rounds (.unfinished, step) acts) :
    Course c now rounds .unfinished (.looked started :: acts)
  | failed {started cutoff step acts e} (some : c.policy.cutoff? now = some cutoff)
    (jobs : c.JobsDeleted ⟨started, c.policy.maxRuntime⟩ cutoff rounds (.failed e, step) acts)
    (lasting : ¬ e.isTransient) :
    Course c now rounds (.failed e) (.looked started :: acts)
  | deleted {started cutoff step acts outcome later} (some : c.policy.cutoff? now = some cutoff)
    (jobs : c.JobsDeleted ⟨started, c.policy.maxRuntime⟩ cutoff rounds (.within, step) acts)
    (finish : c.Finished ⟨started, c.policy.maxRuntime⟩ .within step outcome later) :
    Course c now rounds outcome (.looked started :: (acts ++ later))
  | exceeded {started cutoff reason step acts outcome later}
    (some : c.policy.cutoff? now = some cutoff)
    (jobs : c.JobsDeleted ⟨started, c.policy.maxRuntime⟩ cutoff rounds (.exceeded reason, step)
      acts)
    (finish : c.Finished ⟨started, c.policy.maxRuntime⟩ (.exceeded reason) step outcome later) :
    Course c now rounds outcome (.looked started :: (acts ++ later))
  /-- An error that may pass ended the deletion. -/
  | passing {started cutoff step acts e outcome later} (some : c.policy.cutoff? now = some cutoff)
    (jobs : c.JobsDeleted ⟨started, c.policy.maxRuntime⟩ cutoff rounds (.failed e, step) acts)
    (transient : e.isTransient)
    (finish : c.Finished ⟨started, c.policy.maxRuntime⟩ .within (step.fail e) outcome later) :
    Course c now rounds outcome (.looked started :: (acts ++ later))

section Courses

variable {world : World σ} {span : Option DataDomain} (c : JobCycle)

theorem pauses_bind {β : Type} {f : StateM (Scene σ) β} {Q : β → List (Act σ) → Prop}
    (h : world.Does f fun out acts => Q out (c.pauses ++ acts)) :
    world.Does (if c.pause ≠ 0 then (world.host span).pause c.pause >>= fun _ => f else f) Q := by
  unfold pauses at h
  split_ifs at h ⊢
  · exact .pause_bind h
  · exact h

theorem deleteChunks_course (guard : Guard) (cutoff : Instant) :
    ∀ (rounds : Nat) (step : StepReport),
      world.Does (c.deleteChunks (world.host span) world.access.jobs guard cutoff rounds step)
        fun out acts => c.ChunksDeleted guard cutoff rounds out.1 acts ∧ out.2 = step.after acts
  | 0, step => .pure ⟨.spent, rfl⟩
  | rounds + 1, step => by
    rw [deleteChunks]
    refine .check_bind fun reading => ?_
    rcases hb : guard.check reading with _ | reason
    · refine .ask_bind fun answer b a => ?_
      rcases answer with e | k
      · exact .pure ⟨.failed hb, rfl⟩
      refine .log_bind ?_
      simp only
      by_cases few : k < c.policy.chunkSize.toUInt64
      · rw [if_pos few]
        exact .pure ⟨.last hb few, rfl⟩
      · rw [if_neg few]
        refine c.pauses_bind ((deleteChunks_course guard cutoff rounds _).mono fun _ later h => ?_)
        refine ⟨.full hb few h.1, ?_⟩
        change _ = (step.record k).after (c.pauses ++ later)
        rw [StepReport.after_append, StepReport.after_reads _ c.pauses_read, h.2]
    · exact .pure ⟨.tripped hb, rfl⟩

theorem deleteJobs_course (guard : Guard) (cutoff : Instant) (rounds : Nat) :
    world.Does (c.deleteJobs (world.host span) world.access.jobs guard cutoff rounds)
      (c.JobsDeleted guard cutoff rounds) := by
  unfold deleteJobs
  refine .ask_bind fun answer b a => ?_
  rcases answer with e | eligible
  · exact .pure .uncounted
  · refine .log_bind ((c.deleteChunks_course guard cutoff rounds _).mono fun out acts h => ?_)
    obtain ⟨chunks, hstep⟩ := h
    rcases out with ⟨ending, step⟩
    obtain rfl : step = _ := hstep
    exact .counted chunks

theorem finish_course (guard : Guard) (ended : Budget) (step : StepReport) :
    world.Does (c.finish (world.host span) world.access.lookups guard ended step)
      (c.Finished guard ended step) := by
  unfold finish
  refine .log_bind ?_
  rcases ended with _ | reason
  · refine .bind (prune_course c.policy.chunkSize _) fun out acts pruned => ?_
    rcases out with ⟨_ | reason, report⟩
    · exact .clock_bind fun reading => .pure (.pruned pruned)
    · exact .clock_bind fun reading => .log_bind (.pure (.tripped pruned))
  · simp only [pure_bind]
    exact .clock_bind fun reading => .log_bind (.pure .unpruned)

variable (world span) in
theorem run_course (rounds : Nat) :
    world.Does (c.run (world.host span) world.access.jobs world.access.lookups rounds)
      (c.Course world.now rounds) := by
  unfold run
  refine .clock_bind fun started => .now_bind ?_
  rcases hc : c.policy.cutoff? world.now with _ | cutoff
  · exact .pure (.outOfRange hc)
  refine .log_bind (.bind (c.deleteJobs_course _ cutoff rounds) fun out acts jobs => ?_)
  rcases out with ⟨_ | reason | e | _, step⟩
  · exact (c.finish_course _ _ _).mono fun _ _ finish => .deleted hc jobs finish
  · exact (c.finish_course _ _ _).mono fun _ _ finish => .exceeded hc jobs finish
  · by_cases transient : e.isTransient
    · simp only [transient, if_true]
      exact .log_bind ((c.finish_course _ _ _).mono fun _ _ finish =>
        .passing hc jobs transient finish)
    · simp only [transient]
      refine .pure ?_
      rw [List.append_nil]
      exact .failed hc jobs transient
  · refine .pure ?_
    rw [List.append_nil]
    exact .unfinished hc jobs

end Courses

end JobCycle

end Retention.Cycle
