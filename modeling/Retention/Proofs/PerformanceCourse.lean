import Retention.Cycle.Performance
import Retention.Proofs.RemovalCourse

/-!
# The course of the cycle of performance data

The repository with a retention of its own is looked up first; then the removals follow one another,
as long as no error that lasts and no lack of time stops them. Whatever the world answers, the acts
of a cycle are such a course, and the course tells the outcome (`PerformanceCycle.run_course`).
-/

namespace Retention.Cycle

open Store (DatabaseError)
open Time (Instant)

variable {σ : Type}

def Removal.stepAfter (r : Removal) (acts : List (Act σ)) : StepReport :=
  ({ name := r.name } : StepReport).after acts

namespace PerformanceCycle

/-- The acts of these removals, with the outcome of the cycle. -/
inductive Removals (guard : Guard) (rounds : Nat) :
    List Removal → Report → Outcome → List (Act σ) → Prop
  | done {report reading} :
    Removals guard rounds [] report
      (.completed { report with elapsed := guard.elapsed reading }) [.looked reading]
  | next {r rest report acts outcome later} (course : r.Course guard rounds .within acts)
    (next : Removals guard rounds rest (report.push (r.stepAfter acts)) outcome later) :
    Removals guard rounds (r :: rest) report outcome (acts ++ later)
  | exceeded {r rest report acts reason reading}
    (course : r.Course guard rounds (.exceeded reason) acts) :
    Removals guard rounds (r :: rest) report
      (.aborted { report.push (r.stepAfter acts) with elapsed := guard.elapsed reading } reason)
      (acts ++ [.looked reading])
  | unfinished {r rest report acts} (course : r.Course guard rounds .unfinished acts) :
    Removals guard rounds (r :: rest) report .unfinished acts
  | failed {r rest report acts e} (course : r.Course guard rounds (.failed e) acts)
    (lasting : ¬ e.isTransient) :
    Removals guard rounds (r :: rest) report (.failed e) acts
  /-- An error that may pass ended the removal. -/
  | passing {r rest report acts e outcome later} (course : r.Course guard rounds (.failed e) acts)
    (transient : e.isTransient)
    (next : Removals guard rounds rest (report.push ((r.stepAfter acts).fail e)) outcome later) :
    Removals guard rounds (r :: rest) report outcome (acts ++ later)

structure Cutoffs (c : PerformanceCycle) (now cutoff singleCutoff : Instant) : Prop where
  main : c.policy.cutoff? now = some cutoff
  single : now.daysBefore? c.single.days.toNat = some singleCutoff

theorem Cutoffs.unique {c : PerformanceCycle} {now cutoff singleCutoff : Instant}
    (h : c.Cutoffs now cutoff singleCutoff) {cutoff' singleCutoff' : Instant}
    (h' : c.Cutoffs now cutoff' singleCutoff') :
    cutoff' = cutoff ∧ singleCutoff' = singleCutoff :=
  ⟨Option.some.inj (h'.main.symm.trans h.main), Option.some.inj (h'.single.symm.trans h.single)⟩

def singleRemoval (c : PerformanceCycle) (cutoff : Instant) (id : Int) : Removal :=
  ⟨.single c.single.repository id, cutoff, c.policy.chunkSize⟩

def blank : Report := { domain := .performance }

/-- The step that tells why the repository could not be looked up. -/
def unresolved (c : PerformanceCycle) (e : DatabaseError) : StepReport :=
  { name := "scoped:" ++ c.single.repository : StepReport }.fail e

/-- The acts of a cycle, with its outcome. -/
inductive Course (c : PerformanceCycle) (now : Instant) (rounds : Nat) :
    Outcome → List (Act σ) → Prop
  | outOfRange {started}
    (none : c.policy.cutoff? now = none ∨ now.daysBefore? c.single.days.toNat = none) :
    Course c now rounds .cutoffOutOfRange [.looked started]
  | resolved {started cutoff singleCutoff id b a outcome later}
    (cutoffs : c.Cutoffs now cutoff singleCutoff)
    (removals : Removals ⟨started, c.policy.maxRuntime⟩ rounds
      [.main cutoff c.policy.chunkSize, c.singleRemoval singleCutoff id] blank outcome later) :
    Course c now rounds outcome (.looked started ::
      .asked (.repositoryId? c.single.repository) b (.ok (some id)) a :: later)
  | unknown {started cutoff singleCutoff b a outcome later}
    (cutoffs : c.Cutoffs now cutoff singleCutoff)
    (removals : Removals ⟨started, c.policy.maxRuntime⟩ rounds
      [.main cutoff c.policy.chunkSize] blank outcome later) :
    Course c now rounds outcome (.looked started ::
      .asked (.repositoryId? c.single.repository) b (.ok none) a :: later)
  | failed {started cutoff singleCutoff b a e} (cutoffs : c.Cutoffs now cutoff singleCutoff)
    (lasting : ¬ e.isTransient) :
    Course c now rounds (.failed e) [.looked started,
      .asked (.repositoryId? c.single.repository) b (.error e) a]
  /-- An error that may pass kept the repository from being looked up. -/
  | passing {started cutoff singleCutoff b a e outcome later}
    (cutoffs : c.Cutoffs now cutoff singleCutoff) (transient : e.isTransient)
    (removals : Removals ⟨started, c.policy.maxRuntime⟩ rounds
      [.main cutoff c.policy.chunkSize] (blank.push (c.unresolved e)) outcome later) :
    Course c now rounds outcome (.looked started ::
      .asked (.repositoryId? c.single.repository) b (.error e) a :: later)

section Courses

variable {world : World σ} {span : Option DataDomain}

/-- The removals are made one after the other, up to one that is stopped or ends with an error that
will not pass. -/
theorem runAll_course (guard : Guard) (rounds : Nat) :
    ∀ (removals : List Removal) (report : Report),
      world.Does (runAll (world.host span) world.access.performance guard rounds removals report)
        (Removals guard rounds removals report)
  | [], report => by
    rw [runAll]
    exact .clock_bind fun reading => .pure .done
  | r :: rest, report => by
    rw [runAll]
    refine .log_bind (.bind (Removal.run_course world span r guard rounds _) fun out acts h => ?_)
    obtain ⟨course, hstep⟩ := h
    rcases out with ⟨ending, step⟩
    obtain rfl : step = r.stepAfter acts := hstep
    refine .log_bind ?_
    rcases ending with _ | reason | e | _
    · exact (runAll_course guard rounds rest _).mono fun _ _ next => .next course next
    · exact .clock_bind fun reading => .log_bind (.pure (.exceeded course))
    · by_cases transient : e.isTransient
      · simp only [transient, if_true]
        exact .log_bind ((runAll_course guard rounds rest _).mono fun _ _ next =>
          .passing course transient next)
      · simp only [transient]
        refine .pure ?_
        rw [List.append_nil]
        exact .failed course transient
    · refine .pure ?_
      rw [List.append_nil]
      exact .unfinished course

theorem single?_does (repository : String) (cutoff : Instant) (chunkSize : UInt32) :
    world.Does (Removal.single? world.access.performance repository cutoff chunkSize)
      fun result acts => ∃ answer b a, acts = [.asked (.repositoryId? repository) b answer a] ∧
        result = answer.map (Option.map fun id => ⟨.single repository id, cutoff, chunkSize⟩) := by
  unfold Removal.single?
  exact .call_ask_bind (fun e b a => ⟨.error e, b, a, rfl, rfl⟩) fun id? b a =>
    .call_pure ⟨.ok id?, b, a, rfl, rfl⟩

variable (world span) in
theorem run_course (c : PerformanceCycle) (rounds : Nat) :
    world.Does (c.run (world.host span) world.access.performance rounds)
      (c.Course world.now rounds) := by
  unfold run
  refine .clock_bind fun started => .now_bind ?_
  rcases hc : c.policy.cutoff? world.now with _ | cutoff
  · exact .pure (.outOfRange (.inl hc))
  rcases hs : world.now.daysBefore? c.single.days.toNat with _ | singleCutoff
  · exact .pure (.outOfRange (.inr hs))
  simp only
  refine .bind (single?_does c.single.repository singleCutoff c.policy.chunkSize)
    fun result acts h => ?_
  obtain ⟨answer, b, a, rfl, rfl⟩ := h
  rcases answer with e | _ | id
  · simp only [Except.map]
    by_cases transient : e.isTransient
    · simp only [transient, if_true]
      exact .log_bind ((runAll_course _ rounds _ _).mono fun _ _ removals =>
        .passing ⟨hc, hs⟩ transient removals)
    · simp only [transient]
      exact .pure (.failed ⟨hc, hs⟩ transient)
  · exact .log_bind ((runAll_course _ rounds _ _).mono fun _ _ removals =>
      .unknown ⟨hc, hs⟩ removals)
  · exact (runAll_course _ rounds _ _).mono fun _ _ removals => .resolved ⟨hc, hs⟩ removals

end Courses

end PerformanceCycle

end Retention.Cycle
