import Retention.Proofs.Checks
import Retention.Proofs.Jobs
import Retention.Proofs.Performance

/-!
# Cycles that nothing disturbs

A stretch of acts is smooth if all calls in it were answered and the budget was kept (`Smooth`). A
loop that went smoothly was stopped by nothing, and it does not run out of rounds if there are more
of them than rows that are due; so a cycle that went smoothly completes and tells of no error
(`JobCycle.Course.completes`, `PerformanceCycle.Course.completes`).
-/

namespace Retention.Cycle

open Store (DatabaseError LookupKind)
open Time (Instant)

/-- Completed, and no step tells of an error. -/
def Outcome.Clean (outcome : Outcome) : Prop :=
  ∃ report, outcome = .completed report ∧ report.hasFailures = false

theorem Report.hasFailures_push (report : Report) (step : StepReport) :
    (report.push step).hasFailures = (report.hasFailures || step.error.isSome) := by
  simp [push, hasFailures]

theorem StepReport.error_after {σ : Type} (step : StepReport) (acts : List (Act σ)) :
    (step.after acts).error = step.error := by
  rw [after_eq]

section Smooth

variable {σ : Type} {guard : Guard} {acts acts' : List (Act σ)}

/-- All calls were answered, and the budget was kept. -/
structure Smooth (guard : Guard) (acts : List (Act σ)) : Prop where
  answered : ∀ act ∈ acts, act.Answered
  kept : Kept guard acts

theorem Smooth.mono (h : Smooth guard acts') (sub : acts ⊆ acts') : Smooth guard acts :=
  ⟨fun act hact => h.answered act (sub hact), fun reading hlook => h.kept reading (sub hlook)⟩

theorem Smooth.left (h : Smooth guard (acts ++ acts')) : Smooth guard acts :=
  h.mono (List.subset_append_left _ _)

theorem Smooth.right (h : Smooth guard (acts ++ acts')) : Smooth guard acts' :=
  h.mono (List.subset_append_right _ _)

theorem Smooth.tail {act : Act σ} (h : Smooth guard (act :: acts)) : Smooth guard acts :=
  h.mono (List.subset_cons_self _ _)

theorem Smooth.no_error {q : Request} {before after : σ} {e : DatabaseError}
    (h : Smooth guard acts) : .asked q before (.error e) after ∉ acts :=
  fun hact => Act.not_answered (h.answered _ hact)

theorem Smooth.of_unlimited (unlimited : guard.maxRuntime = none)
    (answered : ∀ act ∈ acts, act.Answered) : Smooth guard acts :=
  ⟨answered, fun _ _ => guard.check_of_unlimited unlimited _⟩

end Smooth

variable {ω : Type} {guard : Guard} {acts : List (Act (Place ω))} {s s' : Store}

/-! ### Removals -/

namespace Removal

variable {r : Removal}

theorem Attempt.not_smooth {σ : Type} {acts : List (Act σ)} {e : DatabaseError}
    (h : r.Attempt (.error e) acts) : ¬ Smooth guard acts := by
  intro smooth
  cases h with
  | unsized sizing =>
    cases sizing with
    | unbounded => exact smooth.no_error List.mem_cons_self
    | uncounted => exact smooth.tail.no_error List.mem_cons_self
  | undeleted => exact smooth.right.no_error (List.mem_singleton_self _)

theorem Glance.not_smooth {σ : Type} {acts : List (Act σ)} {e : DatabaseError}
    (h : r.Glance (.error e) acts) : ¬ Smooth guard acts := by
  intro smooth
  cases h
  exact smooth.no_error (List.mem_singleton_self _)

theorem Course.not_failed {σ : Type} {acts : List (Act σ)} {rounds : Nat} {ending : Ending}
    (h : r.Course guard rounds ending acts) :
    Smooth guard acts → ∀ e, ending ≠ .failed e := by
  induction h with
  | failed _ attempt => exact fun smooth => absurd smooth.tail attempt.not_smooth
  | unknown _ _ _ _ glance => exact fun smooth => absurd smooth.tail.right glance.not_smooth
  | full _ _ _ _ _ ih => exact fun smooth => ih smooth.tail.right
  | more _ _ _ _ _ _ ih => exact fun smooth => ih smooth.tail.right.right
  | _ => exact fun _ => nofun

theorem Course.within {rounds : Nat} {ending : Ending} (h : r.Course guard rounds ending acts)
    (smooth : Smooth guard acts) (pos : 0 < r.chunkSize) (linked : Linked s acts s')
    (enough : s.data.length < rounds) : ending = .within := by
  cases ending with
  | within => rfl
  | exceeded => nomatch h.orderly.unstopped smooth.kept
  | failed e => exact absurd rfl (h.not_failed smooth e)
  | unfinished =>
    have due_le : (s.due r.cutoff r.scope).length ≤ s.data.length := List.length_filter_le _ _
    exact absurd rfl (h.finishes pos linked (Nat.lt_of_le_of_lt due_le enough))

end Removal

namespace PerformanceCycle

/-- If all calls are answered, no limit is reached and there are more rounds than rows, removals add
no error to a report without one. -/
theorem Removals.completes {rounds : Nat} {removals : List Removal} {report : Report}
    {outcome : Outcome} (h : Removals guard rounds removals report outcome acts) :
    Smooth guard acts → (∀ r ∈ removals, 0 < r.chunkSize) → ∀ {s : Store}, Linked s acts s' →
      s.data.length < rounds → report.hasFailures = false → outcome.Clean := by
  induction h with
  | done => exact fun _ _ _ _ _ clean => ⟨_, rfl, clean⟩
  | @next r _ report acts _ _ course _ ih =>
    intro smooth pos s linked enough clean
    obtain ⟨m, first, others⟩ := (linked_append _ _).1 linked
    obtain ⟨pos, later⟩ := List.forall_mem_cons.1 pos
    obtain ⟨gone, rfl, -⟩ := course.lost pos first
    refine ih smooth.right later others ?_ ?_
    -- there are no more rows than before, so the rounds are enough for the rest too
    · rw [Store.data_withoutData]
      exact Nat.lt_of_le_of_lt (List.length_filter_le _ _) enough
    · rw [Report.hasFailures_push, clean, Removal.stepAfter, StepReport.error_after]
      rfl
  | exceeded course =>
    intro smooth pos s linked enough _
    obtain ⟨m, first, -⟩ := (linked_append _ _).1 linked
    nomatch course.within smooth.left (pos _ List.mem_cons_self) first enough
  | unfinished course =>
    intro smooth pos s linked enough _
    nomatch course.within smooth (pos _ List.mem_cons_self) linked enough
  | failed course => exact fun smooth => absurd rfl (course.not_failed smooth _)
  | passing course => exact fun smooth => absurd rfl (course.not_failed smooth.left _)

/-- Without a limit on its time, a cycle whose calls are all answered and whose cutoffs are in the
calendar completes with no error. -/
theorem Course.completes {c : PerformanceCycle} {now cutoff singleCutoff : Instant} {rounds : Nat}
    {outcome : Outcome} (h : c.Course now rounds outcome acts)
    (cutoffs : c.Cutoffs now cutoff singleCutoff) (unlimited : c.policy.maxRuntime = none)
    (answered : ∀ act ∈ acts, act.Answered) (linked : Linked s acts s')
    (enough : s.data.length < rounds) : outcome.Clean := by
  have pos := c.policy.chunkSize_pos
  have smooth (started : Time.Duration) : Smooth ⟨started, c.policy.maxRuntime⟩ acts :=
    .of_unlimited unlimited answered
  cases h with
  | outOfRange out =>
    rw [cutoffs.main, cutoffs.single] at out
    simp at out
  | resolved _ removals =>
    obtain ⟨rfl, sound, later⟩ := linked
    rw [sound.unchanged rfl] at later
    refine removals.completes (smooth _).tail.tail ?_ later enough rfl
    exact List.forall_mem_cons.2 ⟨pos, List.forall_mem_singleton.2 pos⟩
  | unknown _ removals =>
    obtain ⟨rfl, sound, later⟩ := linked
    rw [sound.unchanged rfl] at later
    exact removals.completes (smooth _).tail.tail (List.forall_mem_singleton.2 pos) later enough rfl
  | failed => exact absurd List.mem_cons_self (smooth 0).tail.no_error
  | passing => exact absurd List.mem_cons_self (smooth 0).tail.no_error

end PerformanceCycle

/-! ### Pruning -/

section Pruning

variable {σ : Type} {acts : List (Act σ)} {kind : LookupKind} {chunkSize : UInt32}

theorem ChunksPruned.error_eq {chunks : List (List Int)} {step : StepReport}
    {out : Budget × StepReport} (h : ChunksPruned guard kind chunks step out acts) :
    Smooth guard acts → out.2.error = step.error := by
  induction h with
  | done => exact fun _ => rfl
  | tripped => exact fun _ => rfl
  | failed => exact fun smooth => absurd List.mem_cons_self smooth.tail.no_error
  | next _ _ ih => exact fun smooth => ih smooth.tail.tail

theorem KindPruned.no_error {out : Budget × StepReport}
    (h : KindPruned guard chunkSize kind out acts) (smooth : Smooth guard acts) :
    out.2.error = none := by
  cases h with
  | unlisted => exact absurd List.mem_cons_self smooth.no_error
  | listed chunks => exact chunks.error_eq smooth.tail

theorem KindsPruned.no_failures {kinds : List LookupKind} {report : Report}
    {out : Budget × Report} (h : KindsPruned guard chunkSize kinds report out acts) :
    Smooth guard acts → report.hasFailures = false → out.2.hasFailures = false := by
  induction h with
  | done => exact fun _ clean => clean
  | tripped => exact fun _ clean => clean
  | exceeded _ pruned =>
    intro smooth clean
    rw [Report.hasFailures_push, clean, pruned.no_error smooth.tail]
    rfl
  | next _ pruned _ ih =>
    intro smooth clean
    refine ih smooth.tail.right ?_
    rw [Report.hasFailures_push, clean, pruned.no_error smooth.tail.left]
    rfl

end Pruning

/-! ### The cycle of jobs -/

namespace JobCycle

variable {c : JobCycle} {cutoff : Instant} {rounds : Nat}

theorem ChunksDeleted.not_failed {σ : Type} {acts : List (Act σ)} {ending : Ending}
    (h : c.ChunksDeleted guard cutoff rounds ending acts) :
    Smooth guard acts → ∀ e, ending ≠ .failed e := by
  induction h with
  | failed => exact fun smooth => absurd List.mem_cons_self smooth.tail.no_error
  | full _ _ _ ih => exact fun smooth => ih smooth.tail.tail.right
  | _ => exact fun _ => nofun

theorem JobsDeleted.within {out : Ending × StepReport}
    (h : c.JobsDeleted guard cutoff rounds out acts) (smooth : Smooth guard acts)
    (linked : Linked s acts s') (enough : s.jobRows.length < rounds) :
    out.1 = .within ∧ out.2.error = none := by
  cases h with
  | uncounted => exact absurd List.mem_cons_self smooth.no_error
  | @counted _ b _ ending _ chunks =>
    obtain ⟨rfl, sound, later⟩ := linked
    rw [sound.unchanged rfl] at later
    refine ⟨?_, StepReport.error_after _ _⟩
    cases ending with
    | within => rfl
    | exceeded => nomatch chunks.orderly.unstopped smooth.tail.kept
    | failed e => exact absurd rfl (chunks.not_failed smooth.tail e)
    | unfinished =>
      have due_le : (b.store.dueJobs cutoff).length ≤ b.store.jobRows.length :=
        List.length_filter_le _ _
      exact absurd rfl (chunks.finishes later (Nat.lt_of_le_of_lt due_le enough))

theorem Finished.completes {σ : Type} {acts : List (Act σ)} {step : StepReport} {outcome : Outcome}
    (h : c.Finished guard .within step outcome acts) (smooth : Smooth guard acts)
    (no_error : step.error = none) : outcome.Clean := by
  cases h with
  | tripped pruned => nomatch pruned.orderly.unstopped smooth.left.kept
  | pruned pruned =>
    refine ⟨_, rfl, pruned.no_failures smooth.left ?_⟩
    simp [Report.hasFailures, no_error]

theorem Course.completes {now : Instant} {outcome : Outcome} (h : c.Course now rounds outcome acts)
    (due : c.policy.cutoff? now = some cutoff) (unlimited : c.policy.maxRuntime = none)
    (answered : ∀ act ∈ acts, act.Answered) (linked : Linked s acts s')
    (enough : s.jobRows.length < rounds) : outcome.Clean := by
  have smooth (started : Time.Duration) : Smooth ⟨started, c.policy.maxRuntime⟩ acts :=
    .of_unlimited unlimited answered
  cases h with
  | outOfRange none =>
    rw [due] at none
    cases none
  | unfinished _ jobs => nomatch (jobs.within (smooth _).tail linked enough).1
  | failed _ jobs => nomatch (jobs.within (smooth _).tail linked enough).1
  | deleted _ jobs finish =>
    obtain ⟨m, first, -⟩ := (linked_append _ _).1 linked
    exact finish.completes (smooth _).tail.right (jobs.within (smooth _).tail.left first enough).2
  | exceeded _ jobs =>
    obtain ⟨m, first, -⟩ := (linked_append _ _).1 linked
    nomatch (jobs.within (smooth _).tail.left first enough).1
  | passing _ jobs =>
    obtain ⟨m, first, -⟩ := (linked_append _ _).1 linked
    nomatch (jobs.within (smooth _).tail.left first enough).1

end JobCycle

end Retention.Cycle
