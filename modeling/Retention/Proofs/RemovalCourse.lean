import Mathlib.Tactic.SplitIfs
import Retention.Proofs.Steps

/-!
# The course of a removal

Each attempt to delete a chunk makes up to three calls (`Removal.Attempt`), and a removal is a
series of attempts, each after a look at the clock, with one more count after an attempt that filled
less than a chunk (`Removal.Course`). Whatever the world answers, the acts of a run are such a
course, and its step counts the deletes in it that were answered with a number
(`Removal.run_course`).
-/

namespace Retention.Cycle

open Store (DatabaseError)
open Time (Instant)

variable {σ : Type}

/-- The limit of a delete, given the number of old rows. -/
def limitFor (nominal : UInt32) (older : UInt64) : UInt32 :=
  if older = 0 then nominal else (min older nominal.toUInt64).toUInt32

/-- The acts of sizing a delete, with the limit that comes out. -/
inductive Sizing (cutoff : Instant) (nominal : UInt32) (scope : Option Int) :
    Except DatabaseError UInt32 → List (Act σ) → Prop
  | unbounded {e b a} :
    Sizing cutoff nominal scope (.error e) [.asked (.maxIdAfter cutoff scope) b (.error e) a]
  | uncounted {e boundary b a b' a'} :
    Sizing cutoff nominal scope (.error e) [.asked (.maxIdAfter cutoff scope) b (.ok boundary) a,
      .asked (.countAtOrBefore cutoff boundary scope nominal) b' (.error e) a']
  | sized {boundary older b a b' a'} :
    Sizing cutoff nominal scope (.ok (limitFor nominal older))
      [.asked (.maxIdAfter cutoff scope) b (.ok boundary) a,
        .asked (.countAtOrBefore cutoff boundary scope nominal) b' (.ok older) a']

theorem Sizing.reads {cutoff : Instant} {nominal : UInt32} {scope : Option Int}
    {result : Except DatabaseError UInt32} {acts : List (Act σ)}
    (h : Sizing cutoff nominal scope result acts) : ∀ act ∈ acts, act.deletes = false := by
  cases h <;> simp [Act.deletes, Request.deletes]

namespace Removal

/-- The acts of an attempt to delete a chunk, with its limit and the number of rows that went. -/
inductive Attempt (r : Removal) : Except DatabaseError (UInt32 × UInt64) → List (Act σ) → Prop
  | unsized {e acts} (sizing : Sizing r.cutoff r.chunkSize r.scope (.error e) acts) :
    Attempt r (.error e) acts
  | undeleted {limit acts e b a} (sizing : Sizing r.cutoff r.chunkSize r.scope (.ok limit) acts) :
    Attempt r (.error e) (acts ++ [.asked (.deleteBefore r.cutoff r.scope limit) b (.error e) a])
  | deleted {limit acts k b a} (sizing : Sizing r.cutoff r.chunkSize r.scope (.ok limit) acts) :
    Attempt r (.ok (limit, k))
      (acts ++ [.asked (.deleteBefore r.cutoff r.scope limit) b (.ok k) a])

/-- The acts of asking whether anything old is left. -/
inductive Glance (r : Removal) : Except DatabaseError Bool → List (Act σ) → Prop
  | failed {e b a} :
    Glance r (.error e) [.asked (.countAtOrBefore r.cutoff none r.scope 1) b (.error e) a]
  | counted {left b a} :
    Glance r (.ok (0 < left)) [.asked (.countAtOrBefore r.cutoff none r.scope 1) b (.ok left) a]

/-- The acts of a removal that may make so many attempts. -/
inductive Course (r : Removal) (guard : Guard) : Nat → Ending → List (Act σ) → Prop
  | spent : Course r guard 0 .unfinished []
  | tripped {n reading reason} (check : guard.check reading = .exceeded reason) :
    Course r guard (n + 1) (.exceeded reason) [.looked reading]
  | failed {n reading e acts} (check : guard.check reading = .within)
    (attempt : r.Attempt (.error e) acts) :
    Course r guard (n + 1) (.failed e) (.looked reading :: acts)
  /-- A chunk was not filled. -/
  | dry {n reading limit deleted acts} (check : guard.check reading = .within)
    (attempt : r.Attempt (.ok (limit, deleted)) acts) (few : deleted < limit.toUInt64) :
    Course r guard (n + 1) .within (.looked reading :: acts)
  /-- A chunk of full size was filled. -/
  | full {n reading limit deleted acts ending later} (check : guard.check reading = .within)
    (attempt : r.Attempt (.ok (limit, deleted)) acts) (filled : ¬ deleted < limit.toUInt64)
    (nominal : r.chunkSize ≤ limit) (next : Course r guard n ending later) :
    Course r guard (n + 1) ending (.looked reading :: (acts ++ later))
  /-- A smaller chunk was filled, and what is left was not told. -/
  | unknown {n reading limit deleted acts e acts'} (check : guard.check reading = .within)
    (attempt : r.Attempt (.ok (limit, deleted)) acts) (filled : ¬ deleted < limit.toUInt64)
    (small : ¬ r.chunkSize ≤ limit) (glance : r.Glance (.error e) acts') :
    Course r guard (n + 1) (.failed e) (.looked reading :: (acts ++ acts'))
  /-- A smaller chunk was filled, and nothing old is left. -/
  | empty {n reading limit deleted acts acts'} (check : guard.check reading = .within)
    (attempt : r.Attempt (.ok (limit, deleted)) acts) (filled : ¬ deleted < limit.toUInt64)
    (small : ¬ r.chunkSize ≤ limit) (glance : r.Glance (.ok false) acts') :
    Course r guard (n + 1) .within (.looked reading :: (acts ++ acts'))
  /-- A smaller chunk was filled, and something old is left. -/
  | more {n reading limit deleted acts acts' ending later}
    (check : guard.check reading = .within) (attempt : r.Attempt (.ok (limit, deleted)) acts)
    (filled : ¬ deleted < limit.toUInt64) (small : ¬ r.chunkSize ≤ limit)
    (glance : r.Glance (.ok true) acts') (next : Course r guard n ending later) :
    Course r guard (n + 1) ending (.looked reading :: (acts ++ (acts' ++ later)))

/-- Acts of a removal are looks at the clock, or acts of an attempt or of a glance. -/
theorem Course.forall_acts {r : Removal} {guard : Guard} {P : Act σ → Prop}
    (look : ∀ reading, P (.looked reading))
    (attempts : ∀ {result acts}, r.Attempt result acts → ∀ act ∈ acts, P act)
    (glances : ∀ {answer acts}, r.Glance answer acts → ∀ act ∈ acts, P act)
    {rounds : Nat} {ending : Ending} {acts : List (Act σ)}
    (h : r.Course guard rounds ending acts) : ∀ act ∈ acts, P act := by
  induction h with
  | spent => exact List.forall_mem_nil _
  | tripped => exact List.forall_mem_singleton.2 (look _)
  | failed _ attempt | dry _ attempt => exact List.forall_mem_cons.2 ⟨look _, attempts attempt⟩
  | full _ attempt _ _ _ ih =>
    exact List.forall_mem_cons.2 ⟨look _, List.forall_mem_append.2 ⟨attempts attempt, ih⟩⟩
  | unknown _ attempt _ _ glance | empty _ attempt _ _ glance =>
    exact List.forall_mem_cons.2
      ⟨look _, List.forall_mem_append.2 ⟨attempts attempt, glances glance⟩⟩
  | more _ attempt _ _ glance _ ih =>
    exact List.forall_mem_cons.2 ⟨look _, List.forall_mem_append.2 ⟨attempts attempt,
      List.forall_mem_append.2 ⟨glances glance, ih⟩⟩⟩

section Deletions

variable {r : Removal} {acts : List (Act σ)}

theorem Attempt.deletions_error {e : DatabaseError} (h : r.Attempt (.error e) acts) :
    deletions acts = [] := by
  cases h with
  | unsized sizing => exact deletions_eq_nil sizing.reads
  | undeleted sizing =>
    rw [deletions_append, deletions_eq_nil sizing.reads]
    rfl

theorem Attempt.deletions_ok {limit : UInt32} {k : UInt64} (h : r.Attempt (.ok (limit, k)) acts) :
    deletions acts = [k] := by
  cases h with
  | deleted sizing =>
    rw [deletions_append, deletions_eq_nil sizing.reads]
    rfl

theorem Glance.reads {answer : Except DatabaseError Bool} (h : r.Glance answer acts) :
    ∀ act ∈ acts, act.deletes = false := by
  cases h <;> simp [Act.deletes, Request.deletes]

theorem Attempt.after_error {e : DatabaseError} (h : r.Attempt (.error e) acts)
    (step : StepReport) : step.after acts = step := by
  rw [StepReport.after, h.deletions_error, List.foldl_nil]

theorem Attempt.after_ok {limit : UInt32} {k : UInt64} (h : r.Attempt (.ok (limit, k)) acts)
    (step : StepReport) : step.after acts = step.record k := by
  rw [StepReport.after, h.deletions_ok, List.foldl_cons, List.foldl_nil]

end Deletions

variable {world : World σ} {span : Option DataDomain}

theorem idealChunkSize_sizing (cutoff : Instant) (nominal : UInt32) (scope : Option Int) :
    world.Does (idealChunkSize (world.host span) world.access.performance cutoff nominal scope)
      (Sizing cutoff nominal scope) := by
  unfold idealChunkSize
  refine .call_ask_bind (fun _ _ _ => .unbounded) fun boundary b a => ?_
  refine .call_ask_bind (fun _ _ _ => .uncounted) fun older b' a' => ?_
  refine .call_log_bind ?_
  have hif : (if older = 0 then pure nominal else pure (min older nominal.toUInt64).toUInt32)
      = (pure (limitFor nominal older) : Call (Scene σ) UInt32) := by
    unfold limitFor
    split_ifs <;> rfl
  rw [hif]
  exact .call_pure .sized

theorem removeSized_attempt (r : Removal) :
    world.Does (r.removeSized (world.host span) world.access.performance) r.Attempt := by
  unfold removeSized
  refine .call_bind (idealChunkSize_sizing _ _ _) (fun e acts h => .unsized h) fun limit _ h => ?_
  refine .call_ask_bind (fun e b a => .undeleted h) fun k b a => ?_
  exact .call_log_bind (.call_pure (.deleted h))

theorem hasRemaining_glance (r : Removal) :
    world.Does (r.hasRemaining world.access.performance) r.Glance := by
  unfold hasRemaining
  exact .call_ask_bind (fun _ _ _ => .failed) fun _ _ _ => .call_pure .counted

variable (world span) in
/-- A removal goes through a course, whatever the world answers, and its step tells of the deletes
in it. The cases are the ways in which a round can end; after the two that go on, the step has been
told of this round already when the next one begins. -/
theorem run_course (r : Removal) (guard : Guard) : ∀ (rounds : Nat) (step : StepReport),
    world.Does (r.run (world.host span) world.access.performance guard rounds step)
      fun out acts => r.Course guard rounds out.1 acts ∧ out.2 = step.after acts
  | 0, step => .pure ⟨.spent, rfl⟩
  | rounds + 1, step => by
    rw [run]
    refine .check_bind fun reading => ?_
    rcases hb : guard.check reading with _ | reason
    · refine .bind (removeSized_attempt r) fun result acts attempt => ?_
      rcases result with e | ⟨limit, deleted⟩
      · refine .pure ?_
        rw [List.append_nil]
        exact ⟨.failed hb attempt, (attempt.after_error step).symm⟩
      simp only
      split_ifs with few nominal
      · refine .pure ?_
        rw [List.append_nil]
        exact ⟨.dry hb attempt few, (attempt.after_ok step).symm⟩
      · refine (run_course r guard rounds _).mono fun out later h => ?_
        refine ⟨.full hb attempt few nominal h.1, ?_⟩
        change _ = step.after (acts ++ later)
        rw [StepReport.after_append, attempt.after_ok, h.2]
      · refine .bind (hasRemaining_glance r) fun answer acts' glance => ?_
        rcases answer with e | _ | _
        · refine .pure ?_
          rw [List.append_nil]
          refine ⟨.unknown hb attempt few nominal glance, ?_⟩
          change _ = step.after (acts ++ acts')
          rw [StepReport.after_append, attempt.after_ok, StepReport.after_reads _ glance.reads]
        · refine .pure ?_
          rw [List.append_nil]
          refine ⟨.empty hb attempt few nominal glance, ?_⟩
          change _ = step.after (acts ++ acts')
          rw [StepReport.after_append, attempt.after_ok, StepReport.after_reads _ glance.reads]
        · refine (run_course r guard rounds _).mono fun out later h => ?_
          refine ⟨.more hb attempt few nominal glance h.1, ?_⟩
          change _ = step.after (acts ++ (acts' ++ later))
          rw [StepReport.after_append, StepReport.after_append, attempt.after_ok,
            StepReport.after_reads _ glance.reads, h.2]
    · exact .pure ⟨.tripped hb, rfl⟩

end Removal

end Retention.Cycle
