import Retention.Proofs.Calls
import Retention.Proofs.JobCourse
import Retention.Proofs.PerformanceCourse

/-!
# Deletes and the budget

Whatever the world answers and whatever its clock shows, a cycle looks at the clock before each
delete and goes on only if the budget is kept; a look that finds it exceeded is the last thing the
cycle does, and it is what the cycle is aborted for (`Cycler.run_checks_first`).

For a stretch of acts this is `Orderly`, with the overrun that stopped it, if one did. Stretches of
which all but the last were not stopped may be put together (`Orderly.append`), so each course of
the modules before is orderly because its parts are.
-/

namespace Retention.Cycle

open Store (DatabaseError LookupKind)
open Time (Duration Instant)

theorem Guard.check_eq_exceeded {guard : Guard} {reading : Duration} {reason : Overrun}
    (h : guard.check reading = .exceeded reason) :
    guard.maxRuntime = some reason.maxRuntime ∧ reason.maxRuntime < reason.elapsed ∧
      reason.elapsed = guard.elapsed reading := by
  unfold Guard.check at h
  split at h
  · cases h
  · rename_i maxRuntime hmax
    split_ifs at h with overran
    cases h
    exact ⟨hmax, overran, rfl⟩

theorem Guard.check_of_unlimited {guard : Guard} (unlimited : guard.maxRuntime = none)
    (reading : Duration) : guard.check reading = .within := by
  rw [Guard.check, unlimited]

/-- The overrun that stopped it, if one did. -/
def Budget.overrun? : Budget → Option Overrun
  | .within => none
  | .exceeded reason => some reason

def Ending.overrun? : Ending → Option Overrun
  | .exceeded reason => some reason
  | _ => none

def Outcome.overrun? : Outcome → Option Overrun
  | .aborted _ reason => some reason
  | _ => none

theorem Outcome.aborted_of_overrun {outcome : Outcome} {reason : Overrun}
    (h : outcome.overrun? = some reason) : ∃ report, outcome = .aborted report reason := by
  cases outcome with
  | aborted report =>
    cases h
    exact ⟨report, rfl⟩
  | _ => cases h

variable {σ : Type} {guard : Guard} {reading : Duration} {acts : List (Act σ)}

/-- Every look at the clock finds the budget kept. -/
def Kept (guard : Guard) (acts : List (Act σ)) : Prop :=
  ∀ reading, .looked reading ∈ acts → guard.check reading = .within

/-- The last act is a look at the clock that finds the budget exceeded, and no other does. -/
def Tripped (guard : Guard) (reason : Overrun) (acts : List (Act σ)) : Prop :=
  ∃ earlier reading, acts = earlier ++ [.looked reading] ∧ Kept guard earlier ∧
    guard.check reading = .exceeded reason

/-- The budget was found kept, and no delete came since. -/
def Cleared (guard : Guard) (acts : List (Act σ)) : Prop :=
  ∃ first reading between, acts = first ++ .looked reading :: between ∧
    guard.check reading = .within ∧ ∀ act ∈ between, act.deletes = false

theorem Cleared.more (first : List (Act σ)) (h : Cleared guard acts) :
    Cleared guard (first ++ acts) := by
  obtain ⟨earlier, reading, between, rfl, check, reads⟩ := h
  exact ⟨first ++ earlier, reading, between, (List.append_assoc ..).symm, check, reads⟩

theorem Kept.append {acts' : List (Act σ)} (h : Kept guard acts) (h' : Kept guard acts') :
    Kept guard (acts ++ acts') := by
  intro reading hlook
  rcases List.mem_append.1 hlook with hlook | hlook
  · exact h reading hlook
  · exact h' reading hlook

/-- Before each delete the budget was found kept, and it was found exceeded only where that stopped
it all. -/
structure Orderly (guard : Guard) (overrun? : Option Overrun) (acts : List (Act σ)) : Prop where
  cleared : Preceded (fun earlier act => act.deletes → Cleared guard earlier) acts
  kept : overrun? = none → Kept guard acts
  tripped : ∀ reason, overrun? = some reason → Tripped guard reason acts

namespace Orderly

variable {overrun? : Option Overrun}

theorem reads (h : ∀ act ∈ acts, act.deletes = false) (kept : Kept guard acts) :
    Orderly guard none acts where
  cleared := .of_forall fun act hact earlier hdel => by simp [h act hact] at hdel
  kept _ := kept
  tripped := nofun

theorem nil : Orderly guard none ([] : List (Act σ)) := reads (by simp) (by simp [Kept])

theorem look (check : guard.check reading = .within) :
    Orderly guard none ([.looked reading] : List (Act σ)) := by
  refine reads (by simp [Act.deletes]) fun reading' hlook => ?_
  cases List.mem_singleton.1 hlook
  exact check

theorem trip {reason : Overrun} (check : guard.check reading = .exceeded reason) :
    Orderly guard (some reason) ([.looked reading] : List (Act σ)) where
  cleared := .of_forall fun act hact earlier hdel => by
    cases List.mem_singleton.1 hact
    cases hdel
  kept := nofun
  tripped := by
    rintro _ ⟨⟩
    exact ⟨[], reading, rfl, by simp [Kept], check⟩

theorem append {acts' : List (Act σ)} (h : Orderly guard none acts)
    (h' : Orderly guard overrun? acts') : Orderly guard overrun? (acts ++ acts') where
  cleared := h.cleared.append (fun first _ _ cleared hdel => (cleared hdel).more first) h'.cleared
  kept hover := (h.kept rfl).append (h'.kept hover)
  tripped reason hover := by
    obtain ⟨earlier, reading, rfl, kept, check⟩ := h'.tripped reason hover
    exact ⟨acts ++ earlier, reading, (List.append_assoc ..).symm, (h.kept rfl).append kept, check⟩

/-- A look that finds the budget exceeded comes last, and is what stopped it all. -/
theorem exceeded {earlier later : List (Act σ)} {reason : Overrun}
    (h : Orderly guard overrun? (earlier ++ .looked reading :: later))
    (check : guard.check reading = .exceeded reason) : later = [] ∧ overrun? = some reason := by
  have unkept {acts : List (Act σ)} (kept : Kept guard acts) : .looked reading ∉ acts := by
    intro hlook
    rw [kept reading hlook] at check
    cases check
  rcases overrun? with _ | reason'
  · exact absurd (List.mem_append_right _ List.mem_cons_self) (unkept (h.kept rfl))
  obtain ⟨first, last, heq, kept, overran⟩ := h.tripped reason' rfl
  obtain ⟨-, rfl, hlast⟩ := (mem_or_last heq.symm).resolve_left (unkept kept)
  cases hlast
  rw [check] at overran
  cases overran
  exact ⟨rfl, rfl⟩

theorem unstopped (h : Orderly guard overrun? acts) (kept : Kept guard acts) : overrun? = none := by
  rcases overrun? with _ | reason
  · rfl
  · obtain ⟨_, last, rfl, -, check⟩ := h.tripped reason rfl
    rw [kept last (List.mem_append_right _ (List.mem_singleton_self _))] at check
    cases check

/-- A delete after a look, with calls in between that only read. -/
theorem delete (check : guard.check reading = .within) (h : ∀ act ∈ acts, act.deletes = false)
    (kept : Kept guard acts) (q : Request) (before after : σ)
    (answer : Except DatabaseError q.Answer) :
    Orderly guard none (.looked reading :: (acts ++ [.asked q before answer after])) where
  cleared := by
    intro earlier act later heq hdel
    have cut : .looked reading :: acts ++ [.asked q before answer after] =
      earlier ++ act :: later := heq
    rcases mem_or_last cut with hact | ⟨rfl, -, -⟩
    · -- the act stands before the delete, where all acts read
      rcases List.mem_cons.1 hact with rfl | hact
      · cases hdel
      · rw [h act hact] at hdel
        cases hdel
    · exact ⟨[], reading, acts, rfl, check, h⟩
  kept _ := by
    have cut : Kept guard (.looked reading :: acts ++ [.asked q before answer after]) :=
      (((look check).kept rfl).append kept).append (by simp [Kept])
    exact cut
  tripped := nofun

end Orderly

/-! ### Removals -/

theorem Sizing.kept {cutoff : Instant} {nominal : UInt32} {scope : Option Int}
    {result : Except DatabaseError UInt32} (h : Sizing cutoff nominal scope result acts) :
    Kept guard acts := by
  cases h <;> simp [Kept]

namespace Removal

variable {r : Removal}

theorem Glance.kept {answer : Except DatabaseError Bool} (h : r.Glance answer acts) :
    Kept guard acts := by
  cases h <;> simp [Kept]

theorem Attempt.orderly {result : Except DatabaseError (UInt32 × UInt64)}
    (h : r.Attempt result acts) (check : guard.check reading = .within) :
    Orderly guard none (.looked reading :: acts) := by
  cases h with
  | unsized sizing => exact (Orderly.look check).append (.reads sizing.reads sizing.kept)
  | undeleted sizing => exact .delete check sizing.reads sizing.kept _ _ _ _
  | deleted sizing => exact .delete check sizing.reads sizing.kept _ _ _ _

theorem Course.orderly {rounds : Nat} {ending : Ending} (h : r.Course guard rounds ending acts) :
    Orderly guard ending.overrun? acts := by
  induction h with
  | spent => exact .nil
  | tripped check => exact .trip check
  | failed check attempt => exact attempt.orderly check
  | dry check attempt => exact attempt.orderly check
  | full check attempt _ _ _ ih => exact (attempt.orderly check).append ih
  | unknown check attempt _ _ glance =>
    exact (attempt.orderly check).append (.reads glance.reads glance.kept)
  | empty check attempt _ _ glance =>
    exact (attempt.orderly check).append (.reads glance.reads glance.kept)
  | more check attempt _ _ glance _ ih =>
    exact (attempt.orderly check).append
      ((Orderly.reads glance.reads glance.kept).append ih)

end Removal

/-! ### Pruning -/

section Pruning

variable {kind : LookupKind} {chunkSize : UInt32}

theorem ChunksPruned.orderly {chunks : List (List Int)} {step : StepReport}
    {out : Budget × StepReport} (h : ChunksPruned guard kind chunks step out acts) :
    Orderly guard out.1.overrun? acts := by
  induction h with
  | done => exact .nil
  | tripped check => exact .trip check
  | failed check => exact .delete check (List.forall_mem_nil _) (by simp [Kept]) _ _ _ _
  | next check _ ih =>
    exact (Orderly.delete check (List.forall_mem_nil _) (by simp [Kept]) _ _ _ _).append ih

theorem KindPruned.orderly {out : Budget × StepReport}
    (h : KindPruned guard chunkSize kind out acts) : Orderly guard out.1.overrun? acts := by
  cases h with
  | unlisted => exact .reads (by simp [Act.deletes, Request.deletes]) (by simp [Kept])
  | @listed ids b a _ later chunks =>
    have listing : Orderly guard none [.asked (.unreferencedIds kind) b (.ok ids) a] :=
      .reads (by simp [Act.deletes, Request.deletes]) (by simp [Kept])
    exact listing.append chunks.orderly

theorem KindsPruned.orderly {kinds : List LookupKind} {report : Report} {out : Budget × Report}
    (h : KindsPruned guard chunkSize kinds report out acts) :
    Orderly guard out.1.overrun? acts := by
  induction h with
  | done => exact .nil
  | tripped check => exact .trip check
  | exceeded check pruned => exact (Orderly.look check).append pruned.orderly
  | next check pruned _ ih =>
    exact (Orderly.look check).append (pruned.orderly.append ih)

end Pruning

/-! ### Cycles -/

/-- A report is closed with one more look at the clock. -/
def Closes (guard : Guard) (outcome : Outcome) (acts : List (Act σ)) : Prop :=
  match outcome.report? with
  | some report => ∃ reading, acts = [.looked reading] ∧ report.elapsed = guard.elapsed reading
  | none => acts = []

/-- What a cycle does, and how it closes its report. -/
def Conducted (guard : Guard) (outcome : Outcome) (acts : List (Act σ)) : Prop :=
  ∃ body closing, acts = body ++ closing ∧ Closes guard outcome closing ∧
    Orderly guard outcome.overrun? body

theorem Conducted.after {outcome : Outcome} {later : List (Act σ)}
    (h : Conducted guard outcome later) (first : Orderly guard none acts) :
    Conducted guard outcome (acts ++ later) := by
  obtain ⟨body, closing, rfl, closes, orderly⟩ := h
  exact ⟨acts ++ body, closing, (List.append_assoc ..).symm, closes, first.append orderly⟩

theorem Closes.looks {outcome : Outcome} (h : Closes guard outcome acts) :
    ∀ act ∈ acts, ∃ reading, act = .looked reading := by
  unfold Closes at h
  split at h
  · obtain ⟨reading, rfl, -⟩ := h
    exact List.forall_mem_singleton.2 ⟨reading, rfl⟩
  · subst h
    exact List.forall_mem_nil _

theorem Closes.deletions_eq_nil {outcome : Outcome} (h : Closes guard outcome acts) :
    deletions acts = [] := by
  refine Cycle.deletions_eq_nil fun act hact => ?_
  obtain ⟨reading, rfl⟩ := h.looks act hact
  rfl

section Body

variable {outcome : Outcome} {body closing : List (Act σ)}
  (h : Conducted guard outcome (body ++ closing)) (closes : Closes guard outcome closing)
include h closes

theorem Conducted.orderly : Orderly guard outcome.overrun? body := by
  obtain ⟨body', closing', heq, closes', orderly⟩ := h
  have same : closing.length = closing'.length := by
    unfold Closes at closes closes'
    cases hreport : outcome.report? with
    | none =>
      rw [hreport] at closes closes'
      rw [closes, closes']
    | some report =>
      rw [hreport] at closes closes'
      obtain ⟨_, rfl, -⟩ := closes
      obtain ⟨_, rfl, -⟩ := closes'
      rfl
  obtain ⟨rfl, -⟩ := List.append_inj' heq same
  exact orderly

/-- A cycle is aborted for what a look found. -/
theorem Conducted.aborted_iff (reason : Overrun) :
    (∃ report, outcome = .aborted report reason) ↔
      ∃ reading, .looked reading ∈ body ∧ guard.check reading = .exceeded reason := by
  have orderly := h.orderly closes
  constructor
  · rintro ⟨report, rfl⟩
    obtain ⟨earlier, reading, rfl, -, check⟩ := orderly.tripped reason rfl
    exact ⟨reading, List.mem_append_right _ (List.mem_singleton_self _), check⟩
  · rintro ⟨reading, hlook, check⟩
    obtain ⟨earlier, later, rfl⟩ := List.append_of_mem hlook
    exact Outcome.aborted_of_overrun (orderly.exceeded check).2

end Body

namespace JobCycle

variable {c : JobCycle} {cutoff : Instant} {rounds : Nat}

theorem ChunksDeleted.orderly {ending : Ending}
    (h : c.ChunksDeleted guard cutoff rounds ending acts) :
    Orderly guard ending.overrun? acts := by
  have delete {reading : Duration} (check : guard.check reading = .within) :=
    Orderly.delete (σ := σ) check (List.forall_mem_nil _) (by simp [Kept])
  have kept : Kept guard (c.pauses : List (Act σ)) := by
    unfold pauses
    split_ifs <;> simp [Kept]
  induction h with
  | spent => exact .nil
  | tripped check => exact .trip check
  | failed check => exact delete check _ _ _ _
  | last check => exact delete check _ _ _ _
  | full check _ _ ih =>
    exact (delete check _ _ _ _).append ((Orderly.reads c.pauses_read kept).append ih)

theorem JobsDeleted.orderly {out : Ending × StepReport}
    (h : c.JobsDeleted guard cutoff rounds out acts) : Orderly guard out.1.overrun? acts := by
  cases h with
  | uncounted => exact .reads (by simp [Act.deletes, Request.deletes]) (by simp [Kept])
  | @counted eligible b a ending acts chunks =>
    have counting : Orderly guard none [.asked (.countBefore cutoff) b (.ok eligible) a] :=
      .reads (by simp [Act.deletes, Request.deletes]) (by simp [Kept])
    exact counting.append chunks.orderly

theorem Finished.conducted {step : StepReport} {outcome : Outcome}
    (h : c.Finished guard .within step outcome acts) : Conducted guard outcome acts := by
  cases h with
  | tripped pruned => exact ⟨_, _, rfl, ⟨_, rfl, rfl⟩, pruned.orderly⟩
  | pruned pruned => exact ⟨_, _, rfl, ⟨_, rfl, rfl⟩, pruned.orderly⟩

theorem Course.conducted {now : Instant} {outcome : Outcome}
    (h : c.Course now rounds outcome acts) :
    ∃ started later, acts = .looked started :: later ∧
      Conducted ⟨started, c.policy.maxRuntime⟩ outcome later := by
  cases h with
  | outOfRange => exact ⟨_, _, rfl, [], [], rfl, rfl, .nil⟩
  | unfinished _ jobs => exact ⟨_, _, rfl, _, [], (List.append_nil _).symm, rfl, jobs.orderly⟩
  | failed _ jobs => exact ⟨_, _, rfl, _, [], (List.append_nil _).symm, rfl, jobs.orderly⟩
  | deleted _ jobs finish => exact ⟨_, _, rfl, finish.conducted.after jobs.orderly⟩
  | exceeded _ jobs finish =>
    cases finish with
    | unpruned => exact ⟨_, _, rfl, _, _, rfl, ⟨_, rfl, rfl⟩, jobs.orderly⟩
  | passing _ jobs _ finish => exact ⟨_, _, rfl, finish.conducted.after jobs.orderly⟩

end JobCycle

namespace PerformanceCycle

theorem Removals.conducted {rounds : Nat} {removals : List Removal} {report : Report}
    {outcome : Outcome} (h : Removals guard rounds removals report outcome acts) :
    Conducted guard outcome acts := by
  induction h with
  | done => exact ⟨[], _, rfl, ⟨_, rfl, rfl⟩, .nil⟩
  | next course _ ih => exact ih.after course.orderly
  | exceeded course => exact ⟨_, _, rfl, ⟨_, rfl, rfl⟩, course.orderly⟩
  | unfinished course => exact ⟨_, [], (List.append_nil _).symm, rfl, course.orderly⟩
  | failed course => exact ⟨_, [], (List.append_nil _).symm, rfl, course.orderly⟩
  | passing course _ _ ih => exact ih.after course.orderly

theorem Course.conducted {c : PerformanceCycle} {now : Instant} {rounds : Nat} {outcome : Outcome}
    (h : c.Course now rounds outcome acts) :
    ∃ started later, acts = .looked started :: later ∧
      Conducted ⟨started, c.policy.maxRuntime⟩ outcome later := by
  have named {guard : Guard} (name : String) (b a : σ)
      (answer : Except DatabaseError (Option Int)) :
      Orderly guard none [.asked (.repositoryId? name) b answer a] :=
    .reads (by simp [Act.deletes, Request.deletes]) (by simp [Kept])
  cases h with
  | outOfRange => exact ⟨_, _, rfl, [], [], rfl, rfl, .nil⟩
  | resolved _ removals => exact ⟨_, _, rfl, removals.conducted.after (named ..)⟩
  | unknown _ removals => exact ⟨_, _, rfl, removals.conducted.after (named ..)⟩
  | failed => exact ⟨_, _, rfl, _, [], (List.append_nil _).symm, rfl, named ..⟩
  | passing _ _ removals => exact ⟨_, _, rfl, removals.conducted.after (named ..)⟩

end PerformanceCycle

namespace Cycler

theorem run_conducted (world : World σ) (span : Option DataDomain) (c : Cycler) (rounds : Nat) :
    world.Does (c.run (world.host span) world.access rounds) fun outcome acts =>
      ∃ started later, acts = .looked started :: later ∧
        Conducted ⟨started, c.policy.maxRuntime⟩ outcome later := by
  cases c with
  | jobs c =>
    exact .log_bind ((c.run_course world (some .jobs) rounds).mono fun _ _ h => h.conducted)
  | performance c =>
    exact .log_bind ((c.run_course world (some .performance) rounds).mono fun _ _ h => h.conducted)

/-- Whatever the repositories answer and the clock shows, each delete of a cycle comes after a check
that found the budget kept, with no delete in between. Once a check finds it exceeded the cycle does
no more than close its report, and it is aborted for that and for nothing else. A check finds the
budget exceeded only if there is a longest runtime and more has passed. -/
theorem run_checks_first (world : World σ) (span : Option DataDomain) (c : Cycler) (rounds : Nat)
    (state : σ) :
    let out := c.run (world.host span) world.access rounds ⟨state, []⟩
    ∃ started body closing, out.2.acts = .looked started :: (body ++ closing) ∧
      let guard : Guard := ⟨started, c.policy.maxRuntime⟩
      (∀ earlier q before answer after later,
        body = earlier ++ .asked q before answer after :: later → q.deletes →
          ∃ first reading between, earlier = first ++ .looked reading :: between ∧
            guard.check reading = .within ∧ ∀ act ∈ between, act.deletes = false) ∧
      (∀ earlier reading reason later, body = earlier ++ .looked reading :: later →
        guard.check reading = .exceeded reason → later = []) ∧
      (match out.1.report? with
        | some report =>
          ∃ reading, closing = [.looked reading] ∧ report.elapsed = guard.elapsed reading
        | none => closing = []) ∧
      (∀ reason, (∃ report, out.1 = .aborted report reason) ↔
        ∃ reading, .looked reading ∈ body ∧ guard.check reading = .exceeded reason) ∧
      ∀ reading reason, guard.check reading = .exceeded reason →
        c.policy.maxRuntime = some reason.maxRuntime ∧ reason.maxRuntime < reason.elapsed ∧
          reason.elapsed = guard.elapsed reading := by
  intro out
  obtain ⟨acts, ran, started, later, rfl, body, closing, rfl, closes, orderly⟩ :=
    c.run_conducted world span rounds ⟨state, []⟩
  have hacts : out.2.acts = .looked started :: (body ++ closing) := ran.acts_eq
  refine ⟨started, body, closing, hacts, fun earlier q before answer after later heq hdel => ?_,
    fun earlier reading reason later heq check => ?_, closes, fun reason => ⟨?_, ?_⟩,
    fun reading reason check => Guard.check_eq_exceeded check⟩
  · exact orderly.cleared _ _ _ heq hdel
  · rw [heq] at orderly
    exact (orderly.exceeded check).1
  · rintro ⟨report, haborted⟩
    have haborted : (c.run (world.host span) world.access rounds ⟨state, []⟩).1 =
      .aborted report reason := haborted
    rw [haborted] at orderly
    obtain ⟨earlier, reading, rfl, -, check⟩ := orderly.tripped reason rfl
    exact ⟨reading, List.mem_append_right _ (List.mem_singleton_self _), check⟩
  · rintro ⟨reading, hlook, check⟩
    obtain ⟨earlier, later, rfl⟩ := List.append_of_mem hlook
    exact Outcome.aborted_of_overrun (orderly.exceeded check).2

end Cycler

end Retention.Cycle
