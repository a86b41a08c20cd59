import Retention.Proofs.Statements
import Retention.Proofs.Timestamps

/-!
# Runs after a run

A run that ends of its own accord leaves a store at rest for its cutoff: nothing is due, and no
lookup row is an orphan (`Store.AtRest`, `Store.JobsAtRest`). A store that is at rest for a cutoff
is so for every earlier one, as the texts of instants are ordered as the instants are; rows stamped
exactly at the cutoff may be left, and do not matter. A run at rest makes the one delete by which it
learns that nothing is due (`second_run_finds_nothing`).
-/

namespace Retention

namespace Store

open Time (Instant)

section Data

variable {cutoff cutoff' : Instant} {scope scope' : Option Int} {s : Store}

/-- A removal finds its tables, and nothing that is due. -/
structure AtRest (cutoff : Instant) (scope : Option Int) (s : Store) : Prop where
  there : s.Removable
  none_due : s.due cutoff scope = []

theorem AtRest.earlier (h : s.AtRest cutoff scope) (le : cutoff'.stored ≤ cutoff.stored)
    (narrower : scope = none ∨ scope' = scope) : s.AtRest cutoff' scope' := by
  refine ⟨h.there, List.filter_eq_nil_iff.2 fun row hrow due => ?_⟩
  obtain ⟨before, inside⟩ : row.Eligible cutoff' scope' := of_decide_eq_true due
  have inside : row.InScope scope := by
    rcases narrower with rfl | rfl
    · intro id only
      cases only
    · exact inside
  refine List.filter_eq_nil_iff.1 h.none_due row hrow (decide_eq_true ⟨?_, inside⟩)
  exact String.not_le.1 fun late => String.not_le.2 before (String.le_trans le late)

theorem deleteData_removable {limit : UInt32} {s' : Store} {k : UInt64}
    (h : deleteData cutoff scope limit s = .ok (k, s')) : s.Removable := by
  unfold deleteData at h
  rcases hd : s.performanceDatum with _ | data <;> rw [hd] at h
  · cases h
  rcases hr : s.repository with _ | repositories
  · simp [need, needParents, present, hr, bind, Except.bind] at h
  · exact ⟨by simp [present, hd], by simp [present, hr]⟩

end Data

section Jobs

variable {cutoff cutoff' : Instant} {s : Store}

/-- A cycle of jobs finds its tables, no job that is due and no orphan. -/
structure JobsAtRest (cutoff : Instant) (s : Store) : Prop where
  jobs : s.job ≠ none
  lookups (kind : LookupKind) : s.lookups kind ≠ none
  none_due : s.dueJobs cutoff = []
  no_orphans (kind : LookupKind) : s.orphans kind = []

theorem JobsAtRest.earlier (h : s.JobsAtRest cutoff) (le : cutoff'.stored ≤ cutoff.stored) :
    s.JobsAtRest cutoff' := by
  refine ⟨h.jobs, h.lookups, List.filter_eq_nil_iff.2 fun row hrow due => ?_, h.no_orphans⟩
  have before : row.submitted < cutoff'.stored := of_decide_eq_true due
  refine List.filter_eq_nil_iff.1 h.none_due row hrow (decide_eq_true ?_)
  exact String.not_le.1 fun late => String.not_le.2 before (String.le_trans le late)

theorem JobsAtRest.deleteJobChunk_eq (h : s.JobsAtRest cutoff) (size : UInt32) :
    deleteJobChunk cutoff size s = .ok (0, s) := by
  obtain ⟨t, present⟩ := Option.ne_none_iff_exists'.1 h.jobs
  have empty : jobChunk t cutoff size = [] := by
    rw [jobChunk_eq present, h.none_due, List.take_nil, List.map_nil]
  simp [deleteJobChunk, present, empty, need, bind, Except.bind, pure, Except.pure]

theorem countJobsBefore_answered (h : s.job ≠ none) (cutoff : Instant) :
    ∃ k, s.countJobsBefore cutoff = .ok k := by
  obtain ⟨t, present⟩ := Option.ne_none_iff_exists'.1 h
  rw [countJobsBefore, present]
  exact ⟨_, rfl⟩

theorem JobsAtRest.unreferencedIds_eq (h : s.JobsAtRest cutoff) (kind : LookupKind) :
    s.unreferencedIds kind = .ok [] := by
  obtain ⟨t, table⟩ := Option.ne_none_iff_exists'.1 (h.lookups kind)
  obtain ⟨jobs, present⟩ := Option.ne_none_iff_exists'.1 h.jobs
  have answered : ∃ ids, s.unreferencedIds kind = .ok ids := by
    rw [unreferencedIds, table, present]
    exact ⟨_, rfl⟩
  obtain ⟨ids, listed⟩ := answered
  rw [listed, unreferencedIds_ok listed, h.no_orphans]

theorem unreferencedIds_present {kind : LookupKind} {ids : List Int}
    (h : s.unreferencedIds kind = .ok ids) : s.lookups kind ≠ none := by
  intro none
  rw [unreferencedIds, none] at h
  cases h

theorem orphans_withoutOrphans (kind : LookupKind) : (s.withoutOrphans kind).orphans kind = [] := by
  rw [withoutOrphans, orphans, lookupRows_withoutLookups, references_withoutLookups]
  refine List.filter_eq_nil_iff.2 fun id hid unused => ?_
  obtain ⟨row, hrow, rfl⟩ := List.mem_map.1 hid
  obtain ⟨hrow, stays⟩ := List.mem_filter.1 hrow
  exact of_decide_eq_true stays (List.mem_filter.2 ⟨List.mem_map_of_mem hrow, unused⟩)

theorem orphans_pruned (kind : LookupKind) (kinds : List LookupKind) (s : Store) :
    (s.pruned kinds).orphans kind = if kind ∈ kinds then [] else s.orphans kind := by
  induction kinds generalizing s with
  | nil => rfl
  | cons first rest ih =>
    refine (ih (s.withoutOrphans first)).trans ?_
    by_cases same : kind = first
    · simp [same, orphans_withoutOrphans]
    · simp [same, orphans_withoutOrphans_of_ne first s same]

theorem job_pruned (kinds : List LookupKind) (s : Store) : (s.pruned kinds).job = s.job := by
  induction kinds generalizing s with
  | nil => rfl
  | cons kind rest ih => exact (ih (s.withoutOrphans kind)).trans (job_setLookups ..)

theorem shrinks_pruned (kinds : List LookupKind) (s : Store) : s.Shrinks (s.pruned kinds) := by
  induction kinds generalizing s with
  | nil => exact .refl s
  | cons kind rest ih => exact (s.shrinks_withoutLookups kind _).trans (ih (s.withoutOrphans kind))

theorem Shrinks.lookups_ne_none {s s' : Store} (h : s.Shrinks s') {kind : LookupKind} :
    s'.lookups kind ≠ none ↔ s.lookups kind ≠ none := by
  rw [← Option.isSome_iff_ne_none, ← Option.isSome_iff_ne_none, (h.lookups kind).isSome_eq]

end Jobs

end Store

namespace Cycle

open Store (DatabaseError LookupKind)
open Time (Instant)

variable {ω : Type} {acts : List (Act (Place ω))} {s s' : Store} {guard : Guard}

/-! ### Removals -/

namespace Removal

variable {r : Removal}

theorem Attempt.removable {limit : UInt32} {k : UInt64} (h : r.Attempt (.ok (limit, k)) acts)
    (linked : Linked s acts s') : s'.Removable := by
  cases h with
  | deleted sizing =>
    obtain ⟨m, -, rfl, sound, rfl⟩ := (linked_append _ _).1 linked
    rw [(delete_thins sound).2]
    exact (Store.deleteData_removable (ofStatement_ok sound)).thinned _ _ _

theorem Course.removable {rounds : Nat} {ending : Ending} (h : r.Course guard rounds ending acts) :
    ∀ {s : Store}, Linked s acts s' → ending = .within → s'.Removable := by
  induction h with
  | dry _ attempt => exact fun linked _ => attempt.removable linked
  | full _ _ _ _ _ ih =>
    intro s linked within
    obtain ⟨m, -, later⟩ := (linked_append _ _).1 linked
    exact ih later within
  | empty _ attempt _ _ glance =>
    intro s linked _
    obtain ⟨m, first, later⟩ := (linked_append _ _).1 linked
    rw [(glance.linked later).1]
    exact attempt.removable first
  | more _ _ _ _ _ _ ih =>
    intro s linked within
    obtain ⟨m, -, others⟩ := (linked_append _ _).1 linked
    obtain ⟨m', -, later⟩ := (linked_append _ _).1 others
    exact ih later within
  | _ => exact fun _ => nofun

/-- A removal that ends of its own accord leaves the data at rest. -/
theorem Course.at_rest {rounds : Nat} (h : r.Course guard rounds .within acts)
    (pos : 0 < r.chunkSize) (linked : Linked s acts s') : s'.AtRest r.cutoff r.scope :=
  ⟨h.removable linked rfl, h.dry_within pos linked⟩

/-- At rest, one delete is made, and it takes nothing. -/
theorem Course.idle {rounds : Nat} {ending : Ending} (h : r.Course guard rounds ending acts)
    (pos : 0 < r.chunkSize) (unlimited : guard.maxRuntime = none) (some_round : 0 < rounds)
    (executed : Executed s acts s') (rest : s.AtRest r.cutoff r.scope) (step : StepReport) :
    ending = .within ∧ acts.countP Act.deletes = 1 ∧ step.after acts = step.record 0 ∧ s' = s := by
  have due : (s.extent r.cutoff r.scope).due = 0 := List.length_eq_zero_iff.2 rest.none_due
  obtain ⟨within, counts⟩ := h.counts pos unlimited executed rest.there (due ▸ some_round)
  rw [Extent.deletes_dry (N := r.chunkSize.toNat) pos (due ▸ Extent.limit_pos pos)] at counts
  obtain ⟨d, thins⟩ := h.thins pos executed.linked
  have none : d = 0 := by
    have := thins.le
    rw [rest.none_due] at this
    exact Nat.le_zero.1 this
  refine ⟨within, counts.deletes, ?_, ?_⟩
  · rw [StepReport.after_eq, counts.answered, thins.rows, none]
    rfl
  · rw [thins.store, none, Store.thinned_zero]

end Removal

/-! ### Cycles of jobs -/

section Pruning

variable {kind : LookupKind} {size : UInt32}

theorem KindPruned.idle {out : Budget × StepReport} (h : KindPruned guard size kind out acts)
    (executed : Executed s acts s') (listed : s.unreferencedIds kind = .ok []) :
    out = (.within, pruneStep kind) ∧ (∀ act ∈ acts, act.deletes = false) ∧ s' = s := by
  have answered : (Request.unreferencedIds kind).perform s = (.ok [], s) :=
    congrArg (Prod.mk · s) listed
  cases h with
  | unlisted => nomatch (executed.answer answered).1
  | listed chunks =>
    obtain ⟨same, later⟩ := executed.answer answered
    cases same
    cases chunks with
    | done => exact ⟨rfl, List.forall_mem_singleton.2 rfl, later.linked⟩

theorem KindsPruned.idle {kinds : List LookupKind} {report : Report} {out : Budget × Report}
    (h : KindsPruned guard size kinds report out acts) (unlimited : guard.maxRuntime = none) :
    ∀ {s : Store}, Executed s acts s' → (∀ kind, s.unreferencedIds kind = .ok []) →
      out.1 = .within ∧ out.2.steps = report.steps ++ kinds.map pruneStep ∧
        (∀ act ∈ acts, act.deletes = false) ∧ s' = s := by
  induction h with
  | done => exact fun executed _ => ⟨rfl, (List.append_nil _).symm, by simp, executed.linked⟩
  | tripped check => nomatch (guard.check_of_unlimited unlimited _).symm.trans check
  | exceeded _ pruned =>
    intro s executed listed
    cases congrArg Prod.fst (pruned.idle executed.look (listed _)).1
  | @next kind _ _ _ step _ _ _ _ pruned _ ih =>
    intro s executed listed
    obtain ⟨m, first, others⟩ := executed.look.split
    obtain ⟨told, reads, rfl⟩ := pruned.idle first (listed _)
    obtain rfl : step = pruneStep kind := congrArg Prod.snd told
    obtain ⟨within, steps, later, same⟩ := ih others listed
    refine ⟨within, ?_, ?_, same⟩
    · rw [steps, Report.push, List.append_assoc, List.singleton_append, List.map_cons]
    · exact List.forall_mem_cons.2 ⟨rfl, List.forall_mem_append.2 ⟨reads, later⟩⟩

theorem KindPruned.present {out : Budget × StepReport} (h : KindPruned guard size kind out acts)
    (linked : Linked s acts s') (no_error : out.2.error = none) : s.lookups kind ≠ none := by
  cases h with
  | unlisted => cases no_error
  | listed =>
    obtain ⟨rfl, sound, -⟩ := linked
    exact Store.unreferencedIds_present (ofQuery_ok (f := fun s => s.unreferencedIds kind) sound).1

theorem KindsPruned.present {kinds : List LookupKind} {report : Report} {out : Budget × Report}
    (h : KindsPruned guard size kinds report out acts) :
    ∀ {s : Store}, Linked s acts s' → out.1 = .within → out.2.hasFailures = false →
      ∀ kind ∈ kinds, s.lookups kind ≠ none := by
  induction h with
  | done => exact fun _ _ _ => nofun
  | tripped => exact fun _ => nofun
  | exceeded => exact fun _ => nofun
  | @next kind _ report _ step _ _ _ _ pruned next ih =>
    intro s linked within clean
    obtain ⟨m, first, others⟩ := (linked_append _ _).1 linked
    have no_error : step.error = none :=
      Report.no_error clean (next.keeps.subset (report.mem_push step))
    obtain ⟨rfl, -⟩ := pruned.takes first rfl no_error
    refine List.forall_mem_cons.2 ⟨pruned.present first no_error, fun kind' hkind' => ?_⟩
    exact (s.shrinks_withoutLookups kind _).lookups_ne_none.1 (ih others within clean kind' hkind')

end Pruning

namespace JobCycle

variable {c : JobCycle} {cutoff : Instant} {rounds : Nat}

/-- A cycle that completes and tells of no error leaves the store at rest. -/
theorem Course.at_rest {now : Instant} {report : Report}
    (h : c.Course now rounds (.completed report) acts) (clean : report.hasFailures = false)
    (linked : Linked s acts s') (due : c.policy.cutoff? now = some cutoff) :
    s'.JobsAtRest cutoff := by
  obtain ⟨started, _, counted, b, a, deleted, later, same, chunks, finish, rfl⟩ := h.completed clean
  cases due.symm.trans same
  obtain ⟨pruned, before, reading, kinds, rfl, steps⟩ := finish.completed
  obtain ⟨rfl, sound, others⟩ := linked
  obtain ⟨hcount, ha⟩ := ofQuery_ok (f := fun s => s.countJobsBefore cutoff) sound
  have jobs := (Store.countJobsBefore_ok hcount).1
  rw [ha] at others
  obtain ⟨m, first, rest⟩ := (linked_append _ _).1 others
  obtain ⟨m', second, rfl⟩ := (linked_append _ _).1 rest
  obtain ⟨d, -, left, -, all_gone, -⟩ := chunks.thins first
  have clean : pruned.hasFailures = false := by
    rw [← clean, Report.hasFailures, Report.hasFailures, steps]
  obtain ⟨rfl, -⟩ := kinds.takes (by decide) second rfl clean
  have listed (kind : LookupKind) : kind ∈ LookupKind.all := by cases kind <;> decide
  have same_jobs := m.job_pruned LookupKind.all
  refine ⟨?_, fun kind => ?_, ?_, fun kind => ?_⟩
  · rw [same_jobs, left]
    exact fun none => jobs (Option.map_eq_none_iff.1 none)
  · exact (m.shrinks_pruned _).lookups_ne_none.2 (kinds.present second rfl clean kind (listed kind))
  · rw [Store.dueJobs, Store.jobRows, same_jobs]
    change m.dueJobs cutoff = []
    rw [left, Store.dueJobs_jobsThinned, all_gone rfl, List.drop_length]
  · rw [Store.orphans_pruned, if_pos (listed kind)]

theorem ChunksDeleted.idle {ending : Ending} (h : c.ChunksDeleted guard cutoff rounds ending acts)
    (unlimited : guard.maxRuntime = none) (some_round : 0 < rounds)
    (executed : Executed s acts s') (rest : s.JobsAtRest cutoff) :
    ending = .within ∧ acts.countP Act.deletes = 1 ∧ jobsStep.after acts = jobsStep.record 0 ∧
      s' = s := by
  have answered : (Request.deleteChunkBefore cutoff c.policy.chunkSize).perform s = (.ok 0, s) := by
    change ofStatement _ s = _
    rw [ofStatement, rest.deleteJobChunk_eq]
  cases h with
  | spent => exact absurd some_round (Nat.lt_irrefl 0)
  | tripped check => cases (guard.check_of_unlimited unlimited _).symm.trans check
  | failed => cases (executed.look.answer answered).1
  | last =>
    obtain ⟨same, later⟩ := executed.look.answer answered
    cases same
    exact ⟨rfl, rfl, rfl, later.linked⟩
  | full _ filled =>
    cases (executed.look.answer answered).1
    have pos : (0 : UInt64).toNat < c.policy.chunkSize.toNat := c.policy.chunkSize_pos
    exact absurd (Store.lt_toUInt64_iff.2 pos) filled

theorem JobsDeleted.idle {out : Ending × StepReport}
    (h : c.JobsDeleted guard cutoff rounds out acts) (unlimited : guard.maxRuntime = none)
    (some_round : 0 < rounds) (executed : Executed s acts s') (rest : s.JobsAtRest cutoff) :
    out = (.within, jobsStep.record 0) ∧ acts.countP Act.deletes = 1 ∧ s' = s := by
  obtain ⟨k, counted⟩ := Store.countJobsBefore_answered rest.jobs cutoff
  have answered : (Request.countBefore cutoff).perform s = (.ok k, s) :=
    congrArg (Prod.mk · s) counted
  cases h with
  | uncounted => nomatch (executed.answer answered).1
  | counted chunks =>
    obtain ⟨-, later⟩ := executed.answer answered
    obtain ⟨rfl, deletes, step, same⟩ := chunks.idle unlimited some_round later rest
    exact ⟨Prod.ext rfl step, deletes, same⟩

theorem Finished.idle {step : StepReport} {outcome : Outcome}
    (h : c.Finished guard .within step outcome acts) (unlimited : guard.maxRuntime = none)
    (executed : Executed s acts s') (listed : ∀ kind, s.unreferencedIds kind = .ok []) :
    ∃ report, outcome = .completed report ∧
      report.steps = step :: LookupKind.all.map pruneStep ∧
      (∀ act ∈ acts, act.deletes = false) ∧ s' = s := by
  cases h with
  | tripped pruned =>
    obtain ⟨m, first, -⟩ := executed.split
    nomatch (pruned.idle unlimited first listed).1
  | pruned pruned =>
    obtain ⟨m, first, nothing⟩ := executed.split
    obtain ⟨-, steps, reads, same⟩ := pruned.idle unlimited first listed
    exact ⟨_, rfl, steps, List.forall_mem_append.2 ⟨reads, List.forall_mem_singleton.2 rfl⟩,
      nothing.look.linked.trans same⟩

/-- At rest, one chunk is deleted, it is empty, and nothing is pruned. -/
theorem Course.idle {now : Instant} {outcome : Outcome} (h : c.Course now rounds outcome acts)
    (due : c.policy.cutoff? now = some cutoff) (unlimited : c.policy.maxRuntime = none)
    (some_round : 0 < rounds) (executed : Executed s acts s') (rest : s.JobsAtRest cutoff) :
    ∃ report, outcome = .completed report ∧
      report.steps = jobsStep.record 0 :: LookupKind.all.map pruneStep ∧
      acts.countP Act.deletes = 1 ∧ s' = s := by
  obtain ⟨started, step, m, first, later, rfl, ⟨rfl, deletes, rfl⟩, executed', finish⟩ :=
    h.goes_on (P := fun step acts m =>
        step = jobsStep.record 0 ∧ acts.countP Act.deletes = 1 ∧ m = s) due executed
      fun jobs first => by
        obtain ⟨rfl, deletes, same⟩ := jobs.idle unlimited some_round first rest
        exact ⟨rfl, rfl, deletes, same⟩
  obtain ⟨report, completed, steps, reads, same⟩ :=
    finish.idle unlimited executed' rest.unreferencedIds_eq
  refine ⟨report, completed, steps, ?_, same⟩
  rw [countP_deletes_looked, List.countP_append, deletes, countP_deletes_eq_zero reads]

theorem totalDeleted_idle {report : Report}
    (steps : report.steps = jobsStep.record 0 :: LookupKind.all.map pruneStep) :
    report.totalDeleted = 0 := by
  simp [Report.totalDeleted, steps, LookupKind.all, pruneStep, StepReport.record, jobsStep]

end JobCycle

/-- After a run, with the same or an earlier cutoff in the years 0 to 9999, time without end and no
fault. Where a removal has ended of its own accord, another one whose scope is not wider makes one
delete, which takes nothing, whatever their chunks and whatever is stamped at the cutoff. Where a
cycle of jobs has completed without error, another one takes one empty chunk of jobs and prunes
nothing. Neither changes the store. -/
theorem second_run_finds_nothing {ω ω' : Type} (around : Surroundings ω)
    (around' : Surroundings ω') (faultless : ∀ q state, (around'.fault q state).1 = none)
    (span span' : Option DataDomain) (state : ω) (state' : ω') (s : Store)
    {cutoff cutoff' : Instant} (start : 0 ≤ cutoff.date.year) (finish : cutoff.date.year ≤ 9999)
    (earlier : ¬ cutoff.Before cutoff') :
    let world := World.alone around
    let world' := World.alone around'
    (∀ (r r' : Removal) (guard guard' : Guard) (rounds rounds' : Nat) (step step' : StepReport),
      r.cutoff = cutoff → r'.cutoff = cutoff' → 0 < r.chunkSize → 0 < r'.chunkSize →
      (r.scope = none ∨ r'.scope = r.scope) → guard'.maxRuntime = none → 0 < rounds' →
      let out := r.run (world.host span) world.access.performance guard rounds step ⟨⟨state, s⟩, []⟩
      let left := out.2.state.store
      out.1.1 = .within →
        let out' := r'.run (world'.host span') world'.access.performance guard' rounds' step'
          ⟨⟨state', left⟩, []⟩
        out'.1 = (.within, step'.record 0) ∧ out'.2.acts.countP Act.deletes = 1 ∧
          out'.2.state.store = left) ∧
      ∀ (c c' : JobCycle) (rounds rounds' : Nat), c.policy.cutoff? around.now = some cutoff →
        c'.policy.cutoff? around'.now = some cutoff' → c'.policy.maxRuntime = none →
        0 < rounds' →
        let out := c.run (world.host span) world.access.jobs world.access.lookups rounds
          ⟨⟨state, s⟩, []⟩
        let left := out.2.state.store
        ∀ report, out.1 = .completed report → report.hasFailures = false →
          let out' := c'.run (world'.host span') world'.access.jobs world'.access.lookups rounds'
            ⟨⟨state', left⟩, []⟩
          ∃ report', out'.1 = .completed report' ∧ report'.totalDeleted = 0 ∧
            report'.steps = JobCycle.jobsStep.record 0 :: LookupKind.all.map pruneStep ∧
            out'.2.acts.countP Act.deletes = 1 ∧ out'.2.state.store = left := by
  intro world world'
  have le : cutoff'.stored ≤ cutoff.stored := Instant.stored_le earlier start finish
  constructor
  · rintro r r' guard guard' rounds rounds' step step' rfl rfl pos pos' narrower unlimited
      some_round out left within out'
    obtain ⟨acts, ran, course, -⟩ :=
      Removal.run_course world span r guard rounds step ⟨⟨state, s⟩, []⟩
    rw [show (r.run (world.host span) world.access.performance guard rounds step
      ⟨⟨state, s⟩, []⟩).1.1 = .within from within] at course
    have rest : left.AtRest r'.cutoff r'.scope :=
      (course.at_rest pos ran.linked).earlier le narrower
    obtain ⟨acts', ran', course', told⟩ :=
      Removal.run_course world' span' r' guard' rounds' step' ⟨⟨state', left⟩, []⟩
    have hacts : out'.2.acts = acts' := ran'.acts_eq
    obtain ⟨within', deletes, empty, same⟩ :=
      course'.idle pos' unlimited some_round (ran'.executed faultless) rest step'
    rw [hacts]
    exact ⟨Prod.ext within' (told.trans empty), deletes, same⟩
  · intro c c' rounds rounds' due due' unlimited some_round out left report completed clean out'
    obtain ⟨acts, ran, course⟩ := JobCycle.run_course world span c rounds ⟨⟨state, s⟩, []⟩
    rw [show (c.run (world.host span) world.access.jobs world.access.lookups rounds
      ⟨⟨state, s⟩, []⟩).1 = _ from completed] at course
    have rest : left.JobsAtRest cutoff' := (course.at_rest clean ran.linked due).earlier le
    obtain ⟨acts', ran', course'⟩ :=
      JobCycle.run_course world' span' c' rounds' ⟨⟨state', left⟩, []⟩
    have hacts : out'.2.acts = acts' := ran'.acts_eq
    obtain ⟨report', completed', steps, deletes, same⟩ :=
      course'.idle due' unlimited some_round (ran'.executed faultless) rest
    rw [hacts]
    exact ⟨report', completed', JobCycle.totalDeleted_idle steps, steps, deletes, same⟩

/-- Old rows and jobs go with the first run, rows stamped at its cutoff stay, and runs with the
cutoff a second earlier find nothing. -/
theorem second_run_finds_nothing_a_second_earlier :
    let seeds : List Store.Seed := [.repository "main" none, .data "1969" 1 3 none,
      .data "1970-01-01T00:00:00+00:00" 1 2 none, .data "1971" 1 1 none, .ownJobs "1969" 3,
      .ownJobs "1971" 1]
    let s := Store.Seed.sowAll .empty seeds
    let cutoff : Instant := ⟨0, 0, by decide⟩
    let cutoff' : Instant := ⟨-1, 0, by decide⟩
    let around := Surroundings.still ⟨86400, 0, by decide⟩
    let around' := Surroundings.still ⟨86399, 0, by decide⟩
    let world := World.alone around
    let world' := World.alone around'
    let r := Removal.main cutoff 2
    let r' := Removal.main cutoff' 7
    let out := r.run (world.host none) world.access.performance ⟨0, none⟩ 9 ⟨"main", 0, 0, none⟩
      ⟨⟨(), s⟩, []⟩
    let out' := r'.run (world'.host none) world'.access.performance ⟨0, none⟩ 1
      ⟨"again", 0, 0, none⟩ ⟨⟨(), out.2.state.store⟩, []⟩
    let c : JobCycle := ⟨⟨1, 2, none, by decide⟩, 0⟩
    let c' : JobCycle := ⟨⟨1, 7, none, by decide⟩, 0⟩
    let cycled := c.run (world.host none) world.access.jobs world.access.lookups 9 ⟨⟨(), s⟩, []⟩
    let cycled' := c'.run (world'.host none) world'.access.jobs world'.access.lookups 1
      ⟨⟨(), cycled.2.state.store⟩, []⟩
    let report : Report := ⟨.jobs, [⟨"jobs", 3, 2, none⟩, ⟨"prune:job_type", 3, 2, none⟩,
      ⟨"prune:job_group", 3, 2, none⟩, ⟨"prune:machine", 3, 2, none⟩], 0⟩
    0 ≤ cutoff.date.year ∧ cutoff.date.year ≤ 9999 ∧ ¬ cutoff.Before cutoff' ∧
      out.1.1 = .within ∧ (out.2.state.store.level cutoff none).length = 2 ∧
      out'.1 = (.within, ⟨"again", 0, 1, none⟩) ∧ out'.2.acts.countP Act.deletes = 1 ∧
      out'.2.state.store = out.2.state.store ∧
      cycled.1 = .completed report ∧
      ∃ report', cycled'.1 = .completed report' ∧ report'.totalDeleted = 0 ∧
        cycled'.2.acts.countP Act.deletes = 1 ∧ cycled'.2.state.store = cycled.2.state.store := by
  intro seeds s cutoff cutoff' around around' world world' r r' out out' c c' cycled cycled' report
  have start : 0 ≤ cutoff.date.year := by decide +kernel
  have finish : cutoff.date.year ≤ 9999 := by decide +kernel
  have earlier : ¬ cutoff.Before cutoff' := by decide +kernel
  have within : out.1.1 = .within := by decide +kernel
  have level : (out.2.state.store.level cutoff none).length = 2 := by decide +kernel
  have completed : cycled.1 = .completed report := by decide +kernel
  have clean : report.hasFailures = false := by decide
  have due : c.policy.cutoff? around.now = some cutoff := by decide +kernel
  have due' : c'.policy.cutoff? around'.now = some cutoff' := by decide +kernel
  obtain ⟨removals, cycles⟩ := second_run_finds_nothing around around' (fun _ _ => rfl) none none
    () () s start finish earlier
  have removed := removals r r' ⟨0, none⟩ ⟨0, none⟩ 9 1 ⟨"main", 0, 0, none⟩ ⟨"again", 0, 0, none⟩
    rfl rfl (by decide) (by decide) (.inl rfl) rfl (by decide)
  have cycled_again := cycles c c' 9 1 due due' rfl (by decide) report
  -- the runs are named here as there; comparing them must not carry them out
  with_reducible obtain ⟨told, deletes, same⟩ := removed within
  with_reducible obtain ⟨report', completed', nothing, -, deletes', same'⟩ :=
      cycled_again completed clean
  have empty : _ = (Ending.within, (⟨"again", 0, 1, none⟩ : StepReport)) := told.trans rfl
  with_reducible exact ⟨start, finish, earlier, within, level, empty, deletes, same, completed,
    report', completed', nothing, deletes', same'⟩

end Cycle

end Retention
