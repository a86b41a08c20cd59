import Retention.Proofs.Pruning
import Retention.Proofs.Reachable

/-!
# Cycles that go on where others stopped

What cycles with fixed cutoffs are to bring about is an aim (`Aim`), and an aim tells what it leaves
of a store (`Aim.rest`). However a cycle ended, it took only what its aim takes, so the rest of the
store that it left is the rest of the store that it found (`Aim.Leads.keeps`); and a cycle that
nothing disturbs leaves just the rest (`Cycler.Undisturbed.reaches`). So it makes no difference
whether other cycles came before it, nor how the work was cut into chunks
(`resumed_leaves_same`).
-/

namespace Retention

namespace Store

open Time (Instant)

section Rest

variable {cutoff : Instant} {s : Store}

/-- What is kept does not depend on jobs that are due: without them the same jobs stay, and these
tell what else is kept. -/
theorem kept_withoutJobs {gone : List Int} (due : gone ⊆ (s.dueJobs cutoff).map (·.id)) :
    (s.withoutJobs gone).kept cutoff = s.kept cutoff := by
  have spared {row : Job} (hrow : row ∈ s.jobRows) (stays : cutoff.stored ≤ row.submitted) :
      row.id ∉ gone :=
    fun hgone => (mem_dueJobs_ids hrow).1 (due hgone) stays
  have staying : (s.withoutJobs gone).stayingJobs cutoff = s.stayingJobs cutoff := by
    unfold stayingJobs
    rw [jobRows_withoutJobs, List.filter_filter]
    refine List.filter_congr fun row hrow => ?_
    by_cases stays : cutoff.stored ≤ row.submitted
    · simp [stays, spared hrow stays]
    · simp [stays]
  have jobs : (s.job.map (·.filter (·.id ∉ gone))).map
        (·.filter fun row => cutoff.stored ≤ row.submitted) =
      s.job.map (·.filter fun row => cutoff.stored ≤ row.submitted) :=
    Table.map_filter_filter fun row hrow stays =>
      decide_eq_true (spared hrow (of_decide_eq_true stays))
  have attachments (t : Option (Table Attachment)) : (t.map (·.filter (·.job ∉ gone))).map
        (·.filter fun row => ∃ job ∈ s.stayingJobs cutoff, job.id = row.job) =
      t.map (·.filter fun row => ∃ job ∈ s.stayingJobs cutoff, job.id = row.job) := by
    refine Table.map_filter_filter fun row _ stays => decide_eq_true ?_
    obtain ⟨job, hjob, hid⟩ := of_decide_eq_true stays
    obtain ⟨hmem, hstays⟩ := List.mem_filter.1 hjob
    rw [← hid]
    exact spared hmem (of_decide_eq_true hstays)
  unfold kept
  rw [staying]
  simp only [withoutJobs, jobs, attachments]

/-- Nor does it depend on lookup rows that no job points at, since one that is kept has a job. -/
theorem kept_withoutLookups {kind : LookupKind} {gone : List Int}
    (unused : ∀ id ∈ gone, id ∉ s.references kind) :
    (s.withoutLookups kind gone).kept cutoff = s.kept cutoff := by
  have staying : (s.withoutLookups kind gone).stayingJobs cutoff = s.stayingJobs cutoff := by
    unfold stayingJobs jobRows withoutLookups
    rw [job_setLookups]
  have lookups (t : Option (Table Lookup)) : (t.map (·.filter (·.id ∉ gone))).map
        (·.filter fun row => ∃ job ∈ s.stayingJobs cutoff, job.reference kind = row.id) =
      t.map (·.filter fun row => ∃ job ∈ s.stayingJobs cutoff, job.reference kind = row.id) := by
    refine Table.map_filter_filter fun row _ stays => decide_eq_true fun hgone => ?_
    obtain ⟨job, hjob, hid⟩ := of_decide_eq_true stays
    refine unused _ hgone ?_
    rw [← hid]
    exact List.mem_map_of_mem (List.mem_of_mem_filter hjob)
  unfold kept
  rw [staying]
  cases kind with
  | jobType => exact congrArg (fun t => { s.kept cutoff with jobType := t }) (lookups s.jobType)
  | jobGroup => exact congrArg (fun t => { s.kept cutoff with jobGroup := t }) (lookups s.jobGroup)
  | machine => exact congrArg (fun t => { s.kept cutoff with machine := t }) (lookups s.machine)

/-- The performance data from before a cutoff, and those of one repository from before another. -/
def past (cutoff : Instant) (single : String) (singleCutoff : Instant) (s : Store) : List Datum :=
  s.data.filter fun row =>
    row.pushed < cutoff.stored ∨ row.BelongsTo s single ∧ row.pushed < singleCutoff.stored

theorem past_withoutData (single : String) (singleCutoff : Instant) (gone : List Datum) :
    (s.withoutData gone).past cutoff single singleCutoff =
      (s.past cutoff single singleCutoff).filter (· ∉ gone) := by
  unfold past
  rw [data_withoutData, List.filter_filter, List.filter_filter]
  exact List.filter_congr fun _ _ => Bool.and_comm _ _

theorem withoutData_congr {gone gone' : List Datum}
    (same : ∀ row ∈ s.data, row ∈ gone ↔ row ∈ gone') :
    s.withoutData gone = s.withoutData gone' := by
  unfold withoutData
  unfold data at same
  rcases ht : s.performanceDatum with _ | t <;> rw [ht] at same
  · rfl
  · refine congrArg (fun t => { s with performanceDatum := some t }) ?_
    exact Table.filter_congr fun row hrow => decide_eq_decide.2 (same row hrow).not

end Rest

end Store

namespace Cycle

open Store (DatabaseError LookupKind)
open Time (Instant)

/-! ### What cycles ask for -/

section Requests

variable {σ : Type} {guard : Guard} {acts : List (Act σ)}

/-- A call of a cycle of jobs with this cutoff. -/
def JobCycle.Calls (c : JobCycle) (cutoff : Instant) (q : Request) : Prop :=
  q = .countBefore cutoff ∨ q = .deleteChunkBefore cutoff c.policy.chunkSize ∨
    PruneRequest c.policy.chunkSize q

namespace JobCycle

variable {c : JobCycle} {cutoff : Instant} {rounds : Nat}

theorem ChunksDeleted.asks {ending : Ending}
    (h : c.ChunksDeleted guard cutoff rounds ending acts) :
    ∀ act ∈ acts, act.Asks (c.Calls cutoff) := by
  have pauses : ∀ act ∈ (c.pauses : List (Act σ)), act.Asks (c.Calls cutoff) := by
    unfold pauses
    split_ifs <;> simp [Act.Asks]
  induction h with
  | spent => simp
  | tripped => simp [Act.Asks]
  | failed => simp [Act.Asks, Calls]
  | last => simp [Act.Asks, Calls]
  | full _ _ _ ih =>
    exact List.forall_mem_cons.2 ⟨trivial, List.forall_mem_cons.2
      ⟨.inr (.inl rfl), List.forall_mem_append.2 ⟨pauses, ih⟩⟩⟩

theorem JobsDeleted.asks {out : Ending × StepReport}
    (h : c.JobsDeleted guard cutoff rounds out acts) :
    ∀ act ∈ acts, act.Asks (c.Calls cutoff) := by
  cases h with
  | uncounted => simp [Act.Asks, Calls]
  | counted chunks => exact List.forall_mem_cons.2 ⟨.inl rfl, chunks.asks⟩

theorem Finished.asks {ended : Budget} {step : StepReport} {outcome : Outcome}
    (h : c.Finished guard ended step outcome acts) :
    ∀ act ∈ acts, act.Asks (c.Calls cutoff) := by
  have prune {acts : List (Act σ)} (asks : ∀ act ∈ acts, act.Asks (PruneRequest c.policy.chunkSize))
      (reading : Time.Duration) : ∀ act ∈ acts ++ [.looked reading], act.Asks (c.Calls cutoff) :=
    List.forall_mem_append.2 ⟨fun act hact => (asks act hact).mono fun q hq => .inr (.inr hq),
      List.forall_mem_singleton.2 trivial⟩
  cases h with
  | unpruned => simp [Act.Asks]
  | tripped pruned => exact prune pruned.asks _
  | pruned pruned => exact prune pruned.asks _

theorem Course.asks {now : Instant} {outcome : Outcome} (h : c.Course now rounds outcome acts)
    (due : c.policy.cutoff? now = some cutoff) : ∀ act ∈ acts, act.Asks (c.Calls cutoff) := by
  have same {cutoff' : Instant} (due' : c.policy.cutoff? now = some cutoff') : cutoff' = cutoff :=
    Option.some.inj (due'.symm.trans due)
  cases h with
  | outOfRange => simp [Act.Asks]
  | unfinished some jobs | failed some jobs =>
    obtain rfl := same some
    exact List.forall_mem_cons.2 ⟨trivial, jobs.asks⟩
  | deleted some jobs finish | exceeded some jobs finish | passing some jobs _ finish =>
    obtain rfl := same some
    exact List.forall_mem_cons.2 ⟨trivial, List.forall_mem_append.2 ⟨jobs.asks, finish.asks⟩⟩

theorem Calls.kept {q : Request} (call : c.Calls cutoff q) {s s' : Store} (effect : q.Effect s s') :
    s'.kept cutoff = s.kept cutoff := by
  cases effect with
  | unchanged => rfl
  | data => rcases call with call | call | call <;> cases call
  | jobs =>
    rcases call with call | call | call <;> cases call
    exact Store.kept_withoutJobs (List.map_subset _ (List.take_subset _ _))
  | lookups =>
    exact Store.kept_withoutLookups fun id hid => by simpa using (List.mem_filter.1 hid).2

theorem Calls.fits {q : Request} (call : c.Calls cutoff q)
    (few : c.policy.chunkSize.toNat ≤ Store.maxVariables) {s : Store}
    (unpinned : s.Unpinned ((s.dueJobs cutoff).map (·.id))) : q.Fits s := by
  rcases call with rfl | rfl | prune
  · trivial
  · exact ⟨few, unpinned⟩
  · exact prune.fits few s

end JobCycle

end Requests

variable {ω : Type} {guard : Guard} {acts : List (Act (Place ω))} {s s' : Store}

theorem Removal.Allows.fits {r : Removal} {act : Act (Place ω)} (h : r.Allows act) :
    act.Asks fun q => ∀ s, q.Fits s := by
  cases act with
  | asked q =>
    intro s
    rcases h with reads | ⟨limit, rfl⟩
    · cases q <;> trivial
    · trivial
  | _ => trivial

namespace PerformanceCycle

variable {c : PerformanceCycle} {now cutoff singleCutoff : Instant} {rounds : Nat}
  {outcome : Outcome}

theorem Removals.fits {removals : List Removal} {report : Report}
    (h : Removals guard rounds removals report outcome acts) :
    ∀ act ∈ acts, act.Asks fun q => ∀ s, q.Fits s := by
  have removal {r : Removal} {ending : Ending} {acts : List (Act (Place ω))}
      (course : r.Course guard rounds ending acts) :
      ∀ act ∈ acts, act.Asks fun q => ∀ s, q.Fits s :=
    fun act hact => (course.allowed act hact).fits
  induction h with
  | done => simp [Act.Asks]
  | next course _ ih => exact List.forall_mem_append.2 ⟨removal course, ih⟩
  | exceeded course =>
    exact List.forall_mem_append.2 ⟨removal course, List.forall_mem_singleton.2 trivial⟩
  | unfinished course => exact removal course
  | failed course => exact removal course
  | passing course _ _ ih => exact List.forall_mem_append.2 ⟨removal course, ih⟩

theorem Course.fits (h : c.Course now rounds outcome acts) :
    ∀ act ∈ acts, act.Asks fun q => ∀ s, q.Fits s := by
  have named {answer : Except DatabaseError (Option Int)} {b a : Place ω} :
      (Act.asked (.repositoryId? c.single.repository) b answer a).Asks fun q => ∀ s, q.Fits s :=
    fun _ => trivial
  cases h with
  | outOfRange => simp [Act.Asks]
  | failed => exact List.forall_mem_cons.2 ⟨trivial, List.forall_mem_singleton.2 named⟩
  | resolved _ removals | unknown _ removals | passing _ _ removals =>
    exact List.forall_mem_cons.2 ⟨trivial, List.forall_mem_cons.2 ⟨named, removals.fits⟩⟩

theorem lost_rest (h : Lost (c.removals cutoff singleCutoff s) s s') :
    s'.withoutData (s'.past cutoff c.single.repository singleCutoff) =
      s.withoutData (s.past cutoff c.single.repository singleCutoff) := by
  obtain ⟨gone, rfl, hgone⟩ := h
  rw [Store.withoutData_withoutData]
  refine Store.withoutData_congr fun row hrow => ?_
  rw [List.mem_append, Store.past_withoutData, List.mem_filter, decide_eq_true_iff]
  -- a row that went was past its retention, and one that is still there is so as before
  by_cases hg : row ∈ gone
  · have : row ∈ s.past cutoff c.single.repository singleCutoff :=
      List.mem_filter.2 ⟨hrow, decide_eq_true (exists_removal_iff.1 (hgone row hg))⟩
    exact iff_of_true (.inl hg) this
  · exact ⟨fun h => (h.resolve_left hg).1, fun h => .inr ⟨h, hg⟩⟩

theorem past_eq_nil (h : Lost (c.removals cutoff singleCutoff s) s s')
    (dry : ∀ r ∈ c.removals cutoff singleCutoff s, s'.due r.cutoff r.scope = []) :
    s'.past cutoff c.single.repository singleCutoff = [] := by
  obtain ⟨gone, rfl, -⟩ := h
  refine List.filter_eq_nil_iff.2 fun row hrow hpast => ?_
  obtain ⟨r, hr, hdue⟩ := exists_removal_iff.2 (of_decide_eq_true hpast)
  have : row ∈ (s.withoutData gone).due r.cutoff r.scope :=
    List.mem_filter.2 ⟨hrow, decide_eq_true hdue⟩
  rw [dry r hr] at this
  cases this

/-- However the cycle ends, the rest is the same, and if it completes and tells of no error, nothing
but the rest is left. -/
theorem Course.leaves_rest (h : c.Course now rounds outcome acts)
    (cutoffs : c.Cutoffs now cutoff singleCutoff) (linked : Linked s acts s') :
    s'.withoutData (s'.past cutoff c.single.repository singleCutoff) =
        s.withoutData (s.past cutoff c.single.repository singleCutoff) ∧
      (outcome.Clean → s' = s.withoutData (s.past cutoff c.single.repository singleCutoff)) := by
  rcases h.lost linked with ⟨rfl, unfinished⟩ | ⟨cutoff', singleCutoff', cutoffs', lost, dry⟩
  · refine ⟨rfl, ?_⟩
    rintro ⟨report, completed, -⟩
    exact absurd completed (unfinished report)
  · obtain ⟨rfl, rfl⟩ := cutoffs.unique cutoffs'
    refine ⟨lost_rest lost, ?_⟩
    rintro ⟨report, completed, clean⟩
    rw [← lost_rest lost, past_eq_nil lost (dry report completed clean), Store.withoutData_nil]

end PerformanceCycle

/-! ### Aims -/

/-- What cycles are to bring about: that jobs from before a cutoff go, or that performance data do,
with a cutoff of its own for one repository. -/
inductive Aim
  | jobs (cutoff : Instant)
  | performance (cutoff : Instant) (single : String) (singleCutoff : Instant)

namespace Aim

/-- What is left of a store when all is gone that is to go. -/
def rest : Aim → Store → Store
  | jobs cutoff, s => s.kept cutoff
  | performance cutoff single singleCutoff, s => s.withoutData (s.past cutoff single singleCutoff)

/-- No pin holds back a job that is to go. -/
def Free : Aim → Store → Prop
  | jobs cutoff, s => s.Unpinned ((s.dueJobs cutoff).map (·.id))
  | performance .., _ => True

end Aim

/-- What the cycle is to bring about if it is run now; none if a cutoff is out of the calendar's
range. -/
def Cycler.aim? (now : Instant) : Cycler → Option Aim
  | .jobs c => (c.policy.cutoff? now).map .jobs
  | .performance c =>
    match c.policy.cutoff? now, now.daysBefore? c.single.days.toNat with
    | some cutoff, some singleCutoff => some (.performance cutoff c.single.repository singleCutoff)
    | _, _ => none

theorem Cycler.aim?_performance {c : PerformanceCycle} {now : Instant} {aim : Aim}
    (h : (Cycler.performance c).aim? now = some aim) :
    ∃ cutoff singleCutoff, c.Cutoffs now cutoff singleCutoff ∧
      aim = .performance cutoff c.single.repository singleCutoff := by
  simp only [aim?] at h
  split at h
  · rename_i cutoff singleCutoff hc hs
    cases h
    exact ⟨cutoff, singleCutoff, ⟨hc, hs⟩, rfl⟩
  · cases h

variable {aim : Aim}

/-- However it ends, a cycle takes nothing of the rest. -/
theorem Cycler.left_rest (around : Surroundings ω) (span : Option DataDomain) (state : ω)
    {c : Cycler} (aimed : c.aim? around.now = some aim) (rounds : Nat) :
    aim.rest ((Task.cycle c rounds).left around span state s) = aim.rest s := by
  cases c with
  | jobs c =>
    obtain ⟨cutoff, due, rfl⟩ := Option.map_eq_some_iff.1 aimed
    obtain ⟨acts, ran, course⟩ := run_jobs (.alone around) span c rounds ⟨⟨state, s⟩, []⟩
    exact (ran.keeps (P := fun m => m.kept cutoff = s.kept cutoff) (fun _ _ _ h => h)
      (fun act hact => (course.asks due act hact).mono fun q call m hm =>
        (call.kept (q.effect m)).trans hm) rfl).2
  | performance c =>
    obtain ⟨cutoff, singleCutoff, cutoffs, rfl⟩ := aim?_performance aimed
    obtain ⟨acts, ran, course⟩ := run_performance (.alone around) span c rounds ⟨⟨state, s⟩, []⟩
    exact (course.leaves_rest cutoffs ran.linked).1

/-- One store comes from the other by cycles with this aim, however each of them ended. -/
inductive Aim.Leads (aim : Aim) (s : Store) : Store → Prop
  | refl : Leads aim s s
  | cycle {m : Store} {ω : Type} (before : Leads aim s m) (around : Surroundings ω)
    (span : Option DataDomain) (state : ω) (c : Cycler) (aimed : c.aim? around.now = some aim)
    (rounds : Nat) : Leads aim s ((Task.cycle c rounds).left around span state m)

theorem Aim.Leads.keeps (h : aim.Leads s s') (whole : s.Intact) :
    s.Shrinks s' ∧ s'.Intact ∧ aim.rest s' = aim.rest s := by
  induction h with
  | refl => exact ⟨.refl s, whole, rfl⟩
  | cycle _ around span state c aimed rounds ih =>
    obtain ⟨shrinks, whole, rest⟩ := ih
    obtain ⟨less, whole⟩ := (Task.cycle c rounds).keeps around span state whole
    exact ⟨shrinks.trans less, whole, (c.left_rest around span state aimed rounds).trans rest⟩

theorem Aim.Free.shrinks (h : aim.Free s) (shrinks : s.Shrinks s') : aim.Free s' := by
  cases aim with
  | jobs => exact shrinks.unpinned h
  | performance => trivial

/-- No call of the cycle is made to fail, it may take as long as it likes, a statement can bind a
chunk, and there are more rounds than rows. -/
structure Cycler.Undisturbed (c : Cycler) (around : Surroundings ω) (aim : Aim) (rounds : Nat)
    (s : Store) : Prop where
  aimed : c.aim? around.now = some aim
  faultless : ∀ q state, (around.fault q state).1 = none
  unlimited : c.policy.maxRuntime = none
  few : c.policy.chunkSize.toNat ≤ Store.maxVariables
  jobs : s.jobRows.length < rounds
  data : s.data.length < rounds

namespace Cycler.Undisturbed

variable {around : Surroundings ω} {c : Cycler} {rounds : Nat}

theorem shrinks (h : c.Undisturbed around aim rounds s) (less : s.Shrinks s') :
    c.Undisturbed around aim rounds s' :=
  { h with
    jobs := Nat.lt_of_le_of_lt less.job.sublist.length_le h.jobs
    data := Nat.lt_of_le_of_lt less.data.sublist.length_le h.data }

theorem answered (h : c.Undisturbed around aim rounds s) (whole : s.Intact) {state : ω}
    {scene : Scene (Place ω)} (ran : (World.alone around).Ran ⟨⟨state, s⟩, []⟩ acts scene)
    (fits : ∀ act ∈ acts, act.Asks fun q => ∀ m, s.Shrinks m → q.Fits m) :
    ∀ act ∈ acts, act.Answered := by
  have fits := ran.fits (P := fun m => s.Shrinks m ∧ m.Intact) (fun _ _ _ h => h)
    (fun act hact => (fits act hact).mono fun q fits m below =>
      ⟨below.2.complete, fits m below.1, q.perform_below below⟩)
    ⟨.refl s, whole⟩
  intro act hact
  refine (ran.carried act hact).answered ?_ (fits act hact)
  cases act with
  | asked q before => exact h.faultless q before.around
  | _ => trivial

/-- A cycle that nothing disturbs completes, tells of no error and leaves the rest. -/
theorem reaches (h : c.Undisturbed around aim rounds s) (whole : s.Intact) (free : aim.Free s)
    (span : Option DataDomain) (state : ω) :
    let world := World.alone around
    let out := c.run (world.host span) world.access rounds ⟨⟨state, s⟩, []⟩
    out.1.Clean ∧ out.2.state.store = aim.rest s := by
  intro world out
  have aimed := h.aimed
  cases c with
  | jobs c =>
    obtain ⟨cutoff, due, rfl⟩ := Option.map_eq_some_iff.1 aimed
    obtain ⟨acts, ran, course⟩ := run_jobs world span c rounds ⟨⟨state, s⟩, []⟩
    have answered := h.answered whole ran fun act hact => (course.asks due act hact).mono
      fun q call m less => call.fits h.few (less.unpinned free)
    have clean := course.completes due h.unlimited answered ran.linked h.jobs
    refine ⟨clean, ?_⟩
    obtain ⟨report, completed, no_failure⟩ := clean
    rw [completed] at course
    obtain ⟨cutoff', due', left, -⟩ := course.leaves_kept no_failure whole.references ran.linked
    cases due.symm.trans due'
    exact left
  | performance c =>
    obtain ⟨cutoff, singleCutoff, cutoffs, rfl⟩ := aim?_performance aimed
    obtain ⟨acts, ran, course⟩ := run_performance world span c rounds ⟨⟨state, s⟩, []⟩
    have answered := h.answered whole ran fun act hact => (course.fits act hact).mono
      fun q fits m _ => fits m
    have clean := course.completes cutoffs h.unlimited answered ran.linked h.data
    exact ⟨clean, (course.leaves_rest cutoffs ran.linked).2 clean⟩

end Cycler.Undisturbed

/-- Cycles that were cut short make no difference, and chunks make none: a cycle that nothing
disturbs leaves the same store after any number of cycles with its aim, however each of them ended,
as another leaves without them. -/
theorem resumed_leaves_same (whole : s.Intact) (free : aim.Free s) (leads : aim.Leads s s')
    {ω ω' : Type} (around : Surroundings ω) (around' : Surroundings ω')
    (span span' : Option DataDomain) (state : ω) (state' : ω') {c c' : Cycler}
    {rounds rounds' : Nat} (final : c.Undisturbed around aim rounds s)
    (final' : c'.Undisturbed around' aim rounds' s) :
    let world := World.alone around
    let world' := World.alone around'
    let once := c.run (world.host span) world.access rounds ⟨⟨state, s⟩, []⟩
    let resumed := c'.run (world'.host span') world'.access rounds' ⟨⟨state', s'⟩, []⟩
    once.1.Clean ∧ resumed.1.Clean ∧ once.2.state.store = aim.rest s ∧
      resumed.2.state.store = once.2.state.store := by
  intro world world' once resumed
  obtain ⟨less, whole', rest⟩ := leads.keeps whole
  obtain ⟨clean, left⟩ := final.reaches whole free span state
  obtain ⟨clean', left'⟩ :=
    (final'.shrinks less).reaches whole' (free.shrinks less) span' state'
  exact ⟨clean, clean', left, left'.trans (rest.trans left.symm)⟩

/-- A cycle that ran out of time after its first chunk has left an old job. Whether another comes
after it or starts afresh with larger chunks, the same rows are left. -/
theorem resumed_leaves_same_after_abort :
    let seeds : List Store.Seed := [.lookups .jobType 3 none, .lookups .jobGroup 1 none,
      .lookups .machine 1 none, .jobs "1969" 1 1 1 1 1 none, .jobs "1969" 2 1 1 1 1 none,
      .jobs "1971" 3 1 1 1 1 none, .pin 3]
    let s := Store.Seed.sowAll .empty seeds
    let still := Surroundings.still ⟨0, 0, by decide⟩
    let ticking : Surroundings Time.Duration :=
      { clock := fun time => (time, time + 1), now := ⟨0, 0, by decide⟩, pause := fun _ => pure (),
        write := fun _ => pure (), fault := fun _ => pure none }
    let short : Cycler := .jobs ⟨⟨0, 1, some 1, by decide⟩, 0⟩
    let c (size : UInt32) (pos : 0 < size) : Cycler := .jobs ⟨⟨0, size, none, pos⟩, 0⟩
    let aim : Aim := .jobs ⟨0, 0, by decide⟩
    let s' := (Task.cycle short 4).left ticking none 0 s
    let world := World.alone still
    let once := (c 2 (by decide)).run (world.host none) world.access 4 ⟨⟨(), s⟩, []⟩
    let resumed := (c 1 (by decide)).run (world.host none) world.access 4 ⟨⟨(), s'⟩, []⟩
    s.Intact ∧ aim.Free s ∧ aim.Leads s s' ∧ s'.ids .job = some [2, 3] ∧
      resumed.2.state.store = once.2.state.store ∧
      Store.TableName.all.map once.2.state.store.ids =
        [some [], some [3], some [1], some [1], some [3], some [3], some [3], some [1],
          some []] := by
  intro seeds s still ticking short c aim s' world once resumed
  have whole : s.Intact := (Reachable.sowAll (by simp [seeds]) .empty).intact
  have free : aim.Free s := show s.Unpinned _ from by decide +kernel
  have leads : aim.Leads s s' := .cycle .refl ticking none 0 short rfl 4
  have final (size : UInt32) (pos : 0 < size) (few : size.toNat ≤ Store.maxVariables) :
      (c size pos).Undisturbed still aim 4 s :=
    ⟨rfl, fun _ _ => rfl, rfl, few, by decide +kernel, by decide +kernel⟩
  have h := resumed_leaves_same whole free leads still still none none () ()
    (final 2 (by decide) (by decide)) (final 1 (by decide) (by decide))
  -- both sides name the same runs; comparing them must not carry them out
  with_reducible refine ⟨whole, free, leads, ?_, h.2.2.2, ?_⟩
  · decide +kernel
  · decide +kernel

end Cycle

end Retention
