import Retention.Proofs.JobCourse
import Retention.Proofs.LookupRows

/-!
# What a cycle of jobs takes

Jobs go from the lowest key up, chunk by chunk (`JobCycle.ChunksDeleted.thins`), and then the lookup
rows that no job points at any more, kind by kind (`KindsPruned.takes`). A cycle that completes and
tells of no error has left exactly what was to stay, and its steps tell how much went
(`JobCycle.run_leaves_kept`).
-/

namespace Retention.Cycle

open Store (DatabaseError LookupKind)
open Time (Instant)

variable {ω : Type} {guard : Guard} {acts : List (Act (Place ω))} {s s' : Store}

theorem flatten_chunks {α : Type} {size : Nat} (pos : 0 < size) :
    ∀ (rounds : Nat) {xs : List α}, xs.length ≤ rounds → (chunks size rounds xs).flatten = xs
  | 0, [], _ => rfl
  | rounds + 1, [], _ => rfl
  | rounds + 1, x :: xs, h => by
    have hlen : ((x :: xs).drop size).length ≤ rounds := by
      rw [List.length_drop]
      omega
    rw [chunks, List.flatten_cons, flatten_chunks pos rounds hlen, List.take_append_drop]
    exact nofun

theorem flatten_chunksOf {α : Type} (size : Nat) (xs : List α) : (chunksOf size xs).flatten = xs :=
  flatten_chunks (by omega) _ (Nat.le_refl _)

theorem chunk_thins {cutoff : Instant} {size : UInt32} {k : UInt64} {before after : Place ω}
    (h : (Act.asked (.deleteChunkBefore cutoff size) before (.ok k) after).Sound) :
    k.toNat = min size.toNat (before.store.dueJobs cutoff).length ∧
      after.store = before.store.jobsThinned cutoff k.toNat := by
  obtain ⟨hk, hs, -⟩ := Store.deleteJobChunk_ok (ofStatement_ok h)
  exact ⟨hk, hs⟩

theorem prune_takes {kind : LookupKind} {ids : List Int} {k : UInt64} {before after : Place ω}
    (h : (Act.asked (.deleteUnreferenced kind ids) before (.ok k) after).Sound) :
    after.store = before.store.withoutLookups kind
        (ids.filter (· ∉ before.store.references kind)) ∧
      k.toNat + (after.store.lookupRows kind).length = (before.store.lookupRows kind).length :=
  Store.deleteUnreferenced_ok (ofStatement_ok h)

/-- The deletion of jobs takes the lowest ones that are due, all of them if it is not stopped; it
does not run out of rounds while there are more of them than jobs that went. -/
theorem JobCycle.ChunksDeleted.thins {c : JobCycle} {cutoff : Instant} {rounds : Nat}
    {ending : Ending} (h : c.ChunksDeleted guard cutoff rounds ending acts) :
    ∀ {s : Store}, Linked s acts s' → ∃ d ≤ (s.dueJobs cutoff).length,
      s' = s.jobsThinned cutoff d ∧ rowsDeleted acts = d ∧
        (ending = .within → d = (s.dueJobs cutoff).length) ∧
        (ending = .unfinished → rounds ≤ d) := by
  induction h with
  | spent =>
    rintro s rfl
    exact ⟨0, Nat.zero_le _, by simp, rfl, nofun, fun _ => Nat.le_refl _⟩
  | tripped =>
    rintro s rfl
    exact ⟨0, Nat.zero_le _, by simp, rfl, nofun, nofun⟩
  | failed =>
    rintro s ⟨rfl, sound, rfl⟩
    refine ⟨0, Nat.zero_le _, ?_, rfl, nofun, nofun⟩
    rw [Store.jobsThinned_zero]
    exact sound
  | last _ few =>
    rintro s ⟨rfl, sound, rfl⟩
    obtain ⟨hk, hs⟩ := chunk_thins sound
    have hfew := Store.lt_toUInt64_iff.1 few
    exact ⟨_, by omega, hs, by simp [rowsDeleted_cons, Act.deleted?], fun _ => by omega, nofun⟩
  | full _ filled next ih =>
    rintro s ⟨rfl, sound, later⟩
    obtain ⟨m, first, later⟩ := (linked_append _ _).1 later
    obtain ⟨hk, hs⟩ := chunk_thins sound
    obtain rfl := linked_unchanged first c.pauses_read
    obtain ⟨d, hd, rfl, hrows, hw, hu⟩ := ih later
    rw [hs, Store.dueJobs_jobsThinned, List.length_drop] at hd hw
    refine ⟨_ + d, ?_, by rw [hs, Store.jobsThinned_jobsThinned], ?_, fun h => ?_, fun h => ?_⟩
    · omega
    · rw [rowsDeleted_looked, rowsDeleted_cons, rowsDeleted_append, hrows,
        rowsDeleted_eq_zero c.pauses_read]
      simp [Act.deleted?]
    · have := hw h
      omega
    · have := hu h
      have pos : 0 < c.policy.chunkSize.toNat := c.policy.chunkSize_pos
      have hfull := Store.lt_toUInt64_iff.not.1 filled
      omega

theorem JobCycle.ChunksDeleted.finishes {c : JobCycle} {cutoff : Instant} {rounds : Nat}
    {ending : Ending} (h : c.ChunksDeleted guard cutoff rounds ending acts)
    (linked : Linked s acts s') (enough : (s.dueJobs cutoff).length < rounds) :
    ending ≠ .unfinished := by
  intro unfinished
  obtain ⟨d, most, -, -, -, spent⟩ := h.thins linked
  have spent := spent unfinished
  omega

theorem ChunksPruned.takes {kind : LookupKind} {chunks : List (List Int)} {step : StepReport}
    {out : Budget × StepReport} (h : ChunksPruned guard kind chunks step out acts) :
    ∀ {s : Store}, Linked s acts s' → out.1 = .within → out.2.error = none →
      s' = s.withoutLookups kind (chunks.flatten.filter (· ∉ s.references kind)) ∧
        out.2 = step.after acts ∧
        rowsDeleted acts + (s'.lookupRows kind).length = (s.lookupRows kind).length := by
  induction h with
  | done =>
    rintro s rfl - -
    exact ⟨(Store.withoutLookups_nil ..).symm, rfl, Nat.zero_add _⟩
  | tripped => exact fun _ => nofun
  | failed => exact fun _ _ => nofun
  | next _ _ ih =>
    rintro s ⟨rfl, sound, later⟩ hw herr
    obtain ⟨ha, hk⟩ := prune_takes sound
    obtain ⟨hs, hstep, hrows⟩ := ih later hw herr
    rw [ha, Store.references_withoutLookups] at hs
    rw [rowsDeleted_looked, rowsDeleted_cons]
    refine ⟨?_, hstep, ?_⟩
    · rw [hs, Store.withoutLookups_withoutLookups, List.flatten_cons, List.filter_append]
    · simp only [Act.deleted?, Option.elim_some]
      omega

theorem KindPruned.takes {chunkSize : UInt32} {kind : LookupKind} {out : Budget × StepReport}
    (h : KindPruned guard chunkSize kind out acts) (linked : Linked s acts s')
    (within : out.1 = .within) (no_error : out.2.error = none) :
    s' = s.withoutOrphans kind ∧ out.2 = (pruneStep kind).after acts ∧
      rowsDeleted acts + (s'.lookupRows kind).length = (s.lookupRows kind).length := by
  cases h with
  | unlisted => cases no_error
  | @listed ids b a _ _ chunks =>
    obtain ⟨rfl, sound, later⟩ := linked
    obtain ⟨hids, ha⟩ := ofQuery_ok (f := fun s => s.unreferencedIds kind) sound
    have hids := Store.unreferencedIds_ok hids
    rw [ha] at later
    obtain ⟨hs, hstep, hrows⟩ := chunks.takes later within no_error
    refine ⟨?_, hstep, ?_⟩
    · rw [hs, flatten_chunksOf, hids, Store.orphans, List.filter_filter]
      simp only [Bool.and_self]
      rfl
    · rw [rowsDeleted_cons]
      simpa [Act.deleted?] using hrows

theorem KindsPruned.keeps {chunkSize : UInt32} {kinds : List LookupKind} {report : Report}
    {out : Budget × Report} (h : KindsPruned guard chunkSize kinds report out acts) :
    report.steps <+: out.2.steps := by
  induction h with
  | done => exact List.prefix_refl _
  | tripped => exact List.prefix_refl _
  | exceeded => exact Report.prefix_push _ _
  | next _ _ _ ih => exact (Report.prefix_push _ _).trans ih

/-- What a step is told by: its name and the number of rows it deleted. -/
def StepReport.tally (step : StepReport) : String × Nat := (step.name, step.deleted.toNat)

theorem StepReport.tally_after (step : StepReport) (fresh : step.deleted = 0)
    (h : rowsDeleted acts ≤ Store.capacity) :
    (step.after acts).tally = (step.name, rowsDeleted acts) := by
  rw [StepReport.after_eq, tally, fresh, UInt64.zero_add, Store.toNat_toUInt64 h]

/-- Pruning that tells of no error leaves no orphans, and its steps tell how many there were. -/
theorem KindsPruned.takes {chunkSize : UInt32} {kinds : List LookupKind} {report : Report}
    {out : Budget × Report} (h : KindsPruned guard chunkSize kinds report out acts) :
    ∀ {s : Store}, kinds.Nodup → Linked s acts s' → out.1 = .within → out.2.hasFailures = false →
      s' = s.pruned kinds ∧
        out.2.steps.map StepReport.tally =
          report.steps.map StepReport.tally ++ kinds.map fun kind =>
            ("prune:" ++ kind.text, (s.lookupRows kind).length - (s'.lookupRows kind).length) := by
  induction h with
  | done =>
    rintro s - rfl - -
    exact ⟨rfl, (List.append_nil _).symm⟩
  | tripped => exact fun _ _ => nofun
  | exceeded => exact fun _ _ => nofun
  | @next kind rest report _ step acts out later _ pruned next ih =>
    intro s distinct linked hw hf
    obtain ⟨hkind, hrest⟩ := List.nodup_cons.1 distinct
    obtain ⟨m, first, others⟩ := (linked_append _ _).1 linked
    have no_error : step.error = none :=
      Report.no_error hf (next.keeps.subset (report.mem_push step))
    obtain ⟨hm, hstep, hrows⟩ := pruned.takes first rfl no_error
    obtain ⟨hs, htally⟩ := ih hrest others hw hf
    have hsame : s'.lookupRows kind = m.lookupRows kind := by
      rw [hs, Store.lookupRows_pruned _ _ hkind]
    have hle := s.lookupRows_length_le kind
    have htold : step.tally =
        ("prune:" ++ kind.text, (s.lookupRows kind).length - (s'.lookupRows kind).length) := by
      have hcount : rowsDeleted acts =
          (s.lookupRows kind).length - (s'.lookupRows kind).length := by
        rw [hsame]
        omega
      obtain rfl : step = _ := hstep
      rw [StepReport.tally_after _ rfl (by omega), hcount]
      rfl
    have hothers : ∀ kind' ∈ rest, m.lookupRows kind' = s.lookupRows kind' := by
      intro kind' hk
      have hne : kind' ≠ kind := fun h => hkind (h ▸ hk)
      rw [hm, Store.withoutOrphans, Store.lookupRows_withoutLookups_of_ne _ _ _ hne]
    constructor
    · rw [hs, hm]
      rfl
    · rw [htally, Report.push, List.map_append, List.append_assoc, List.map_singleton,
        List.singleton_append, List.map_cons, htold]
      congr 2
      exact List.map_congr_left fun kind' hk => by rw [hothers kind' hk]

namespace JobCycle

theorem Finished.completed {c : JobCycle} {ended : Budget} {step : StepReport} {report : Report}
    (h : c.Finished guard ended step (.completed report) acts) :
    ∃ pruned before reading,
      KindsPruned guard c.policy.chunkSize LookupKind.all ⟨.jobs, [step], 0⟩ (.within, pruned)
        before ∧
      acts = before ++ [.looked reading] ∧ report.steps = pruned.steps := by
  cases h with
  | pruned h => exact ⟨_, _, _, h, rfl, rfl⟩

theorem Finished.no_error {c : JobCycle} {ended : Budget} {step : StepReport} {report : Report}
    (h : c.Finished guard ended step (.completed report) acts)
    (no_failure : report.hasFailures = false) : step.error = none := by
  obtain ⟨pruned, before, reading, hp, -, hsteps⟩ := h.completed
  refine Report.no_error no_failure ?_
  rw [hsteps]
  exact hp.keeps.subset (List.mem_singleton_self step)

theorem Course.completed {c : JobCycle} {now : Instant} {rounds : Nat} {report : Report}
    (h : c.Course now rounds (.completed report) acts) (no_failure : report.hasFailures = false) :
    ∃ started cutoff eligible b a deleted later, c.policy.cutoff? now = some cutoff ∧
      c.ChunksDeleted ⟨started, c.policy.maxRuntime⟩ cutoff rounds .within deleted ∧
      c.Finished ⟨started, c.policy.maxRuntime⟩ .within (jobsStep.after deleted)
        (.completed report) later ∧
      acts = .looked started :: .asked (.countBefore cutoff) b (.ok eligible) a ::
        (deleted ++ later) := by
  cases h with
  | deleted some jobs finish =>
    cases jobs with
    | counted chunks => exact ⟨_, _, _, _, _, _, _, some, chunks, finish, rfl⟩
  | exceeded _ _ finish => nomatch finish
  | passing _ _ _ finish => nomatch finish.no_error no_failure

/-- A course that completes with no error deletes all jobs that are due and then prunes all kinds,
which together leaves what is kept. Its steps tell of as many rows as are missing afterwards, since
none of the counters is too small for a table. -/
theorem Course.leaves_kept {c : JobCycle} {now : Instant} {rounds : Nat} {report : Report}
    (h : c.Course now rounds (.completed report) acts) (no_failure : report.hasFailures = false)
    (refs : s.References) (linked : Linked s acts s') :
    ∃ cutoff, c.policy.cutoff? now = some cutoff ∧ s' = s.kept cutoff ∧
      report.steps.map StepReport.tally =
        ("jobs", s.jobRows.length - s'.jobRows.length) :: LookupKind.all.map (fun kind =>
          ("prune:" ++ kind.text, (s.lookupRows kind).length - (s'.lookupRows kind).length)) ∧
      ∃ reading before counted after later,
        acts = .looked reading :: .asked (.countBefore cutoff) before (.ok counted) after :: later ∧
        counted.toNat = s.jobRows.length - s'.jobRows.length := by
  obtain ⟨started, cutoff, counted, b, a, deleted, later, hc, chunks, finish, rfl⟩ :=
    h.completed no_failure
  obtain ⟨pruned, before, reading, hp, rfl, hsteps⟩ := finish.completed
  obtain ⟨rfl, sound, others⟩ := linked
  obtain ⟨hcount, ha⟩ := ofQuery_ok (f := fun s => s.countJobsBefore cutoff) sound
  obtain ⟨present, hcounted⟩ := Store.countJobsBefore_ok hcount
  rw [ha] at others
  obtain ⟨m, first, rest⟩ := (linked_append _ _).1 others
  obtain ⟨m', second, rfl⟩ := (linked_append _ _).1 rest
  obtain ⟨d, -, hm, hrows, hw, -⟩ := chunks.thins first
  have hm : m = b.store.withoutJobs ((b.store.dueJobs cutoff).map (·.id)) := by
    rw [hm, hw rfl, Store.jobsThinned, List.take_length]
  have clean : pruned.hasFailures = false := by
    rw [← no_failure, Report.hasFailures, Report.hasFailures, hsteps]
  obtain ⟨hs', htally⟩ := hp.takes (by decide) second rfl clean
  have hkept : s' = b.store.kept cutoff := by
    rw [hs', hm, Store.pruned_without_due present refs]
  have hlen := b.store.length_dueJobs cutoff
  have hjobs : b.store.jobRows.length - s'.jobRows.length = (b.store.dueJobs cutoff).length := by
    rw [hkept, Store.jobRows_kept]
    omega
  have hle := b.store.dueJobs_length_le cutoff
  have hstep : (jobsStep.after deleted).tally = ("jobs", (b.store.dueJobs cutoff).length) := by
    have hrows : rowsDeleted deleted = (b.store.dueJobs cutoff).length := by rw [hrows, hw rfl]
    rw [StepReport.tally_after _ rfl (by omega), hrows]
    rfl
  refine ⟨cutoff, hc, hkept, ?_, _, _, _, _, _, rfl, by rw [hjobs, hcounted]⟩
  rw [hsteps, htally, hjobs, hm, List.map_singleton, hstep, List.singleton_append]
  simp only [Store.lookupRows_withoutJobs]

/-- A cycle that completes and tells of no error has left exactly what was to stay. -/
theorem run_leaves_kept (around : Surroundings ω) (span : Option DataDomain) (c : JobCycle)
    (rounds : Nat) (state : ω) (s : Store) (refs : s.References) :
    let world := World.alone around
    let out := c.run (world.host span) world.access.jobs world.access.lookups rounds
      ⟨⟨state, s⟩, []⟩
    let left := out.2.state.store
    ∀ report, out.1 = .completed report → report.hasFailures = false →
      ∃ cutoff, c.policy.cutoff? around.now = some cutoff ∧ left = s.kept cutoff ∧
        report.steps.map StepReport.tally =
          ("jobs", s.jobRows.length - left.jobRows.length) :: LookupKind.all.map (fun kind =>
            ("prune:" ++ kind.text, (s.lookupRows kind).length - (left.lookupRows kind).length)) ∧
        ∃ reading before counted after later,
          out.2.acts = .looked reading :: .asked (.countBefore cutoff) before (.ok counted) after ::
            later ∧
          counted.toNat = s.jobRows.length - left.jobRows.length := by
  intro world out left report completed no_failure
  obtain ⟨acts, ran, course⟩ := run_course world span c rounds ⟨⟨state, s⟩, []⟩
  have hacts : out.2.acts = acts := ran.acts_eq
  rw [show (c.run (world.host span) world.access.jobs world.access.lookups rounds
      ⟨⟨state, s⟩, []⟩).1 = _ from completed] at course
  rw [hacts]
  exact course.leaves_kept no_failure refs ran.linked

/-- An old job goes with its log and with the job type that only it points at, and so does a job
type that none points at. -/
theorem run_leaves_kept_shared_group :
    let jobs : Store.Table Store.Job :=
      ⟨[⟨1, "1969", 1, 1, 1⟩, ⟨2, "1971", 2, 1, 1⟩], by decide, by decide⟩
    let types : Store.Table Store.Lookup := ⟨[⟨1⟩, ⟨2⟩, ⟨3⟩], by decide, by decide⟩
    let one : Store.Table Store.Lookup := ⟨[⟨1⟩], by decide, by decide⟩
    let logs : Store.Table Store.Attachment := ⟨[⟨1, 1⟩, ⟨2, 2⟩], by decide, by decide⟩
    let s : Store :=
      { job := jobs, jobType := types, jobGroup := one, machine := one, jobLog := logs }
    let c : JobCycle := ⟨⟨1, 1, none, by decide⟩, 0⟩
    let world := World.alone (.still ⟨86400, 0, by decide⟩)
    let out := c.run (world.host none) world.access.jobs world.access.lookups 3 ⟨⟨(), s⟩, []⟩
    let report : Report := ⟨.jobs, [⟨"jobs", 1, 2, none⟩, ⟨"prune:job_type", 2, 2, none⟩,
      ⟨"prune:job_group", 0, 0, none⟩, ⟨"prune:machine", 0, 0, none⟩], 0⟩
    let epoch : Instant := ⟨0, 0, by decide⟩
    s.References ∧ out.1 = .completed report ∧ report.hasFailures = false ∧
      c.policy.cutoff? world.now = some epoch ∧ out.2.state.store = s.kept epoch := by
  intro jobs types one logs s c world out report epoch
  have refs : s.References := by
    constructor
    · rintro _ ⟨⟩ row hrow kind _ ht
      cases kind <;> cases ht <;> revert row <;> decide
    · rintro kind _ ht row hrow _ ⟨⟩
      cases kind <;> cases ht <;> revert row <;> decide
    · rintro _ ⟨⟩ row hrow _ ⟨⟩
      revert row
      decide
  have completed : out.1 = .completed report := by decide +kernel
  have clean : report.hasFailures = false := by decide
  have before : c.policy.cutoff? world.now = some epoch := by decide
  have h := run_leaves_kept (.still ⟨86400, 0, by decide⟩) none c 3 () s refs report
  -- both sides name the same run; comparing them must not carry it out
  with_reducible obtain ⟨cutoff, some, left, -⟩ := h completed clean
  obtain rfl : epoch = cutoff := Option.some.inj (before.symm.trans some)
  with_reducible exact ⟨refs, completed, clean, before, left⟩

end JobCycle

theorem Cycler.run_jobs {σ : Type} (world : World σ) (span : Option DataDomain) (c : JobCycle)
    (rounds : Nat) :
    world.Does ((jobs c).run (world.host span) world.access rounds) (c.Course world.now rounds) :=
  .log_bind (c.run_course world (some .jobs) rounds)

end Retention.Cycle
