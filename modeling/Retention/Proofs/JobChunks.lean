import Retention.Proofs.ChunkSizes

/-!
# Chunks of jobs

The jobs that are due go in chunks as large as they may be, and at last in one that is not full,
which is empty if nothing was left over (`chunkLengths`). Around a store that nobody else works on,
with time without end and no fault, the deletion of jobs makes just these deletes and rests after
each that was full (`JobCycle.deleteJobs_takes_whole_chunks`).

The number of jobs that are still due carries the induction: a full chunk lowers it by the size of
a chunk, and once it lies below that, the next chunk is the last.
-/

namespace Retention.Cycle

open Store (DatabaseError)
open Time (Duration Instant)

section Lengths

variable {N n : Nat}

/-- How many of `n` go with each chunk of at most `N`, up to the first that is not full. -/
def chunkLengths (N n : Nat) : List Nat := List.replicate (n / N) N ++ [n % N]

theorem length_chunkLengths : (chunkLengths N n).length = n / N + 1 := by
  simp [chunkLengths]

theorem sum_chunkLengths : (chunkLengths N n).sum = n := by
  rw [chunkLengths, List.sum_append, List.sum_replicate_nat, List.sum_singleton, Nat.div_add_mod']

theorem chunkLengths_of_lt (few : n < N) : chunkLengths N n = [n] := by
  rw [chunkLengths, Nat.div_eq_of_lt few, Nat.mod_eq_of_lt few]
  rfl

theorem chunkLengths_of_le (pos : 0 < N) (full : N ≤ n) :
    chunkLengths N n = N :: chunkLengths N (n - N) := by
  rw [chunkLengths, Nat.div_eq_sub_div pos full, Nat.mod_eq_sub_mod full, List.replicate_succ]
  rfl

end Lengths

/-- How long the act is a rest, if it is one. -/
def Act.rest? {σ : Type} : Act σ → Option Duration
  | .paused d => some d
  | _ => none

namespace JobCycle

variable {ω : Type} {c : JobCycle} {guard : Guard} {cutoff : Instant} {rounds : Nat}
  {ending : Ending} {acts : List (Act (Place ω))} {s s' : Store}

/-- The rests that follow so many full chunks. -/
def rests (c : JobCycle) (full : Nat) : List Duration :=
  if c.pause = 0 then [] else List.replicate full c.pause

theorem rests_succ (full : Nat) :
    c.rests (full + 1) = (c.pauses : List (Act (Place ω))).filterMap Act.rest? ++ c.rests full := by
  unfold rests pauses
  split_ifs with none <;> simp_all [Act.rest?, List.replicate_succ]

/-- The acts of deleting `n` jobs chunk by chunk, up to the first chunk that is not full. -/
structure WholeChunks (c : JobCycle) (n : Nat) (ending : Ending) (acts : List (Act (Place ω))) :
    Prop where
  within : ending = .within
  lengths : (deletions acts).map UInt64.toNat = chunkLengths c.policy.chunkSize.toNat n
  deletes : acts.countP Act.deletes = n / c.policy.chunkSize.toNat + 1
  rests : acts.filterMap Act.rest? = c.rests (n / c.policy.chunkSize.toNat)

namespace WholeChunks

variable {n : Nat} {reading : Duration} {k : UInt64} {before after : Place ω}

theorem last (few : n < c.policy.chunkSize.toNat) (went : k.toNat = n) :
    c.WholeChunks n .within [.looked reading,
      .asked (.deleteChunkBefore cutoff c.policy.chunkSize) before (.ok k) after] where
  within := rfl
  lengths := by
    rw [chunkLengths_of_lt few, ← went]
    rfl
  deletes := by
    rw [Nat.div_eq_of_lt few]
    rfl
  rests := by
    rw [Nat.div_eq_of_lt few]
    simp [JobCycle.rests, Act.rest?]

theorem full (filled : c.policy.chunkSize.toNat ≤ n) (went : k.toNat = c.policy.chunkSize.toNat)
    {later : List (Act (Place ω))}
    (h : c.WholeChunks (n - c.policy.chunkSize.toNat) ending later) :
    c.WholeChunks n ending (.looked reading ::
      .asked (.deleteChunkBefore cutoff c.policy.chunkSize) before (.ok k) after ::
        (c.pauses ++ later)) := by
  have pos : 0 < c.policy.chunkSize.toNat := c.policy.chunkSize_pos
  refine ⟨h.within, ?_, ?_, ?_⟩
  · change (k :: deletions (c.pauses ++ later)).map UInt64.toNat = _
    rw [deletions_append, deletions_eq_nil c.pauses_read, List.nil_append, List.map_cons, went,
      h.lengths, chunkLengths_of_le pos filled]
  · rw [countP_deletes_looked, List.countP_cons_of_pos rfl, List.countP_append,
      countP_deletes_eq_zero c.pauses_read, h.deletes, Nat.zero_add, Nat.div_eq_sub_div pos filled]
  · change (c.pauses ++ later).filterMap Act.rest? = _
    rw [List.filterMap_append, h.rests, Nat.div_eq_sub_div pos filled, rests_succ]

theorem rowsDeleted_eq (h : c.WholeChunks n ending acts) : rowsDeleted acts = n := by
  rw [rowsDeleted, h.lengths, sum_chunkLengths]

theorem statements_eq (h : c.WholeChunks n ending acts) :
    (deletions acts).length = n / c.policy.chunkSize.toNat + 1 := by
  rw [← List.length_map, h.lengths, length_chunkLengths]

end WholeChunks

/-- Without a time limit, if no job that is due is pinned and each chunk can be named in one
statement, the jobs go in full chunks, and the last one takes what is left. A full chunk takes the
lowest jobs that are due, so there is one chunk less to come. -/
theorem ChunksDeleted.whole (h : c.ChunksDeleted guard cutoff rounds ending acts)
    (unlimited : guard.maxRuntime = none) (few : c.policy.chunkSize.toNat ≤ Store.maxVariables) :
    ∀ {s : Store}, Executed s acts s' → s.Complete →
      s.Unpinned ((s.dueJobs cutoff).map (·.id)) →
      (s.dueJobs cutoff).length / c.policy.chunkSize.toNat < rounds →
      c.WholeChunks (s.dueJobs cutoff).length ending acts := by
  have pos : 0 < c.policy.chunkSize.toNat := c.policy.chunkSize_pos
  induction h with
  | spent => exact fun _ _ _ enough => absurd enough (Nat.not_lt_zero _)
  | tripped check => nomatch (guard.check_of_unlimited unlimited _).symm.trans check
  | @failed _ _ e =>
    intro s executed all unpinned _
    have nameable : Nameable c.policy.chunkSize (s.dueJobs cutoff).length :=
      Nat.le_trans (Nat.min_le_left _ _) few
    exact absurd executed.look.call.1 (perform_deleteChunkBefore_answered all nameable unpinned e _)
  | last _ short =>
    intro s executed _ _ _
    obtain ⟨rfl, sound, -⟩ := executed.look.linked
    obtain ⟨went, -⟩ := chunk_thins sound
    have short := Store.lt_toUInt64_iff.1 short
    exact .last (by omega) (by omega)
  | @full _ _ k b _ _ _ _ filled _ ih =>
    intro s executed all unpinned enough
    obtain ⟨rfl, sound, -⟩ := executed.look.linked
    obtain ⟨went, left⟩ := chunk_thins sound
    obtain ⟨m, pauses, later⟩ := executed.look.call.2.split
    obtain rfl := linked_unchanged pauses.linked c.pauses_read
    have filled := Store.lt_toUInt64_iff.not.1 filled
    have took : k.toNat = c.policy.chunkSize.toNat := by omega
    rw [left, took] at later
    have shrinks : b.store.Shrinks (b.store.jobsThinned cutoff c.policy.chunkSize.toNat) :=
      Store.shrinks_withoutJobs _ _
    have rest := ih later (shrinks.complete all) (shrinks.unpinned unpinned)
    rw [Store.dueJobs_jobsThinned, List.length_drop] at rest
    rw [Nat.div_eq_sub_div pos (by omega)] at enough
    exact .full (by omega) took (rest (Nat.lt_of_succ_lt_succ enough))

theorem JobsDeleted.whole {out : Ending × StepReport}
    (h : c.JobsDeleted guard cutoff rounds out acts) (unlimited : guard.maxRuntime = none)
    (few : c.policy.chunkSize.toNat ≤ Store.maxVariables) (executed : Executed s acts s')
    (all : s.Complete) (unpinned : s.Unpinned ((s.dueJobs cutoff).map (·.id)))
    (enough : (s.dueJobs cutoff).length / c.policy.chunkSize.toNat < rounds) :
    ∃ counted before after later,
      acts = .asked (.countBefore cutoff) before (.ok counted) after :: later ∧
      counted.toNat = (s.dueJobs cutoff).length ∧ out.2 = jobsStep.after later ∧
      c.WholeChunks (s.dueJobs cutoff).length out.1 later ∧
      s' = s.withoutJobs ((s.dueJobs cutoff).map (·.id)) := by
  cases h with
  | uncounted =>
    obtain ⟨k, after, answered⟩ := Request.answered all (.countBefore cutoff) trivial
    nomatch (executed.answer answered).1
  | counted chunks =>
    obtain ⟨performed, later⟩ := executed.call
    obtain ⟨hcount, hs⟩ := ofQuery_ok (f := fun s => s.countJobsBefore cutoff) performed
    rw [hs] at later
    have whole := chunks.whole unlimited few later all unpinned enough
    obtain ⟨d, -, left, -, all_gone, -⟩ := chunks.thins later.linked
    refine ⟨_, _, _, _, rfl, (Store.countJobsBefore_ok hcount).2, rfl, whole, ?_⟩
    rw [left, all_gone whole.within, Store.jobsThinned, List.take_length]

/-- Around a store that nobody else works on, with all tables there, no pin on a job that is due,
time without end and no fault, the deletion of jobs counts those that are due, takes them in full
chunks and one that is not full, and stops of its own accord. It rests after each full chunk, if it
is to rest at all; its step tells of as many chunks, and of as many jobs as were counted. -/
theorem deleteJobs_takes_whole_chunks (around : Surroundings ω) (span : Option DataDomain)
    (c : JobCycle) (guard : Guard) (unlimited : guard.maxRuntime = none) (cutoff : Instant)
    (rounds : Nat) (state : ω) (s : Store)
    (faultless : ∀ q state, (around.fault q state).1 = none) (all : s.Complete)
    (unpinned : s.Unpinned ((s.dueJobs cutoff).map (·.id)))
    (few : c.policy.chunkSize.toNat ≤ Store.maxVariables)
    (enough : (s.dueJobs cutoff).length / c.policy.chunkSize.toNat < rounds) :
    let world := World.alone around
    let out := c.deleteJobs (world.host span) world.access.jobs guard cutoff rounds
      ⟨⟨state, s⟩, []⟩
    let N := c.policy.chunkSize.toNat
    ∃ counted before after later,
      out.2.acts = .asked (.countBefore cutoff) before (.ok counted) after :: later ∧
      let n := counted.toNat
      n = (s.dueJobs cutoff).length ∧
      out.1 = (.within, { jobsStep with
        deleted := counted, statements := (n / N + 1).toUInt32 }) ∧
      later.countP Act.deletes = n / N + 1 ∧
      (deletions later).map UInt64.toNat = List.replicate (n / N) N ++ [n % N] ∧
      (later.filterMap Act.rest? = if c.pause = 0 then [] else List.replicate (n / N) c.pause) ∧
      out.2.state.store = s.withoutJobs ((s.dueJobs cutoff).map (·.id)) := by
  intro world out N
  have course : world.Does (c.deleteJobs (world.host span) world.access.jobs guard cutoff rounds)
      (c.JobsDeleted guard cutoff rounds) := c.deleteJobs_course guard cutoff rounds
  obtain ⟨acts, ran, deleted⟩ := course ⟨⟨state, s⟩, []⟩
  have hacts : out.2.acts = acts := ran.acts_eq
  obtain ⟨counted, before, after, later, rfl, hn, hstep, whole, left⟩ :=
    deleted.whole unlimited few (ran.executed faultless) all unpinned enough
  rw [← hn] at whole
  refine ⟨counted, before, after, later, hacts, hn, Prod.ext whole.within ?_, whole.deletes,
    whole.lengths, whole.rests, left⟩
  rw [show out.1.2 = _ from hstep, StepReport.after_eq, whole.rowsDeleted_eq, whole.statements_eq]
  simp [jobsStep, N]

/-- Four jobs in chunks of two: after the second full chunk an empty one is the last. -/
theorem deleteJobs_takes_whole_chunks_of_two :
    let seeds : List Store.Seed := [.ownJobs "1969" 4, .ownJobs "1971" 1]
    let s := Store.Seed.sowAll .empty seeds
    let epoch : Instant := ⟨0, 0, by decide⟩
    let c : JobCycle := ⟨⟨0, 2, none, by decide⟩, 5⟩
    let world := World.alone (Surroundings.still epoch)
    let out := c.deleteJobs (world.host none) world.access.jobs ⟨0, none⟩ epoch 3 ⟨⟨(), s⟩, []⟩
    s.Complete ∧ s.Unpinned ((s.dueJobs epoch).map (·.id)) ∧
      (s.dueJobs epoch).length / c.policy.chunkSize.toNat < 3 ∧
      out.1 = (.within, ⟨"jobs", 4, 3, none⟩) ∧
      ∃ first later, out.2.acts = first :: later ∧
        (deletions later).map UInt64.toNat = [2, 2, 0] ∧ later.filterMap Act.rest? = [5, 5] := by
  intro seeds s epoch c world out
  have all : s.Complete := by
    intro name
    cases name <;> decide +kernel
  have unpinned : s.Unpinned ((s.dueJobs epoch).map (·.id)) := by decide +kernel
  have four : (s.dueJobs epoch).length = 4 := by decide +kernel
  have enough : (s.dueJobs epoch).length / c.policy.chunkSize.toNat < 3 := by
    rw [four]
    decide
  obtain ⟨counted, before, after, later, hacts, hn, hout, -, lengths, rests, -⟩ :=
    deleteJobs_takes_whole_chunks (Surroundings.still epoch) none c ⟨0, none⟩ rfl epoch 3 () s
      (fun _ _ => rfl) all unpinned (by decide) enough
  have hcounted : counted = 4 := UInt64.toNat_inj.1 (hn.trans four)
  subst hcounted
  have told : _ = (Ending.within, (⟨"jobs", 4, 3, none⟩ : StepReport)) := hout.trans (by decide)
  have went : _ = [2, 2, 0] := lengths.trans (by decide)
  have rested : _ = [5, 5] := rests.trans (by decide)
  with_reducible exact ⟨all, unpinned, enough, told, _, _, hacts, went, rested⟩

end JobCycle

end Retention.Cycle
