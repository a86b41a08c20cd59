import Retention.Proofs.ChunkSizes

/-!
# Jobs behind a pin

A pin on a job that is due (`Store.HeldAt`) makes the chunk with that job fail, and only that one:
what earlier chunks took stays gone. The error does not pass, so the cycle ends with it and lookup
rows are left alone. How many jobs go first depends only on the place of the first pinned one among
those that are due and on the size of chunks (`JobCycle.run_stops_at_pin`).
-/

namespace Retention

namespace Store

open Time (Instant)

/-- Of the jobs that are due, in the order of their keys, the one at place `p` is the first that a
pin points at. -/
structure HeldAt (cutoff : Instant) (p : Nat) (s : Store) : Prop where
  spared : s.Unpinned (((s.dueJobs cutoff).take p).map (·.id))
  held : ∃ row ∈ (s.dueJobs cutoff)[p]?, ∃ pin ∈ s.pinRows, pin.job = row.id

instance (cutoff : Instant) (p : Nat) (s : Store) : Decidable (s.HeldAt cutoff p) :=
  decidable_of_iff (_ ∧ _) ⟨fun h => ⟨h.1, h.2⟩, fun h => ⟨h.1, h.2⟩⟩

namespace HeldAt

variable {cutoff : Instant} {p : Nat} {s : Store}

theorem lt_length (h : s.HeldAt cutoff p) : p < (s.dueJobs cutoff).length := by
  obtain ⟨row, hrow, -⟩ := h.held
  exact (List.getElem?_eq_some_iff.1 hrow).1

/-- The first `n` jobs are free as long as the held one is not among them. -/
theorem unpinned_take_iff (h : s.HeldAt cutoff p) (n : Nat) :
    s.Unpinned (((s.dueJobs cutoff).take n).map (·.id)) ↔ n ≤ p := by
  constructor
  · intro free
    by_contra beyond
    obtain ⟨row, hrow, pin, hpin, same⟩ := h.held
    have within : row ∈ (s.dueJobs cutoff).take n := by
      refine List.mem_of_getElem? (i := p) ?_
      rwa [List.getElem?_take_of_lt (Nat.not_le.1 beyond)]
    exact free pin hpin (same ▸ List.mem_map_of_mem within)
  · intro le pin hpin hmem
    have shorter : (s.dueJobs cutoff).take n ⊆ (s.dueJobs cutoff).take p :=
      (List.take_prefix_take_left le).subset
    exact h.spared pin hpin (List.map_subset _ shorter hmem)

/-- Jobs before the held one may go. -/
theorem thinned (h : s.HeldAt cutoff p) {n : Nat} (le : n ≤ p) :
    (s.jobsThinned cutoff n).HeldAt cutoff (p - n) := by
  constructor
  · rw [dueJobs_jobsThinned]
    intro pin hpin hmem
    refine h.spared pin hpin (List.map_subset _ ?_ hmem)
    rw [List.take_drop, Nat.add_sub_cancel' le]
    exact List.drop_subset _ _
  · rw [dueJobs_jobsThinned, List.getElem?_drop, Nat.add_sub_cancel' le]
    exact h.held

end HeldAt

/-- A chunk goes if it ends before the held job. -/
theorem Complete.deleteJobChunk_of_held {cutoff : Instant} {p : Nat} {s : Store} (all : s.Complete)
    (held : s.HeldAt cutoff p) {size : UInt32} (few : size.toNat ≤ maxVariables) :
    deleteJobChunk cutoff size s =
      if size.toNat ≤ p then .ok (size.toUInt64, s.jobsThinned cutoff size.toNat)
      else .error (.refused .foreignKey) := by
  have nameable :
      ¬ maxVariables < (((s.dueJobs cutoff).take size.toNat).map (·.id)).length := by
    rw [List.length_map, List.length_take]
    omega
  rw [all.deleteJobChunk_eq, if_neg nameable]
  by_cases before : size.toNat ≤ p
  · have whole : (((s.dueJobs cutoff).take size.toNat).map (·.id)).length = size.toNat := by
      rw [List.length_map, List.length_take]
      exact Nat.min_eq_left (Nat.le_of_lt (Nat.lt_of_le_of_lt before held.lt_length))
    have told : size.toNat.toUInt64 = size.toUInt64 := by simp
    rw [if_pos ((held.unpinned_take_iff _).2 before), if_pos before, whole, told, jobsThinned]
  · rw [if_neg (mt (held.unpinned_take_iff _).1 before), if_neg before]

end Store

namespace Cycle

open Store (DatabaseError)
open Time (Instant)

variable {ω : Type}

theorem perform_deleteChunkBefore_held {cutoff : Instant} {p : Nat} {s : Store} (all : s.Complete)
    (held : s.HeldAt cutoff p) {size : UInt32} (few : size.toNat ≤ Store.maxVariables) :
    (Request.deleteChunkBefore cutoff size).perform s =
      if size.toNat ≤ p then (.ok size.toUInt64, s.jobsThinned cutoff size.toNat)
      else (.error (.refused .foreignKey), s) := by
  change ofStatement _ s = _
  rw [ofStatement, all.deleteJobChunk_of_held held few]
  split_ifs <;> rfl

namespace JobCycle

variable {c : JobCycle} {guard : Guard} {cutoff : Instant} {rounds : Nat} {ending : Ending}
  {acts : List (Act (Place ω))} {s s' : Store}

/-- Whole chunks before the held job go, each in a round of its own, and the chunk with that job
ends them. -/
theorem ChunksDeleted.stops_at_pin (h : c.ChunksDeleted guard cutoff rounds ending acts)
    (unlimited : guard.maxRuntime = none) (few : c.policy.chunkSize.toNat ≤ Store.maxVariables) :
    ∀ {s : Store} {p : Nat}, Executed s acts s' → s.Complete → s.HeldAt cutoff p →
      p / c.policy.chunkSize.toNat < rounds →
      ending = .failed (.refused .foreignKey) ∧
        s' = s.jobsThinned cutoff
          (p / c.policy.chunkSize.toNat * c.policy.chunkSize.toNat) := by
  have pos : 0 < c.policy.chunkSize.toNat := c.policy.chunkSize_pos
  have stopped {s : Store} {p : Nat} {b a : Place ω} {e : DatabaseError}
      {later : List (Act (Place ω))} (all : s.Complete) (held : s.HeldAt cutoff p)
      (call : Executed s
        (.asked (.deleteChunkBefore cutoff c.policy.chunkSize) b (.error e) a :: later) s') :
      e = .refused .foreignKey ∧ a.store = s ∧ p < c.policy.chunkSize.toNat := by
    have performed := call.call.1
    rw [perform_deleteChunkBefore_held all held few] at performed
    split_ifs at performed with before
    · nomatch (Prod.mk.inj performed).1
    · obtain ⟨told, left⟩ := Prod.mk.inj performed
      exact ⟨(Except.error.inj told).symm, left.symm, Nat.not_le.1 before⟩
  have went {s : Store} {p : Nat} {b a : Place ω} {k : UInt64}
      {later : List (Act (Place ω))} (all : s.Complete) (held : s.HeldAt cutoff p)
      (call : Executed s
        (.asked (.deleteChunkBefore cutoff c.policy.chunkSize) b (.ok k) a :: later) s') :
      k = c.policy.chunkSize.toUInt64 ∧
        a.store = s.jobsThinned cutoff c.policy.chunkSize.toNat ∧
        c.policy.chunkSize.toNat ≤ p := by
    have performed := call.call.1
    rw [perform_deleteChunkBefore_held all held few] at performed
    split_ifs at performed with before
    · obtain ⟨told, left⟩ := Prod.mk.inj performed
      exact ⟨(Except.ok.inj told).symm, left.symm, before⟩
    · nomatch (Prod.mk.inj performed).1
  induction h with
  | spent => exact fun _ _ _ enough => absurd enough (Nat.not_lt_zero _)
  | tripped check => nomatch (guard.check_of_unlimited unlimited _).symm.trans check
  | failed =>
    intro s p executed all held _
    obtain ⟨rfl, unchanged, within⟩ := stopped all held executed.look
    refine ⟨rfl, ?_⟩
    rw [Nat.div_eq_of_lt within, Nat.zero_mul, Store.jobsThinned_zero]
    exact executed.look.call.2.linked.trans unchanged
  | last _ short =>
    intro s p executed all held _
    obtain ⟨rfl, -⟩ := went all held executed.look
    exact absurd short (UInt64.lt_irrefl _)
  | full _ _ _ ih =>
    intro s p executed all held enough
    obtain ⟨-, left, before⟩ := went all held executed.look
    obtain ⟨m, pauses, later⟩ := executed.look.call.2.split
    obtain rfl := linked_unchanged pauses.linked c.pauses_read
    have complete : (s.jobsThinned cutoff c.policy.chunkSize.toNat).Complete :=
      (s.shrinks_withoutJobs _).complete all
    rw [left] at later
    rw [Nat.div_eq_sub_div pos before] at enough ⊢
    obtain ⟨same, hs⟩ := ih later complete (held.thinned before) (Nat.lt_of_succ_lt_succ enough)
    refine ⟨same, ?_⟩
    rw [hs, Store.jobsThinned_jobsThinned, Nat.succ_mul, Nat.add_comm]

theorem JobsDeleted.stops_at_pin {out : Ending × StepReport} {p : Nat}
    (h : c.JobsDeleted guard cutoff rounds out acts) (unlimited : guard.maxRuntime = none)
    (few : c.policy.chunkSize.toNat ≤ Store.maxVariables) (executed : Executed s acts s')
    (all : s.Complete) (held : s.HeldAt cutoff p)
    (enough : p / c.policy.chunkSize.toNat < rounds) :
    out.1 = .failed (.refused .foreignKey) ∧
      s' = s.jobsThinned cutoff (p / c.policy.chunkSize.toNat * c.policy.chunkSize.toNat) := by
  obtain ⟨later, executed, chunks, -⟩ := h.chunks executed all
  exact chunks.stops_at_pin unlimited few executed all held enough

/-- Around a store that nobody else works on, with all tables there, time without end and no fault,
a pin on a job that is due makes a cycle fail. The jobs that were taken are those of the whole
chunks before it; other rows are as they were, those that jobs point at as well. -/
theorem run_stops_at_pin (around : Surroundings ω) (span : Option DataDomain) (c : JobCycle)
    (rounds : Nat) (state : ω) (s : Store) {cutoff : Instant} {p : Nat}
    (due : c.policy.cutoff? around.now = some cutoff) (unlimited : c.policy.maxRuntime = none)
    (faultless : ∀ q state, (around.fault q state).1 = none) (all : s.Complete)
    (few : c.policy.chunkSize.toNat ≤ Store.maxVariables) (held : s.HeldAt cutoff p)
    (enough : p / c.policy.chunkSize.toNat < rounds) :
    let world := World.alone around
    let out := c.run (world.host span) world.access.jobs world.access.lookups rounds
      ⟨⟨state, s⟩, []⟩
    let taken := (s.dueJobs cutoff).take (p / c.policy.chunkSize.toNat * c.policy.chunkSize.toNat)
    out.1 = .failed (.refused .foreignKey) ∧
      out.2.state.store = s.withoutJobs (taken.map (·.id)) := by
  intro world out taken
  obtain ⟨acts, ran, course⟩ := run_course world span c rounds ⟨⟨state, s⟩, []⟩
  have lasting : ¬ (DatabaseError.refused .foreignKey).isTransient := by decide +kernel
  exact course.fails due lasting (ran.executed faultless) fun jobs executed =>
    jobs.stops_at_pin unlimited few executed all held enough

/-- Five jobs and a pin on the fourth: the first two go, in a chunk of their own. -/
theorem run_stops_at_pin_fourth :
    let seeds : List Store.Seed := [.lookups .jobType 1 none, .lookups .jobGroup 1 none,
      .lookups .machine 2 none, .jobs "1969" 1 1 1 5 1 none, .jobs "1971" 1 1 1 1 1 none, .pin 4]
    let s := Store.Seed.sowAll .empty seeds
    let epoch : Instant := ⟨0, 0, by decide⟩
    let c : JobCycle := ⟨⟨0, 2, none, by decide⟩, 0⟩
    let world := World.alone (Surroundings.still epoch)
    let out := c.run (world.host none) world.access.jobs world.access.lookups 7 ⟨⟨(), s⟩, []⟩
    c.policy.cutoff? epoch = some epoch ∧ s.Complete ∧ s.HeldAt epoch 3 ∧
      out.1 = .failed (.refused .foreignKey) ∧ out.2.state.store = s.withoutJobs [1, 2] := by
  intro seeds s epoch c world out
  have due : c.policy.cutoff? epoch = some epoch := by decide +kernel
  have all : s.Complete := by
    intro name
    cases name <;> decide +kernel
  have held : s.HeldAt epoch 3 := by decide +kernel
  let size := c.policy.chunkSize.toNat
  have taken : ((s.dueJobs epoch).take (3 / size * size)).map (·.id) = [1, 2] := by
    decide +kernel
  have h := run_stops_at_pin (Surroundings.still epoch) none c 7 () s due rfl (fun _ _ => rfl) all
    (by decide) held (by decide)
  dsimp only at h
  rw [taken] at h
  with_reducible exact ⟨due, all, held, h⟩

end JobCycle

end Cycle

end Retention
