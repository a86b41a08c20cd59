import Retention.Proofs.Pruning

/-!
# Chunks that a statement cannot name

A statement binds the key of each row that it is to take, and it binds only so many values. A chunk
of jobs or of lookup rows with more rows than that is refused as a whole; the size of chunks alone
does not refuse it, for a chunk has no more rows than there are (`Nameable`). Around a store that
nobody else works on, with time without end and no fault, that is the only thing that can go wrong
(`JobCycle.run_clean_iff_nameable`).
-/

namespace Retention.Cycle

open Store (DatabaseError LookupKind maxVariables)
open Time (Instant)

/-- A statement can name a chunk of this size from among `n` rows. -/
def Nameable (size : UInt32) (n : Nat) : Prop := min size.toNat n ≤ maxVariables

instance (size : UInt32) (n : Nat) : Decidable (Nameable size n) :=
  inferInstanceAs (Decidable (_ ≤ _))

theorem Nameable.mono {size : UInt32} {m n : Nat} (h : Nameable size n) (le : m ≤ n) :
    Nameable size m := by
  unfold Nameable at h ⊢
  omega

variable {ω : Type}

/-- The call was carried out on the store as it was, whatever came of it. -/
def Act.Performed : Act (Place ω) → Prop
  | .asked q before answer after => q.perform before.store = (answer, after.store)
  | _ => True

theorem Act.Carried.performed {around : Surroundings ω} {act : Act (Place ω)}
    (carried : act.Carried around) (unforced : act.Unforced around) : act.Performed := by
  cases act with
  | asked q before =>
    simp only [Carried, show around.forced q before = none from unforced] at carried
    exact carried
  | _ => trivial

/-- Acts that lead from one store to the other with nobody else at work and no fault. -/
structure Executed (s : Store) (acts : List (Act (Place ω))) (s' : Store) : Prop where
  linked : Linked s acts s'
  performed : ∀ act ∈ acts, act.Performed

namespace Executed

variable {s s' : Store} {acts acts' : List (Act (Place ω))}

theorem look {reading : Time.Duration} (h : Executed s (.looked reading :: acts) s') :
    Executed s acts s' :=
  ⟨h.linked, (List.forall_mem_cons.1 h.performed).2⟩

theorem call {q : Request} {before after : Place ω} {answer : Except DatabaseError q.Answer}
    (h : Executed s (.asked q before answer after :: acts) s') :
    q.perform s = (answer, after.store) ∧ Executed after.store acts s' := by
  obtain ⟨⟨rfl, -, linked⟩, performed⟩ := h
  obtain ⟨first, later⟩ := List.forall_mem_cons.1 performed
  exact ⟨first, linked, later⟩

theorem answer {q : Request} {before after : Place ω} {given answer : Except DatabaseError q.Answer}
    {m : Store} (h : Executed s (.asked q before given after :: acts) s')
    (performed : q.perform s = (answer, m)) : given = answer ∧ Executed m acts s' := by
  obtain ⟨first, later⟩ := h.call
  obtain ⟨rfl, rfl⟩ := Prod.mk.inj (performed.symm.trans first)
  exact ⟨rfl, later⟩

theorem split (h : Executed s (acts ++ acts') s') :
    ∃ m, Executed s acts m ∧ Executed m acts' s' := by
  obtain ⟨m, first, later⟩ := (linked_append _ _).1 h.linked
  obtain ⟨performed, performed'⟩ := List.forall_mem_append.1 h.performed
  exact ⟨m, ⟨first, performed⟩, later, performed'⟩

end Executed

theorem World.Ran.executed {around : Surroundings ω} {start finish : Scene (Place ω)}
    {acts : List (Act (Place ω))} (ran : (World.alone around).Ran start acts finish)
    (faultless : ∀ q state, (around.fault q state).1 = none) :
    Executed start.state.store acts finish.state.store := by
  refine ⟨ran.linked, fun act hact => (ran.carried act hact).performed ?_⟩
  cases act with
  | asked q before => exact faultless q before.around
  | _ => trivial

section Refusals

variable {s : Store}

theorem perform_deleteChunkBefore_refused (all : s.Complete) {cutoff : Instant} {size : UInt32}
    (many : ¬ Nameable size (s.dueJobs cutoff).length) :
    (Request.deleteChunkBefore cutoff size).perform s =
      (.error (.refused .tooManyVariables), s) := by
  change ofStatement _ s = _
  rw [ofStatement, Store.deleteJobChunk_refused all (Nat.not_le.1 many)]

theorem perform_deleteChunkBefore_answered (all : s.Complete) {cutoff : Instant} {size : UInt32}
    (few : Nameable size (s.dueJobs cutoff).length)
    (unpinned : s.Unpinned ((s.dueJobs cutoff).map (·.id))) (e : DatabaseError) (s' : Store) :
    (Request.deleteChunkBefore cutoff size).perform s ≠ (.error e, s') := by
  obtain ⟨k, after, answered⟩ := Store.deleteJobChunk_answered all few unpinned
  change ofStatement _ s ≠ _
  rw [ofStatement, answered]
  intro failed
  cases failed

end Refusals

section Pruning

variable {guard : Guard} {kind : LookupKind} {size : UInt32} {acts : List (Act (Place ω))}
  {s s' : Store}

theorem perform_deleteUnreferenced_refused {ids : List Int} (many : maxVariables < ids.length) :
    (Request.deleteUnreferenced kind ids).perform s =
      (.error (.refused .tooManyVariables), s) := by
  change ofStatement _ s = _
  rw [ofStatement, Store.deleteUnreferenced_refused many]

theorem perform_deleteUnreferenced_answered (all : s.Complete) {ids : List Int}
    (few : ids.length ≤ maxVariables) (e : DatabaseError) (s' : Store) :
    (Request.deleteUnreferenced kind ids).perform s ≠ (.error e, s') := by
  obtain ⟨k, after, answered⟩ := Store.deleteUnreferenced_answered all kind few
  change ofStatement _ s ≠ _
  rw [ofStatement, answered]
  intro failed
  cases failed

theorem chunksOf_eq_cons {α : Type} {n : Nat} {xs : List α} (ne : xs ≠ []) :
    ∃ rest, chunksOf n xs = xs.take (max n 1) :: rest := by
  rcases xs with _ | ⟨x, xs⟩
  · exact absurd rfl ne
  · exact ⟨_, rfl⟩

theorem length_le_of_mem_chunksOf {α : Type} {n : Nat} {xs chunk : List α}
    (h : chunk ∈ chunksOf n xs) : chunk.length ≤ min (max n 1) xs.length := by
  refine Nat.le_min.2 ⟨length_le_of_mem_chunks _ h, ?_⟩
  rw [← flatten_chunksOf n xs]
  exact (List.sublist_flatten_of_mem h).length_le

theorem ChunksPruned.not_refused {chunks : List (List Int)} {step : StepReport}
    {out : Budget × StepReport} (h : ChunksPruned guard kind chunks step out acts)
    (unlimited : guard.maxRuntime = none) :
    ∀ {s : Store}, Executed s acts s' → s.Complete → (∀ ids ∈ chunks, ids.length ≤ maxVariables) →
      out.1 = .within ∧ out.2.error = step.error := by
  induction h with
  | done => exact fun _ _ _ => ⟨rfl, rfl⟩
  | tripped check => nomatch (guard.check_of_unlimited unlimited _).symm.trans check
  | @failed _ _ _ _ e =>
    intro s executed all few
    exact absurd executed.look.call.1
      (perform_deleteUnreferenced_answered all (few _ List.mem_cons_self) e _)
  | @next ids _ _ _ _ _ _ _ _ _ _ ih =>
    intro s executed all few
    obtain ⟨performed, later⟩ := executed.look.call
    have shrinks := (Request.effect (.deleteUnreferenced kind ids) s).shrinks
    rw [performed] at shrinks
    exact ih later (shrinks.complete all) (List.forall_mem_cons.1 few).2

theorem KindPruned.lists_orphans {out : Budget × StepReport}
    (h : KindPruned guard size kind out acts) (executed : Executed s acts s')
    (all : s.Complete) :
    ∃ later : List (Act (Place ω)), Executed s later s' ∧
      ChunksPruned guard kind (chunksOf size.toNat (s.orphans kind)) (pruneStep kind) out later
    := by
  cases h with
  | unlisted =>
    obtain ⟨ids, after, answered⟩ := Request.answered all (.unreferencedIds kind) trivial
    nomatch (executed.answer answered).1
  | listed chunks =>
    obtain ⟨performed, later⟩ := executed.call
    obtain ⟨hids, hs⟩ := ofQuery_ok (f := fun s => s.unreferencedIds kind) performed
    rw [hs] at later
    rw [Store.unreferencedIds_ok hids] at chunks
    exact ⟨_, later, chunks⟩

/-- If the chunks of a kind have more keys than a statement can name, the first one is refused, and
no row goes. -/
theorem KindPruned.refused {out : Budget × StepReport} (h : KindPruned guard size kind out acts)
    (unlimited : guard.maxRuntime = none) (pos : 0 < size) (executed : Executed s acts s')
    (all : s.Complete) (many : ¬ Nameable size (s.orphans kind).length) :
    out.1 = .within ∧ out.2.error = some (DatabaseError.refused .tooManyVariables).message ∧
      s' = s := by
  obtain ⟨later, executed, chunks⟩ := h.lists_orphans executed all
  have many : maxVariables < min size.toNat (s.orphans kind).length := Nat.not_le.1 many
  have pos : 0 < size.toNat := pos
  have some_orphan : s.orphans kind ≠ [] := by
    intro none
    simp [none] at many
  obtain ⟨rest, cut⟩ := chunksOf_eq_cons (n := size.toNat) some_orphan
  rw [cut] at chunks
  have long : maxVariables < ((s.orphans kind).take (max size.toNat 1)).length := by
    rw [List.length_take]
    omega
  have refused : (Request.deleteUnreferenced kind _).perform s = _ :=
    perform_deleteUnreferenced_refused long
  cases chunks with
  | tripped check => nomatch (guard.check_of_unlimited unlimited _).symm.trans check
  | failed =>
    obtain ⟨same, nothing⟩ := executed.look.answer refused
    cases same
    exact ⟨rfl, rfl, nothing.linked⟩
  | next => nomatch (executed.look.answer refused).1

theorem KindPruned.taken {out : Budget × StepReport} (h : KindPruned guard size kind out acts)
    (unlimited : guard.maxRuntime = none) (pos : 0 < size) (executed : Executed s acts s')
    (all : s.Complete) (few : Nameable size (s.orphans kind).length) :
    out.1 = .within ∧ out.2.error = none ∧ s' = s.withoutOrphans kind := by
  obtain ⟨later, executed', chunks⟩ := h.lists_orphans executed all
  have pos : 0 < size.toNat := pos
  obtain ⟨within, no_error⟩ := chunks.not_refused unlimited executed' all fun ids hids => by
    have := length_le_of_mem_chunksOf hids
    unfold Nameable at few
    omega
  exact ⟨within, no_error, (h.takes executed.linked within no_error).1⟩

/-- The error that the pruning of a kind ends with, if there are so many orphans. -/
def pruneError? (size : UInt32) (n : Nat) : Option String :=
  if Nameable size n then none else some (DatabaseError.refused .tooManyVariables).message

/-- The kinds that go are those whose orphans can be named, and the others stay as they are. -/
theorem KindsPruned.told {kinds : List LookupKind} {report : Report} {out : Budget × Report}
    (h : KindsPruned guard size kinds report out acts) (unlimited : guard.maxRuntime = none)
    (pos : 0 < size) : ∀ {s : Store}, kinds.Nodup → Executed s acts s' → s.Complete →
      out.1 = .within ∧
      out.2.steps.map (·.error) = report.steps.map (·.error) ++
        kinds.map (fun kind => pruneError? size (s.orphans kind).length) ∧
      s' = s.pruned (kinds.filter fun kind => Nameable size (s.orphans kind).length) := by
  induction h with
  | done => exact fun _ executed _ => ⟨rfl, (List.append_nil _).symm, executed.linked⟩
  | tripped check => nomatch (guard.check_of_unlimited unlimited _).symm.trans check
  | @exceeded kind _ _ _ _ _ _ _ pruned =>
    intro s _ executed all
    by_cases few : Nameable size (s.orphans kind).length
    · nomatch (pruned.taken unlimited pos executed.look all few).1
    · nomatch (pruned.refused unlimited pos executed.look all few).1
  | @next kind rest report _ step _ _ _ _ pruned _ ih =>
    intro s distinct executed all
    obtain ⟨hkind, distinct⟩ := List.nodup_cons.1 distinct
    obtain ⟨m, first, others⟩ := executed.look.split
    by_cases few : Nameable size (s.orphans kind).length
    · obtain ⟨-, no_error, rfl⟩ := pruned.taken unlimited pos first all few
      have same : ∀ kind' ∈ rest, (s.withoutOrphans kind).orphans kind' = s.orphans kind' :=
        fun kind' hk => Store.orphans_withoutOrphans_of_ne kind s fun h => hkind (h ▸ hk)
      have complete := (s.shrinks_withoutLookups kind (s.orphans kind)).complete all
      obtain ⟨within, errors, hs⟩ := ih distinct others complete
      refine ⟨within, ?_, ?_⟩
      · rw [errors, Report.push, List.map_append, List.map_singleton, no_error, List.map_cons,
          List.append_assoc, List.singleton_append, pruneError?, if_pos few]
        congr 2
        exact List.map_congr_left fun kind' hk => by rw [same kind' hk]
      · have same_rest : rest.filter (fun kind' =>
              Nameable size ((s.withoutOrphans kind).orphans kind').length) =
            rest.filter fun kind' => Nameable size (s.orphans kind').length :=
          List.filter_congr fun kind' hk => by rw [same kind' hk]
        rw [hs, same_rest, List.filter_cons, if_pos (decide_eq_true few)]
        rfl
    · obtain ⟨-, error, rfl⟩ := pruned.refused unlimited pos first all few
      obtain ⟨within, errors, hs⟩ := ih distinct others all
      refine ⟨within, ?_, ?_⟩
      · rw [errors, Report.push, List.map_append, List.map_singleton, error, List.map_cons,
          List.append_assoc, List.singleton_append, pruneError?, if_neg few]
      · rw [hs, List.filter_cons_of_neg (by simpa using few)]

end Pruning

namespace JobCycle

variable {c : JobCycle} {guard : Guard} {cutoff : Instant} {rounds : Nat} {ending : Ending}
  {acts : List (Act (Place ω))} {s s' : Store}

theorem ChunksDeleted.refused (h : c.ChunksDeleted guard cutoff rounds ending acts)
    (unlimited : guard.maxRuntime = none) (pos : 0 < rounds) (executed : Executed s acts s')
    (all : s.Complete) (many : ¬ Nameable c.policy.chunkSize (s.dueJobs cutoff).length) :
    ending = .failed (.refused .tooManyVariables) ∧ s' = s := by
  have refused := perform_deleteChunkBefore_refused all many
  cases h with
  | spent => exact absurd pos (Nat.lt_irrefl 0)
  | tripped check => nomatch (guard.check_of_unlimited unlimited _).symm.trans check
  | failed =>
    obtain ⟨same, nothing⟩ := executed.look.answer refused
    cases same
    exact ⟨rfl, nothing.linked⟩
  | last | full => nomatch (executed.look.answer refused).1

theorem ChunksDeleted.not_refused (h : c.ChunksDeleted guard cutoff rounds ending acts) :
    ∀ {s : Store}, Executed s acts s' → s.Complete →
      s.Unpinned ((s.dueJobs cutoff).map (·.id)) →
      Nameable c.policy.chunkSize (s.dueJobs cutoff).length → ∀ e, ending ≠ .failed e := by
  induction h with
  | @failed _ _ e =>
    intro s executed all unpinned few
    exact absurd executed.look.call.1 (perform_deleteChunkBefore_answered all few unpinned e _)
  | full _ _ _ ih =>
    intro s executed all unpinned few
    obtain ⟨performed, later⟩ := executed.look.call
    obtain ⟨m, pauses, later⟩ := later.split
    obtain rfl := linked_unchanged pauses.linked c.pauses_read
    have shrinks := (Request.effect (.deleteChunkBefore cutoff c.policy.chunkSize) s).shrinks
    rw [performed] at shrinks
    exact ih later (shrinks.complete all) (shrinks.unpinned unpinned)
      (few.mono (shrinks.dueJobs cutoff).length_le)
  | _ => exact fun _ _ _ _ _ => nofun

/-- The count is answered, so the chunks are what decides. -/
theorem JobsDeleted.chunks {out : Ending × StepReport}
    (h : c.JobsDeleted guard cutoff rounds out acts) (executed : Executed s acts s')
    (all : s.Complete) :
    ∃ later : List (Act (Place ω)), Executed s later s' ∧
      c.ChunksDeleted guard cutoff rounds out.1 later ∧ out.2 = jobsStep.after later := by
  cases h with
  | uncounted =>
    obtain ⟨k, after, answered⟩ := Request.answered all (.countBefore cutoff) trivial
    nomatch (executed.answer answered).1
  | counted chunks =>
    obtain ⟨performed, later⟩ := executed.call
    rw [← (Prod.mk.inj performed).2] at later
    exact ⟨_, later, chunks, rfl⟩

/-- Jobs go all together or not at all. -/
theorem JobsDeleted.decided {out : Ending × StepReport}
    (h : c.JobsDeleted guard cutoff rounds out acts) (unlimited : guard.maxRuntime = none)
    (executed : Executed s acts s') (all : s.Complete)
    (unpinned : s.Unpinned ((s.dueJobs cutoff).map (·.id))) (enough : s.jobRows.length < rounds) :
    if Nameable c.policy.chunkSize (s.dueJobs cutoff).length then
      out.1 = .within ∧ out.2.error = none ∧
        s' = s.withoutJobs ((s.dueJobs cutoff).map (·.id))
    else out.1 = .failed (.refused .tooManyVariables) ∧ s' = s := by
  obtain ⟨acts, executed, chunks, hstep⟩ := h.chunks executed all
  split_ifs with few
  · obtain ⟨d, -, hs, -, hw, -⟩ := chunks.thins executed.linked
    have due_le : (s.dueJobs cutoff).length ≤ s.jobRows.length := List.length_filter_le _ _
    have within : out.1 = .within := by
      cases ending : out.1 with
      | within => rfl
      | exceeded =>
        rw [ending] at chunks
        nomatch chunks.orderly.unstopped fun _ _ => guard.check_of_unlimited unlimited _
      | failed e => exact absurd ending (chunks.not_refused executed all unpinned few e)
      | unfinished =>
        exact absurd ending (chunks.finishes executed.linked (Nat.lt_of_le_of_lt due_le enough))
    refine ⟨within, hstep ▸ StepReport.error_after _ _, ?_⟩
    rw [hs, hw within, Store.jobsThinned, List.take_length]
  · exact chunks.refused unlimited (Nat.zero_lt_of_lt enough) executed all few

theorem Finished.decided {step : StepReport} {outcome : Outcome}
    (h : c.Finished guard .within step outcome acts) (unlimited : guard.maxRuntime = none)
    (executed : Executed s acts s') (all : s.Complete) :
    ∃ report, outcome = .completed report ∧
      report.steps.map (·.error) = step.error :: LookupKind.all.map (fun kind =>
        pruneError? c.policy.chunkSize (s.orphans kind).length) ∧
      s' = s.pruned (LookupKind.all.filter fun kind =>
        Nameable c.policy.chunkSize (s.orphans kind).length) := by
  have distinct : LookupKind.all.Nodup := by decide
  cases h with
  | tripped pruned =>
    obtain ⟨m, first, -⟩ := executed.split
    nomatch (pruned.told unlimited c.policy.chunkSize_pos distinct first all).1
  | pruned pruned =>
    obtain ⟨m, first, nothing⟩ := executed.split
    obtain ⟨-, errors, hs⟩ := pruned.told unlimited c.policy.chunkSize_pos distinct first all
    exact ⟨_, rfl, errors, nothing.look.linked.trans hs⟩

/-- A deletion that stops of its own accord is followed by the rest of the cycle. -/
theorem Course.goes_on {now : Instant} {outcome : Outcome}
    {P : StepReport → List (Act (Place ω)) → Store → Prop}
    (h : c.Course now rounds outcome acts) (due : c.policy.cutoff? now = some cutoff)
    (executed : Executed s acts s')
    (jobs : ∀ {started out m} {acts : List (Act (Place ω))},
      c.JobsDeleted ⟨started, c.policy.maxRuntime⟩ cutoff rounds out acts →
      Executed s acts m → out.1 = .within ∧ P out.2 acts m) :
    ∃ started step m, ∃ first later : List (Act (Place ω)),
      acts = .looked started :: (first ++ later) ∧ P step first m ∧ Executed m later s' ∧
      c.Finished ⟨started, c.policy.maxRuntime⟩ .within step outcome later := by
  cases h with
  | outOfRange none => nomatch due.symm.trans none
  | unfinished some deleted | failed some deleted =>
    cases due.symm.trans some
    nomatch (jobs deleted executed.look).1
  | deleted some deleted finish =>
    cases due.symm.trans some
    obtain ⟨m, first, later⟩ := executed.look.split
    exact ⟨_, _, m, _, _, rfl, (jobs deleted first).2, later, finish⟩
  | exceeded some deleted | passing some deleted =>
    cases due.symm.trans some
    obtain ⟨m, first, -⟩ := executed.look.split
    nomatch (jobs deleted first).1

/-- An error that does not pass and ends the deletion ends the cycle. -/
theorem Course.fails {now : Instant} {outcome : Outcome} {e : DatabaseError} {t : Store}
    (h : c.Course now rounds outcome acts) (due : c.policy.cutoff? now = some cutoff)
    (lasting : ¬ e.isTransient) (executed : Executed s acts s')
    (jobs : ∀ {started out m} {acts : List (Act (Place ω))},
      c.JobsDeleted ⟨started, c.policy.maxRuntime⟩ cutoff rounds out acts →
      Executed s acts m → out.1 = .failed e ∧ m = t) :
    outcome = .failed e ∧ s' = t := by
  cases h with
  | outOfRange none => nomatch due.symm.trans none
  | unfinished some deleted =>
    cases due.symm.trans some
    nomatch (jobs deleted executed.look).1
  | failed some deleted =>
    cases due.symm.trans some
    obtain ⟨same, left⟩ := jobs deleted executed.look
    cases same
    exact ⟨rfl, left⟩
  | deleted some deleted | exceeded some deleted =>
    cases due.symm.trans some
    obtain ⟨m, first, -⟩ := executed.look.split
    nomatch (jobs deleted first).1
  | passing some deleted transient =>
    cases due.symm.trans some
    obtain ⟨m, first, -⟩ := executed.look.split
    cases (jobs deleted first).1
    exact absurd transient lasting

/-- What comes of a cycle is decided by whether the jobs that are due can be named in chunks, and
then by whether the orphans that they leave can. -/
theorem Course.decided {now : Instant} {outcome : Outcome} (h : c.Course now rounds outcome acts)
    (due : c.policy.cutoff? now = some cutoff) (unlimited : c.policy.maxRuntime = none)
    (executed : Executed s acts s') (all : s.Complete)
    (unpinned : s.Unpinned ((s.dueJobs cutoff).map (·.id))) (enough : s.jobRows.length < rounds) :
    let gone := s.withoutJobs ((s.dueJobs cutoff).map (·.id))
    if Nameable c.policy.chunkSize (s.dueJobs cutoff).length then
      ∃ report, outcome = .completed report ∧
        report.steps.map (·.error) = none :: LookupKind.all.map (fun kind =>
          pruneError? c.policy.chunkSize (gone.orphans kind).length) ∧
        s' = gone.pruned (LookupKind.all.filter fun kind =>
          Nameable c.policy.chunkSize (gone.orphans kind).length)
    else outcome = .failed (.refused .tooManyVariables) ∧ s' = s := by
  intro gone
  split_ifs with few
  · obtain ⟨started, step, m, first, later, -, ⟨no_error, rfl⟩, rest, finish⟩ :=
      h.goes_on (P := fun step _ m => step.error = none ∧ m = gone) due executed
        fun jobs first => by
          have decided := jobs.decided unlimited first all unpinned enough
          rwa [if_pos few] at decided
    have complete := (s.shrinks_withoutJobs ((s.dueJobs cutoff).map (·.id))).complete all
    have finished := finish.decided unlimited rest complete
    rwa [no_error] at finished
  · have lasting : ¬ (DatabaseError.refused .tooManyVariables).isTransient := by decide +kernel
    refine h.fails due lasting executed fun jobs first => ?_
    have decided := jobs.decided unlimited first all unpinned enough
    rwa [if_neg few] at decided

section Runs

variable (around : Surroundings ω) (span : Option DataDomain) (c : JobCycle) (rounds : Nat)
  (state : ω) (s : Store) {cutoff : Instant} (due : c.policy.cutoff? around.now = some cutoff)
  (unlimited : c.policy.maxRuntime = none)
  (faultless : ∀ q state, (around.fault q state).1 = none) (all : s.Complete)
  (unpinned : s.Unpinned ((s.dueJobs cutoff).map (·.id))) (enough : s.jobRows.length < rounds)
include due unlimited faultless all unpinned enough

theorem run_decided :
    let world := World.alone around
    let out := c.run (world.host span) world.access.jobs world.access.lookups rounds
      ⟨⟨state, s⟩, []⟩
    let left := out.2.state.store
    let gone := s.withoutJobs ((s.dueJobs cutoff).map (·.id))
    let size := c.policy.chunkSize
    if Nameable size (s.dueJobs cutoff).length then ∃ report, out.1 = .completed report ∧
      report.steps.map (·.error) =
        none :: LookupKind.all.map (fun kind => pruneError? size (gone.orphans kind).length) ∧
      left = gone.pruned (LookupKind.all.filter fun kind =>
        Nameable size (gone.orphans kind).length)
    else out.1 = .failed (.refused .tooManyVariables) ∧ left = s := by
  intro world out left gone size
  obtain ⟨acts, ran, course⟩ := run_course world span c rounds ⟨⟨state, s⟩, []⟩
  exact course.decided due unlimited (ran.executed faultless) all unpinned enough

end Runs

theorem no_failures_iff {report : Report} {size : UInt32} {orphans : LookupKind → Nat}
    (errors : report.steps.map (·.error) =
      none :: LookupKind.all.map fun kind => pruneError? size (orphans kind)) :
    report.hasFailures = false ↔ ∀ kind, Nameable size (orphans kind) := by
  have told : report.hasFailures = (report.steps.map (·.error)).any (·.isSome) := by
    rw [Report.hasFailures, List.any_map]
    rfl
  have no_error (kind : LookupKind) :
      pruneError? size (orphans kind) = none ↔ Nameable size (orphans kind) := by
    simp [pruneError?]
  have known (kind : LookupKind) : kind ∈ LookupKind.all := by cases kind <;> decide
  rw [told, errors]
  simp [no_error, known]

/-- Around a store that nobody else works on, with all tables there, no pin on a job that is due,
time without end and no fault, a cycle completes and tells of no error exactly if the jobs that are
due can be named in chunks, and so can the orphans of each kind that they leave. Where the jobs
cannot, the cycle fails and nothing goes; where some orphans cannot, all of that kind stay. -/
theorem run_clean_iff_nameable (around : Surroundings ω) (span : Option DataDomain) (c : JobCycle)
    (rounds : Nat) (state : ω) (s : Store) {cutoff : Instant}
    (due : c.policy.cutoff? around.now = some cutoff) (unlimited : c.policy.maxRuntime = none)
    (faultless : ∀ q state, (around.fault q state).1 = none) (all : s.Complete)
    (unpinned : s.Unpinned ((s.dueJobs cutoff).map (·.id))) (enough : s.jobRows.length < rounds) :
    let world := World.alone around
    let out := c.run (world.host span) world.access.jobs world.access.lookups rounds
      ⟨⟨state, s⟩, []⟩
    let left := out.2.state.store
    let gone := s.withoutJobs ((s.dueJobs cutoff).map (·.id))
    let size := c.policy.chunkSize
    (out.1.Clean ↔ Nameable size (s.dueJobs cutoff).length ∧
      ∀ kind, Nameable size (gone.orphans kind).length) ∧
    (¬ Nameable size (s.dueJobs cutoff).length →
      out.1 = .failed (.refused .tooManyVariables) ∧ left = s) ∧
    (Nameable size (s.dueJobs cutoff).length → ∃ report, out.1 = .completed report ∧
      report.steps.map (·.error) =
        none :: LookupKind.all.map (fun kind => pruneError? size (gone.orphans kind).length) ∧
      left = gone.pruned (LookupKind.all.filter fun kind =>
        Nameable size (gone.orphans kind).length)) := by
  intro world out left gone size
  have decided := run_decided around span c rounds state s due unlimited faultless all unpinned
    enough
  by_cases few : Nameable size (s.dueJobs cutoff).length
  · rw [if_pos few] at decided
    obtain ⟨report, completed, errors, hleft⟩ := decided
    have completed : out.1 = .completed report := completed
    refine ⟨?_, fun many => absurd few many, fun _ => ⟨report, completed, errors, hleft⟩⟩
    rw [completed, and_iff_right few, ← no_failures_iff errors]
    constructor
    · rintro ⟨_, ⟨⟩, clean⟩
      exact clean
    · exact fun clean => ⟨report, rfl, clean⟩
  · rw [if_neg few] at decided
    obtain ⟨failed, unchanged⟩ := decided
    have failed : out.1 = .failed (.refused .tooManyVariables) := failed
    refine ⟨iff_of_false ?_ fun h => few h.1, fun _ => ⟨failed, unchanged⟩, fun h => absurd h few⟩
    rintro ⟨report, completed, -⟩
    nomatch failed.symm.trans completed

/-- The largest chunk size does no harm to a small store. -/
theorem run_clean_iff_nameable_small_store :
    let seeds : List Store.Seed := [.lookups .jobType 3 none, .lookups .jobGroup 1 none,
      .lookups .machine 1 none, .jobs "1969" 1 1 1 1 1 none, .jobs "1971" 2 1 1 1 1 none]
    let s := Store.Seed.sowAll .empty seeds
    let epoch : Instant := ⟨0, 0, by decide⟩
    let c : JobCycle := ⟨⟨0, 4294967295, none, by decide⟩, 0⟩
    let world := World.alone (Surroundings.still epoch)
    let out := c.run (world.host none) world.access.jobs world.access.lookups 4 ⟨⟨(), s⟩, []⟩
    c.policy.cutoff? epoch = some epoch ∧ s.Complete ∧
      s.Unpinned ((s.dueJobs epoch).map (·.id)) ∧ s.jobRows.length < 4 ∧ out.1.Clean := by
  intro seeds s epoch c world out
  have due : c.policy.cutoff? epoch = some epoch := by decide +kernel
  have all : s.Complete := by
    intro name
    cases name <;> decide +kernel
  have unpinned : s.Unpinned ((s.dueJobs epoch).map (·.id)) := by decide +kernel
  have enough : s.jobRows.length < 4 := by decide +kernel
  have orphans (kind : LookupKind) : Nameable c.policy.chunkSize
      ((s.withoutJobs ((s.dueJobs epoch).map (·.id))).orphans kind).length := by
    cases kind <;> decide +kernel
  have jobs : Nameable c.policy.chunkSize (s.dueJobs epoch).length := by decide +kernel
  have h := run_clean_iff_nameable (Surroundings.still epoch) none c 4 () s due rfl
    (fun _ _ => rfl) all unpinned enough
  with_reducible exact ⟨due, all, unpinned, enough, h.1.2 ⟨jobs, orphans⟩⟩

end JobCycle

/-! ### A crowd of jobs -/

/-- As many jobs from before 1970, with a job type, a job group and a machine that they share. -/
def crowd (n : Nat) (room : n ≤ Store.capacity) : Store :=
  let shared : Store.Table Store.Lookup := ⟨[⟨1⟩], by decide, by decide⟩
  { jobType := some shared
    jobGroup := some shared
    machine := some shared
    job := some
      { rows := Store.Table.run (fun id => ⟨id, "1969", 1, 1, 1⟩) 1 n
        ascending := Store.Table.pairwise_run (fun _ => rfl) 1 n
        size_le := by rwa [Store.Table.length_run] } }

section Crowd

variable {n : Nat} {room : n ≤ Store.capacity}

theorem crowd_intact : (crowd n room).Intact where
  complete name := by cases name <;> rfl
  references :=
    { jobs := by
        rintro _ ⟨⟩ row hrow kind table htable
        obtain ⟨k, -, rfl⟩ := Store.Table.mem_run hrow
        cases kind <;> cases htable <;> exact List.mem_singleton_self _
      attachments := by
        intro kind table htable row hrow
        cases kind <;> cases htable <;> cases hrow
      data := by
        rintro _ ⟨⟩ row hrow
        cases hrow }

theorem length_jobRows_crowd : (crowd n room).jobRows.length = n := Store.Table.length_run ..

theorem length_dueJobs_crowd {cutoff : Instant} (late : "1969" < cutoff.stored) :
    ((crowd n room).dueJobs cutoff).length = n := by
  have all_due : ∀ row ∈ (crowd n room).jobRows, decide (row.Eligible cutoff) = true := by
    intro row hrow
    obtain ⟨k, -, rfl⟩ := Store.Table.mem_run hrow
    exact decide_eq_true late
  rw [Store.dueJobs, List.filter_eq_self.2 all_due, length_jobRows_crowd]

variable (room) in
/-- A crowd that a statement cannot name goes by no chunk size that is as large. -/
theorem JobCycle.run_refuses_crowd (around : Surroundings ω) (span : Option DataDomain)
    (c : JobCycle) (rounds : Nat) (state : ω) {cutoff : Instant}
    (due : c.policy.cutoff? around.now = some cutoff) (late : "1969" < cutoff.stored)
    (unlimited : c.policy.maxRuntime = none)
    (faultless : ∀ q state, (around.fault q state).1 = none) (enough : n < rounds)
    (many : ¬ Nameable c.policy.chunkSize n) :
    let world := World.alone around
    (c.run (world.host span) world.access.jobs world.access.lookups rounds
      ⟨⟨state, crowd n room⟩, []⟩).1 = .failed (.refused .tooManyVariables) := by
  intro world
  have unpinned : (crowd n room).Unpinned (((crowd n room).dueJobs cutoff).map (·.id)) :=
    fun _ hpin => by cases hpin
  have decided := run_decided around span c rounds state (crowd n room) due unlimited faultless
    crowd_intact.complete unpinned (by rwa [length_jobRows_crowd])
  rw [length_dueJobs_crowd late, if_neg many] at decided
  exact decided.1

end Crowd

/-- One job more than a statement can name, and the largest chunk size. -/
theorem crowd_refused :
    let s := crowd 32767 (by decide)
    let epoch : Instant := ⟨0, 0, by decide⟩
    let c : JobCycle := ⟨⟨0, 4294967295, none, by decide⟩, 0⟩
    let world := World.alone (Surroundings.still epoch)
    let out := c.run (world.host none) world.access.jobs world.access.lookups 32768 ⟨⟨(), s⟩, []⟩
    c.policy.cutoff? epoch = some epoch ∧ s.Intact ∧ s.pinRows = [] ∧ s.jobRows.length < 32768 ∧
      out.1 = .failed (.refused .tooManyVariables) ∧ ¬ out.1.Clean := by
  intro s epoch c world out
  have due : c.policy.cutoff? epoch = some epoch := by decide +kernel
  have enough : s.jobRows.length < 32768 := by
    rw [length_jobRows_crowd]
    decide
  have refused := JobCycle.run_refuses_crowd (show 32767 ≤ Store.capacity by decide)
    (Surroundings.still epoch) none c 32768 () due (by decide +kernel) rfl (fun _ _ => rfl)
    (by decide) (by decide)
  have failed : out.1 = .failed (.refused .tooManyVariables) := by with_reducible exact refused
  have unclean : ¬ out.1.Clean := by
    rw [failed]
    rintro ⟨report, completed, -⟩
    cases completed
  with_reducible exact ⟨due, crowd_intact, rfl, enough, failed, unclean⟩

end Retention.Cycle
