import Retention.Proofs.Integrity

/-!
# Calls that are answered

With all tables there, a call fails only for a reason of its own: it binds more values than a
statement may, or a pin holds back a job that it is to take (`Request.answered`). Where others and
calls keep what rules these out, each call fits the store that it finds (`World.Ran.fits`), and one
that is not made to fail is answered (`Act.Carried.answered`).
-/

namespace Retention

namespace Store

open Time (Instant)

variable {s : Store}

theorem Complete.exists_tables (all : s.Complete) :
    ∃ repository jobType jobGroup machine job jobLog jobDetail jobPin performanceDatum,
      s = ⟨some repository, some jobType, some jobGroup, some machine, some job, some jobLog,
        some jobDetail, some jobPin, some performanceDatum⟩ := by
  obtain ⟨repository, hr⟩ := Option.isSome_iff_exists.1 (all .repository)
  obtain ⟨jobType, ht⟩ := Option.isSome_iff_exists.1 (all .jobType)
  obtain ⟨jobGroup, hg⟩ := Option.isSome_iff_exists.1 (all .jobGroup)
  obtain ⟨machine, hm⟩ := Option.isSome_iff_exists.1 (all .machine)
  obtain ⟨job, hj⟩ := Option.isSome_iff_exists.1 (all .job)
  obtain ⟨jobLog, hl⟩ := Option.isSome_iff_exists.1 (all .jobLog)
  obtain ⟨jobDetail, hd⟩ := Option.isSome_iff_exists.1 (all .jobDetail)
  obtain ⟨jobPin, hp⟩ := Option.isSome_iff_exists.1 (all .jobPin)
  obtain ⟨performanceDatum, hpd⟩ := Option.isSome_iff_exists.1 (all .performanceDatum)
  refine ⟨repository, jobType, jobGroup, machine, job, jobLog, jobDetail, jobPin,
    performanceDatum, ?_⟩
  rw [← hr, ← ht, ← hg, ← hm, ← hj, ← hl, ← hd, ← hp, ← hpd]

theorem checkVariables_of_le {n : Nat} (few : n ≤ maxVariables) : checkVariables n = .ok () :=
  if_neg (Nat.not_lt.2 few)

theorem deleteData_answered (all : s.Complete) (cutoff : Instant) (scope : Option Int)
    (limit : UInt32) : ∃ k s', deleteData cutoff scope limit s = .ok (k, s') := by
  obtain ⟨_, _, _, _, _, _, _, _, _, rfl⟩ := all.exists_tables
  exact ⟨_, _, rfl⟩

/-- A statement that names too many rows is not begun. -/
theorem deleteUnreferenced_refused {kind : LookupKind} {ids : List Int}
    (many : maxVariables < ids.length) :
    deleteUnreferenced kind ids s = .error (.refused .tooManyVariables) := by
  have some_named : ¬ ids.isEmpty := by
    rw [List.isEmpty_iff, ← List.length_eq_zero_iff]
    omega
  unfold deleteUnreferenced checkVariables
  rw [if_neg some_named, if_pos many]
  rfl

theorem deleteUnreferenced_answered (all : s.Complete) (kind : LookupKind) {ids : List Int}
    (few : ids.length ≤ maxVariables) : ∃ k s', deleteUnreferenced kind ids s = .ok (k, s') := by
  obtain ⟨_, jobType, jobGroup, machine, jobs, _, _, _, _, rfl⟩ := all.exists_tables
  unfold deleteUnreferenced
  split_ifs
  · exact ⟨_, _, rfl⟩
  rw [checkVariables_of_le few]
  cases kind <;>
    simp only [lookups, need, bind, Except.bind, pure, Except.pure, no_reference_lost] <;>
    exact ⟨_, _, rfl⟩

/-- A chunk that is not empty, with its tables there and its jobs few enough to name. -/
theorem deleteJobChunk_eq {jobs : Table Job} {logs details : Table Attachment}
    (job : s.job = some jobs) (jobLog : s.jobLog = some logs)
    (jobDetail : s.jobDetail = some details) (cutoff : Instant) (size : UInt32)
    (some_chosen : jobChunk jobs cutoff size ≠ [])
    (few : checkVariables (jobChunk jobs cutoff size).length = .ok ()) :
    deleteJobChunk cutoff size s = (do
      needParents s jobParents
      if s.Unpinned (jobChunk jobs cutoff size) then
        return ((jobChunk jobs cutoff size).length.toUInt64,
          s.withoutJobs (jobChunk jobs cutoff size))
      else throw (.refused .foreignKey)) := by
  have chosen : ¬ (jobChunk jobs cutoff size).isEmpty := by simpa using some_chosen
  have pinned : s.Unpinned (jobChunk jobs cutoff size) ↔ _ := unpinned_iff
  simp only [contains_ofList] at pinned
  simp only [deleteJobChunk, job, jobLog, jobDetail, need, bind, Except.bind, if_neg chosen, few,
    withoutJobs, Option.map_some, contains_ofList, decide_not, pinned]
  rcases s.needParents jobParents with e | ⟨⟩
  · rfl
  obtain hp | ⟨pins, hp⟩ := Option.eq_none_or_eq_some s.jobPin
  · simp [hp]
  · simp only [hp, Option.some.injEq, forall_eq']
    rcases pins.rows.any fun pin => decide (pin.job ∈ jobChunk jobs cutoff size) <;> rfl

/-- With all tables there, a chunk goes unless a statement cannot name its jobs or a pin holds
one. -/
theorem Complete.deleteJobChunk_eq (all : s.Complete) (cutoff : Instant) (size : UInt32) :
    let ids := ((s.dueJobs cutoff).take size.toNat).map (·.id)
    deleteJobChunk cutoff size s =
      if maxVariables < ids.length then .error (.refused .tooManyVariables)
      else if s.Unpinned ids then .ok (ids.length.toUInt64, s.withoutJobs ids)
      else .error (.refused .foreignKey) := by
  intro ids
  obtain ⟨_, _, _, _, jobs, logs, details, _, _, hs⟩ := all.exists_tables
  have hj : s.job = some jobs := by rw [hs]
  have hl : s.jobLog = some logs := by rw [hs]
  have hd : s.jobDetail = some details := by rw [hs]
  have parents : s.needParents jobParents = .ok () := by rw [hs]; rfl
  have hids : jobChunk jobs cutoff size = ids := jobChunk_eq hj
  by_cases none_due : ids = []
  · have free : s.Unpinned [] := fun _ _ => List.not_mem_nil
    rw [none_due, List.length_nil, if_neg (Nat.not_lt_zero _), if_pos free, withoutJobs_nil,
      deleteJobChunk]
    simp only [hj, need, bind, Except.bind, hids, none_due]
    rfl
  split_ifs with many free
  · have chosen : ¬ ids.isEmpty := by rwa [List.isEmpty_iff]
    simp only [deleteJobChunk, hj, need, bind, Except.bind, hids, if_neg chosen, checkVariables,
      if_pos many]
  all_goals
    have few := checkVariables_of_le (Nat.not_lt.1 many)
    rw [← hids] at none_due few
    rw [Store.deleteJobChunk_eq hj hl hd cutoff size none_due few, hids, parents]
  · rw [if_pos free]
    rfl
  · rw [if_neg free]
    rfl

/-- A statement that takes too many jobs is not begun either. -/
theorem deleteJobChunk_refused (all : s.Complete) {cutoff : Instant} {size : UInt32}
    (many : maxVariables < min size.toNat (s.dueJobs cutoff).length) :
    deleteJobChunk cutoff size s = .error (.refused .tooManyVariables) := by
  rw [all.deleteJobChunk_eq, if_pos]
  rwa [List.length_map, List.length_take]

theorem deleteJobChunk_answered (all : s.Complete) {cutoff : Instant} {size : UInt32}
    (few : min size.toNat (s.dueJobs cutoff).length ≤ maxVariables)
    (unpinned : s.Unpinned ((s.dueJobs cutoff).map (·.id))) :
    ∃ k s', deleteJobChunk cutoff size s = .ok (k, s') := by
  have spared : s.Unpinned (((s.dueJobs cutoff).take size.toNat).map (·.id)) :=
    fun pin hpin hmem => unpinned pin hpin (List.map_subset _ (List.take_subset _ _) hmem)
  rw [all.deleteJobChunk_eq, if_neg, if_pos spared]
  · exact ⟨_, _, rfl⟩
  · rwa [List.length_map, List.length_take, Nat.not_lt]

end Store

namespace Cycle

open Store (maxVariables)

/-- Nothing stands against the request in this store but a table that is gone. -/
def Request.Fits (s : Store) : Request → Prop
  | .deleteChunkBefore cutoff size =>
    size.toNat ≤ maxVariables ∧ s.Unpinned ((s.dueJobs cutoff).map (·.id))
  | .deleteUnreferenced _ ids => ids.length ≤ maxVariables
  | _ => True

theorem Request.answered {s : Store} (all : s.Complete) (q : Request) (fits : q.Fits s) :
    ∃ a s', q.perform s = (.ok a, s') := by
  have statement {α : Type} {f : Store.Statement α} (h : ∃ a s', f s = .ok (a, s')) :
      ∃ a s', ofStatement f s = (.ok a, s') := by
    obtain ⟨a, s', h⟩ := h
    exact ⟨a, s', by rw [ofStatement, h]⟩
  cases q with
  | deleteBefore => exact statement (Store.deleteData_answered all _ _ _)
  | deleteChunkBefore =>
    exact statement
      (Store.deleteJobChunk_answered all (Nat.le_trans (Nat.min_le_left _ _) fits.1) fits.2)
  | deleteUnreferenced => exact statement (Store.deleteUnreferenced_answered all _ fits)
  | unreferencedIds kind =>
    obtain ⟨_, _, _, _, _, _, _, _, _, rfl⟩ := all.exists_tables
    cases kind <;> exact ⟨_, _, rfl⟩
  | _ =>
    obtain ⟨_, _, _, _, _, _, _, _, _, rfl⟩ := all.exists_tables
    exact ⟨_, _, rfl⟩

variable {ω : Type}

/-- The act is no call, or nothing stood against its request where it was made. -/
def Act.Fits : Act (Place ω) → Prop
  | .asked q before .. => before.store.Complete ∧ q.Fits before.store
  | _ => True

/-- A call that nothing stands against fails only if it is made to. -/
theorem Act.Carried.forced {around : Surroundings ω} {q : Request} {before after : Place ω}
    {e : Store.DatabaseError} (carried : (Act.asked q before (.error e) after).Carried around)
    (fits : (Act.asked q before (.error e) after).Fits) :
    around.forced q before = some e ∧ after.store = before.store := by
  rcases hf : around.forced q before with _ | e' <;> simp only [Carried, hf] at carried
  · obtain ⟨a, s', answered⟩ := q.answered fits.1 fits.2
    rw [answered] at carried
    cases carried
  · obtain ⟨same, unchanged⟩ := carried
    cases same
    exact ⟨rfl, unchanged⟩

theorem Act.Carried.answered {around : Surroundings ω} {act : Act (Place ω)}
    (carried : act.Carried around) (unforced : act.Unforced around) (fits : act.Fits) :
    act.Answered := by
  cases act with
  | asked q before answer after =>
    rcases answer with e | a
    · have := (carried.forced fits).1
      rw [show around.forced q before = none from unforced] at this
      cases this
    · trivial
  | _ => trivial

theorem World.Ran.fits {around : Surroundings ω} {others : Request → ω → Store → Store}
    {P : Store → Prop} (kept : ∀ q state s, P s → P (others q state s)) {s s' : Scene (Place ω)}
    {acts : List (Act (Place ω))} (ran : (sharing around others).Ran s acts s')
    (calls : ∀ act ∈ acts, act.Asks fun q => ∀ s, P s →
      s.Complete ∧ q.Fits s ∧ P (q.perform s).2) (start : P s.state.store) :
    ∀ act ∈ acts, act.Fits := by
  have found := (ran.keeps kept (fun act hact => (calls act hact).mono fun _ call s hs =>
    (call s hs).2.2) start).1
  intro act hact
  have call := calls act hact
  have found := found act hact
  cases act with
  | asked q =>
    obtain ⟨complete, fits, -⟩ := call _ found
    exact ⟨complete, fits⟩
  | _ => trivial

end Cycle

end Retention
