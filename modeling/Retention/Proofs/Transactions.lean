import Retention.Proofs.Answers
import Retention.Store.Seed

/-!
# A chunk of jobs is one transaction

The statements behind a chunk of jobs: one for each kind of rows that go with jobs, and one for the
jobs (`chunkStatements`). Each of them may fail after others have taken rows, for it names too many
jobs, a table is gone, or something still points at one of the jobs. What was done before is then
taken back (`transaction`), and that is all that tells the chunk from its statements
(`deleteChunkBefore_eq_transaction`).

So a chunk goes as a whole or not at all; with all tables there it goes unless a statement cannot
name its jobs or a pin holds one of them (`deleteChunkBefore_all_or_nothing`).
-/

namespace Retention

namespace Store

open Keyed (key)
open Time (Instant)

/-- Deletes the logs, the details or the pins of the jobs. -/
def deleteAttachments (kind : AttachmentKind) (ids : List Int) : Statement UInt64 := fun s => do
  checkVariables ids.length
  let table ← need kind.table (s.attachments kind)
  needParents s [.job]
  let left := table.filter (·.job ∉ ids)
  return ((table.rows.length - left.rows.length).toUInt64, s.setAttachments kind (some left))

/-- Whether a log, a detail or a pin points at one of the jobs. -/
def holds (s : Store) (ids : List Int) : Bool :=
  [AttachmentKind.log, .detail, .pin].any fun kind =>
    ((s.attachments kind).elim [] Table.rows).any (·.job ∈ ids)

/-- Deletes the jobs, unless something points at one of them. -/
def deleteJobs (ids : List Int) : Statement UInt64 := fun s => do
  checkVariables ids.length
  let table ← need .job s.job
  needParents s jobParents
  if s.holds ids then
    throw (.refused .foreignKey)
  let left := table.filter (·.id ∉ ids)
  return ((table.rows.length - left.rows.length).toUInt64, { s with job := some left })

/-- The store without the logs and details of the jobs. -/
def withoutDependents (s : Store) (ids : List Int) : Store :=
  { s with
    jobLog := s.jobLog.map (·.filter (·.job ∉ ids))
    jobDetail := s.jobDetail.map (·.filter (·.job ∉ ids)) }

section Statements

variable {s : Store} {ids : List Int}

/-- With the logs and details gone, only a pin can hold a job. -/
theorem holds_withoutDependents :
    (s.withoutDependents ids).holds ids = decide (¬ s.Unpinned ids) := by
  have gone (t : Option (Table Attachment)) :
      (((t.map (·.filter (·.job ∉ ids))).elim [] Table.rows).any (·.job ∈ ids)) = false := by
    cases t <;> simp
  simp only [holds, List.any_cons, List.any_nil, attachments, withoutDependents, gone, Unpinned,
    pinRows, Bool.false_or, Bool.or_false]
  rw [Bool.eq_iff_iff]
  simp

variable (few : checkVariables ids.length = .ok ())
include few

theorem deleteAttachments_eq {jobs : Table Job} (there : s.job = some jobs) (kind : AttachmentKind)
    {t : Table Attachment} (table : s.attachments kind = some t) :
    deleteAttachments kind ids s =
      .ok ((t.rows.length - (t.filter (·.job ∉ ids)).rows.length).toUInt64,
        s.setAttachments kind (some (t.filter (·.job ∉ ids)))) := by
  have parent : s.needParents [.job] = .ok () := by simp [needParents, present, there]
  simp only [deleteAttachments, few, table, need, parent, bind, Except.bind]
  rfl

theorem deleteAttachments_missing (kind : AttachmentKind) (gone : s.attachments kind = none) :
    deleteAttachments kind ids s = .error (.refused (.missingTable kind.table)) := by
  simp only [deleteAttachments, few, gone, need, bind, Except.bind]

end Statements

section Chunk

theorem length_jobChunk (jobs : Table Job) (cutoff : Instant) (size : UInt32) :
    (jobChunk jobs cutoff size).length =
      min size.toNat (jobs.rows.filter fun row => row.Eligible cutoff).length := by
  rw [jobChunk, List.length_map, List.length_take]
  rfl

/-- As many jobs have these keys as were looked up. -/
theorem length_sub_jobChunk (jobs : Table Job) (cutoff : Instant) (size : UInt32) :
    jobs.rows.length - (jobs.filter (·.id ∉ jobChunk jobs cutoff size)).rows.length =
      (jobChunk jobs cutoff size).length := by
  have taken := length_withoutFirst (fun row : Job => row.Eligible cutoff) size.toNat jobs.rows
  rw [withoutFirst_eq_filter _ _ jobs.nodup] at taken
  have distinct := List.inj_on_of_nodup_map jobs.ids_nodup
  have left : (jobs.filter (·.id ∉ jobChunk jobs cutoff size)).rows = jobs.rows.filter
      (· ∉ (jobs.rows.filter fun row => row.Eligible cutoff).take size.toNat) := by
    refine List.filter_congr fun row hrow => ?_
    rw [decide_eq_decide, not_iff_not]
    constructor
    · intro hid
      obtain ⟨row', hrow', same⟩ := List.mem_map.1 hid
      rwa [← distinct (List.mem_of_mem_filter (List.mem_of_mem_take hrow')) hrow same]
    · exact fun hmem => List.mem_map_of_mem hmem
  rw [left, length_jobChunk]
  omega

/-- Of rows in ascending order, the first `n` are those with fewer than `n` below them. -/
theorem mem_take_iff {α : Type} [Keyed α] :
    ∀ {xs : List α}, xs.Pairwise (key · < key ·) → ∀ (n : Nat) (x : α),
      x ∈ xs.take n ↔ x ∈ xs ∧ (xs.filter (key · < key x)).length < n
  | [], _, n, x => by simp
  | y :: ys, _, 0, x => by simp
  | y :: ys, sorted, n + 1, x => by
    obtain ⟨lowest, sorted⟩ := List.pairwise_cons.1 sorted
    have none_below : ys.filter (key · < key y) = [] :=
      List.filter_eq_nil_iff.2 fun z hz => by
        have := lowest z hz
        simp only [decide_eq_true_eq]
        omega
    rw [List.take_succ_cons, List.mem_cons, List.mem_cons, mem_take_iff sorted n x]
    constructor
    · rintro (rfl | ⟨hx, few⟩)
      · simp [none_below]
      · refine ⟨.inr hx, ?_⟩
        rw [List.filter_cons_of_pos (by simpa using lowest x hx), List.length_cons]
        omega
    · rintro ⟨rfl | hx, few⟩
      · exact .inl rfl
      · rw [List.filter_cons_of_pos (by simpa using lowest x hx), List.length_cons] at few
        exact .inr ⟨hx, by omega⟩

theorem dueJobs_ascending (cutoff : Instant) (s : Store) :
    (s.dueJobs cutoff).Pairwise (key · < key ·) := by
  unfold dueJobs jobRows
  cases s.job with
  | none => exact .nil
  | some t => exact t.ascending.filter _

end Chunk

end Store

namespace Cycle

open Store (AttachmentKind DatabaseError maxVariables)
open Time (Instant)

/-- The call, but if it fails, what it did is taken back. -/
def transaction {α : Type} (call : Call Store α) : Call Store α := fun s =>
  match call s with
  | (.ok a, s') => (.ok a, s')
  | (.error e, _) => (.error e, s)

/-- Deletes what belongs to the jobs, one kind after the other, and then the jobs. -/
def deleteWith (ids : List Int) : List AttachmentKind → Call Store UInt64
  | [] => ofStatement (Store.deleteJobs ids)
  | kind :: kinds => do
    let _ ← ofStatement (Store.deleteAttachments kind ids)
    deleteWith ids kinds

/-- The statements of a chunk, one after the other. -/
def chunkStatements (cutoff : Instant) (size : UInt32) : Call Store UInt64 := do
  let jobs ← ofQuery fun s => Store.need .job s.job
  let chosen := Store.jobChunk jobs cutoff size
  if chosen.isEmpty then
    return 0
  deleteWith chosen AttachmentKind.dependents

section Statements

variable {s : Store} {ids : List Int} {jobs : Store.Table Store.Job}

theorem deleteWith_crowded {e : DatabaseError} (many : Store.checkVariables ids.length = .error e)
    (kind : AttachmentKind) (kinds : List AttachmentKind) :
    deleteWith ids (kind :: kinds) s = (.error e, s) := by
  rw [deleteWith, call_bind_apply, ofStatement, Store.deleteAttachments, many]
  rfl

variable (few : Store.checkVariables ids.length = .ok ())
include few

theorem deleteWith_missing (kind : AttachmentKind) (gone : s.attachments kind = none)
    (kinds : List AttachmentKind) :
    deleteWith ids (kind :: kinds) s = (.error (.refused (.missingTable kind.table)), s) := by
  rw [deleteWith, call_bind_apply, ofStatement, Store.deleteAttachments_missing few kind gone]

theorem deleteWith_cons (there : s.job = some jobs) (kind : AttachmentKind)
    {t : Store.Table Store.Attachment} (table : s.attachments kind = some t)
    (kinds : List AttachmentKind) :
    deleteWith ids (kind :: kinds) s =
      deleteWith ids kinds (s.setAttachments kind (some (t.filter (·.job ∉ ids)))) := by
  rw [deleteWith, call_bind_apply, ofStatement, Store.deleteAttachments_eq few there kind table]

theorem deleteWith_dependents (job : s.job = some jobs)
    {logs details : Store.Table Store.Attachment} (jobLog : s.jobLog = some logs)
    (jobDetail : s.jobDetail = some details) :
    deleteWith ids AttachmentKind.dependents s =
      ofStatement (Store.deleteJobs ids) (s.withoutDependents ids) := by
  let between := s.setAttachments .log (some (logs.filter (·.job ∉ ids)))
  have job' : between.job = some jobs := job
  have table : between.attachments .detail = some details := jobDetail
  have gone : between.setAttachments .detail (some (details.filter (·.job ∉ ids))) =
      s.withoutDependents ids := by
    simp only [Store.withoutDependents, jobLog, jobDetail, Option.map_some]
    rfl
  rw [AttachmentKind.dependents, deleteWith_cons few job .log jobLog,
    deleteWith_cons few job' .detail table, gone, deleteWith]

end Statements

/-- A chunk is what its statements do, or nothing. -/
theorem deleteChunkBefore_eq_transaction (cutoff : Instant) (size : UInt32) :
    Direct.jobs.deleteChunkBefore cutoff size = transaction (chunkStatements cutoff size) := by
  funext s
  change ofStatement _ s = _
  rw [transaction, chunkStatements, call_bind_apply, ofStatement]
  rcases hj : s.job with _ | jobs
  · simp only [Store.deleteJobChunk, hj, ofQuery, Store.need, bind, Except.bind]
  simp only [ofQuery, hj, Store.need]
  obtain ⟨chosen, hc⟩ : ∃ ids, Store.jobChunk jobs cutoff size = ids := ⟨_, rfl⟩
  rw [hc]
  by_cases empty : chosen.isEmpty
  · simp only [Store.deleteJobChunk, hj, hc, Store.need, bind, Except.bind, empty, if_true]
    rfl
  rw [if_neg empty]
  rcases few : Store.checkVariables chosen.length with e | ⟨⟩
  · simp only [Store.deleteJobChunk, hj, hc, Store.need, bind, Except.bind, if_neg empty, few,
      AttachmentKind.dependents, deleteWith_crowded few]
  rcases hl : s.jobLog with _ | logs
  · simp only [Store.deleteJobChunk, hj, hc, hl, Store.need, bind, Except.bind, if_neg empty, few,
      AttachmentKind.dependents, deleteWith_missing few .log hl]
    rfl
  rcases hd : s.jobDetail with _ | details
  · have gone : (s.setAttachments .log (some (logs.filter (·.job ∉ chosen)))).attachments .detail =
        none := hd
    simp only [Store.deleteJobChunk, hj, hc, hl, hd, Store.need, bind, Except.bind, if_neg empty,
      few, AttachmentKind.dependents, deleteWith_cons few hj .log hl,
      deleteWith_missing few .detail gone]
    rfl
  have job : (s.withoutDependents chosen).job = some jobs := hj
  have parents : (s.withoutDependents chosen).needParents Store.jobParents =
      s.needParents Store.jobParents := rfl
  have whole := Store.deleteJobChunk_eq hj hl hd cutoff size
  have count := Store.length_sub_jobChunk jobs cutoff size
  rw [hc] at whole count
  rw [whole (by simpa using empty) few, deleteWith_dependents few hj hl hd]
  simp only [ofStatement, Store.deleteJobs, few, job, parents, Store.holds_withoutDependents,
    Store.need, bind, Except.bind]
  rcases s.needParents Store.jobParents with e | ⟨⟩
  · rfl
  by_cases free : s.Unpinned chosen
  · simp only [free, if_true, not_true, decide_false, Bool.false_eq_true, if_false, count,
      Store.withoutJobs, hj]
    rfl
  · simp only [free, not_false_eq_true, decide_true, if_true, if_false]
    rfl

/-- Whatever tables are there, a chunk that is told to have gone took the jobs with the lowest keys
among those that are due, as many as it may or as there are, with their logs and details and
nothing else; one that fails took nothing. With all tables there it fails exactly if a statement
cannot name that many jobs or a pin points at one of them. -/
theorem deleteChunkBefore_all_or_nothing (s : Store) (cutoff : Instant) (size : UInt32) :
    let due := s.dueJobs cutoff
    let chosen := due.take size.toNat
    let ids := chosen.map (·.id)
    let out := Direct.jobs.deleteChunkBefore cutoff size s
    out = transaction (chunkStatements cutoff size) s ∧
    (∀ row, row ∈ chosen ↔ row ∈ s.jobRows ∧ row.Eligible cutoff ∧
      (due.filter (·.id < row.id)).length < size.toNat) ∧
    (∀ k, out.1 = .ok k →
      k.toNat = min size.toNat due.length ∧ out.2 = s.withoutJobs ids) ∧
    (∀ e, out.1 = .error e → out.2 = s) ∧
    (s.Complete →
      ((∃ e, out.1 = .error e) ↔ maxVariables < min size.toNat due.length ∨ ¬ s.Unpinned ids) ∧
      ∀ e, out.1 = .error e → e = .refused
        (if maxVariables < min size.toNat due.length then .tooManyVariables else .foreignKey)) := by
  intro due chosen ids out
  have length_ids : ids.length = min size.toNat due.length := by
    rw [List.length_map, List.length_take]
  refine ⟨by rw [← deleteChunkBefore_eq_transaction], fun row => ?_, fun k answered => ?_,
    fun e failed => ?_, fun all => ?_⟩
  · rw [Store.mem_take_iff (s.dueJobs_ascending cutoff), Store.dueJobs, List.mem_filter,
      decide_eq_true_eq, and_assoc]
    rfl
  · obtain ⟨hk, left, -⟩ := Store.deleteJobChunk_ok (ofStatement_ok (Prod.ext answered rfl))
    have left : out.2 = s.jobsThinned cutoff k.toNat := left
    rw [left, hk, Store.jobsThinned_min]
    exact ⟨rfl, rfl⟩
  · exact (Request.deleteChunkBefore cutoff size).perform_error (Prod.ext failed rfl)
  · have answered : out.1 =
        if maxVariables < ids.length then .error (.refused .tooManyVariables)
        else if s.Unpinned ids then .ok ids.length.toUInt64
        else .error (.refused .foreignKey) := by
      change (ofStatement _ s).1 = _
      rw [ofStatement, all.deleteJobChunk_eq]
      split_ifs <;> rfl
    rw [answered, ← length_ids]
    split_ifs with many free
    · simpa using Or.inl many
    · simpa using ⟨Nat.not_lt.1 many, free⟩
    · simpa using Or.inr free

/-- A pin on the second of two jobs: a chunk of one goes, and a chunk of two does not, though the
statements on their own take the logs before they fail. -/
theorem deleteChunkBefore_pinned :
    let seeds : List Store.Seed := [.lookups .jobType 1 none, .lookups .jobGroup 1 none,
      .lookups .machine 1 none, .jobs "1969" 1 1 1 2 1 none, .pin 2]
    let s := Store.Seed.sowAll .empty seeds
    let epoch : Instant := ⟨0, 0, by decide⟩
    let one := Direct.jobs.deleteChunkBefore epoch 1 s
    let two := Direct.jobs.deleteChunkBefore epoch 2 s
    s.Complete ∧ one.1 = .ok 1 ∧ one.2 = s.withoutJobs [1] ∧
      two.1 = .error (.refused .foreignKey) ∧ two.2 = s ∧
      (chunkStatements epoch 2 s).2.jobLog.map (·.ids) = some [] ∧
      s.jobLog.map (·.ids) = some [1, 2] := by
  intro seeds s epoch one two
  have all : s.Complete := by
    intro name
    cases name <;> decide +kernel
  have first : ((s.dueJobs epoch).take 1).map (·.id) = [1] := by decide +kernel
  have held : ¬ s.Unpinned (((s.dueJobs epoch).take 2).map (·.id)) := by decide +kernel
  have few : ¬ maxVariables < min 2 (s.dueJobs epoch).length := by decide +kernel
  have taken : (chunkStatements epoch 2 s).2.jobLog.map (·.ids) = some [] := by decide +kernel
  have there : s.jobLog.map (·.ids) = some [1, 2] := by decide +kernel
  have went : one.1 = .ok 1 := by decide +kernel
  obtain ⟨-, -, success, -, -⟩ := deleteChunkBefore_all_or_nothing s epoch 1
  obtain ⟨-, -, -, failure, reasons⟩ := deleteChunkBefore_all_or_nothing s epoch 2
  obtain ⟨fails_iff, reason⟩ := reasons all
  obtain ⟨e, failed⟩ := fails_iff.2 (.inr held)
  have foreign : e = .refused .foreignKey := by
    rw [reason e failed]
    exact congrArg _ (if_neg few)
  refine ⟨all, went, ?_, ?_, failure e failed, taken, there⟩
  · rw [← first]
    exact (success 1 went).2
  · rw [← foreign]
    exact failed

end Cycle

end Retention
