import Retention.Proofs.JobRows

/-!
# The lookup rows that go

A lookup row that no job points at is an orphan (`Store.orphans`). A statement that is carried out
takes those of the rows it names that are orphans at that moment, and no other row
(`deleteUnreferenced_ok`); taking all that are listed leaves the rows that some job points at
(`withoutOrphans_eq`).
-/

namespace Retention.Store

def lookupRows (kind : LookupKind) (s : Store) : List Lookup := (s.lookups kind).elim [] Table.rows

/-- The keys that jobs point at. -/
def references (kind : LookupKind) (s : Store) : List Int := s.jobRows.map (·.reference kind)

/-- The keys of the lookup rows that no job points at. -/
def orphans (kind : LookupKind) (s : Store) : List Int :=
  ((s.lookupRows kind).map (·.id)).filter (· ∉ s.references kind)

def withoutLookups (kind : LookupKind) (gone : List Int) (s : Store) : Store :=
  s.setLookups kind ((s.lookups kind).map (·.filter (·.id ∉ gone)))

def withoutOrphans (kind : LookupKind) (s : Store) : Store :=
  s.withoutLookups kind (s.orphans kind)

def pruned (kinds : List LookupKind) (s : Store) : Store :=
  kinds.foldl (fun s kind => s.withoutOrphans kind) s

section Tables

variable (kind : LookupKind) (s : Store) (t : Option (Table Lookup))

@[simp] theorem lookups_setLookups : (s.setLookups kind t).lookups kind = t := by
  cases kind <;> rfl

@[simp] theorem job_setLookups : (s.setLookups kind t).job = s.job := by
  cases kind <;> rfl

@[simp] theorem setLookups_lookups : s.setLookups kind (s.lookups kind) = s := by
  cases kind <;> rfl

@[simp] theorem setLookups_setLookups (u : Option (Table Lookup)) :
    (s.setLookups kind t).setLookups kind u = s.setLookups kind u := by
  cases kind <;> rfl

@[simp] theorem references_setLookups (kind' : LookupKind) :
    (s.setLookups kind t).references kind' = s.references kind' := by
  unfold references jobRows
  rw [job_setLookups]

theorem lookups_setLookups_of_ne {kind' : LookupKind} (h : kind' ≠ kind) :
    (s.setLookups kind t).lookups kind' = s.lookups kind' := by
  cases kind <;> cases kind' <;> first | rfl | exact absurd rfl h

end Tables

section Without

variable (kind : LookupKind) (gone gone' : List Int) (s : Store)

theorem lookupRows_length_le : (s.lookupRows kind).length ≤ capacity := Table.length_rows_le _

@[simp] theorem lookupRows_withoutLookups :
    (s.withoutLookups kind gone).lookupRows kind = (s.lookupRows kind).filter (·.id ∉ gone) := by
  unfold lookupRows withoutLookups
  rw [lookups_setLookups]
  cases s.lookups kind <;> rfl

theorem lookupRows_withoutLookups_of_ne {kind' : LookupKind} (h : kind' ≠ kind) :
    (s.withoutLookups kind gone).lookupRows kind' = s.lookupRows kind' := by
  unfold lookupRows withoutLookups
  rw [lookups_setLookups_of_ne _ _ _ h]

@[simp] theorem references_withoutLookups (kind' : LookupKind) :
    (s.withoutLookups kind gone).references kind' = s.references kind' :=
  references_setLookups ..

@[simp] theorem withoutLookups_nil : s.withoutLookups kind [] = s := by
  unfold withoutLookups
  rw [funext (Table.filter_not_mem_nil Lookup.id), Option.map_id_fun', id, setLookups_lookups]

theorem withoutLookups_withoutLookups :
    (s.withoutLookups kind gone).withoutLookups kind gone' =
      s.withoutLookups kind (gone ++ gone') := by
  unfold withoutLookups
  rw [lookups_setLookups, setLookups_setLookups]
  simp only [Option.map_map, Function.comp_def, Table.filter_not_mem_append Lookup.id]

theorem lookupRows_pruned {kinds : List LookupKind} (h : kind ∉ kinds) :
    (s.pruned kinds).lookupRows kind = s.lookupRows kind := by
  induction kinds generalizing s with
  | nil => rfl
  | cons kind' rest ih =>
    obtain ⟨hne, hrest⟩ := not_or.1 (List.mem_cons.not.1 h)
    exact (ih (s.withoutOrphans kind') hrest).trans
      (lookupRows_withoutLookups_of_ne kind' _ s hne)

theorem orphans_withoutLookups_of_ne {kind' : LookupKind} (h : kind' ≠ kind) :
    (s.withoutLookups kind gone).orphans kind' = s.orphans kind' := by
  unfold orphans
  rw [lookupRows_withoutLookups_of_ne _ _ _ h, references_withoutLookups]

theorem orphans_withoutOrphans_of_ne {kind' : LookupKind} (h : kind' ≠ kind) :
    (s.withoutOrphans kind).orphans kind' = s.orphans kind' :=
  orphans_withoutLookups_of_ne kind _ s h

theorem withoutOrphans_eq :
    s.withoutOrphans kind =
      s.setLookups kind ((s.lookups kind).map (·.filter (·.id ∈ s.references kind))) := by
  unfold withoutOrphans withoutLookups orphans lookupRows
  rcases s.lookups kind with _ | t
  · rfl
  · refine congrArg (fun t => s.setLookups kind (some t)) (Table.filter_congr fun row hrow => ?_)
    have : row.id ∈ t.rows.map (·.id) := List.mem_map_of_mem hrow
    simp [this]

theorem pruned_all :
    s.pruned LookupKind.all = { s with
      jobType := s.jobType.map (·.filter (·.id ∈ s.references .jobType))
      jobGroup := s.jobGroup.map (·.filter (·.id ∈ s.references .jobGroup))
      machine := s.machine.map (·.filter (·.id ∈ s.references .machine)) } := by
  simp only [pruned, LookupKind.all, List.foldl_cons, List.foldl_nil, withoutOrphans_eq,
    references_setLookups]
  rfl

end Without

theorem unreferencedIds_ok {kind : LookupKind} {s : Store} {ids : List Int}
    (h : s.unreferencedIds kind = .ok ids) : ids = s.orphans kind := by
  unfold unreferencedIds at h
  rcases ht : s.lookups kind with _ | t <;> rw [ht] at h
  · cases h
  rcases hj : s.job with _ | jobs <;> rw [hj] at h
  · cases h
  simp only [need, Except.bind, bind, pure, Except.pure, Except.ok.injEq] at h
  simp only [← h, orphans, lookupRows, references, jobRows, ht, hj, contains_ofList, decide_not]
  rfl

/-- No row that a job points at is taken, so no job is left without its row. -/
theorem no_reference_lost (t : Table Lookup) (ids used : List Int) :
    (t.rows.any fun row => (Std.TreeSet.ofList used compare).contains row.id &&
      !(Std.TreeSet.ofList (t.filter fun row =>
        !((Std.TreeSet.ofList ids compare).contains row.id &&
          !(Std.TreeSet.ofList used compare).contains row.id)).ids compare).contains row.id) =
      false := by
  simp only [contains_ofList]
  refine List.any_eq_false.2 fun row hrow lost => ?_
  obtain ⟨hused, hleft⟩ := (Bool.and_eq_true _ _).mp lost
  have stays : row.id ∈ (t.filter fun row =>
      !(decide (row.id ∈ ids) && !decide (row.id ∈ used))).ids :=
    List.mem_map_of_mem (List.mem_filter.2 ⟨hrow, by rw [hused]; simp⟩)
  rw [decide_eq_true stays] at hleft
  cases hleft

/-- A statement takes those of the rows it names that are orphans. -/
theorem deleteUnreferenced_ok {kind : LookupKind} {ids : List Int} {s s' : Store} {k : UInt64}
    (h : deleteUnreferenced kind ids s = .ok (k, s')) :
    s' = s.withoutLookups kind (ids.filter (· ∉ s.references kind)) ∧
      k.toNat + (s'.lookupRows kind).length = (s.lookupRows kind).length := by
  unfold deleteUnreferenced at h
  by_cases hempty : ids.isEmpty
  · rw [if_pos hempty] at h
    cases h
    rw [List.isEmpty_iff.1 hempty]
    simp
  rw [if_neg hempty] at h
  rcases hv : checkVariables ids.length with e | ⟨⟩ <;> rw [hv] at h
  · cases h
  rcases ht : s.lookups kind with _ | t <;> rw [ht] at h
  · cases h
  rcases hj : s.job with _ | jobs <;> rw [hj] at h
  · cases h
  simp only [need, bind, Except.bind, no_reference_lost] at h
  cases h
  have hleft : t.filter (fun row => !((Std.TreeSet.ofList ids compare).contains row.id &&
      !(Std.TreeSet.ofList (jobs.rows.map (·.reference kind)) compare).contains row.id)) =
      t.filter (·.id ∉ ids.filter (· ∉ s.references kind)) := by
    refine Table.filter_congr fun row _ => ?_
    simp [references, jobRows, hj]
  have hlen := List.length_filter_le
    (fun row : Lookup => row.id ∉ ids.filter (· ∉ s.references kind)) t.rows
  constructor
  · rw [hleft, withoutLookups, ht]
    rfl
  · rw [hleft, toNat_toUInt64 (Nat.le_trans (Nat.sub_le _ _) t.size_le)]
    simp only [lookupRows, lookups_setLookups, ht, Option.elim_some, Table.rows_filter]
    omega

/-! ### What is to stay -/

section Stay

open Time (Instant)

variable (cutoff : Instant) (s : Store)

def stayingJobs : List Job := s.jobRows.filter fun row => cutoff.stored ≤ row.submitted

/-- The store with the jobs that were submitted at or after the cutoff, their logs and details, and
the lookup rows that they point at. -/
def kept : Store :=
  { s with
    job := s.job.map (·.filter fun row => cutoff.stored ≤ row.submitted)
    jobLog := s.jobLog.map (·.filter fun row => ∃ job ∈ s.stayingJobs cutoff, job.id = row.job)
    jobDetail :=
      s.jobDetail.map (·.filter fun row => ∃ job ∈ s.stayingJobs cutoff, job.id = row.job)
    jobType :=
      s.jobType.map (·.filter fun row => ∃ job ∈ s.stayingJobs cutoff, job.jobType = row.id)
    jobGroup :=
      s.jobGroup.map (·.filter fun row => ∃ job ∈ s.stayingJobs cutoff, job.jobGroup = row.id)
    machine :=
      s.machine.map (·.filter fun row => ∃ job ∈ s.stayingJobs cutoff, job.machine = row.id) }

variable {cutoff s}

theorem mem_dueJobs_ids {row : Job} (h : row ∈ s.jobRows) :
    row.id ∈ (s.dueJobs cutoff).map (·.id) ↔ ¬ cutoff.stored ≤ row.submitted := by
  have inj := List.inj_on_of_nodup_map s.jobRows_ids_nodup
  rw [String.not_le]
  constructor
  · intro hid
    obtain ⟨row', hrow', hsame⟩ := List.mem_map.1 hid
    obtain ⟨hmem, hdue⟩ := List.mem_filter.1 hrow'
    rw [← inj hmem h hsame]
    exact of_decide_eq_true hdue
  · exact fun hdue => List.mem_map_of_mem (List.mem_filter.2 ⟨h, decide_eq_true hdue⟩)

variable (cutoff s) in
theorem length_dueJobs :
    (s.dueJobs cutoff).length + (s.stayingJobs cutoff).length = s.jobRows.length := by
  have split := s.jobRows.length_eq_length_filter_add fun row => decide (Job.Eligible cutoff row)
  have stay : s.stayingJobs cutoff =
      s.jobRows.filter fun row => !decide (Job.Eligible cutoff row) :=
    List.filter_congr fun row _ => by
      rw [← decide_not, decide_eq_decide]
      exact String.not_lt.symm
  rw [stay]
  exact split.symm

@[simp] theorem jobRows_kept : (s.kept cutoff).jobRows = s.stayingJobs cutoff := by
  unfold stayingJobs jobRows kept
  cases s.job <;> rfl

@[simp] theorem lookupRows_withoutJobs (gone : List Int) (kind : LookupKind) :
    (s.withoutJobs gone).lookupRows kind = s.lookupRows kind := by
  cases kind <;> rfl

theorem jobRows_without_due :
    (s.withoutJobs ((s.dueJobs cutoff).map (·.id))).jobRows = s.stayingJobs cutoff := by
  rw [jobRows_withoutJobs]
  refine List.filter_congr fun row hrow => ?_
  rw [decide_eq_decide, mem_dueJobs_ids hrow, Classical.not_not]

/-- Where every log and detail belongs to a job, taking the jobs that are due and then the orphans
leaves what is to stay. -/
theorem pruned_without_due (jobs : s.job ≠ none) (refs : s.References) :
    (s.withoutJobs ((s.dueJobs cutoff).map (·.id))).pruned LookupKind.all = s.kept cutoff := by
  obtain ⟨t, ht⟩ := Option.ne_none_iff_exists'.1 jobs
  have rows : s.jobRows = t.rows := by simp [jobRows, ht]
  have job : t.filter (·.id ∉ (s.dueJobs cutoff).map (·.id)) =
      t.filter fun row => cutoff.stored ≤ row.submitted := by
    refine Table.filter_congr fun row hrow => ?_
    rw [decide_eq_decide, mem_dueJobs_ids (rows ▸ hrow), Classical.not_not]
  have attachments (u : Table Attachment) (h : ∀ row ∈ u.rows, row.job ∈ t.ids) :
      u.filter (·.job ∉ (s.dueJobs cutoff).map (·.id)) =
        u.filter fun row => ∃ job ∈ s.stayingJobs cutoff, job.id = row.job := by
    refine Table.filter_congr fun row hrow => ?_
    obtain ⟨job, hjob, hid : job.id = row.job⟩ := List.mem_map.1 (h row hrow)
    have hjob : job ∈ s.jobRows := rows ▸ hjob
    rw [decide_eq_decide, ← hid, mem_dueJobs_ids hjob, Classical.not_not]
    constructor
    · exact fun hstay => ⟨job, List.mem_filter.2 ⟨hjob, decide_eq_true hstay⟩, rfl⟩
    · rintro ⟨job', hjob', hsame⟩
      obtain ⟨hmem, hstay⟩ := List.mem_filter.1 hjob'
      rw [← List.inj_on_of_nodup_map s.jobRows_ids_nodup hmem hjob hsame]
      exact of_decide_eq_true hstay
  have dependents (kind : AttachmentKind) : (s.attachments kind).map
        (·.filter (·.job ∉ (s.dueJobs cutoff).map (·.id))) =
      (s.attachments kind).map
        (·.filter fun row => ∃ job ∈ s.stayingJobs cutoff, job.id = row.job) := by
    rcases hu : s.attachments kind with _ | u
    · rfl
    · exact congrArg some (attachments u fun row hrow => refs.attachments kind u hu row hrow t ht)
  have lookups (kind : LookupKind) (u : Table Lookup) :
      u.filter (·.id ∈ (s.withoutJobs ((s.dueJobs cutoff).map (·.id))).references kind) =
        u.filter fun row => ∃ job ∈ s.stayingJobs cutoff, job.reference kind = row.id := by
    refine Table.filter_congr fun row _ => ?_
    rw [decide_eq_decide, references, jobRows_without_due, List.mem_map]
  rw [pruned_all, funext (lookups .jobType), funext (lookups .jobGroup), funext (lookups .machine)]
  simp only [withoutJobs, kept, ht, Option.map_some, job]
  rw [show s.jobLog = s.attachments .log from rfl,
    show s.jobDetail = s.attachments .detail from rfl, dependents, dependents]
  rfl

end Stay

end Retention.Store
