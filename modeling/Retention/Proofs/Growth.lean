import Mathlib.Logic.Relation
import Mathlib.Tactic.SplitIfs
import Retention.Proofs.Integrity
import Retention.Store.Seed

/-!
# Rows that come in

An insertion puts rows into one table (`Store.Gains`). The schema lets in no key and no name twice,
and no row that points at nothing, so a store stays intact (`Gains.intact`). All that seeds do to a
store is a series of such insertions, unless they drop a table (`Seed.sow_grows`).
-/

namespace Retention.Store

open Relation (ReflTransGen)

/-- The second store has rows more in one of its tables, and the schema accepts them. No key occurs
twice, as the keys of a table ascend. -/
inductive Gains (s : Store) : Store → Prop
  | repositories {t t' : Table Repository} {new : List Repository} (was : s.repository = some t)
    (rows : t'.rows.Perm (new ++ t.rows)) (names : (new.map (·.name)).Nodup)
    (fresh : ∀ row ∈ new, row.name ∉ t.rows.map (·.name)) :
    Gains s { s with repository := some t' }
  | lookups {kind : LookupKind} {t t' : Table Lookup} {new : List Lookup}
    (was : s.lookups kind = some t) (rows : t'.rows.Perm (new ++ t.rows)) :
    Gains s (s.setLookups kind (some t'))
  | jobs {t t' : Table Job} {new : List Job} (was : s.job = some t)
    (rows : t'.rows.Perm (new ++ t.rows))
    (refer : ∀ row ∈ new, ∀ kind, ∃ u, s.lookups kind = some u ∧ row.reference kind ∈ u.ids) :
    Gains s { s with job := some t' }
  | attachments {kind : AttachmentKind} {t t' : Table Attachment} {new : List Attachment}
    (was : s.attachments kind = some t) (rows : t'.rows.Perm (new ++ t.rows))
    (refer : ∀ row ∈ new, ∃ u, s.job = some u ∧ row.job ∈ u.ids) :
    Gains s (s.setAttachments kind (some t'))
  | data {t t' : Table Datum} {new : List Datum} (was : s.performanceDatum = some t)
    (rows : t'.rows.Perm (new ++ t.rows))
    (refer : ∀ row ∈ new, ∃ u, s.repository = some u ∧ row.repository ∈ u.ids) :
    Gains s { s with performanceDatum := some t' }

/-- One store comes from the other by insertions. -/
abbrev Grows : Store → Store → Prop := ReflTransGen Gains

section Attachments

variable (s : Store) (kind : AttachmentKind) (t : Option (Table Attachment))

@[simp] theorem attachments_setAttachments : (s.setAttachments kind t).attachments kind = t := by
  cases kind <;> rfl

@[simp] theorem job_setAttachments : (s.setAttachments kind t).job = s.job := by
  cases kind <;> rfl

theorem attachments_setAttachments_of_ne {kind' : AttachmentKind} (h : kind' ≠ kind) :
    (s.setAttachments kind t).attachments kind' = s.attachments kind' := by
  cases kind <;> cases kind' <;> first | rfl | exact absurd rfl h

end Attachments

namespace Gains

variable {s s' : Store}

theorem ids_subset {α : Type} [Keyed α] {t t' : Table α} {new : List α}
    (rows : t'.rows.Perm (new ++ t.rows)) {id : Int} (h : id ∈ t.ids) : id ∈ t'.ids := by
  obtain ⟨row, hrow, hid⟩ := List.mem_map.1 h
  exact List.mem_map.2 ⟨row, rows.mem_iff.2 (List.mem_append_right _ hrow), hid⟩

theorem mem_ids {α : Type} [Keyed α] {table? : Option (Table α)} {t : Table α} {id : Int}
    (there : ∃ u, table? = some u ∧ id ∈ u.ids) (same : table? = some t) : id ∈ t.ids := by
  obtain ⟨u, hu, h⟩ := there
  cases hu.symm.trans same
  exact h

theorem complete (h : s.Gains s') (all : s.Complete) : s'.Complete := by
  intro name
  have there := all name
  cases h with
  | @lookups kind => cases kind <;> cases name <;> first | rfl | exact there
  | @attachments kind => cases kind <;> cases name <;> first | rfl | exact there
  | _ => cases name <;> first | rfl | exact there

/-- An insertion leaves no row that points at nothing. In the table that it puts rows into, an old
row points where it did and a new one where the schema had it point; the rows that point at this
table still find their keys (`ids_subset`). -/
theorem references (h : s.Gains s') (refs : s.References) : s'.References := by
  cases h with
  | @repositories t t' new was rows =>
    refine ⟨refs.jobs, refs.attachments, fun data hdata row hrow repositories hnew => ?_⟩
    cases hnew
    exact ids_subset rows (refs.data data hdata row hrow t was)
  | @lookups kind t t' new was rows =>
    refine ⟨fun jobs hjobs row hrow kind' u hu => ?_, ?_, ?_⟩
    · rw [job_setLookups] at hjobs
      by_cases same : kind' = kind
      · subst same
        rw [lookups_setLookups] at hu
        cases hu
        exact ids_subset rows (refs.jobs jobs hjobs row hrow kind' t was)
      · rw [lookups_setLookups_of_ne _ _ _ same] at hu
        exact refs.jobs jobs hjobs row hrow kind' u hu
    · cases kind <;> exact refs.attachments
    · cases kind <;> exact refs.data
  | @jobs t t' new was rows refer =>
    refine ⟨fun jobs hjobs row hrow kind u hu => ?_, fun kind u hu row hrow jobs hjobs => ?_,
      refs.data⟩
    · cases hjobs
      have hu : s.lookups kind = some u := by
        rw [← hu]
        cases kind <;> rfl
      rcases List.mem_append.1 (rows.mem_iff.1 hrow) with hnew | hold
      · exact mem_ids (refer row hnew kind) hu
      · exact refs.jobs t was row hold kind u hu
    · cases hjobs
      have hu : s.attachments kind = some u := by
        rw [← hu]
        cases kind <;> rfl
      exact ids_subset rows (refs.attachments kind u hu row hrow t was)
  | @attachments kind t t' new was rows refer =>
    refine ⟨?_, fun kind' u hu row hrow jobs hjobs => ?_, ?_⟩
    · cases kind <;> exact refs.jobs
    · rw [job_setAttachments] at hjobs
      by_cases same : kind' = kind
      · subst same
        rw [attachments_setAttachments] at hu
        cases hu
        rcases List.mem_append.1 (rows.mem_iff.1 hrow) with hnew | hold
        · exact mem_ids (refer row hnew) hjobs
        · exact refs.attachments kind' t was row hold jobs hjobs
      · rw [attachments_setAttachments_of_ne _ _ _ same] at hu
        exact refs.attachments kind' u hu row hrow jobs hjobs
    · cases kind <;> exact refs.data
  | @data t t' new was rows refer =>
    refine ⟨refs.jobs, refs.attachments, fun data hdata row hrow repositories hrepositories => ?_⟩
    cases hdata
    rcases List.mem_append.1 (rows.mem_iff.1 hrow) with hnew | hold
    · exact mem_ids (refer row hnew) hrepositories
    · exact refs.data t was row hold repositories hrepositories

theorem intact (h : s.Gains s') (whole : s.Intact) : s'.Intact :=
  ⟨h.complete whole.complete, h.references whole.references⟩

end Gains

theorem Grows.complete {s s' : Store} (h : s.Grows s') (all : s.Complete) : s'.Complete := by
  induction h with
  | refl => exact all
  | tail _ rows ih => exact rows.complete ih

/-! ### Seeds -/

namespace Table

variable {α : Type} [Keyed α]

omit [Keyed α] in
theorem mem_run {row : Int → α} : ∀ {first : Int} {n : Nat} {r : α}, r ∈ run row first n →
    ∃ k : Nat, k < n ∧ r = row (first + k)
  | _, 0, _, h => by simp [run] at h
  | first, n + 1, r, h => by
    simp only [run, List.mem_cons] at h
    rcases h with rfl | h
    · exact ⟨0, by omega, by simp⟩
    · obtain ⟨k, hk, rfl⟩ := mem_run h
      exact ⟨k + 1, by omega, congrArg row (by omega)⟩

theorem rows_insertRun (t : Table α) {row : Int → α} (row_key : ∀ k, Keyed.key (row k) = k)
    {first : Int} {count : Nat} (free : t.isFree first count)
    (room : t.rows.length + count ≤ capacity) :
    (t.insertRun row row_key first count free room).rows.Perm (run row first count ++ t.rows) := by
  have split : t.rows.takeWhile (Keyed.key · < first) ++ t.rows.dropWhile (Keyed.key · < first) =
      t.rows := List.takeWhile_append_dropWhile
  have swap := List.perm_append_comm_assoc (t.rows.takeWhile (Keyed.key · < first))
    (run row first count) (t.rows.dropWhile (Keyed.key · < first))
  rwa [split] at swap

theorem mem_ids_of_hasRun {t : Table α} {first : Int} {count : Nat} (h : t.hasRun first count)
    {i : Nat} (hi : i < count) : first + i ∈ t.ids := by
  have keys := eq_of_beq h
  have there : first + (i : Int) ∈ (List.range count).map fun i : Nat => first + (i : Int) :=
    List.mem_map.2 ⟨i, List.mem_range.2 hi, rfl⟩
  rw [← keys] at there
  exact List.map_subset _
    (List.Subset.trans (List.take_subset _ _) (List.dropWhile_sublist _).subset) there

end Table

section Insertions

variable {s : Store}

theorem of_exists? {α : Type} [Keyed α] {t : Option (Table α)} {id : Int} (h : exists? t id) :
    ∃ u, t = some u ∧ id ∈ u.ids := by
  rcases t with _ | u
  · cases h
  · obtain ⟨row, hrow, hid⟩ := List.any_eq_true.1 (show u.has id from h)
    exact ⟨u, rfl, List.mem_map.2 ⟨row, hrow, eq_of_beq hid⟩⟩

/-- What an insertion does: nothing, or it adds a run of rows. -/
theorem insertRows_cases {α : Type} [Keyed α] (s : Store) (name : TableName)
    (parents : List TableName) (t : Option (Table α)) (put : Table α → Store) (row : Int → α)
    (row_key : ∀ k, Keyed.key (row k) = k) (refers : Bool) (id? : Option Int) (count : Nat) :
    (insertRows s name parents t put row row_key refers id? count).store = s ∨
      ∃ u u', t = some u ∧
        u'.rows.Perm (Table.run row (id?.getD u.nextId) count ++ u.rows) ∧
        (count = 0 ∨ refers) ∧
        (insertRows s name parents t put row row_key refers id? count).store = put u' := by
  unfold insertRows
  split
  · exact .inl rfl
  · exact .inl rfl
  · rename_i u ht hp
    have ht : t = some u := by
      cases t <;> cases ht
      rfl
    simp only
    split_ifs with free room refer
    · exact .inr ⟨u, _, ht, u.rows_insertRun row_key free room, refer, rfl⟩
    · exact .inl rfl
    · exact .inl rfl
    · exact .inl rfl

theorem insertRepository_grows (name : String) (id? : Option Int) :
    s.Grows (s.insertRepository name id?).store := by
  unfold insertRepository
  split
  · exact .refl
  rename_i t ht
  split_ifs with taken known
  · exact .refl
  · exact .refl
  have new : ∀ row ∈ t.rows, row.name ≠ name := by simpa using known
  rcases insertRows_cases s .repository [] (some t) (fun t => { s with repository := some t })
      (fun id => ⟨id, name⟩) (fun _ => rfl) true id? 1 with h | ⟨u, u', hu, rows, -, h⟩
  · rw [h]
  · rw [h]
    cases hu
    refine .single (.repositories ht rows (by simp [Table.run]) fun row hrow => ?_)
    obtain rfl := List.mem_singleton.1 hrow
    simpa using new

theorem insertLookups_grows (kind : LookupKind) (id? : Option Int) (count : Nat) :
    s.Grows (s.insertLookups kind id? count).store := by
  rcases insertRows_cases s kind.table [] (s.lookups kind) (fun t => s.setLookups kind (some t))
      (fun id => ⟨id⟩) (fun _ => rfl) true id? count with h | ⟨u, u', hu, rows, -, h⟩
  · rw [insertLookups, h]
  · rw [insertLookups, h]
    exact .single (.lookups hu rows)

theorem insertJobs_grows (submitted : String) (jobType jobGroup machine : Int) (id? : Option Int)
    (count : Nat) : s.Grows (s.insertJobs submitted jobType jobGroup machine id? count).store := by
  rcases insertRows_cases s .job [.machine, .jobGroup, .jobType] s.job
      (fun t => { s with job := some t })
      (fun id => ⟨id, submitted, jobType, jobGroup, machine⟩) (fun _ => rfl)
      (exists? s.jobType jobType && exists? s.jobGroup jobGroup && exists? s.machine machine)
      id? count with h | ⟨u, u', hu, rows, refers, h⟩
  · rw [insertJobs, h]
  · rw [insertJobs, h]
    refine .single (.jobs hu rows fun row hrow kind => ?_)
    obtain ⟨k, hk, rfl⟩ := Table.mem_run hrow
    have refers := refers.resolve_left (by omega)
    simp only [Bool.and_eq_true] at refers
    obtain ⟨⟨jobType, jobGroup⟩, machine⟩ := refers
    cases kind with
    | jobType => exact of_exists? jobType
    | jobGroup => exact of_exists? jobGroup
    | machine => exact of_exists? machine

theorem insertAttachments_grows (kind : AttachmentKind) (job : Int) (count : Nat) :
    s.Grows (s.insertAttachments kind job count).store := by
  rcases insertRows_cases s kind.table [.job] (s.attachments kind)
      (fun t => s.setAttachments kind (some t))
      (fun id => ⟨id, job + (id - (s.attachments kind).elim 1 Table.nextId)⟩) (fun _ => rfl)
      (s.job.any (·.hasRun job count)) (some ((s.attachments kind).elim 1 Table.nextId)) count
    with h | ⟨u, u', hu, rows, refers, h⟩
  · rw [insertAttachments, h]
  · rw [insertAttachments, h]
    refine .single (.attachments hu rows fun row hrow => ?_)
    obtain ⟨k, hk, rfl⟩ := Table.mem_run hrow
    have refers := refers.resolve_left (by omega)
    rcases hj : s.job with _ | jobs <;> rw [hj] at refers
    · cases refers
    · refine ⟨jobs, rfl, ?_⟩
      have place := Table.mem_ids_of_hasRun refers hk
      rwa [Option.getD_some, Int.add_comm _ (k : Int), Int.add_sub_cancel]

theorem insertData_grows (repository : Int) (pushed : String) (id? : Option Int) (count : Nat) :
    s.Grows (s.insertData repository pushed id? count).store := by
  rcases insertRows_cases s .performanceDatum [.repository] s.performanceDatum
      (fun t => { s with performanceDatum := some t })
      (fun id => ⟨id, repository, pushed⟩) (fun _ => rfl) (exists? s.repository repository)
      id? count with h | ⟨u, u', hu, rows, refers, h⟩
  · rw [insertData, h]
  · rw [insertData, h]
    refine .single (.data hu rows fun row hrow => ?_)
    obtain ⟨k, hk, rfl⟩ := Table.mem_run hrow
    exact of_exists? (refers.resolve_left (by omega))

theorem series_grows {insertions : List (Store → Insertion)}
    (each : ∀ insert ∈ insertions, ∀ s : Store, s.Grows (insert s).store) (s : Store) :
    s.Grows (Insertion.series s insertions).store := by
  have fold : ∀ (rest : List (Store → Insertion)) (i : Insertion),
      (∀ insert ∈ rest, ∀ s : Store, s.Grows (insert s).store) →
      i.store.Grows (rest.foldl Insertion.andThen i).store := by
    intro rest
    induction rest with
    | nil => exact fun _ _ => .refl
    | cons insert rest ih =>
      intro i each
      obtain ⟨first, later⟩ := List.forall_mem_cons.1 each
      refine ReflTransGen.trans ?_ (ih (i.andThen insert) later)
      unfold Insertion.andThen
      split
      · exact .refl
      · exact first i.store
  exact fold insertions ⟨[], s, none⟩ each

theorem withDependents_grows (jobs : Insertion) (rounds : Nat) :
    jobs.store.Grows (jobs.withDependents rounds).store := by
  unfold Insertion.withDependents
  split
  · refine series_grows (fun insert hinsert s => ?_) _
    obtain ⟨kind, -, rfl⟩ := List.mem_map.1 hinsert
    exact insertAttachments_grows kind _ _
  · exact .refl

theorem insertOwnJob_grows (s : Store) (submitted : String) :
    s.Grows (s.insertOwnJob submitted).store := by
  have own : s.Grows (Insertion.series s <|
      [.jobType, .jobGroup, .machine].map fun kind s => insertLookups s kind none 1).store := by
    refine series_grows (fun insert hinsert s => ?_) s
    obtain ⟨kind, -, rfl⟩ := List.mem_map.1 hinsert
    exact insertLookups_grows kind none 1
  unfold insertOwnJob
  simp only
  split
  · exact own.trans ((insertJobs_grows ..).trans (withDependents_grows _ 1))
  · exact own

/-- What a seed puts into a store are rows that the schema accepts. -/
theorem Seed.sow_grows (s : Store) {seed : Seed} (keeps : ∀ table, seed ≠ .drop table) :
    s.Grows (seed.sow s).store := by
  cases seed with
  | repository => exact insertRepository_grows _ _
  | lookups => exact insertLookups_grows _ _ _
  | jobs => exact (insertJobs_grows ..).trans (withDependents_grows _ _)
  | ownJobs submitted count =>
    refine series_grows (fun insert hinsert s => ?_) s
    obtain rfl := List.eq_of_mem_replicate hinsert
    exact s.insertOwnJob_grows submitted
  | pin => exact insertAttachments_grows _ _ _
  | data => exact insertData_grows _ _ _ _
  | drop table => exact absurd rfl (keeps table)

end Insertions

end Retention.Store
