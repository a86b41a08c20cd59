import Retention.Proofs.Calls
import Retention.Proofs.LookupRows
import Retention.Proofs.Rows

/-!
# References through deletions

A call takes performance data, jobs with their logs and details, or lookup rows that no job points
at, and no job that a pin points at (`Request.effect`). So a store loses rows and nothing else
happens to it (`Store.Shrinks`), and the rows that are left still point at rows that exist
(`Request.Effect.intact`).
-/

namespace Retention

namespace Store

section Fewer

variable {α : Type} [Keyed α] {t t' t'' : Option (Table α)}

/-- The second table is the first without some of its rows; one that was dropped stays so. -/
def Fewer (t t' : Option (Table α)) : Prop :=
  Option.Rel (fun u u' => u'.rows.Sublist u.rows) t t'

theorem Fewer.refl : ∀ t : Option (Table α), Fewer t t
  | none => .none
  | some _ => .some (List.Sublist.refl _)

theorem Fewer.trans (h : Fewer t t') (h' : Fewer t' t'') : Fewer t t'' := by
  cases h with
  | none =>
    cases h'
    exact .none
  | some h =>
    cases h' with
    | some h' => exact .some (h'.trans h)

theorem fewer_filter (p : α → Bool) : ∀ t : Option (Table α), Fewer t (t.map (·.filter p))
  | none => .none
  | some _ => .some List.filter_sublist

theorem Fewer.isSome_eq (h : Fewer t t') : t'.isSome = t.isSome := by
  cases h <;> rfl

theorem Fewer.sublist (h : Fewer t t') :
    (t'.elim [] Table.rows).Sublist (t.elim [] Table.rows) := by
  cases h with
  | none => exact List.Sublist.refl _
  | some h => exact h

end Fewer

/-- The second store is the first without some of its rows, none of them a repository or a pin. -/
structure Shrinks (s s' : Store) : Prop where
  repository : s'.repository = s.repository
  lookups (kind : LookupKind) : Fewer (s.lookups kind) (s'.lookups kind)
  job : Fewer s.job s'.job
  attachments (kind : AttachmentKind) : Fewer (s.attachments kind) (s'.attachments kind)
  jobPin : s'.jobPin = s.jobPin
  data : Fewer s.performanceDatum s'.performanceDatum

namespace Shrinks

variable {s s' s'' : Store}

theorem refl (s : Store) : s.Shrinks s :=
  ⟨rfl, fun _ => .refl _, .refl _, fun _ => .refl _, rfl, .refl _⟩

theorem trans (h : s.Shrinks s') (h' : s'.Shrinks s'') : s.Shrinks s'' where
  repository := h'.repository.trans h.repository
  lookups kind := (h.lookups kind).trans (h'.lookups kind)
  job := h.job.trans h'.job
  attachments kind := (h.attachments kind).trans (h'.attachments kind)
  jobPin := h'.jobPin.trans h.jobPin
  data := h.data.trans h'.data

theorem complete (h : s.Shrinks s') (all : s.Complete) : s'.Complete := by
  intro name
  rw [← all name]
  cases name with
  | repository => exact congrArg Option.isSome h.repository
  | jobType => exact (h.lookups .jobType).isSome_eq
  | jobGroup => exact (h.lookups .jobGroup).isSome_eq
  | machine => exact (h.lookups .machine).isSome_eq
  | job => exact h.job.isSome_eq
  | jobLog => exact (h.attachments .log).isSome_eq
  | jobDetail => exact (h.attachments .detail).isSome_eq
  | jobPin => exact congrArg Option.isSome h.jobPin
  | performanceDatum => exact h.data.isSome_eq

theorem dueJobs (h : s.Shrinks s') (cutoff : Time.Instant) :
    (s'.dueJobs cutoff).Sublist (s.dueJobs cutoff) :=
  h.job.sublist.filter _

theorem unpinned (h : s.Shrinks s') {cutoff : Time.Instant}
    (unpinned : s.Unpinned ((s.dueJobs cutoff).map (·.id))) :
    s'.Unpinned ((s'.dueJobs cutoff).map (·.id)) := by
  intro pin hpin hdue
  rw [pinRows, h.jobPin] at hpin
  exact unpinned pin hpin (((h.dueJobs cutoff).map _).subset hdue)

end Shrinks

section Deletions

variable (s : Store)

theorem shrinks_withoutData (gone : List Datum) : s.Shrinks (s.withoutData gone) :=
  ⟨rfl, fun _ => .refl _, .refl _, fun _ => .refl _, rfl, fewer_filter _ _⟩

theorem shrinks_withoutJobs (gone : List Int) : s.Shrinks (s.withoutJobs gone) where
  repository := rfl
  lookups kind := by cases kind <;> exact .refl _
  job := fewer_filter _ _
  attachments kind := by
    cases kind with
    | log => exact fewer_filter _ _
    | detail => exact fewer_filter _ _
    | pin => exact .refl _
  jobPin := rfl
  data := .refl _

theorem shrinks_withoutLookups (kind : LookupKind) (gone : List Int) :
    s.Shrinks (s.withoutLookups kind gone) where
  repository := by cases kind <;> rfl
  lookups kind' := by
    unfold withoutLookups
    by_cases same : kind' = kind
    · rw [same, lookups_setLookups]
      exact fewer_filter _ _
    · rw [lookups_setLookups_of_ne _ _ _ same]
      exact .refl _
  job := by
    rw [withoutLookups, job_setLookups]
    exact .refl _
  attachments kind' := by cases kind <;> cases kind' <;> exact .refl _
  jobPin := by cases kind <;> rfl
  data := by cases kind <;> exact .refl _

end Deletions

/-- No table was dropped, and every row points at rows that exist. -/
structure Intact (s : Store) : Prop where
  complete : s.Complete
  references : s.References

namespace References

variable {s : Store}

theorem withoutData (h : s.References) (gone : List Datum) : (s.withoutData gone).References where
  jobs := h.jobs
  attachments := h.attachments
  data data hdata row hrow := by
    obtain ⟨t, ht, rfl⟩ := Option.map_eq_some_iff.1 hdata
    exact h.data t ht row (List.mem_of_mem_filter hrow)

theorem withoutJobs (h : s.References) {gone : List Int} (unpinned : s.Unpinned gone) :
    (s.withoutJobs gone).References where
  jobs jobs hjobs row hrow kind := by
    obtain ⟨t, ht, rfl⟩ := Option.map_eq_some_iff.1 hjobs
    have := h.jobs t ht row (List.mem_of_mem_filter hrow) kind
    cases kind <;> exact this
  attachments kind table htable row hrow jobs hjobs := by
    obtain ⟨t, ht, rfl⟩ := Option.map_eq_some_iff.1 hjobs
    have stays (there : row.job ∈ t.ids) (spared : row.job ∉ gone) :
        row.job ∈ (t.filter (·.id ∉ gone)).ids := by
      obtain ⟨job, hjob, hid : job.id = row.job⟩ := List.mem_map.1 there
      exact List.mem_map.2
        ⟨job, List.mem_filter.2 ⟨hjob, decide_eq_true (hid ▸ spared)⟩, hid⟩
    -- logs and details went with their jobs; of a pin it is known that its job stays
    have dependent (u : Option (Table Attachment)) (hu : s.attachments kind = u)
        (hmap : u.map (·.filter (·.job ∉ gone)) = some table) :
        row.job ∈ (t.filter (·.id ∉ gone)).ids := by
      obtain ⟨v, rfl, rfl⟩ := Option.map_eq_some_iff.1 hmap
      obtain ⟨hmem, spared⟩ := List.mem_filter.1 hrow
      exact stays (h.attachments kind v hu row hmem t ht) (of_decide_eq_true spared)
    cases kind with
    | log => exact dependent _ rfl htable
    | detail => exact dependent _ rfl htable
    | pin =>
      have htable : s.jobPin = some table := htable
      exact stays (h.attachments .pin table htable row hrow t ht)
        (unpinned row (by simpa [pinRows, htable] using hrow))
  data := h.data

/-- Only jobs point at lookup rows, so those that no job points at may go. -/
theorem withoutLookups (h : s.References) {kind : LookupKind} {gone : List Int}
    (unused : ∀ id ∈ gone, id ∉ s.references kind) : (s.withoutLookups kind gone).References where
  jobs jobs hjobs row hrow kind' table htable := by
    rw [Store.withoutLookups, job_setLookups] at hjobs
    unfold Store.withoutLookups at htable
    by_cases same : kind' = kind
    · subst same
      rw [lookups_setLookups] at htable
      obtain ⟨t, ht, rfl⟩ := Option.map_eq_some_iff.1 htable
      obtain ⟨lookup, hlookup, hid : lookup.id = _⟩ :=
        List.mem_map.1 (h.jobs jobs hjobs row hrow kind' t ht)
      have used : lookup.id ∈ s.references kind' := by
        rw [hid, references, jobRows, hjobs]
        exact List.mem_map_of_mem hrow
      exact List.mem_map.2 ⟨lookup, List.mem_filter.2
        ⟨hlookup, decide_eq_true fun hgone => unused _ hgone used⟩, hid⟩
    · rw [lookups_setLookups_of_ne _ _ _ same] at htable
      exact h.jobs jobs hjobs row hrow kind' table htable
  attachments kind' table htable := by
    rw [Store.withoutLookups, job_setLookups]
    refine h.attachments kind' table ?_
    rw [← htable]
    cases kind <;> cases kind' <;> rfl
  data data hdata row hrow repositories hrepositories := by
    refine h.data data ?_ row hrow repositories ?_
    · rw [← hdata]
      cases kind <;> rfl
    · rw [← hrepositories]
      cases kind <;> rfl

end References

end Store

namespace Cycle

open Store (DatabaseError)

variable {s s' : Store}

/-- What becomes of a store by a call. -/
inductive Request.Effect (s : Store) : Request → Store → Prop
  | unchanged {q} : Effect s q s
  | data {cutoff scope limit n} :
    Effect s (.deleteBefore cutoff scope limit) (s.thinned cutoff scope n)
  | jobs {cutoff size n} (unpinned : s.Unpinned (((s.dueJobs cutoff).take n).map (·.id))) :
    Effect s (.deleteChunkBefore cutoff size) (s.jobsThinned cutoff n)
  | lookups {kind ids} :
    Effect s (.deleteUnreferenced kind ids)
      (s.withoutLookups kind (ids.filter (· ∉ s.references kind)))

theorem Request.effect (q : Request) (s : Store) : q.Effect s (q.perform s).2 := by
  have failed {e : DatabaseError} {s' : Store} (h : q.perform s = (.error e, s')) :
      q.Effect s s' := by
    rw [q.perform_error h]
    exact .unchanged
  rcases h : q.perform s with ⟨e | k, s'⟩
  · exact failed h
  cases q with
  | deleteBefore =>
    rw [(Store.deleteData_ok (ofStatement_ok h)).2]
    exact .data
  | deleteChunkBefore =>
    obtain ⟨-, hs, unpinned⟩ := Store.deleteJobChunk_ok (ofStatement_ok h)
    rw [hs]
    exact .jobs unpinned
  | deleteUnreferenced =>
    rw [(Store.deleteUnreferenced_ok (ofStatement_ok h)).1]
    exact .lookups
  | _ =>
    rw [← (Prod.mk.inj h).2]
    exact .unchanged

namespace Request.Effect

variable {q : Request}

theorem shrinks (h : q.Effect s s') : s.Shrinks s' := by
  cases h with
  | unchanged => exact .refl s
  | data => exact s.shrinks_withoutData _
  | jobs => exact s.shrinks_withoutJobs _
  | lookups => exact s.shrinks_withoutLookups _ _

theorem references (h : q.Effect s s') (refs : s.References) : s'.References := by
  cases h with
  | unchanged => exact refs
  | data => exact refs.withoutData _
  | jobs unpinned => exact refs.withoutJobs unpinned
  | lookups => exact refs.withoutLookups fun id hid => by simpa using (List.mem_filter.1 hid).2

theorem intact (h : q.Effect s s') (whole : s.Intact) : s'.Intact :=
  ⟨h.shrinks.complete whole.complete, h.references whole.references⟩

end Request.Effect

theorem Request.perform_below (q : Request) (below : s.Shrinks s' ∧ s'.Intact) :
    s.Shrinks (q.perform s').2 ∧ (q.perform s').2.Intact :=
  ⟨below.1.trans (q.effect s').shrinks, (q.effect s').intact below.2⟩

end Cycle

end Retention
