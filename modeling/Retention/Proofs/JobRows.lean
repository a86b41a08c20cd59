import Retention.Proofs.Tables
import Retention.Store.Delete

/-!
# The jobs that go

Jobs are deleted from the lowest key up, each with its logs and details, so a store from which `n`
jobs went for a cutoff is known (`Store.jobsThinned`). Going on from it is the same as having taken
more at once (`jobsThinned_jobsThinned`), and what is still due is the rest of what was
(`dueJobs_jobsThinned`). A chunk that is carried out takes as many jobs as it may or as there are
(`deleteJobChunk_ok`).
-/

namespace Retention.Store

open Time (Instant)

/-- The rows of jobs; none if their table was dropped. -/
def jobRows (s : Store) : List Job := s.job.elim [] Table.rows

/-- The jobs that were submitted before the cutoff, the lowest key first. -/
def dueJobs (cutoff : Instant) (s : Store) : List Job :=
  s.jobRows.filter fun row => row.Eligible cutoff

/-- The pins; none if their table was dropped. -/
def pinRows (s : Store) : List Attachment := s.jobPin.elim [] Table.rows

/-- No pin points at any of these jobs. -/
def Unpinned (s : Store) (ids : List Int) : Prop := ∀ pin ∈ s.pinRows, pin.job ∉ ids

instance (s : Store) (ids : List Int) : Decidable (s.Unpinned ids) :=
  inferInstanceAs (Decidable (∀ pin ∈ s.pinRows, pin.job ∉ ids))

/-- The store without the jobs of these keys, and without their logs and details. -/
def withoutJobs (s : Store) (gone : List Int) : Store :=
  { s with
    job := s.job.map (·.filter (·.id ∉ gone))
    jobLog := s.jobLog.map (·.filter (·.job ∉ gone))
    jobDetail := s.jobDetail.map (·.filter (·.job ∉ gone)) }

/-- The store without the first `n` jobs that are due. -/
def jobsThinned (cutoff : Instant) (n : Nat) (s : Store) : Store :=
  s.withoutJobs (((s.dueJobs cutoff).take n).map (·.id))

theorem jobRows_ids_nodup (s : Store) : (s.jobRows.map (·.id)).Nodup := by
  unfold jobRows
  cases s.job with
  | none => exact .nil
  | some t => exact t.ids_nodup

theorem jobRows_length_le (s : Store) : s.jobRows.length ≤ capacity := Table.length_rows_le _

@[simp] theorem jobRows_withoutJobs (s : Store) (gone : List Int) :
    (s.withoutJobs gone).jobRows = s.jobRows.filter (·.id ∉ gone) := by
  unfold jobRows withoutJobs
  cases s.job <;> rfl

@[simp] theorem withoutJobs_nil (s : Store) : s.withoutJobs [] = s := by
  unfold withoutJobs
  rw [funext (Table.filter_not_mem_nil Job.id), funext (Table.filter_not_mem_nil Attachment.job),
    Option.map_id_fun', Option.map_id_fun']
  rfl

theorem withoutJobs_withoutJobs (s : Store) (gone gone' : List Int) :
    (s.withoutJobs gone).withoutJobs gone' = s.withoutJobs (gone ++ gone') := by
  unfold withoutJobs
  simp only [Option.map_map, Function.comp_def, Table.filter_not_mem_append Job.id,
    Table.filter_not_mem_append Attachment.job]

section Due

variable (cutoff : Instant) (s : Store)

theorem dueJobs_withoutJobs (gone : List Int) :
    (s.withoutJobs gone).dueJobs cutoff = (s.dueJobs cutoff).filter (·.id ∉ gone) := by
  unfold dueJobs
  rw [jobRows_withoutJobs, List.filter_filter, List.filter_filter]
  exact List.filter_congr fun _ _ => Bool.and_comm _ _

theorem dueJobs_jobsThinned (n : Nat) :
    (s.jobsThinned cutoff n).dueJobs cutoff = (s.dueJobs cutoff).drop n := by
  have nodup : ((s.dueJobs cutoff).map (·.id)).Nodup :=
    s.jobRows_ids_nodup.sublist (List.filter_sublist.map _)
  unfold jobsThinned
  rw [dueJobs_withoutJobs, filter_not_mem_take Job.id nodup]

@[simp] theorem jobsThinned_zero : s.jobsThinned cutoff 0 = s := by
  simp [jobsThinned]

theorem jobsThinned_jobsThinned (m n : Nat) :
    (s.jobsThinned cutoff m).jobsThinned cutoff n = s.jobsThinned cutoff (m + n) := by
  rw [jobsThinned, dueJobs_jobsThinned, jobsThinned, withoutJobs_withoutJobs, ← List.map_append,
    ← List.take_add, jobsThinned]

theorem dueJobs_length_le : (s.dueJobs cutoff).length ≤ capacity :=
  Nat.le_trans (List.length_filter_le _ _) s.jobRows_length_le

end Due

theorem jobsThinned_min (cutoff : Instant) (n : Nat) (s : Store) :
    s.jobsThinned cutoff (min n (s.dueJobs cutoff).length) = s.jobsThinned cutoff n := by
  unfold jobsThinned
  congr 2
  rw [List.take_eq_take_iff]
  omega

theorem countJobsBefore_ok {cutoff : Instant} {s : Store} {k : UInt64}
    (h : s.countJobsBefore cutoff = .ok k) :
    s.job ≠ none ∧ k.toNat = (s.dueJobs cutoff).length := by
  unfold countJobsBefore at h
  rcases hj : s.job with _ | t <;> rw [hj] at h
  · cases h
  simp only [need, Except.bind, bind, pure, Except.pure, Except.ok.injEq] at h
  subst h
  have hdue : s.dueJobs cutoff = t.rows.filter fun row => row.Eligible cutoff := by
    simp [dueJobs, jobRows, hj]
  rw [hdue]
  exact ⟨nofun, toNat_toUInt64 (Nat.le_trans (List.length_filter_le _ _) t.size_le)⟩

theorem jobChunk_eq {cutoff : Instant} {size : UInt32} {s : Store} {t : Table Job}
    (present : s.job = some t) :
    jobChunk t cutoff size = ((s.dueJobs cutoff).take size.toNat).map (·.id) := by
  simp only [dueJobs, jobRows, present]
  rfl

theorem unpinned_iff {s : Store} {ids : List Int} :
    s.Unpinned ids ↔ ∀ pins, s.jobPin = some pins →
      (pins.rows.any fun pin => (Std.TreeSet.ofList ids compare).contains pin.job) = false := by
  unfold Unpinned pinRows
  rcases s.jobPin with _ | pins
  · simp
  · simp

/-- A chunk takes the lowest jobs that are due, as many as it may or as there are, and no pin points
at any of them. -/
theorem deleteJobChunk_ok {cutoff : Instant} {size : UInt32} {s s' : Store} {k : UInt64}
    (h : deleteJobChunk cutoff size s = .ok (k, s')) :
    k.toNat = min size.toNat (s.dueJobs cutoff).length ∧ s' = s.jobsThinned cutoff k.toNat ∧
      s.Unpinned (((s.dueJobs cutoff).take k.toNat).map (·.id)) := by
  unfold deleteJobChunk at h
  rcases hj : s.job with _ | t <;> rw [hj] at h
  · cases h
  have hchunk : jobChunk t cutoff size = _ := jobChunk_eq hj
  have hlen : (jobChunk t cutoff size).length = min size.toNat (s.dueJobs cutoff).length := by
    rw [hchunk, List.length_map, List.length_take]
  simp only [need, bind, Except.bind, pure, Except.pure] at h
  by_cases hempty : (jobChunk t cutoff size).isEmpty
  · rw [if_pos hempty] at h
    obtain ⟨rfl, rfl⟩ : 0 = k ∧ s = s' := by simpa using h
    rw [List.isEmpty_iff] at hempty
    rw [hempty] at hlen
    exact ⟨hlen, (jobsThinned_zero cutoff s).symm, fun _ _ => by simp⟩
  rw [if_neg hempty] at h
  rcases hv : checkVariables (jobChunk t cutoff size).length with e | ⟨⟩ <;> rw [hv] at h
  · cases h
  rcases hl : s.jobLog with _ | logs <;> rw [hl] at h
  · cases h
  rcases hd : s.jobDetail with _ | details <;> rw [hd] at h
  · cases h
  rcases hp : s.needParents jobParents with e | ⟨⟩ <;> rw [hp] at h
  · cases h
  simp only at h
  split_ifs at h with pinned
  cases h
  have hk : (jobChunk t cutoff size).length.toUInt64.toNat = (jobChunk t cutoff size).length := by
    have := s.dueJobs_length_le cutoff
    exact toNat_toUInt64 (by omega)
  have htake : (s.dueJobs cutoff).take (min size.toNat (s.dueJobs cutoff).length) =
      (s.dueJobs cutoff).take size.toNat := by
    rw [List.take_eq_take_iff]
    omega
  refine ⟨hk.trans hlen, ?_, ?_⟩
  · rw [hk, hlen, jobsThinned_min, jobsThinned, ← hchunk]
    simp only [contains_ofList, withoutJobs, hj, hl, hd, Option.map_some, decide_not]
  · rw [hk, hlen, htake, ← hchunk, unpinned_iff]
    intro pins hpins
    simpa only [hpins, Bool.not_eq_true] using pinned

end Retention.Store
