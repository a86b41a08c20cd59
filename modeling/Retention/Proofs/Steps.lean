import Mathlib.Algebra.GroupWithZero.Nat
import Retention.Proofs.World

/-!
# What a step counts

A step counts the deletes that were carried out, and the rows that went by them
(`StepReport.after_eq`). A report only grows, so the error of a step is told of to the end
(`Report.no_error`).
-/

namespace Retention.Cycle

variable {σ : Type}

/-- The numbers of rows that went by the deletes, one after the other. -/
def deletions (acts : List (Act σ)) : List UInt64 := acts.filterMap Act.deleted?

/-- The number of rows that went in all. -/
def rowsDeleted (acts : List (Act σ)) : Nat := ((deletions acts).map UInt64.toNat).sum

/-- The step after these acts: each delete that was carried out counts. -/
def StepReport.after (step : StepReport) (acts : List (Act σ)) : StepReport :=
  (deletions acts).foldl StepReport.record step

theorem deletions_append (acts acts' : List (Act σ)) :
    deletions (acts ++ acts') = deletions acts ++ deletions acts' :=
  List.filterMap_append

theorem rowsDeleted_append (acts acts' : List (Act σ)) :
    rowsDeleted (acts ++ acts') = rowsDeleted acts + rowsDeleted acts' := by
  rw [rowsDeleted, deletions_append, List.map_append, List.sum_append, rowsDeleted, rowsDeleted]

@[simp] theorem rowsDeleted_nil : rowsDeleted ([] : List (Act σ)) = 0 := rfl

theorem rowsDeleted_cons (act : Act σ) (acts : List (Act σ)) :
    rowsDeleted (act :: acts) = act.deleted?.elim 0 UInt64.toNat + rowsDeleted acts := by
  unfold rowsDeleted deletions
  rcases h : act.deleted? with _ | k
  · rw [List.filterMap_cons_none h]
    simp
  · rw [List.filterMap_cons_some h, List.map_cons, List.sum_cons, Option.elim_some]

section Looks

variable (reading : Time.Duration) (acts : List (Act σ))

@[simp] theorem rowsDeleted_looked : rowsDeleted (.looked reading :: acts) = rowsDeleted acts :=
  rfl

@[simp] theorem countP_deletes_looked :
    (.looked reading :: acts).countP Act.deletes = acts.countP Act.deletes :=
  List.countP_cons_of_neg nofun

end Looks

theorem deletions_eq_nil {acts : List (Act σ)} (reads : ∀ act ∈ acts, act.deletes = false) :
    deletions acts = [] := by
  refine List.filterMap_eq_nil_iff.2 fun act hact => ?_
  have := reads act hact
  unfold Act.deleted?
  split <;> first | rfl | cases this

theorem rowsDeleted_eq_zero {acts : List (Act σ)} (reads : ∀ act ∈ acts, act.deletes = false) :
    rowsDeleted acts = 0 := by
  rw [rowsDeleted, deletions_eq_nil reads, List.map_nil, List.sum_nil]

theorem countP_deletes_eq_zero {acts : List (Act σ)}
    (reads : ∀ act ∈ acts, act.deletes = false) : acts.countP Act.deletes = 0 :=
  List.countP_eq_zero.2 fun act hact => by simp [reads act hact]

theorem StepReport.after_append (step : StepReport) (acts acts' : List (Act σ)) :
    step.after (acts ++ acts') = (step.after acts).after acts' := by
  rw [after, deletions_append, List.foldl_append, after, after]

theorem StepReport.after_reads (step : StepReport) {acts : List (Act σ)}
    (reads : ∀ act ∈ acts, act.deletes = false) : step.after acts = step := by
  rw [after, deletions_eq_nil reads, List.foldl_nil]

theorem StepReport.foldl_record : ∀ (counts : List UInt64) (step : StepReport),
    counts.foldl record step = { step with
      deleted := step.deleted + (counts.map UInt64.toNat).sum.toUInt64
      statements := step.statements + counts.length.toUInt32 }
  | [], step => by simp
  | k :: counts, step => by
    rw [List.foldl_cons, foldl_record counts, record]
    simp only [List.map_cons, List.sum_cons, List.length_cons, mk.injEq, true_and, and_true]
    constructor
    · rw [Nat.toUInt64_eq, Nat.toUInt64_eq, UInt64.ofNat_add, UInt64.ofNat_toNat, UInt64.add_assoc]
    · rw [Nat.toUInt32_eq, Nat.toUInt32_eq, UInt32.ofNat_add, UInt32.add_assoc, UInt32.add_comm 1]
      rfl

theorem StepReport.after_eq (step : StepReport) (acts : List (Act σ)) :
    step.after acts = { step with
      deleted := step.deleted + (rowsDeleted acts).toUInt64
      statements := step.statements + (deletions acts).length.toUInt32 } :=
  foldl_record _ _

namespace Report

theorem prefix_push (report : Report) (step : StepReport) :
    report.steps <+: (report.push step).steps :=
  List.prefix_append _ _

theorem mem_push (report : Report) (step : StepReport) : step ∈ (report.push step).steps :=
  List.mem_append_right _ (List.mem_singleton_self step)

theorem no_error {report : Report} {step : StepReport} (clean : report.hasFailures = false)
    (h : step ∈ report.steps) : step.error = none := by
  have := List.any_eq_false.1 clean step h
  simpa using this

end Report

end Retention.Cycle
