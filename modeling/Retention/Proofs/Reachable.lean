import Retention.Proofs.Answers
import Retention.Proofs.Growth
import Retention.Proofs.Jobs
import Retention.Proofs.Performance

/-!
# Stores that can come about

A store that can come about grew from the empty one by insertions and by whatever was asked of it
(`Reachable`): single calls, removals, pruning and cycles, however they ended. Such a store is
intact, and what is asked of it only takes rows (`reachable_intact`).
-/

namespace Retention.Cycle

open Store (DatabaseError LookupKind)
open Time (Instant)

/-- What is asked of the data at a time. -/
inductive Task
  | call (q : Request)
  /-- One delete of a removal. -/
  | remove (r : Removal)
  | run (r : Removal) (guard : Guard) (rounds : Nat) (step : StepReport)
  | prune (guard : Guard) (chunkSize : UInt32) (report : Report)
  | cycle (c : Cycler) (rounds : Nat)

namespace Task

/-- The scene after the task, however it ended. -/
def after {σ : Type} (world : World σ) (span : Option DataDomain) (scene : Scene σ) :
    Task → Scene σ
  | call q => (world.ask q scene).2
  | remove r => (r.remove (world.host span) world.access.performance scene).2
  | run r guard rounds step =>
    (r.run (world.host span) world.access.performance guard rounds step scene).2
  | prune guard chunkSize report =>
    (Cycle.prune (world.host span) world.access.lookups guard chunkSize report scene).2
  | cycle c rounds => (c.run (world.host span) world.access rounds scene).2

variable {ω : Type}

/-- The store that the task leaves. -/
def left (around : Surroundings ω) (span : Option DataDomain) (state : ω) (s : Store)
    (task : Task) : Store :=
  (task.after (.alone around) span ⟨⟨state, s⟩, []⟩).state.store

end Task

theorem Cycler.run_ran {σ : Type} (world : World σ) (span : Option DataDomain) (c : Cycler)
    (rounds : Nat) :
    world.Does (c.run (world.host span) world.access rounds) fun _ _ => True := by
  cases c with
  | jobs c => exact (run_jobs world span c rounds).mono fun _ _ _ => trivial
  | performance c => exact (run_performance world span c rounds).mono fun _ _ _ => trivial

theorem Task.ran {σ : Type} (world : World σ) (span : Option DataDomain) (scene : Scene σ)
    (task : Task) : ∃ acts, world.Ran scene acts (task.after world span scene) := by
  have did {α : Type} {x : StateM (Scene σ) α} {P : α → List (Act σ) → Prop} (h : world.Does x P) :
      ∃ acts, world.Ran scene acts (x scene).2 := by
    obtain ⟨acts, ran, -⟩ := h scene
    exact ⟨acts, ran⟩
  cases task with
  | call q => exact ⟨_, .ask rfl⟩
  | remove r =>
    exact did (World.Does.call_bind (Q := fun _ _ => True) r.removeSized_attempt
      (fun _ _ _ => trivial) fun _ _ _ => .call_pure trivial)
  | run r guard rounds step => exact did (r.run_course world span guard rounds step)
  | prune guard chunkSize report => exact did (prune_course chunkSize report)
  | cycle c rounds => exact did (c.run_ran world span rounds)

/-- A store that came about by insertions and tasks. -/
inductive Reachable : Store → Prop
  | empty : Reachable .empty
  | gains {s s'} (before : Reachable s) (rows : s.Gains s') : Reachable s'
  | task {s} {ω : Type} (before : Reachable s) (around : Surroundings ω)
    (span : Option DataDomain) (state : ω) (task : Task) :
    Reachable (task.left around span state s)

variable {s s' : Store}

theorem Reachable.grows (h : Reachable s) (grows : s.Grows s') : Reachable s' := by
  induction grows with
  | refl => exact h
  | tail _ rows ih => exact ih.gains rows

theorem Reachable.sowAll {seeds : List Store.Seed}
    (keeps : ∀ seed ∈ seeds, ∀ table, seed ≠ .drop table) :
    ∀ {s : Store}, Reachable s → Reachable (Store.Seed.sowAll s seeds) := by
  induction seeds with
  | nil => exact fun h => h
  | cons seed seeds ih =>
    obtain ⟨first, later⟩ := List.forall_mem_cons.1 keeps
    exact fun {s} h => ih later (h.grows (seed.sow_grows s first))

/-- A task takes rows from an intact store, and leaves it intact. -/
theorem Task.keeps {ω : Type} (around : Surroundings ω) (span : Option DataDomain) (state : ω)
    (task : Task) (whole : s.Intact) :
    s.Shrinks (task.left around span state s) ∧ (task.left around span state s).Intact := by
  obtain ⟨acts, ran⟩ := task.ran (.alone around) span ⟨⟨state, s⟩, []⟩
  refine (ran.keeps (P := fun m => s.Shrinks m ∧ m.Intact) (fun _ _ _ h => h) ?_
    ⟨.refl s, whole⟩).2
  intro act _
  cases act with
  | asked q => exact fun _ => q.perform_below
  | _ => trivial

theorem Reachable.intact (h : Reachable s) : s.Intact := by
  induction h with
  | empty =>
    refine ⟨fun name => by cases name <;> rfl, ?_, ?_, ?_⟩
    · rintro _ ⟨⟩ row hrow
      cases hrow
    · intro kind table htable row hrow
      cases kind <;> cases htable <;> cases hrow
    · rintro _ ⟨⟩ row hrow
      cases hrow
  | gains _ rows ih => exact rows.intact ih
  | task _ around span state task ih => exact (task.keeps around span state ih).2

/-- A store that can come about is intact. Whatever is asked of it, and however that ends, it only
loses rows, of which none is a repository or a pin; and no deletion of performance data or of lookup
rows is refused for a row that would point at nothing. -/
theorem reachable_intact (h : Reachable s) :
    s.Complete ∧ s.References ∧
      (∀ {ω : Type} (around : Surroundings ω) (span : Option DataDomain) (state : ω) (task : Task),
        s.Shrinks (task.left around span state s)) ∧
      (∀ cutoff scope limit,
        Store.deleteData cutoff scope limit s ≠ .error (.refused .foreignKey)) ∧
      ∀ kind ids, Store.deleteUnreferenced kind ids s ≠ .error (.refused .foreignKey) := by
  have whole := h.intact
  refine ⟨whole.complete, whole.references,
    fun around span state task => (task.keeps around span state whole).1, ?_, ?_⟩
  · intro cutoff scope limit
    obtain ⟨k, s', answered⟩ := Store.deleteData_answered whole.complete cutoff scope limit
    rw [answered]
    exact nofun
  · intro kind ids
    by_cases few : ids.length ≤ Store.maxVariables
    · obtain ⟨k, s', answered⟩ := Store.deleteUnreferenced_answered whole.complete kind few
      rw [answered]
      exact nofun
    · rw [Store.deleteUnreferenced_refused (Nat.not_le.1 few)]
      exact nofun

/-- A cycle that fails for a pin has taken the job below it, with its log and its detail, and the
pin still points at a job. -/
theorem reachable_intact_pinned :
    let seeds : List Store.Seed := [.lookups .jobType 2 none, .lookups .jobGroup 1 none,
      .lookups .machine 1 none, .jobs "1969" 1 1 1 2 1 none, .pin 2]
    let s := Store.Seed.sowAll .empty seeds
    let task : Task := .cycle (.jobs ⟨⟨0, 1, none, by decide⟩, 0⟩) 3
    let left := task.left (.still ⟨0, 0, by decide⟩) none () s
    Reachable s ∧ s.References ∧ s.Shrinks left ∧
      Store.TableName.all.map left.ids =
        [some [], some [1, 2], some [1], some [1], some [2], some [2], some [2], some [1],
          some []] := by
  intro seeds s task left
  have reached : Reachable s := Reachable.sowAll (by simp [seeds]) .empty
  obtain ⟨-, references, shrinks, -⟩ := reachable_intact reached
  refine ⟨reached, references, shrinks (.still ⟨0, 0, by decide⟩) none () task, ?_⟩
  decide +kernel

end Retention.Cycle
