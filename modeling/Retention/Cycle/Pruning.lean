import Retention.Cycle.Access
import Retention.Cycle.Report

/-!
# Pruning

Job types, job groups and machines that no job points at are deleted, one kind after the other,
each kind in chunks of the keys that were listed at its start. An error ends its kind only; the
guard ends them all.
-/

namespace Retention.Cycle

open Store (LookupKind)

/-- The first `rounds` chunks of `size` members. -/
def chunks {α : Type} (size : Nat) : (rounds : Nat) → List α → List (List α)
  | 0, _ => []
  | _, [] => []
  | rounds + 1, xs => xs.take size :: chunks size rounds (xs.drop size)

/-- The list in chunks of `size` members, the last of them perhaps shorter. -/
def chunksOf {α : Type} (size : Nat) (xs : List α) : List (List α) :=
  chunks (max size 1) xs.length xs

variable {σ : Type}

/-- Deletes the chunks one by one; `remaining` keys are in this and the later ones. -/
def pruneChunks (host : Host σ) (access : LookupAccess σ) (guard : Guard) (kind : LookupKind) :
    (remaining : Nat) → List (List Int) → StepReport → StateM σ (Budget × StepReport)
  | _, [], step => return (.within, step)
  | remaining, ids :: rest, step => do
    match ← host.check guard with
    | .exceeded reason => return (.exceeded reason, step)
    | .within =>
      host.log (.pruningChunk kind ids.length remaining)
      match ← (access.deleteUnreferenced kind ids).run with
      | .error e =>
        host.log (.pruningFailed kind e)
        return (.within, step.fail e)
      | .ok deleted =>
        pruneChunks host access guard kind (remaining - ids.length) rest (step.record deleted)

/-- Lists the unreferenced rows of a kind, then deletes them. -/
def pruneKind (host : Host σ) (access : LookupAccess σ) (guard : Guard) (chunkSize : UInt32)
    (kind : LookupKind) : StateM σ (Budget × StepReport) := do
  let step : StepReport := { name := "prune:" ++ kind.text }
  match ← (access.unreferencedIds kind).run with
  | .error e =>
    host.log (.pruningFailed kind e)
    return (.within, step.fail e)
  | .ok ids =>
    host.log (.unreferencedFound kind ids.length)
    pruneChunks host access guard kind ids.length (chunksOf chunkSize.toNat ids) step

/-- Prunes the kinds in turn and adds a step for each that was begun. -/
def pruneKinds (host : Host σ) (access : LookupAccess σ) (guard : Guard) (chunkSize : UInt32) :
    List LookupKind → Report → StateM σ (Budget × Report)
  | [], report => return (.within, report)
  | kind :: rest, report => do
    match ← host.check guard with
    | .exceeded reason => return (.exceeded reason, report)
    | .within =>
      let (budget, step) ← pruneKind host access guard chunkSize kind
      match budget with
      | .exceeded reason => return (.exceeded reason, report.push step)
      | .within => pruneKinds host access guard chunkSize rest (report.push step)

def prune (host : Host σ) (access : LookupAccess σ) (guard : Guard) (chunkSize : UInt32)
    (report : Report) : StateM σ (Budget × Report) := do
  host.log .pruningStarted
  pruneKinds host access guard chunkSize LookupKind.all report

end Retention.Cycle
