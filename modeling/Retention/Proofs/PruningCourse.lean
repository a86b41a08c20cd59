import Retention.Cycle.Pruning
import Retention.Proofs.Steps

/-!
# The course of pruning

A kind is listed once and then deleted in chunks, each after a look at the clock; the kinds follow
one another, each after a look at the clock as well. Whatever the world answers, the acts of pruning
are such a course, and the course tells the report (`pruneKinds_course`).
-/

namespace Retention.Cycle

open Store (DatabaseError LookupKind)
open World (Does)

variable {σ : Type}

/-- The acts of deleting these chunks, with what came of them. -/
inductive ChunksPruned (guard : Guard) (kind : LookupKind) :
    List (List Int) → StepReport → Budget × StepReport → List (Act σ) → Prop
  | done {step} : ChunksPruned guard kind [] step (.within, step) []
  | tripped {ids rest step reading reason} (check : guard.check reading = .exceeded reason) :
    ChunksPruned guard kind (ids :: rest) step (.exceeded reason, step) [.looked reading]
  | failed {ids rest step reading e b a} (check : guard.check reading = .within) :
    ChunksPruned guard kind (ids :: rest) step (.within, step.fail e)
      [.looked reading, .asked (.deleteUnreferenced kind ids) b (.error e) a]
  | next {ids rest step reading k b a out later} (check : guard.check reading = .within)
    (next : ChunksPruned guard kind rest (step.record k) out later) :
    ChunksPruned guard kind (ids :: rest) step out
      (.looked reading :: .asked (.deleteUnreferenced kind ids) b (.ok k) a :: later)

def pruneStep (kind : LookupKind) : StepReport := { name := "prune:" ++ kind.text }

inductive KindPruned (guard : Guard) (chunkSize : UInt32) (kind : LookupKind) :
    Budget × StepReport → List (Act σ) → Prop
  | unlisted {e b a} :
    KindPruned guard chunkSize kind (.within, (pruneStep kind).fail e)
      [.asked (.unreferencedIds kind) b (.error e) a]
  | listed {ids b a out later}
    (chunks : ChunksPruned guard kind (chunksOf chunkSize.toNat ids) (pruneStep kind) out later) :
    KindPruned guard chunkSize kind out (.asked (.unreferencedIds kind) b (.ok ids) a :: later)

inductive KindsPruned (guard : Guard) (chunkSize : UInt32) :
    List LookupKind → Report → Budget × Report → List (Act σ) → Prop
  | done {report} : KindsPruned guard chunkSize [] report (.within, report) []
  | tripped {kind rest report reading reason} (check : guard.check reading = .exceeded reason) :
    KindsPruned guard chunkSize (kind :: rest) report (.exceeded reason, report) [.looked reading]
  | exceeded {kind rest report reading reason step acts} (check : guard.check reading = .within)
    (pruned : KindPruned guard chunkSize kind (.exceeded reason, step) acts) :
    KindsPruned guard chunkSize (kind :: rest) report (.exceeded reason, report.push step)
      (.looked reading :: acts)
  | next {kind rest report reading step acts out later} (check : guard.check reading = .within)
    (pruned : KindPruned guard chunkSize kind (.within, step) acts)
    (next : KindsPruned guard chunkSize rest (report.push step) out later) :
    KindsPruned guard chunkSize (kind :: rest) report out (.looked reading :: (acts ++ later))

section Courses

variable {world : World σ} {span : Option DataDomain} {guard : Guard}

theorem pruneChunks_course (kind : LookupKind) :
    ∀ (chunks : List (List Int)) (remaining : Nat) (step : StepReport),
      world.Does
        (pruneChunks (world.host span) world.access.lookups guard kind remaining chunks step)
        (ChunksPruned guard kind chunks step)
  | [], remaining, step => by
    rw [pruneChunks]
    exact .pure .done
  | ids :: rest, remaining, step => by
    rw [pruneChunks]
    refine .check_bind fun reading => ?_
    rcases hb : guard.check reading with _ | reason
    · refine .log_bind (.ask_bind fun answer b a => ?_)
      rcases answer with e | k
      · exact .log_bind (.pure (.failed hb))
      · exact (pruneChunks_course kind rest _ _).mono fun _ _ later => .next hb later
    · exact .pure (.tripped hb)

theorem pruneKind_course (chunkSize : UInt32) (kind : LookupKind) :
    world.Does (pruneKind (world.host span) world.access.lookups guard chunkSize kind)
      (KindPruned guard chunkSize kind) := by
  unfold pruneKind
  refine .ask_bind fun answer b a => ?_
  rcases answer with e | ids
  · exact .log_bind (.pure .unlisted)
  · exact .log_bind ((pruneChunks_course kind _ _ _).mono fun _ _ chunks => .listed chunks)

theorem pruneKinds_course (chunkSize : UInt32) : ∀ (kinds : List LookupKind) (report : Report),
    world.Does (pruneKinds (world.host span) world.access.lookups guard chunkSize kinds report)
      (KindsPruned guard chunkSize kinds report)
  | [], report => .pure .done
  | kind :: rest, report => by
    rw [pruneKinds]
    refine .check_bind fun reading => ?_
    rcases hb : guard.check reading with _ | reason
    · refine .bind (pruneKind_course chunkSize kind) fun out acts pruned => ?_
      rcases out with ⟨_ | reason, step⟩
      · exact (pruneKinds_course chunkSize rest _).mono fun _ _ later => .next hb pruned later
      · refine .pure ?_
        rw [List.append_nil]
        exact .exceeded hb pruned
    · exact .pure (.tripped hb)

theorem prune_course (chunkSize : UInt32) (report : Report) :
    world.Does (prune (world.host span) world.access.lookups guard chunkSize report)
      (KindsPruned guard chunkSize LookupKind.all report) :=
  .log_bind (pruneKinds_course chunkSize LookupKind.all report)

end Courses

end Retention.Cycle
