import Retention.Store.Basic
import Retention.Time.Instant
import Std.Data.TreeSet.Lemmas

/-!
# Queries

Questions to a store that leave it as it is. Timestamps are compared as texts, with the text of the
cutoff (`Instant.stored`). Questions about performance data may be narrowed to one repository
(`Datum.InScope`).
-/

namespace Retention.Store

open Time (Instant)

/-- Whether the row counts when only the given repository does; without one, all rows do. -/
def Datum.InScope (scope : Option Int) (row : Datum) : Prop :=
  ∀ id, scope = some id → row.repository = id

instance (scope : Option Int) (row : Datum) : Decidable (row.InScope scope) :=
  match scope with
  | none => .isTrue nofun
  | some id => decidable_of_iff (row.repository = id) ⟨fun h _ h' => h.trans (by injection h'),
      fun h => h id rfl⟩

/-- Whether a removal with this scope and cutoff takes the row. -/
def Datum.Eligible (cutoff : Instant) (scope : Option Int) (row : Datum) : Prop :=
  row.pushed < cutoff.stored ∧ row.InScope scope

instance (cutoff : Instant) (scope : Option Int) (row : Datum) :
    Decidable (row.Eligible cutoff scope) :=
  inferInstanceAs (Decidable (_ ∧ _))

/-- Whether a removal with this cutoff takes the job. -/
def Job.Eligible (cutoff : Instant) (row : Job) : Prop := row.submitted < cutoff.stored

instance (cutoff : Instant) (row : Job) : Decidable (row.Eligible cutoff) :=
  inferInstanceAs (Decidable (_ < _))

def repositoryId? (s : Store) (name : String) : Except DatabaseError (Option Int) := do
  let repositories ← need .repository s.repository
  return (repositories.rows.find? (·.name == name)).map (·.id)

/-- The highest key of a row in scope that was pushed after the cutoff. -/
def maxIdAfter (s : Store) (cutoff : Instant) (scope : Option Int) :
    Except DatabaseError (Option Int) := do
  let data ← need .performanceDatum s.performanceDatum
  let text := cutoff.stored
  let younger := data.rows.filter fun row => text < row.pushed ∧ row.InScope scope
  return younger.getLast?.map (·.id)

/-- The number of rows in scope, up to `cap`, that were pushed at or before the cutoff and, given
`maxId`, do not lie above it. -/
def countAtOrBefore (s : Store) (cutoff : Instant) (maxId scope : Option Int) (cap : UInt32) :
    Except DatabaseError UInt64 := do
  let data ← need .performanceDatum s.performanceDatum
  let text := cutoff.stored
  let older := data.rows.filter fun row =>
    row.pushed ≤ text ∧ (∀ id ∈ maxId, row.id ≤ id) ∧ row.InScope scope
  return (older.take cap.toNat).length.toUInt64

def countJobsBefore (s : Store) (cutoff : Instant) : Except DatabaseError UInt64 := do
  let jobs ← need .job s.job
  let text := cutoff.stored
  return (jobs.rows.filter fun row => row.submitted < text).length.toUInt64

/-- The keys, in ascending order, of the lookup rows that no job points at. -/
def unreferencedIds (s : Store) (kind : LookupKind) : Except DatabaseError (List Int) := do
  let table ← need kind.table (s.lookups kind)
  let jobs ← need .job s.job
  let used : Std.TreeSet Int := .ofList (jobs.rows.map (·.reference kind)) compare
  return table.ids.filter fun id => !used.contains id

end Retention.Store
