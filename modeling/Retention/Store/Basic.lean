import Retention.Store.Error
import Retention.Store.Table

/-!
# Stores

A store holds the nine tables of the schema; a table that was dropped is `none`. A statement maps a
store to its result and the store after it, or to an error: a statement that fails changes nothing
(`Statement`).

`Store.References` says that every row points at rows that exist.
-/

namespace Retention

open Store in
structure Store where
  repository : Option (Table Repository) := some .empty
  jobType : Option (Table Lookup) := some .empty
  jobGroup : Option (Table Lookup) := some .empty
  machine : Option (Table Lookup) := some .empty
  job : Option (Table Job) := some .empty
  jobLog : Option (Table Attachment) := some .empty
  jobDetail : Option (Table Attachment) := some .empty
  jobPin : Option (Table Attachment) := some .empty
  performanceDatum : Option (Table Datum) := some .empty

namespace Store

/-- What a statement does to a store, if it does not fail. -/
abbrev Statement (α : Type) := Store → Except DatabaseError (α × Store)

/-- All tables, without rows. -/
def empty : Store := {}

instance : Inhabited Store := ⟨empty⟩

/-- The content of a new database file: no tables at all. -/
def blank : Store :=
  ⟨none, none, none, none, none, none, none, none, none⟩

def lookups (s : Store) : LookupKind → Option (Table Lookup)
  | .jobType => s.jobType
  | .jobGroup => s.jobGroup
  | .machine => s.machine

def setLookups (s : Store) (kind : LookupKind) (t : Option (Table Lookup)) : Store :=
  match kind with
  | .jobType => { s with jobType := t }
  | .jobGroup => { s with jobGroup := t }
  | .machine => { s with machine := t }

def attachments (s : Store) : AttachmentKind → Option (Table Attachment)
  | .log => s.jobLog
  | .detail => s.jobDetail
  | .pin => s.jobPin

def setAttachments (s : Store) (kind : AttachmentKind) (t : Option (Table Attachment)) : Store :=
  match kind with
  | .log => { s with jobLog := t }
  | .detail => { s with jobDetail := t }
  | .pin => { s with jobPin := t }

/-- The keys of a table in ascending order; `none` if it was dropped. -/
def ids (s : Store) : TableName → Option (List Int)
  | .repository => s.repository.map Table.ids
  | .jobType => s.jobType.map Table.ids
  | .jobGroup => s.jobGroup.map Table.ids
  | .machine => s.machine.map Table.ids
  | .job => s.job.map Table.ids
  | .jobLog => s.jobLog.map Table.ids
  | .jobDetail => s.jobDetail.map Table.ids
  | .jobPin => s.jobPin.map Table.ids
  | .performanceDatum => s.performanceDatum.map Table.ids

def drop (s : Store) : TableName → Store
  | .repository => { s with repository := none }
  | .jobType => { s with jobType := none }
  | .jobGroup => { s with jobGroup := none }
  | .machine => { s with machine := none }
  | .job => { s with job := none }
  | .jobLog => { s with jobLog := none }
  | .jobDetail => { s with jobDetail := none }
  | .jobPin => { s with jobPin := none }
  | .performanceDatum => { s with performanceDatum := none }

def present (s : Store) : TableName → Bool
  | .repository => s.repository.isSome
  | .jobType => s.jobType.isSome
  | .jobGroup => s.jobGroup.isSome
  | .machine => s.machine.isSome
  | .job => s.job.isSome
  | .jobLog => s.jobLog.isSome
  | .jobDetail => s.jobDetail.isSome
  | .jobPin => s.jobPin.isSome
  | .performanceDatum => s.performanceDatum.isSome

/-- No table was dropped. -/
def Complete (s : Store) : Prop := ∀ name, s.present name

/-- Every row points at rows that exist, as far as the tables concerned do. -/
structure References (s : Store) : Prop where
  jobs : ∀ jobs, s.job = some jobs → ∀ row ∈ jobs.rows, ∀ kind table,
    s.lookups kind = some table → row.reference kind ∈ table.ids
  attachments : ∀ kind table, s.attachments kind = some table → ∀ row ∈ table.rows, ∀ jobs,
    s.job = some jobs → row.job ∈ jobs.ids
  data : ∀ data, s.performanceDatum = some data → ∀ row ∈ data.rows, ∀ repositories,
    s.repository = some repositories → row.repository ∈ repositories.ids

/-- The table, or the refusal of a statement that names it. -/
def need {α : Type} [Keyed α] (name : TableName) (t : Option (Table α)) :
    Except DatabaseError (Table α) :=
  match t with
  | some t => .ok t
  | none => .error (.refused (.missingTable name))

/-- Refuses to write to a table with references to `parents` if one of them is gone. -/
def needParents (s : Store) (parents : List TableName) : Except DatabaseError Unit :=
  match parents.find? (fun name => !s.present name) with
  | some name => .error (.refused (.missingParent name))
  | none => .ok ()

end Store

end Retention
