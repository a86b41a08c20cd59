import Retention.Store.Basic

/-!
# Insertions

A statement puts new rows into a table under consecutive keys, all of them or none
(`insertRows`). `Insertion` is the outcome of a series of statements: the keys of the rows that went
in, which stay, the store after them, and what stopped the series, if anything did.

Rows are refused if a table that they point at is gone, if a key or a name is taken, or if one
points at a row that does not exist; of several reasons the first in this order is given.
-/

namespace Retention.Store

structure Insertion where
  ids : List Int
  store : Store
  error : Option DatabaseError := none

namespace Insertion

/-- Nothing went in. -/
def refused (s : Store) (cause : DatabaseError) : Insertion := ⟨[], s, some cause⟩

/-- Goes on with the store after `i`, unless `i` was stopped; the keys are those of both. -/
def andThen (i : Insertion) (next : Store → Insertion) : Insertion :=
  match i.error with
  | some _ => i
  | none =>
    let j := next i.store
    { j with ids := i.ids ++ j.ids }

/-- One insertion after the other, up to the first that is stopped. -/
def series (s : Store) (insertions : List (Store → Insertion)) : Insertion :=
  insertions.foldl andThen ⟨[], s, none⟩

end Insertion

/-- Inserts `count` rows with consecutive keys, from `id?` or the table's next key on, and puts the
table back with `put`. Whether all of them point at rows that exist is told by `refers`. -/
def insertRows {α : Type} [Keyed α] (s : Store) (name : TableName) (parents : List TableName)
    (t : Option (Table α)) (put : Table α → Store) (row : Int → α)
    (row_key : ∀ k, Keyed.key (row k) = k) (refers : Bool) (id? : Option Int) (count : Nat) :
    Insertion :=
  match need name t, needParents s parents with
  | .error e, _ => .refused s e
  | _, .error e => .refused s e
  | .ok t, .ok () =>
    let first := id?.getD t.nextId
    if free : t.isFree first count then
      if room : t.rows.length + count ≤ capacity then
        if count = 0 ∨ refers then
          ⟨(List.range count).map fun (i : Nat) => first + i,
            put (t.insertRun row row_key first count free room), none⟩
        else .refused s (.refused .foreignKey)
      else .refused s (.refused .full)
    else .refused s (.refused (.takenKey name))

/-- Whether the key is there; a table that is gone has been complained of before. -/
def exists? {α : Type} [Keyed α] (t : Option (Table α)) (id : Int) : Bool :=
  t.any (·.has id)

def insertRepository (s : Store) (name : String) (id? : Option Int) : Insertion :=
  match s.repository with
  | none => .refused s (.refused (.missingTable .repository))
  | some t =>
    if t.has (id?.getD t.nextId) then .refused s (.refused (.takenKey .repository))
    else if t.rows.any (·.name == name) then .refused s (.refused .takenName)
    else
      insertRows s .repository [] (some t) (fun t => { s with repository := some t })
        (fun id => ⟨id, name⟩) (fun _ => rfl) true id? 1

def insertLookups (s : Store) (kind : LookupKind) (id? : Option Int) (count : Nat) : Insertion :=
  insertRows s kind.table [] (s.lookups kind) (fun t => s.setLookups kind (some t))
    (fun id => ⟨id⟩) (fun _ => rfl) true id? count

/-- Inserts jobs that all point at the same three lookup rows. -/
def insertJobs (s : Store) (submitted : String) (jobType jobGroup machine : Int)
    (id? : Option Int) (count : Nat) : Insertion :=
  insertRows s .job [.machine, .jobGroup, .jobType] s.job (fun t => { s with job := some t })
    (fun id => ⟨id, submitted, jobType, jobGroup, machine⟩) (fun _ => rfl)
    (exists? s.jobType jobType && exists? s.jobGroup jobGroup && exists? s.machine machine)
    id? count

/-- Inserts one row of the kind for each of `count` jobs from `job` on. -/
def insertAttachments (s : Store) (kind : AttachmentKind) (job : Int) (count : Nat) :
    Insertion :=
  let first := (s.attachments kind).elim 1 Table.nextId
  insertRows s kind.table [.job] (s.attachments kind)
    (fun t => s.setAttachments kind (some t)) (fun id => ⟨id, job + (id - first)⟩) (fun _ => rfl)
    (s.job.any (·.hasRun job count)) (some first) count

def insertData (s : Store) (repository : Int) (pushed : String) (id? : Option Int) (count : Nat) :
    Insertion :=
  insertRows s .performanceDatum [.repository] s.performanceDatum
    (fun t => { s with performanceDatum := some t })
    (fun id => ⟨id, repository, pushed⟩) (fun _ => rfl) (exists? s.repository repository)
    id? count

/-- One more row of each kind of dependent for each of `count` jobs from `job` on, all of this
`rounds` times. -/
def insertDependents (s : Store) (rounds : Nat) (job : Int) (count : Nat) : Insertion :=
  .series s <| (List.replicate rounds AttachmentKind.dependents).flatten.map fun kind s =>
    insertAttachments s kind job count

/-- The jobs that went in, and after them their dependents. -/
def Insertion.withDependents (jobs : Insertion) (rounds : Nat) : Insertion :=
  match jobs.error, jobs.ids with
  | none, first :: _ =>
    { insertDependents jobs.store rounds first jobs.ids.length with ids := jobs.ids }
  | _, _ => jobs

/-- A job that shares nothing with others: a new row of each lookup table, the job, and one
dependent of each kind. The keys are those of the jobs. -/
def insertOwnJob (s : Store) (submitted : String) : Insertion :=
  let own := Insertion.series s <|
    [.jobType, .jobGroup, .machine].map fun kind s => insertLookups s kind none 1
  match own.error, own.ids with
  | none, [jobType, jobGroup, machine] =>
    insertJobs own.store submitted jobType jobGroup machine none 1 |>.withDependents 1
  | _, _ => own

end Retention.Store
