import Retention.Store.Basic

/-!
# Listings

A store written out as text: a heading, then a line for every row, each starting with the name of
its table; a line `dropped` names a table that is not there. Cells are parted by tabs, so a store
whose names or timestamps hold tabs or line ends is not read back as it was.
-/

namespace Retention.Store

def listingHeading : String := "retention store"

/-- The cells of a line. -/
def cells (cs : List String) : String := "\t".intercalate cs

def listRows {α : Type} [Keyed α] (name : TableName) (t : Option (Table α))
    (row : α → List String) : List String :=
  match t with
  | none => [cells ["dropped", name.text]]
  | some t => t.rows.map fun r => cells (name.text :: toString (Keyed.key r) :: row r)

/-- The lines of a store. -/
def listing (s : Store) : List String :=
  let lookup (_ : Lookup) : List String := []
  let attachment (r : Attachment) := [toString r.job]
  listingHeading :: listRows .repository s.repository (fun r => [r.name]) ++
    listRows .jobType s.jobType lookup ++ listRows .jobGroup s.jobGroup lookup ++
    listRows .machine s.machine lookup ++
    listRows .job s.job (fun r => [r.submitted, toString r.jobType, toString r.jobGroup,
      toString r.machine]) ++
    listRows .jobLog s.jobLog attachment ++ listRows .jobDetail s.jobDetail attachment ++
    listRows .jobPin s.jobPin attachment ++
    listRows .performanceDatum s.performanceDatum (fun r => [toString r.repository, r.pushed])

/-- The table with these rows, if they are in ascending order of their keys. -/
def Table.ofRows? {α : Type} [Keyed α] (rows : List α) : Option (Table α) :=
  if h : rows.Pairwise (Keyed.key · < Keyed.key ·) ∧ rows.length ≤ capacity then
    some ⟨rows, h.1, h.2⟩
  else none

/-- The table of that name in a listing, of which `row` reads the cells after the name. The outer
option is empty if the listing is malformed, the inner one if the table was dropped. -/
def tableOf? {α : Type} [Keyed α] (lines : List (List String)) (name : TableName)
    (row : List String → Option α) : Option (Option (Table α)) :=
  if lines.contains ["dropped", name.text] then some none
  else do
    let rows ← (lines.filter (·.head? == some name.text)).mapM fun cells => row cells.tail
    return some (← Table.ofRows? rows)

/-- Reads a listing back. -/
def ofListing? (lines : List String) : Option Store := do
  if lines.head? ≠ some listingHeading then
    none
  let lines := lines.tail.map (·.splitOn "\t")
  let lookup : List String → Option Lookup
    | [id] => return ⟨← id.toInt?⟩
    | _ => none
  let attachment : List String → Option Attachment
    | [id, job] => return ⟨← id.toInt?, ← job.toInt?⟩
    | _ => none
  let repository : List String → Option Repository
    | [id, name] => return ⟨← id.toInt?, name⟩
    | _ => none
  let job : List String → Option Job
    | [id, submitted, jobType, jobGroup, machine] =>
      return ⟨← id.toInt?, submitted, ← jobType.toInt?, ← jobGroup.toInt?, ← machine.toInt?⟩
    | _ => none
  let datum : List String → Option Datum
    | [id, repository, pushed] => return ⟨← id.toInt?, ← repository.toInt?, pushed⟩
    | _ => none
  return {
    repository := ← tableOf? lines .repository repository
    jobType := ← tableOf? lines .jobType lookup
    jobGroup := ← tableOf? lines .jobGroup lookup
    machine := ← tableOf? lines .machine lookup
    job := ← tableOf? lines .job job
    jobLog := ← tableOf? lines .jobLog attachment
    jobDetail := ← tableOf? lines .jobDetail attachment
    jobPin := ← tableOf? lines .jobPin attachment
    performanceDatum := ← tableOf? lines .performanceDatum datum }

end Retention.Store
