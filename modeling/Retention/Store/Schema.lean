/-!
# The schema

The tables that retention works on. Every row has a whole number as its key (`Keyed.key`). Jobs
point at one row of each lookup table; logs, details and pins point at a job; performance data point
at a repository. Timestamps are text.
-/

namespace Retention.Store

inductive TableName
  | repository | jobType | jobGroup | machine | job | jobLog | jobDetail | jobPin
  | performanceDatum
deriving DecidableEq, Repr

/-- The lookup tables that jobs point at. -/
inductive LookupKind
  | jobType | jobGroup | machine
deriving DecidableEq, Repr

/-- The tables whose rows belong to one job each. -/
inductive AttachmentKind
  | log | detail | pin
deriving DecidableEq, Repr

namespace LookupKind

/-- The order in which the lookup tables are pruned. -/
def all : List LookupKind := [.jobType, .jobGroup, .machine]

def table : LookupKind → TableName
  | .jobType => .jobType
  | .jobGroup => .jobGroup
  | .machine => .machine

/-- The column of the job table that points at this lookup table. -/
def column : LookupKind → String
  | .jobType => "job_type_id"
  | .jobGroup => "job_group_id"
  | .machine => "machine_id"

end LookupKind

namespace AttachmentKind

def table : AttachmentKind → TableName
  | .log => .jobLog
  | .detail => .jobDetail
  | .pin => .jobPin

/-- The kinds that are deleted together with their job; pins are not, and hold their job back. -/
def dependents : List AttachmentKind := [.log, .detail]

end AttachmentKind

namespace TableName

def all : List TableName :=
  [.repository, .jobType, .jobGroup, .machine, .job, .jobLog, .jobDetail, .jobPin,
    .performanceDatum]

def text : TableName → String
  | .repository => "repository"
  | .jobType => "job_type"
  | .jobGroup => "job_group"
  | .machine => "machine"
  | .job => "job"
  | .jobLog => "job_log"
  | .jobDetail => "job_detail"
  | .jobPin => "job_pin"
  | .performanceDatum => "performance_datum"

end TableName

def LookupKind.text (kind : LookupKind) : String := kind.table.text

/-- Rows with a whole number as their key. -/
class Keyed (α : Type) where
  key : α → Int

structure Repository where
  id : Int
  name : String
deriving DecidableEq, Repr

structure Lookup where
  id : Int
deriving DecidableEq, Repr

structure Job where
  id : Int
  submitted : String
  jobType : Int
  jobGroup : Int
  machine : Int
deriving DecidableEq, Repr

/-- A log, a detail or a pin of a job. -/
structure Attachment where
  id : Int
  job : Int
deriving DecidableEq, Repr

structure Datum where
  id : Int
  repository : Int
  pushed : String
deriving DecidableEq, Repr

instance : Keyed Repository := ⟨Repository.id⟩
instance : Keyed Lookup := ⟨Lookup.id⟩
instance : Keyed Job := ⟨Job.id⟩
instance : Keyed Attachment := ⟨Attachment.id⟩
instance : Keyed Datum := ⟨Datum.id⟩

/-- The lookup row of the given kind that a job points at. -/
def Job.reference (kind : LookupKind) (j : Job) : Int :=
  match kind with
  | .jobType => j.jobType
  | .jobGroup => j.jobGroup
  | .machine => j.machine

end Retention.Store
