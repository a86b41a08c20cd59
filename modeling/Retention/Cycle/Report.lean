import Retention.Cycle.Budget
import Retention.Cycle.Domain
import Retention.Store.Error

/-!
# Reports

A run consists of steps. Each step counts the rows it deleted and the statements that did so, and
keeps the text of the error that stopped it, if one did.
-/

namespace Retention.Cycle

open Store (DatabaseError)
open Time (Duration)

structure StepReport where
  name : String
  deleted : UInt64 := 0
  /-- Statements that completed; for jobs, chunks. -/
  statements : UInt32 := 0
  error : Option String := none
deriving DecidableEq, Repr

namespace StepReport

def record (s : StepReport) (deleted : UInt64) : StepReport :=
  { s with statements := s.statements + 1, deleted := s.deleted + deleted }

def fail (s : StepReport) (e : DatabaseError) : StepReport :=
  { s with error := some e.message }

end StepReport

structure Report where
  domain : DataDomain
  steps : List StepReport := []
  elapsed : Duration := 0
deriving DecidableEq, Repr

namespace Report

def push (r : Report) (step : StepReport) : Report :=
  { r with steps := r.steps ++ [step] }

def totalDeleted (r : Report) : UInt64 :=
  r.steps.foldl (· + ·.deleted) 0

/-- Whether an error stopped any step. -/
def hasFailures (r : Report) : Bool := r.steps.any (·.error.isSome)

def step? (r : Report) (name : String) : Option StepReport :=
  r.steps.find? (·.name == name)

end Report

end Retention.Cycle
