import Retention.Cycle.Report

/-!
# Outcomes of a cycle

A cycle that starts completes, is aborted by its guard, or fails; completed and aborted ones have a
report. Two more outcomes are told apart: the cutoff lay outside the calendar, and the rounds that
the cycle was given did not suffice.
-/

namespace Retention.Cycle

open Store (DatabaseError)

inductive Outcome
  /-- Every step ran, though an error may have stopped some of them. -/
  | completed (report : Report)
  /-- Rows that were deleted before stay deleted. -/
  | aborted (report : Report) (reason : Overrun)
  | failed (error : DatabaseError)
  | cutoffOutOfRange
  | unfinished
deriving DecidableEq, Repr

def Outcome.report? : Outcome → Option Report
  | .completed report => some report
  | .aborted report _ => some report
  | _ => none

end Retention.Cycle
