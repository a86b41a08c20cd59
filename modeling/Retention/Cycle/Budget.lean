import Retention.Time.Instant

/-!
# The runtime budget

A run has a start and perhaps a longest duration. Each check reads the clock; the budget is
exceeded once more than the longest duration has passed (`Guard.check`).
-/

namespace Retention.Cycle

open Time (Duration)

/-- How much of its time a run had used when it ran over. -/
structure Overrun where
  elapsed : Duration
  maxRuntime : Duration
deriving DecidableEq, Repr

def Overrun.message (o : Overrun) : String :=
  s!"Max runtime of {o.maxRuntime.seconds}s exceeded after {o.elapsed.seconds}s"

inductive Budget
  | within
  | exceeded (reason : Overrun)
deriving DecidableEq, Repr

/-- The start of a run as the clock showed it, and the longest that it may take. -/
structure Guard where
  started : Duration
  maxRuntime : Option Duration
deriving DecidableEq, Repr

/-- The time since the start, at a later reading of the clock. -/
def Guard.elapsed (g : Guard) (reading : Duration) : Duration := reading - g.started

def Guard.check (g : Guard) (reading : Duration) : Budget :=
  match g.maxRuntime with
  | none => .within
  | some maxRuntime =>
    if maxRuntime < g.elapsed reading then .exceeded ⟨g.elapsed reading, maxRuntime⟩ else .within

end Retention.Cycle
