/-!
# Data domains

What a run cycles: job results, or performance data. Each domain has the name by which reports and
logs know it.
-/

namespace Retention.Cycle

inductive DataDomain
  | jobs | performance
deriving DecidableEq, Repr

namespace DataDomain

def all : List DataDomain := [.jobs, .performance]

/-- The domain of a run that names none. -/
instance : Inhabited DataDomain := ⟨.jobs⟩

def name : DataDomain → String
  | .jobs => "treeherder"
  | .performance => "perfherder"

def title : DataDomain → String
  | .jobs => "Treeherder"
  | .performance => "Perfherder"

end DataDomain

end Retention.Cycle
