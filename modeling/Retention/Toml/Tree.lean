import Retention.Toml.Value

/-!
# Trees of tables

A document is built up from keys with values and from headers. How a table came about decides what
may be added to it: a table with a header of its own takes no second one and no dotted keys from
outside, a table that a dotted key made takes no header, a written-out value takes nothing at all.
A key that breaks these rules makes the document malformed.
-/

namespace Retention.Toml

inductive Origin
  /-- On the way to a table with a header. -/
  | implied
  /-- On the way of a dotted key. -/
  | dotted
  /-- By a header. -/
  | header
deriving DecidableEq

inductive Node
  | value (v : Value)
  | table (origin : Origin) (members : List (String × Node))
  /-- Tables under repeated headers, the last one first. -/
  | tables (last : List (String × Node)) (earlier : List (List (String × Node)))

abbrev Members := List (String × Node)

namespace Members

/-- Replaces what is at the key, or is not there, by what `f` makes of it; keys stay in ascending
order. -/
def upsert (key : String) (f : Option Node → Option Node) : Members → Option Members
  | [] => (f none).map fun n => [(key, n)]
  | (k, n) :: rest =>
    if key < k then (f none).map fun m => (key, m) :: (k, n) :: rest
    else if key = k then (f (some n)).map fun m => (key, m) :: rest
    else (upsert key f rest).map fun rest => (k, n) :: rest

/-- Adds a value under a dotted key. -/
def assign (v : Value) : (path : List String) → Members → Option Members
  | [], _ => none
  | [key], members =>
    members.upsert key fun
      | none => some (.value v)
      | some _ => none
  | key :: path, members =>
    members.upsert key fun
      | none => (assign v path []).map (.table .dotted)
      | some (.value _) => none
      | some (.table .header _) => none
      | some (.table .dotted inner) => (assign v path inner).map (.table .dotted)
      | some (.table .implied inner) =>
        if path.length = 1 then none else (assign v path inner).map (.table .implied)
      | some (.tables last earlier) =>
        if path.length = 1 then none else (assign v path last).map (.tables · earlier)

/-- Goes down to the table under the header's path and applies `f` there; tables on the way that are
not there yet are made. -/
def within (f : Members → Option Members) : (path : List String) → Members → Option Members
  | [], members => f members
  | key :: path, members =>
    members.upsert key fun
      | none => (within f path []).map (.table .implied)
      | some (.value _) => none
      | some (.table origin inner) => (within f path inner).map (.table origin)
      | some (.tables last earlier) => (within f path last).map (.tables · earlier)

/-- Adds the table of a header. -/
def openTable (key : String) (members : Members) : Option Members :=
  members.upsert key fun
    | none => some (.table .header [])
    | some (.table .implied inner) => some (.table .header inner)
    | some _ => none

/-- Adds the table of a repeated header. -/
def openNext (key : String) (members : Members) : Option Members :=
  members.upsert key fun
    | none => some (.tables [] [])
    | some (.tables last earlier) => some (.tables [] (last :: earlier))
    | some _ => none

end Members

mutual

def Node.toValue : Node → Value
  | .value v => v
  | .table _ members => .table (toEntries members)
  | .tables last earlier => .array (toItems earlier [.table (toEntries last)])

/-- The tables, the last one first, in front of `after` in their order. -/
def toItems : List (List (String × Node)) → List Value → List Value
  | [], after => after
  | members :: earlier, after => toItems earlier (.table (toEntries members) :: after)

def toEntries : List (String × Node) → Entries
  | [] => []
  | (key, node) :: rest => (key, node.toValue) :: toEntries rest

end

end Retention.Toml
