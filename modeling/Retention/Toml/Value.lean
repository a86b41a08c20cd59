/-!
# TOML values

A document is a table: keys with values, in ascending order of the keys. Whole numbers are of any
size here; those that no consumer takes are refused later. So is a number that is spelled like one
but stands for none (`unreadable`): it does no harm where nobody reads it. Of a date or a time only
its presence counts.
-/

namespace Retention.Toml

inductive Value
  | string (text : String)
  | integer (n : Int)
  | float (x : Float)
  | unreadable
  | boolean (b : Bool)
  | moment
  | array (items : List Value)
  | table (entries : List (String × Value))
deriving Inhabited

abbrev Entries := List (String × Value)

end Retention.Toml
