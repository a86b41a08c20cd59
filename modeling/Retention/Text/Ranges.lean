/-!
# Ranges of numbers

A set of numbers told by its bounds in ascending order, at which its ranges begin and end in turn.
-/

namespace Retention.Text

/-- How many bounds are at most `n`, found between `low` and `high` by halving the distance. -/
def boundsUpTo (bounds : Array Nat) (n : Nat) : (rounds low high : Nat) → Nat
  | 0, low, _ => low
  | rounds + 1, low, high =>
    if high ≤ low then low
    else
      let middle := (low + high) / 2
      if bounds.getD middle 0 ≤ n then boundsUpTo bounds n rounds (middle + 1) high
      else boundsUpTo bounds n rounds low middle

def inRanges (bounds : Array Nat) (n : Nat) : Bool :=
  boundsUpTo bounds n bounds.size 0 bounds.size % 2 == 1

end Retention.Text
