/-!
# Patterns

Regular expressions for whole texts. Where a pattern can be followed in several ways, the earlier
alternative and the longer repetition come first, a repetition with a question mark behind it tries
the shorter one first. The first way that comes to an end decides: the text matches if that way
takes all of it (`Pattern.matches`).
-/

namespace Retention.Text

inductive Pattern
  | empty
  | one (accepts : Char → Bool)
  /-- The beginning of the text. -/
  | first
  /-- The end of the text. -/
  | last
  | sequence (front back : Pattern)
  | either (a b : Pattern)
  /-- Any number of times, at least once or not, with the longest or the shortest first. -/
  | repeated (p : Pattern) (atLeastOnce long : Bool)
  | optional (p : Pattern) (long : Bool)

namespace Pattern

/-- Where repeating may come to from a place; `step` is one round, and rounds that take nothing
count as none. -/
def roundsFrom (step : Nat → List Nat) (long : Bool) : (rounds : Nat) → Nat → List Nat
  | 0, i => [i]
  | rounds + 1, i =>
    let further := ((step i).filter (i < ·)).flatMap (roundsFrom step long rounds)
    (if long then further ++ [i] else i :: further).eraseDups

/-- The places that the pattern may lead to from the `i`-th of a text, those that come first at
the front. -/
def ends (text : Array Char) : Pattern → Nat → List Nat
  | empty, i => [i]
  | one accepts, i => if text[i]?.any accepts then [i + 1] else []
  | first, i => if i = 0 then [i] else []
  | last, i => if i = text.size then [i] else []
  | sequence front back, i => ((ends text front i).flatMap (ends text back)).eraseDups
  | either a b, i => (ends text a i ++ ends text b i).eraseDups
  | repeated p atLeastOnce long, i =>
    let rest := roundsFrom (ends text p) long text.size
    if atLeastOnce then ((ends text p i).flatMap rest).eraseDups else rest i
  | optional p long, i => if long then ends text p i ++ [i] else i :: ends text p i

def «matches» (p : Pattern) (text : String) : Bool :=
  let cs := text.toList.toArray
  (ends cs p 0).head? == some cs.size

end Pattern

end Retention.Text
