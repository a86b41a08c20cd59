import Retention.Time.Calendar

/-!
# Instants

A point of time is a count of seconds since 1970-01-01 with a fraction in nanoseconds. Only the
years -262143 to 262142 are representable, so going back by days can fail (`Instant.daysBefore?`).

Stores keep instants as text (`Instant.stored`): RFC 3339 at offset zero, with the fewest of 0, 3, 6
or 9 fraction digits that lose nothing. Such texts are compared character by character.
-/

namespace Retention.Time

/-- A length of time in nanoseconds. -/
abbrev Duration := Nat

namespace Duration

def ofSeconds (n : Nat) : Duration := n * 1000000000

def ofMilliseconds (n : Nat) : Duration := n * 1000000

def seconds (d : Duration) : Nat := d / 1000000000

def milliseconds (d : Duration) : Nat := d / 1000000

end Duration

structure Instant where
  seconds : Int
  nanoseconds : Nat
  nanoseconds_lt : nanoseconds < 1000000000 := by decide
deriving DecidableEq, Repr

namespace Instant

/-- The first second of the year -262143. -/
def firstSecond : Int := -8334601228800

/-- The last second of the year 262142. -/
def lastSecond : Int := 8210266876799

def Representable (t : Instant) : Prop :=
  firstSecond ≤ t.seconds ∧ t.seconds ≤ lastSecond

instance (t : Instant) : Decidable t.Representable :=
  inferInstanceAs (Decidable (_ ∧ _))

/-- The instant `days` days before `t`, unless it is not representable. -/
def daysBefore? (t : Instant) (days : Nat) : Option Instant :=
  let earlier := { t with seconds := t.seconds - 86400 * days }
  if earlier.Representable then some earlier else none

def after (t : Instant) (d : Duration) : Instant :=
  let total := t.nanoseconds + d
  { seconds := t.seconds + total / 1000000000
    nanoseconds := total % 1000000000
    nanoseconds_lt := Nat.mod_lt _ (by decide) }

def Before (s t : Instant) : Prop :=
  s.seconds < t.seconds ∨ s.seconds = t.seconds ∧ s.nanoseconds < t.nanoseconds

instance (s t : Instant) : Decidable (s.Before t) :=
  inferInstanceAs (Decidable (_ ∨ _))

/-- The fraction of a second after a point, in the fewest of 0, 3, 6 or 9 digits that are exact. -/
def fractionText (nanoseconds : Nat) : List Char :=
  if nanoseconds = 0 then []
  else if nanoseconds % 1000000 = 0 then '.' :: Text.padded 3 (nanoseconds / 1000000)
  else if nanoseconds % 1000 = 0 then '.' :: Text.padded 6 (nanoseconds / 1000)
  else '.' :: Text.padded 9 nanoseconds

/-- Hours, minutes and seconds of a second of the day. -/
def clockText (second : Nat) : List Char :=
  Text.padded 2 (second / 3600) ++ ':' :: Text.padded 2 (second / 60 % 60) ++
    ':' :: Text.padded 2 (second % 60)

def date (t : Instant) : Date :=
  Date.ofDay (t.seconds / 86400)

def secondOfDay (t : Instant) : Nat :=
  (t.seconds % 86400).toNat

/-- The text under which a store keeps the instant. -/
def stored (t : Instant) : String :=
  String.ofList <| t.date.text ++ 'T' :: clockText t.secondOfDay ++
    fractionText t.nanoseconds ++ "+00:00".toList

/-- The text for a reader: date, time of day and the zone's name. -/
def display (t : Instant) : String :=
  String.ofList <| t.date.text ++ ' ' :: clockText t.secondOfDay ++
    fractionText t.nanoseconds ++ " UTC".toList

/-- The text in front of a log line, always with six fraction digits. -/
def logged (t : Instant) : String :=
  String.ofList <| t.date.text ++ 'T' :: clockText t.secondOfDay ++
    '.' :: Text.padded 6 (t.nanoseconds / 1000) ++ ['Z']

end Instant

end Retention.Time
