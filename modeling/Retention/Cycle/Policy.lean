import Retention.Time.Instant

/-!
# Policies

A policy says how old rows must be before they go, how many go at once and how long that may take.
The number that go at once is never zero. Performance data have a floor: fewer days than
`retentionFloor` are refused (`Policy.checkFloor`).
-/

namespace Retention.Cycle

open Time (Duration Instant)

/-- Performance data of this many days are kept, wherever no exemption holds. -/
def retentionFloor : UInt32 := 365

inductive PolicyError
  | belowFloor (days floor : UInt32)
  | emptyChunk
deriving DecidableEq, Repr

def PolicyError.message : PolicyError → String
  | .belowFloor days floor =>
    s!"Cannot remove performance data that is more recent than {floor} days (requested {days})"
  | .emptyChunk => "Invalid retention policy: chunk size must be at least 1"

structure Policy where
  days : UInt32
  chunkSize : UInt32
  maxRuntime : Option Duration
  chunkSize_pos : 0 < chunkSize
deriving DecidableEq

namespace Policy

def make (days chunkSize : UInt32) (maxRuntime : Option Duration) : Except PolicyError Policy :=
  if h : 0 < chunkSize then .ok ⟨days, chunkSize, maxRuntime, h⟩ else .error .emptyChunk

/-- Rows stamped before this instant go; `none` if it is out of the calendar's range. -/
def cutoff? (p : Policy) (now : Instant) : Option Instant :=
  now.daysBefore? p.days.toNat

def checkFloor (p : Policy) (floor : UInt32) : Except PolicyError Unit :=
  if p.days < floor then .error (.belowFloor p.days floor) else .ok ()

end Policy

end Retention.Cycle
