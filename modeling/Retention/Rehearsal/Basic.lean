import Retention.Cycle.Request
import Retention.Store.Seed

/-!
# Rehearsals

A rehearsal is a run over a store in memory. Its clock stands still but for what the run pauses and
a nanosecond for every look at it; its calls and its log are kept. Faults can be planned: before a
chosen call rows appear, time passes, or the call fails instead of being carried out. Without faults
it is the run itself, whose store only has to be read before and written back.
-/

namespace Retention.Rehearsal

open Retention.Cycle
open Log (Record)
open Store (DatabaseError LookupKind Seed)
open Time (Duration Instant)

/-- The operations on data by name. -/
inductive Method
  | repositoryId | maxIdAfter | countAtOrBefore | deleteBefore | deleteChunkBefore | countBefore
  | unreferencedIds | deleteUnreferenced
deriving DecidableEq, Repr

/-- A call as it was made, without its cutoff. -/
inductive Made
  | repositoryId (name : String)
  | maxIdAfter (scope : Option Int)
  | countAtOrBefore (maxId scope : Option Int) (cap : UInt32)
  | deleteBefore (scope : Option Int) (limit : UInt32)
  | deleteChunkBefore (size : UInt32)
  | countBefore
  | unreferencedIds (kind : LookupKind)
  | deleteUnreferenced (kind : LookupKind) (ids : List Int)
deriving DecidableEq, Repr

def Made.method : Made → Method
  | repositoryId .. => .repositoryId
  | maxIdAfter .. => .maxIdAfter
  | countAtOrBefore .. => .countAtOrBefore
  | deleteBefore .. => .deleteBefore
  | deleteChunkBefore .. => .deleteChunkBefore
  | countBefore => .countBefore
  | unreferencedIds .. => .unreferencedIds
  | deleteUnreferenced .. => .deleteUnreferenced

structure Fault where
  method : Method
  /-- The call that it strikes, counted from one; without it, every call. -/
  nth : Option Nat := none
  before : List Seed := []
  delay : Duration := 0
  error : Option DatabaseError := none

structure Stage where
  store : Store
  /-- The present instant when the clock showed `opening`. -/
  opened : Instant
  clock : Duration
  faults : List Fault := []
  /-- The calls that were made, the last one first. -/
  made : List Made := []
  /-- What was logged, the last record first. -/
  log : List Record := []

/-- What the clock shows at the beginning; runs may have started long before. -/
def opening : Duration := .ofMilliseconds UInt64.size

/-- A number of rounds that suffices: each deletes a row, but for the last one. -/
def rounds : Nat := Store.capacity + 1

namespace Stage

def «open» (store : Store) (now : Instant) : Stage := ⟨store, now, opening, [], [], []⟩

/-- Forgets what was planned and what was kept. -/
def next (s : Stage) (faults : List Fault) : Stage := { s with faults, made := [], log := [] }

def calls (s : Stage) : List Made := s.made.reverse

def records (s : Stage) : List Record := s.log.reverse

end Stage

def host : Host Stage where
  clock := modifyGet fun s => (s.clock, { s with clock := s.clock + 1 })
  now := modifyGet fun s =>
    (s.opened.after (s.clock + 1 - opening), { s with clock := s.clock + 1 })
  pause d := modify fun s => { s with clock := s.clock + d }
  write record := modify fun s => { s with log := record :: s.log }

/-- Lets the faults strike that are planned for the `n`-th call of a method. -/
def strike (method : Method) (n : Nat) : List Fault → Call Stage Unit
  | [] => return
  | fault :: rest => do
    if fault.method = method ∧ fault.nth.all (· == n) then
      modify fun s =>
        { s with store := Seed.sowAll s.store fault.before, clock := s.clock + fault.delay }
      if let some e := fault.error then
        throw e
    strike method n rest

/-- Makes a call on the store of the stage. -/
def make {α : Type} (made : Made) (call : Call Store α) : Call Stage α := do
  modify fun s => { s with made := made :: s.made }
  let s ← get
  strike made.method (s.made.filter (·.method = made.method)).length s.faults
  let s ← get
  let (result, store) := call.run s.store
  set { s with store }
  ExceptT.mk (pure result)

/-- Access to the store of a stage through access to a store. -/
def through (data : DataAccess Store) : DataAccess Stage where
  jobs := {
    countBefore cutoff := make .countBefore (data.jobs.countBefore cutoff)
    deleteChunkBefore cutoff size :=
      make (.deleteChunkBefore size) (data.jobs.deleteChunkBefore cutoff size) }
  lookups := {
    unreferencedIds kind := make (.unreferencedIds kind) (data.lookups.unreferencedIds kind)
    deleteUnreferenced kind ids :=
      make (.deleteUnreferenced kind ids) (data.lookups.deleteUnreferenced kind ids) }
  performance := {
    repositoryId? name := make (.repositoryId name) (data.performance.repositoryId? name)
    maxIdAfter cutoff scope :=
      make (.maxIdAfter scope) (data.performance.maxIdAfter cutoff scope)
    countAtOrBefore cutoff maxId scope cap :=
      make (.countAtOrBefore maxId scope cap)
        (data.performance.countAtOrBefore cutoff maxId scope cap)
    deleteBefore cutoff scope limit :=
      make (.deleteBefore scope limit) (data.performance.deleteBefore cutoff scope limit) }

def access : DataAccess Stage := through Direct.data

/-- A guard for a run that began so long ago. -/
def guardSince (ago : Duration) (maxRuntime : Option Duration) : StateM Stage Guard := do
  let reading ← host.clock
  return ⟨reading - ago, maxRuntime⟩

end Retention.Rehearsal
