import Retention.CommandLine.Run
import Retention.Proofs.Acceptance
import Retention.Proofs.Jobs
import Retention.Proofs.Likeness
import Retention.Proofs.Performance

/-!
# Rehearsals as runs in a world

Without faults a rehearsal is a run in a world where nobody else works on the store, and so is the
run that a command line starts (`CommandLine.carryOut_eq`): what is known of such runs is known of
it. A database that must not change is a world whose calls fail as they would fail there (`Heeds`).

In a rehearsal each look at the clock takes a nanosecond, and so does the look at the present
instant that comes after the first of them; in the world the first look takes the time of both.

The rounds that it is given are enough, whatever the store (`Cycle.Cycler.run_finishes`).
-/

namespace Retention.Store

/-- Where the one statement comes to anything, so does the other, and nothing changes. -/
def Barred (fixed statement : Statement UInt64) : Prop :=
  ∀ s r, fixed s = .ok r → statement s = .ok r ∧ r.2 = s

theorem refuse_barred (statement : Statement UInt64) :
    Barred (Fixed.refuse statement) statement := by
  intro s r h
  obtain ⟨_, -, h⟩ := ok_of_bind h
  cases h

theorem deleteUnreferenced_barred (kind : LookupKind) (ids : List Int) :
    Barred (Fixed.deleteUnreferenced kind ids) (deleteUnreferenced kind ids) := by
  unfold Fixed.deleteUnreferenced
  split
  · rename_i none_listed
    rintro s _ ⟨⟩
    exact ⟨by rw [deleteUnreferenced, if_pos none_listed]; rfl, rfl⟩
  · exact refuse_barred _

theorem deleteJobChunk_barred (cutoff : Time.Instant) (size : UInt32) :
    Barred (Fixed.deleteJobChunk cutoff size) (deleteJobChunk cutoff size) := by
  intro s r h
  obtain ⟨jobs, there, h⟩ := ok_of_bind h
  simp only at h
  split at h
  · rename_i none_due
    cases h
    simp only [deleteJobChunk, there, bind, Except.bind, if_pos none_due]
    exact ⟨rfl, trivial⟩
  · obtain ⟨_, -, h⟩ := ok_of_bind h
    obtain ⟨_, -, h⟩ := ok_of_bind h
    cases h

end Retention.Store

namespace Retention.Cycle

open Store (DatabaseError)
open Time (Duration Instant)

namespace Fixed

/-- What the request does to a store that must not change. -/
def perform : (q : Request) → Call Store q.Answer
  | .repositoryId? name => Fixed.performance.repositoryId? name
  | .maxIdAfter cutoff scope => Fixed.performance.maxIdAfter cutoff scope
  | .countAtOrBefore cutoff maxId scope cap =>
    Fixed.performance.countAtOrBefore cutoff maxId scope cap
  | .deleteBefore cutoff scope limit => Fixed.performance.deleteBefore cutoff scope limit
  | .countBefore cutoff => Fixed.jobs.countBefore cutoff
  | .deleteChunkBefore cutoff size => Fixed.jobs.deleteChunkBefore cutoff size
  | .unreferencedIds kind => Fixed.lookups.unreferencedIds kind
  | .deleteUnreferenced kind ids => Fixed.lookups.deleteUnreferenced kind ids

theorem data_eq : Fixed.data = .of perform := rfl

theorem ofStatement_barred {fixed statement : Store.Statement UInt64}
    (barred : Store.Barred fixed statement) (s : Store) :
    (ofStatement fixed s).2 = s ∧
      ∀ k, (ofStatement fixed s).1 = .ok k → ofStatement statement s = (.ok k, s) := by
  unfold ofStatement
  rcases h : fixed s with e | ⟨k, s'⟩
  · exact ⟨rfl, nofun⟩
  · obtain ⟨same, rfl⟩ := barred s _ h
    refine ⟨rfl, ?_⟩
    rintro _ ⟨⟩
    rw [same]

theorem perform_barred (q : Request) (s : Store) :
    (perform q s).2 = s ∧ ∀ a, (perform q s).1 = .ok a → q.perform s = (.ok a, s) := by
  cases q with
  | deleteBefore => exact ofStatement_barred (Store.refuse_barred _) s
  | deleteChunkBefore => exact ofStatement_barred (Store.deleteJobChunk_barred _ _) s
  | deleteUnreferenced => exact ofStatement_barred (Store.deleteUnreferenced_barred _ _) s
  | _ => exact ⟨rfl, fun a h => Prod.ext h rfl⟩

end Fixed

/-- In such stores a request does what it does in any store, unless it is refused. -/
structure Heeds (perform : (q : Request) → Call Store q.Answer)
    (refused : Request → Option DatabaseError) (Fits : Store → Prop) : Prop where
  answer (q : Request) {s : Store} (fits : Fits s) : perform q s =
    match refused q with
    | some e => (.error e, s)
    | none => q.perform s
  keeps (q : Request) {s : Store} (fits : Fits s) : Fits (perform q s).2

theorem heeds_direct : Heeds Request.perform (fun _ => none) fun _ => True where
  answer _ _ _ := rfl
  keeps _ _ _ := trivial

/-- The error that a request ends with in a store that must not change. -/
def Fixed.refused (s : Store) (q : Request) : Option DatabaseError :=
  match (Fixed.perform q s).1 with
  | .error e => some e
  | .ok _ => none

theorem Fixed.heeds (s : Store) : Heeds Fixed.perform (Fixed.refused s) (· = s) where
  answer q := by
    rintro s rfl
    obtain ⟨same, told⟩ := Fixed.perform_barred q s
    unfold Fixed.refused
    rcases h : (Fixed.perform q s).1 with e | a
    · exact Prod.ext h same
    · rw [told a h]
      exact Prod.ext h same
  keeps q := by
    rintro s rfl
    exact (Fixed.perform_barred q s).1

section Rounds

variable {ω : Type} {guard : Guard} {rounds : Nat} (enough : Store.capacity < rounds)
  {outcome : Outcome} {acts : List (Act (Place ω))} {s s' : Store}
include enough

theorem PerformanceCycle.Removals.finishes {removals : List Removal} {report : Report}
    (h : Removals guard rounds removals report outcome acts) :
    (∀ r ∈ removals, 0 < r.chunkSize) → ∀ {s : Store}, Linked s acts s' →
      outcome ≠ .unfinished := by
  induction h with
  | next _ _ ih | passing _ _ _ ih =>
    intro pos s linked
    obtain ⟨m, -, later⟩ := (linked_append _ _).1 linked
    exact ih (List.forall_mem_cons.1 pos).2 later
  | unfinished course =>
    intro pos s linked
    exact absurd rfl (course.finishes (pos _ List.mem_cons_self) linked
      (Nat.lt_of_le_of_lt (Store.due_length_le _ _ _) enough))
  | _ => exact fun _ _ _ => nofun

theorem PerformanceCycle.Course.finishes {c : PerformanceCycle} {now : Time.Instant}
    (h : c.Course now rounds outcome acts) (linked : Linked s acts s') : outcome ≠ .unfinished := by
  have pos := c.policy.chunkSize_pos
  cases h with
  | outOfRange | failed => exact nofun
  | resolved _ removals =>
    obtain ⟨-, -, later⟩ := linked
    exact removals.finishes enough (List.forall_mem_cons.2 ⟨pos, List.forall_mem_singleton.2 pos⟩)
      later
  | unknown _ removals | passing _ _ removals =>
    obtain ⟨-, -, later⟩ := linked
    exact removals.finishes enough (List.forall_mem_singleton.2 pos) later

theorem JobCycle.Course.finishes {c : JobCycle} {now : Time.Instant}
    (h : c.Course now rounds outcome acts) (linked : Linked s acts s') : outcome ≠ .unfinished := by
  cases h with
  | outOfRange | failed => exact nofun
  | unfinished _ jobs =>
    cases jobs with
    | counted chunks =>
      obtain ⟨-, -, later⟩ := linked
      exact absurd rfl (chunks.finishes later
        (Nat.lt_of_le_of_lt (Store.dueJobs_length_le _ _) enough))
  | deleted _ _ finish | exceeded _ _ finish | passing _ _ _ finish => cases finish <;> exact nofun

/-- More rounds than a table has room for rows are enough. -/
theorem Cycler.run_finishes (around : Surroundings ω) (span : Option DataDomain) (c : Cycler)
    (state : ω) (s : Store) :
    let world := World.alone around
    (c.run (world.host span) world.access rounds ⟨⟨state, s⟩, []⟩).1 ≠ .unfinished := by
  intro world
  cases c with
  | jobs c =>
    obtain ⟨acts, ran, course⟩ := run_jobs world span c rounds ⟨⟨state, s⟩, []⟩
    exact course.finishes enough ran.linked
  | performance c =>
    obtain ⟨acts, ran, course⟩ := run_performance world span c rounds ⟨⟨state, s⟩, []⟩
    exact course.finishes enough ran.linked

end Rounds

end Retention.Cycle

namespace Retention.Rehearsal

open Retention.Cycle
open Log (Record)
open Store (DatabaseError)
open Time (Duration Instant)

/-- What a stage has around its store. -/
structure Backdrop where
  clock : Duration := opening
  /-- Whether the clock was looked at. -/
  begun : Bool := false
  /-- What was logged, the last record first. -/
  log : List Record := []

/-- The backdrop as surroundings in which no call fails but those that are refused. -/
def surroundings (now : Instant) (refused : Request → Option DatabaseError) :
    Surroundings Backdrop where
  clock b := (b.clock, { b with clock := b.clock + if b.begun then 1 else 2, begun := true })
  now := now
  pause d b := ((), { b with clock := b.clock + d })
  write record b := ((), { b with log := record :: b.log })
  fault q b := (refused q, b)

variable {Fits : Store → Prop}

variable (Fits) in
/-- The scene shows a stage without faults, and its clock is ahead by so much. -/
structure Shows (begun : Bool) (ahead : Duration) (stage : Stage) (scene : Scene (Place Backdrop)) :
    Prop where
  store : stage.store = scene.state.store
  log : stage.log = scene.state.around.log
  clock : stage.clock + ahead = scene.state.around.clock
  begun : scene.state.around.begun = begun
  no_faults : stage.faults = []
  fits : Fits stage.store

theorem make_apply {α : Type} (made : Made) (call : Call Store α) {stage : Stage}
    (no_faults : stage.faults = []) : make made call stage =
      ((call stage.store).1,
        { stage with made := made :: stage.made, store := (call stage.store).2 }) := by
  rcases stage with ⟨store, opened, clock, faults, calls, log⟩
  obtain rfl : faults = [] := no_faults
  rfl

variable {now : Instant} {perform : (q : Cycle.Request) → Call Store q.Answer}
  {refused : Cycle.Request → Option DatabaseError}

theorem make_alike (heeds : Heeds perform refused Fits) (made : Made) (q : Cycle.Request) :
    Alike (Shows Fits true 0) (Shows Fits true 0) (make made (perform q))
      ((World.alone (surroundings now refused)).ask q) := by
  intro stage scene shows
  have same : perform q stage.store = _ := heeds.answer q shows.fits
  have fits : Fits (perform q stage.store).2 := heeds.keeps q shows.fits
  rw [make_apply made _ shows.no_faults]
  rw [shows.store] at same fits ⊢
  unfold World.ask World.alone World.sharing surroundings
  rcases told : refused q with _ | e <;> simp only [told] at same ⊢ <;> rw [same] at fits ⊢
  · exact ⟨rfl, rfl, shows.log, shows.clock, shows.begun, shows.no_faults, fits⟩
  · exact ⟨rfl, rfl, shows.log, shows.clock, shows.begun, shows.no_faults, fits⟩

theorem through_alike (heeds : Heeds perform refused Fits) :
    (through (.of perform)).Alike (Shows Fits true 0)
      (World.alone (surroundings now refused)).access where
  jobs :=
    { countBefore cutoff := make_alike heeds _ (.countBefore cutoff)
      deleteChunkBefore cutoff size := make_alike heeds _ (.deleteChunkBefore cutoff size) }
  lookups :=
    { unreferencedIds kind := make_alike heeds _ (.unreferencedIds kind)
      deleteUnreferenced kind ids := make_alike heeds _ (.deleteUnreferenced kind ids) }
  performance :=
    { repositoryId? name := make_alike heeds _ (.repositoryId? name)
      maxIdAfter cutoff scope := make_alike heeds _ (.maxIdAfter cutoff scope)
      countAtOrBefore cutoff maxId scope cap :=
        make_alike heeds _ (.countAtOrBefore cutoff maxId scope cap)
      deleteBefore cutoff scope limit := make_alike heeds _ (.deleteBefore cutoff scope limit) }

variable (Fits) in
/-- So many looks at the clock later `now` will be the present. -/
structure Awaits (now : Instant) (looks : Nat) (begun : Bool) (ahead : Duration) (stage : Stage)
    (scene : Scene (Place Backdrop)) : Prop extends Shows Fits begun ahead stage scene where
  present : stage.opened.after (stage.clock + looks - opening) = now

theorem host_alike : host.Alike (Shows Fits true 0)
    ((World.alone (surroundings now refused)).host none) where
  clock stage scene shows := by
    refine ⟨shows.clock, shows.store, shows.log, ?_, rfl, shows.no_faults, shows.fits⟩
    change _ = scene.state.around.clock + if scene.state.around.begun then 1 else 2
    rw [shows.begun, ← shows.clock]
    rfl
  pause d stage scene shows :=
    ⟨rfl, shows.store, shows.log, congrArg (· + d) shows.clock, shows.begun, shows.no_faults,
      shows.fits⟩
  write record stage scene shows :=
    ⟨rfl, shows.store, congrArg (record :: ·) shows.log, shows.clock, shows.begun,
      shows.no_faults, shows.fits⟩
  span := rfl

theorem host_begin_alike : host.BeginAlike (Awaits Fits now 2 false 0) (Awaits Fits now 1 true 1)
    (Shows Fits true 0) ((World.alone (surroundings now refused)).host none) where
  write record stage scene waits :=
    ⟨rfl, ⟨waits.store, congrArg (record :: ·) waits.log, waits.clock, waits.begun,
      waits.no_faults, waits.fits⟩, waits.present⟩
  clock stage scene waits := by
    refine ⟨waits.clock, ⟨waits.store, waits.log, ?_, rfl, waits.no_faults, waits.fits⟩,
      waits.present⟩
    change _ = scene.state.around.clock + if scene.state.around.begun then 1 else 2
    rw [waits.begun, ← waits.clock]
    rfl
  now stage scene waits :=
    ⟨waits.present, waits.store, waits.log, waits.clock, waits.begun, waits.no_faults, waits.fits⟩
  after := host_alike

/-- A cycle that is rehearsed without faults goes as in the world. -/
theorem run_eq (heeds : Heeds perform refused Fits) (c : Cycler) (rounds : Nat) (store : Store)
    (now : Instant) (fits : Fits store) :
    let world := World.alone (surroundings (now.after 2) refused)
    let rehearsed := c.run host (through (.of perform)) rounds (.open store now)
    let out := c.run (world.host none) world.access rounds ⟨⟨{}, store⟩, []⟩
    rehearsed.1 = out.1 ∧ rehearsed.2.store = out.2.state.store ∧
      rehearsed.2.log = out.2.state.around.log := by
  intro world rehearsed out
  have looks : opening + 2 - opening = 2 := Nat.add_sub_cancel_left opening 2
  have waits : Awaits Fits (now.after 2) 2 false 0 (.open store now) ⟨⟨{}, store⟩, []⟩ :=
    ⟨⟨rfl, rfl, Nat.add_zero opening, rfl, rfl, fits⟩, congrArg now.after looks⟩
  obtain ⟨same, shows⟩ := c.run_alike host_begin_alike rfl (through_alike heeds) rounds _ _ waits
  exact ⟨same, shows.store, shows.log⟩

end Retention.Rehearsal

namespace Retention.CommandLine

open Connection (Opened)
open Retention.Cycle
open Time (Instant)

/-- The run that a command line starts is a run in such a world. -/
theorem carryOut_eq (cycler : Cycler) (database : Opened) (now : Instant) :
    let refused := if database.fixed then Fixed.refused database.store else fun _ => none
    let world := World.alone (Rehearsal.surroundings (now.after 2) refused)
    let carried := carryOut cycler database now
    let out := cycler.run (world.host none) world.access Rehearsal.rounds
      ⟨⟨{}, database.store⟩, []⟩
    carried.outcome = out.1 ∧ carried.store = out.2.state.store ∧
      carried.records = out.2.state.around.log.reverse := by
  intro refused world carried out
  have told : ∃ perform Fits, Heeds perform refused Fits ∧ Fits database.store ∧
      (if database.fixed then Fixed.data else Direct.data) = .of perform := by
    by_cases fixed : database.fixed
    · refine ⟨Fixed.perform, (· = database.store), ?_, rfl, by rw [if_pos fixed, Fixed.data_eq]⟩
      simpa only [refused, if_pos fixed] using Fixed.heeds database.store
    · refine ⟨Request.perform, fun _ => True, ?_, trivial, by rw [if_neg fixed, direct_data_eq]⟩
      simpa only [refused, if_neg fixed] using heeds_direct
  obtain ⟨perform, Fits, heeds, fits, data⟩ := told
  obtain ⟨outcome, store, log⟩ :=
    Rehearsal.run_eq heeds cycler Rehearsal.rounds database.store now fits
  rw [← data] at outcome store log
  exact ⟨outcome, store, congrArg List.reverse log⟩

end Retention.CommandLine
