import Retention.Proofs.Rehearsals
import Retention.Proofs.Retentions

/-!
# What the exit code tells

A run that was asked for on the command line goes through stages: it loads its settings, makes a
cycle of the request, opens the database and carries the cycle out. Each stage either hands on to
the next one or ends the run with the exit code 1, and the code is 0 if none of them failed
(`Tells`, from the last stage to the first). Three ways out have another code, and are left aside: a
cutoff that the calendar has no room for, a log filter that breaks a character, and a wait for a
server that is longer than its clock can tell.

Before the database is opened a run looks at no file but its settings, and leaves all as they are
(`Aloof`).
-/

namespace Retention.Connection

theorem connect_in_time {settings : Settings.DatabaseSettings}
    (no_server : ∀ server, settings ≠ .server server) (env : Settings.Environment)
    (files : Files) : connect settings env files ≠ .error .deadlineOutOfRange := by
  cases settings with
  | none => exact nofun
  | file settings =>
    change (openFile settings files).mapError Fault.failed ≠ _
    rcases openFile settings files with e | database <;> exact nofun
  | server settings => exact absurd rfl (no_server settings)

/-- The name of a file that lies where the run takes place. -/
structure IsFileName (name : String) : Prop where
  unrooted : name.startsWith "/" = false
  steps : name.splitOn "/" = [name]
  leads : ¬ (name = "" ∨ name = ".")
  onwards : name ≠ ".."
  short : name.utf8ByteSize ≤ maxName

namespace IsFileName

variable {name : String} (h : IsFileName name) (files : Files)
include h

theorem origin : Place.origin name = ⟨false, []⟩ := by
  rw [Place.origin, h.unrooted]

theorem normal : Files.normal name = name := by
  rw [Files.normal, h.steps, h.origin, List.foldl_cons, if_neg h.leads, if_neg h.onwards]
  rfl

theorem at? : files.at? ⟨false, [name]⟩ = files.lookup name := by
  have inside : Place.isOutward ⟨false, [name]⟩ = false := by simp [Place.isOutward, h.onwards]
  rw [Files.at?, inside]
  rfl

theorem follow : files.follow name = .ok ⟨false, [name]⟩ := by
  have named : name ≠ "" := fun empty => h.leads (.inl empty)
  have short : ¬ maxName < name.utf8ByteSize := Nat.not_lt.2 h.short
  have fits : ¬ maxPath < name.utf8ByteSize := Nat.not_lt.2 (Nat.le_trans h.short (by decide))
  have here : files.at? ⟨false, []⟩ = some .directory := rfl
  rw [Files.follow, if_neg named, if_neg fits, h.steps, h.origin, Files.followFrom, here]
  simp only [if_neg h.leads, if_neg h.onwards, if_neg short]
  rfl

theorem collapse : files.collapse name = some ⟨false, [name]⟩ := by
  have short : ¬ maxName < name.utf8ByteSize := Nat.not_lt.2 h.short
  have here : files.at? ⟨false, []⟩ = some .directory := rfl
  rw [Files.collapse, h.steps, h.origin, Files.collapseFrom, if_neg h.leads, if_neg h.onwards, here]
  simp only [if_neg short]
  rfl

theorem content {bytes : ByteArray} (found : files.lookup name = some (.bytes bytes)) :
    files.content name = .bytes bytes := by
  simp only [Files.content, h.follow, h.at?, found]

theorem fileAt {access : Access} {store : Store}
    (found : files.lookup name = some (.database store)) :
    fileAt { path := name, access } files = .ok (.database store, name) := by
  simp only [Connection.fileAt, h.collapse, h.at?, found]
  rfl

end IsFileName

end Retention.Connection

namespace Retention.CommandLine

open Connection (Files Opened)
open Log (Filter Record)
open Retention.Cycle (Cycler DataDomain Options Outcome Report retentionFloor)
open Time (Instant)

namespace Request

variable (request : Request)

def configPath : String := request.given.config.getD defaultConfig

def asksFor : DataDomain := request.domain.getD default

def options : Options := ⟨request.given.days, request.given.chunkSize, request.given.sleepTime⟩

end Request

namespace Surroundings

variable (s : Surroundings) (request : Request)

/-- What comes of the settings file of a request. -/
def load : Except Settings.Problem Settings :=
  Settings.ofFile s.environment request.configPath (s.files.content request.configPath)

/-- What is made of a request under these settings. -/
def prepare (settings : Settings) : Except Cycle.PolicyError Cycler :=
  Cycler.make request.asksFor request.options settings.retention (s.environment "SITE_HOSTNAME")

/-- How a cycle ends on the store of an opened database, where nobody else works on it and no call
fails but those that would change a database that must stay as it is. -/
def cycle (cycler : Cycler) (database : Opened) : Outcome :=
  let refused := if database.fixed then Cycle.Fixed.refused database.store else fun _ => none
  let world := Cycle.World.alone (Rehearsal.surroundings (s.now.after 2) refused)
  (cycler.run (world.host none) world.access Rehearsal.rounds ⟨⟨{}, database.store⟩, []⟩).1

/-- The cycle comes to a report: it completes, though perhaps not in all its steps, or it is
aborted. -/
def Reports (cycler : Cycler) (database : Opened) : Prop :=
  ∃ report, (s.cycle cycler database).report? = some report

/-- The database is opened, and the cycle comes to a report. Nothing is asked about the health
check in between, since a database that was just opened answers it. -/
def Cycles (settings : Settings) (cycler : Cycler) : Prop :=
  ∃ database, Connection.connect settings.database s.environment s.files = .ok database ∧
    s.Reports cycler database

/-- No stage fails. -/
def Succeeds : Prop :=
  ∃ settings cycler, s.load request = .ok settings ∧ s.prepare request settings = .ok cycler ∧
    s.Cycles settings cycler

end Surroundings

/-- The exit code is 0 after a success and 1 after a failure. -/
def Tells (exit : Nat) (success : Prop) : Prop := success ∧ exit = 0 ∨ ¬ success ∧ exit = 1

theorem Tells.congr {exit : Nat} {success success' : Prop} (h : Tells exit success)
    (same : success ↔ success') : Tells exit success' := by
  rwa [← propext same]

theorem Tells.zero_iff {exit : Nat} {success : Prop} (h : Tells exit success) :
    exit = 0 ↔ success := by
  rcases h with ⟨yes, rfl⟩ | ⟨no, rfl⟩
  · exact iff_of_true rfl yes
  · exact iff_of_false nofun no

theorem Tells.one_iff {exit : Nat} {success : Prop} (h : Tells exit success) :
    exit = 1 ↔ ¬ success := by
  rcases h with ⟨yes, rfl⟩ | ⟨no, rfl⟩
  · exact iff_of_false nofun (not_not_intro yes)
  · exact iff_of_true rfl no

theorem conclude_tells {outcome : Outcome} (domain : DataDomain)
    (in_range : outcome ≠ .cutoffOutOfRange) (finished : outcome ≠ .unfinished) :
    Tells (conclude domain outcome).2 (∃ report, outcome.report? = some report) := by
  cases outcome with
  | completed report => exact .inl ⟨⟨report, rfl⟩, rfl⟩
  | aborted report reason => exact .inl ⟨⟨report, rfl⟩, rfl⟩
  | failed => exact .inr ⟨nofun, rfl⟩
  | cutoffOutOfRange => exact absurd rfl in_range
  | unfinished => exact absurd rfl finished

/-- The days of all retentions before the instant that a run takes for its present are in the
calendar. -/
def InCalendar (now : Instant) (retentions : List UInt32) : Prop :=
  ∀ days ∈ retentions, (now.after 2).daysBefore? days.toNat ≠ none

section Stages

variable {s : Surroundings} {settings : Settings} {cycler : Cycler}

theorem outcome_eq_cycle (database : Opened) :
    (carryOut cycler database s.now).outcome = s.cycle cycler database :=
  (carryOut_eq cycler database s.now).1

theorem cycle_ends (database : Opened) (in_calendar : InCalendar s.now cycler.retentions) :
    s.cycle cycler database ≠ .cutoffOutOfRange ∧ s.cycle cycler database ≠ .unfinished := by
  have enough : Store.capacity < Rehearsal.rounds := Nat.lt_succ_self Store.capacity
  refine ⟨fun out => ?_, cycler.run_finishes enough _ _ _ _⟩
  obtain ⟨_, -, outOfRange_iff, -⟩ := cycler.run_outOfRange (Cycle.World.alone _) none _ _
  obtain ⟨days, asked, none⟩ := outOfRange_iff.1 out
  exact in_calendar days asked none

theorem cycleDatabase_tells (before : List Record)
    (no_server : ∀ server, settings.database ≠ .server server)
    (in_calendar : InCalendar s.now cycler.retentions) :
    Tells (cycleDatabase s settings cycler before).exit (s.Cycles settings cycler) := by
  unfold cycleDatabase
  rcases connected : Connection.connect settings.database s.environment s.files with
    (e | _) | database
  · refine .inr ⟨?_, rfl⟩
    rintro ⟨_, opened, -⟩
    rw [connected] at opened
    cases opened
  · exact absurd connected (Connection.connect_in_time no_server _ _)
  · obtain ⟨in_range, finished⟩ := cycle_ends database in_calendar
    change Tells (conclude cycler.domain (carryOut cycler database s.now).outcome).2 _
    rw [outcome_eq_cycle]
    refine (conclude_tells cycler.domain in_range finished).congr ⟨fun report => ?_, ?_⟩
    · exact ⟨database, connected, report⟩
    · rintro ⟨database', opened, report⟩
      rw [connected] at opened
      cases opened
      exact report

variable {request : Request} {configPath : String}

theorem course_refused {e : Cycle.PolicyError} (refused : s.prepare request settings = .error e) :
    course s request configPath settings =
      ⟨(Cycler.notices request.asksFor request.options).map plain ++
          [plain (.optionsRefused e.message request.asksFor)], 1, [], s.files⟩ := by
  unfold Surroundings.prepare Request.asksFor Request.options at refused
  unfold course
  simp only [refused]
  rfl

theorem course_tells (no_server : ∀ server, settings.database ≠ .server server)
    (in_calendar : InCalendar s.now
      (Cycler.asked request.asksFor request.options settings.retention)) :
    Tells (course s request configPath settings).exit
      (∃ cycler, s.prepare request settings = .ok cycler ∧ s.Cycles settings cycler) := by
  rcases prepared : s.prepare request settings with e | cycler
  · rw [course_refused prepared]
    exact .inr ⟨nofun, rfl⟩
  · rw [← Cycler.retentions_eq_asked prepared] at in_calendar
    unfold Surroundings.prepare Request.asksFor Request.options at prepared
    unfold course
    simp only [prepared]
    refine (cycleDatabase_tells _ no_server in_calendar).congr ⟨fun cycles => ?_, ?_⟩
    · exact ⟨cycler, rfl, cycles⟩
    · rintro ⟨_, ⟨⟩, cycles⟩
      exact cycles

end Stages

/-- The run fails, and all files stay as they are. It looks at none of them but its settings: with
others around these it would have said the same. -/
structure Aloof (s : Surroundings) (words : List String) (configPath : String) : Prop where
  exit : (run s words).exit = 1
  files : (run s words).files = s.files
  others (files : Files) (same : files.content configPath = s.files.content configPath) :
    run { s with files } words = { run s words with files }

section Runs

variable {s : Surroundings} {words : List String} {request : Request}
  (parsed : parse words = .ok request)
include parsed

theorem run_unloaded {problem : Settings.Problem} (unloaded : s.load request = .error problem) :
    run s words =
      { exit := 1, files := s.files
        stderr := [s!"Failed to load config from {request.configPath}: {problem.message}"] } := by
  unfold Surroundings.load Request.configPath at unloaded
  simp only [run, parsed, runRequest, unloaded]
  rfl

theorem run_loaded {settings : Settings} (loaded : s.load request = .ok settings) {filter : Filter}
    (filtered : Filter.ofSettings settings.observability.logging request.given.debug
      (s.environment "RUST_LOG") = .ok filter) :
    let course := course s request request.configPath settings
    run s words =
      { exit := course.exit, files := course.files, stderr := course.stderr
        stdout := (filter.apply course.records).flatMap
          (·.lines settings.observability.logging s.now) } := by
  intro course
  unfold Surroundings.load Request.configPath at loaded
  simp only [run, parsed, runRequest, loaded, filtered]
  rfl

omit parsed in
theorem load_others {files : Files}
    (same : files.content request.configPath = s.files.content request.configPath) :
    { s with files : Surroundings }.load request = s.load request := by
  unfold Surroundings.load
  rw [same]

theorem aloof_of_unloaded {problem : Settings.Problem}
    (unloaded : s.load request = .error problem) : Aloof s words request.configPath where
  exit := by rw [run_unloaded parsed unloaded]
  files := by rw [run_unloaded parsed unloaded]
  others files same := by
    rw [run_unloaded parsed unloaded, run_unloaded parsed ((load_others same).trans unloaded)]

theorem aloof_of_refused {settings : Settings} (loaded : s.load request = .ok settings)
    {filter : Filter} (filtered : Filter.ofSettings settings.observability.logging
      request.given.debug (s.environment "RUST_LOG") = .ok filter)
    {e : Cycle.PolicyError} (refused : s.prepare request settings = .error e) :
    Aloof s words request.configPath where
  exit := by rw [run_loaded parsed loaded filtered, course_refused refused]
  files := by rw [run_loaded parsed loaded filtered, course_refused refused]
  others files same := by
    have refused' : { s with files : Surroundings }.prepare request settings = .error e := refused
    rw [run_loaded parsed loaded filtered, course_refused refused,
      run_loaded parsed ((load_others same).trans loaded) filtered, course_refused refused']

theorem run_exit_tells
    (no_server : ∀ settings, s.load request = .ok settings →
      ∀ server, settings.database ≠ .server server)
    (filtered : ∀ settings, s.load request = .ok settings →
      ∃ filter, Filter.ofSettings settings.observability.logging request.given.debug
        (s.environment "RUST_LOG") = .ok filter)
    (in_calendar : ∀ settings, s.load request = .ok settings →
      InCalendar s.now (Cycler.asked request.asksFor request.options settings.retention)) :
    Tells (run s words).exit (s.Succeeds request) := by
  rcases loaded : s.load request with problem | settings
  · rw [run_unloaded parsed loaded]
    refine .inr ⟨?_, rfl⟩
    rintro ⟨_, _, loads, -⟩
    rw [loaded] at loads
    cases loads
  · obtain ⟨filter, filtered⟩ := filtered settings loaded
    rw [run_loaded parsed loaded filtered]
    refine (course_tells (no_server settings loaded) (in_calendar settings loaded)).congr
      ⟨?_, ?_⟩
    · rintro ⟨cycler, prepared, cycles⟩
      exact ⟨settings, cycler, loaded, prepared, cycles⟩
    · rintro ⟨_, cycler, loads, prepared, cycles⟩
      rw [loaded] at loads
      cases loads
      exact ⟨cycler, prepared, cycles⟩

theorem prepare_below_floor {settings : Settings} (loaded : s.load request = .ok settings)
    (asks : request.asksFor = .performance)
    (held : settings.retention.performance.isFloorExempt (s.environment "SITE_HOSTNAME") = false)
    (low : request.given.days.getD settings.retention.performance.days < retentionFloor) :
    s.prepare request settings = .error (.belowFloor
      (request.given.days.getD settings.retention.performance.days) retentionFloor) := by
  unfold Surroundings.load Settings.ofFile at loaded
  obtain ⟨_, -, read⟩ := ok_of_bind loaded
  have pos : 0 < request.options.chunkSize.getD settings.retention.performance.chunkSize :=
    Cycle.chunk_pos (Settings.ofText_ok read).2.performance_chunk (parse_ok parsed)
  unfold Surroundings.prepare
  rw [asks, Cycler.make_performance_eq _ pos]
  exact if_pos ⟨held, low⟩

end Runs

/-- If there is no server to connect to, the log filter is one and the cutoffs are in the calendar,
the exit code of a run that the command line asks for is 0 exactly if no stage fails, and 1
otherwise. A run whose settings cannot be read, or whose request makes no cycle, fails before the
database is opened: nothing is taken from it, and it is not made where there is none. This is what
becomes of a request for performance data below the floor from a host that is not exempt. -/
theorem exit_tells_success (s : Surroundings) {words : List String} {request : Request}
    (parsed : parse words = .ok request)
    (no_server : ∀ settings, s.load request = .ok settings →
      ∀ server, settings.database ≠ .server server)
    (filtered : ∀ settings, s.load request = .ok settings →
      ∃ filter, Filter.ofSettings settings.observability.logging request.given.debug
        (s.environment "RUST_LOG") = .ok filter)
    (in_calendar : ∀ settings, s.load request = .ok settings →
      InCalendar s.now (Cycler.asked request.asksFor request.options settings.retention)) :
    let exit := (run s words).exit
    let StaysAloof := Aloof s words request.configPath
    (exit = 0 ↔ s.Succeeds request) ∧ (exit = 1 ↔ ¬ s.Succeeds request) ∧
    (∀ problem, s.load request = .error problem → StaysAloof) ∧
    ∀ settings, s.load request = .ok settings →
      let performance := settings.retention.performance
      let days := request.given.days.getD performance.days
      (∀ e, s.prepare request settings = .error e → StaysAloof) ∧
      (request.asksFor = .performance →
        performance.isFloorExempt (s.environment "SITE_HOSTNAME") = false → days < retentionFloor →
        s.prepare request settings = .error (.belowFloor days retentionFloor) ∧ StaysAloof) := by
  intro exit StaysAloof
  have tells := run_exit_tells parsed no_server filtered in_calendar
  refine ⟨tells.zero_iff, tells.one_iff, fun problem => aloof_of_unloaded parsed,
    fun settings loaded => ?_⟩
  intro performance days
  obtain ⟨filter, filtered⟩ := filtered settings loaded
  refine ⟨fun e => aloof_of_refused parsed loaded filtered, fun asks held low => ?_⟩
  have refused := prepare_below_floor parsed loaded asks held low
  exact ⟨refused, aloof_of_refused parsed loaded filtered refused⟩

theorem ofText_new_database : Settings.ofText (fun _ => none)
    "database=\x7btype='sqlite',path='d',create_if_missing=true\x7d" =
      .ok { database := .file { path := "d", createIfMissing := true } } := by
  decide +kernel

theorem isFileName_of_mem {name : String} (here : name ∈ ["c", "d"]) :
    Connection.IsFileName name := by
  rcases List.mem_pair.1 here with rfl | rfl
  all_goals
    refine ⟨by decide +kernel, ?_, by decide, by decide, by decide⟩
    rw [String.splitOn, String.splitOnAux, String.splitOnAux]
    decide +kernel

theorem connect_there (bytes : ByteArray) :
    Connection.connect (.file { path := "d", createIfMissing := true }) (fun _ => none)
        [("c", .bytes bytes), ("d", .database .empty)] =
      .ok { store := .empty, files := [("d", .database .empty), ("c", .bytes bytes)]
            kept? := some "d" } := by
  have here : Connection.IsFileName "d" := isFileName_of_mem (by decide)
  let files : Files := [("c", .bytes bytes), ("d", .database .empty)]
  let address : Connection.FileAddress := { path := "d", access := .create }
  have addressed :
      Connection.FileAddress.ofSettings { path := "d", createIfMissing := true } = .ok address := by
    simp [Connection.FileAddress.ofSettings, address]
  have in_file : address.isInFile = true := rfl
  have found : Connection.fileAt address files = .ok (.database .empty, "d") :=
    here.fileAt files rfl
  have put : files.put "d" (.database .empty) = [("d", .database .empty), ("c", .bytes bytes)] := by
    simp [Files.put, here.normal, files]
  simp only [Connection.connect, Connection.openFile, addressed, in_file, bind, Except.bind,
    Functor.map, Except.map, if_true, found, Connection.storeIn, put, files]
  rfl

/-- Fewer days than the floor are asked for: the database is not made. The same settings do for a
cycle of jobs where it is there. -/
theorem exit_tells_success_new_database :
    let text := "database=\x7btype='sqlite',path='d',create_if_missing=true\x7d"
    let config : String × Connection.File := ("c", .bytes text.toUTF8)
    let s (files : Files) : Surroundings :=
      ⟨config :: files, fun _ => none, ⟨1760000000, 0, by decide⟩⟩
    let below := ["from:perfherder", "--config", "c", "--days", "30"]
    let jobs := ["--config", "c"]
    (run (s []) below).exit = 1 ∧ (run (s []) below).files = [config] ∧
      (run (s [("d", .database .empty)]) jobs).exit = 0 := by
  intro text config s below jobs
  let settings : Settings := { database := .file { path := "d", createIfMissing := true } }
  have decoded : String.fromUTF8? text.toUTF8 = some text := dif_pos text.isValidUTF8
  have loaded (files : Files) (request : Request) (asked : request.configPath = "c") :
      (s files).load request = .ok settings := by
    have read : Files.content (config :: files) "c" = .bytes text.toUTF8 :=
      (isFileName_of_mem (by decide)).content _ rfl
    simp only [Surroundings.load, asked, s, read, Settings.ofFile, Settings.FileContent.text,
      decoded]
    change Settings.ofText (fun _ => none) text = _
    exact ofText_new_database
  have parsed : parse below =
      .ok ⟨some .performance, { config := some "c", days := some 30 }⟩ := by
    decide +kernel
  have parsed' : parse jobs = .ok ⟨none, { config := some "c" }⟩ := by
    decide +kernel
  have only (files : Files) (request : Request) (asked : request.configPath = "c")
      {P : Settings → Prop} (h : P settings) settings'
      (loaded' : (s files).load request = .ok settings') : P settings' := by
    rw [loaded files request asked] at loaded'
    cases loaded'
    exact h
  have in_calendar {now : Instant} (same : now = ⟨1760000000, 0, by decide⟩) :
      InCalendar now [30, 28] ∧ InCalendar now [120] := by
    subst same
    simp [InCalendar, Instant.after, Instant.daysBefore?, Instant.Representable,
      Instant.firstSecond, Instant.lastSecond]
  have no_server : ∀ server, settings.database ≠ .server server := by
    rintro server ⟨⟩
  have filtered (debug : Bool) :
      ∃ filter, Filter.ofSettings settings.observability.logging debug none = .ok filter := ⟨_, rfl⟩
  obtain ⟨-, -, -, told⟩ := exit_tells_success (s []) parsed (only [] _ rfl no_server)
    (only [] _ rfl (filtered _)) (only [] _ rfl (in_calendar rfl).1)
  obtain ⟨-, aloof⟩ := (told settings (loaded [] _ rfl)).2 rfl rfl (by decide)
  obtain ⟨succeeds, -⟩ := exit_tells_success (s [("d", .database .empty)]) parsed'
    (only _ _ rfl no_server) (only _ _ rfl (filtered _)) (only _ _ rfl (in_calendar rfl).2)
  let cycler : Cycler := .jobs ⟨⟨120, 100, none, by decide⟩, 0⟩
  let database : Opened :=
    { store := .empty, files := [("d", .database .empty), config], kept? := some "d" }
  have prepared : Cycler.make .jobs {} {} none = .ok cycler := rfl
  have report : ((s [("d", .database .empty)]).cycle cycler database).report?.isSome := by
    rw [← outcome_eq_cycle]
    decide +kernel
  -- both sides name the same runs; comparing them must not carry them out
  with_reducible refine ⟨aloof.exit, aloof.files, succeeds.2 ?_⟩
  exact ⟨settings, cycler, loaded _ _ rfl, prepared, database, connect_there _,
    Option.isSome_iff_exists.1 report⟩

end Retention.CommandLine
