import Retention.CommandLine.Help
import Retention.Connection.Basic
import Retention.Log.Filter
import Retention.Log.Line
import Retention.Rehearsal.Basic

/-!
# Runs from the command line

A run reads its settings, makes a cycle of the request, opens the database and carries the cycle
out; what happens is logged. The database is not opened unless the settings were accepted and the
request was made into a cycle. The run succeeds if the cycle completes or is aborted.
-/

namespace Retention.CommandLine

open Connection (Files File Opened)
open Retention.Cycle (Cycler DataDomain Outcome Report)
open Log (Event Record Filter)
open Rehearsal (Stage)
open Settings (Environment LoggingSettings)
open Time (Instant)

structure Surroundings where
  files : Files
  environment : Environment
  now : Instant

structure Result where
  exit : Nat
  stdout : List String := []
  stderr : List String := []
  files : Files

def defaultConfig : String := "cycler.toml"

/-- The message of a run whose cutoff is out of the calendar's range. -/
def outOfRange : String := "`DateTime - TimeDelta` overflowed"

/-- The message of a run that would wait longer than its clock can tell. -/
def deadlineOutOfRange : String := "overflow when adding duration to instant"

/-- The message of a run whose log filter breaks a character. -/
def brokenFilter : String := "a part of the log filter begins or ends inside of a character"

/-- What a cycle logged and how it ended, with the store after it. -/
structure Carried where
  outcome : Outcome
  records : List Record
  store : Store

/-- Carries out a cycle on the store of a database. -/
def carryOut (cycler : Cycler) (database : Opened) (now : Instant) : Carried :=
  let access := Rehearsal.through (if database.fixed then Cycle.Fixed.data else Cycle.Direct.data)
  let (outcome, stage) :=
    (cycler.run Rehearsal.host access Rehearsal.rounds).run (Stage.open database.store now)
  ⟨outcome, stage.records, stage.store⟩

/-- The events after a cycle, and the exit code. -/
def conclude (domain : DataDomain) : Outcome → List Event × Nat
  | .completed report =>
    let failed := report.steps.filterMap fun step =>
      step.error.map fun error => Event.stepUnfinished step.name error
    (.runCompleted report.domain report.totalDeleted report.elapsed :: failed, 0)
  | .aborted report reason => ([.runAborted report.domain report.totalDeleted reason], 0)
  | .failed error => ([.runFailed error.message domain], 1)
  | .cutoffOutOfRange => ([], 101)
  | .unfinished => ([], 101)

/-- A record outside of any cycle. -/
def plain (event : Event) : Record := ⟨event, none⟩

/-- What was logged, the exit code, what was said besides, and the files after the run. -/
structure Course where
  records : List Record
  exit : Nat
  stderr : List String := []
  files : Files

/-- Connects to the database and carries the cycle out; `before` was logged already. -/
def cycleDatabase (s : Surroundings) (settings : Settings) (cycler : Cycler)
    (before : List Record) : Course :=
  match Connection.connect settings.database s.environment s.files with
  | .error .deadlineOutOfRange => ⟨before, 101, [deadlineOutOfRange], s.files⟩
  | .error (.failed e) => ⟨before ++ [plain (.connectionFailed e)], 1, [], s.files⟩
  | .ok database =>
    let opened := match settings.database with
      | .file file => [plain (.databaseOpened file.path)]
      | _ => []
    match Connection.health false with
    | .error e => ⟨before ++ opened ++ [plain (.healthCheckFailed e)], 1, [], database.files⟩
    | .ok () =>
      let carried := carryOut cycler database s.now
      let (events, exit) := conclude cycler.domain carried.outcome
      let records := before ++ opened ++ carried.records ++ events.map plain
      ⟨records, exit, if exit = 101 then [outOfRange] else [], database.after carried.store⟩

def course (s : Surroundings) (request : Request) (configPath : String)
    (settings : Settings) : Course :=
  let domain := request.domain.getD default
  let given := request.given
  let options := ⟨given.days, given.chunkSize, given.sleepTime⟩
  let notices := (Cycler.notices domain options).map plain
  match Cycler.make domain options settings.retention (s.environment "SITE_HOSTNAME") with
  | .error e => ⟨notices ++ [plain (.optionsRefused e.message domain)], 1, [], s.files⟩
  | .ok cycler =>
    let chosen := plain (.intervalChosen configPath cycler.policy.days)
    cycleDatabase s settings cycler (notices ++ [chosen])

def runRequest (s : Surroundings) (request : Request) : Result :=
  let configPath := request.given.config.getD defaultConfig
  match Settings.ofFile s.environment configPath (s.files.content configPath) with
  | .error problem =>
    { exit := 1, files := s.files
      stderr := [s!"Failed to load config from {configPath}: {problem.message}"] }
  | .ok settings =>
    let logging := settings.observability.logging
    match Filter.ofSettings logging request.given.debug (s.environment "RUST_LOG") with
    | .error _ => { exit := 101, files := s.files, stderr := [brokenFilter] }
    | .ok filter =>
      let course := course s request configPath settings
      { exit := course.exit, files := course.files
        stdout := (filter.apply course.records).flatMap (·.lines logging s.now)
        stderr := course.stderr }

def run (s : Surroundings) (words : List String) : Result :=
  match parse words with
  | .error (.help topic) => { exit := 0, stdout := helpLines topic, files := s.files }
  | .error .version => { exit := 0, stdout := [versionText], files := s.files }
  | .error (.refused error) => { exit := 2, stderr := refusalLines error, files := s.files }
  | .ok request => runRequest s request

end Retention.CommandLine
