import Retention.Proofs.DistinctKeys
import Retention.Proofs.Readers

/-!
# Settings are as they are written

A misspelled key that is passed over, or a number that is cut off, deletes data on a schedule that
nobody asked for. Neither happens: a document that is accepted holds nothing but the fields of its
sections with values of their types (`Shape`), and each setting is what the document has in its
place, or the documented default where it has nothing (`AsWritten`). The one exception is a database
of type `none`, beside whose type anything may stand.

Sections are tables here, and names stand by themselves (`Plain`): the other forms in which they may
be written are left out. Each section is followed on its own, from its reader alone; then they are
put together along the document.
-/

namespace Retention.Settings

open Log (Level)
open Toml (Value Entries)

/-! ### What a document may hold -/

namespace Shape

def Word (bits : Nat) (v : Value) : Prop := ∃ n : Nat, n < 2 ^ bits ∧ v = .integer n

def Truth (v : Value) : Prop := ∃ b, v = .boolean b

def Text (v : Value) : Prop := ∃ text, v = .string text

def Texts (v : Value) : Prop := ∃ texts : List String, v = .array (texts.map .string)

def OneOf (names : List String) (v : Value) : Prop := ∃ name ∈ names, v = .string name

def Table (P : Entries → Prop) (v : Value) : Prop := ∃ given, v = .table given ∧ P given

/-- The fields of a section, each with what its values are. -/
abbrev Fields := List (String × (Value → Prop))

/-- Each key is the name of a field, and the value under it is one of that field; no key stands
twice. -/
def Section (fields : Fields) (given : Entries) : Prop :=
  (given.map (·.1)).Nodup ∧ ∀ key v, (key, v) ∈ given → ∃ fits, (key, fits) ∈ fields ∧ fits v

def jobs : Fields :=
  [("days", Word 32), ("chunk_size", Word 32), ("sleep_time_secs", Word 64),
    ("max_runtime_hours", Word 64)]

def performance : Fields :=
  [("days", Word 32), ("chunk_size", Word 32), ("max_runtime_hours", Word 64),
    ("scoped_repository", Text), ("scoped_days", Word 32), ("floor_exempt_hosts", Texts)]

def retention : Fields :=
  [("jobs", Table (Section jobs)), ("performance", Table (Section performance))]

def logging : Fields :=
  [("level", OneOf ["trace", "debug", "info", "warn", "error"]),
    ("format", OneOf ["pretty", "compact", "json"]), ("timestamps", Truth), ("file_line", Truth),
    ("filter", Text)]

def observability : Fields := [("logging", Table (Section logging))]

def file : Fields :=
  [("path", Text), ("create_if_missing", Truth), ("wal_mode", Truth), ("busy_timeout_ms", Word 64)]

def server : Fields :=
  [("url", Text), ("connect_timeout_secs", Word 64), ("lock_timeout_ms", Word 64),
    ("ssl_mode", OneOf ["disable", "prefer", "require", "verify_ca", "verify_full"])]

/-- The type decides which keys there may be beside it. -/
inductive Database (given : Entries) : Prop
  | none (distinct : (given.map (·.1)).Nodup) (type : ("type", .string "none") ∈ given)
  | file (fields : Section (("type", (· = .string "sqlite")) :: file) given)
  | server (fields : Section (("type", (· = .string "postgres")) :: server) given)

def settings : Fields :=
  [("database", Table Database), ("observability", Table (Section observability)),
    ("retention", Table (Section retention))]

end Shape

/-! ### What the settings say -/

/-- The value under the key, or the default where there is none. -/
def valueAt (given : Entries) (key : String) (default : Value) : Value :=
  (given.lookup key).getD default

/-- The section under the key, which is empty where there is none. -/
def sectionAt (given : Entries) (key : String) : Entries :=
  match given.lookup key with
  | some (.table inner) => inner
  | _ => []

structure JobRetention.AsWritten (given : Entries) (r : JobRetention) : Prop where
  days : valueAt given "days" (.integer 120) = .integer r.days.toNat
  chunk_size : valueAt given "chunk_size" (.integer 100) = .integer r.chunkSize.toNat
  sleep_time_secs : valueAt given "sleep_time_secs" (.integer 0) = .integer r.pauseSeconds.toNat
  max_runtime_hours :
    valueAt given "max_runtime_hours" (.integer 0) = .integer r.maxRuntimeHours.toNat

structure PerformanceRetention.AsWritten (given : Entries) (r : PerformanceRetention) : Prop where
  days : valueAt given "days" (.integer 365) = .integer r.days.toNat
  chunk_size : valueAt given "chunk_size" (.integer 100) = .integer r.chunkSize.toNat
  max_runtime_hours :
    valueAt given "max_runtime_hours" (.integer 23) = .integer r.maxRuntimeHours.toNat
  scoped_repository :
    valueAt given "scoped_repository" (.string "try") = .string r.scopedRepository
  scoped_days : valueAt given "scoped_days" (.integer 28) = .integer r.scopedDays.toNat
  floor_exempt_hosts :
    valueAt given "floor_exempt_hosts" (.array []) = .array (r.floorExemptHosts.map .string)

structure RetentionSettings.AsWritten (given : Entries) (r : RetentionSettings) : Prop where
  jobs : r.jobs.AsWritten (sectionAt given "jobs")
  performance : r.performance.AsWritten (sectionAt given "performance")

def levelName : Level → String
  | .trace => "trace"
  | .debug => "debug"
  | .info => "info"
  | .warn => "warn"
  | .error => "error"

def layoutName : Layout → String
  | .pretty => "pretty"
  | .compact => "compact"
  | .json => "json"

theorem named_level : ∀ e ∈ levelNames, e.1 = levelName e.2 := by decide

theorem named_layout : ∀ e ∈ layoutNames, e.1 = layoutName e.2 := by decide

structure LoggingSettings.AsWritten (given : Entries) (s : LoggingSettings) : Prop where
  level : valueAt given "level" (.string "info") = .string (levelName s.level)
  format : valueAt given "format" (.string "compact") = .string (layoutName s.layout)
  timestamps : valueAt given "timestamps" (.boolean true) = .boolean s.timestamps
  file_line : valueAt given "file_line" (.boolean false) = .boolean s.places
  filter : given.lookup "filter" = s.filter.map .string

structure ObservabilitySettings.AsWritten (given : Entries) (s : ObservabilitySettings) : Prop where
  logging : s.logging.AsWritten (sectionAt given "logging")

structure FileSettings.AsWritten (given : Entries) (s : FileSettings) : Prop where
  path : given.lookup "path" = some (.string s.path)
  create_if_missing :
    valueAt given "create_if_missing" (.boolean false) = .boolean s.createIfMissing
  wal_mode : valueAt given "wal_mode" (.boolean true) = .boolean s.writeAhead
  busy_timeout_ms :
    valueAt given "busy_timeout_ms" (.integer 5000) = .integer s.busyTimeoutMilliseconds.toNat

def encryptionName : Encryption → String
  | .disable => "disable"
  | .prefer => "prefer"
  | .require => "require"
  | .verifyAuthority => "verify_ca"
  | .verifyFull => "verify_full"

theorem named_encryption : ∀ e ∈ encryptionNames, e.1 = encryptionName e.2 := by decide

structure ServerSettings.AsWritten (given : Entries) (s : ServerSettings) : Prop where
  url : given.lookup "url" = some (.string s.url)
  connect_timeout_secs :
    valueAt given "connect_timeout_secs" (.integer 10) = .integer s.connectTimeoutSeconds.toNat
  lock_timeout_ms :
    valueAt given "lock_timeout_ms" (.integer 30000) = .integer s.lockTimeoutMilliseconds.toNat
  ssl_mode : valueAt given "ssl_mode" (.string "prefer") = .string (encryptionName s.encryption)

/-- Where there is no such section, the database is none. -/
inductive DatabaseSettings.AsWritten (given : Entries) : DatabaseSettings → Prop
  | none (type : valueAt given "type" (.string "none") = .string "none") : AsWritten given .none
  | file {s : FileSettings} (type : given.lookup "type" = some (.string "sqlite"))
      (fields : s.AsWritten given) : AsWritten given (.file s)
  | server {s : ServerSettings} (type : given.lookup "type" = some (.string "postgres"))
      (fields : s.AsWritten given) : AsWritten given (.server s)

/-- Every setting is what stands in its place in the document, or its default. -/
structure AsWritten (given : Entries) (s : Settings) : Prop where
  database : s.database.AsWritten (sectionAt given "database")
  observability : s.observability.AsWritten (sectionAt given "observability")
  retention : s.retention.AsWritten (sectionAt given "retention")

/-- No section is written as an array, and no name as a table. -/
structure Plain (given : Entries) : Prop where
  database : ∀ v ∈ given.lookup "database", v.isArray = false
  observability : ∀ v ∈ given.lookup "observability", v.isArray = false
  logging : ∀ v ∈ (sectionAt given "observability").lookup "logging", v.isArray = false
  retention : ∀ v ∈ given.lookup "retention", v.isArray = false
  jobs : ∀ v ∈ (sectionAt given "retention").lookup "jobs", v.isArray = false
  performance : ∀ v ∈ (sectionAt given "retention").lookup "performance", v.isArray = false
  level : ∀ v ∈ (sectionAt (sectionAt given "observability") "logging").lookup "level",
    v.isTable = false
  format : ∀ v ∈ (sectionAt (sectionAt given "observability") "logging").lookup "format",
    v.isTable = false
  ssl_mode : ∀ v ∈ (sectionAt given "database").lookup "ssl_mode", v.isTable = false

/-! ### One field -/

section Fields

variable {given : Entries} {key : String} {α : Type} {read : Reader α} {default a : α}

theorem valueAt_of_optional {w w' : Value} (h : optional given key read default = .ok a)
    (found : ∀ v, given.lookup key = some v → read v = .ok a → v = w)
    (missing : a = default → w' = w) : valueAt given key w' = w := by
  rcases optional_ok h with ⟨v, hv, hread⟩ | ⟨none, same⟩
  · rw [valueAt, hv, Option.getD_some, found v hv hread]
  · rw [valueAt, none, Option.getD_none, missing same]

/-- What passes the check of the field is of the shape. -/
def Fits (given : Entries) (f : Field) (shape : String × (Value → Prop)) : Prop :=
  f.name = shape.1 ∧ ∀ v, given.lookup f.name = some v → f.check v = .ok () → shape.2 v

theorem fits_field {fits : Value → Prop}
    (h : ∀ v a, given.lookup key = some v → read v = .ok a → fits v) :
    Fits given (field key read) (key, fits) := by
  refine ⟨rfl, fun v hv checked => ?_⟩
  change (read v).map _ = _ at checked
  cases hread : read v with
  | error => rw [hread] at checked; cases checked
  | ok a => exact h v a hv hread

section Nested

variable {P : Entries → Prop} {Written : Entries → α → Prop}
  (ok : ∀ v a, given.lookup key = some v → read v = .ok a →
    ∃ inner, v = .table inner ∧ P inner ∧ Written inner a)
include ok

theorem fits_table : Fits given (field key read) (key, Shape.Table P) :=
  fits_field fun v a hv h => by
    obtain ⟨inner, same, shaped, -⟩ := ok v a hv h
    exact ⟨inner, same, shaped⟩

theorem written_of_optional (h : optional given key read default = .ok a)
    (missing : Written [] default) : Written (sectionAt given key) a := by
  rcases optional_ok h with ⟨v, hv, hread⟩ | ⟨none, rfl⟩
  · obtain ⟨inner, rfl, -, written⟩ := ok v a hv hread
    simpa only [sectionAt, hv] using written
  · simpa only [sectionAt, none] using missing

end Nested

theorem section_of_checkFields {fields : List Field} {shape : Shape.Fields}
    (distinct : (given.map (·.1)).Nodup) (checked : checkFields fields given = .ok ())
    (fits : List.Forall₂ (Fits given) fields shape) : Shape.Section shape given := by
  refine ⟨distinct, fun key v he => ?_⟩
  obtain ⟨f, hf, rfl, passed⟩ := checkFields_ok checked he
  have shaped : ∃ s ∈ shape, Fits given f s := by
    clear checked distinct
    induction fits with
    | nil => cases hf
    | cons first _ ih =>
      rcases List.mem_cons.1 hf with rfl | hf
      · exact ⟨_, List.mem_cons_self, first⟩
      · obtain ⟨s, hs, hfit⟩ := ih hf
        exact ⟨s, List.mem_cons_of_mem _ hs, hfit⟩
  obtain ⟨⟨name, fit⟩, hs, same, holds⟩ := shaped
  cases same
  exact ⟨fit, hs, holds v (lookup_of_mem distinct he) passed⟩

end Fields

section Kinds

variable {given : Entries} {key : String}

theorem fits_word32 : Fits given (field key word32) (key, Shape.Word 32) :=
  fits_field fun _ n _ h => ⟨n.toNat, n.toNat_lt, word32_ok h⟩

theorem fits_word64 : Fits given (field key word64) (key, Shape.Word 64) :=
  fits_field fun _ n _ h => ⟨n.toNat, n.toNat_lt, word64_ok h⟩

theorem fits_boolean : Fits given (field key boolean) (key, Shape.Truth) :=
  fits_field fun _ b _ h => ⟨b, boolean_ok h⟩

theorem fits_string : Fits given (field key string) (key, Shape.Text) :=
  fits_field fun _ text _ h => ⟨text, string_ok h⟩

theorem fits_strings : Fits given (field key strings) (key, Shape.Texts) :=
  fits_field fun _ texts _ h => ⟨texts, strings_ok h⟩

theorem valueAt_word32 {default n : UInt32} (h : optional given key word32 default = .ok n) :
    valueAt given key (.integer default.toNat) = .integer n.toNat :=
  valueAt_of_optional h (fun _ _ => word32_ok) (by rintro rfl; rfl)

theorem valueAt_word64 {default n : UInt64} (h : optional given key word64 default = .ok n) :
    valueAt given key (.integer default.toNat) = .integer n.toNat :=
  valueAt_of_optional h (fun _ _ => word64_ok) (by rintro rfl; rfl)

theorem valueAt_boolean {default b : Bool} (h : optional given key boolean default = .ok b) :
    valueAt given key (.boolean default) = .boolean b :=
  valueAt_of_optional h (fun _ _ => boolean_ok) (by rintro rfl; rfl)

theorem valueAt_string {default text : String}
    (h : optional given key string default = .ok text) :
    valueAt given key (.string default) = .string text :=
  valueAt_of_optional h (fun _ _ => string_ok) (by rintro rfl; rfl)

theorem valueAt_strings {default texts : List String}
    (h : optional given key strings default = .ok texts) :
    valueAt given key (.array (default.map .string)) = .array (texts.map .string) :=
  valueAt_of_optional h (fun _ _ => strings_ok) (by rintro rfl; rfl)

section Names

variable {α : Type} {names : List (String × α)} {read : Reader α}
  (ok : ∀ v a, given.lookup key = some v → read v = .ok a →
    ∃ name, v = .string name ∧ (name, a) ∈ names)
include ok

theorem fits_name : Fits given (field key read) (key, Shape.OneOf (names.map (·.1))) :=
  fits_field fun v a hv h => by
    obtain ⟨name, same, member⟩ := ok v a hv h
    exact ⟨name, List.mem_map_of_mem member, same⟩

theorem valueAt_name {nameOf : α → String} (named : ∀ e ∈ names, e.1 = nameOf e.2)
    {default a : α} (h : optional given key read default = .ok a) :
    valueAt given key (.string (nameOf default)) = .string (nameOf a) := by
  refine valueAt_of_optional h (fun v hv read => ?_) (by rintro rfl; rfl)
  obtain ⟨name, rfl, member⟩ := ok v a hv read
  exact congrArg Value.string (named _ member)

end Names

end Kinds

/-! ### Sections -/

section Sections

variable {v : Value}

theorem JobRetention.read_ok {r : JobRetention} (accepted : read v = .ok r)
    (noArray : v.isArray = false) (ascending : v.Ascending) :
    ∃ given, v = .table given ∧ Shape.Section Shape.jobs given ∧ r.AsWritten given := by
  obtain ⟨given, taken, h⟩ := ok_of_bind accepted
  obtain ⟨rfl, checked⟩ := section?_ok taken noArray (by decide)
  obtain ⟨_, days, h⟩ := ok_of_bind h
  obtain ⟨_, chunk_size, h⟩ := ok_of_bind h
  obtain ⟨_, sleep_time_secs, h⟩ := ok_of_bind h
  obtain ⟨_, max_runtime_hours, h⟩ := ok_of_bind h
  cases h
  refine ⟨given, rfl, section_of_checkFields ascending.nodup checked ?_, ?_⟩
  · exact .cons fits_word32 (.cons fits_word32 (.cons fits_word64 (.cons fits_word64 .nil)))
  · exact ⟨valueAt_word32 days, valueAt_word32 chunk_size, valueAt_word64 sleep_time_secs,
      valueAt_word64 max_runtime_hours⟩

theorem PerformanceRetention.read_ok {r : PerformanceRetention} (accepted : read v = .ok r)
    (noArray : v.isArray = false) (ascending : v.Ascending) :
    ∃ given, v = .table given ∧ Shape.Section Shape.performance given ∧ r.AsWritten given := by
  obtain ⟨given, taken, h⟩ := ok_of_bind accepted
  obtain ⟨rfl, checked⟩ := section?_ok taken noArray (by decide)
  obtain ⟨_, days, h⟩ := ok_of_bind h
  obtain ⟨_, chunk_size, h⟩ := ok_of_bind h
  obtain ⟨_, max_runtime_hours, h⟩ := ok_of_bind h
  obtain ⟨_, scoped_repository, h⟩ := ok_of_bind h
  obtain ⟨_, scoped_days, h⟩ := ok_of_bind h
  obtain ⟨_, floor_exempt_hosts, h⟩ := ok_of_bind h
  cases h
  refine ⟨given, rfl, section_of_checkFields ascending.nodup checked ?_, ?_⟩
  · exact .cons fits_word32 (.cons fits_word32 (.cons fits_word64 (.cons fits_string
      (.cons fits_word32 (.cons fits_strings .nil)))))
  · exact ⟨valueAt_word32 days, valueAt_word32 chunk_size, valueAt_word64 max_runtime_hours,
      valueAt_string scoped_repository, valueAt_word32 scoped_days,
      valueAt_strings floor_exempt_hosts⟩

theorem ascending_of_lookup {given : Entries} {key : String}
    (ascending : (Value.table given).Ascending) (h : given.lookup key = some v) : v.Ascending :=
  (Toml.ascending_table.1 ascending).2 _ (mem_of_lookup h)

theorem RetentionSettings.read_ok {r : RetentionSettings} (accepted : read v = .ok r)
    (noArray : v.isArray = false) (ascending : v.Ascending)
    (plain : ∀ given, v = .table given → ∀ key ∈ ["jobs", "performance"],
      ∀ w ∈ given.lookup key, w.isArray = false) :
    ∃ given, v = .table given ∧ Shape.Section Shape.retention given ∧ r.AsWritten given := by
  obtain ⟨given, taken, h⟩ := ok_of_bind accepted
  obtain ⟨rfl, checked⟩ := section?_ok taken noArray (by decide)
  obtain ⟨_, jobs, h⟩ := ok_of_bind h
  obtain ⟨_, performance, h⟩ := ok_of_bind h
  cases h
  have jobs_ok (w : Value) (r : JobRetention) (hw : given.lookup "jobs" = some w)
      (h : JobRetention.read w = .ok r) :=
    JobRetention.read_ok h (plain _ rfl _ (by simp) w hw) (ascending_of_lookup ascending hw)
  have performance_ok (w : Value) (r : PerformanceRetention)
      (hw : given.lookup "performance" = some w) (h : PerformanceRetention.read w = .ok r) :=
    PerformanceRetention.read_ok h (plain _ rfl _ (by simp) w hw) (ascending_of_lookup ascending hw)
  refine ⟨given, rfl, section_of_checkFields ascending.nodup checked ?_, ?_, ?_⟩
  · exact .cons (fits_table jobs_ok) (.cons (fits_table performance_ok) .nil)
  · exact written_of_optional jobs_ok jobs (by constructor <;> rfl)
  · exact written_of_optional performance_ok performance (by constructor <;> rfl)

/-- The section on logging holds two fields with one of several names each, two switches and a text,
as they are written or by default. -/
theorem LoggingSettings.read_ok {s : LoggingSettings} (accepted : read v = .ok s)
    (noArray : v.isArray = false) (ascending : v.Ascending)
    (plain : ∀ given, v = .table given → ∀ key ∈ ["level", "format"],
      ∀ w ∈ given.lookup key, w.isTable = false) :
    ∃ given, v = .table given ∧ Shape.Section Shape.logging given ∧ s.AsWritten given := by
  obtain ⟨given, taken, h⟩ := ok_of_bind accepted
  obtain ⟨rfl, checked⟩ := section?_ok taken noArray (by decide)
  obtain ⟨_, level, h⟩ := ok_of_bind h
  obtain ⟨_, format, h⟩ := ok_of_bind h
  obtain ⟨_, timestamps, h⟩ := ok_of_bind h
  obtain ⟨_, file_line, h⟩ := ok_of_bind h
  obtain ⟨_, filter, h⟩ := ok_of_bind h
  cases h
  have level_ok (w : Value) (a : Level) (hw : given.lookup "level" = some w)
      (h : choice levelNames w = .ok a) := choice_ok h (plain _ rfl _ (by simp) w hw)
  have format_ok (w : Value) (a : Layout) (hw : given.lookup "format" = some w)
      (h : choice layoutNames w = .ok a) := choice_ok h (plain _ rfl _ (by simp) w hw)
  refine ⟨given, rfl, section_of_checkFields ascending.nodup checked ?_, ?_⟩
  · exact .cons (fits_name level_ok) (.cons (fits_name format_ok)
      (.cons fits_boolean (.cons fits_boolean (.cons fits_string .nil))))
  · refine ⟨valueAt_name level_ok named_level level, valueAt_name format_ok named_layout format,
      valueAt_boolean timestamps, valueAt_boolean file_line, ?_⟩
    rcases optional_ok filter with ⟨w, hw, h⟩ | ⟨none, rfl⟩
    · cases read : string w with
      | error => rw [read] at h; cases h
      | ok text =>
        rw [read] at h
        cases h
        rw [hw, string_ok read]
        rfl
    · exact none

theorem ObservabilitySettings.read_ok {s : ObservabilitySettings} (accepted : read v = .ok s)
    (noArray : v.isArray = false) (ascending : v.Ascending)
    (plain : ∀ given, v = .table given → ∀ w ∈ given.lookup "logging", w.isArray = false)
    (plain' : ∀ given, v = .table given → ∀ key ∈ ["level", "format"],
      ∀ w ∈ (sectionAt given "logging").lookup key, w.isTable = false) :
    ∃ given, v = .table given ∧ Shape.Section Shape.observability given ∧ s.AsWritten given := by
  obtain ⟨given, taken, h⟩ := ok_of_bind accepted
  obtain ⟨rfl, checked⟩ := section?_ok taken noArray (by decide)
  obtain ⟨_, logging, h⟩ := ok_of_bind h
  cases h
  have logging_ok (w : Value) (s : LoggingSettings) (hw : given.lookup "logging" = some w)
      (h : LoggingSettings.read w = .ok s) :=
    LoggingSettings.read_ok h (plain _ rfl w hw) (ascending_of_lookup ascending hw) (by
      rintro inner rfl
      simpa only [sectionAt, hw] using plain' _ rfl)
  refine ⟨given, rfl, section_of_checkFields ascending.nodup checked ?_, ⟨?_⟩⟩
  · exact .cons (fits_table logging_ok) .nil
  · exact written_of_optional logging_ok logging (by constructor <;> rfl)

theorem FileSettings.ofEntries_ok {missing : Misfit} {given : Entries} {s : FileSettings}
    (h : ofEntries missing given = .ok s) (distinct : (given.map (·.1)).Nodup) :
    Shape.Section Shape.file given ∧ s.AsWritten given := by
  obtain ⟨_, checked, h⟩ := ok_of_bind h
  obtain ⟨_, path, h⟩ := ok_of_bind h
  obtain ⟨_, create_if_missing, h⟩ := ok_of_bind h
  obtain ⟨_, wal_mode, h⟩ := ok_of_bind h
  obtain ⟨_, busy_timeout_ms, h⟩ := ok_of_bind h
  cases h
  obtain ⟨v, hv, path⟩ := required_ok path
  refine ⟨section_of_checkFields distinct checked ?_, ?_⟩
  · exact .cons fits_string (.cons fits_boolean (.cons fits_boolean (.cons fits_word64 .nil)))
  · exact ⟨by rw [hv, string_ok path], valueAt_boolean create_if_missing, valueAt_boolean wal_mode,
      valueAt_word64 busy_timeout_ms⟩

theorem ServerSettings.ofEntries_ok {missing : Misfit} {given : Entries} {s : ServerSettings}
    (h : ofEntries missing given = .ok s) (distinct : (given.map (·.1)).Nodup)
    (plain : ∀ v ∈ given.lookup "ssl_mode", v.isTable = false) :
    Shape.Section Shape.server given ∧ s.AsWritten given := by
  obtain ⟨_, checked, h⟩ := ok_of_bind h
  obtain ⟨_, url, h⟩ := ok_of_bind h
  obtain ⟨_, connect_timeout_secs, h⟩ := ok_of_bind h
  obtain ⟨_, lock_timeout_ms, h⟩ := ok_of_bind h
  obtain ⟨_, ssl_mode, h⟩ := ok_of_bind h
  cases h
  obtain ⟨v, hv, url⟩ := required_ok url
  have mode_ok (w : Value) (a : Encryption) (hw : given.lookup "ssl_mode" = some w)
      (h : encryptionMode w = .ok a) := encryptionMode_ok h (plain w hw)
  refine ⟨section_of_checkFields distinct checked ?_, ?_⟩
  · exact .cons fits_string (.cons fits_word64 (.cons fits_word64 (.cons (fits_name mode_ok) .nil)))
  · exact ⟨by rw [hv, string_ok url], valueAt_word64 connect_timeout_secs,
      valueAt_word64 lock_timeout_ms, valueAt_name mode_ok named_encryption ssl_mode⟩

theorem valueAt_untyped {given : Entries} {key : String} {w : Value} (h : key ≠ "type") :
    valueAt given key w = valueAt (given.filter (·.1 != "type")) key w := by
  rw [valueAt, valueAt, lookup_untyped h]

theorem FileSettings.AsWritten.typed {given : Entries} {s : FileSettings}
    (h : s.AsWritten (given.filter (·.1 != "type"))) : s.AsWritten given where
  path := (lookup_untyped (by decide)).symm.trans h.path
  create_if_missing := (valueAt_untyped (by decide)).trans h.create_if_missing
  wal_mode := (valueAt_untyped (by decide)).trans h.wal_mode
  busy_timeout_ms := (valueAt_untyped (by decide)).trans h.busy_timeout_ms

theorem ServerSettings.AsWritten.typed {given : Entries} {s : ServerSettings}
    (h : s.AsWritten (given.filter (·.1 != "type"))) : s.AsWritten given where
  url := (lookup_untyped (by decide)).symm.trans h.url
  connect_timeout_secs := (valueAt_untyped (by decide)).trans h.connect_timeout_secs
  lock_timeout_ms := (valueAt_untyped (by decide)).trans h.lock_timeout_ms
  ssl_mode := (valueAt_untyped (by decide)).trans h.ssl_mode

/-- The fields beside the type, and the type. -/
theorem section_cons_type {fields : Shape.Fields} {fits : Value → Prop} {given : Entries}
    (distinct : (given.map (·.1)).Nodup)
    (rest : Shape.Section fields (given.filter (·.1 != "type")))
    (found : given.lookup "type" = some v) (h : fits v) :
    Shape.Section (("type", fits) :: fields) given := by
  refine ⟨distinct, fun key w he => ?_⟩
  by_cases here : key = "type"
  · subst here
    cases found.symm.trans (lookup_of_mem distinct he)
    exact ⟨fits, List.mem_cons_self, h⟩
  · obtain ⟨fits', member, holds⟩ :=
      rest.2 key w (List.mem_filter.2 ⟨he, by simpa using here⟩)
    exact ⟨fits', List.mem_cons_of_mem _ member, holds⟩

/-- A section that is read as the settings of a database names one of the three types, and the
fields beside the name are those of that type; the type `none` asks nothing of them. -/
theorem DatabaseSettings.ofTable_ok {given : Entries} {d : DatabaseSettings}
    (h : ofTable given = .ok d) (distinct : (given.map (·.1)).Nodup)
    (plain : ∀ w ∈ given.lookup "ssl_mode", w.isTable = false) :
    Shape.Database given ∧ d.AsWritten given := by
  obtain ⟨kind, typed, h⟩ := ok_of_bind h
  obtain ⟨v, found, typed⟩ : ∃ v, given.lookup "type" = some v ∧ databaseKind v = .ok kind := by
    rcases kindOf_ok distinct typed with typed | ⟨-, never⟩
    · exact typed
    · cases never
  obtain ⟨name, rfl, member⟩ := databaseKind_ok typed
  -- The type is looked for in the whole section, the fields in what is left without it.
  have distinct' : ((given.filter (·.1 != "type")).map (·.1)).Nodup :=
    distinct.sublist (List.filter_sublist.map _)
  cases kind with
  | none =>
    cases h
    obtain rfl : name = "none" := by simpa [databaseKindNames] using member
    refine ⟨.none distinct (mem_of_lookup found), .none ?_⟩
    rw [valueAt, found, Option.getD_some]
  | file =>
    obtain ⟨s, read, h⟩ := ok_of_bind h
    cases h
    obtain rfl : name = "sqlite" := by simpa [databaseKindNames] using member
    obtain ⟨shaped, written⟩ := FileSettings.ofEntries_ok read distinct'
    exact ⟨.file (section_cons_type distinct shaped found rfl), .file found written.typed⟩
  | server =>
    obtain ⟨s, read, h⟩ := ok_of_bind h
    cases h
    obtain rfl : name = "postgres" := by simpa [databaseKindNames] using member
    obtain ⟨shaped, written⟩ := ServerSettings.ofEntries_ok read distinct'
      (by simpa only [lookup_untyped (show "ssl_mode" ≠ "type" by decide)] using plain)
    exact ⟨.server (section_cons_type distinct shaped found rfl), .server found written.typed⟩

theorem DatabaseSettings.read_ok {d : DatabaseSettings} (accepted : read v = .ok d)
    (noArray : v.isArray = false) (ascending : v.Ascending)
    (plain : ∀ given, v = .table given → ∀ w ∈ given.lookup "ssl_mode", w.isTable = false) :
    ∃ given, v = .table given ∧ Shape.Database given ∧ d.AsWritten given := by
  cases v with
  | table given => exact ⟨given, rfl, ofTable_ok accepted ascending.nodup (plain _ rfl)⟩
  | array => cases noArray
  | moment => cases accepted
  | _ => cases accepted

end Sections

/-! ### Documents -/

section Documents

variable {given : Entries} {s : Settings}

theorem ofEntries_of_ofDocument (h : ofDocument given = .ok s) : ofEntries given = .ok s := by
  obtain ⟨s', read, h⟩ := ok_of_bind h
  have same : s' = s := by
    rcases free : s'.contradiction? with _ | message <;> simp only [free] at h <;> cases h
    rfl
  subst same
  obtain ⟨_, -, read⟩ := ok_of_bind (ok_of_mapError read)
  exact read

theorem sectionAt_of_lookup {key : String} {inner : Entries}
    (h : given.lookup key = some (.table inner)) : sectionAt given key = inner := by
  rw [sectionAt, h]

/-- The settings of a document hold its sections as they are written, or the defaults where one is
absent. The reader of each section has its own lemma, which needs to know of the values inside what
is known of the document. -/
theorem ofEntries_ok (accepted : ofEntries given = .ok s) (plain : Plain given)
    (ascending : (Value.table given).Ascending) :
    Shape.Section Shape.settings given ∧ s.AsWritten given := by
  obtain ⟨_, checked, h⟩ := ok_of_bind accepted
  obtain ⟨_, database, h⟩ := ok_of_bind h
  obtain ⟨_, observability, h⟩ := ok_of_bind h
  obtain ⟨_, retention, h⟩ := ok_of_bind h
  cases h
  have database_ok (v : Value) (d : DatabaseSettings) (hv : given.lookup "database" = some v)
      (h : DatabaseSettings.read v = .ok d) :=
    DatabaseSettings.read_ok h (plain.database v hv) (ascending_of_lookup ascending hv) (by
      rintro inner rfl
      exact sectionAt_of_lookup hv ▸ plain.ssl_mode)
  have observability_ok (v : Value) (o : ObservabilitySettings)
      (hv : given.lookup "observability" = some v) (h : ObservabilitySettings.read v = .ok o) :=
    ObservabilitySettings.read_ok h (plain.observability v hv) (ascending_of_lookup ascending hv)
      (by
        rintro inner rfl
        exact sectionAt_of_lookup hv ▸ plain.logging)
      (by
        rintro inner rfl key member
        have inside := sectionAt_of_lookup hv
        rcases List.mem_pair.1 member with rfl | rfl
        · exact inside ▸ plain.level
        · exact inside ▸ plain.format)
  have retention_ok (v : Value) (r : RetentionSettings)
      (hv : given.lookup "retention" = some v) (h : RetentionSettings.read v = .ok r) :=
    RetentionSettings.read_ok h (plain.retention v hv) (ascending_of_lookup ascending hv) (by
      rintro inner rfl key member
      have inside := sectionAt_of_lookup hv
      rcases List.mem_pair.1 member with rfl | rfl
      · exact inside ▸ plain.jobs
      · exact inside ▸ plain.performance)
  refine ⟨section_of_checkFields ascending.nodup checked ?_, ?_, ?_, ?_⟩
  · exact .cons (fits_table database_ok) (.cons (fits_table observability_ok)
      (.cons (fits_table retention_ok) .nil))
  · exact written_of_optional database_ok database (.none rfl)
  · exact written_of_optional observability_ok observability (by constructor; constructor <;> rfl)
  · exact written_of_optional retention_ok retention (by constructor <;> constructor <;> rfl)

/-- Whatever text is accepted, its document holds nothing but fields with values of their types, and
the settings are what it says; any other document is refused. -/
theorem ofText_as_written {env : Environment} {text expanded : String}
    (expands : expand env text = .ok expanded) (parses : Toml.parse? expanded = some given)
    (plain : Plain given) :
    (∀ s, ofText env text = .ok s → Shape.Section Shape.settings given ∧ s.AsWritten given) ∧
      (¬ Shape.Section Shape.settings given → ∃ problem, ofText env text = .error problem) := by
  have accepted (s : Settings) (h : ofText env text = .ok s) :
      Shape.Section Shape.settings given ∧ s.AsWritten given := by
    have read : ofDocument given = .ok s := by
      simpa [ofText, expands, document, parses, Except.mapError, bind, Except.bind] using h
    exact ofEntries_ok (ofEntries_of_ofDocument read) plain (Toml.parse?_ascending parses)
  refine ⟨accepted, fun misshapen => ?_⟩
  cases h : ofText env text with
  | error problem => exact ⟨problem, rfl⟩
  | ok s => exact absurd (accepted s h).1 misshapen

/-- Dotted keys, in an order of their own. -/
def serverText : String := "database.type='postgres'
database.url='u'
database.ssl_mode='verify_ca'"

def serverDocument : Entries :=
  [("database", .table
      [("ssl_mode", .string "verify_ca"), ("type", .string "postgres"), ("url", .string "u")])]

open Toml in
theorem parse?_serverText : parse? serverText = some serverDocument := by
  let typed : Members := [("type", .value (.string "postgres"))]
  let addressed : Members := typed ++ [("url", .value (.string "u"))]
  have type (n : Nat) (rest : List Char) :
      lines? (n + 1) [] [] ("database.type='postgres'\n".toList ++ rest) =
        lines? n [] [("database", .table .dotted typed)] rest := rfl
  have url (n : Nat) (rest : List Char) :
      lines? (n + 1) [] [("database", .table .dotted typed)] ("database.url='u'\n".toList ++ rest) =
        lines? n [] [("database", .table .dotted addressed)] rest := by
    -- that the keys `url` and `type` differ is not seen by unfolding
    have put : Members.within (Members.assign (.string "u") ["database", "url"]) []
        [("database", .table .dotted typed)] = some [("database", .table .dotted addressed)] := by
      cbv
    have assigned : assignment? (some ∘ skipBlanks) (value? maxDepth)
        ("database.url='u'\n".toList ++ rest) =
          some ((["database", "url"], .string "u"), '\n' :: rest) := rfl
    rw [lines?_assignment rfl assigned, put]
    rfl
  have ssl_mode (n : Nat) :
      lines? (n + 2) [] [("database", .table .dotted addressed)]
          "database.ssl_mode='verify_ca'".toList =
        some [("database", .table .dotted (("ssl_mode", .value (.string "verify_ca")) ::
          addressed))] := rfl
  have rounds : serverText.toList.length + 1 = 69 + 3 := rfl
  have unmarked : withoutMark serverText.toList = serverText.toList := rfl
  rw [parse?]
  simp only [unmarked, rounds]
  exact congrArg (Option.map toEntries) ((type 71 _).trans ((url 70 _).trans (ssl_mode 68)))

theorem ofText_as_written_server :
    Shape.Section Shape.settings serverDocument ∧ AsWritten serverDocument
      { database := .server { url := "u", encryption := .verifyAuthority } } := by
  have expands : expand (fun _ => none) serverText = .ok serverText := by decide +kernel
  have plain : Plain serverDocument := by
    constructor <;>
      simp [serverDocument, sectionAt, List.lookup_cons, Value.isArray, Value.isTable]
  refine (ofText_as_written expands parse?_serverText plain).1 _ ?_
  decide +kernel

end Documents

end Retention.Settings
