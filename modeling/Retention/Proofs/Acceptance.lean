import Mathlib.Control.Monad.Basic
import Mathlib.Data.Option.Basic
import Mathlib.Tactic.SplitIfs
import Retention.CommandLine.Arguments
import Retention.Cycle.Request
import Retention.Settings.Basic

/-!
# What is accepted is kept to

The range of a chunk size is looked at on the command line, in the settings and where a policy is
made, and a limit of hours is multiplied twice. Nothing that an earlier stage accepts is refused or
altered by a later one: settings that are read break no rule (`Settings.ofText_ok`), a request that
is parsed asks for no empty chunk (`CommandLine.parse_ok`), and of the two a cycle is made as they
say, unless the floor forbids it (`Cycler.make_jobs_eq`, `Cycler.make_performance_eq`).
-/

namespace Retention

section Results

variable {ε ε' α β : Type}

theorem ok_of_bind {x : Except ε α} {f : α → Except ε β} {b : β} (h : (x >>= f) = .ok b) :
    ∃ a, x = .ok a ∧ f a = .ok b := by
  cases x with
  | error => cases h
  | ok a => exact ⟨a, rfl, h⟩

theorem ok_of_mapError {x : Except ε α} {f : ε → ε'} {a : α} (h : x.mapError f = .ok a) :
    x = .ok a := by
  cases x with
  | error => cases h
  | ok => exact congrArg Except.ok (Except.ok.inj h)

end Results

namespace Settings

open Time (Duration)

/-- The settings break no rule of retention. -/
structure RetentionSettings.Sound (r : RetentionSettings) : Prop where
  jobs_chunk : 0 < r.jobs.chunkSize
  performance_chunk : 0 < r.performance.chunkSize
  jobs_hours : 3600 * r.jobs.maxRuntimeHours.toNat < UInt64.size
  performance_hours : 3600 * r.performance.maxRuntimeHours.toNat < UInt64.size
  scoped_named : r.performance.scopedRepository ≠ ""

/-- The file or the server, if there is one, has a name. -/
def DatabaseSettings.Named : DatabaseSettings → Prop
  | .none => True
  | .file settings => settings.path ≠ ""
  | .server settings => settings.url ≠ ""

theorem RetentionSettings.sound_of {r : RetentionSettings} (free : r.contradiction? = none) :
    r.Sound := by
  unfold contradiction? at free
  split_ifs at free with jobs performance jobs_hours performance_hours named
  exact ⟨UInt32.pos_iff_ne_zero.2 jobs, UInt32.pos_iff_ne_zero.2 performance,
    Nat.not_le.1 jobs_hours, Nat.not_le.1 performance_hours, named⟩

theorem DatabaseSettings.named_of {d : DatabaseSettings} (free : d.contradiction? = Option.none) :
    d.Named := by
  cases d with
  | none => trivial
  | file =>
    simp only [contradiction?] at free
    split_ifs at free with empty
    exact empty
  | server =>
    simp only [contradiction?] at free
    split_ifs at free with empty
    exact empty

theorem ofDocument_ok {entries : Toml.Entries} {s : Settings} (h : ofDocument entries = .ok s) :
    s.contradiction? = none := by
  obtain ⟨s', -, checked⟩ := ok_of_bind h
  rcases free : s'.contradiction? with _ | message <;> simp only [free] at checked
  · cases checked
    exact free
  · cases checked

/-- Settings that are read break no rule. -/
theorem ofText_ok {env : Environment} {text : String} {s : Settings} (h : ofText env text = .ok s) :
    s.database.Named ∧ s.retention.Sound := by
  obtain ⟨_, -, h⟩ := ok_of_bind h
  obtain ⟨_, -, h⟩ := ok_of_bind h
  obtain ⟨database, retention⟩ := (Option.orElse_eq_none _ _).1 (ofDocument_ok h)
  exact ⟨DatabaseSettings.named_of database, RetentionSettings.sound_of retention⟩

/-- The limit that so many hours set, to the second; zero hours set none. -/
structure IsLimit (h : UInt64) (limit : Option Duration) : Prop where
  none_iff : limit = none ↔ h = 0
  exact : h ≠ 0 → limit = some (.ofSeconds (3600 * h.toNat))

theorem isLimit_hours {h : UInt64} (fits : 3600 * h.toNat < UInt64.size) : IsLimit h (hours h) := by
  have whole : min (3600 * h.toNat) (UInt64.size - 1) = 3600 * h.toNat := by omega
  constructor
  · simp [hours]
  · intro some_hours
    rw [hours, if_neg some_hours, whole]

end Settings

namespace CommandLine

namespace Given

/-- No empty chunk is asked for. -/
def Ranged (g : Given) : Prop := ∀ n ∈ g.chunkSize, 0 < n

theorem ranged_nil : Ranged {} := nofun

theorem Ranged.override {outer inner : Given} (ho : outer.Ranged) (hi : inner.Ranged) :
    (outer.override inner).Ranged := by
  intro n hn
  rcases (Option.orElse_eq_some _ _ _).1 hn with hn | ⟨-, hn⟩
  · exact hi n hn
  · exact ho n hn

end Given

theorem numberWithin_ok {low high n : Int} {text : String}
    (h : numberWithin low high text = .ok n) : low ≤ n ∧ n ≤ high := by
  obtain ⟨m, -, h⟩ := ok_of_bind h
  split_ifs at h with within
  cases h
  exact within

/-- No value that is stored makes an empty chunk: the one for the size of chunks is a number within
bounds, and the others have nothing to do with it. -/
theorem Given.Ranged.store {g g' : Given} {option : ValueOption} {value : String} (hg : g.Ranged)
    (h : g.store option value = .ok g') : g'.Ranged := by
  simp only [Given.store] at h
  by_cases met : g.has option = true
  · rw [if_pos met] at h
    cases h
  rw [if_neg met] at h
  cases option with
  | config =>
    simp only at h
    split_ifs at h
    · cases h
    · cases h
      exact hg
  | days =>
    obtain ⟨_, -, h⟩ := ok_of_bind h
    cases h
    exact hg
  | chunkSize =>
    obtain ⟨n, within, h⟩ := ok_of_bind h
    obtain ⟨low, high⟩ := numberWithin_ok (ok_of_mapError within)
    cases h
    rintro _ ⟨⟩
    have small : n.toNat < UInt32.size := by omega
    rw [UInt32.lt_iff_toNat_lt, UInt32.toNat_ofNat_of_lt' small]
    change 0 < n.toNat
    omega
  | sleepTime =>
    obtain ⟨_, -, h⟩ := ok_of_bind h
    cases h
    exact hg

theorem Given.Ranged.resolve {g g' : Given} {pending : Pending} (hg : g.Ranged)
    (h : resolve pending g = .ok g') : g'.Ranged := by
  match pending, h with
  | none, rfl => exact hg
  | some (option, some value), h => exact hg.store h

namespace Progress

variable {p p' : Progress}

/-- What was read up to here asks for no empty chunk. -/
abbrev Ranged (p : Progress) : Prop := p.given.Ranged

variable (hp : p.Ranged)
include hp

theorem Ranged.option {option : ValueOption} {attached : Option String}
    (h : p.option option attached = .ok p') : p'.Ranged := by
  obtain ⟨g, resolved, h⟩ := ok_of_bind h
  have hg := hp.resolve resolved
  cases attached with
  | none =>
    cases h
    exact hg
  | some value =>
    obtain ⟨g', stored, h⟩ := ok_of_bind h
    cases h
    exact hg.store stored

theorem Ranged.debug (h : p.debug = .ok p') : p'.Ranged := by
  obtain ⟨g, resolved, h⟩ := ok_of_bind h
  have hg := hp.resolve resolved
  split_ifs at h
  · cases h
  · cases h
    exact hg

omit hp in
theorem stop_ne_ok {reason : Stop} : p.stop reason ≠ .ok p' := by
  intro h
  obtain ⟨_, -, h⟩ := ok_of_bind h
  cases h

theorem Ranged.long {scope : Scope} {name : String} {attached : Option String}
    (h : p.long scope name attached = .ok p') : p'.Ranged := by
  unfold Progress.long at h
  split at h
  · exact Ranged.option hp h
  · cases attached with
    | some value => split_ifs at h
    | none =>
      simp only at h
      split_ifs at h
      · exact Ranged.debug hp h
      · exact absurd h stop_ne_ok
      · exact absurd h stop_ne_ok

theorem Ranged.short {scope : Scope} {letter : Char} {rest : List Char}
    (h : p.short scope letter rest = .ok p') : p'.Ranged := by
  unfold Progress.short at h
  split_ifs at h
  · split at h <;> exact Ranged.option hp h
  · exact absurd h stop_ne_ok
  · exact absurd h stop_ne_ok

end Progress

/-- Words give no empty chunk. A word is a value that waits or is stored, an option, or the name of
a subcommand; the words behind a subcommand are read with nothing given yet, and what they give
overrides what was given before. -/
theorem readWords_ranged :
    ∀ (words : List String) {scope : Scope} {trailing : Bool} {p : Progress} {request : Request},
      p.Ranged → readWords scope trailing p words = .ok request → request.given.Ranged
  | [], scope, trailing, p, request, hp, h => by
    obtain ⟨g, resolved, h⟩ := ok_of_bind h
    cases h
    exact hp.resolve resolved
  | word :: rest, scope, trailing, p, request, hp, h => by
    have value (option : ValueOption) :
        ({ p with pending := some (option, some word) } : Progress).Ranged := hp
    simp only [readWords] at h
    split at h
    · split at h
      · exact readWords_ranged rest (value _) h
      · cases h
    split at h
    · cases h
    · obtain ⟨inner, read, h⟩ := ok_of_bind h
      obtain ⟨g, resolved, h⟩ := ok_of_bind h
      cases h
      exact (hp.resolve resolved).override (readWords_ranged rest Given.ranged_nil read)
    · split at h
      · exact readWords_ranged rest hp h
      · obtain ⟨p', read, h⟩ := ok_of_bind h
        exact readWords_ranged rest (Progress.Ranged.long hp read) h
      · obtain ⟨p', read, h⟩ := ok_of_bind h
        exact readWords_ranged rest (Progress.Ranged.short hp read) h
      · split at h
        · exact readWords_ranged rest (value _) h
        · cases h

/-- A request that is parsed asks for no empty chunk. -/
theorem parse_ok {words : List String} {request : Request} (h : parse words = .ok request) :
    ∀ n ∈ request.given.chunkSize, 0 < n :=
  readWords_ranged words Given.ranged_nil h

end CommandLine

namespace Cycle

open Settings (Environment IsLimit PerformanceRetention RetentionSettings)

variable {options : Options} {settings : RetentionSettings}

namespace Cycler

/-- A cycle of jobs is made as it is asked for. -/
theorem make_jobs_eq (siteHost : Option String)
    (pos : 0 < options.chunkSize.getD settings.jobs.chunkSize) :
    make .jobs options settings siteHost = .ok (.jobs
      ⟨⟨options.days.getD settings.jobs.days, options.chunkSize.getD settings.jobs.chunkSize,
          settings.jobs.maxRuntime, pos⟩,
        .ofSeconds (options.pauseSeconds.getD settings.jobs.pauseSeconds).toNat⟩) := by
  simp only [make, Policy.make, dif_pos pos]
  rfl

/-- So is one of performance data, if its host is exempt or it keeps to the floor. -/
theorem make_performance_eq (siteHost : Option String)
    (pos : 0 < options.chunkSize.getD settings.performance.chunkSize) :
    let days := options.days.getD settings.performance.days
    make .performance options settings siteHost =
      if settings.performance.isFloorExempt siteHost = false ∧ days < retentionFloor then
        .error (.belowFloor days retentionFloor)
      else .ok (.performance
        ⟨⟨days, options.chunkSize.getD settings.performance.chunkSize,
            settings.performance.maxRuntime, pos⟩,
          settings.performance.scopedRepository, settings.performance.scopedDays⟩) := by
  intro days
  simp only [make, Policy.make, dif_pos pos, PerformanceCycle.make, Policy.checkFloor]
  rcases settings.performance.isFloorExempt siteHost with _ | _
  · by_cases low : days < retentionFloor
    · rw [if_pos ⟨rfl, low⟩]
      simp only [days] at low
      simp [low, bind, Except.bind, days]
    · rw [if_neg fun h => low h.2]
      simp only [days] at low
      simp [low, bind, Except.bind, pure, Except.pure, days]
  · rw [if_neg fun h => nomatch h.1]
    rfl

end Cycler

theorem chunk_pos {default : UInt32} (some_rows : 0 < default)
    (ranged : ∀ n ∈ options.chunkSize, 0 < n) : 0 < options.chunkSize.getD default := by
  rcases h : options.chunkSize with _ | n
  · exact some_rows
  · exact ranged n h

/-- Settings that are read name chunks that are not empty and their database, and limits that are
taken to the second; and whatever a request for chunks that are not empty overrides, a cycle of jobs
is made of it, and one of performance data if it keeps to the floor or its host is exempt, each as
the two say. -/
theorem accepted_makes_cycles {env : Environment} {text : String} {accepted : Settings}
    (read : Settings.ofText env text = .ok accepted) :
    let retention := accepted.retention
    let jobs := retention.jobs
    let performance := retention.performance
    (0 < jobs.chunkSize ∧ 0 < performance.chunkSize ∧ performance.scopedRepository ≠ "" ∧
      accepted.database.Named) ∧
    IsLimit jobs.maxRuntimeHours jobs.maxRuntime ∧
    IsLimit performance.maxRuntimeHours performance.maxRuntime ∧
    ∀ (options : Options) (siteHost : Option String), (∀ n ∈ options.chunkSize, 0 < n) →
      (∃ c, Cycler.make .jobs options retention siteHost = .ok (.jobs c) ∧
        c.policy.days = options.days.getD jobs.days ∧
        c.policy.chunkSize = options.chunkSize.getD jobs.chunkSize ∧
        c.policy.maxRuntime = jobs.maxRuntime ∧
        c.pause = .ofSeconds (options.pauseSeconds.getD jobs.pauseSeconds).toNat) ∧
      let days := options.days.getD performance.days
      if performance.isFloorExempt siteHost = false ∧ days < retentionFloor then
        Cycler.make .performance options retention siteHost =
          .error (.belowFloor days retentionFloor)
      else ∃ c, Cycler.make .performance options retention siteHost = .ok (.performance c) ∧
        c.policy.days = days ∧
        c.policy.chunkSize = options.chunkSize.getD performance.chunkSize ∧
        c.policy.maxRuntime = performance.maxRuntime ∧
        c.single = ⟨performance.scopedRepository, performance.scopedDays⟩ := by
  intro retention jobs performance
  obtain ⟨named, sound⟩ := Settings.ofText_ok read
  refine ⟨⟨sound.jobs_chunk, sound.performance_chunk, sound.scoped_named, named⟩,
    Settings.isLimit_hours sound.jobs_hours, Settings.isLimit_hours sound.performance_hours,
    fun options siteHost ranged => ⟨?_, ?_⟩⟩
  · exact ⟨_, Cycler.make_jobs_eq siteHost (chunk_pos sound.jobs_chunk ranged), rfl, rfl, rfl, rfl⟩
  · intro days
    have made := Cycler.make_performance_eq siteHost (chunk_pos sound.performance_chunk ranged)
    split_ifs with low
    · rw [made]
      exact if_pos low
    · exact ⟨_, made.trans (if_neg low), rfl, rfl, rfl, rfl⟩

theorem ofText_limits :
    Settings.ofText (fun name => if name = "F" then some "f" else none)
      "database=\x7btype='sqlite',path='$\x7bF\x7d'\x7d
retention.jobs.max_runtime_hours=5124095576030431
retention.performance.days=30" =
      .ok {
        database := .file { path := "f" }
        retention :=
          { jobs := { maxRuntimeHours := 5124095576030431 }, performance := { days := 30 } } } := by
  decide +kernel

/-- A file that the environment names, the longest limit that there is, and fewer days than the
floor: the limit is kept, and performance data need a request for more days. -/
theorem accepted_makes_cycles_at_limits :
    let accepted : Settings :=
      { database := .file { path := "f" }
        retention :=
          { jobs := { maxRuntimeHours := 5124095576030431 }, performance := { days := 30 } } }
    let retention := accepted.retention
    retention.jobs.maxRuntime = some (.ofSeconds 18446744073709551600) ∧
      (∃ c, Cycler.make .jobs {} retention none = .ok (.jobs c)) ∧
      Cycler.make .performance {} retention none = .error (.belowFloor 30 365) ∧
      ∃ c, Cycler.make .performance { days := some 365 } retention none = .ok (.performance c) := by
  intro accepted retention
  obtain ⟨-, jobs_limit, -, made⟩ := accepted_makes_cycles ofText_limits
  obtain ⟨⟨c, made_jobs, -⟩, refused⟩ := made {} none nofun
  obtain ⟨-, made_performance⟩ := made { days := some 365 } none nofun
  rw [if_pos (by decide)] at refused
  rw [if_neg (by decide)] at made_performance
  obtain ⟨c', made_performance, -⟩ := made_performance
  exact ⟨jobs_limit.exact (by decide), ⟨c, made_jobs⟩, refused, ⟨c', made_performance⟩⟩

end Cycle

end Retention
