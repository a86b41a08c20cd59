import Retention.Proofs.Acceptance
import Retention.Proofs.Performance

/-!
# What requests come to

A request names a domain, and what it does not override the settings of that domain say. A cycle is
made from what the two come to and from nothing else (`Terms`, `Cycler.make_eq_verdict`): not from
where a value was given, and not from the settings of the other domain. The terms also decide
whether a cycle is made at all (`Cycler.make_by_terms`).
-/

namespace Retention.Cycle

open Settings (JobRetention PerformanceRetention RetentionSettings)
open Time (Duration)

/-- What a domain has for itself. -/
inductive Particulars
  | jobs (pause : Duration)
  | performance (single : SingleRetention) (floorExempt : Bool)

/-- Whether the floor applies. -/
def Particulars.floored : Particulars → Bool
  | .jobs _ => false
  | .performance _ floorExempt => !floorExempt

/-- What a request and the settings come to. -/
structure Terms where
  days : UInt32
  chunkSize : UInt32
  maxRuntime : Option Duration
  particulars : Particulars

namespace Terms

def of (options : Options) (settings : RetentionSettings) (siteHost : Option String) :
    DataDomain → Terms
  | .jobs =>
    let jobs := settings.jobs
    { days := options.days.getD jobs.days
      chunkSize := options.chunkSize.getD jobs.chunkSize
      maxRuntime := jobs.maxRuntime
      particulars := .jobs (.ofSeconds (options.pauseSeconds.getD jobs.pauseSeconds).toNat) }
  | .performance =>
    let performance := settings.performance
    { days := options.days.getD performance.days
      chunkSize := options.chunkSize.getD performance.chunkSize
      maxRuntime := performance.maxRuntime
      particulars := .performance ⟨performance.scopedRepository, performance.scopedDays⟩
        (performance.isFloorExempt siteHost) }

variable (t : Terms)

/-- The floor applies, and fewer days are to be kept. -/
def Low : Prop := t.particulars.floored ∧ t.days < retentionFloor

instance : Decidable t.Low := inferInstanceAs (Decidable (_ ∧ _))

/-- The cycle on these terms. -/
def cycler (pos : 0 < t.chunkSize) : Cycler :=
  let policy : Policy := ⟨t.days, t.chunkSize, t.maxRuntime, pos⟩
  match t.particulars with
  | .jobs pause => .jobs ⟨policy, pause⟩
  | .performance single _ => .performance ⟨policy, single⟩

/-- What becomes of a request on these terms. -/
def verdict : Except PolicyError Cycler :=
  if pos : 0 < t.chunkSize then
    if t.Low then .error (.belowFloor t.days retentionFloor) else .ok (t.cycler pos)
  else .error .emptyChunk

variable {t}

theorem verdict_eq_emptyChunk_iff : t.verdict = .error .emptyChunk ↔ t.chunkSize = 0 := by
  rw [← Classical.not_not (a := t.chunkSize = 0), ← ne_eq, ← UInt32.pos_iff_ne_zero]
  unfold verdict
  split_ifs with pos <;> simp [pos]

theorem verdict_eq_belowFloor_iff {days floor : UInt32} :
    t.verdict = .error (.belowFloor days floor) ↔
      t.chunkSize ≠ 0 ∧ t.Low ∧ days = t.days ∧ floor = retentionFloor := by
  rw [← UInt32.pos_iff_ne_zero]
  unfold verdict
  split_ifs with pos low
  · simp [pos, low, eq_comm]
  · simp [low]
  · simp [pos]

theorem verdict_of_pos (pos : 0 < t.chunkSize) (high : ¬ t.Low) :
    t.verdict = .ok (t.cycler pos) := by
  rw [verdict, dif_pos pos, if_neg high]

theorem of_verdict_ok {cycler : Cycler} (h : t.verdict = .ok cycler) :
    ∃ pos, ¬ t.Low ∧ cycler = t.cycler pos := by
  unfold verdict at h
  split_ifs at h with pos low
  exact ⟨pos, low, (Except.ok.inj h).symm⟩

theorem cycler_policy (pos : 0 < t.chunkSize) :
    (t.cycler pos).policy = ⟨t.days, t.chunkSize, t.maxRuntime, pos⟩ := by
  unfold cycler
  split <;> rfl

theorem cycler_domain {options : Options} {settings : RetentionSettings}
    {siteHost : Option String} {domain : DataDomain}
    (pos : 0 < (of options settings siteHost domain).chunkSize) :
    ((of options settings siteHost domain).cycler pos).domain = domain := by
  cases domain <;> rfl

end Terms

theorem Policy.make_empty {days chunkSize : UInt32} {maxRuntime : Option Duration}
    (empty : ¬ 0 < chunkSize) : make days chunkSize maxRuntime = .error .emptyChunk :=
  dif_neg empty

/-- What a request may override. -/
inductive Override
  | days | chunkSize | pause

namespace Override

def leave : Override → Options → Options
  | days, options => { options with days := none }
  | chunkSize, options => { options with chunkSize := none }
  | pause, options => { options with pauseSeconds := none }

def intoJobs (options : Options) (jobs : JobRetention) : Override → JobRetention
  | days => { jobs with days := options.days.getD jobs.days }
  | chunkSize => { jobs with chunkSize := options.chunkSize.getD jobs.chunkSize }
  | pause => { jobs with pauseSeconds := options.pauseSeconds.getD jobs.pauseSeconds }

/-- There is no pause to write down for performance data. -/
def intoPerformance (options : Options) (performance : PerformanceRetention) :
    Override → PerformanceRetention
  | days => { performance with days := options.days.getD performance.days }
  | chunkSize => { performance with chunkSize := options.chunkSize.getD performance.chunkSize }
  | pause => performance

/-- The settings with what is asked for written into those of the domain. -/
def into (domain : DataDomain) (options : Options) (settings : RetentionSettings) (o : Override) :
    RetentionSettings :=
  match domain with
  | .jobs => { settings with jobs := o.intoJobs options settings.jobs }
  | .performance =>
    { settings with performance := o.intoPerformance options settings.performance }

end Override

variable {options : Options} {settings : RetentionSettings} {siteHost : Option String}

/-- Where a value is given makes no difference. -/
theorem Terms.of_into (domain : DataDomain) (o : Override) :
    of (o.leave options) (o.into domain options settings) siteHost domain =
      of options settings siteHost domain := by
  cases domain <;> cases o <;> rfl

theorem Terms.low_of_iff (domain : DataDomain) :
    (of options settings siteHost domain).Low ↔ domain = .performance ∧
      (of options settings siteHost domain).days < retentionFloor ∧
        ∀ host ∈ siteHost, host ∉ settings.performance.floorExemptHosts := by
  have exempt : settings.performance.isFloorExempt siteHost = false ↔
      ∀ host ∈ siteHost, host ∉ settings.performance.floorExemptHosts := by
    refine ⟨fun plain host there => ?_, Cycler.not_exempt⟩
    cases there
    simpa [PerformanceRetention.isFloorExempt] using plain
  cases domain with
  | jobs => simp [Low, of, Particulars.floored]
  | performance => simp [Low, of, Particulars.floored, exempt, and_comm]

namespace Cycler

theorem make_eq_verdict (domain : DataDomain) :
    make domain options settings siteHost =
      (Terms.of options settings siteHost domain).verdict := by
  by_cases pos : 0 < (Terms.of options settings siteHost domain).chunkSize
  · rw [Terms.verdict, dif_pos pos]
    cases domain with
    | jobs => exact make_jobs_eq siteHost pos
    | performance =>
      refine (make_performance_eq siteHost pos).trans ?_
      simp only [Terms.Low, Terms.of, Particulars.floored, Bool.not_eq_true', Terms.cycler]
  · rw [Terms.verdict, dif_neg pos]
    cases domain with
    | jobs =>
      have empty : ¬ 0 < options.chunkSize.getD settings.jobs.chunkSize := pos
      rw [make, Policy.make_empty empty]
      rfl
    | performance =>
      have empty : ¬ 0 < options.chunkSize.getD settings.performance.chunkSize := pos
      rw [make, Policy.make_empty empty]
      rfl

/-- A request and settings that come to the same have the same result. So a value that is asked for
may as well be written into the settings of the domain; a cycle of jobs depends neither on what the
settings say of performance data nor on the host, and one of performance data neither on what they
say of jobs nor on the pause that is asked for. It fails if the chunks would be empty, else if fewer
days than the floor are asked of performance data for a host that is not exempt, and else it is the
cycle on these terms. -/
theorem make_by_terms (domain : DataDomain) (options : Options) (settings : RetentionSettings)
    (siteHost : Option String) :
    let made := make domain options settings siteHost
    let terms := Terms.of options settings siteHost domain
    let plain := ∀ host ∈ siteHost, host ∉ settings.performance.floorExemptHosts
    let low := domain = .performance ∧ terms.days < 365 ∧ plain
    (∀ options' settings' siteHost', Terms.of options' settings' siteHost' domain = terms →
      make domain options' settings' siteHost' = made) ∧
    (∀ o : Override, make domain (o.leave options) (o.into domain options settings) siteHost =
      made) ∧
    (domain = .jobs → ∀ performance siteHost',
      make domain options { settings with performance } siteHost' = made) ∧
    (domain = .performance → ∀ jobs pauseSeconds,
      make domain { options with pauseSeconds } { settings with jobs } siteHost = made) ∧
    (made = .error .emptyChunk ↔ terms.chunkSize = 0) ∧
    (∀ days floor, made = .error (.belowFloor days floor) ↔
      terms.chunkSize ≠ 0 ∧ low ∧ days = terms.days ∧ floor = 365) ∧
    (∀ pos : 0 < terms.chunkSize, ¬ low → made = .ok (terms.cycler pos)) ∧
    ∀ cycle, made = .ok (.performance cycle) → plain → 365 ≤ cycle.policy.days := by
  intro made terms plain low
  have verdict : made = terms.verdict := make_eq_verdict domain
  have low_iff : terms.Low ↔ low := Terms.low_of_iff domain
  refine ⟨fun options' settings' siteHost' same => ?_, fun o => ?_, ?_, ?_, ?_,
    fun days floor => ?_, fun pos high => ?_, fun cycle ok not_exempt => ?_⟩
  · rw [make_eq_verdict, same, verdict]
  · rw [make_eq_verdict, Terms.of_into, verdict]
  · rintro rfl performance siteHost'
    rfl
  · rintro rfl jobs pauseSeconds
    rfl
  · rw [verdict, Terms.verdict_eq_emptyChunk_iff]
  · rw [verdict, Terms.verdict_eq_belowFloor_iff, low_iff]
    rfl
  · rw [verdict, Terms.verdict_of_pos pos (low_iff.not.2 high)]
  · obtain ⟨pos, high, same⟩ := Terms.of_verdict_ok (verdict.symm.trans ok)
    have performance : DataDomain.performance = domain :=
      (congrArg Cycler.domain same).trans (Terms.cycler_domain pos)
    have days : cycle.policy.days = terms.days :=
      congrArg Policy.days ((congrArg policy same).trans (Terms.cycler_policy pos))
    rw [days]
    exact UInt32.not_lt.1 fun few => high (low_iff.2 ⟨performance.symm, few, not_exempt⟩)

end Cycler

end Retention.Cycle
