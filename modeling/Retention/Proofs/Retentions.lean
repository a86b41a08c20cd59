import Mathlib.Tactic.SplitIfs
import Retention.Proofs.JobParts
import Retention.Proofs.Jobs
import Retention.Proofs.Performance
import Retention.Proofs.PerformanceParts
import Retention.Settings.Basic

/-!
# How far retentions reach

A cycle whose cutoff would lie before the calendar's first year does not begin. Neither settings nor
requests put a bound to days, so it is up to the number of days that are left of the calendar
(`Cycler.run_begins_iff`). An instant from 1970 to 9999 has between 96465292 and 99398188 of them
before it.
-/

namespace Retention.Time.Instant

theorem le_year_iff {t : Instant} {year : Int} :
    year ≤ t.date.year ↔ yearStart year - epochDay ≤ t.seconds / 86400 :=
  le_yearOf_iff.trans (by omega)

theorem representable_iff_year {t : Instant} :
    t.Representable ↔ -262143 ≤ t.date.year ∧ t.date.year ≤ 262142 := by
  have first : -262143 ≤ t.date.year ↔ -96465292 ≤ t.seconds / 86400 := le_year_iff
  have after : 262143 ≤ t.date.year ↔ 95026237 ≤ t.seconds / 86400 := le_year_iff
  unfold Representable firstSecond lastSecond
  omega

/-- The days that the calendar has before the day of the instant. -/
def daysPast (t : Instant) : Int := t.seconds / 86400 + 96465292

theorem le_daysPast {t : Instant} (h : 1970 ≤ t.date.year) : 96465292 ≤ t.daysPast := by
  have : (0 : Int) ≤ t.seconds / 86400 := le_year_iff.1 h
  unfold daysPast
  omega

theorem daysPast_le {t : Instant} (h : t.date.year ≤ 9999) : t.daysPast ≤ 99398188 := by
  have : (10000 : Int) ≤ t.date.year ↔ 2932897 ≤ t.seconds / 86400 := le_year_iff
  unfold daysPast
  omega

theorem daysBefore?_eq_none_iff {t : Instant} {days : Nat} (h : t.date.year ≤ 262142) :
    t.daysBefore? days = none ↔ t.daysPast < days := by
  have first : -262143 ≤ (t.back days).date.year ↔ -96465292 ≤ (t.back days).seconds / 86400 :=
    le_year_iff
  have last : (t.back days).date.year ≤ 262142 := Int.le_trans (t.back_year_le days) h
  have representable : (t.back days).Representable ↔ days ≤ t.daysPast := by
    rw [representable_iff_year, and_iff_left last, first]
    simp only [back, daysPast]
    omega
  change (if (t.back days).Representable then some (t.back days) else none) = none ↔ _
  simp only [representable, ite_eq_right_iff, reduceCtorEq, imp_false, Int.not_le]

end Retention.Time.Instant

namespace Retention.Cycle

open Settings (RetentionSettings)
open Time (Instant)

variable {σ : Type} {rounds : Nat} {now : Instant} {outcome : Outcome} {acts : List (Act σ)}

theorem JobCycle.Course.outOfRange_iff {c : JobCycle} (h : c.Course now rounds outcome acts) :
    outcome = .cutoffOutOfRange ↔ c.policy.cutoff? now = none := by
  constructor
  · intro out
    rcases due : c.policy.cutoff? now with _ | cutoff
    · rfl
    · obtain ⟨_, _, _, _, _, -, -, -, gives, -⟩ := h.staged due
      exact absurd out gives.in_range
  · exact fun none => (h.unbegun none).1

theorem PerformanceCycle.Course.outOfRange_iff {c : PerformanceCycle}
    (h : c.Course now rounds outcome acts) : outcome = .cutoffOutOfRange ↔
      c.policy.cutoff? now = none ∨ now.daysBefore? c.single.days.toNat = none := by
  constructor
  · intro out
    rcases main : c.policy.cutoff? now with _ | cutoff
    · exact .inl rfl
    rcases single : now.daysBefore? c.single.days.toNat with _ | singleCutoff
    · exact .inr rfl
    obtain ⟨_, _, _, _, _, _, -, -, recounted⟩ := h.recounted ⟨main, single⟩
    exact absurd out recounted.in_range
  · exact fun none => (h.unbegun none).1

namespace Cycler

/-- The retentions of a cycle, in days; each has a cutoff. -/
def retentions : Cycler → List UInt32
  | jobs c => [c.policy.days]
  | performance c => [c.policy.days, c.single.days]

/-- The retentions that are asked for. -/
def asked (domain : DataDomain) (options : Options) (settings : RetentionSettings) : List UInt32 :=
  match domain with
  | .jobs => [options.days.getD settings.jobs.days]
  | .performance =>
    [options.days.getD settings.performance.days, settings.performance.scopedDays]

theorem make_jobs {options : Options} {settings : RetentionSettings} {siteHost : Option String}
    {cycler : Cycler} (made : make .jobs options settings siteHost = .ok cycler) :
    ∃ c : JobCycle, c.policy.days = options.days.getD settings.jobs.days ∧ cycler = .jobs c := by
  unfold make Policy.make at made
  simp only [bind, Except.bind, pure, Except.pure] at made
  split_ifs at made with pos
  cases made
  exact ⟨_, rfl, rfl⟩

/-- Retentions are taken as they were asked for. -/
theorem retentions_eq_asked {domain : DataDomain} {options : Options} {settings : RetentionSettings}
    {siteHost : Option String} {cycler : Cycler}
    (made : make domain options settings siteHost = .ok cycler) :
    cycler.retentions = asked domain options settings := by
  cases domain with
  | jobs =>
    obtain ⟨c, days, rfl⟩ := make_jobs made
    simp only [retentions, asked, days]
  | performance =>
    obtain ⟨policy, days, rfl, -⟩ := make_performance made
    simp only [retentions, asked, days]

theorem run_outOfRange (world : World σ) (span : Option DataDomain) (c : Cycler) (rounds : Nat) :
    world.Does (c.run (world.host span) world.access rounds) fun outcome acts =>
      (outcome = .cutoffOutOfRange ↔
        ∃ days ∈ c.retentions, world.now.daysBefore? days.toNat = none) ∧
      (outcome = .cutoffOutOfRange → ∃ started, acts = [.looked started]) := by
  cases c with
  | jobs c =>
    refine (run_jobs world span c rounds).mono fun outcome acts course => ?_
    refine ⟨by simpa [retentions, Policy.cutoff?] using course.outOfRange_iff, fun out => ?_⟩
    exact (course.unbegun (course.outOfRange_iff.1 out)).2
  | performance c =>
    refine (run_performance world span c rounds).mono fun outcome acts course => ?_
    refine ⟨by simpa [retentions, Policy.cutoff?] using course.outOfRange_iff, fun out => ?_⟩
    exact (course.unbegun (course.outOfRange_iff.1 out)).2

/-- In the years 1970 to 9999 a cycle that was made of a request begins exactly if no retention that
was asked for is longer than the days that are past; if not, it makes no call. Of up to 96465292
days it is certain to begin, of more than 99398188 it is certain not to. -/
theorem run_begins_iff {domain : DataDomain} {options : Options} {settings : RetentionSettings}
    {siteHost : Option String} {cycler : Cycler}
    (made : make domain options settings siteHost = .ok cycler) (world : World σ)
    (span : Option DataDomain) (rounds : Nat) (state : σ) (start : 1970 ≤ world.now.date.year)
    (finish : world.now.date.year ≤ 9999) :
    let out := cycler.run (world.host span) world.access rounds ⟨state, []⟩
    let days := asked domain options settings
    (out.1 ≠ .cutoffOutOfRange ↔ ∀ n ∈ days, n.toNat ≤ world.now.daysPast) ∧
    (out.1 = .cutoffOutOfRange → ∃ started, out.2.acts = [.looked started]) ∧
    ((∀ n ∈ days, n.toNat ≤ 96465292) → out.1 ≠ .cutoffOutOfRange) ∧
    ((∃ n ∈ days, 99398188 < n.toNat) → out.1 = .cutoffOutOfRange) := by
  intro out days
  obtain ⟨acts, ran, outOfRange_iff, begun⟩ := cycler.run_outOfRange world span rounds ⟨state, []⟩
  have hacts : out.2.acts = acts := ran.acts_eq
  have least := Instant.le_daysPast start
  have most := Instant.daysPast_le finish
  have in_calendar : world.now.date.year ≤ 262142 := Int.le_trans finish (by decide)
  rw [retentions_eq_asked made] at outOfRange_iff
  simp only [Instant.daysBefore?_eq_none_iff in_calendar] at outOfRange_iff
  have begins_iff : out.1 ≠ .cutoffOutOfRange ↔ ∀ n ∈ days, n.toNat ≤ world.now.daysPast := by
    rw [Ne, show out.1 = .cutoffOutOfRange ↔ _ from outOfRange_iff]
    simp only [not_exists, not_and, Int.not_lt]
    exact Iff.rfl
  refine ⟨begins_iff, fun none => hacts ▸ begun none, fun short => ?_, ?_⟩
  · refine begins_iff.2 fun n hn => ?_
    have := short n hn
    omega
  · rintro ⟨n, hn, long⟩
    exact outOfRange_iff.2 ⟨n, hn, by omega⟩

/-- At the first instant of 1970 just that many days are past. -/
theorem run_begins_iff_at_epoch :
    let epoch : Instant := ⟨0, 0, by decide⟩
    let world := World.alone (.still epoch)
    let longest := jobs ⟨⟨96465292, 100, none, by decide⟩, 0⟩
    let longer := jobs ⟨⟨96465293, 100, none, by decide⟩, 0⟩
    let scene : Scene (Place Unit) := ⟨⟨(), .empty⟩, []⟩
    make .jobs { days := some 96465292 } {} none = .ok longest ∧
      make .jobs { days := some 96465293 } {} none = .ok longer ∧ epoch.date.year = 1970 ∧
      (longest.run (world.host none) world.access 1 scene).1 ≠ .cutoffOutOfRange ∧
      (longer.run (world.host none) world.access 1 scene).1 = .cutoffOutOfRange := by
  intro epoch world longest longer scene
  have made : make .jobs { days := some 96465292 } {} none = .ok longest := rfl
  have made' : make .jobs { days := some 96465293 } {} none = .ok longer := rfl
  have year : epoch.date.year = 1970 := by decide +kernel
  have begins := run_begins_iff made world none 1 scene.state (by decide +kernel)
    (by decide +kernel)
  have begins' := run_begins_iff made' world none 1 scene.state (by decide +kernel)
    (by decide +kernel)
  refine ⟨made, made', year, begins.1.2 (List.forall_mem_singleton.2 (by decide +kernel)), ?_⟩
  by_contra h
  exact absurd (List.forall_mem_singleton.1 (begins'.1.1 h)) (by decide +kernel)

theorem ofText_longest : Settings.ofText (fun _ => none)
    "[retention]\njobs.days = 4294967295\nperformance.scoped_days = 4294967295\n" =
      .ok { retention :=
        { jobs := { days := 4294967295 }, performance := { scopedDays := 4294967295 } } } := by
  decide +kernel

/-- Settings that are accepted, with one retention in each domain that no calendar has room for. -/
theorem accepted_out_of_range :
    let text := "[retention]\njobs.days = 4294967295\nperformance.scoped_days = 4294967295\n"
    let retention : RetentionSettings :=
      { jobs := { days := 4294967295 }, performance := { scopedDays := 4294967295 } }
    let ofJobs := jobs ⟨⟨4294967295, 100, none, by decide⟩, 0⟩
    let ofPerformance := performance
      ⟨⟨365, 100, some 82800000000000, by decide⟩, "try", 4294967295⟩
    let now : Instant := ⟨1760000000, 0, by decide⟩
    let world := World.alone (.still now)
    let scene : Scene (Place Unit) := ⟨⟨(), .empty⟩, []⟩
    Settings.ofText (fun _ => none) text = .ok { retention := retention } ∧
      make .jobs {} retention none = .ok ofJobs ∧
      make .performance {} retention none = .ok ofPerformance ∧ now.date.year = 2025 ∧
      (ofJobs.run (world.host none) world.access 1 scene).1 = .cutoffOutOfRange ∧
      (ofPerformance.run (world.host none) world.access 1 scene).1 = .cutoffOutOfRange := by
  intro text retention ofJobs ofPerformance now world scene
  have made : make .jobs {} retention none = .ok ofJobs := by decide +kernel
  have made' : make .performance {} retention none = .ok ofPerformance := by decide +kernel
  have year : now.date.year = 2025 := by decide +kernel
  have beyond : now.daysBefore? (4294967295 : UInt32).toNat = none := by decide +kernel
  obtain ⟨_, -, jobs, -⟩ := ofJobs.run_outOfRange world none 1 scene
  obtain ⟨_, -, performance, -⟩ := ofPerformance.run_outOfRange world none 1 scene
  refine ⟨ofText_longest, made, made', year, ?_, ?_⟩
  · exact jobs.2 ⟨4294967295, List.mem_cons_self, beyond⟩
  · exact performance.2 ⟨4294967295, List.mem_cons_of_mem _ List.mem_cons_self, beyond⟩

end Cycler

end Retention.Cycle
