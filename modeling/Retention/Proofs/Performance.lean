import Retention.Cycle.Request
import Retention.Proofs.PerformanceCourse
import Retention.Proofs.Removal
import Retention.Proofs.Timestamps

/-!
# What a cycle of performance data takes

Whatever stops it, a cycle has lost only rows that one of its removals takes (`Lost`), and one that
completes without an error has left no such row (`PerformanceCycle.Removals.dry`). Timestamps are
compared as texts; for rows stamped in the years 0 to 9999 that is as good as comparing instants, so
a cycle takes rows by their age (`PerformanceCycle.Course.takes_past`), and the floor that was
checked when the cycle was made holds for what goes from the store (`Cycler.run_keeps_floor`).
-/

namespace Retention

namespace Store

def repositoryNamed (s : Store) (name : String) : Option Repository :=
  (s.repository.elim [] Table.rows).find? (·.name == name)

theorem repositoryId?_ok {s : Store} {name : String} {id? : Option Int}
    (h : s.repositoryId? name = .ok id?) : id? = (s.repositoryNamed name).map (·.id) := by
  unfold repositoryId? at h
  rcases hr : s.repository with _ | t <;> rw [hr] at h
  · cases h
  simp only [need, Except.bind, bind, pure, Except.pure, Except.ok.injEq] at h
  rw [← h, repositoryNamed, hr]
  rfl

def Datum.BelongsTo (row : Datum) (s : Store) (name : String) : Prop :=
  (s.repositoryNamed name).map (·.id) = some row.repository

instance (row : Datum) (s : Store) (name : String) : Decidable (row.BelongsTo s name) :=
  inferInstanceAs (Decidable (_ = _))

end Store

namespace Cycle

open Store (DatabaseError)
open Time (Instant)

variable {ω : Type} {guard : Guard} {acts : List (Act (Place ω))} {s s' : Store}

/-- What the second store has lost is performance data that some of these removals take. -/
def Lost (removals : List Removal) (s s' : Store) : Prop :=
  ∃ gone, s' = s.withoutData gone ∧ ∀ row ∈ gone, ∃ r ∈ removals, row.Eligible r.cutoff r.scope

namespace Lost

variable {removals removals' : List Removal} {m : Store}

theorem refl : Lost removals s s := ⟨[], (s.withoutData_nil).symm, nofun⟩

theorem trans (h : Lost removals s m) (h' : Lost removals m s') : Lost removals s s' := by
  obtain ⟨gone, rfl, hgone⟩ := h
  obtain ⟨gone', rfl, hgone'⟩ := h'
  exact ⟨gone ++ gone', Store.withoutData_withoutData .., List.forall_mem_append.2 ⟨hgone, hgone'⟩⟩

theorem mono (h : Lost removals s s') (sub : removals ⊆ removals') : Lost removals' s s' := by
  obtain ⟨gone, hs, hgone⟩ := h
  refine ⟨gone, hs, fun row hrow => ?_⟩
  obtain ⟨r, hr, hdue⟩ := hgone row hrow
  exact ⟨r, sub hr, hdue⟩

theorem cons {r : Removal} (h : Lost [r] s m) (h' : Lost removals m s') :
    Lost (r :: removals) s s' :=
  (h.mono (by simp)).trans (h'.mono (by simp))

theorem due_eq_nil (h : Lost removals s s') {cutoff : Instant} {scope : Option Int}
    (none_due : s.due cutoff scope = []) : s'.due cutoff scope = [] := by
  obtain ⟨gone, rfl, -⟩ := h
  rw [Store.due_withoutData, none_due, List.filter_nil]

theorem removed (h : Lost removals s s') {row : Store.Datum} (was : row ∈ s.data)
    (is_not : row ∉ s'.data) : ∃ r ∈ removals, row.Eligible r.cutoff r.scope := by
  obtain ⟨gone, rfl, hgone⟩ := h
  refine hgone row (Decidable.not_not.1 fun hrow => is_not ?_)
  rw [Store.data_withoutData]
  exact List.mem_filter.2 ⟨was, decide_eq_true hrow⟩

/-- Where nothing is due any more, all that is not due is left. -/
theorem data_eq (h : Lost removals s s')
    (dry : ∀ r ∈ removals, s'.due r.cutoff r.scope = []) :
    s'.data = s.data.filter fun row => ∀ r ∈ removals, ¬ row.Eligible r.cutoff r.scope := by
  obtain ⟨gone, rfl, hgone⟩ := h
  rw [Store.data_withoutData]
  refine List.filter_congr fun row hrow => decide_eq_decide.2 ⟨fun hkept r hr hdue => ?_, ?_⟩
  · have : row ∈ (s.withoutData gone).due r.cutoff r.scope := by
      rw [Store.due_withoutData]
      exact List.mem_filter.2
        ⟨List.mem_filter.2 ⟨hrow, decide_eq_true hdue⟩, decide_eq_true hkept⟩
    rw [dry r hr] at this
    cases this
  · intro hspared hgone'
    obtain ⟨r, hr, hdue⟩ := hgone row hgone'
    exact hspared r hr hdue

end Lost

theorem Removal.Course.lost {r : Removal} {rounds : Nat} {ending : Ending}
    (h : r.Course guard rounds ending acts) (pos : 0 < r.chunkSize) (linked : Linked s acts s') :
    Lost [r] s s' := by
  obtain ⟨d, thins⟩ := h.thins pos linked
  exact ⟨_, thins.store, fun row hrow =>
    ⟨r, List.mem_singleton_self r, Store.eligible_of_mem_take hrow⟩⟩

theorem Removal.Course.dry_within {r : Removal} {rounds : Nat}
    (h : r.Course guard rounds .within acts) (pos : 0 < r.chunkSize) (linked : Linked s acts s') :
    s'.due r.cutoff r.scope = [] := by
  obtain ⟨d, thins⟩ := h.thins pos linked
  rw [thins.store, Store.due_thinned, thins.within rfl, List.drop_length]

namespace PerformanceCycle

theorem Removals.keeps {rounds : Nat} {removals : List Removal} {report : Report}
    {outcome : Outcome} (h : Removals guard rounds removals report outcome acts) :
    ∀ out, outcome = .completed out → report.steps <+: out.steps := by
  induction h with
  | done =>
    rintro _ ⟨⟩
    exact List.prefix_refl _
  | next _ _ ih => exact fun out hout => (Report.prefix_push _ _).trans (ih out hout)
  | passing _ _ _ ih => exact fun out hout => (Report.prefix_push _ _).trans (ih out hout)
  | _ => exact nofun

theorem Removals.no_error {rounds : Nat} {removals : List Removal} {report out : Report}
    {step : StepReport}
    (h : Removals guard rounds removals (report.push step) (.completed out) acts)
    (clean : out.hasFailures = false) : step.error = none :=
  Report.no_error clean ((h.keeps out rfl).subset (report.mem_push step))

/-- However removals end, what they took was due for one of them when they began. -/
theorem Removals.lost {rounds : Nat} {removals : List Removal} {report : Report}
    {outcome : Outcome} (h : Removals guard rounds removals report outcome acts) :
    (∀ r ∈ removals, 0 < r.chunkSize) → ∀ {s : Store}, Linked s acts s' → Lost removals s s' := by
  induction h with
  | done =>
    rintro - s rfl
    exact .refl
  | next course _ ih =>
    intro pos s linked
    obtain ⟨m, first, others⟩ := (linked_append _ _).1 linked
    obtain ⟨pos, later⟩ := List.forall_mem_cons.1 pos
    exact (course.lost pos first).cons (ih later others)
  | exceeded course =>
    intro pos s linked
    obtain ⟨m, first, rfl⟩ := (linked_append _ _).1 linked
    exact (course.lost (pos _ List.mem_cons_self) first).mono (by simp)
  | unfinished course =>
    exact fun pos _ linked => (course.lost (pos _ List.mem_cons_self) linked).mono (by simp)
  | failed course =>
    exact fun pos _ linked => (course.lost (pos _ List.mem_cons_self) linked).mono (by simp)
  | passing course _ _ ih =>
    intro pos s linked
    obtain ⟨m, first, others⟩ := (linked_append _ _).1 linked
    obtain ⟨pos, later⟩ := List.forall_mem_cons.1 pos
    exact (course.lost pos first).cons (ih later others)

/-- Removals that complete and tell of no error leave nothing that is due. -/
theorem Removals.dry {rounds : Nat} {removals : List Removal} {report : Report}
    {outcome : Outcome} (h : Removals guard rounds removals report outcome acts) :
    (∀ r ∈ removals, 0 < r.chunkSize) → ∀ {s : Store} {out : Report}, Linked s acts s' →
      outcome = .completed out → out.hasFailures = false →
        ∀ r ∈ removals, s'.due r.cutoff r.scope = [] := by
  induction h with
  | done => exact fun _ _ _ _ _ _ => nofun
  | next course next ih =>
    intro pos s out linked hout clean
    obtain ⟨m, first, others⟩ := (linked_append _ _).1 linked
    obtain ⟨pos, later⟩ := List.forall_mem_cons.1 pos
    exact List.forall_mem_cons.2 ⟨(next.lost later others).due_eq_nil (course.dry_within pos first),
      ih later others hout clean⟩
  | passing _ _ next =>
    intro _ s out _ hout clean
    subst hout
    exact nomatch next.no_error clean
  | _ => exact fun _ _ _ _ => nofun

theorem make_ok {policy : Policy} {single : SingleRetention} {exempt : Bool} {c : PerformanceCycle}
    (h : make policy single exempt = .ok c) :
    c = ⟨policy, single⟩ ∧ (exempt = false → retentionFloor ≤ policy.days) := by
  cases exempt with
  | true =>
    cases h
    exact ⟨rfl, nofun⟩
  | false =>
    by_cases low : policy.days < retentionFloor
    · simp [make, Policy.checkFloor, low, bind, Except.bind] at h
    · simp [make, Policy.checkFloor, low, bind, Except.bind, pure, Except.pure] at h
      exact ⟨h.symm, fun _ => UInt32.not_lt.1 low⟩

/-- The removals of a cycle that begins with this store. -/
def removals (c : PerformanceCycle) (cutoff singleCutoff : Instant) (s : Store) : List Removal :=
  .main cutoff c.policy.chunkSize ::
    ((s.repositoryNamed c.single.repository).map fun r => c.singleRemoval singleCutoff r.id).toList

theorem removals_of_id {c : PerformanceCycle} {cutoff singleCutoff : Instant} {id? : Option Int}
    (h : s.repositoryId? c.single.repository = .ok id?) :
    c.removals cutoff singleCutoff s =
      .main cutoff c.policy.chunkSize :: (id?.map (c.singleRemoval singleCutoff)).toList := by
  rw [Store.repositoryId?_ok h, Option.map_map]
  rfl

theorem removals_pos {c : PerformanceCycle} {cutoff singleCutoff : Instant} :
    ∀ r ∈ c.removals cutoff singleCutoff s, 0 < r.chunkSize := by
  have pos := c.policy.chunkSize_pos
  unfold removals
  refine List.forall_mem_cons.2 ⟨pos, fun r hr => ?_⟩
  obtain ⟨repository, -, rfl⟩ := Option.map_eq_some_iff.1 (Option.mem_toList.1 hr)
  exact pos

/-- What a cycle takes is due for one of its removals, and if it completes with no error, nothing is
due for any of them any more. The removals are those of the store that it found: nothing was deleted
yet when the repository was looked up. If an error that may pass kept it from being looked up, only
the main removal is made, and the report tells of it. -/
theorem Course.lost {c : PerformanceCycle} {now : Instant} {rounds : Nat} {outcome : Outcome}
    (h : c.Course now rounds outcome acts) (linked : Linked s acts s') :
    (s' = s ∧ ∀ out, outcome ≠ .completed out) ∨
      ∃ cutoff singleCutoff, c.Cutoffs now cutoff singleCutoff ∧
      Lost (c.removals cutoff singleCutoff s) s s' ∧
      ∀ out, outcome = .completed out → out.hasFailures = false →
        ∀ r ∈ c.removals cutoff singleCutoff s, s'.due r.cutoff r.scope = [] := by
  cases h with
  | outOfRange => exact .inl ⟨linked, nofun⟩
  | @resolved _ cutoff singleCutoff id b _ _ _ cutoffs all =>
    obtain ⟨rfl, sound, later⟩ := linked
    obtain ⟨hid, ha⟩ := ofQuery_ok (f := fun s => s.repositoryId? c.single.repository) sound
    rw [ha] at later
    have both : c.removals cutoff singleCutoff b.store =
        [.main cutoff c.policy.chunkSize, c.singleRemoval singleCutoff id] :=
      removals_of_id hid
    rw [← both] at all
    exact .inr ⟨cutoff, singleCutoff, cutoffs, all.lost removals_pos later,
      fun out hout clean => all.dry removals_pos later hout clean⟩
  | @unknown _ cutoff singleCutoff b _ _ _ cutoffs all =>
    obtain ⟨rfl, sound, later⟩ := linked
    obtain ⟨hid, ha⟩ := ofQuery_ok (f := fun s => s.repositoryId? c.single.repository) sound
    rw [ha] at later
    have only : c.removals cutoff singleCutoff b.store = [.main cutoff c.policy.chunkSize] :=
      removals_of_id hid
    rw [← only] at all
    exact .inr ⟨cutoff, singleCutoff, cutoffs, all.lost removals_pos later,
      fun out hout clean => all.dry removals_pos later hout clean⟩
  | failed =>
    obtain ⟨rfl, sound, rfl⟩ := linked
    exact .inl ⟨sound, nofun⟩
  | @passing _ cutoff singleCutoff _ _ _ _ _ cutoffs transient all =>
    obtain ⟨rfl, sound, later⟩ := linked
    rw [show _ = _ from sound] at later
    have pos : ∀ r ∈ [Removal.main cutoff c.policy.chunkSize], 0 < r.chunkSize :=
      List.forall_mem_singleton.2 c.policy.chunkSize_pos
    refine .inr ⟨cutoff, singleCutoff, cutoffs, (all.lost pos later).mono (by simp [removals]), ?_⟩
    rintro out rfl clean
    exact nomatch all.no_error clean

/-- What the removals of a cycle take, told by the texts of timestamps. -/
theorem exists_removal_iff {c : PerformanceCycle} {cutoff singleCutoff : Instant}
    {row : Store.Datum} :
    (∃ r ∈ c.removals cutoff singleCutoff s, row.Eligible r.cutoff r.scope) ↔
      row.pushed < cutoff.stored ∨
        row.BelongsTo s c.single.repository ∧ row.pushed < singleCutoff.stored := by
  unfold removals Store.Datum.BelongsTo
  constructor
  · rintro ⟨r, hr, early, scope⟩
    rcases List.mem_cons.1 hr with rfl | hr
    · exact .inl early
    · obtain ⟨repository, hnamed, rfl⟩ := Option.map_eq_some_iff.1 (Option.mem_toList.1 hr)
      rw [hnamed, Option.map_some, scope repository.id rfl]
      exact .inr ⟨rfl, early⟩
  · rintro (early | ⟨belongs, early⟩)
    · exact ⟨_, List.mem_cons_self, early, nofun⟩
    · obtain ⟨repository, hnamed, hid⟩ := Option.map_eq_some_iff.1 belongs
      refine ⟨c.singleRemoval singleCutoff repository.id, ?_, early, ?_⟩
      · rw [hnamed]
        exact List.mem_cons_of_mem _ (List.mem_singleton_self _)
      · rintro id ⟨⟩
        exact hid.symm

/-- A row is past its retention: that of all, or that of its repository. -/
def Past (c : PerformanceCycle) (now : Instant) (s : Store) (stamp : Store.Datum → Instant)
    (row : Store.Datum) : Prop :=
  (stamp row).Before (now.back c.policy.days.toNat) ∨
    row.BelongsTo s c.single.repository ∧ (stamp row).Before (now.back c.single.days.toNat)

instance (c : PerformanceCycle) (now : Instant) (s : Store) (stamp : Store.Datum → Instant)
    (row : Store.Datum) : Decidable (c.Past now s stamp row) :=
  inferInstanceAs (Decidable (_ ∨ _))

theorem past_iff {c : PerformanceCycle} {now cutoff singleCutoff : Instant}
    (cutoffs : c.Cutoffs now cutoff singleCutoff) (recent : now.date.year ≤ 9999)
    {stamp : Store.Datum → Instant} {row : Store.Datum}
    (stamped : 0 ≤ (stamp row).date.year ∧ (stamp row).date.year ≤ 9999 ∧
      row.pushed = (stamp row).stored) :
    (∃ r ∈ c.removals cutoff singleCutoff s, row.Eligible r.cutoff r.scope) ↔
      c.Past now s stamp row := by
  obtain ⟨start, finish, text⟩ := stamped
  have order (days : Nat) :
      row.pushed < (now.back days).stored ↔ (stamp row).Before (now.back days) := by
    rw [text]
    exact Instant.stored_lt_iff start finish (Int.le_trans (now.back_year_le days) recent)
  rw [exists_removal_iff, Instant.daysBefore?_eq cutoffs.main,
    Instant.daysBefore?_eq cutoffs.single, order, order, Past]

/-- The rows that go are past their retention, and if the cycle completes and tells of no error, all
that are past it have gone. -/
theorem Course.takes_past {c : PerformanceCycle} {now : Instant} {rounds : Nat} {outcome : Outcome}
    (h : c.Course now rounds outcome acts) (linked : Linked s acts s')
    (recent : now.date.year ≤ 9999) {stamp : Store.Datum → Instant}
    (stamped : ∀ row ∈ s.data, 0 ≤ (stamp row).date.year ∧ (stamp row).date.year ≤ 9999 ∧
      row.pushed = (stamp row).stored) :
    (∀ row ∈ s.data, row ∉ s'.data → c.Past now s stamp row) ∧
      ∀ out, outcome = .completed out → out.hasFailures = false →
        s'.data = s.data.filter fun row => ¬ c.Past now s stamp row := by
  rcases h.lost linked with ⟨rfl, unfinished⟩ | ⟨cutoff, singleCutoff, cutoffs, lost, dry⟩
  · exact ⟨fun row was is_not => absurd was is_not, fun out hout => absurd hout (unfinished out)⟩
  constructor
  · intro row was is_not
    exact (past_iff cutoffs recent (stamped row was)).1 (lost.removed was is_not)
  · intro out hout clean
    rw [lost.data_eq (dry out hout clean)]
    refine List.filter_congr fun row was => decide_eq_decide.2 ?_
    rw [← past_iff cutoffs recent (stamped row was)]
    simp only [not_exists, not_and]

end PerformanceCycle

namespace Cycler

open Settings (RetentionSettings)

/-- A cycle that is made keeps to the floor, unless its host is exempt. -/
theorem make_performance {options : Options} {settings : RetentionSettings}
    {siteHost : Option String} {cycler : Cycler}
    (made : make .performance options settings siteHost = .ok cycler) :
    ∃ policy : Policy, policy.days = options.days.getD settings.performance.days ∧
      cycler = .performance
        ⟨policy, settings.performance.scopedRepository, settings.performance.scopedDays⟩ ∧
      (settings.performance.isFloorExempt siteHost = false → retentionFloor ≤ policy.days) := by
  unfold make Policy.make at made
  simp only [bind, Except.bind, pure, Except.pure] at made
  split_ifs at made with pos
  simp only at made
  split at made
  · cases made
  · rename_i c hc
    obtain ⟨rfl, floor⟩ := PerformanceCycle.make_ok hc
    cases made
    exact ⟨_, rfl, rfl, floor⟩

theorem not_exempt {r : Settings.PerformanceRetention} {siteHost : Option String}
    (plain : ∀ name ∈ siteHost, name ∉ r.floorExemptHosts) : r.isFloorExempt siteHost = false := by
  rcases siteHost with _ | name
  · rfl
  · have := plain name rfl
    simpa [Settings.PerformanceRetention.isFloorExempt] using this

theorem run_performance (world : World ω) (span : Option DataDomain) (c : PerformanceCycle)
    (rounds : Nat) :
    world.Does ((performance c).run (world.host span) world.access rounds)
      (c.Course world.now rounds) :=
  .log_bind (c.run_course world (some .performance) rounds)

/-- Whatever the clock, the errors and the outcome, the cycle of performance data of a host that is
not exempt takes no row that was pushed within the last year, unless it belongs to the repository
with a retention of its own and is past that; and if it completes and tells of no error, it has
taken all the rows that it was asked to take, and no other. -/
theorem run_keeps_floor (around : Surroundings ω) (options : Options) (settings : RetentionSettings)
    (siteHost : Option String) (cycler : Cycler)
    (made : make .performance options settings siteHost = .ok cycler)
    (plain : ∀ name ∈ siteHost, name ∉ settings.performance.floorExemptHosts)
    (span : Option DataDomain) (rounds : Nat) (state : ω) (s : Store)
    (stamp : Store.Datum → Instant)
    (stamped : ∀ row ∈ s.data, 0 ≤ (stamp row).date.year ∧ (stamp row).date.year ≤ 9999 ∧
      row.pushed = (stamp row).stored)
    (recent : around.now.date.year ≤ 9999) :
    let world := World.alone around
    let out := cycler.run (world.host span) world.access rounds ⟨⟨state, s⟩, []⟩
    let left := out.2.state.store.data
    let days := (options.days.getD settings.performance.days).toNat
    let single := settings.performance.scopedRepository
    let singleDays := settings.performance.scopedDays.toNat
    (∀ row ∈ s.data, row ∉ left → (stamp row).Before (around.now.back 365) ∨
      row.BelongsTo s single ∧ (stamp row).Before (around.now.back singleDays)) ∧
    ∀ report, out.1 = .completed report → report.hasFailures = false →
      left = s.data.filter fun row => ¬ (stamp row).Before (around.now.back days) ∧
        ¬ (row.BelongsTo s single ∧ (stamp row).Before (around.now.back singleDays)) := by
  intro world out left days single singleDays
  obtain ⟨policy, hdays, rfl, floor⟩ := make_performance made
  obtain ⟨acts, ran, course⟩ := run_performance world span ⟨policy, _⟩ rounds ⟨⟨state, s⟩, []⟩
  obtain ⟨past, kept⟩ := course.takes_past ran.linked recent stamped
  constructor
  · intro row was is_not
    have kept_long : 365 ≤ policy.days.toNat := floor (not_exempt plain)
    rcases past row was is_not with old | single
    · exact .inl (old.back_le kept_long)
    · exact .inr single
  · intro report completed clean
    refine (kept report completed clean).trans ?_
    refine List.filter_congr fun row _ => decide_eq_decide.2 ?_
    rw [PerformanceCycle.Past, not_or, hdays]
    exact Iff.rfl

/-- After a month, a row of the one repository goes where another of the same day stays. -/
theorem run_keeps_floor_of_month :
    let repositories : Store.Table Store.Repository :=
      ⟨[⟨1, "autoland"⟩, ⟨2, "try"⟩], by decide, by decide⟩
    let data : Store.Table Store.Datum := ⟨[⟨1, 1, "1968-12-31T00:00:00+00:00"⟩,
      ⟨2, 2, "1969-12-02T00:00:00+00:00"⟩, ⟨3, 1, "1969-12-02T00:00:00+00:00"⟩],
      by decide, by decide⟩
    let stamp (row : Store.Datum) : Instant :=
      ⟨if row.id = 1 then -31622400 else -2592000, 0, by decide⟩
    let s : Store := { repository := repositories, performanceDatum := data }
    let cycler := performance ⟨⟨365, 100, some 82800000000000, by decide⟩, "try", 28⟩
    let world := World.alone (.still ⟨0, 0, by decide⟩)
    let out := cycler.run (world.host none) world.access 3 ⟨⟨(), s⟩, []⟩
    let report : Report := ⟨.performance, [⟨"main", 1, 1, none⟩, ⟨"scoped:try", 1, 1, none⟩], 0⟩
    make .performance {} {} none = .ok cycler ∧
      (∀ row ∈ s.data, 0 ≤ (stamp row).date.year ∧ (stamp row).date.year ≤ 9999 ∧
        row.pushed = (stamp row).stored) ∧
      out.1 = .completed report ∧ report.hasFailures = false ∧
      out.2.state.store.data = [⟨3, 1, "1969-12-02T00:00:00+00:00"⟩] := by
  intro repositories data stamp s cycler world out report
  have made : make .performance {} {} none = .ok cycler := rfl
  have stamped : ∀ row ∈ s.data, 0 ≤ (stamp row).date.year ∧ (stamp row).date.year ≤ 9999 ∧
      row.pushed = (stamp row).stored := by decide +kernel
  have completed : out.1 = .completed report := by decide +kernel
  have clean : report.hasFailures = false := by decide
  have h := run_keeps_floor (.still ⟨0, 0, by decide⟩) {} {} none cycler made nofun none 3 () s
    stamp stamped (by decide +kernel)
  -- both sides name the same run; comparing them must not carry it out
  with_reducible obtain left := h.2 report completed clean
  refine ⟨made, stamped, completed, clean, ?_⟩
  with_reducible refine left.trans ?_
  decide +kernel

end Cycler

end Cycle

end Retention
