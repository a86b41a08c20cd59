import Retention.Proofs.Checks
import Retention.Proofs.Parts

/-!
# The parts of the cycle of performance data

Each removal is a part (`Removal.part`), and so is looking up the repository where that meets an
error; all of them are vital. The last call of a removal tells whether it was over
(`Removal.Course.over_iff`), so a report that a lack of time cut short can be told to have the steps
of all removals that were begun (`PerformanceCycle.run_accounts_for_removals`).
-/

namespace Retention.Cycle

open Store (DatabaseError)
open Time (Instant)

/-- How a removal ends that has nothing left to try. -/
def Ending.over : Ending → Bool
  | .within => true
  | .failed _ => true
  | _ => false

variable {σ : Type} {guard : Guard} {acts : List (Act σ)}

/-- The answer leaves nothing to try: an error, a chunk that was not filled, or a count of none. -/
def Act.settles : Act σ → Bool
  | .asked _ _ (.error _) _ => true
  | .asked (.deleteBefore _ _ limit) _ (.ok deleted) _ => deleted < limit.toUInt64
  | .asked (.countAtOrBefore ..) _ (.ok left) _ => left = 0
  | _ => false

namespace Part

variable {part : Part} {later : List (Act σ)}

/-- The last call of the part left nothing to try. -/
def Over (part : Part) (acts : List (Act σ)) : Prop :=
  ∃ act, (part.calls acts).getLast? = some act ∧ act.settles

theorem over_concat {q : Request} {before after : σ} {answer : Except DatabaseError q.Answer}
    (owned : part.owns q) :
    part.Over (acts ++ [.asked q before answer after]) ↔
      (Act.asked q before answer after).settles := by
  have mine : part.does (Act.asked q before answer after) := owned
  have last : (part.calls (acts ++ [.asked q before answer after])).getLast? =
      some (.asked q before answer after) := by
    rw [calls_append, calls, calls, List.filter_cons_of_pos mine, List.filter_nil,
      List.getLast?_concat]
  simp [Over, last]

theorem over_append (going : ¬ part.Over acts) : part.Over (acts ++ later) ↔ part.Over later := by
  unfold Over at going ⊢
  rw [calls_append, List.getLast?_append]
  rcases (part.calls later).getLast? with _ | act
  · simpa using going
  · simp

theorem over_congr {acts' : List (Act σ)} (same : part.calls acts' = part.calls acts) :
    part.Over acts' ↔ part.Over acts := by
  unfold Over
  rw [same]

/-- A part that ended with an error was over. -/
theorem Ran.over {e : DatabaseError} (ran : part.Ran (some e) acts) : part.Over acts := by
  obtain ⟨earlier, q, before, after, rfl, -⟩ := ran.broke
  have owned : part.owns q := ran.own (.asked q before (.error e) after)
    (List.mem_append_right _ (List.mem_singleton_self _))
  exact (over_concat owned).2 rfl

end Part

/-- One part was over before the next began: all of them in a cycle that completed, and in one that
was aborted all but the last of which the report has a step; `told` steps come before theirs. -/
structure Turns (parts : List Part) (told : Nat) (outcome : Outcome) (acts : List (Act σ)) :
    Prop where
  completed : ∀ report, outcome = .completed report → ∀ part ∈ parts, part.Over acts
  aborted : ∀ report reason, outcome = .aborted report reason → ∃ first last rest,
    parts = first ++ last :: rest ∧ report.steps.length = told + first.length + 1 ∧
    (∀ part ∈ first, part.Over acts) ∧ ¬ last.Over acts

namespace Turns

variable {parts : List Part} {told : Nat} {outcome : Outcome}

theorem of_calls_eq {acts' : List (Act σ)} (h : Turns parts told outcome acts)
    (same : ∀ part : Part, part.calls acts' = part.calls acts) :
    Turns parts told outcome acts' := by
  have over_iff (part : Part) := part.over_congr (same part)
  constructor
  · simpa only [over_iff] using h.completed
  · simpa only [over_iff] using h.aborted

theorem cons {part : Part} {error? : Option DatabaseError} {later : List (Act σ)}
    (ran : part.Ran error? acts) (ended : part.Over acts)
    (owned : ∀ act ∈ later, act.Asks fun q => ∃ part' ∈ parts, part'.owns q)
    (apart : ∀ part' ∈ parts, part.Apart part') (h : Turns parts (told + 1) outcome later) :
    Turns (part :: parts) told outcome (acts ++ later) := by
  have first : part.Over (acts ++ later) :=
    (Part.over_congr (Part.calls_append_of_owned owned apart)).2 ended
  have others : ∀ part' ∈ parts, (part'.Over (acts ++ later) ↔ part'.Over later) :=
    fun part' hpart => Part.over_congr (ran.calls_append (apart part' hpart))
  refine ⟨fun report completed => List.forall_mem_cons.2 ⟨first, fun part' hpart => ?_⟩,
    fun report reason aborted => ?_⟩
  · exact (others part' hpart).2 (h.completed report completed part' hpart)
  · obtain ⟨earlier, last, rest, rfl, hlength, ended, going⟩ := h.aborted report reason aborted
    refine ⟨part :: earlier, last, rest, rfl, ?_,
      List.forall_mem_cons.2 ⟨first, fun part' hpart => ?_⟩, ?_⟩
    · rw [hlength, List.length_cons]
      omega
    · exact (others part' (List.mem_append_left _ hpart)).2 (ended part' hpart)
    · rwa [others last (List.mem_append_right _ List.mem_cons_self)]

end Turns

namespace Removal

def part (r : Removal) : Part where
  name := r.name
  owns
    | .maxIdAfter cutoff scope => cutoff = r.cutoff ∧ scope = r.scope
    | .countAtOrBefore cutoff _ scope _ => cutoff = r.cutoff ∧ scope = r.scope
    | .deleteBefore cutoff scope _ => cutoff = r.cutoff ∧ scope = r.scope
    | _ => false
  opening := .maxIdAfter r.cutoff r.scope
  vital := true

variable {r : Removal} {rounds : Nat} {ending : Ending}

theorem owns_maxIdAfter : r.part.owns (.maxIdAfter r.cutoff r.scope) := by simp [part]

theorem owns_countAtOrBefore (maxId : Option Int) (cap : UInt32) :
    r.part.owns (.countAtOrBefore r.cutoff maxId r.scope cap) := by
  simp [part]

theorem owns_deleteBefore (limit : UInt32) :
    r.part.owns (.deleteBefore r.cutoff r.scope limit) := by
  simp [part]

theorem part_apart {r' : Removal} (ne : r.scope ≠ r'.scope) : r.part.Apart r'.part := by
  intro q owned
  cases q with
  | maxIdAfter | countAtOrBefore | deleteBefore =>
    obtain ⟨-, rfl⟩ := of_decide_eq_true owned
    exact decide_eq_false fun h => ne h.2
  | _ => rfl

end Removal

/-- The error in place of a result. -/
def failure? {α : Type} : Except DatabaseError α → Option DatabaseError
  | .error e => some e
  | .ok _ => none

theorem Sizing.ran {r : Removal} {result : Except DatabaseError UInt32}
    (h : Sizing r.cutoff r.chunkSize r.scope result acts) : r.part.Ran (failure? result) acts := by
  cases h with
  | unbounded => exact .failed Removal.owns_maxIdAfter
  | uncounted =>
    exact .append (.answered Removal.owns_maxIdAfter) (.failed (Removal.owns_countAtOrBefore _ _))
  | sized =>
    exact .append (.answered Removal.owns_maxIdAfter)
      (.answered (Removal.owns_countAtOrBefore _ _))

theorem Sizing.opens {cutoff : Instant} {nominal : UInt32} {scope : Option Int}
    {result : Except DatabaseError UInt32} (h : Sizing cutoff nominal scope result acts) :
    ∃ before answer after later,
      acts = .asked (.maxIdAfter cutoff scope) before answer after :: later := by
  cases h <;> exact ⟨_, _, _, _, rfl⟩

namespace Removal

variable {r : Removal} {rounds : Nat} {ending : Ending}

theorem Attempt.ran {result : Except DatabaseError (UInt32 × UInt64)}
    (h : r.Attempt result acts) : r.part.Ran (failure? result) acts := by
  cases h with
  | unsized sizing => exact sizing.ran
  | undeleted sizing => exact sizing.ran.append (.failed (owns_deleteBefore _))
  | deleted sizing => exact sizing.ran.append (.answered (owns_deleteBefore _))

theorem Attempt.opens {result : Except DatabaseError (UInt32 × UInt64)}
    (h : r.Attempt result acts) : ∃ before answer after later,
      acts = .asked r.part.opening before answer after :: later := by
  cases h with
  | unsized sizing => exact sizing.opens
  | undeleted sizing | deleted sizing =>
    obtain ⟨before, answer, after, later, rfl⟩ := sizing.opens
    exact ⟨before, answer, after, _, rfl⟩

theorem Attempt.over_iff {limit : UInt32} {k : UInt64} (h : r.Attempt (.ok (limit, k)) acts) :
    r.part.Over acts ↔ k < limit.toUInt64 := by
  cases h with
  | deleted =>
    rw [Part.over_concat (owns_deleteBefore limit)]
    exact decide_eq_true_iff

theorem Glance.ran {answer : Except DatabaseError Bool} (h : r.Glance answer acts) :
    r.part.Ran (failure? answer) acts := by
  cases h with
  | failed => exact .failed (owns_countAtOrBefore _ _)
  | counted => exact .answered (owns_countAtOrBefore _ _)

theorem Glance.over_iff {left : Bool} (h : r.Glance (.ok left) acts) :
    r.part.Over acts ↔ left = false := by
  cases h with
  | @counted k =>
    rw [← List.nil_append [_], Part.over_concat (owns_countAtOrBefore none 1)]
    change decide (k = 0) ↔ _
    rw [decide_eq_true_iff, decide_eq_false_iff_not, UInt64.pos_iff_ne_zero, Classical.not_not]

theorem Course.ran (h : r.Course guard rounds ending acts) : r.part.Ran ending.error? acts := by
  induction h with
  | spent => exact .nil
  | tripped => exact .look
  | failed _ attempt => exact .append .look attempt.ran
  | dry _ attempt => exact .append .look attempt.ran
  | full _ attempt _ _ _ ih => exact .append .look (.append attempt.ran ih)
  | unknown _ attempt _ _ glance | empty _ attempt _ _ glance =>
    exact .append .look (.append attempt.ran glance.ran)
  | more _ attempt _ _ glance _ ih =>
    exact .append .look (.append attempt.ran (.append glance.ran ih))

/-- A removal's calls end as those of a finished part do exactly if it ended within or with an
error; one that was stopped, or had no rounds left, ended in the middle. -/
theorem Course.over_iff (h : r.Course guard rounds ending acts) :
    r.part.Over acts ↔ ending.over := by
  have idle {acts : List (Act σ)} (none : r.part.calls acts = []) : ¬ r.part.Over acts := by
    simp [Part.Over, none]
  have look {reading : Time.Duration} {acts : List (Act σ)} :
      r.part.Over (.looked reading :: acts) ↔ r.part.Over acts := Iff.rfl
  induction h with
  | spent => exact iff_of_false (idle rfl) nofun
  | tripped => exact iff_of_false (idle rfl) nofun
  | failed _ attempt => exact iff_of_true (look.2 attempt.ran.over) rfl
  | dry _ attempt few => exact iff_of_true (look.2 (attempt.over_iff.2 few)) rfl
  | full _ attempt filled _ _ ih =>
    exact look.trans ((Part.over_append (attempt.over_iff.not.2 filled)).trans ih)
  | unknown _ attempt filled _ glance =>
    rw [look, Part.over_append (attempt.over_iff.not.2 filled)]
    exact iff_of_true glance.ran.over rfl
  | empty _ attempt filled _ glance =>
    rw [look, Part.over_append (attempt.over_iff.not.2 filled)]
    exact iff_of_true (glance.over_iff.2 rfl) rfl
  | more _ attempt filled _ glance _ ih =>
    exact look.trans ((Part.over_append (attempt.over_iff.not.2 filled)).trans
      ((Part.over_append (glance.over_iff.not.2 nofun)).trans ih))

/-- Rounds run out only when each of them deleted a chunk. -/
theorem Course.spends_rounds (h : r.Course guard rounds ending acts) :
    ending = .unfinished → (deletions acts).length = rounds := by
  induction h with
  | spent => exact fun _ => rfl
  | full _ attempt _ _ _ ih =>
    intro unfinished
    change (deletions (_ ++ _)).length = _
    rw [deletions_append, attempt.deletions_ok, List.singleton_append, List.length_cons,
      ih unfinished]
  | more _ attempt _ _ glance _ ih =>
    intro unfinished
    change (deletions (_ ++ (_ ++ _))).length = _
    rw [deletions_append, deletions_append, attempt.deletions_ok, deletions_eq_nil glance.reads,
      List.nil_append, List.singleton_append, List.length_cons, ih unfinished]
  | _ => exact nofun

theorem Course.opened (h : r.Course guard rounds ending acts) (ended : ending.over) :
    r.part.Opened acts := by
  have opens {result : Except DatabaseError (UInt32 × UInt64)} {attempted : List (Act σ)}
      (attempt : r.Attempt result attempted) {reading : Time.Duration} (later : List (Act σ)) :
      r.part.Opened (.looked reading :: (attempted ++ later)) := by
    obtain ⟨before, answer, after, rest, rfl⟩ := attempt.opens
    exact ⟨before, answer, after, List.mem_cons_of_mem _ List.mem_cons_self⟩
  cases h with
  | spent | tripped => cases ended
  | failed _ attempt | dry _ attempt => simpa using opens attempt []
  | full _ attempt | unknown _ attempt | empty _ attempt | more _ attempt => exact opens attempt _

theorem Course.proceeds (h : r.Course guard rounds ending acts) (finished : ending ≠ .unfinished)
    (parts : List Part) (later : List (Act σ)) :
    Proceeds guard (r.part :: parts) (acts ++ later) := by
  have opens {result : Except DatabaseError (UInt32 × UInt64)} {attempted : List (Act σ)}
      (attempt : r.Attempt result attempted) (reading : Time.Duration) (later : List (Act σ)) :
      Proceeds guard (r.part :: parts) (.looked reading :: (attempted ++ later)) := by
    obtain ⟨before, answer, after, rest, rfl⟩ := attempt.opens
    exact ⟨reading, _, rfl, fun _ => ⟨before, answer, after, rest ++ later, rfl⟩⟩
  cases h with
  | spent => exact absurd rfl finished
  | tripped check => exact ⟨_, _, rfl, fun within => nomatch check.symm.trans within⟩
  | failed _ attempt | dry _ attempt => exact opens attempt _ later
  | full _ attempt | unknown _ attempt | empty _ attempt | more _ attempt =>
    rw [List.cons_append, List.append_assoc]
    exact opens attempt _ _

end Removal

namespace PerformanceCycle

variable {rounds : Nat} {removals : List Removal} {report : Report} {outcome : Outcome}

/-- Removals are run as parts, one step each; what comes after the last of them closes the cycle. A
removal that ended with an error that may pass is followed by the next part, like one that ended
well. -/
theorem Removals.staged (h : Removals guard rounds removals report outcome acts) :
    ∃ body closing steps ending, acts = body ++ closing ∧ Closes guard outcome closing ∧
      (ending ≠ .unfinished → Proceeds guard (removals.map Removal.part) body) ∧
      Staged guard (removals.map Removal.part) steps ending body ∧
      ending.Gives (report.steps ++ steps) outcome := by
  have told (step : StepReport) (steps : List StepReport) (report : Report) :
      (report.push step).steps ++ steps = report.steps ++ step :: steps := by
    rw [Report.push, List.append_assoc, List.singleton_append]
  induction h with
  | @done report =>
    exact ⟨[], _, [], .within, rfl, ⟨_, rfl, rfl⟩, fun _ => rfl, .done,
      (List.append_nil report.steps).symm⟩
  | next course _ ih =>
    obtain ⟨body, closing, steps, ending, rfl, closes, proceeds, staged, gives⟩ := ih
    rw [told] at gives
    exact ⟨_, closing, _, ending, (List.append_assoc ..).symm, closes,
      fun _ => course.proceeds nofun _ body,
      .next course.ran (course.opened rfl) nofun proceeds staged, gives⟩
  | exceeded course =>
    exact ⟨_, _, _, _, rfl, ⟨_, rfl, rfl⟩, fun _ => by simpa using course.proceeds nofun _ [],
      .stopped course.ran, rfl, rfl⟩
  | unfinished course =>
    exact ⟨_, [], _, _, (List.append_nil _).symm, rfl, fun finished => absurd rfl finished,
      .unfinished course.ran, trivial⟩
  | failed course lasting =>
    exact ⟨_, [], _, _, (List.append_nil _).symm, rfl,
      fun _ => by simpa using course.proceeds nofun _ [], .failed course.ran ⟨rfl, lasting⟩, rfl⟩
  | passing course transient _ ih =>
    obtain ⟨body, closing, steps, ending, rfl, closes, proceeds, staged, gives⟩ := ih
    rw [told] at gives
    refine ⟨_, closing, _, ending, (List.append_assoc ..).symm, closes,
      fun _ => course.proceeds nofun _ body,
      .next course.ran (course.opened rfl) ?_ proceeds staged, gives⟩
    rintro _ ⟨⟩ fails
    exact fails.2 transient

theorem Removals.owned (h : Removals guard rounds removals report outcome acts) :
    ∀ act ∈ acts, act.Asks fun q => ∃ part ∈ removals.map Removal.part, part.owns q := by
  obtain ⟨body, closing, steps, ending, rfl, closes, -, staged, -⟩ := h.staged
  refine List.forall_mem_append.2 ⟨staged.owned, fun act hact => ?_⟩
  obtain ⟨reading, rfl⟩ := closes.looks act hact
  trivial

theorem Removals.turns (h : Removals guard rounds removals report outcome acts) :
    (removals.map Removal.part).Pairwise Part.Apart →
      Turns (removals.map Removal.part) report.steps.length outcome acts := by
  have pushed (report : Report) (step : StepReport) :
      (report.push step).steps.length = report.steps.length + 1 := List.length_append
  induction h with
  | done => exact fun _ => ⟨fun _ _ => List.forall_mem_nil _, nofun⟩
  | next course next ih | passing course _ next ih =>
    intro apart
    obtain ⟨apart, rest_apart⟩ := List.pairwise_cons.1 apart
    have turns := ih rest_apart
    rw [pushed] at turns
    exact turns.cons course.ran (course.over_iff.2 rfl) next.owned apart
  | exceeded course =>
    refine fun _ => ⟨nofun, ?_⟩
    rintro _ _ ⟨⟩
    refine ⟨[], _, _, rfl, pushed _ _, List.forall_mem_nil _, ?_⟩
    rw [Part.over_congr (Part.calls_looks (by simp))]
    exact course.over_iff.not.2 nofun
  | unfinished | failed => exact fun _ => ⟨nofun, nofun⟩

theorem Removals.spends_rounds (h : Removals guard rounds removals report outcome acts) :
    outcome = .unfinished → rounds ≤ (deletions acts).length := by
  induction h with
  | next _ _ ih | passing _ _ _ ih =>
    intro unfinished
    rw [deletions_append, List.length_append]
    exact Nat.le_add_left_of_le (ih unfinished)
  | unfinished course => exact fun _ => Nat.le_of_eq (course.spends_rounds rfl).symm
  | _ => exact nofun

def lookupPart (c : PerformanceCycle) : Part where
  name := "scoped:" ++ c.single.repository
  owns q := q = .repositoryId? c.single.repository
  opening := .repositoryId? c.single.repository
  vital := true

/-- The removals of a cycle with these cutoffs, given the key that the repository has. -/
def removalsFor (c : PerformanceCycle) (cutoff singleCutoff : Instant) (id? : Option Int) :
    List Removal :=
  .main cutoff c.policy.chunkSize :: (id?.map (c.singleRemoval singleCutoff)).toList

theorem removalsFor_apart (c : PerformanceCycle) (cutoff singleCutoff : Instant)
    (id? : Option Int) :
    ((c.removalsFor cutoff singleCutoff id?).map Removal.part).Pairwise Part.Apart := by
  cases id? with
  | none => exact List.pairwise_singleton _ _
  | some id =>
    refine List.pairwise_pair.2 (Removal.part_apart ?_)
    exact nofun

theorem lookupPart_apart (c : PerformanceCycle) (r : Removal) : c.lookupPart.Apart r.part := by
  intro q owned
  obtain rfl := of_decide_eq_true owned
  rfl

theorem vital_of_mem {removals : List Removal} :
    ∀ part ∈ removals.map Removal.part, part.vital := by
  intro part hpart
  obtain ⟨r, -, rfl⟩ := List.mem_map.1 hpart
  rfl

/-- The removals up to the last look, which closes the report. -/
theorem Removals.in_turn (h : Removals guard rounds removals report outcome acts)
    (apart : (removals.map Removal.part).Pairwise Part.Apart) :
    ∃ body closing steps ending, acts = body ++ closing ∧ Closes guard outcome closing ∧
      (ending ≠ .unfinished → Proceeds guard (removals.map Removal.part) body) ∧
      Staged guard (removals.map Removal.part) steps ending body ∧
      ending.Gives (report.steps ++ steps) outcome ∧
      Turns (removals.map Removal.part) report.steps.length outcome body := by
  have turns := h.turns apart
  obtain ⟨body, closing, steps, ending, rfl, closes, proceeds, staged, gives⟩ := h.staged
  exact ⟨body, closing, steps, ending, rfl, closes, proceeds, staged, gives,
    turns.of_calls_eq fun part => (Part.calls_looks closes.looks).symm⟩

/-- What comes of a cycle whose repository was looked up with this answer. -/
theorem Course.looks_up {c : PerformanceCycle} {now cutoff singleCutoff : Instant}
    (h : c.Course now rounds outcome acts) (cutoffs : c.Cutoffs now cutoff singleCutoff) :
    ∃ started before answer after later, acts = .looked started ::
        .asked (.repositoryId? c.single.repository) before answer after :: later ∧
      match answer with
      | .ok id? => Removals ⟨started, c.policy.maxRuntime⟩ rounds
          (c.removalsFor cutoff singleCutoff id?) blank outcome later
      | .error e => (outcome = .failed e ∧ ¬ e.isTransient ∧ later = []) ∨ e.isTransient ∧
          Removals ⟨started, c.policy.maxRuntime⟩ rounds
            (c.removalsFor cutoff singleCutoff none) (blank.push (c.unresolved e)) outcome
              later := by
  cases h with
  | outOfRange none =>
    rw [cutoffs.main, cutoffs.single] at none
    simp at none
  | resolved cutoffs' removals | unknown cutoffs' removals =>
    obtain ⟨rfl, rfl⟩ := cutoffs.unique cutoffs'
    exact ⟨_, _, _, _, _, rfl, removals⟩
  | failed cutoffs' lasting => exact ⟨_, _, _, _, [], rfl, .inl ⟨rfl, lasting, rfl⟩⟩
  | passing cutoffs' transient removals =>
    obtain ⟨rfl, rfl⟩ := cutoffs.unique cutoffs'
    exact ⟨_, _, _, _, _, rfl, .inr ⟨transient, removals⟩⟩

theorem Removals.asks_no_name (h : Removals guard rounds removals report outcome acts) :
    ∀ act ∈ acts, act.Asks fun q => ∀ name, q ≠ .repositoryId? name := by
  refine fun act hact => (h.owned act hact).mono fun q owned name hq => ?_
  obtain ⟨part, hpart, owned⟩ := owned
  obtain ⟨r, -, rfl⟩ := List.mem_map.1 hpart
  subst hq
  cases owned

theorem Course.unbegun {c : PerformanceCycle} {now : Instant}
    (h : c.Course now rounds outcome acts)
    (none : c.policy.cutoff? now = none ∨ now.daysBefore? c.single.days.toNat = none) :
    outcome = .cutoffOutOfRange ∧ ∃ started, acts = [.looked started] := by
  have unmet {cutoff singleCutoff : Instant} : ¬ c.Cutoffs now cutoff singleCutoff := by
    intro cutoffs
    rw [cutoffs.main, cutoffs.single] at none
    simp at none
  cases h with
  | outOfRange => exact ⟨rfl, _, rfl⟩
  | resolved cutoffs | unknown cutoffs | failed cutoffs | passing cutoffs =>
    exact absurd cutoffs unmet

/-- What the acts of a cycle tell of its outcome, once the repository was looked up. -/
structure Recounted (c : PerformanceCycle) (guard : Guard) (rounds : Nat)
    (cutoff singleCutoff : Instant) (outcome : Outcome) (before : σ)
    (answer : Except DatabaseError (Option Int)) (after : σ) (later : List (Act σ)) : Prop where
  /-- It is looked up but once. -/
  once : ∀ act ∈ later, act.Asks fun q => ∀ name, q ≠ .repositoryId? name
  failed : ∀ e, outcome = .failed e ↔ ¬ e.isTransient ∧ ∃ q b a, .asked q b (.error e) a ∈
    .asked (.repositoryId? c.single.repository) before answer after :: later
  spent : outcome = .unfinished → rounds ≤ (deletions later).length
  in_range : outcome ≠ .cutoffOutOfRange
  /-- Each removal has its turn; the lookup has a step only where it met an error. -/
  in_turn : match answer with
    | .ok id? =>
      let parts := (c.removalsFor cutoff singleCutoff id?).map Removal.part
      Accounted guard parts outcome later ∧ Turns parts 0 outcome later
    | .error e =>
      let parts := [c.lookupPart, (Removal.main cutoff c.policy.chunkSize).part]
      let acts := .asked (.repositoryId? c.single.repository) before (.error e) after :: later
      Accounted guard parts outcome acts ∧ Turns parts 0 outcome acts

section Recounts

variable {c : PerformanceCycle} {now cutoff singleCutoff : Instant} {before after : σ}

theorem Removals.recounted {id? : Option Int}
    (h : Removals guard rounds (c.removalsFor cutoff singleCutoff id?) blank outcome acts) :
    ∃ later closing, acts = later ++ closing ∧ Closes guard outcome closing ∧
      c.Recounted guard rounds cutoff singleCutoff outcome before (.ok id?) after later := by
  have apart := c.removalsFor_apart cutoff singleCutoff id?
  have once := h.asks_no_name
  have spent := h.spends_rounds
  obtain ⟨later, closing, steps, ending, rfl, closes, -, staged, gives, turns⟩ := h.in_turn apart
  have accounted := staged.accounted apart gives
  rw [deletions_append, closes.deletions_eq_nil, List.append_nil] at spent
  refine ⟨later, closing, rfl, closes, (List.forall_mem_append.1 once).1, fun e => ?_, spent,
    gives.in_range, accounted, turns⟩
  have answered {q : Request} {b a : σ} : .asked q b (.error e) a ∈
      .asked (.repositoryId? c.single.repository) before (.ok id?) after :: later ↔
      .asked q b (.error e) a ∈ later :=
    ⟨fun h => (List.mem_cons.1 h).resolve_left nofun, List.mem_cons_of_mem _⟩
  simp only [answered]
  exact accounted.failed_iff vital_of_mem e

theorem unresolved_apart :
    [c.lookupPart, (Removal.main cutoff c.policy.chunkSize).part].Pairwise Part.Apart :=
  List.pairwise_pair.2 (c.lookupPart_apart _)

variable (c before after) in
theorem looked_up (e : DatabaseError) : c.lookupPart.Ran (some e)
    [.asked (.repositoryId? c.single.repository) before (.error e) after] :=
  .failed (decide_eq_true rfl)

theorem unresolved_vital :
    ∀ part ∈ [c.lookupPart, (Removal.main cutoff c.policy.chunkSize).part], part.vital := by
  simp [lookupPart, Removal.part]

/-- Where looking up met an error that may pass, one removal is left. -/
theorem Removals.recounted_unresolved {e : DatabaseError} (transient : e.isTransient)
    (h : Removals guard rounds (c.removalsFor cutoff singleCutoff none)
      (blank.push (c.unresolved e)) outcome acts) :
    ∃ later closing, acts = later ++ closing ∧ Closes guard outcome closing ∧
      c.Recounted guard rounds cutoff singleCutoff outcome before (.error e) after later := by
  have once := h.asks_no_name
  have spent := h.spends_rounds
  obtain ⟨later, closing, steps, ending, rfl, closes, proceeds, staged, gives, turns⟩ :=
    h.in_turn (c.removalsFor_apart cutoff singleCutoff none)
  rw [deletions_append, closes.deletions_eq_nil, List.append_nil] at spent
  have passes : ∀ e', some e = some e' → ¬ c.lookupPart.Fails e' := by
    rintro _ ⟨⟩ fails
    exact fails.2 transient
  have ran := c.looked_up before after e
  have accounted := (Staged.next ran ⟨before, _, after, List.mem_cons_self⟩ passes proceeds
    staged).accounted unresolved_apart gives
  have turns := turns.cons ran ran.over staged.owned (List.pairwise_cons.1 unresolved_apart).1
  exact ⟨later, closing, rfl, closes, (List.forall_mem_append.1 once).1,
    accounted.failed_iff unresolved_vital, spent, gives.in_range, accounted, turns⟩

theorem recounted_failed {e : DatabaseError} (lasting : ¬ e.isTransient) :
    c.Recounted guard rounds cutoff singleCutoff (.failed e) before (.error e) after [] := by
  have staged : Staged guard [c.lookupPart, (Removal.main cutoff c.policy.chunkSize).part] _ _ _ :=
    .failed (c.looked_up before after e) ⟨rfl, lasting⟩
  have gives (steps : List StepReport) : (Ending.failed e).Gives steps (.failed e) := rfl
  have accounted := staged.accounted unresolved_apart (gives _)
  exact ⟨List.forall_mem_nil _, accounted.failed_iff unresolved_vital, nofun, nofun, accounted,
    nofun, nofun⟩

theorem Course.recounted (h : c.Course now rounds outcome acts)
    (cutoffs : c.Cutoffs now cutoff singleCutoff) :
    ∃ started before answer after later closing, acts = .looked started ::
        .asked (.repositoryId? c.single.repository) before answer after :: (later ++ closing) ∧
      Closes ⟨started, c.policy.maxRuntime⟩ outcome closing ∧
      c.Recounted ⟨started, c.policy.maxRuntime⟩ rounds cutoff singleCutoff outcome before answer
        after later := by
  obtain ⟨started, before, answer, after, later, rfl, rest⟩ := h.looks_up cutoffs
  rcases answer with e | id?
  · rcases rest with ⟨rfl, lasting, rfl⟩ | ⟨transient, removals⟩
    · exact ⟨started, before, .error e, after, [], [], rfl, rfl, recounted_failed lasting⟩
    · obtain ⟨later, closing, rfl, closes, recounted⟩ := removals.recounted_unresolved transient
      exact ⟨started, before, .error e, after, later, closing, rfl, closes, recounted⟩
  · obtain ⟨later, closing, rfl, closes, recounted⟩ := rest.recounted
    exact ⟨started, before, .ok id?, after, later, closing, rfl, closes, recounted⟩

end Recounts

/-- Whatever the repository answers and the clock shows, the repository is looked up first and once.
The cycle fails exactly if a call met an error that lasts, and does nothing after it. Otherwise the
removals follow, that of all repositories first and that of the one, if it has a key, second; each
has a step that counts its deletes and tells of the error it met, and so has looking up the
repository if that met an error. Where the budget is found exceeded the cycle is aborted, the report
has the steps of all removals that were begun, and the others do nothing; otherwise the cycle
completes with all steps, unless its rounds run out. -/
theorem run_accounts_for_removals (world : World σ) (span : Option DataDomain)
    (c : PerformanceCycle) (rounds : Nat) (state : σ) :
    let out := c.run (world.host span) world.access.performance rounds ⟨state, []⟩
    match c.policy.cutoff? world.now, world.now.daysBefore? c.single.days.toNat with
    | some cutoff, some singleCutoff => ∃ started before answer after later closing,
      out.2.acts = .looked started ::
        .asked (.repositoryId? c.single.repository) before answer after :: (later ++ closing) ∧
      let guard : Guard := ⟨started, c.policy.maxRuntime⟩
      Closes guard out.1 closing ∧
      (∀ reason, (∃ report, out.1 = .aborted report reason) ↔
        ∃ reading, .looked reading ∈ later ∧ guard.check reading = .exceeded reason) ∧
      c.Recounted guard rounds cutoff singleCutoff out.1 before answer after later
    | _, _ => out.1 = .cutoffOutOfRange ∧ ∃ started, out.2.acts = [.looked started] := by
  intro out
  obtain ⟨acts, ran, course⟩ := run_course world span c rounds ⟨state, []⟩
  have hacts : out.2.acts = acts := ran.acts_eq
  change c.Course world.now rounds out.1 acts at course
  rw [hacts]
  rcases main : c.policy.cutoff? world.now with _ | cutoff
  · exact course.unbegun (.inl main)
  rcases single : world.now.daysBefore? c.single.days.toNat with _ | singleCutoff
  · exact course.unbegun (.inr single)
  obtain ⟨started, before, answer, after, later, closing, rfl, closes, recounted⟩ :=
    course.recounted ⟨main, single⟩
  refine ⟨started, before, answer, after, later, closing, rfl, closes, fun reason => ?_, recounted⟩
  obtain ⟨_, _, heq, conducted⟩ := course.conducted
  cases heq
  rw [← List.cons_append] at conducted
  simpa using conducted.aborted_iff closes reason

end PerformanceCycle

end Retention.Cycle
