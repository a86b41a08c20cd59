import Mathlib.Data.List.Forall2
import Retention.Cycle.Outcome
import Retention.Cycle.Removal
import Retention.Proofs.Calls
import Retention.Proofs.Steps

/-!
# Parts of a cycle

A cycle falls into parts, one after the other, each with calls of its own and a step that tells of
it (`Part`). The first error ends its part: where the part is vital and the error lasts, it ends the
whole cycle, and otherwise the next part follows if the budget lasts.

What a cycle does is a stretch of acts for each part (`Staged`). Since no call belongs to two parts,
the acts tell of a part what its stretch tells (`Staged.accounted`): its step has the error that it
met, if it met one, and counts its deletes.
-/

namespace Retention.Cycle

open Store (DatabaseError)

structure Part where
  /-- The name of its step. -/
  name : String
  /-- Whether a call belongs to the part. -/
  owns : Request → Bool
  /-- The call that the part begins with. -/
  opening : Request
  /-- Whether a lasting error fails the cycle. -/
  vital : Bool

variable {σ : Type}

namespace Part

def does (part : Part) : Act σ → Bool
  | .asked q .. => part.owns q
  | _ => false

/-- The calls of the part among the acts. -/
def calls (part : Part) (acts : List (Act σ)) : List (Act σ) := acts.filter part.does

/-- A call of the part ended with the error. -/
def Met (part : Part) (e : DatabaseError) (acts : List (Act σ)) : Prop :=
  ∃ q before after, .asked q before (.error e) after ∈ part.calls acts

def Opened (part : Part) (acts : List (Act σ)) : Prop :=
  ∃ before answer after, .asked part.opening before answer after ∈ acts

/-- The error fails the cycle if a call of the part ends with it. -/
def Fails (part : Part) (e : DatabaseError) : Prop := part.vital ∧ ¬ e.isTransient

/-- No call belongs to both. -/
def Apart (part part' : Part) : Prop := ∀ q, part.owns q → part'.owns q = false

/-- The step has the name of the part, counts its deletes that were carried out and the rows that
went by them, and has the text of an error exactly if a call of the part ended with that. -/
structure Told (part : Part) (acts : List (Act σ)) (step : StepReport) : Prop where
  name : step.name = part.name
  deleted : step.deleted = (rowsDeleted (part.calls acts)).toUInt64
  statements : step.statements = (deletions (part.calls acts)).length.toUInt32
  error : ∀ text, step.error = some text ↔ ∃ e, part.Met e acts ∧ text = e.message

end Part

/-- A look at the clock comes first, and if it finds the budget kept, the opening call of the next
part; nothing follows the last part. -/
def Proceeds (guard : Guard) : List Part → List (Act σ) → Prop
  | [], acts => acts = []
  | next :: _, acts => ∃ reading rest, acts = .looked reading :: rest ∧
      (guard.check reading = .within → ∃ before answer after later,
        rest = .asked next.opening before answer after :: later)

/-! ### The stretch of a part -/

/-- All calls are answered, or all up to the last, which ends with the error. -/
def Broke : Option DatabaseError → List (Act σ) → Prop
  | none, acts => ∀ act ∈ acts, act.Answered
  | some e, acts => ∃ earlier q before after, acts = earlier ++ [.asked q before (.error e) after] ∧
      ∀ act ∈ earlier, act.Answered

namespace Part

/-- The acts are of this part alone, and it ended with the error, if there is one. -/
structure Ran (part : Part) (error? : Option DatabaseError) (acts : List (Act σ)) : Prop where
  own : ∀ act ∈ acts, act.Asks fun q => part.owns q
  broke : Broke error? acts

/-- The step of a part that did these acts and ended so. -/
def step (part : Part) (error? : Option DatabaseError) (acts : List (Act σ)) : StepReport :=
  let step := ({ name := part.name } : StepReport).after acts
  error?.elim step step.fail

variable {part part' : Part} {error? : Option DatabaseError} {acts acts' : List (Act σ)}

theorem calls_append : part.calls (acts ++ acts') = part.calls acts ++ part.calls acts' :=
  List.filter_append ..

theorem calls_looks (looks : ∀ act ∈ acts', ∃ reading, act = .looked reading) :
    part.calls (acts ++ acts') = part.calls acts := by
  have none : part.calls acts' = [] := by
    refine List.filter_eq_nil_iff.2 fun act hact => ?_
    obtain ⟨reading, rfl⟩ := looks act hact
    exact nofun
  rw [calls_append, none, List.append_nil]

theorem Apart.calls_eq_nil (apart : part.Apart part')
    (own : ∀ act ∈ acts, act.Asks fun q => part.owns q) : part'.calls acts = [] := by
  refine List.filter_eq_nil_iff.2 fun act hact => ?_
  have owned := own act hact
  cases act with
  | asked q => simp [does, apart q owned]
  | _ => exact nofun

theorem calls_eq_nil_of_owned {parts : List Part}
    (owned : ∀ act ∈ acts, act.Asks fun q => ∃ part' ∈ parts, part'.owns q)
    (apart : ∀ part' ∈ parts, part.Apart part') : part.calls acts = [] := by
  refine List.filter_eq_nil_iff.2 fun act hact does => ?_
  have owned := owned act hact
  cases act with
  | asked q =>
    obtain ⟨part', hpart, hq⟩ := owned
    rw [apart part' hpart q does] at hq
    cases hq
  | _ => cases does

theorem calls_append_of_owned {parts : List Part}
    (owned : ∀ act ∈ acts', act.Asks fun q => ∃ part' ∈ parts, part'.owns q)
    (apart : ∀ part' ∈ parts, part.Apart part') : part.calls (acts ++ acts') = part.calls acts := by
  rw [calls_append, calls_eq_nil_of_owned owned apart, List.append_nil]

theorem deletions_calls (own : ∀ act ∈ acts, act.Asks fun q => part.owns q) :
    deletions (part.calls acts) = deletions acts := by
  unfold deletions calls
  rw [List.filterMap_filter]
  refine List.filterMap_congr fun act hact => ?_
  have owned := own act hact
  cases act with
  | asked q => exact if_pos owned
  | _ => rfl

theorem met_congr (same : part.calls acts' = part.calls acts) {e : DatabaseError} :
    part.Met e acts' ↔ part.Met e acts := by
  unfold Met
  rw [same]

theorem Told.of_calls_eq {step : StepReport} (told : part.Told acts step)
    (same : part.calls acts' = part.calls acts) : part.Told acts' step where
  name := told.name
  deleted := by rw [same, told.deleted]
  statements := by rw [same, told.statements]
  error text := by simp only [told.error, met_congr same]

theorem step_eq : part.step error? acts = {
    name := part.name
    deleted := (rowsDeleted acts).toUInt64
    statements := (deletions acts).length.toUInt32
    error := error?.map (·.message) } := by
  unfold step
  rw [StepReport.after_eq]
  cases error? <;> simp [StepReport.fail]

namespace Ran

theorem nil : part.Ran none ([] : List (Act σ)) := ⟨by simp, by simp [Broke]⟩

theorem quiet (h : ∀ act ∈ acts, act.Asks fun _ => False) : part.Ran none acts where
  own act hact := (h act hact).mono fun _ => False.elim
  broke act hact := by
    have := h act hact
    cases act with
    | asked => exact this.elim
    | _ => trivial

theorem look {reading : Time.Duration} : part.Ran none ([.looked reading] : List (Act σ)) :=
  quiet (by simp [Act.Asks])

theorem answered {q : Request} {before after : σ} {answer : q.Answer} (owned : part.owns q) :
    part.Ran none [.asked q before (.ok answer) after] :=
  ⟨List.forall_mem_singleton.2 owned, List.forall_mem_singleton.2 trivial⟩

theorem failed {q : Request} {before after : σ} {e : DatabaseError} (owned : part.owns q) :
    part.Ran (some e) [.asked q before (.error e) after] :=
  ⟨List.forall_mem_singleton.2 owned, [], q, before, after, rfl, List.forall_mem_nil _⟩

theorem append (first : part.Ran none acts) (later : part.Ran error? acts') :
    part.Ran error? (acts ++ acts') where
  own := List.forall_mem_append.2 ⟨first.own, later.own⟩
  broke := by
    rcases error? with _ | e
    · exact List.forall_mem_append.2 ⟨first.broke, later.broke⟩
    · obtain ⟨earlier, q, before, after, rfl, answered⟩ := later.broke
      exact ⟨acts ++ earlier, q, before, after, (List.append_assoc ..).symm,
        List.forall_mem_append.2 ⟨first.broke, answered⟩⟩

variable (ran : part.Ran error? acts)
include ran

/-- A call that ends with an error is the last act, and the error is what ended the part. -/
theorem ended {earlier later : List (Act σ)} {q : Request} {before after : σ} {e : DatabaseError}
    (split : acts = earlier ++ .asked q before (.error e) after :: later) :
    later = [] ∧ error? = some e := by
  have unanswered {acts : List (Act σ)} (answered : ∀ act ∈ acts, act.Answered) :
      .asked q before (.error e) after ∉ acts :=
    fun there => Act.not_answered (answered _ there)
  subst split
  rcases error? with _ | e'
  · exact absurd (List.mem_append_right _ List.mem_cons_self) (unanswered ran.broke)
  · obtain ⟨first, q', before', after', heq, answered⟩ := ran.broke
    obtain ⟨-, rfl, hlast⟩ := (mem_or_last heq.symm).resolve_left (unanswered answered)
    cases hlast
    exact ⟨rfl, rfl⟩

theorem met_iff {e : DatabaseError} : part.Met e acts ↔ error? = some e := by
  constructor
  · rintro ⟨q, before, after, hcall⟩
    obtain ⟨earlier, later, split⟩ := List.append_of_mem (List.mem_filter.1 hcall).1
    exact (ran.ended split).2
  · rintro rfl
    obtain ⟨earlier, q, before, after, rfl, -⟩ := ran.broke
    have last := List.mem_append_right earlier (List.mem_singleton_self
      (Act.asked q before (.error e) after))
    exact ⟨q, before, after, List.mem_filter.2 ⟨last, ran.own _ last⟩⟩

theorem told : part.Told acts (part.step error? acts) := by
  rw [step_eq]
  constructor
  · rfl
  · rw [rowsDeleted, rowsDeleted, deletions_calls ran.own]
  · rw [deletions_calls ran.own]
  · intro text
    simp only [ran.met_iff]
    cases error? <;> simp [eq_comm]

theorem calls_append (apart : part.Apart part') :
    part'.calls (acts ++ acts') = part'.calls acts' := by
  rw [Part.calls_append, apart.calls_eq_nil ran.own, List.nil_append]

/-- The parts after it have no call among its acts. -/
theorem idle {others : List Part} (apart : (part :: others).Pairwise Part.Apart) :
    ∀ part' ∈ others, part'.calls acts = [] :=
  fun _ hpart => (List.rel_of_pairwise_cons apart hpart).calls_eq_nil ran.own

end Ran

end Part

/-! ### One part after the other -/

/-- The acts of these parts, with their steps and how the last of them ended. -/
inductive Staged (guard : Guard) :
    List Part → List StepReport → Ending → List (Act σ) → Prop
  | done : Staged guard [] [] .within []
  | next {part rest error? acts steps ending later} (ran : part.Ran error? acts)
    (opened : part.Opened acts) (passes : ∀ e, error? = some e → ¬ part.Fails e)
    (leads : ending ≠ .unfinished → Proceeds guard rest later)
    (next : Staged guard rest steps ending later) :
    Staged guard (part :: rest) (part.step error? acts :: steps) ending (acts ++ later)
  | stopped {part rest acts reason} (ran : part.Ran none acts) :
    Staged guard (part :: rest) [part.step none acts] (.exceeded reason) acts
  /-- The budget was exceeded before the part began. -/
  | unbegun {part rest reading reason} :
    Staged guard (part :: rest) [] (.exceeded reason) [.looked reading]
  | failed {part rest acts e} (ran : part.Ran (some e) acts) (fails : part.Fails e) :
    Staged guard (part :: rest) [part.step (some e) acts] (.failed e) acts
  | unfinished {part rest acts} (ran : part.Ran none acts) :
    Staged guard (part :: rest) [part.step none acts] .unfinished acts

def Ending.error? : Ending → Option DatabaseError
  | .failed e => some e
  | _ => none

/-- A cycle whose last part ended so comes to the outcome; a report has these steps. -/
def Ending.Gives (steps : List StepReport) : Ending → Outcome → Prop
  | .within, .completed report => report.steps = steps
  | .exceeded reason, .aborted report reason' => reason' = reason ∧ report.steps = steps
  | .failed e, .failed e' => e' = e
  | .unfinished, .unfinished => True
  | _, _ => False

namespace Ending.Gives

variable {steps : List StepReport} {ending : Ending} {outcome : Outcome}
  (gives : ending.Gives steps outcome)
include gives

theorem steps_eq {report : Report} (hreport : outcome.report? = some report) :
    report.steps = steps := by
  cases outcome with
  | completed =>
    cases hreport
    cases ending with
    | within => exact gives
    | _ => exact gives.elim
  | aborted =>
    cases hreport
    cases ending with
    | exceeded => exact gives.2
    | _ => exact gives.elim
  | _ => cases hreport

theorem failed_iff (e : DatabaseError) : outcome = .failed e ↔ ending = .failed e := by
  cases ending <;> cases outcome <;> simp_all [Ending.Gives]

theorem unfinished_iff : outcome = .unfinished ↔ ending = .unfinished := by
  cases ending <;> cases outcome <;> simp_all [Ending.Gives]

theorem within_of_completed {report : Report} (h : outcome = .completed report) :
    ending = .within := by
  subst h
  cases ending with
  | within => rfl
  | _ => exact gives.elim

theorem in_range : outcome ≠ .cutoffOutOfRange := by
  rintro rfl
  cases ending <;> exact gives

end Ending.Gives

/-- What the acts of a cycle of these parts tell of its outcome. -/
structure Accounted (guard : Guard) (parts : List Part) (outcome : Outcome)
    (acts : List (Act σ)) : Prop where
  /-- Every call belongs to a part. -/
  owned : ∀ act ∈ acts, act.Asks fun q => ∃ part ∈ parts, part.owns q
  /-- The calls of earlier parts come before those of later ones. -/
  ordered : ∀ first rest, parts = first ++ rest → ∃ early late, acts = early ++ late ∧
    (∀ part ∈ first, part.calls late = []) ∧ ∀ part ∈ rest, part.calls early = []
  /-- The steps of a report tell of the first parts, and the rest did nothing; where the cycle
  completed, they tell of all. -/
  told : ∀ report, outcome.report? = some report → ∃ first rest, parts = first ++ rest ∧
    List.Forall₂ (fun part step => part.Told acts step) first report.steps ∧
    (∀ part ∈ rest, part.calls acts = []) ∧
    (outcome = .completed report → rest = [] ∧ ∀ part ∈ parts, part.Opened acts)
  failed : ∀ e, outcome = .failed e ↔ ∃ part ∈ parts, part.Fails e ∧ part.Met e acts
  /-- Nothing follows an error that fails the cycle; any other ends its part, and the next part
  begins. -/
  goes_on : outcome ≠ .unfinished → ∀ earlier q before e after later,
    acts = earlier ++ .asked q before (.error e) after :: later →
    ∀ first part rest, parts = first ++ part :: rest → part.owns q →
      (part.Fails e → later = []) ∧
      (¬ part.Fails e → part.calls later = [] ∧ Proceeds guard rest later)

namespace Staged

variable {guard : Guard} {parts : List Part} {steps : List StepReport} {ending : Ending}
  {acts : List (Act σ)}

theorem owned (h : Staged guard parts steps ending acts) :
    ∀ act ∈ acts, act.Asks fun q => ∃ part ∈ parts, part.owns q := by
  have alone {part : Part} {rest : List Part} {error? : Option DatabaseError}
      {acts : List (Act σ)} (ran : part.Ran error? acts) :
      ∀ act ∈ acts, act.Asks fun q => ∃ part' ∈ part :: rest, part'.owns q :=
    fun act hact => (ran.own act hact).mono fun q hq => ⟨part, List.mem_cons_self, hq⟩
  induction h with
  | done => simp
  | next ran _ _ _ _ ih =>
    refine List.forall_mem_append.2 ⟨alone ran, fun act hact => (ih act hact).mono fun q h => ?_⟩
    obtain ⟨part', hpart, hq⟩ := h
    exact ⟨part', List.mem_cons_of_mem _ hpart, hq⟩
  | unbegun => exact List.forall_mem_singleton.2 trivial
  | stopped ran | failed ran | unfinished ran => exact alone ran

/-- The acts may be cut between any two parts. -/
theorem ordered (h : Staged guard parts steps ending acts) :
    parts.Pairwise Part.Apart → ∀ first rest, parts = first ++ rest →
      ∃ early late, acts = early ++ late ∧ (∀ part ∈ first, part.calls late = []) ∧
        ∀ part ∈ rest, part.calls early = [] := by
  have alone {part : Part} {others : List Part} {error? : Option DatabaseError}
      {acts : List (Act σ)} (ran : part.Ran error? acts)
      (apart : (part :: others).Pairwise Part.Apart) (first rest : List Part)
      (split : part :: others = first ++ rest) :
      ∃ early late, acts = early ++ late ∧ (∀ part ∈ first, part.calls late = []) ∧
        ∀ part ∈ rest, part.calls early = [] := by
    rcases first with _ | ⟨_, first⟩
    · exact ⟨[], acts, rfl, by simp, fun _ _ => rfl⟩
    · rw [List.cons_append, List.cons.injEq] at split
      obtain ⟨rfl, rfl⟩ := split
      exact ⟨acts, [], (List.append_nil _).symm, fun _ _ => rfl, fun part' hpart =>
        ran.idle apart part' (List.mem_append_right _ hpart)⟩
  induction h with
  | done => exact fun _ first rest _ => ⟨[], [], rfl, fun _ _ => rfl, fun _ _ => rfl⟩
  | @next part others error? acts _ _ later ran _ _ _ next ih =>
    intro apart first rest split
    rcases first with _ | ⟨_, first⟩
    · exact ⟨[], _, rfl, by simp, fun _ _ => rfl⟩
    · rw [List.cons_append, List.cons.injEq] at split
      obtain ⟨rfl, rfl⟩ := split
      obtain ⟨apart, rest_apart⟩ := List.pairwise_cons.1 apart
      obtain ⟨early, late, rfl, hlate, hearly⟩ := ih rest_apart first rest rfl
      have none := Part.calls_eq_nil_of_owned next.owned apart
      rw [Part.calls_append, List.append_eq_nil_iff] at none
      refine ⟨acts ++ early, late, (List.append_assoc ..).symm,
        List.forall_mem_cons.2 ⟨none.2, hlate⟩, fun part' hpart => ?_⟩
      rw [ran.calls_append (apart part' (List.mem_append_right _ hpart)), hearly part' hpart]
  | unbegun => exact fun _ first rest _ => ⟨[], _, rfl, fun _ _ => rfl, fun _ _ => rfl⟩
  | stopped ran | failed ran | unfinished ran => exact alone ran

/-- The first parts have a step each, and the rest did nothing. No call belongs to two parts, so
what comes later in the run changes nothing in what was told of a part. -/
theorem told (h : Staged guard parts steps ending acts) :
    parts.Pairwise Part.Apart → ∃ first rest, parts = first ++ rest ∧
      List.Forall₂ (fun part step => part.Told acts step) first steps ∧
      (∀ part ∈ rest, part.calls acts = []) ∧
      (ending = .within → rest = [] ∧ ∀ part ∈ parts, part.Opened acts) := by
  have alone {part : Part} {others : List Part} {error? : Option DatabaseError} {ending : Ending}
      {acts : List (Act σ)} (ran : part.Ran error? acts) (stopped : ending ≠ .within)
      (apart : (part :: others).Pairwise Part.Apart) :
      ∃ first rest, part :: others = first ++ rest ∧
        List.Forall₂ (fun part step => part.Told acts step) first [part.step error? acts] ∧
        (∀ part ∈ rest, part.calls acts = []) ∧
        (ending = .within → rest = [] ∧ ∀ part' ∈ part :: others, part'.Opened acts) :=
    ⟨[part], others, rfl, .cons ran.told .nil, ran.idle apart,
      fun within => absurd within stopped⟩
  induction h with
  | done => exact fun _ => ⟨[], [], rfl, .nil, by simp, by simp⟩
  | @next part others error? acts steps _ later ran opened _ _ next ih =>
    intro apart
    obtain ⟨apart, rest_apart⟩ := List.pairwise_cons.1 apart
    obtain ⟨first, rest, rfl, told, idle, complete⟩ := ih rest_apart
    have same : ∀ part' ∈ first ++ rest, part'.calls (acts ++ later) = part'.calls later :=
      fun part' hpart => ran.calls_append (apart part' hpart)
    have first_same : part.calls (acts ++ later) = part.calls acts :=
      Part.calls_append_of_owned next.owned apart
    obtain ⟨told_same, idle_same⟩ := List.forall_mem_append.1 same
    refine ⟨part :: first, rest, rfl, .cons (ran.told.of_calls_eq first_same) ?_,
      fun part' hpart => ?_, fun within => ?_⟩
    · exact ((List.forall₂_and_left _ _).2 ⟨told_same, told⟩).imp fun _ _ h => h.2.of_calls_eq h.1
    · rw [idle_same part' hpart, idle part' hpart]
    · obtain ⟨hrest, all_opened⟩ := complete within
      refine ⟨hrest, List.forall_mem_cons.2 ⟨?_, fun part' hpart => ?_⟩⟩
      · obtain ⟨before, answer, after, hact⟩ := opened
        exact ⟨before, answer, after, List.mem_append_left _ hact⟩
      · obtain ⟨before, answer, after, hact⟩ := all_opened part' hpart
        exact ⟨before, answer, after, List.mem_append_right _ hact⟩
  | unbegun => exact fun _ => ⟨[], _, rfl, .nil, fun _ _ => rfl, nofun⟩
  | stopped ran | failed ran | unfinished ran => exact alone ran nofun

/-- A run fails with an error exactly if it met it in a part that the error fails. Only the part
that the run ended in can be that one: those before it passed, and those after it did nothing. -/
theorem failed_iff (h : Staged guard parts steps ending acts) :
    parts.Pairwise Part.Apart → ∀ e, ending = .failed e ↔
      ∃ part ∈ parts, part.Fails e ∧ part.Met e acts := by
  have alone {part : Part} {others : List Part} {error? : Option DatabaseError}
      {acts : List (Act σ)} (ran : part.Ran error? acts)
      (apart : (part :: others).Pairwise Part.Apart) (e : DatabaseError) :
      (∃ part' ∈ part :: others, part'.Fails e ∧ part'.Met e acts) ↔
        part.Fails e ∧ error? = some e := by
    have idle : ¬ ∃ part' ∈ others, part'.Fails e ∧ part'.Met e acts := by
      rintro ⟨part', hpart, -, q, before, after, met⟩
      rw [ran.idle apart part' hpart] at met
      cases met
    rw [List.exists_mem_cons_iff, or_iff_left idle, ran.met_iff]
  induction h with
  | done => simp
  | @next part others error? acts _ ending later ran _ passes _ next ih =>
    intro apart e
    obtain ⟨apart, rest_apart⟩ := List.pairwise_cons.1 apart
    have passed : ¬ (part.Fails e ∧ part.Met e (acts ++ later)) := by
      rw [Part.met_congr (Part.calls_append_of_owned next.owned apart), ran.met_iff]
      exact fun h => passes e h.2 h.1
    rw [ih rest_apart e, List.exists_mem_cons_iff, or_iff_right passed]
    refine exists_congr fun part' => and_congr_right fun hpart => and_congr_right' ?_
    rw [Part.met_congr (ran.calls_append (apart part' hpart))]
  | unbegun => simp [Part.Met, Part.calls, Part.does]
  | stopped ran | unfinished ran =>
    intro apart e
    rw [alone ran apart e]
    simp
  | failed ran fails =>
    intro apart e
    rw [alone ran apart e, Ending.failed.injEq, Option.some.injEq, iff_and_self]
    rintro rfl
    exact fails

theorem first_of_owns {part part' : Part} {others first rest : List Part} {q : Request}
    (apart : (part :: others).Pairwise Part.Apart) (owned : part.owns q)
    (split : part :: others = first ++ part' :: rest) (owned' : part'.owns q) :
    part' = part ∧ rest = others := by
  rcases first with _ | ⟨_, first⟩
  · rw [List.nil_append, List.cons.injEq] at split
    exact ⟨split.1.symm, split.2.symm⟩
  · rw [List.cons_append, List.cons.injEq] at split
    obtain ⟨-, rfl⟩ := split
    rw [List.rel_of_pairwise_cons apart (by simp) q owned] at owned'
    cases owned'

/-- What follows an error, wherever it stands among the acts. An error is the last act of its part,
so it is either the end of the first part, or met in the parts that come later. -/
theorem goes_on (h : Staged guard parts steps ending acts) :
    parts.Pairwise Part.Apart → ending ≠ .unfinished → ∀ earlier q before e after later,
      acts = earlier ++ .asked q before (.error e) after :: later →
      ∀ first part rest, parts = first ++ part :: rest → part.owns q →
        (part.Fails e → later = []) ∧
        (¬ part.Fails e → part.calls later = [] ∧ Proceeds guard rest later) := by
  have mine {part : Part} {error? : Option DatabaseError} {earlier later : List (Act σ)}
      {q : Request} {before after : σ} {e : DatabaseError}
      (ran : part.Ran error? (earlier ++ .asked q before (.error e) after :: later)) :
      part.owns q :=
    ran.own (.asked q before (.error e) after) (List.mem_append_right _ List.mem_cons_self)
  induction h with
  | done => exact fun _ _ earlier => by simp
  | next ran _ passes leads next ih =>
    intro apart finished earlier q before e after later split first part rest hparts owned
    have apart' := List.pairwise_cons.1 apart
    rcases split_append split with ⟨mid, rfl, rfl⟩ | ⟨mid, -, rfl⟩
    · -- met by the first part, which it ended
      obtain ⟨rfl, rfl⟩ := ran.ended rfl
      obtain ⟨rfl, rfl⟩ := first_of_owns apart (mine ran) hparts owned
      exact ⟨fun fails => absurd fails (passes e rfl), fun _ =>
        ⟨Part.calls_eq_nil_of_owned next.owned apart'.1, leads finished⟩⟩
    · -- met later, so the first part does not own the call
      rcases first with _ | ⟨_, first⟩
      · rw [List.nil_append, List.cons.injEq] at hparts
        have none := Part.calls_eq_nil_of_owned next.owned apart'.1
        rw [hparts.1] at none
        exact absurd owned (List.filter_eq_nil_iff.1 none (.asked q before (.error e) after)
          (List.mem_append_right mid List.mem_cons_self))
      · rw [List.cons_append, List.cons.injEq] at hparts
        exact ih apart'.2 finished mid q before e after later rfl first part rest hparts.2 owned
  | unbegun =>
    intro _ _ earlier q before e after later split
    have there := congrArg (Act.asked q before (.error e) after ∈ ·) split
    simp at there
  | stopped ran =>
    intro _ _ earlier q before e after later split
    nomatch (ran.ended split).2
  | failed ran fails =>
    intro apart _ earlier q before e after later split first part rest hparts owned
    subst split
    obtain ⟨rfl, herr⟩ := ran.ended rfl
    cases herr
    obtain ⟨rfl, -⟩ := first_of_owns apart (mine ran) hparts owned
    exact ⟨fun _ => rfl, fun passes => absurd fails passes⟩
  | unfinished => exact fun _ finished => absurd rfl finished

theorem accounted {outcome : Outcome} (h : Staged guard parts steps ending acts)
    (apart : parts.Pairwise Part.Apart) (gives : ending.Gives steps outcome) :
    Accounted guard parts outcome acts where
  owned := h.owned
  ordered := h.ordered apart
  told report hreport := by
    obtain ⟨first, rest, hparts, told, idle, complete⟩ := h.told apart
    rw [gives.steps_eq hreport]
    exact ⟨first, rest, hparts, told, idle, fun completed =>
      complete (gives.within_of_completed completed)⟩
  failed e := by rw [gives.failed_iff, h.failed_iff apart]
  goes_on finished := h.goes_on apart (gives.unfinished_iff.not.1 finished)

end Staged

/-- Where all parts are vital, the cycle fails exactly if a call ended with an error that lasts. -/
theorem Accounted.failed_iff {guard : Guard} {parts : List Part} {outcome : Outcome}
    {acts : List (Act σ)} (h : Accounted guard parts outcome acts)
    (vital : ∀ part ∈ parts, part.vital) (e : DatabaseError) :
    outcome = .failed e ↔ ¬ e.isTransient ∧
      ∃ q before after, .asked q before (.error e) after ∈ acts := by
  rw [h.failed e]
  constructor
  · rintro ⟨part, -, fails, q, before, after, hcall⟩
    exact ⟨fails.2, q, before, after, (List.mem_filter.1 hcall).1⟩
  · rintro ⟨lasting, q, before, after, hact⟩
    obtain ⟨part, hpart, owned⟩ := h.owned _ hact
    exact ⟨part, hpart, ⟨vital part hpart, lasting⟩, q, before, after,
      List.mem_filter.2 ⟨hact, owned⟩⟩

end Retention.Cycle
