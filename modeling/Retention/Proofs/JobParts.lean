import Retention.Proofs.Checks
import Retention.Proofs.Parts

/-!
# The parts of the cycle of jobs

The deletion of jobs is the one vital part; the pruning of each kind follows as a part of its own
(`JobCycle.parts`). So only an error that lasts in the deletion of jobs fails the cycle, and any
other is told of by the step of its part and keeps no later part from its turn
(`JobCycle.run_isolates_errors`).
-/

namespace Retention.Cycle

open Store (DatabaseError LookupKind)
open Time (Instant)

def prunePart (kind : LookupKind) : Part where
  name := "prune:" ++ kind.text
  owns
    | .unreferencedIds kind' => kind' = kind
    | .deleteUnreferenced kind' _ => kind' = kind
    | _ => false
  opening := .unreferencedIds kind
  vital := false

def Budget.ending : Budget → Ending
  | .within => .within
  | .exceeded reason => .exceeded reason

variable {σ : Type} {guard : Guard} {acts : List (Act σ)}

section Pruning

variable {kind : LookupKind} {chunkSize : UInt32}

theorem ChunksPruned.ran {chunks : List (List Int)} {step : StepReport}
    {out : Budget × StepReport} (h : ChunksPruned guard kind chunks step out acts) :
    ∃ error?, (prunePart kind).Ran error? acts ∧
      out.2 = error?.elim (step.after acts) (step.after acts).fail ∧
      (∀ reason, out.1 = .exceeded reason → error? = none) := by
  have own (ids : List Int) : (prunePart kind).owns (.deleteUnreferenced kind ids) :=
    decide_eq_true rfl
  induction h with
  | done => exact ⟨none, .nil, rfl, nofun⟩
  | tripped => exact ⟨none, .look, rfl, fun _ _ => rfl⟩
  | @failed ids _ _ _ e => exact ⟨some e, .append .look (.failed (own ids)), rfl, nofun⟩
  | @next ids _ _ _ _ _ _ _ _ _ _ ih =>
    obtain ⟨error?, ran, hstep, hnone⟩ := ih
    exact ⟨error?, .append .look (.append (.answered (own ids)) ran), hstep, hnone⟩

theorem KindPruned.ran {out : Budget × StepReport}
    (h : KindPruned guard chunkSize kind out acts) :
    ∃ error?, (prunePart kind).Ran error? acts ∧ (prunePart kind).Opened acts ∧
      out.2 = (prunePart kind).step error? acts ∧
      (∀ reason, out.1 = .exceeded reason → error? = none) := by
  have own : (prunePart kind).owns (.unreferencedIds kind) := decide_eq_true rfl
  cases h with
  | @unlisted e b a =>
    exact ⟨some e, .failed own, ⟨b, _, a, List.mem_cons_self⟩, rfl, nofun⟩
  | @listed ids b a _ _ chunks =>
    obtain ⟨error?, ran, hstep, hnone⟩ := chunks.ran
    exact ⟨error?, .append (.answered own) ran, ⟨b, _, a, List.mem_cons_self⟩, hstep, hnone⟩

theorem KindsPruned.proceeds {kinds : List LookupKind} {report : Report} {out : Budget × Report}
    (h : KindsPruned guard chunkSize kinds report out acts) :
    Proceeds guard (kinds.map prunePart) acts := by
  have opens {kind : LookupKind} {out : Budget × StepReport} {acts : List (Act σ)}
      (pruned : KindPruned guard chunkSize kind out acts) (later : List (Act σ)) :
      ∃ before answer after rest,
        acts ++ later = .asked (prunePart kind).opening before answer after :: rest := by
    cases pruned with
    | unlisted => exact ⟨_, _, _, _, rfl⟩
    | listed => exact ⟨_, _, _, _, rfl⟩
  cases h with
  | done => rfl
  | tripped check => exact ⟨_, _, rfl, fun within => nomatch check.symm.trans within⟩
  | exceeded _ pruned =>
    obtain ⟨before, answer, after, rest, hacts⟩ := opens pruned []
    rw [List.append_nil] at hacts
    exact ⟨_, _, rfl, fun _ => ⟨before, answer, after, rest, hacts⟩⟩
  | next _ pruned => exact ⟨_, _, rfl, fun _ => opens pruned _⟩

theorem KindsPruned.staged {kinds : List LookupKind} {report : Report} {out : Budget × Report}
    (h : KindsPruned guard chunkSize kinds report out acts) :
    ∃ steps, out.2.steps = report.steps ++ steps ∧
      Staged guard (kinds.map prunePart) steps out.1.ending acts := by
  induction h with
  | done => exact ⟨[], (List.append_nil _).symm, .done⟩
  | tripped => exact ⟨[], (List.append_nil _).symm, .unbegun⟩
  | exceeded _ pruned =>
    obtain ⟨error?, ran, -, rfl, hnone⟩ := pruned.ran
    obtain rfl := hnone _ rfl
    exact ⟨_, rfl, .stopped (.append .look ran)⟩
  | next _ pruned next ih =>
    obtain ⟨error?, ran, ⟨before, answer, after, hopen⟩, rfl, -⟩ := pruned.ran
    obtain ⟨steps, hsteps, staged⟩ := ih
    refine ⟨_, ?_, .next (.append .look ran) ⟨before, answer, after, List.mem_cons_of_mem _ hopen⟩
      (fun _ _ fails => nomatch fails.1) (fun _ => next.proceeds) staged⟩
    rw [hsteps, Report.push, List.append_assoc]
    rfl

end Pruning

namespace JobCycle

def deletionPart (cutoff : Instant) (size : UInt32) : Part where
  name := "jobs"
  owns
    | .countBefore cutoff' => cutoff' = cutoff
    | .deleteChunkBefore cutoff' size' => cutoff' = cutoff ∧ size' = size
    | _ => false
  opening := .countBefore cutoff
  vital := true

theorem deletionPart_owns {cutoff : Instant} {size : UInt32} {q : Request} :
    (deletionPart cutoff size).owns q ↔ q = .countBefore cutoff ∨ q = .deleteChunkBefore cutoff size
    := by
  cases q <;> simp [deletionPart]

/-- The parts of a cycle with this cutoff. -/
def parts (c : JobCycle) (cutoff : Instant) : List Part :=
  deletionPart cutoff c.policy.chunkSize :: LookupKind.all.map prunePart

variable {c : JobCycle} {cutoff : Instant} {rounds : Nat}

variable (c cutoff) in
/-- Each call belongs to one part of a cycle only: jobs have calls of their own, and a call for
lookup rows names its kind. -/
theorem parts_apart : (c.parts cutoff).Pairwise Part.Apart := by
  have jobs (kind : LookupKind) :
      (deletionPart cutoff c.policy.chunkSize).Apart (prunePart kind) := by
    intro q owned
    cases q with
    | countBefore | deleteChunkBefore => rfl
    | _ => cases owned
  have kinds {kind kind' : LookupKind} (ne : kind ≠ kind') :
      (prunePart kind).Apart (prunePart kind') := by
    intro q owned
    cases q with
    | unreferencedIds | deleteUnreferenced =>
      obtain rfl := of_decide_eq_true owned
      exact decide_eq_false ne
    | _ => rfl
  refine List.pairwise_cons.2 ⟨fun part hpart => ?_, ?_⟩
  · obtain ⟨kind, -, rfl⟩ := List.mem_map.1 hpart
    exact jobs kind
  · have distinct : LookupKind.all.Nodup := by decide
    exact List.pairwise_map.2 (distinct.imp kinds)

theorem ChunksDeleted.ran {ending : Ending}
    (h : c.ChunksDeleted guard cutoff rounds ending acts) :
    (deletionPart cutoff c.policy.chunkSize).Ran ending.error? acts := by
  have own : (deletionPart cutoff c.policy.chunkSize).owns
      (.deleteChunkBefore cutoff c.policy.chunkSize) := by
    simp [deletionPart]
  have pauses : (deletionPart cutoff c.policy.chunkSize).Ran none (c.pauses : List (Act σ)) := by
    refine .quiet ?_
    unfold JobCycle.pauses
    split_ifs <;> simp [Act.Asks]
  induction h with
  | spent => exact .nil
  | tripped => exact .look
  | failed => exact .append .look (.failed own)
  | last => exact .append .look (.answered own)
  | full _ _ _ ih => exact .append .look (.append (.answered own) (.append pauses ih))

/-- Rounds run out only when each of them deleted a chunk. -/
theorem ChunksDeleted.spends_rounds {ending : Ending}
    (h : c.ChunksDeleted guard cutoff rounds ending acts) :
    ending = .unfinished → (deletions acts).length = rounds := by
  induction h with
  | spent => exact fun _ => rfl
  | @full _ _ k _ _ _ later _ _ _ ih =>
    intro unfinished
    change (k :: deletions (c.pauses ++ later)).length = _
    rw [deletions_append, deletions_eq_nil c.pauses_read, List.nil_append, List.length_cons,
      ih unfinished]
  | _ => exact nofun

theorem JobsDeleted.ran {out : Ending × StepReport}
    (h : c.JobsDeleted guard cutoff rounds out acts) :
    (deletionPart cutoff c.policy.chunkSize).Ran out.1.error? acts ∧
      (deletionPart cutoff c.policy.chunkSize).Opened acts ∧ out.2 = jobsStep.after acts := by
  have own : (deletionPart cutoff c.policy.chunkSize).owns (.countBefore cutoff) :=
    decide_eq_true rfl
  cases h with
  | @uncounted e b a => exact ⟨.failed own, ⟨b, _, a, List.mem_cons_self⟩, rfl⟩
  | @counted eligible b a _ _ chunks =>
    exact ⟨.append (.answered own) chunks.ran, ⟨b, _, a, List.mem_cons_self⟩, rfl⟩

theorem Finished.staged {step : StepReport} {outcome : Outcome}
    (h : c.Finished guard .within step outcome acts) :
    ∃ body closing steps ending, acts = body ++ closing ∧ Closes guard outcome closing ∧
      Proceeds guard (LookupKind.all.map prunePart) body ∧
      Staged guard (LookupKind.all.map prunePart) steps ending body ∧ ending ≠ .unfinished ∧
      ending.Gives (step :: steps) outcome := by
  cases h with
  | tripped pruned =>
    obtain ⟨steps, hsteps, staged⟩ := pruned.staged
    exact ⟨_, _, steps, _, rfl, ⟨_, rfl, rfl⟩, pruned.proceeds, staged, nofun, rfl, hsteps⟩
  | pruned pruned =>
    obtain ⟨steps, hsteps, staged⟩ := pruned.staged
    exact ⟨_, _, steps, _, rfl, ⟨_, rfl, rfl⟩, pruned.proceeds, staged, nofun, hsteps⟩

theorem Course.unbegun {now : Instant} {outcome : Outcome} (h : c.Course now rounds outcome acts)
    (none : c.policy.cutoff? now = none) :
    outcome = .cutoffOutOfRange ∧ ∃ started, acts = [.looked started] := by
  cases h with
  | outOfRange => exact ⟨rfl, _, rfl⟩
  | unfinished some | failed some | deleted some | exceeded some | passing some =>
    nomatch none.symm.trans some

/-- The cycle with its parts. -/
theorem Course.staged {now : Instant} {outcome : Outcome} (h : c.Course now rounds outcome acts)
    (due : c.policy.cutoff? now = some cutoff) :
    ∃ started body closing steps ending, acts = .looked started :: (body ++ closing) ∧
      Closes ⟨started, c.policy.maxRuntime⟩ outcome closing ∧
      Staged ⟨started, c.policy.maxRuntime⟩ (c.parts cutoff) steps ending body ∧
      ending.Gives steps outcome ∧ steps ≠ [] := by
  cases h with
  | outOfRange none => nomatch due.symm.trans none
  | unfinished some jobs =>
    cases due.symm.trans some
    exact ⟨_, _, [], _, _, by rw [List.append_nil], rfl, .unfinished jobs.ran.1, trivial, nofun⟩
  | failed some jobs lasting =>
    cases due.symm.trans some
    exact ⟨_, _, [], _, _, by rw [List.append_nil], rfl, .failed jobs.ran.1 ⟨rfl, lasting⟩, rfl,
      nofun⟩
  | exceeded some jobs finish =>
    cases due.symm.trans some
    cases finish with
    | unpruned =>
      obtain ⟨ran, -, rfl⟩ := jobs.ran
      exact ⟨_, _, _, _, _, rfl, ⟨_, rfl, rfl⟩, .stopped ran, ⟨rfl, rfl⟩, nofun⟩
  | deleted some jobs finish =>
    cases due.symm.trans some
    obtain ⟨ran, opened, rfl⟩ := jobs.ran
    obtain ⟨body, closing, steps, ending, rfl, closes, proceeds, staged, -, gives⟩ :=
      finish.staged
    exact ⟨_, _, closing, _, ending, by rw [List.append_assoc], closes,
      .next ran opened nofun (fun _ => proceeds) staged, gives, nofun⟩
  | passing some jobs transient finish =>
    cases due.symm.trans some
    obtain ⟨ran, opened, rfl⟩ := jobs.ran
    obtain ⟨body, closing, steps, ending, rfl, closes, proceeds, staged, -, gives⟩ :=
      finish.staged
    refine ⟨_, _, closing, _, ending, by rw [List.append_assoc], closes,
      .next ran opened ?_ (fun _ => proceeds) staged, gives, nofun⟩
    rintro _ ⟨⟩ fails
    exact fails.2 transient

theorem Course.spends_rounds {now : Instant} {outcome : Outcome}
    (h : c.Course now rounds outcome acts) (unfinished : outcome = .unfinished) :
    (deletions acts).length = rounds := by
  cases h with
  | outOfRange | failed => cases unfinished
  | unfinished _ jobs =>
    cases jobs with
    | counted chunks => exact chunks.spends_rounds rfl
  | deleted _ _ finish | exceeded _ _ finish | passing _ _ _ finish =>
    subst unfinished
    nomatch finish

/-- Only counting or deleting jobs comes before it fails the cycle. -/
theorem failed_asks {ending : Ending} {steps : List StepReport}
    (h : Staged guard (c.parts cutoff) steps ending acts) {e : DatabaseError}
    (failed : ending = .failed e) :
    ∀ act ∈ acts, act.Asks fun q =>
      q = .countBefore cutoff ∨ q = .deleteChunkBefore cutoff c.policy.chunkSize := by
  cases h with
  | failed ran => exact fun act hact => (ran.own act hact).mono fun q => deletionPart_owns.1
  | next _ _ _ _ next =>
    have apart := (List.pairwise_cons.1 (parts_apart c cutoff)).2
    obtain ⟨part, hpart, fails, -⟩ := (next.failed_iff apart e).1 failed
    obtain ⟨kind, -, rfl⟩ := List.mem_map.1 hpart
    nomatch fails.1
  | _ => cases failed

/-- Of the parts, only the deletion of jobs fails the cycle. -/
theorem failed_iff_deletion {outcome : Outcome} (h : Accounted guard (c.parts cutoff) outcome acts)
    (e : DatabaseError) : outcome = .failed e ↔ ¬ e.isTransient ∧ ∃ q before after,
      (q = .countBefore cutoff ∨ q = .deleteChunkBefore cutoff c.policy.chunkSize) ∧
        .asked q before (.error e) after ∈ acts := by
  rw [h.failed e]
  constructor
  · rintro ⟨part, hpart, fails, q, before, after, hcall⟩
    obtain ⟨hact, owned⟩ := List.mem_filter.1 hcall
    rcases List.mem_cons.1 hpart with rfl | hpart
    · exact ⟨fails.2, q, before, after, deletionPart_owns.1 owned, hact⟩
    · obtain ⟨kind, -, rfl⟩ := List.mem_map.1 hpart
      nomatch fails.1
  · rintro ⟨lasting, q, before, after, deletion, hact⟩
    exact ⟨_, List.mem_cons_self, ⟨rfl, lasting⟩, q, before, after,
      List.mem_filter.2 ⟨hact, deletionPart_owns.2 deletion⟩⟩

/-- Whatever the repositories answer and the clock shows, a cycle fails exactly if counting or
deleting jobs met an error that lasts, and then no lookup row was asked for. Any other error is told
of by the step of its part alone and ends that part, and the next part begins if the budget lasts.
Unless it fails, or its rounds run out, the cycle has a report: its steps tell of the first parts,
of the deletion of jobs at least, and of all of them if the cycle completes; each counts the deletes
of its part. -/
theorem run_isolates_errors (world : World σ) (span : Option DataDomain) (c : JobCycle)
    (rounds : Nat) (state : σ) :
    let out := c.run (world.host span) world.access.jobs world.access.lookups rounds ⟨state, []⟩
    match c.policy.cutoff? world.now with
    | none => out.1 = .cutoffOutOfRange ∧ ∃ started, out.2.acts = [.looked started]
    | some cutoff => ∃ started body closing, out.2.acts = .looked started :: (body ++ closing) ∧
      let guard : Guard := ⟨started, c.policy.maxRuntime⟩
      let Deletion (q : Request) := q = .countBefore cutoff ∨
        q = .deleteChunkBefore cutoff c.policy.chunkSize
      Closes guard out.1 closing ∧
      (∀ e, out.1 = .failed e ↔ ¬ e.isTransient ∧
        ∃ q before after, Deletion q ∧ .asked q before (.error e) after ∈ body) ∧
      (∀ e, out.1 = .failed e → ∀ act ∈ body, act.Asks Deletion) ∧
      (∀ reason, (∃ report, out.1 = .aborted report reason) ↔
        ∃ reading, .looked reading ∈ body ∧ guard.check reading = .exceeded reason) ∧
      (out.1 = .unfinished → (deletions body).length = rounds) ∧
      out.1 ≠ .cutoffOutOfRange ∧
      (∀ report, out.1.report? = some report → report.steps ≠ []) ∧
      Accounted guard (c.parts cutoff) out.1 body := by
  intro out
  obtain ⟨acts, ran, course⟩ := run_course world span c rounds ⟨state, []⟩
  have hacts : out.2.acts = acts := ran.acts_eq
  change c.Course world.now rounds out.1 acts at course
  rw [hacts]
  rcases due : c.policy.cutoff? world.now with _ | cutoff
  · exact course.unbegun due
  obtain ⟨started, body, closing, steps, ending, rfl, closes, staged, gives, some_step⟩ :=
    course.staged due
  have accounted := staged.accounted (parts_apart c cutoff) gives
  obtain ⟨_, _, heq, conducted⟩ := course.conducted
  cases heq
  refine ⟨started, body, closing, rfl, closes, failed_iff_deletion accounted,
    fun e failed => failed_asks staged ((gives.failed_iff e).1 failed),
    conducted.aborted_iff closes, fun unfinished => ?_, gives.in_range, fun report hreport => ?_,
    accounted⟩
  · have spent := course.spends_rounds unfinished
    rw [unfinished] at closes
    obtain rfl : closing = [] := closes
    rwa [List.append_nil] at spent
  · rw [gives.steps_eq hreport]
    exact some_step

end JobCycle

end Retention.Cycle
