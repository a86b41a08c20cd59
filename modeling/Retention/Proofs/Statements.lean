import Retention.Proofs.Extents

/-!
# How many deletes a removal makes

With nobody else at work, time without end and no fault, the number of deletes that a removal makes
is told by the extent of the old rows (`Removal.Course.counts`): each round makes one, sized by what
lies below the highest young row, and goes on with what it leaves. Where no row is stamped exactly
at the cutoff, chunks are full but for the last one below the young rows and the last one of all
(`Removal.run_counts_statements`). Rows stamped at the cutoff can make every chunk as small as they
are few, for they are counted and not taken (`Removal.run_counts_at_cutoff`).
-/

namespace Retention

namespace Store

open Time (Instant)

/-- The tables that a removal needs are there. -/
structure Removable (s : Store) : Prop where
  data : s.present .performanceDatum
  repository : s.present .repository

instance (s : Store) : Decidable s.Removable :=
  decidable_of_iff (_ ∧ _) ⟨fun h => ⟨h.1, h.2⟩, fun h => ⟨h.1, h.2⟩⟩

theorem Removable.thinned {s : Store} (h : s.Removable) (cutoff : Instant) (scope : Option Int)
    (n : Nat) : (s.thinned cutoff scope n).Removable where
  data := Option.isSome_map.trans h.data
  repository := h.repository

end Store

namespace Cycle

open Store (DatabaseError)
open Time (Instant)

/-- The requests of a removal. -/
def Request.Removes : Request → Prop
  | maxIdAfter .. | countAtOrBefore .. | deleteBefore .. => True
  | _ => False

theorem Request.Removes.not_refused {q : Request} (removes : q.Removes) {s s' : Store}
    (there : s.Removable) (e : DatabaseError) : q.perform s ≠ (.error e, s') := by
  obtain ⟨data, hd⟩ := Option.isSome_iff_exists.1 there.data
  obtain ⟨repositories, hr⟩ := Option.isSome_iff_exists.1 there.repository
  obtain ⟨_, _, _, _, _, _, _, _, _⟩ := s
  cases hd
  cases hr
  cases q with
  | maxIdAfter | countAtOrBefore | deleteBefore => nofun
  | _ => cases removes

theorem limitFor_le (nominal : UInt32) (older : UInt64) :
    (limitFor nominal older).toNat ≤ nominal.toNat := by
  by_cases h : older = 0
  · exact Nat.le_of_eq (by rw [limitFor, if_pos h])
  · rw [limitFor_toNat nominal h]
    exact Nat.min_le_right _ _

/-- The answers of a store make the limit that the extent of its old rows tells. -/
theorem limitFor_counted {cutoff : Instant} {nominal : UInt32} {scope boundary : Option Int}
    {older : UInt64} {s : Store} (pos : 0 < nominal)
    (bounded : s.maxIdAfter cutoff scope = .ok boundary)
    (counted : s.countAtOrBefore cutoff boundary scope nominal = .ok older) :
    (limitFor nominal older).toNat = (s.extent cutoff scope).limit nominal.toNat := by
  have counted := Store.countAtOrBefore_boundary bounded counted
  have pos : 0 < nominal.toNat := pos
  by_cases zero : older = 0
  · rw [zero, UInt64.toNat_zero] at counted
    rw [limitFor, if_pos zero, Extent.limit_full (.inl (by omega))]
  · have some : older.toNat ≠ 0 := fun h => zero (UInt64.toNat_inj.1 h)
    rw [limitFor_toNat nominal zero, Extent.limit, if_neg (by omega), counted]
    omega

/-- So many deletes, each of which was answered with a number. -/
structure Counts {σ : Type} (acts : List (Act σ)) (n : Nat) : Prop where
  deletes : acts.countP Act.deletes = n
  answered : (deletions acts).length = n

namespace Counts

variable {σ : Type} {acts acts' : List (Act σ)} {m n : Nat}

theorem of_reads (reads : ∀ act ∈ acts, act.deletes = false) : Counts acts 0 :=
  ⟨countP_deletes_eq_zero reads, by rw [deletions_eq_nil reads, List.length_nil]⟩

theorem append (h : Counts acts m) (h' : Counts acts' n) : Counts (acts ++ acts') (m + n) :=
  ⟨by rw [List.countP_append, h.deletes, h'.deletes],
    by rw [deletions_append, List.length_append, h.answered, h'.answered]⟩

theorem skip (reads : ∀ act ∈ acts, act.deletes = false) (h : Counts acts' n) :
    Counts (acts ++ acts') n :=
  Nat.zero_add n ▸ (of_reads reads).append h

theorem look {reading : Time.Duration} (h : Counts acts n) : Counts (.looked reading :: acts) n :=
  ⟨by rw [countP_deletes_looked, h.deletes], h.answered⟩

end Counts

/-- If it is a delete, it may take between one and so many rows. -/
def Act.Bounded {σ : Type} (nominal : UInt32) : Act σ → Prop
  | .asked (.deleteBefore _ _ limit) .. => 0 < limit.toNat ∧ limit.toNat ≤ nominal.toNat
  | _ => True

theorem Act.bounded_of_reads {σ : Type} {nominal : UInt32} {acts : List (Act σ)}
    (reads : ∀ act ∈ acts, act.deletes = false) : ∀ act ∈ acts, act.Bounded nominal := by
  intro act hact
  have := reads act hact
  cases act with
  | asked q =>
    cases q with
    | deleteBefore => cases this
    | _ => trivial
  | _ => trivial

variable {ω : Type} {acts : List (Act (Place ω))} {s s' : Store}

theorem Sizing.executed {cutoff : Instant} {nominal : UInt32} {scope : Option Int}
    {result : Except DatabaseError UInt32} (h : Sizing cutoff nominal scope result acts)
    (pos : 0 < nominal) (executed : Executed s acts s') (there : s.Removable) :
    ∃ limit, result = .ok limit ∧
      limit.toNat = (s.extent cutoff scope).limit nominal.toNat := by
  cases h with
  | unbounded =>
    exact absurd executed.call.1 (Request.Removes.not_refused (by trivial) there _)
  | uncounted =>
    obtain ⟨bounded, rest⟩ := executed.call
    obtain ⟨-, hs⟩ := ofQuery_ok (f := fun s => s.maxIdAfter cutoff scope) bounded
    rw [hs] at rest
    exact absurd rest.call.1 (Request.Removes.not_refused (by trivial) there _)
  | @sized boundary older =>
    obtain ⟨bounded, rest⟩ := executed.call
    obtain ⟨hb, hs⟩ := ofQuery_ok (f := fun s => s.maxIdAfter cutoff scope) bounded
    rw [hs] at rest
    obtain ⟨hc, -⟩ := ofQuery_ok
      (f := fun s => s.countAtOrBefore cutoff boundary scope nominal) rest.call.1
    exact ⟨_, rfl, limitFor_counted pos hb hc⟩

namespace Removal

variable {r : Removal} {guard : Guard}

/-- An attempt makes one delete, sized by the extent of what it finds. -/
theorem Attempt.executed {result : Except DatabaseError (UInt32 × UInt64)}
    (h : r.Attempt result acts) (pos : 0 < r.chunkSize) (executed : Executed s acts s')
    (there : s.Removable) :
    ∃ limit k, result = .ok (limit, k) ∧
      limit.toNat = (s.extent r.cutoff r.scope).limit r.chunkSize.toNat ∧
      k.toNat = min limit.toNat (s.due r.cutoff r.scope).length ∧
      s' = s.thinned r.cutoff r.scope k.toNat ∧ Counts acts 1 := by
  cases h with
  | unsized sizing =>
    obtain ⟨_, sized, -⟩ := sizing.executed pos executed there
    cases sized
  | undeleted sizing =>
    obtain ⟨m, first, later⟩ := executed.split
    rw [linked_unchanged first.linked sizing.reads] at later
    exact absurd later.call.1 (Request.Removes.not_refused (by trivial) there _)
  | @deleted limit acts k b a sizing =>
    obtain ⟨m, first, -⟩ := executed.split
    obtain ⟨_, sized, hlimit⟩ := sizing.executed pos first there
    cases sized
    obtain ⟨-, hk, hs⟩ := Attempt.linked_ok pos (.deleted sizing) executed.linked
    exact ⟨_, _, rfl, hlimit, hk, hs, .skip sizing.reads ⟨rfl, rfl⟩⟩

theorem Glance.executed {answer : Except DatabaseError Bool} (h : r.Glance answer acts)
    (executed : Executed s acts s') (there : s.Removable) :
    s' = s ∧ ∃ left, answer = .ok left ∧
      (left = true ↔ 0 < (s.extent r.cutoff r.scope).due + (s.extent r.cutoff r.scope).level) := by
  refine ⟨linked_unchanged executed.linked h.reads, ?_⟩
  cases h with
  | failed => exact absurd executed.call.1 (Request.Removes.not_refused (by trivial) there _)
  | counted =>
    obtain ⟨hc, -⟩ := ofQuery_ok
      (f := fun s => s.countAtOrBefore r.cutoff none r.scope 1) executed.call.1
    exact ⟨_, rfl, decide_eq_true_iff.trans (Store.countAtOrBefore_any hc)⟩

/-- A chunk that was filled leaves the rows above it. -/
theorem Attempt.filled {limit : UInt32} {k : UInt64} (h : r.Attempt (.ok (limit, k)) acts)
    (pos : 0 < r.chunkSize) (executed : Executed s acts s') (there : s.Removable)
    (filled : ¬ k < limit.toUInt64) :
    let e := s.extent r.cutoff r.scope
    let size := e.limit r.chunkSize.toNat
    s'.Removable ∧ s'.extent r.cutoff r.scope = e.less size ∧ size ≤ e.due ∧
      (r.chunkSize ≤ limit ↔ r.chunkSize.toNat ≤ size) ∧ Counts acts 1 := by
  intro e size
  obtain ⟨_, _, same, hlimit, hk, rfl, counts⟩ := h.executed pos executed there
  cases same
  have full : limit.toNat ≤ k.toNat := Nat.not_lt.1 fun h => filled (Store.lt_toUInt64_iff.2 h)
  have exactly : k.toNat = limit.toNat := by omega
  rw [exactly] at hk ⊢
  refine ⟨there.thinned _ _ _, ?_, ?_, ?_, counts⟩
  · rw [Store.extent_thinned, hlimit]
  · exact Nat.le_trans (Nat.le_of_eq (hlimit ▸ hk)) (Nat.min_le_right _ _)
  · rw [UInt32.le_iff_toNat_le, hlimit]

/-- A removal that starts here stops of its own accord, after as many deletes as the extent of the
old rows tells. -/
structure Counted (r : Removal) (s : Store) (ending : Ending) (acts : List (Act (Place ω))) :
    Prop where
  within : ending = .within
  counts : Counts acts ((s.extent r.cutoff r.scope).deletes r.chunkSize.toNat)

section Counted

variable {ending : Ending} {reading : Time.Duration} {later : List (Act (Place ω))} {m : Store}

theorem Counted.skip (reads : ∀ act ∈ acts, act.deletes = false) (h : r.Counted s ending later) :
    r.Counted s ending (acts ++ later) :=
  ⟨h.within, h.counts.skip reads⟩

/-- A filled chunk is one delete more than the rows that it leaves need. -/
theorem Counted.next {limit : UInt32} {k : UInt64} (pos : 0 < r.chunkSize)
    (attempt : r.Attempt (.ok (limit, k)) acts) (first : Executed s acts m)
    (there : s.Removable) (filled : ¬ k < limit.toUInt64)
    (more : r.chunkSize ≤ limit ∨
      0 < (m.extent r.cutoff r.scope).due + (m.extent r.cutoff r.scope).level)
    (h : r.Counted m ending later) : r.Counted s ending (.looked reading :: (acts ++ later)) := by
  obtain ⟨-, extent, le, nominal, counts⟩ := attempt.filled pos first there filled
  rw [extent, nominal] at more
  have rest := h.counts
  rw [extent] at rest
  refine ⟨h.within, ?_⟩
  rw [Extent.deletes_next (N := r.chunkSize.toNat) pos le more, Nat.add_comm]
  exact (counts.append rest).look

theorem Counted.dry {limit : UInt32} {k : UInt64} (pos : 0 < r.chunkSize)
    (attempt : r.Attempt (.ok (limit, k)) acts) (executed : Executed s acts s')
    (there : s.Removable) (few : k < limit.toUInt64) :
    r.Counted s .within (.looked reading :: acts) := by
  obtain ⟨_, _, same, hlimit, hk, -, counts⟩ := attempt.executed pos executed there
  cases same
  have few := Store.lt_toUInt64_iff.1 few
  have short : (s.extent r.cutoff r.scope).due < limit.toNat :=
    show (s.due r.cutoff r.scope).length < _ by omega
  refine ⟨rfl, ?_⟩
  rw [Extent.deletes_dry (N := r.chunkSize.toNat) pos (hlimit ▸ short)]
  exact counts.look

theorem Counted.empty {limit : UInt32} {k : UInt64} (pos : 0 < r.chunkSize)
    (attempt : r.Attempt (.ok (limit, k)) acts) (first : Executed s acts m)
    (there : s.Removable) (filled : ¬ k < limit.toUInt64) (small : ¬ r.chunkSize ≤ limit)
    (reads : ∀ act ∈ later, act.deletes = false)
    (none : ¬ 0 < (m.extent r.cutoff r.scope).due + (m.extent r.cutoff r.scope).level) :
    r.Counted s .within (.looked reading :: (acts ++ later)) := by
  obtain ⟨-, extent, le, nominal, counts⟩ := attempt.filled pos first there filled
  rw [extent] at none
  rw [nominal] at small
  refine ⟨rfl, ?_⟩
  rw [Extent.deletes_empty le (Nat.lt_of_not_le small) (Nat.eq_zero_of_not_pos none)]
  exact (counts.append (.of_reads reads)).look

end Counted

/-- Without a time limit and with more rounds than rows that are due, a removal comes to its end
with as many deletes as the extent of its store tells. Each filled chunk is one of them
(`Counted.next`), and it leaves an extent by which the rest is told in the same way. -/
theorem Course.counts (pos : 0 < r.chunkSize) (unlimited : guard.maxRuntime = none) {rounds : Nat}
    {ending : Ending} (h : r.Course guard rounds ending acts) :
    ∀ {s : Store}, Executed s acts s' → s.Removable →
      (s.extent r.cutoff r.scope).due < rounds → r.Counted s ending acts := by
  -- a filled chunk took at least one row, so one round less is enough for the rest
  have fewer {s m : Store} {acts : List (Act (Place ω))} {limit : UInt32} {k : UInt64} {n : Nat}
      (attempt : r.Attempt (.ok (limit, k)) acts) (first : Executed s acts m)
      (there : s.Removable) (filled : ¬ k < limit.toUInt64)
      (enough : (s.extent r.cutoff r.scope).due < n + 1) :
      m.Removable ∧ (m.extent r.cutoff r.scope).due < n := by
    obtain ⟨there', extent, le, -, -⟩ := attempt.filled pos first there filled
    have some : 0 < (s.extent r.cutoff r.scope).limit r.chunkSize.toNat := Extent.limit_pos pos
    rw [extent, Extent.less_due]
    exact ⟨there', by omega⟩
  induction h with
  | spent => exact fun _ _ enough => absurd enough (Nat.not_lt_zero _)
  | tripped check => nomatch (guard.check_of_unlimited unlimited _).symm.trans check
  | failed _ attempt =>
    intro s executed there _
    obtain ⟨_, _, answered, -⟩ := attempt.executed pos executed.look there
    cases answered
  | dry _ attempt few =>
    intro s executed there _
    exact .dry pos attempt executed.look there few
  | full _ attempt filled nominal _ ih =>
    intro s executed there enough
    obtain ⟨m, first, later⟩ := executed.look.split
    obtain ⟨there', enough'⟩ := fewer attempt first there filled enough
    exact (ih later there' enough').next pos attempt first there filled (.inl nominal)
  | unknown _ attempt filled _ glance =>
    intro s executed there _
    obtain ⟨m, first, later⟩ := executed.look.split
    obtain ⟨there', -⟩ := attempt.filled pos first there filled
    obtain ⟨-, _, answered, -⟩ := glance.executed later there'
    cases answered
  | empty _ attempt filled small glance =>
    intro s executed there _
    obtain ⟨m, first, later⟩ := executed.look.split
    obtain ⟨there', -⟩ := attempt.filled pos first there filled
    obtain ⟨-, _, answered, left⟩ := glance.executed later there'
    cases answered
    exact .empty pos attempt first there filled small glance.reads fun h => nomatch left.2 h
  | more _ attempt filled _ glance _ ih =>
    intro s executed there enough
    obtain ⟨m, first, others⟩ := executed.look.split
    obtain ⟨there', enough'⟩ := fewer attempt first there filled enough
    obtain ⟨m', between, later⟩ := others.split
    obtain ⟨rfl, _, answered, left⟩ := glance.executed between there'
    cases answered
    exact ((ih later there' enough').skip glance.reads).next pos attempt first there filled
      (.inr (left.1 rfl))

theorem Attempt.bounded {result : Except DatabaseError (UInt32 × UInt64)}
    (h : r.Attempt result acts) (pos : 0 < r.chunkSize) :
    ∀ act ∈ acts, act.Bounded r.chunkSize := by
  have sized {limit : UInt32} {acts : List (Act (Place ω))} {b a : Place ω}
      {answer : Except DatabaseError UInt64}
      (sizing : Sizing r.cutoff r.chunkSize r.scope (.ok limit) acts) :
      (Act.asked (.deleteBefore r.cutoff r.scope limit) b answer a).Bounded r.chunkSize := by
    cases sizing
    exact ⟨limitFor_pos pos _, limitFor_le _ _⟩
  cases h with
  | unsized sizing => exact Act.bounded_of_reads sizing.reads
  | undeleted sizing | deleted sizing =>
    exact List.forall_mem_append.2
      ⟨Act.bounded_of_reads sizing.reads, List.forall_mem_singleton.2 (sized sizing)⟩

theorem Course.bounded (pos : 0 < r.chunkSize) {rounds : Nat} {ending : Ending}
    (h : r.Course guard rounds ending acts) : ∀ act ∈ acts, act.Bounded r.chunkSize :=
  h.forall_acts (fun _ => trivial) (fun attempt => attempt.bounded pos)
    fun glance => Act.bounded_of_reads glance.reads

section Runs

variable (around : Surroundings ω) (span : Option DataDomain) (r : Removal)
  (pos : 0 < r.chunkSize) (guard : Guard) (unlimited : guard.maxRuntime = none) (rounds : Nat)
  (step : StepReport) (state : ω) (s : Store)
  (faultless : ∀ q state, (around.fault q state).1 = none) (there : s.Removable)
  (enough : (s.due r.cutoff r.scope).length < rounds)
include pos unlimited faultless there enough

theorem run_counted :
    let world := World.alone around
    let out := r.run (world.host span) world.access.performance guard rounds step ⟨⟨state, s⟩, []⟩
    let n := (s.extent r.cutoff r.scope).deletes r.chunkSize.toNat
    out.1.1 = .within ∧ out.2.acts.countP Act.deletes = n ∧
      out.1.2.statements = step.statements + n.toUInt32 ∧
      ∀ act ∈ out.2.acts, act.Bounded r.chunkSize := by
  intro world out n
  obtain ⟨acts, ran, course, hstep⟩ := run_course world span r guard rounds step ⟨⟨state, s⟩, []⟩
  have hacts : out.2.acts = acts := ran.acts_eq
  obtain ⟨within, counts⟩ := course.counts pos unlimited (ran.executed faultless) there enough
  rw [hacts]
  refine ⟨within, counts.deletes, ?_, course.bounded pos⟩
  rw [show out.1.2 = _ from hstep, StepReport.after_eq, counts.answered]

end Runs

/-- Where no row in scope is stamped exactly at the cutoff, a removal of `n` rows, of which `m` lie
below the highest young row, makes as many deletes as there are chunks of those `m` rows, the last
of them filled as well, and of the others, with one more that finds less than a chunk. With no row
above, the chunks are those of all `n`. Each delete may take from one row to a whole chunk. -/
theorem run_counts_statements (around : Surroundings ω) (span : Option DataDomain) (r : Removal)
    (pos : 0 < r.chunkSize) (guard : Guard) (unlimited : guard.maxRuntime = none) (rounds : Nat)
    (step : StepReport) (state : ω) (s : Store)
    (faultless : ∀ q state, (around.fault q state).1 = none) (there : s.Removable)
    (apart : ∀ row ∈ s.data, row.InScope r.scope → row.pushed ≠ r.cutoff.stored)
    (enough : (s.due r.cutoff r.scope).length < rounds) :
    let world := World.alone around
    let out := r.run (world.host span) world.access.performance guard rounds step ⟨⟨state, s⟩, []⟩
    let due := s.due r.cutoff r.scope
    let N := r.chunkSize.toNat
    let n := due.length
    let m := (due.filter fun row => row.Under (s.young r.cutoff r.scope)).length
    let statements := if m = n then n / N + 1 else chunkCount N m + (n - m) / N + 1
    out.1.1 = .within ∧ out.2.acts.countP Act.deletes = statements ∧
      out.1.2.statements = step.statements + statements.toUInt32 ∧
      ∀ cutoff scope limit before answer after,
        .asked (.deleteBefore cutoff scope limit) before answer after ∈ out.2.acts →
        1 ≤ limit.toNat ∧ limit.toNat ≤ N := by
  intro world out due N n m statements
  obtain ⟨within, deletes, hstep, bounded⟩ := run_counted around span r pos guard unlimited rounds
    step state s faultless there enough
  have level : s.level r.cutoff r.scope = [] := List.filter_eq_nil_iff.2 fun row hrow same =>
    apart row hrow (of_decide_eq_true same).2 (of_decide_eq_true same).1
  have told : (s.extent r.cutoff r.scope).deletes N = statements := by
    rw [Extent.deletes_of_none (by simp [Store.extent, level])]
    simp only [Store.extent, level, List.length_nil, and_true, statements, m, n, due, eq_comm]
  rw [told] at deletes hstep
  exact ⟨within, deletes, hstep, fun _ _ _ _ _ _ hact => bounded _ hact⟩

/-- Three rows below a young one and five above it, in chunks of two: two deletes, then three. -/
theorem run_counts_statements_backfilled :
    let s := Store.Seed.sowAll .empty [.repository "main" none, .data "1969" 1 3 none,
      .data "1971" 1 1 none, .data "1969" 1 5 none]
    let epoch : Instant := ⟨0, 0, by decide⟩
    let r := Removal.main epoch 2
    let world := World.alone (.still epoch)
    let out := r.run (world.host none) world.access.performance ⟨0, none⟩ 9 { name := r.name }
      ⟨⟨(), s⟩, []⟩
    0 < r.chunkSize ∧ s.Removable ∧
      (∀ row ∈ s.data, row.InScope r.scope → row.pushed ≠ r.cutoff.stored) ∧
      (s.due r.cutoff r.scope).length < 9 ∧
      out.1.1 = .within ∧ out.2.acts.countP Act.deletes = 5 := by
  intro s epoch r world out
  have pos : 0 < r.chunkSize := by decide
  have there : s.Removable := by decide +kernel
  have apart : ∀ row ∈ s.data, row.InScope r.scope → row.pushed ≠ r.cutoff.stored := by
    decide +kernel
  have enough : (s.due r.cutoff r.scope).length < 9 := by decide +kernel
  obtain ⟨within, deletes, -⟩ := run_counts_statements (.still epoch) none r pos ⟨0, none⟩ rfl 9
    { name := r.name } () s (fun _ _ => rfl) there apart enough
  have five : _ = 5 := deletes.trans (by decide +kernel)
  with_reducible exact ⟨pos, there, apart, enough, within, five⟩

/-- With rows stamped exactly at the cutoff, `a` of them below the highest young row, chunks are
full but for two of them if there are none or a whole chunk of those. Fewer make chunks as small as
they are few once the rows below are gone, and then the deletes are at most those of `n` rows in
chunks of `a`. -/
theorem run_counts_at_cutoff (around : Surroundings ω) (span : Option DataDomain) (r : Removal)
    (pos : 0 < r.chunkSize) (guard : Guard) (unlimited : guard.maxRuntime = none) (rounds : Nat)
    (step : StepReport) (state : ω) (s : Store)
    (faultless : ∀ q state, (around.fault q state).1 = none) (there : s.Removable)
    (enough : (s.due r.cutoff r.scope).length < rounds) :
    let world := World.alone around
    let out := r.run (world.host span) world.access.performance guard rounds step ⟨⟨state, s⟩, []⟩
    let N := r.chunkSize.toNat
    let n := (s.due r.cutoff r.scope).length
    let extent := s.extent r.cutoff r.scope
    let a := extent.levelBelow
    out.1.1 = .within ∧ out.2.acts.countP Act.deletes = extent.deletes N ∧
      (a = 0 ∨ N ≤ a → out.2.acts.countP Act.deletes ≤ n / N + 2) ∧
      (0 < a → a < N → out.2.acts.countP Act.deletes ≤ n / a + 1) ∧
      (0 < a → a < N → extent.below = 0 → out.2.acts.countP Act.deletes = n / a + 1) := by
  intro world out N n extent a
  obtain ⟨within, deletes, -⟩ := run_counted around span r pos guard unlimited rounds
    step state s faultless there enough
  have deletes : out.2.acts.countP Act.deletes = extent.deletes N := deletes
  rw [deletes]
  refine ⟨within, rfl, Extent.deletes_le pos, Extent.deletes_le_of_few, fun some few none => ?_⟩
  rw [Extent.deletes_of_few some few, none, Nat.zero_add, Nat.div_eq_of_lt few, Nat.zero_mul,
    if_neg (Nat.not_lt_zero _), Nat.zero_add, Nat.max_zero, Nat.sub_zero]
  rfl

/-- Two rows at the cutoff below a young one, and five old ones above. -/
theorem run_counts_at_cutoff_two :
    let s := Store.Seed.sowAll .empty [.repository "main" none,
      .data "1970-01-01T00:00:00+00:00" 1 2 none, .data "1971" 1 1 none, .data "1969" 1 5 none]
    let epoch : Instant := ⟨0, 0, by decide⟩
    let r := Removal.main epoch 3
    let world := World.alone (.still epoch)
    let out := r.run (world.host none) world.access.performance ⟨0, none⟩ 6 { name := r.name }
      ⟨⟨(), s⟩, []⟩
    0 < r.chunkSize ∧ s.Removable ∧ (s.due r.cutoff r.scope).length < 6 ∧
      (s.extent r.cutoff r.scope).levelBelow = 2 ∧
      out.1.1 = .within ∧ out.2.acts.countP Act.deletes = 3 := by
  intro s epoch r world out
  have pos : 0 < r.chunkSize := by decide
  have there : s.Removable := by decide +kernel
  have enough : (s.due r.cutoff r.scope).length < 6 := by decide +kernel
  have two : (s.extent r.cutoff r.scope).levelBelow = 2 := by decide +kernel
  obtain ⟨within, deletes, -⟩ := run_counts_at_cutoff (.still epoch) none r pos ⟨0, none⟩ rfl 6
    { name := r.name } () s (fun _ _ => rfl) there enough
  have three : _ = 3 := deletes.trans (by decide +kernel)
  with_reducible exact ⟨pos, there, enough, two, within, three⟩

/-- One row at the cutoff below a young one makes a removal take ten rows one by one, although a
chunk has room for a hundred. -/
theorem row_at_cutoff_shrinks_chunks :
    let s := Store.Seed.sowAll .empty [.repository "main" none,
      .data "1970-01-01T00:00:00+00:00" 1 1 none, .data "1971" 1 1 none, .data "1969" 1 10 none]
    let epoch : Instant := ⟨0, 0, by decide⟩
    let r := Removal.main epoch 100
    let world := World.alone (.still epoch)
    let out := r.run (world.host none) world.access.performance ⟨0, none⟩ 11 { name := r.name }
      ⟨⟨(), s⟩, []⟩
    let n := (s.due r.cutoff r.scope).length
    0 < r.chunkSize ∧ s.Removable ∧ n = 10 ∧ out.1.1 = .within ∧
      out.2.acts.countP Act.deletes = 11 ∧
      ¬ out.2.acts.countP Act.deletes ≤ n / r.chunkSize.toNat + 2 := by
  decide +kernel

end Removal

end Cycle

end Retention
