import Retention.Proofs.RemovalCourse
import Retention.Proofs.Rows

/-!
# What a removal takes

With nobody else at work, a removal takes the lowest rows that are due, and stops of its own accord
only when none is left (`Removal.run_removes_lowest`). With others at work it still takes none that
is not due, and when it stops of its own accord, none was due right after its last call
(`Removal.run_spares_others`).

The number of rows that are due falls with every chunk that is filled, and a chunk is never sized to
nothing: this bounds the deletes, and it is what the induction over the course of a removal carries
(`Removal.Thins`).
-/

namespace Retention.Cycle

open Store (DatabaseError)
open Time (Instant)

variable {ω : Type} {cutoff : Instant} {scope : Option Int}

theorem limitFor_toNat (nominal : UInt32) {older : UInt64} (h : older ≠ 0) :
    (limitFor nominal older).toNat = min older.toNat nominal.toNat := by
  have hlt := nominal.toNat_lt
  have hmin : (min older nominal.toUInt64).toNat = min older.toNat nominal.toNat := by
    change (if older ≤ nominal.toUInt64 then older else nominal.toUInt64).toNat = _
    rw [Nat.min_def]
    simp only [UInt64.le_iff_toNat_le, UInt32.toNat_toUInt64]
    split_ifs
    · rfl
    · exact UInt32.toNat_toUInt64 nominal
  rw [limitFor, if_neg h, UInt64.toNat_toUInt32, hmin]
  exact Nat.mod_eq_of_lt (by omega)

/-- A chunk is never sized to nothing. -/
theorem limitFor_pos {nominal : UInt32} (pos : 0 < nominal) (older : UInt64) :
    0 < (limitFor nominal older).toNat := by
  have hn : 0 < nominal.toNat := pos
  by_cases h : older = 0
  · rw [limitFor, if_pos h]
    exact hn
  · have ho : older.toNat ≠ 0 := fun h0 => h (UInt64.toNat_inj.1 h0)
    rw [limitFor_toNat nominal h]
    omega

theorem delete_thins {limit : UInt32} {k : UInt64} {before after : Place ω}
    (h : (Act.asked (.deleteBefore cutoff scope limit) before (.ok k) after).Sound) :
    k.toNat = min limit.toNat (before.store.due cutoff scope).length ∧
      after.store = before.store.thinned cutoff scope k.toNat :=
  Store.deleteData_ok (ofStatement_ok h)

theorem glance_due {left : UInt64} {before after : Place ω}
    (h : (Act.asked (.countAtOrBefore cutoff none scope 1) before (.ok left) after).Sound)
    (none_left : ¬ 0 < left) : after.store.due cutoff scope = [] := by
  obtain ⟨hq, hs⟩ := ofQuery_ok (f := fun s => s.countAtOrBefore cutoff none scope 1) h
  rw [hs]
  exact Store.due_eq_nil hq none_left

namespace Removal

variable {r : Removal} {guard : Guard} {acts : List (Act (Place ω))} {s s' : Store}

theorem Attempt.linked_error {e : DatabaseError} (h : r.Attempt (.error e) acts)
    (linked : Linked s acts s') : s' = s := by
  cases h with
  | unsized sizing => exact linked_unchanged linked sizing.reads
  | undeleted sizing =>
    obtain ⟨m, first, rfl, sound, rfl⟩ := (linked_append _ _).1 linked
    rw [← linked_unchanged first sizing.reads]
    exact sound

theorem Attempt.linked_ok (pos : 0 < r.chunkSize) {limit : UInt32} {k : UInt64}
    (h : r.Attempt (.ok (limit, k)) acts) (linked : Linked s acts s') :
    0 < limit.toNat ∧ k.toNat = min limit.toNat (s.due r.cutoff r.scope).length ∧
      s' = s.thinned r.cutoff r.scope k.toNat := by
  cases h with
  | deleted sizing =>
    obtain ⟨m, first, rfl, sound, rfl⟩ := (linked_append _ _).1 linked
    have hm := linked_unchanged first sizing.reads
    obtain ⟨hk, hs⟩ := delete_thins sound
    rw [hm] at hk hs
    refine ⟨?_, hk, hs⟩
    cases sizing
    exact limitFor_pos pos _

theorem Attempt.rowsDeleted_ok {limit : UInt32} {k : UInt64}
    (h : r.Attempt (.ok (limit, k)) acts) : rowsDeleted acts = k.toNat := by
  rw [rowsDeleted, h.deletions_ok, List.map_singleton, List.sum_singleton]

theorem Attempt.deletes_le {result : Except DatabaseError (UInt32 × UInt64)}
    (h : r.Attempt result acts) : acts.countP Act.deletes ≤ 1 := by
  cases h with
  | unsized sizing => simp [countP_deletes_eq_zero sizing.reads]
  | undeleted sizing =>
    simp [List.countP_append, countP_deletes_eq_zero sizing.reads, Act.deletes, Request.deletes]
  | deleted sizing =>
    simp [List.countP_append, countP_deletes_eq_zero sizing.reads, Act.deletes, Request.deletes]

theorem Glance.linked {answer : Except DatabaseError Bool} (h : r.Glance answer acts)
    (linked : Linked s acts s') :
    s' = s ∧ (answer = .ok false → s.due r.cutoff r.scope = []) := by
  have hs := linked_unchanged linked h.reads
  refine ⟨hs, fun hf => ?_⟩
  cases h with
  | failed => cases hf
  | counted =>
    obtain ⟨-, sound, rfl⟩ := linked
    rw [← hs]
    exact glance_due sound (by simpa using hf)

/-- What the acts of a removal with so many rounds came to, `d` rows having gone. -/
structure Thins (r : Removal) (rounds : Nat) (ending : Ending) (acts : List (Act (Place ω)))
    (s s' : Store) (d : Nat) : Prop where
  le : d ≤ (s.due r.cutoff r.scope).length
  store : s' = s.thinned r.cutoff r.scope d
  rows : rowsDeleted acts = d
  deletes : acts.countP Act.deletes ≤ d + 1
  within : ending = .within → d = (s.due r.cutoff r.scope).length
  unfinished : ending = .unfinished → rounds ≤ d

section Thins

variable {rounds d : Nat} {ending : Ending} {reading : Time.Duration}

theorem Thins.stop (none_deleted : deletions acts = []) (deletes : acts.countP Act.deletes ≤ 1)
    (within : ending = .within → s.due r.cutoff r.scope = [])
    (unfinished : ending = .unfinished → rounds = 0) : r.Thins rounds ending acts s s 0 where
  le := Nat.zero_le _
  store := (Store.thinned_zero ..).symm
  rows := by rw [rowsDeleted, none_deleted, List.map_nil, List.sum_nil]
  deletes := deletes
  within h := by rw [within h, List.length_nil]
  unfinished h := Nat.le_of_eq (unfinished h)

theorem Thins.skip {later : List (Act (Place ω))} (reads : ∀ act ∈ acts, act.deletes = false)
    (h : r.Thins rounds ending later s s' d) : r.Thins rounds ending (acts ++ later) s s' d where
  le := h.le
  store := h.store
  rows := by rw [rowsDeleted_append, h.rows, rowsDeleted, deletions_eq_nil reads]; simp
  deletes := by rw [List.countP_append, countP_deletes_eq_zero reads, Nat.zero_add]; exact h.deletes
  within := h.within
  unfinished := h.unfinished

/-- A chunk that was filled took at least one row, so the rest has fewer to go. -/
theorem Thins.next {later : List (Act (Place ω))} {m : Store} {limit : UInt32} {k : UInt64}
    (pos : 0 < r.chunkSize) (attempt : r.Attempt (.ok (limit, k)) acts) (linked : Linked s acts m)
    (filled : ¬ k < limit.toUInt64) (h : r.Thins rounds ending later m s' d) :
    r.Thins (rounds + 1) ending (.looked reading :: (acts ++ later)) s s' (k.toNat + d) := by
  obtain ⟨limit_pos, hk, hm⟩ := attempt.linked_ok pos linked
  have hfull : limit.toNat ≤ k.toNat := Nat.not_lt.1 fun h => filled (Store.lt_toUInt64_iff.2 h)
  have hdue : (m.due r.cutoff r.scope).length = (s.due r.cutoff r.scope).length - k.toNat := by
    rw [hm, Store.due_thinned, List.length_drop]
  have hrows : rowsDeleted (acts ++ later) = k.toNat + d := by
    rw [rowsDeleted_append, h.rows, attempt.rowsDeleted_ok]
  have hle := h.le
  refine ⟨by omega, ?_, hrows, ?_, fun hw => ?_, fun hu => ?_⟩
  · rw [h.store, hm, Store.thinned_thinned]
  · have := h.deletes
    have := attempt.deletes_le
    rw [countP_deletes_looked, List.countP_append]
    omega
  · have := h.within hw
    omega
  · have := h.unfinished hu
    omega

end Thins

/-- However a removal ends, it took the lowest rows that were due, some `d` of them, and tells of
just as many. The rounds before the last one each filled a chunk, and what they took adds up
(`Thins.next`). -/
theorem Course.thins (pos : 0 < r.chunkSize) {rounds : Nat} {ending : Ending}
    (h : r.Course guard rounds ending acts) :
    ∀ {s : Store}, Linked s acts s' → ∃ d, r.Thins rounds ending acts s s' d := by
  induction h with
  | spent =>
    rintro s rfl
    exact ⟨0, .stop rfl (Nat.zero_le _) nofun fun _ => rfl⟩
  | tripped =>
    rintro s rfl
    exact ⟨0, .stop rfl (Nat.zero_le _) nofun nofun⟩
  | failed _ attempt =>
    intro s linked
    obtain rfl := attempt.linked_error linked
    exact ⟨0, .stop attempt.deletions_error attempt.deletes_le nofun nofun⟩
  | dry _ attempt few =>
    intro s linked
    obtain ⟨-, hk, hs⟩ := attempt.linked_ok pos linked
    have hfew := Store.lt_toUInt64_iff.1 few
    refine ⟨_, ⟨by omega, hs, ?_, ?_, fun _ => by omega, nofun⟩⟩
    · rw [rowsDeleted_looked, attempt.rowsDeleted_ok]
    · have := attempt.deletes_le
      rw [countP_deletes_looked]
      omega
  | full _ attempt filled _ _ ih =>
    intro s linked
    obtain ⟨m, first, later⟩ := (linked_append _ _).1 linked
    obtain ⟨d, hd⟩ := ih later
    exact ⟨_, hd.next pos attempt first filled⟩
  | unknown _ attempt filled _ glance =>
    intro s linked
    obtain ⟨m, first, later⟩ := (linked_append _ _).1 linked
    obtain ⟨rfl, -⟩ := glance.linked later
    have none_deleted := countP_deletes_eq_zero glance.reads
    exact ⟨_, Thins.next pos attempt first filled
      (.stop (deletions_eq_nil glance.reads) (by omega) nofun nofun)⟩
  | empty _ attempt filled _ glance =>
    intro s linked
    obtain ⟨m, first, later⟩ := (linked_append _ _).1 linked
    obtain ⟨rfl, none_due⟩ := glance.linked later
    have none_deleted := countP_deletes_eq_zero glance.reads
    exact ⟨_, Thins.next pos attempt first filled
      (.stop (deletions_eq_nil glance.reads) (by omega) (fun _ => none_due rfl) nofun)⟩
  | more _ attempt filled _ glance _ ih =>
    intro s linked
    obtain ⟨m, first, others⟩ := (linked_append _ _).1 linked
    obtain ⟨m', between, later⟩ := (linked_append _ _).1 others
    obtain ⟨rfl, -⟩ := glance.linked between
    obtain ⟨d, hd⟩ := ih later
    exact ⟨_, (hd.skip glance.reads).next pos attempt first filled⟩

theorem Course.finishes (pos : 0 < r.chunkSize) {rounds : Nat} {ending : Ending}
    (h : r.Course guard rounds ending acts) (linked : Linked s acts s')
    (enough : (s.due r.cutoff r.scope).length < rounds) : ending ≠ .unfinished := by
  intro unfinished
  obtain ⟨d, thins⟩ := h.thins pos linked
  have spent := thins.unfinished unfinished
  have most := thins.le
  omega

/-- Whatever the clock, the budget and the errors, a removal with nobody else at work takes the `d`
lowest rows that are due, and nothing else; `d` is what its step counts. It makes at most one delete
more than there are rows due, and when it stops of its own accord, none of them is left. -/
theorem run_removes_lowest (around : Surroundings ω) (span : Option DataDomain) (r : Removal)
    (pos : 0 < r.chunkSize) (guard : Guard) (rounds : Nat) (step : StepReport) (state : ω)
    (s : Store) :
    let world := World.alone around
    let out := r.run (world.host span) world.access.performance guard rounds step ⟨⟨state, s⟩, []⟩
    let due := s.due r.cutoff r.scope
    let d := (out.1.2.deleted - step.deleted).toNat
    let left := out.2.state.store
    out.2.acts.countP Act.deletes ≤ due.length + 1 ∧
      (due.length < rounds → out.1.1 ≠ .unfinished) ∧
      d ≤ due.length ∧ left = s.withoutData (due.take d) ∧
      out.1.2 = { step with
        deleted := step.deleted + d.toUInt64
        statements := step.statements + (deletions out.2.acts).length.toUInt32 } ∧
      (out.1.1 = .within → d = due.length ∧ left.due r.cutoff r.scope = []) := by
  intro world out due d left
  obtain ⟨acts, ran, course, hstep⟩ :=
    run_course world span r guard rounds step ⟨⟨state, s⟩, []⟩
  obtain ⟨n, h⟩ := course.thins pos ran.linked
  have hacts : out.2.acts = acts := ran.acts_eq
  have hafter : out.1.2 = { step with
      deleted := step.deleted + n.toUInt64
      statements := step.statements + (deletions acts).length.toUInt32 } := by
    rw [← h.rows, ← StepReport.after_eq]
    exact hstep
  have hn : n.toUInt64.toNat = n :=
    Store.toNat_toUInt64 (Nat.le_trans h.le (Store.due_length_le ..))
  have hd : d = n := by
    simp only [d, hafter, UInt64.add_comm step.deleted, UInt64.add_sub_cancel, hn]
  rw [hacts, hd]
  refine ⟨Nat.le_trans h.deletes (Nat.succ_le_succ h.le), fun enough hu => ?_, h.le, h.store,
    hafter, fun hw => ⟨h.within hw, ?_⟩⟩
  · exact Nat.not_le.2 enough (Nat.le_trans (h.unfinished hu) h.le)
  · have hleft : left = s.thinned r.cutoff r.scope n := h.store
    rw [hleft, Store.due_thinned, h.within hw, List.drop_length]

/-- An old row above a young one goes too. -/
theorem run_removes_lowest_above_young :
    let data : Store.Table Store.Datum :=
      ⟨[⟨1, 1, "1969"⟩, ⟨2, 1, "1971"⟩, ⟨3, 1, "1969"⟩], by decide, by decide⟩
    let s : Store := { performanceDatum := data }
    let world := World.alone (.still ⟨0, 0, by decide⟩)
    let r := Removal.main ⟨0, 0, by decide⟩ 1
    let out := r.run (world.host none) world.access.performance ⟨0, none⟩ 4 { name := r.name }
      ⟨⟨(), s⟩, []⟩
    0 < r.chunkSize ∧ out.1.1 = .within ∧ out.2.state.store.due r.cutoff r.scope = [] := by
  intro data s world r out
  have pos : 0 < r.chunkSize := by decide
  have within : out.1.1 = .within := by decide +kernel
  have h := (run_removes_lowest (.still ⟨0, 0, by decide⟩) none r pos ⟨0, none⟩ 4
    { name := r.name } () s).2.2.2.2.2
  -- both sides name the same run; comparing them must not carry it out
  with_reducible exact ⟨pos, within, (h within).2⟩

/-- The act only reads, or it deletes rows that are due. -/
def Allows (r : Removal) : Act (Place ω) → Prop
  | .asked q .. => q.deletes = false ∨ ∃ limit, q = .deleteBefore r.cutoff r.scope limit
  | _ => True

theorem allows_of_reads (reads : ∀ act ∈ acts, act.deletes = false) :
    ∀ act ∈ acts, r.Allows act := by
  intro act hact
  have := reads act hact
  cases act with
  | asked => exact .inl this
  | _ => trivial

theorem Attempt.allowed {result : Except DatabaseError (UInt32 × UInt64)}
    (h : r.Attempt result acts) : ∀ act ∈ acts, r.Allows act := by
  cases h with
  | unsized sizing => exact allows_of_reads sizing.reads
  | undeleted sizing =>
    exact List.forall_mem_append.2
      ⟨allows_of_reads sizing.reads, List.forall_mem_singleton.2 (.inr ⟨_, rfl⟩)⟩
  | deleted sizing =>
    exact List.forall_mem_append.2
      ⟨allows_of_reads sizing.reads, List.forall_mem_singleton.2 (.inr ⟨_, rfl⟩)⟩

theorem Course.allowed {rounds : Nat} {ending : Ending} (h : r.Course guard rounds ending acts) :
    ∀ act ∈ acts, r.Allows act :=
  h.forall_acts (fun _ => trivial) Attempt.allowed fun glance => allows_of_reads glance.reads

theorem Allows.spares {q : Request} {before after : Place ω}
    {answer : Except DatabaseError q.Answer} (h : r.Allows (.asked q before answer after))
    (sound : (Act.asked q before answer after).Sound) :
    ∃ gone, after.store = before.store.withoutData gone ∧
      ∀ row ∈ gone, row.Eligible r.cutoff r.scope := by
  rcases h with reads | ⟨limit, rfl⟩
  · exact ⟨[], by rw [sound.unchanged reads, Store.withoutData_nil], nofun⟩
  rcases answer with e | k
  · exact ⟨[], by rw [show after.store = _ from sound, Store.withoutData_nil], nofun⟩
  · exact ⟨_, (delete_thins sound).2, fun row hrow => Store.eligible_of_mem_take hrow⟩

/-- The last of the acts is a call right after which nothing is due. -/
def EndsDry (r : Removal) (acts : List (Act (Place ω))) : Prop :=
  ∃ earlier q before answer after, acts = earlier ++ [.asked q before answer after] ∧
    after.store.due r.cutoff r.scope = []

theorem EndsDry.append (h : r.EndsDry acts) (earlier : List (Act (Place ω))) :
    r.EndsDry (earlier ++ acts) := by
  obtain ⟨before, q, b, answer, a, rfl, hdue⟩ := h
  exact ⟨earlier ++ before, q, b, answer, a, (List.append_assoc ..).symm, hdue⟩

/-- A chunk that is not filled has taken all that was due. -/
theorem Attempt.ends_dry {limit : UInt32} {k : UInt64} (h : r.Attempt (.ok (limit, k)) acts)
    (few : k < limit.toUInt64) (sound : ∀ act ∈ acts, act.Sound) : r.EndsDry acts := by
  cases h with
  | deleted sizing =>
    obtain ⟨hk, hs⟩ := delete_thins (sound _ (List.mem_append_right _ (List.mem_singleton_self _)))
    have hfew := Store.lt_toUInt64_iff.1 few
    refine ⟨_, _, _, _, _, rfl, ?_⟩
    rw [hs, Store.due_thinned, List.drop_eq_nil_iff]
    omega

theorem Glance.ends_dry {answer : Except DatabaseError Bool} (h : r.Glance answer acts)
    (none_left : answer = .ok false) (sound : ∀ act ∈ acts, act.Sound) : r.EndsDry acts := by
  cases h with
  | failed => cases none_left
  | counted =>
    exact ⟨[], _, _, _, _, rfl,
      glance_due (sound _ (List.mem_singleton_self _)) (by simpa using none_left)⟩

theorem Course.ends_dry {rounds : Nat} {ending : Ending} (h : r.Course guard rounds ending acts) :
    (∀ act ∈ acts, act.Sound) → ending = .within → r.EndsDry acts := by
  induction h with
  | spent => exact nofun
  | tripped => exact nofun
  | failed => exact nofun
  | dry _ attempt few =>
    intro sound _
    exact (attempt.ends_dry few (List.forall_mem_cons.1 sound).2).append [_]
  | full _ _ _ _ _ ih =>
    intro sound hw
    have later := (List.forall_mem_append.1 (List.forall_mem_cons.1 sound).2).2
    exact ((ih later hw).append _).append [_]
  | unknown => exact nofun
  | empty _ _ _ _ glance =>
    intro sound _
    have later := (List.forall_mem_append.1 (List.forall_mem_cons.1 sound).2).2
    exact ((glance.ends_dry rfl later).append _).append [_]
  | more _ _ _ _ _ _ ih =>
    intro sound hw
    have others := (List.forall_mem_append.1 (List.forall_mem_cons.1 sound).2).2
    exact (((ih (List.forall_mem_append.1 others).2 hw).append _).append _).append [_]

/-- Whatever others do to the store between its calls, a removal takes only rows that are due at
that moment, and when it stops of its own accord, none was due right after its last call. -/
theorem run_spares_others (around : Surroundings ω) (others : Request → ω → Store → Store)
    (span : Option DataDomain) (r : Removal) (guard : Guard) (rounds : Nat) (step : StepReport)
    (state : ω) (s : Store) :
    let world := World.sharing around others
    let out := r.run (world.host span) world.access.performance guard rounds step ⟨⟨state, s⟩, []⟩
    (∀ q before answer after, .asked q before answer after ∈ out.2.acts →
      ∃ gone, after.store = before.store.withoutData gone ∧
        ∀ row ∈ gone, row.Eligible r.cutoff r.scope) ∧
      (out.1.1 = .within → ∃ earlier q before answer after,
        out.2.acts = earlier ++ [.asked q before answer after] ∧
          after.store.due r.cutoff r.scope = []) := by
  intro world out
  obtain ⟨acts, ran, course, -⟩ :=
    run_course world span r guard rounds step ⟨⟨state, s⟩, []⟩
  have hacts : out.2.acts = acts := ran.acts_eq
  rw [hacts]
  refine ⟨fun q before answer after hact => ?_, course.ends_dry ran.sound⟩
  exact Allows.spares (course.allowed _ hact) (ran.sound _ hact)

end Removal

end Retention.Cycle
