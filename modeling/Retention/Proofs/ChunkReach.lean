import Retention.Proofs.Statements

/-!
# What a sized chunk reaches

Whatever is answered, the size of a chunk lies between one and the nominal size. Where no row is
stamped exactly at the cutoff, it is the number of rows that are due below the highest young row,
capped, and these are the first that are due (`Store.due_descends`): a delete of that size takes as
many rows as it may, and none from above (`idealChunkSize_reaches_below`).
-/

namespace Retention

namespace Store

open Time (Instant)

variable {cutoff : Instant} {scope : Option Int} {s : Store}

/-- As long as members with `p` are left, all that were taken from the front have it. -/
theorem forall_take_of_le {α : Type} {p : α → Bool} {xs : List α} {n : Nat}
    (down : xs.Pairwise fun x y => p y → p x) (le : n ≤ (xs.filter p).length) :
    ∀ x ∈ xs.take n, p x := by
  have split : (xs.filter p).length =
      ((xs.take n).filter p).length + ((xs.drop n).filter p).length := by
    rw [← List.length_append, ← List.filter_append, List.take_append_drop]
  have taken : (xs.take n).length ≤ n := List.length_take_le n xs
  have kept := List.length_filter_le p (xs.take n)
  rw [length_filter_drop n down] at split
  exact List.length_filter_eq_length_iff.1 (by omega)

/-- Every delete is carried out, unless the table is gone that the data point at. -/
theorem deleteData_eq (there : s.present .performanceDatum) (limit : UInt32) :
    deleteData cutoff scope limit s =
      if s.present .repository then
        .ok ((min limit.toNat (s.due cutoff scope).length).toUInt64,
          s.thinned cutoff scope limit.toNat)
      else .error (.refused (.missingParent .repository)) := by
  obtain ⟨data, hd⟩ := Option.isSome_iff_exists.1 there
  split_ifs with parent
  · obtain ⟨repositories, hr⟩ := Option.isSome_iff_exists.1 parent
    obtain ⟨k, s', answered⟩ : ∃ k s', deleteData cutoff scope limit s = .ok (k, s') := by
      simp [deleteData, hd, hr, need, needParents, present, bind, Except.bind, pure, Except.pure]
    obtain ⟨hk, rfl⟩ := deleteData_ok answered
    have same : k = (min limit.toNat (s.due cutoff scope).length).toUInt64 := by
      rw [← hk]
      simp
    rw [answered, hk, thinned_min, ← same]
  · have gone : s.repository = none := by
      simpa [present] using parent
    simp [deleteData, hd, gone, need, needParents, present, bind, Except.bind]

theorem present_of_mem_data {row : Datum} (h : row ∈ s.data) : s.present .performanceDatum := by
  unfold data at h
  rcases hd : s.performanceDatum with _ | t
  · simp [hd] at h
  · simp [present, hd]

end Store

namespace Cycle

open Time (Instant)

section Answers

variable {σ : Type} {host : Host σ} {access : PerformanceAccess σ} {cutoff : Instant}
  {nominal : UInt32} {scope : Option Int}

theorem idealChunkSize_answered {boundary : Option Int} {older : UInt64} {state state' state'' : σ}
    (bounded : access.maxIdAfter cutoff scope state = (.ok boundary, state'))
    (counted : access.countAtOrBefore cutoff boundary scope nominal state' = (.ok older, state'')) :
    (idealChunkSize host access cutoff nominal scope state).1 = .ok (limitFor nominal older) := by
  unfold idealChunkSize
  rw [call_bind_apply, bounded]
  simp only
  rw [call_bind_apply, counted, limitFor]
  by_cases zero : older = 0
  · simp only [if_pos zero]
    rfl
  · simp only [if_neg zero]
    rfl

/-- No size comes out but what an answer makes of the nominal one. -/
theorem idealChunkSize_eq_limitFor {state : σ} {size : UInt32}
    (h : (idealChunkSize host access cutoff nominal scope state).1 = .ok size) :
    ∃ older, size = limitFor nominal older := by
  rcases bounded : access.maxIdAfter cutoff scope state with ⟨_ | boundary, state'⟩
  · unfold idealChunkSize at h
    rw [call_bind_apply, bounded] at h
    cases h
  rcases counted : access.countAtOrBefore cutoff boundary scope nominal state' with
    ⟨_ | older, state''⟩
  · unfold idealChunkSize at h
    rw [call_bind_apply, bounded] at h
    simp only at h
    rw [call_bind_apply, counted] at h
    cases h
  · rw [idealChunkSize_answered bounded counted] at h
    exact ⟨older, (Except.ok.inj h).symm⟩

end Answers

theorem idealChunkSize_direct (host : Host Store) {cutoff : Instant} {nominal : UInt32}
    {scope : Option Int} {s : Store} (pos : 0 < nominal) (there : s.present .performanceDatum) :
    ∃ size, (idealChunkSize host Direct.performance cutoff nominal scope s).1 = .ok size ∧
      size.toNat = (s.extent cutoff scope).limit nominal.toNat := by
  obtain ⟨data, hd⟩ := Option.isSome_iff_exists.1 there
  obtain ⟨boundary, bounded⟩ : ∃ boundary, s.maxIdAfter cutoff scope = .ok boundary := by
    simp [Store.maxIdAfter, hd, Store.need, bind, Except.bind, pure, Except.pure]
  obtain ⟨older, counted⟩ : ∃ older,
      s.countAtOrBefore cutoff boundary scope nominal = .ok older := by
    simp [Store.countAtOrBefore, hd, Store.need, bind, Except.bind, pure, Except.pure]
  have asked : Direct.performance.maxIdAfter cutoff scope s = (.ok boundary, s) := by
    rw [← bounded]
    rfl
  have asked' : Direct.performance.countAtOrBefore cutoff boundary scope nominal s =
      (.ok older, s) := by
    rw [← counted]
    rfl
  exact ⟨_, idealChunkSize_answered asked asked', limitFor_counted pos bounded counted⟩

/-- A chunk has a size from one to the nominal one, whatever the answers. Where no row in scope is
stamped exactly at the cutoff and some row is due below the highest young row, or none is young, the
size is that of all rows below, up to the nominal one. A delete of that size on the same store takes
so many rows, all of them from below, as long as the table of repositories is there. -/
theorem idealChunkSize_reaches_below {nominal : UInt32} (pos : 0 < nominal) (cutoff : Instant)
    (scope : Option Int) :
    (∀ (σ : Type) (host : Host σ) (access : PerformanceAccess σ) (state : σ),
      let answer := (idealChunkSize host access cutoff nominal scope state).1
      (∀ size, answer = .ok size → 1 ≤ size.toNat ∧ size.toNat ≤ nominal.toNat) ∧
      ∀ boundary older state' state'',
        access.maxIdAfter cutoff scope state = (.ok boundary, state') →
        access.countAtOrBefore cutoff boundary scope nominal state' = (.ok older, state'') →
        ∃ size, answer = .ok size) ∧
    ∀ (host : Host Store) (s : Store),
      (∀ row ∈ s.data, row.InScope scope → row.pushed ≠ cutoff.stored) →
      let due := s.due cutoff scope
      let young := s.young cutoff scope
      let below := due.filter fun row => row.Under young
      (∃ row ∈ due, row.Under young) →
      ∃ size, (idealChunkSize host Direct.performance cutoff nominal scope s).1 = .ok size ∧
        size.toNat = min nominal.toNat below.length ∧
        let gone := due.take size.toNat
        gone.length = size.toNat ∧ (∀ row ∈ gone, row.Under young) ∧
        Direct.performance.deleteBefore cutoff scope size s =
          if s.present .repository then (.ok size.toUInt64, s.withoutData gone)
          else (.error (.refused (.missingParent .repository)), s) := by
  refine ⟨fun σ host access state => ⟨fun size answered => ?_, ?_⟩, fun host s apart => ?_⟩
  · obtain ⟨older, rfl⟩ := idealChunkSize_eq_limitFor answered
    exact ⟨limitFor_pos pos older, limitFor_le nominal older⟩
  · intro boundary older state' state'' bounded counted
    exact ⟨_, idealChunkSize_answered bounded counted⟩
  rintro due young below ⟨row, hrow, under⟩
  have there : s.present .performanceDatum :=
    Store.present_of_mem_data (List.mem_filter.1 hrow).1
  obtain ⟨size, answered, hsize⟩ := idealChunkSize_direct host pos there
  have level : s.level cutoff scope = [] := List.filter_eq_nil_iff.2 fun row hrow same =>
    apart row hrow (of_decide_eq_true same).2 (of_decide_eq_true same).1
  have some_below : 0 < below.length :=
    List.length_pos_of_mem (List.mem_filter.2 ⟨hrow, decide_eq_true under⟩)
  have exactly : size.toNat = min nominal.toNat below.length := by
    have none_level : (s.extent cutoff scope).levelBelow = 0 := by
      simp [Store.extent, level]
    rw [hsize, Extent.limit, none_level, Nat.add_zero]
    exact if_neg (Nat.ne_of_gt some_below)
  have reached : size.toNat ≤ below.length := exactly ▸ Nat.min_le_right _ _
  have within : size.toNat ≤ due.length := Nat.le_trans reached (List.length_filter_le _ _)
  refine ⟨size, answered, exactly, ?_, ?_, ?_⟩
  · rw [List.length_take, Nat.min_eq_left within]
  · intro row hrow
    exact of_decide_eq_true
      (Store.forall_take_of_le (Store.due_descends cutoff scope s) reached row hrow)
  · change ofStatement (Store.deleteData cutoff scope size) s = _
    rw [ofStatement, Store.deleteData_eq there, Nat.min_eq_left within]
    split_ifs
    · have same : size.toNat.toUInt64 = size.toUInt64 := by
        simp
      rw [same]
      rfl
    · rfl

/-- Three rows below a young one and two above it, in chunks of up to four: those three go. -/
theorem idealChunkSize_reaches_below_young :
    let s := Store.Seed.sowAll .empty [.repository "main" none, .data "1969" 1 3 none,
      .data "1971" 1 1 none, .data "1969" 1 2 none]
    let epoch : Instant := ⟨0, 0, by decide⟩
    let host : Host Store := ⟨pure 0, pure epoch, fun _ => pure (), fun _ => pure (), none⟩
    let due := s.due epoch (some 1)
    (0 : UInt32) < 4 ∧
      (∀ row ∈ s.data, row.InScope (some 1) → row.pushed ≠ epoch.stored) ∧
      (∃ row ∈ due, row.Under (s.young epoch (some 1))) ∧
      ∃ size, (idealChunkSize host Direct.performance epoch 4 (some 1) s).1 = .ok size ∧
        size.toNat = 3 ∧
        Direct.performance.deleteBefore epoch (some 1) size s =
          (.ok size.toUInt64, s.withoutData (due.take size.toNat)) := by
  intro s epoch host due
  have pos : (0 : UInt32) < 4 := by decide
  have apart : ∀ row ∈ s.data, row.InScope (some 1) → row.pushed ≠ epoch.stored := by
    decide +kernel
  have some_below : ∃ row ∈ due, row.Under (s.young epoch (some 1)) := by decide +kernel
  obtain ⟨size, answered, exactly, -, -, taken⟩ :=
    (idealChunkSize_reaches_below pos epoch (some 1)).2 host s apart some_below
  have three : size.toNat = 3 := exactly.trans (by decide +kernel)
  rw [if_pos (by decide +kernel)] at taken
  exact ⟨pos, apart, some_below, size, answered, three, taken⟩

end Cycle

end Retention
