import Retention.Proofs.KindFaults
import Retention.Proofs.Rows

/-!
# How far old rows reach

The number of deletes that a removal needs depends only on four numbers (`Extent`): the rows that
are due, those of them that lie below a young row, and the rows stamped exactly at the cutoff,
which are counted for a chunk although no delete takes them, with those of them below. A delete
lowers the first two and leaves the others (`Store.extent_thinned`). `Extent.deletes` tells how many
deletes it takes until nothing is left, one after the other (`Extent.deletes_next`).
-/

namespace Retention

/-- How many rows of each sort there are. -/
structure Extent where
  due : Nat
  /-- Those that are due and lie below the highest young row, or all of them if none is young. -/
  below : Nat
  /-- Rows exactly as old as the cutoff. -/
  level : Nat
  levelBelow : Nat
  below_le : below ≤ due
  levelBelow_le : levelBelow ≤ level

namespace Extent

open Retention.Cycle (chunkCount chunkCount_zero chunkCount_eq)

/-- What is left when `k` rows are gone, the lowest first. -/
def less (e : Extent) (k : Nat) : Extent where
  due := e.due - k
  below := e.below - k
  level := e.level
  levelBelow := e.levelBelow
  below_le := Nat.sub_le_sub_right e.below_le k
  levelBelow_le := e.levelBelow_le

section Less

variable (e : Extent) (k : Nat)

@[simp] theorem less_due : (e.less k).due = e.due - k := rfl

@[simp] theorem less_below : (e.less k).below = e.below - k := rfl

@[simp] theorem less_level : (e.less k).level = e.level := rfl

@[simp] theorem less_levelBelow : (e.less k).levelBelow = e.levelBelow := rfl

end Less

/-- The limit of the next delete. -/
def limit (N : Nat) (e : Extent) : Nat :=
  if e.below + e.levelBelow = 0 then N else min N (e.below + e.levelBelow)

/-- The number of deletes until nothing is left. -/
def deletes (N : Nat) (e : Extent) : Nat :=
  if e.levelBelow = 0 then
    if e.due = e.below ∧ e.level = 0 then e.due / N + 1
    else chunkCount N e.below + (e.due - e.below) / N + 1
  else if N ≤ e.levelBelow then e.due / N + 1
  else
    -- as many full chunks, then chunks of the few rows at the cutoff that are never taken
    let full := (e.below + e.levelBelow) / N
    if e.due < full * N then e.due / N + 1
    else full + (e.due - max e.below (full * N)) / e.levelBelow + 1

variable {N : Nat} {e : Extent}

theorem limit_pos (pos : 0 < N) : 0 < e.limit N := by
  unfold limit
  split_ifs <;> omega

theorem limit_le : e.limit N ≤ N := by
  unfold limit
  split_ifs <;> omega

theorem limit_full (h : e.below + e.levelBelow = 0 ∨ N ≤ e.below + e.levelBelow) :
    e.limit N = N := by
  unfold limit
  split_ifs <;> omega

theorem limit_small (pos : 0 < e.below + e.levelBelow) (le : e.below + e.levelBelow ≤ N) :
    e.limit N = e.below + e.levelBelow := by
  rw [limit, if_neg (Nat.ne_of_gt pos), Nat.min_eq_right le]

theorem deletes_of_none (none : e.levelBelow = 0) :
    e.deletes N = if e.due = e.below ∧ e.level = 0 then e.due / N + 1
      else chunkCount N e.below + (e.due - e.below) / N + 1 :=
  if_pos none

theorem deletes_of_many (pos : 0 < N) (many : N ≤ e.levelBelow) : e.deletes N = e.due / N + 1 := by
  rw [deletes, if_neg (by omega), if_pos many]

theorem deletes_of_few (pos : 0 < e.levelBelow) (few : e.levelBelow < N) :
    e.deletes N = if e.due < (e.below + e.levelBelow) / N * N then e.due / N + 1
      else (e.below + e.levelBelow) / N +
        (e.due - max e.below ((e.below + e.levelBelow) / N * N)) / e.levelBelow + 1 := by
  rw [deletes, if_neg (by omega), if_neg (by omega)]

/-- A chunk that is not filled is the last. -/
theorem deletes_dry (pos : 0 < N) (few : e.due < e.limit N) : e.deletes N = 1 := by
  have below_le := e.below_le
  have short : e.due / N = 0 := Nat.div_eq_of_lt (Nat.lt_of_lt_of_le few limit_le)
  unfold limit at few
  by_cases none : e.levelBelow = 0
  · have below : e.below = 0 := by
      split_ifs at few <;> omega
    rw [deletes_of_none none, below, chunkCount_zero pos, Nat.sub_zero, short, ite_self]
  rw [if_neg (by omega)] at few
  by_cases many : N ≤ e.levelBelow
  · rw [deletes_of_many pos many, short]
  rw [deletes_of_few (by omega) (by omega), short]
  split_ifs with within
  · rfl
  have full : (e.below + e.levelBelow) / N = 0 := by
    by_contra some
    have := Nat.mul_le_mul_right N (Nat.pos_of_ne_zero some)
    omega
  rw [full, Nat.div_eq_of_lt (by omega)]

/-- So is a chunk smaller than others that leaves nothing. -/
theorem deletes_empty (filled : e.limit N ≤ e.due) (small : e.limit N < N)
    (empty : e.due - e.limit N + e.level = 0) : e.deletes N = 1 := by
  have below_le := e.below_le
  have levelBelow_le := e.levelBelow_le
  unfold limit at *
  split_ifs at * with unsized
  · omega
  rw [deletes_of_none (by omega), if_pos (by omega), Nat.div_eq_of_lt (by omega)]

/-- Without rows at the cutoff below the highest young row, chunks are full until fewer rows than a
chunk are left below it; the next one takes just these, and above it chunks are full again. -/
theorem deletes_next_of_none (pos : 0 < N) (none : e.levelBelow = 0) (filled : e.limit N ≤ e.due)
    (more : N ≤ e.limit N ∨ 0 < e.due - e.limit N + e.level) :
    e.deletes N = (e.less (e.limit N)).deletes N + 1 := by
  have below_le := e.below_le
  have rest : (e.less (e.limit N)).deletes N = _ := deletes_of_none none
  rw [rest, deletes_of_none none, less_due, less_below, less_level]
  rcases Nat.eq_zero_or_pos e.below with zero | below
  · rw [limit_full (.inl (by omega))] at filled ⊢
    simp only [zero, Nat.zero_sub, chunkCount_zero pos, Nat.zero_add, Nat.sub_zero, ite_self]
    rw [Nat.div_eq_sub_div pos filled]
  rcases Nat.lt_or_ge e.below N with small | large
  · have limit : e.limit N = e.below := by
      rw [limit_small] <;> omega
    rw [limit] at filled more ⊢
    rw [if_neg (by omega), if_neg (by omega), chunkCount_eq pos below, Nat.sub_self,
      Nat.sub_eq_zero_of_le (Nat.le_of_lt small), chunkCount_zero pos, Nat.sub_zero]
    omega
  · rw [limit_full (.inr (by omega))] at filled ⊢
    have same : e.due - N - (e.below - N) = e.due - e.below := by omega
    have cond : e.due - N = e.below - N ↔ e.due = e.below := by omega
    simp only [cond, same]
    rw [Nat.div_eq_sub_div pos filled, chunkCount_eq pos below]
    split_ifs <;> omega

/-- If there are such rows, but fewer than fill a chunk, they are counted for each chunk although
none takes them: chunks are full as long as the rows that are due below the young one fill a chunk
with them, and from then on they are small. -/
theorem deletes_next_of_few (pos : 0 < e.levelBelow) (few : e.levelBelow < N)
    (filled : e.limit N ≤ e.due) : e.deletes N = (e.less (e.limit N)).deletes N + 1 := by
  have below_le := e.below_le
  have rest : (e.less (e.limit N)).deletes N = _ := deletes_of_few pos few
  rw [rest, deletes_of_few pos few, less_due, less_below, less_levelBelow]
  rcases Nat.lt_or_ge (e.below + e.levelBelow) N with small | large
  · -- no chunk is full any more: each takes as many rows as there are at the cutoff
    rw [limit_small (by omega) (Nat.le_of_lt small)] at filled ⊢
    have none_below : e.below - (e.below + e.levelBelow) = 0 := by omega
    have left : e.due - (e.below + e.levelBelow) = e.due - e.below - e.levelBelow := by omega
    simp only [none_below, Nat.zero_add, Nat.div_eq_of_lt small, Nat.div_eq_of_lt few, Nat.zero_mul,
      Nat.max_zero, Nat.sub_zero, if_neg (Nat.not_lt_zero _), left]
    rw [← Nat.div_eq_sub_div pos (by omega)]
  · rw [limit_full (.inr large)] at filled ⊢
    have pos' : 0 < N := by omega
    have one_less : (e.below + e.levelBelow) / N = (e.below - N + e.levelBelow) / N + 1 := by
      rcases Nat.lt_or_ge e.below N with low | high
      · rw [Nat.div_eq_sub_div pos' large, Nat.div_eq_of_lt (by omega), Nat.div_eq_of_lt (by omega)]
      · rw [Nat.div_eq_sub_div pos' large, Nat.sub_add_comm high]
    rw [one_less, Nat.succ_mul, Nat.div_eq_sub_div pos' filled]
    generalize (e.below - N + e.levelBelow) / N = full
    generalize full * N = taken
    have left : e.due - max e.below (taken + N) = e.due - N - max (e.below - N) taken := by omega
    rw [left]
    split_ifs <;> omega

/-- A chunk that was filled and is not the last is one delete, whose rows are gone for the rest. -/
theorem deletes_next (pos : 0 < N) (filled : e.limit N ≤ e.due)
    (more : N ≤ e.limit N ∨ 0 < e.due - e.limit N + e.level) :
    e.deletes N = (e.less (e.limit N)).deletes N + 1 := by
  rcases Nat.eq_zero_or_pos e.levelBelow with none | some
  · exact deletes_next_of_none pos none filled more
  rcases Nat.lt_or_ge e.levelBelow N with few | many
  · exact deletes_next_of_few some few filled
  have rest : (e.less (e.limit N)).deletes N = _ := deletes_of_many pos many
  rw [rest, deletes_of_many pos many, less_due]
  rw [limit_full (.inr (by omega))] at filled ⊢
  rw [Nat.div_eq_sub_div pos filled]

/-- Chunks are full but for two of them, unless a few rows at the cutoff lie below. -/
theorem deletes_le (pos : 0 < N) (full : e.levelBelow = 0 ∨ N ≤ e.levelBelow) :
    e.deletes N ≤ e.due / N + 2 := by
  have below_le := e.below_le
  rcases full with none | many
  · rw [deletes_of_none none]
    have chunks : chunkCount N e.below ≤ e.below / N + 1 := by
      rw [chunkCount, ← Nat.add_div_right _ pos]
      exact Nat.div_le_div_right (by omega)
    have parts : e.below / N + (e.due - e.below) / N ≤ e.due / N := by
      rw [Nat.le_div_iff_mul_le pos, Nat.add_mul]
      have := Nat.div_mul_le_self e.below N
      have := Nat.div_mul_le_self (e.due - e.below) N
      omega
    split_ifs <;> omega
  · rw [deletes_of_many pos many]
    omega

/-- With those few, chunks are no smaller than they are many. -/
theorem deletes_le_of_few (pos : 0 < e.levelBelow) (few : e.levelBelow < N) :
    e.deletes N ≤ e.due / e.levelBelow + 1 := by
  rw [deletes_of_few pos few]
  generalize (e.below + e.levelBelow) / N = full
  split_ifs with within
  · exact Nat.succ_le_succ (Nat.div_le_div_left (Nat.le_of_lt few) pos)
  · refine Nat.succ_le_succ ?_
    rw [Nat.le_div_iff_mul_le pos, Nat.add_mul]
    have := Nat.div_mul_le_self (e.due - max e.below (full * N)) e.levelBelow
    have := Nat.mul_le_mul_left full (Nat.le_of_lt few)
    omega

end Extent

namespace Store

open Time (Instant)

section Sorts

variable (cutoff : Instant) (scope : Option Int) (s : Store)

/-- The rows in scope that are younger than the cutoff. -/
def young : List Datum :=
  s.data.filter fun row => cutoff.stored < row.pushed ∧ row.InScope scope

/-- The rows in scope that are exactly as old as the cutoff. -/
def level : List Datum :=
  s.data.filter fun row => row.pushed = cutoff.stored ∧ row.InScope scope

/-- The key is lower than that of a young row, if there is any. -/
def Datum.Under (young : List Datum) (row : Datum) : Prop :=
  young = [] ∨ ∃ y ∈ young, row.id < y.id

instance (young : List Datum) (row : Datum) : Decidable (row.Under young) :=
  inferInstanceAs (Decidable (_ ∨ _))

def extent : Extent where
  due := (s.due cutoff scope).length
  below := ((s.due cutoff scope).filter fun row => row.Under (s.young cutoff scope)).length
  level := (s.level cutoff scope).length
  levelBelow := ((s.level cutoff scope).filter fun row => row.Under (s.young cutoff scope)).length
  below_le := List.length_filter_le _ _
  levelBelow_le := List.length_filter_le _ _

theorem data_ascending : s.data.Pairwise (·.id < ·.id) := by
  unfold data
  cases s.performanceDatum with
  | none => exact .nil
  | some t => exact t.ascending

end Sorts

variable {cutoff : Instant} {scope : Option Int} {s : Store}

/-- An old row does not lie above the highest young row exactly if it lies below it. -/
theorem Datum.under_iff {row : Datum} (hrow : row ∈ s.data) (old : ¬ cutoff.stored < row.pushed) :
    (∀ id ∈ (s.young cutoff scope).getLast?.map (·.id), row.id ≤ id) ↔
      row.Under (s.young cutoff scope) := by
  have ascending : (s.young cutoff scope).Pairwise (·.id < ·.id) := s.data_ascending.filter _
  rcases (s.young cutoff scope).eq_nil_or_concat with none | ⟨others, last, hyoung⟩
  · simp [none, Under]
  rw [List.concat_eq_append] at hyoung
  have mem : last ∈ s.young cutoff scope := hyoung ▸ List.mem_append_right _ (.head _)
  rw [hyoung] at ascending ⊢
  have highest := (List.pairwise_append.1 ascending).2.2
  simp only [List.getLast?_concat, Option.map_some, Option.mem_some_iff, forall_eq']
  constructor
  · intro le
    have above : last ∈ others ++ [last] := List.mem_append_right _ (.head _)
    refine .inr ⟨last, above, Int.lt_iff_le_and_ne.2 ⟨le, fun same => old ?_⟩⟩
    obtain ⟨hlast, younger⟩ := List.mem_filter.1 mem
    have nodup : (s.data.map (·.id)).Nodup :=
      List.pairwise_map.2 (s.data_ascending.imp Int.ne_of_lt)
    rw [List.inj_on_of_nodup_map nodup hrow hlast same]
    exact (of_decide_eq_true younger).1
  · rintro (none | ⟨y, hy, lt⟩)
    · simp at none
    · rcases List.mem_append.1 hy with hy | hy
      · have := highest y hy last (.head _)
        omega
      · rw [List.mem_singleton.1 hy] at lt
        omega

/-- Members in front take others that satisfy `p` only once all before these are gone. -/
theorem length_filter_drop {α : Type} {p : α → Bool} : ∀ {xs : List α} (n : Nat),
    xs.Pairwise (fun x y => p y → p x) → ((xs.drop n).filter p).length = (xs.filter p).length - n
  | [], _, _ => by simp
  | _, 0, _ => rfl
  | x :: xs, n + 1, h => by
    obtain ⟨first, rest⟩ := List.pairwise_cons.1 h
    rw [List.drop_succ_cons, length_filter_drop n rest]
    by_cases hx : p x
    · rw [List.filter_cons_of_pos hx, List.length_cons, Nat.add_sub_add_right]
    · have none : xs.filter p = [] := List.filter_eq_nil_iff.2 fun y hy => mt (first y hy) hx
      rw [List.filter_cons_of_neg hx, none, List.length_nil, Nat.zero_sub, Nat.zero_sub]

theorem filter_data_thinned (n : Nat) {p : Datum → Bool}
    (other : ∀ row, p row → ¬ row.Eligible cutoff scope) :
    (s.thinned cutoff scope n).data.filter p = s.data.filter p := by
  rw [thinned, data_withoutData, List.filter_filter]
  refine List.filter_congr fun row _ => ?_
  rcases hp : p row
  · rfl
  · exact decide_eq_true fun h => other row hp (eligible_of_mem_take h)

/-- A row below has only rows below in front of it. -/
theorem due_descends (cutoff : Instant) (scope : Option Int) (s : Store) :
    (s.due cutoff scope).Pairwise fun x y =>
      decide (y.Under (s.young cutoff scope)) → decide (x.Under (s.young cutoff scope)) := by
  refine (s.data_ascending.filter _).imp fun {x y} lt => ?_
  simp only [decide_eq_true_eq]
  rintro (none | ⟨z, hz, below⟩)
  · exact .inl none
  · exact .inr ⟨z, hz, Int.lt_trans lt below⟩

/-- Rows go from the lowest up, so those below go first. -/
theorem extent_thinned (n : Nat) :
    (s.thinned cutoff scope n).extent cutoff scope = (s.extent cutoff scope).less n := by
  have young : (s.thinned cutoff scope n).young cutoff scope = s.young cutoff scope :=
    filter_data_thinned n fun row h eligible =>
      String.lt_asymm (of_decide_eq_true h).1 eligible.1
  have level : (s.thinned cutoff scope n).level cutoff scope = s.level cutoff scope :=
    filter_data_thinned n fun row h eligible =>
      String.lt_irrefl _ ((of_decide_eq_true h).1 ▸ eligible.1)
  simp only [extent, Extent.less, young, level, due_thinned, List.length_drop,
    length_filter_drop n (due_descends cutoff scope s)]

theorem length_filter_or {α : Type} {p q r : α → Bool} (split : ∀ x, p x = (q x || r x))
    (apart : ∀ x, q x → ¬ r x) : ∀ xs : List α,
    (xs.filter p).length = (xs.filter q).length + (xs.filter r).length
  | [] => rfl
  | x :: xs => by
    have ih := length_filter_or split apart xs
    have hx := apart x
    rw [List.filter_cons, List.filter_cons, List.filter_cons, split x]
    cases hq : q x <;> cases hr : r x <;> simp_all <;> omega

theorem le_iff_lt_or_eq {x y : String} : x ≤ y ↔ x < y ∨ x = y := by
  constructor
  · intro le
    by_cases lt : x < y
    · exact .inl lt
    · exact .inr (String.le_antisymm le (String.not_lt.1 lt))
  · rintro (lt | rfl)
    · exact String.not_lt.1 (String.lt_asymm lt)
    · exact String.le_refl _

/-- Rows that are due and rows at the cutoff are told apart. -/
theorem length_at_or_before (p : Datum → Prop) [DecidablePred p] :
    (s.data.filter fun row => row.pushed ≤ cutoff.stored ∧ p row ∧ row.InScope scope).length =
      ((s.due cutoff scope).filter fun row => p row).length +
        ((s.level cutoff scope).filter fun row => p row).length := by
  rw [due, level, List.filter_filter, List.filter_filter]
  refine length_filter_or (fun row => ?_) (fun row due level => ?_) s.data
  · rw [← Bool.decide_and, ← Bool.decide_and, ← Bool.decide_or, decide_eq_decide, Datum.Eligible,
      le_iff_lt_or_eq]
    tauto
  · simp only [Bool.and_eq_true, decide_eq_true_eq] at due level
    exact String.lt_irrefl _ (level.2.1 ▸ due.2.1)

theorem maxIdAfter_ok {boundary : Option Int} (h : s.maxIdAfter cutoff scope = .ok boundary) :
    boundary = (s.young cutoff scope).getLast?.map (·.id) := by
  unfold maxIdAfter at h
  rcases hd : s.performanceDatum with _ | t <;> rw [hd] at h
  · cases h
  simp only [need, Except.bind, bind, pure, Except.pure, Except.ok.injEq] at h
  simp only [young, data, hd, Option.elim_some]
  exact h.symm

/-- Where a chunk is sized, the rows that are counted are those that lie below. -/
theorem countAtOrBefore_boundary {nominal : UInt32} {boundary : Option Int} {older : UInt64}
    (h : s.maxIdAfter cutoff scope = .ok boundary)
    (h' : s.countAtOrBefore cutoff boundary scope nominal = .ok older) :
    older.toNat = min nominal.toNat
      ((s.extent cutoff scope).below + (s.extent cutoff scope).levelBelow) := by
  rw [countAtOrBefore_ok h', length_at_or_before, maxIdAfter_ok h]
  congr 2
  · refine congrArg List.length (List.filter_congr fun row hrow => decide_eq_decide.2 ?_)
    obtain ⟨hrow, eligible⟩ := List.mem_filter.1 hrow
    exact Datum.under_iff hrow (String.lt_asymm (of_decide_eq_true eligible).1)
  · refine congrArg List.length (List.filter_congr fun row hrow => decide_eq_decide.2 ?_)
    obtain ⟨hrow, same⟩ := List.mem_filter.1 hrow
    exact Datum.under_iff hrow ((of_decide_eq_true same).1 ▸ String.lt_irrefl _)

theorem countAtOrBefore_any {left : UInt64}
    (h : s.countAtOrBefore cutoff none scope 1 = .ok left) :
    0 < left ↔ 0 < (s.extent cutoff scope).due + (s.extent cutoff scope).level := by
  have hk := countAtOrBefore_ok h
  rw [length_at_or_before] at hk
  have all (rows : List Datum) :
      rows.filter (fun row => ∀ id ∈ (none : Option Int), row.id ≤ id) = rows := by simp
  rw [all, all] at hk
  rw [UInt64.lt_iff_toNat_lt, hk]
  change 0 < min 1 _ ↔ 0 < (s.due cutoff scope).length + (s.level cutoff scope).length
  omega

end Store

end Retention
