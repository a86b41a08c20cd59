import Mathlib.Data.List.Nodup
import Mathlib.Tactic.SplitIfs
import Retention.Store.Query

/-!
# What is left of a list and of a table

Rows leave a table from the lowest key up or by their keys; either way what is left is a filter of
the rows that were there.
-/

namespace Retention.Store

open Keyed (key)

section Lists

variable {α : Type}

theorem withoutFirst_eq_filter [DecidableEq α] (p : α → Bool) :
    ∀ (n : Nat) {xs : List α}, xs.Nodup →
      withoutFirst p n xs = xs.filter (· ∉ (xs.filter p).take n)
  | 0, xs, _ => by
    simp only [withoutFirst, List.take_zero, List.not_mem_nil, not_false_eq_true, decide_true]
    exact (List.filter_eq_self.2 fun _ _ => rfl).symm
  | n + 1, [], _ => by simp [withoutFirst]
  | n + 1, x :: xs, h => by
    obtain ⟨hx, hxs⟩ := List.nodup_cons.1 h
    by_cases hp : p x
    · rw [withoutFirst, if_pos hp, withoutFirst_eq_filter p n hxs, List.filter_cons_of_pos hp,
        List.take_succ_cons, List.filter_cons_of_neg (by simp)]
      refine List.filter_congr fun y hy => ?_
      have : y ≠ x := fun e => hx (e ▸ hy)
      simp [this]
    · have hm : x ∉ (xs.filter p).take (n + 1) := fun hm =>
        hp (List.mem_filter.1 (List.mem_of_mem_take hm)).2
      rw [withoutFirst, if_neg hp, withoutFirst_eq_filter p (n + 1) hxs, List.filter_cons_of_neg hp,
        List.filter_cons_of_pos (by simpa using hm)]

/-- Members that `f` tells apart: those whose values are not among the first `n` come after. -/
theorem filter_not_mem_take {β : Type} [DecidableEq β] (f : α → β) {xs : List α}
    (h : (xs.map f).Nodup) (n : Nat) : xs.filter (f · ∉ (xs.take n).map f) = xs.drop n := by
  have hd : ((xs.take n).map f).Disjoint ((xs.drop n).map f) := by
    rw [List.map_take, List.map_drop]
    exact List.disjoint_take_drop h (Nat.le_refl n)
  have first : (xs.take n).filter (f · ∉ (xs.take n).map f) = [] :=
    List.filter_eq_nil_iff.2 fun x hx h =>
      of_decide_eq_true h (List.mem_map_of_mem hx)
  have later : (xs.drop n).filter (f · ∉ (xs.take n).map f) = xs.drop n :=
    List.filter_eq_self.2 fun x hx =>
      decide_eq_true fun h => hd h (List.mem_map_of_mem hx)
  calc xs.filter (f · ∉ (xs.take n).map f)
      = (xs.take n ++ xs.drop n).filter (f · ∉ (xs.take n).map f) := by rw [List.take_append_drop]
    _ = [] ++ xs.drop n := by rw [List.filter_append, first, later]
    _ = xs.drop n := rfl

theorem length_withoutFirst (p : α → Bool) :
    ∀ (n : Nat) (xs : List α),
      (withoutFirst p n xs).length + min n (xs.filter p).length = xs.length
  | 0, xs => by simp [withoutFirst]
  | n + 1, [] => by simp [withoutFirst]
  | n + 1, x :: xs => by
    by_cases hp : p x
    · have := length_withoutFirst p n xs
      rw [withoutFirst, if_pos hp, List.filter_cons_of_pos hp, List.length_cons, List.length_cons]
      omega
    · have := length_withoutFirst p (n + 1) xs
      rw [withoutFirst, if_neg hp, List.filter_cons_of_neg hp, List.length_cons, List.length_cons]
      omega

end Lists

namespace Table

variable {α : Type} [Keyed α]

@[ext] theorem ext {t u : Table α} (h : t.rows = u.rows) : t = u := by
  cases t
  cases u
  simpa using h

theorem nodup (t : Table α) : t.rows.Nodup :=
  t.ascending.imp fun h e => by simp [e] at h

theorem ids_nodup (t : Table α) : t.ids.Nodup :=
  List.pairwise_map.2 (t.ascending.imp Int.ne_of_lt)

@[simp] theorem rows_filter (p : α → Bool) (t : Table α) : (t.filter p).rows = t.rows.filter p :=
  rfl

theorem filter_congr {t : Table α} {p q : α → Bool} (h : ∀ row ∈ t.rows, p row = q row) :
    t.filter p = t.filter q := by
  ext1
  exact List.filter_congr h

theorem filter_eq_self {t : Table α} {p : α → Bool} (h : ∀ row ∈ t.rows, p row) :
    t.filter p = t := by
  ext1
  exact List.filter_eq_self.2 h

theorem length_rows_le (t : Option (Table α)) : (t.elim [] rows).length ≤ capacity := by
  cases t with
  | none => exact Nat.zero_le _
  | some t => exact t.size_le

theorem filter_filter (p q : α → Bool) (t : Table α) :
    (t.filter p).filter q = t.filter fun row => p row && q row := by
  ext1
  simp only [rows_filter, List.filter_filter]
  exact List.filter_congr fun _ _ => Bool.and_comm ..

/-- Rows that are to stay may be looked for before or after others went. -/
theorem map_filter_filter {t : Option (Table α)} {p q : α → Bool}
    (h : ∀ row ∈ t.elim [] rows, q row → p row) :
    (t.map (·.filter p)).map (·.filter q) = t.map (·.filter q) := by
  rcases t with _ | t
  · rfl
  · refine congrArg some ((t.filter_filter p q).trans (filter_congr fun row hrow => ?_))
    rcases hq : q row with _ | _
    · exact Bool.and_false _
    · rw [h row hrow hq, Bool.and_true]

section Gone

variable {β : Type} [DecidableEq β] (f : α → β)

theorem filter_not_mem_nil (t : Table α) : t.filter (f · ∉ []) = t :=
  filter_eq_self fun _ _ => decide_eq_true List.not_mem_nil

/-- What goes in two steps may go in one. -/
theorem filter_not_mem_append (gone gone' : List β) (t : Table α) :
    (t.filter (f · ∉ gone)).filter (f · ∉ gone') = t.filter (f · ∉ gone ++ gone') := by
  rw [filter_filter]
  exact filter_congr fun _ _ => by simp

end Gone

end Table

/-- No number of rows is too large for a counter. -/
theorem toNat_toUInt64 {n : Nat} (h : n ≤ capacity) : n.toUInt64.toNat = n :=
  UInt64.toNat_ofNat_of_lt' (Nat.lt_of_le_of_lt h (by decide))

theorem lt_toUInt64_iff {k : UInt64} {limit : UInt32} :
    k < limit.toUInt64 ↔ k.toNat < limit.toNat := by
  rw [UInt64.lt_iff_toNat_lt, UInt32.toNat_toUInt64]

theorem contains_ofList {ids : List Int} {id : Int} :
    (Std.TreeSet.ofList ids compare).contains id = decide (id ∈ ids) := by
  rw [Std.TreeSet.contains_ofList, List.contains_eq_mem]

end Retention.Store
