import Retention.Proofs.Tables
import Retention.Store.Delete

/-!
# The rows that go

Performance data are deleted from the lowest key up, so a store from which `n` rows went for a
cutoff and a scope is known (`Store.thinned`): going on from it is the same as having taken more at
once (`thinned_thinned`), and what is still due is the rest of what was (`due_thinned`). A delete
takes as many rows as it may or as there are (`deleteData_ok`).
-/

namespace Retention.Store

open Time (Instant)

/-- The rows of performance data; none if their table was dropped. -/
def data (s : Store) : List Datum := s.performanceDatum.elim [] Table.rows

/-- The performance data that a removal with this cutoff and scope takes, the lowest key first. -/
def due (cutoff : Instant) (scope : Option Int) (s : Store) : List Datum :=
  s.data.filter fun row => row.Eligible cutoff scope

def withoutData (s : Store) (gone : List Datum) : Store :=
  { s with performanceDatum := s.performanceDatum.map (.filter (· ∉ gone)) }

/-- The store without the first `n` rows that are due. -/
def thinned (cutoff : Instant) (scope : Option Int) (n : Nat) (s : Store) : Store :=
  s.withoutData ((s.due cutoff scope).take n)

theorem data_nodup (s : Store) : s.data.Nodup := by
  unfold data
  cases s.performanceDatum with
  | none => exact .nil
  | some t => exact t.nodup

theorem due_nodup (cutoff : Instant) (scope : Option Int) (s : Store) :
    (s.due cutoff scope).Nodup :=
  s.data_nodup.filter _

theorem data_length_le (s : Store) : s.data.length ≤ capacity := Table.length_rows_le _

@[simp] theorem data_withoutData (s : Store) (gone : List Datum) :
    (s.withoutData gone).data = s.data.filter (· ∉ gone) := by
  unfold data withoutData
  cases s.performanceDatum <;> rfl

@[simp] theorem withoutData_nil (s : Store) : s.withoutData [] = s := by
  unfold withoutData
  rw [funext (Table.filter_not_mem_nil fun row : Datum => row), Option.map_id_fun', id]

theorem withoutData_withoutData (s : Store) (gone gone' : List Datum) :
    (s.withoutData gone).withoutData gone' = s.withoutData (gone ++ gone') := by
  unfold withoutData
  simp only [Option.map_map, Function.comp_def,
    Table.filter_not_mem_append fun row : Datum => row]

section Due

variable (cutoff : Instant) (scope : Option Int) (s : Store)

theorem due_withoutData (gone : List Datum) :
    (s.withoutData gone).due cutoff scope = (s.due cutoff scope).filter (· ∉ gone) := by
  unfold due
  rw [data_withoutData, List.filter_filter, List.filter_filter]
  exact List.filter_congr fun _ _ => Bool.and_comm _ _

theorem due_thinned (n : Nat) :
    (s.thinned cutoff scope n).due cutoff scope = (s.due cutoff scope).drop n := by
  unfold thinned
  have := filter_not_mem_take id (by simpa using s.due_nodup cutoff scope) n
  rw [due_withoutData]
  simpa using this

@[simp] theorem thinned_zero : s.thinned cutoff scope 0 = s := by
  simp [thinned]

theorem thinned_thinned (m n : Nat) :
    (s.thinned cutoff scope m).thinned cutoff scope n = s.thinned cutoff scope (m + n) := by
  rw [thinned, due_thinned, thinned, withoutData_withoutData, ← List.take_add, thinned]

theorem due_length_le : (s.due cutoff scope).length ≤ capacity :=
  Nat.le_trans (List.length_filter_le _ _) s.data_length_le

variable {cutoff scope s} in
theorem eligible_of_mem_take {row : Datum} {n : Nat} (h : row ∈ (s.due cutoff scope).take n) :
    row.Eligible cutoff scope :=
  of_decide_eq_true (List.mem_filter.1 (List.mem_of_mem_take h)).2

end Due

theorem thinned_min (cutoff : Instant) (scope : Option Int) (n : Nat) (s : Store) :
    s.thinned cutoff scope (min n (s.due cutoff scope).length) = s.thinned cutoff scope n := by
  unfold thinned
  congr 1
  rw [List.take_eq_take_iff]
  omega

/-- A delete takes the lowest rows that are due, as many as it may or as there are. -/
theorem deleteData_ok {cutoff : Instant} {scope : Option Int} {limit : UInt32} {s s' : Store}
    {k : UInt64} (h : deleteData cutoff scope limit s = .ok (k, s')) :
    k.toNat = min limit.toNat (s.due cutoff scope).length ∧
      s' = s.thinned cutoff scope k.toNat := by
  unfold deleteData at h
  rcases hd : s.performanceDatum with _ | t <;> rw [hd] at h
  · cases h
  rcases hp : s.needParents [.repository] with e | ⟨⟩ <;> rw [hp] at h
  · cases h
  simp only [need, Except.bind, bind, pure, Except.pure, Except.ok.injEq, Prod.mk.injEq] at h
  obtain ⟨rfl, rfl⟩ := h
  have hdue : s.due cutoff scope = t.rows.filter fun row => row.Eligible cutoff scope := by
    simp [due, data, hd]
  have hk : (t.rows.length - (t.withoutFirst (fun row => row.Eligible cutoff scope)
        limit.toNat).rows.length).toUInt64.toNat
      = min limit.toNat (s.due cutoff scope).length := by
    have hlen := length_withoutFirst (fun row : Datum => row.Eligible cutoff scope) limit.toNat
      t.rows
    rw [hdue, toNat_toUInt64 (Nat.le_trans (Nat.sub_le _ _) t.size_le)]
    change t.rows.length
      - (withoutFirst (fun row : Datum => row.Eligible cutoff scope) _ t.rows).length = _
    omega
  refine ⟨hk, ?_⟩
  have htable : t.withoutFirst (fun row => row.Eligible cutoff scope) limit.toNat
      = t.filter (· ∉ (s.due cutoff scope).take limit.toNat) := by
    ext1
    rw [hdue]
    exact withoutFirst_eq_filter _ _ t.nodup
  refine Eq.trans ?_ (congrArg (fun n => s.thinned cutoff scope n) hk).symm
  rw [thinned_min]
  simp only [thinned, withoutData, hd, Option.map_some, ← htable]
  rfl

theorem countAtOrBefore_ok {cutoff : Instant} {maxId scope : Option Int} {cap : UInt32} {s : Store}
    {k : UInt64} (h : s.countAtOrBefore cutoff maxId scope cap = .ok k) :
    k.toNat = min cap.toNat (s.data.filter fun row =>
      row.pushed ≤ cutoff.stored ∧ (∀ id ∈ maxId, row.id ≤ id) ∧ row.InScope scope).length := by
  unfold countAtOrBefore at h
  rcases hd : s.performanceDatum with _ | t <;> rw [hd] at h
  · cases h
  simp only [need, Except.bind, bind, pure, Except.pure, Except.ok.injEq] at h
  subst h
  have hdata : s.data = t.rows := by simp [data, hd]
  rw [hdata, toNat_toUInt64, List.length_take]
  exact Nat.le_trans (List.length_take_le' ..) (Nat.le_trans (List.length_filter_le _ _) t.size_le)

/-- Where no row at or before the cutoff is found, none is due. -/
theorem due_eq_nil {cutoff : Instant} {scope : Option Int} {s : Store} {left : UInt64}
    (h : s.countAtOrBefore cutoff none scope 1 = .ok left) (none_left : ¬ 0 < left) :
    s.due cutoff scope = [] := by
  have hk := countAtOrBefore_ok h
  have hz : left.toNat = 0 := by
    have := UInt64.lt_iff_toNat_lt.not.1 none_left
    simpa using this
  rw [hz] at hk
  have hnil : (s.data.filter fun row => row.pushed ≤ cutoff.stored ∧
      (∀ id ∈ (none : Option Int), row.id ≤ id) ∧ row.InScope scope) = [] := by
    rw [← List.length_eq_zero_iff]
    have : (1 : UInt32).toNat = 1 := rfl
    omega
  rw [List.filter_eq_nil_iff] at hnil
  refine List.filter_eq_nil_iff.2 fun row hrow hdue => hnil row hrow ?_
  obtain ⟨hp, hs⟩ := of_decide_eq_true hdue
  simpa using ⟨String.lt_asymm hp, hs⟩

end Retention.Store
