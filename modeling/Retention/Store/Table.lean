import Retention.Store.Schema

/-!
# Tables

A table is the list of its rows in ascending order of their keys, no key twice, and at most
`capacity` of them. Rows leave by a filter (`Table.filter`) or from the lowest key up, a given
number at most (`Table.withoutFirst`); they enter as a run of consecutive keys (`Table.insertRun`),
none of which may be taken.
-/

namespace Retention.Store

open Keyed (key)

/-- The list without the first `n` members that satisfy `p`. -/
def withoutFirst {α : Type} (p : α → Bool) : Nat → List α → List α
  | 0, xs => xs
  | _, [] => []
  | n + 1, x :: xs => if p x then withoutFirst p n xs else x :: withoutFirst p (n + 1) xs

theorem withoutFirst_sublist {α : Type} (p : α → Bool) :
    ∀ (n : Nat) (xs : List α), (withoutFirst p n xs).Sublist xs
  | 0, xs => by simp [withoutFirst]
  | _ + 1, [] => by simp [withoutFirst]
  | n + 1, x :: xs => by
    simp only [withoutFirst]
    split
    · exact (withoutFirst_sublist p n xs).cons x
    · exact (withoutFirst_sublist p (n + 1) xs).cons_cons x

/-- No table grows beyond this: a database file ends at 2⁴⁸ bytes, and a row takes more than
one. -/
def capacity : Nat := 0x1000000000000

structure Table (α : Type) [Keyed α] where
  rows : List α
  ascending : rows.Pairwise (key · < key ·)
  size_le : rows.length ≤ capacity

namespace Table

variable {α : Type} [Keyed α]

def empty : Table α := ⟨[], .nil, Nat.zero_le _⟩

instance : Inhabited (Table α) := ⟨empty⟩

def ids (t : Table α) : List Int := t.rows.map key

/-- Whether a row has the key `k`. -/
def has (t : Table α) (k : Int) : Bool := t.rows.any (key · == k)

/-- The key after the highest one, or 1 in an empty table. -/
def nextId (t : Table α) : Int :=
  match t.rows.getLast? with
  | some row => key row + 1
  | none => 1

def filter (p : α → Bool) (t : Table α) : Table α :=
  ⟨t.rows.filter p, t.ascending.filter p, Nat.le_trans (List.length_filter_le p _) t.size_le⟩

/-- The table without its `n` lowest rows that satisfy `p`. -/
def withoutFirst (p : α → Bool) (n : Nat) (t : Table α) : Table α :=
  ⟨Store.withoutFirst p n t.rows, t.ascending.sublist (withoutFirst_sublist p n t.rows),
    Nat.le_trans (withoutFirst_sublist p n t.rows).length_le t.size_le⟩

/-- Whether no row has one of the `count` keys from `first` on. -/
def isFree (t : Table α) (first : Int) (count : Nat) : Bool :=
  match t.rows.dropWhile (key · < first) with
  | [] => true
  | row :: _ => first + count ≤ key row

/-- Whether each of the `count` keys from `first` on is that of a row. -/
def hasRun (t : Table α) (first : Int) (count : Nat) : Bool :=
  ((t.rows.dropWhile (key · < first)).take count).map key ==
    (List.range count).map fun (i : Nat) => first + i

/-- The rows for the keys `first`, `first + 1`, …. -/
def run (row : Int → α) : Int → Nat → List α
  | _, 0 => []
  | first, n + 1 => row first :: run row (first + 1) n

theorem key_of_mem_run {row : Int → α} (h : ∀ k, key (row k) = k) :
    ∀ {first : Int} {n : Nat} {r : α}, r ∈ run row first n → first ≤ key r ∧ key r < first + n
  | _, 0, _, hr => by simp [run] at hr
  | first, n + 1, r, hr => by
    simp only [run, List.mem_cons] at hr
    rcases hr with rfl | hr
    · rw [h]
      omega
    · have := key_of_mem_run h hr
      omega

theorem pairwise_run {row : Int → α} (h : ∀ k, key (row k) = k) :
    ∀ (first : Int) (n : Nat), (run row first n).Pairwise (key · < key ·)
  | _, 0 => .nil
  | first, n + 1 => by
    refine .cons (fun r hr => ?_) (pairwise_run h (first + 1) n)
    have := key_of_mem_run h hr
    rw [h]
    omega

theorem lt_of_mem_takeWhile {first : Int} {rows : List α} {r : α}
    (hr : r ∈ rows.takeWhile (key · < first)) : key r < first := by
  induction rows with
  | nil => simp at hr
  | cons x xs ih =>
    simp only [List.takeWhile_cons] at hr
    split at hr
    · rename_i hx
      simp only [List.mem_cons] at hr
      rcases hr with rfl | hr
      · simpa using hx
      · exact ih hr
    · simp at hr

theorem le_of_mem_dropWhile {t : Table α} {first : Int} {count : Nat}
    (free : t.isFree first count) {r : α} (hr : r ∈ t.rows.dropWhile (key · < first)) :
    first + count ≤ key r := by
  have ascending := t.ascending.sublist (List.dropWhile_sublist (key · < first))
  rcases h : t.rows.dropWhile (key · < first) with _ | ⟨x, xs⟩
  · simp [h] at hr
  · simp only [isFree, h, decide_eq_true_eq] at free
    rw [h] at hr ascending
    rcases List.mem_cons.1 hr with rfl | hr
    · exact free
    · have := (List.pairwise_cons.1 ascending).1 r hr
      omega

omit [Keyed α] in
theorem length_run (row : Int → α) : ∀ (first : Int) (n : Nat), (run row first n).length = n
  | _, 0 => rfl
  | first, n + 1 => by simp [run, length_run row (first + 1) n]

/-- Inserts rows with the keys `first`, `first + 1`, …, `count` of them. -/
def insertRun (t : Table α) (row : Int → α) (row_key : ∀ k, key (row k) = k) (first : Int)
    (count : Nat) (free : t.isFree first count) (room : t.rows.length + count ≤ capacity) :
    Table α :=
  let below := t.rows.takeWhile (key · < first)
  let above := t.rows.dropWhile (key · < first)
  have ascending : (below ++ (run row first count ++ above)).Pairwise (key · < key ·) := by
    refine List.pairwise_append.2 ⟨t.ascending.sublist (List.takeWhile_sublist _), ?_, ?_⟩
    · refine List.pairwise_append.2
        ⟨pairwise_run row_key first count, t.ascending.sublist (List.dropWhile_sublist _), ?_⟩
      intro a ha b hb
      exact Int.lt_of_lt_of_le (key_of_mem_run row_key ha).2 (le_of_mem_dropWhile free hb)
    · intro a ha b hb
      have := lt_of_mem_takeWhile ha
      simp only [List.mem_append] at hb
      rcases hb with hb | hb
      · have := key_of_mem_run row_key hb
        omega
      · have := le_of_mem_dropWhile free hb
        omega
  have size_le : (below ++ (run row first count ++ above)).length ≤ capacity := by
    have split : below.length + above.length = t.rows.length := by
      rw [← List.length_append, List.takeWhile_append_dropWhile]
    simp only [List.length_append, length_run]
    omega
  ⟨below ++ (run row first count ++ above), ascending, size_le⟩

end Table

end Retention.Store
