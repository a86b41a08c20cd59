import Mathlib.Tactic.SplitIfs
import Retention.Proofs.Numerals
import Retention.Time.Calendar

/-!
# The order of dates

Every day lies in the year that is found for it (`yearOf_spec`), so later days have later dates
(`ofDay_before`), and the texts of dates within the years 0 to 9999 are ordered as the dates are
(`Date.text_lt`).
-/

namespace Retention.Time

open Text (padded)

theorem yearStart_succ (year : Int) :
    yearStart year + 365 ≤ yearStart (year + 1) ∧ yearStart (year + 1) ≤ yearStart year + 366 := by
  unfold yearStart
  omega

theorem yearStart_le {a b : Int} (h : a ≤ b) : yearStart a ≤ yearStart b := by
  rcases Int.lt_or_eq_of_le h with h | rfl
  · unfold yearStart
    omega
  · exact Int.le_refl _

/-- The guess is at most one year off. -/
theorem yearOf_spec (day : Int) :
    yearStart (yearOf day) ≤ day ∧ day < yearStart (yearOf day + 1) := by
  have low : yearStart (400 * day / 146097 - 1) ≤ day := by
    unfold yearStart
    omega
  have high : day < yearStart (400 * day / 146097 + 2) := by
    unfold yearStart
    omega
  unfold yearOf
  simp only
  split_ifs with early late
  · exact ⟨low, by rwa [Int.sub_add_cancel]⟩
  · exact ⟨late, by rwa [Int.add_assoc]⟩
  · omega

theorem le_yearOf_iff {year day : Int} : year ≤ yearOf day ↔ yearStart year ≤ day := by
  obtain ⟨begun, ends⟩ := yearOf_spec day
  constructor
  · exact fun h => Int.le_trans (yearStart_le h) begun
  · intro h
    refine Int.not_lt.1 fun hlt => ?_
    have := yearStart_le (show yearOf day + 1 ≤ year from hlt)
    omega

theorem yearOf_le {a b : Int} (h : a ≤ b) : yearOf a ≤ yearOf b :=
  le_yearOf_iff.2 (Int.le_trans (yearOf_spec a).1 h)

theorem le_monthAndDay : ∀ (lengths : List Nat) (month n : Nat),
    month ≤ (monthAndDay month lengths n).1
  | [], _, _ => Nat.le_refl _
  | length :: rest, month, n => by
    rw [monthAndDay]
    split_ifs
    · exact Nat.le_refl _
    · exact Nat.le_of_succ_le (le_monthAndDay rest (month + 1) _)

theorem monthAndDay_before : ∀ (lengths : List Nat) (month : Nat) {m n : Nat}, m < n →
    (monthAndDay month lengths m).1 < (monthAndDay month lengths n).1 ∨
      (monthAndDay month lengths m).1 = (monthAndDay month lengths n).1 ∧
        (monthAndDay month lengths m).2 < (monthAndDay month lengths n).2
  | [], _, _, _, h => .inr ⟨rfl, h⟩
  | length :: rest, month, m, n, h => by
    rw [monthAndDay, monthAndDay]
    split_ifs with hm hn hn
    · exact .inr ⟨rfl, h⟩
    · exact .inl (le_monthAndDay rest (month + 1) _)
    · omega
    · exact monthAndDay_before rest (month + 1) (by omega)

theorem monthAndDay_lt : ∀ (lengths : List Nat) (month n : Nat), n < lengths.sum →
    (monthAndDay month lengths n).1 < month + lengths.length ∧
      ∃ length ∈ lengths, (monthAndDay month lengths n).2 < length
  | [], _, _, h => absurd h (Nat.not_lt_zero _)
  | length :: rest, month, n, h => by
    rw [monthAndDay]
    rw [List.sum_cons] at h
    split_ifs with hn
    · exact ⟨by simp, length, List.mem_cons_self, hn⟩
    · obtain ⟨hmonth, l, hl, hday⟩ := monthAndDay_lt rest (month + 1) (n - length) (by omega)
      refine ⟨?_, l, List.mem_cons_of_mem _ hl, hday⟩
      rw [List.length_cons]
      omega

def isLeap (year : Int) : Bool := yearStart (year + 1) - yearStart year == 366

def dayOfYear (day : Int) : Nat := (day - yearStart (yearOf day)).toNat

theorem dayOfYear_lt (day : Int) :
    dayOfYear day < (monthLengths (isLeap (yearOf day))).sum := by
  have := yearOf_spec day
  have := yearStart_succ (yearOf day)
  unfold dayOfYear
  rcases hleap : isLeap (yearOf day) with _ | _
  · have : yearStart (yearOf day + 1) - yearStart (yearOf day) ≠ 366 := by
      simpa [isLeap] using hleap
    change _ < 365
    omega
  · change _ < 366
    omega

namespace Date

def Before (a b : Date) : Prop :=
  a.year < b.year ∨ a.year = b.year ∧ (a.month < b.month ∨ a.month = b.month ∧ a.day < b.day)

/-- Months and days of two digits. -/
structure Written (d : Date) : Prop where
  month : d.month < 100
  day : d.day < 100

theorem ofDay_eq (day : Int) :
    ofDay day =
      let found := monthAndDay 1 (monthLengths (isLeap (yearOf (day + epochDay))))
        (dayOfYear (day + epochDay))
      ⟨yearOf (day + epochDay), found.1, found.2 + 1⟩ :=
  rfl

theorem ofDay_written (day : Int) : (ofDay day).Written := by
  have short : ∀ leap, ∀ length ∈ monthLengths leap, length ≤ 31 := by decide
  obtain ⟨hmonth, length, hlength, hday⟩ :=
    monthAndDay_lt (monthLengths (isLeap (yearOf (day + epochDay)))) 1 _ (dayOfYear_lt _)
  have := short _ length hlength
  rw [ofDay_eq]
  constructor
  · exact Nat.lt_of_lt_of_le hmonth (by simp [monthLengths])
  · change _ + 1 < 100
    omega

theorem ofDay_before {a b : Int} (h : a < b) : (ofDay a).Before (ofDay b) := by
  rw [ofDay_eq, ofDay_eq]
  rcases Int.lt_or_eq_of_le (yearOf_le (show a + epochDay ≤ b + epochDay by omega)) with hy | hy
  · exact .inl hy
  · refine .inr ⟨hy, ?_⟩
    have hdays : dayOfYear (a + epochDay) < dayOfYear (b + epochDay) := by
      have := yearOf_spec (a + epochDay)
      unfold dayOfYear
      rw [hy] at this ⊢
      omega
    rw [hy]
    rcases monthAndDay_before (monthLengths _) 1 hdays with hm | ⟨hm, hd⟩
    · exact .inl hm
    · exact .inr ⟨hm, Nat.succ_lt_succ hd⟩

/-- Dates up to the year 9999 are ordered as their texts are, whatever follows them. -/
theorem text_lt {a b : Date} (h : a.Before b) (start : 0 ≤ b.year) (finish : b.year ≤ 9999)
    (written : b.Written) (x y : List Char) : a.text ++ x < b.text ++ y := by
  have hb : yearText b.year = padded 4 b.year.toNat := if_pos ⟨start, finish⟩
  unfold text
  simp only [hb, List.append_assoc, List.cons_append]
  by_cases hneg : a.year < 0
  · rw [yearText, if_neg (by omega), if_pos hneg, List.cons_append]
    exact Text.cons_lt_padded (by decide) (by decide) (by omega) _ _
  have hle : a.year ≤ b.year := by
    rcases h with h | ⟨h, -⟩ <;> omega
  rw [yearText, if_pos (by omega)]
  refine Text.padded_append_lt (by decide) (by omega) (by omega) fun hyear => ?_
  rcases h with h | ⟨-, h⟩
  · omega
  have hle : a.month ≤ b.month := by
    rcases h with h | ⟨h, -⟩ <;> omega
  refine List.cons_lt_cons_iff.2 (.inr ⟨rfl, ?_⟩)
  refine Text.padded_append_lt (by decide) hle written.month fun hmonth => ?_
  rcases h with h | ⟨-, h⟩
  · omega
  refine List.cons_lt_cons_iff.2 (.inr ⟨rfl, ?_⟩)
  exact Text.padded_append_lt (by decide) (Nat.le_of_lt h) written.day fun hday => by omega

end Date

end Retention.Time
