import Retention.Proofs.Calendar
import Retention.Time.Instant

/-!
# The order of timestamps

The text of an instant of the years 0 to 9999 comes before that of another instant, up to the year
9999, exactly when the instant is the earlier one (`Instant.stored_lt_iff`). Fractions have as few
digits as they need: what follows a shorter one comes before every digit.
-/

namespace Retention.Time

open Text (digits padded)

namespace Instant

theorem clockText_lt {s t : Nat} (h : s < t) (ht : t < 86400) (x y : List Char) :
    clockText s ++ x < clockText t ++ y := by
  unfold clockText
  simp only [List.append_assoc, List.cons_append]
  refine Text.padded_append_lt (by decide) (by omega) (by omega) fun hour => ?_
  refine List.cons_lt_cons_iff.2 (.inr ⟨rfl, ?_⟩)
  refine Text.padded_append_lt (by decide) (by omega) (by omega) fun minute => ?_
  refine List.cons_lt_cons_iff.2 (.inr ⟨rfl, ?_⟩)
  exact Text.padded_append_lt (by decide) (by omega) (by omega) fun second => by omega

/-- A fraction that is not zero has `k` of nine digits, and the other `v` are zeros. -/
theorem fractionText_eq {n : Nat} (pos : n ≠ 0) (h : n < 10 ^ 9) :
    ∃ k v, k + v = 9 ∧ n % 10 ^ v = 0 ∧ fractionText n = '.' :: digits k (n / 10 ^ v) := by
  unfold fractionText
  rw [if_neg pos]
  split_ifs with milli micro
  · refine ⟨3, 6, rfl, milli, ?_⟩
    rw [Text.padded_eq_digits (by decide) (by omega)]
    rfl
  · refine ⟨6, 3, rfl, micro, ?_⟩
    rw [Text.padded_eq_digits (by decide) (by omega)]
    rfl
  · refine ⟨9, 0, rfl, Nat.mod_one n, ?_⟩
    rw [Text.padded_eq_digits (by decide) h, Nat.pow_zero, Nat.div_one]

/-- The smaller of two fractions comes first. The longer text is cut where the shorter one ends: if
the digits up to there are the same, the longer fraction is the larger one, and the sign of the zone
comes before any digit. -/
theorem fractionText_lt {a b : Nat} (h : a < b) (hb : b < 10 ^ 9) (zone : List Char) :
    fractionText a ++ '+' :: zone < fractionText b ++ '+' :: zone := by
  obtain ⟨l, w, hl, hbz, hbt⟩ := fractionText_eq (n := b) (by omega) hb
  rw [hbt]
  by_cases ha : a = 0
  · rw [ha, fractionText, if_pos rfl]
    exact List.cons_lt_cons_iff.2 (.inl (by decide))
  obtain ⟨k, v, hk, haz, hat⟩ := fractionText_eq ha (by omega)
  rw [hat, List.cons_append, List.cons_append]
  refine List.cons_lt_cons_iff.2 (.inr ⟨rfl, ?_⟩)
  have whole {n u : Nat} (hz : n % 10 ^ u = 0) : n / 10 ^ u * 10 ^ u = n :=
    Nat.div_mul_cancel (Nat.dvd_of_mod_eq_zero hz)
  have bound {n u : Nat} (hu : n + u = 9) : b / 10 ^ u < 10 ^ n := by
    rw [Nat.div_lt_iff_lt_mul (Nat.pow_pos (by decide)), ← Nat.pow_add, hu]
    exact hb
  rcases Nat.lt_or_ge l k with hlt | hge
  · -- the digits that only the earlier fraction has cannot make it the later one
    obtain ⟨j, rfl⟩ := Nat.exists_eq_add_of_lt hlt
    obtain rfl : w = v + (j + 1) := by omega
    rw [Nat.add_assoc, Text.digits_add, Nat.div_div_eq_div_mul, ← Nat.pow_add, List.append_assoc]
    refine Text.digits_append_lt (Nat.div_le_div_right (Nat.le_of_lt h)) (bound hl) fun same => ?_
    have := Nat.div_mul_le_self a (10 ^ (v + (j + 1)))
    rw [same, whole hbz] at this
    omega
  · obtain ⟨j, rfl⟩ := Nat.exists_eq_add_of_le hge
    obtain rfl : v = w + j := by omega
    rw [Text.digits_add, Nat.div_div_eq_div_mul, ← Nat.pow_add, List.append_assoc]
    refine Text.digits_append_lt (Nat.div_le_div_right (Nat.le_of_lt h)) (bound hk) fun same => ?_
    cases j with
    | zero =>
      have := whole haz
      rw [same, Nat.add_zero, whole hbz] at this
      omega
    | succ j => exact Text.cons_lt_digits (by decide) _ _ _ _

theorem date_year_le {s t : Instant} (h : s.seconds ≤ t.seconds) : s.date.year ≤ t.date.year :=
  yearOf_le (by omega)

theorem stored_lt {s t : Instant} (h : s.Before t) (start : 0 ≤ t.date.year)
    (finish : t.date.year ≤ 9999) : s.stored < t.stored := by
  rw [String.lt_iff]
  unfold stored
  simp only [String.toList_ofList, List.append_assoc, List.cons_append]
  have hle : s.seconds ≤ t.seconds := by
    rcases h with h | ⟨h, -⟩ <;> omega
  rcases Int.lt_or_eq_of_le (show s.seconds / 86400 ≤ t.seconds / 86400 by omega) with hday | hday
  · exact Date.text_lt (Date.ofDay_before hday) start finish (Date.ofDay_written _) _ _
  have hdate : s.date = t.date := congrArg Date.ofDay hday
  rw [hdate]
  refine List.append_left_lt (List.cons_lt_cons_iff.2 (.inr ⟨rfl, ?_⟩))
  rcases h with h | ⟨h, hn⟩
  · exact clockText_lt (show (s.seconds % 86400).toNat < (t.seconds % 86400).toNat by omega)
      (show (t.seconds % 86400).toNat < 86400 by omega) _ _
  · rw [show s.secondOfDay = t.secondOfDay by rw [secondOfDay, secondOfDay, h]]
    exact List.append_left_lt (fractionText_lt hn t.nanoseconds_lt _)

theorem before_or_eq_or_before (s t : Instant) : s.Before t ∨ s = t ∨ t.Before s := by
  unfold Before
  rcases Int.lt_trichotomy s.seconds t.seconds with h | h | h
  · exact .inl (.inl h)
  · rcases Nat.lt_trichotomy s.nanoseconds t.nanoseconds with hn | hn | hn
    · exact .inl (.inr ⟨h, hn⟩)
    · cases s
      cases t
      exact .inr (.inl (by simp_all))
    · exact .inr (.inr (.inr ⟨h.symm, hn⟩))
  · exact .inr (.inr (.inl h))

/-- Texts are ordered as the instants are. -/
theorem stored_lt_iff {s t : Instant} (start : 0 ≤ s.date.year) (finish : s.date.year ≤ 9999)
    (reach : t.date.year ≤ 9999) : s.stored < t.stored ↔ s.Before t := by
  constructor
  · intro h
    rcases before_or_eq_or_before s t with hst | rfl | hts
    · exact hst
    · exact absurd h (String.lt_irrefl _)
    · exact absurd h (String.lt_asymm (stored_lt hts start finish))
  · intro h
    have hle : s.seconds ≤ t.seconds := by
      rcases h with h | ⟨h, -⟩ <;> omega
    exact stored_lt h (Int.le_trans start (date_year_le hle)) reach

theorem stored_le {s t : Instant} (le : ¬ t.Before s) (start : 0 ≤ t.date.year)
    (finish : t.date.year ≤ 9999) : s.stored ≤ t.stored := by
  rcases before_or_eq_or_before s t with h | rfl | h
  · exact String.not_lt.1 (String.lt_asymm (stored_lt h start finish))
  · exact String.le_refl _
  · exact absurd h le

/-- The instant so many days before, in the calendar's range or not. -/
def back (t : Instant) (days : Nat) : Instant := { t with seconds := t.seconds - 86400 * days }

theorem daysBefore?_eq {t u : Instant} {days : Nat} (h : t.daysBefore? days = some u) :
    u = t.back days := by
  unfold daysBefore? at h
  simp only at h
  split_ifs at h
  exact (Option.some.inj h).symm

theorem back_year_le (t : Instant) (days : Nat) : (t.back days).date.year ≤ t.date.year :=
  date_year_le (show t.seconds - 86400 * days ≤ t.seconds by omega)

theorem Before.back_le {s t : Instant} {m n : Nat} (h : s.Before (t.back m)) (le : n ≤ m) :
    s.Before (t.back n) := by
  unfold Before back at *
  simp only at *
  omega

end Instant

end Retention.Time
