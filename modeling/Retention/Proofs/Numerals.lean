import Mathlib.Algebra.GroupWithZero.Nat
import Retention.Text.Digits

/-!
# The order of numerals

Numerals of one width are ordered as the numbers are, whatever follows them (`padded_append_lt`),
and all that comes before the digits in the order of characters comes before a numeral
(`cons_lt_padded`).
-/

namespace Retention.Text

theorem append_lt_append {x y : List Char} :
    ∀ {a b : List Char}, a.length = b.length → a < b → a ++ x < b ++ y
  | [], [], _, h => absurd h (List.lt_irrefl [])
  | c :: a, d :: b, len, h => by
    rw [List.cons_append, List.cons_append, List.cons_lt_cons_iff]
    rcases List.cons_lt_cons_iff.1 h with hcd | ⟨rfl, hab⟩
    · exact .inl hcd
    · exact .inr ⟨rfl, append_lt_append (Nat.succ.inj len) hab⟩

/-- The last `width` decimal digits of `n`. -/
def digits : (width n : Nat) → List Char
  | 0, _ => []
  | width + 1, n => digits width (n / 10) ++ [(n % 10).digitChar]

theorem length_digits : ∀ w n : Nat, (digits w n).length = w
  | 0, _ => rfl
  | w + 1, n => by rw [digits, List.length_append, length_digits w, List.length_singleton]

theorem digits_add (w : Nat) : ∀ v n : Nat, digits (w + v) n = digits w (n / 10 ^ v) ++ digits v n
  | 0, n => by simp [digits]
  | v + 1, n => by
    rw [← Nat.add_assoc, digits, digits_add w v, digits, ← List.append_assoc,
      Nat.div_div_eq_div_mul, Nat.pow_succ, Nat.mul_comm]

theorem padded_eq_digits : ∀ {w n : Nat}, 0 < w → n < 10 ^ w → padded w n = digits w n
  | 1, n, _, h => by
    have h : n < 10 := h
    rw [padded, Nat.toDigits_of_lt_base h, digits, digits, Nat.mod_eq_of_lt h]
    rfl
  | w + 2, n, _, h => by
    have ih : padded (w + 1) (n / 10) = digits (w + 1) (n / 10) :=
      padded_eq_digits (Nat.succ_pos w) ((Nat.div_lt_iff_lt_mul (by decide)).2 h)
    rw [digits, ← ih, padded, padded]
    by_cases hn : n < 10
    · rw [Nat.toDigits_of_lt_base hn, Nat.div_eq_of_lt hn, Nat.toDigits_zero, Nat.mod_eq_of_lt hn]
      simp [List.replicate_succ']
    · have fill : w + 2 - ((Nat.toDigits 10 (n / 10)).length + 1)
          = w + 1 - (Nat.toDigits 10 (n / 10)).length := by omega
      rw [Nat.toDigits_of_base_le (by decide) (Nat.le_of_not_lt hn), List.length_append,
        List.length_singleton, ← List.append_assoc, fill]

theorem digitChar_lt {m n : Nat} (h : m < n) (hn : n < 10) : m.digitChar < n.digitChar := by
  have all : ∀ n < 10, ∀ m < n, m.digitChar < n.digitChar := by decide
  exact all n hn m h

theorem digits_lt : ∀ (w : Nat) {m n : Nat}, m < n → n < 10 ^ w → digits w m < digits w n
  | 0, m, n, h, hn => by omega
  | w + 1, m, n, h, hn => by
    rw [Nat.pow_succ] at hn
    rw [digits, digits]
    rcases Nat.lt_or_ge (m / 10) (n / 10) with hdiv | hdiv
    · exact append_lt_append (by rw [length_digits, length_digits])
        (digits_lt w hdiv (by omega))
    · obtain heq : m / 10 = n / 10 := by omega
      rw [heq]
      refine List.append_left_lt (List.cons_lt_cons_iff.2 (.inl ?_))
      exact digitChar_lt (by omega) (by omega)

theorem digits_append_lt {w m n : Nat} {x y : List Char} (le : m ≤ n) (hn : n < 10 ^ w)
    (rest : m = n → x < y) : digits w m ++ x < digits w n ++ y := by
  rcases Nat.lt_or_eq_of_le le with h | rfl
  · exact append_lt_append (by rw [length_digits, length_digits]) (digits_lt w h hn)
  · exact List.append_left_lt (rest rfl)

/-- Numerals of one width are ordered as the numbers are, and equal ones leave it to the rest. -/
theorem padded_append_lt {w m n : Nat} {x y : List Char} (pos : 0 < w) (le : m ≤ n)
    (hn : n < 10 ^ w) (rest : m = n → x < y) : padded w m ++ x < padded w n ++ y := by
  rw [padded_eq_digits pos (Nat.lt_of_le_of_lt le hn), padded_eq_digits pos hn]
  exact digits_append_lt le hn rest

theorem cons_lt_digits {c : Char} (before : c < '0') (w n : Nat) (x y : List Char) :
    c :: x < digits (w + 1) n ++ y := by
  have first : ∀ d < 10, '0' ≤ d.digitChar := by decide
  rw [Nat.add_comm, digits_add]
  exact List.cons_lt_cons_iff.2 (.inl (UInt32.lt_of_lt_of_le before
    (first _ (Nat.mod_lt _ (by decide)))))

theorem cons_lt_padded {c : Char} (before : c < '0') {w n : Nat} (pos : 0 < w) (hn : n < 10 ^ w)
    (x y : List Char) : c :: x < padded w n ++ y := by
  obtain ⟨w, rfl⟩ := Nat.exists_eq_succ_of_ne_zero (Nat.ne_of_gt pos)
  rw [padded_eq_digits pos hn]
  exact cons_lt_digits before w n x y

end Retention.Text
