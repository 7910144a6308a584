import Mathlib.Data.Rat.Floor
import Mathlib.Tactic.Linarith
import Arbiter.Framework.Instances

/-! # Truncation

  Whole numbers from fractions, cut off towards zero. A positive whole number is at
  most the truncation of a quotient exactly when it fits into the dividend that many
  times, which is how caps on a quantity are read back as caps on an amount.
-/

namespace Truncate

/-- The whole part of `q`, towards zero. -/
def whole (q : ℚ) : ℤ := if 0 ≤ q then ⌊q⌋ else ⌈q⌉

theorem whole_of_nonneg {q : ℚ} (h : 0 ≤ q) : whole q = ⌊q⌋ := if_pos h

/-- Nothing below zero has a positive whole part. -/
theorem whole_nonpos {q : ℚ} (h : q < 0) : whole q ≤ 0 := by
  rw [whole, if_neg (not_le.2 h)]
  exact Int.ceil_le.2 (by simpa using h.le)

/-- A positive whole number is at most the whole part of `q` when it is at most `q`. -/
theorem le_whole_iff {n : ℤ} {q : ℚ} (hn : 0 < n) : n ≤ whole q ↔ (n : ℚ) ≤ q := by
  rcases le_or_gt 0 q with h | h
  · rw [whole_of_nonneg h, Int.le_floor]
  · have hwhole := whole_nonpos h
    have hpos : (0 : ℚ) < n := by exact_mod_cast hn
    constructor
    · intro hle
      omega
    · intro hle
      linarith

/-- It is at most the whole part of `a / c` when `n` times `c` is at most `a`. -/
theorem le_whole_div_iff {n : ℤ} {a c : ℚ} (hn : 0 < n) (hc : 0 < c) :
    n ≤ whole (a / c) ↔ n * c ≤ a := by
  rw [le_whole_iff hn, le_div_iff₀ hc]

/-- The whole part of a whole number. -/
@[simp] theorem whole_intCast (n : ℤ) : whole n = n := by
  simp [whole]

end Truncate
