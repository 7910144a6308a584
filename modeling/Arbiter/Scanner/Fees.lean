import Mathlib.Data.Rat.Floor
import Arbiter.Framework.Instances

/-! # Venue Fees

  The taker fee of one order at each venue: quadratic and rounded up to the cent
  on Kalshi, quadratic on Polymarket, flat per contract on ForecastEx, none
  elsewhere.
-/

namespace Scanner

/-- `_clamp_probability`. -/
def clamp_probability (price : ℚ) : ℚ := max 0 (min 1 price)

/-- `KALSHI_TAKER_FEE_RATE`. -/
def kalshi_taker_fee_rate : ℚ := 7 / 100

/-- `kalshi_order_fee`: rounded up to the next cent. -/
def kalshi_order_fee (price : ℚ) (quantity : ℕ) : ℚ :=
  let price := clamp_probability price
  if quantity = 0 ∨ price ≤ 0 then 0
  else
    let raw_fee := kalshi_taker_fee_rate * quantity * price * (1 - price)
    ⌈raw_fee * 100 - 1 / 10 ^ 9⌉ / 100

/-- The rate `polymarket_order_fee` falls back to for politics. -/
def polymarket_politics_fee_rate : ℚ := 4 / 100

/-- `polymarket_order_fee` at a resolved rate. -/
def polymarket_order_fee (price : ℚ) (quantity : ℕ) (resolved_rate : ℚ) : ℚ :=
  let price := clamp_probability price
  if quantity = 0 ∨ price ≤ 0 then 0
  else max resolved_rate 0 * quantity * price * (1 - price)

/-- `forecastex_order_fee`. -/
def forecastex_order_fee (price : ℚ) (quantity : ℕ) (fee_per_contract : ℚ) : ℚ :=
  if quantity = 0 ∨ clamp_probability price ≤ 0 then 0 else max fee_per_contract 0 * quantity

/-- `compute_fee`: a zero `fee_rate` means the venue's default. -/
def compute_fee (platform : String) (price : ℚ) (quantity : ℕ) (fee_rate : ℚ) : ℚ :=
  if quantity = 0 then 0
  else if platform = "kalshi" then kalshi_order_fee price quantity
  else if platform = "polymarket" then
    polymarket_order_fee price quantity
      (if fee_rate = 0 then polymarket_politics_fee_rate else fee_rate)
  else if platform = "forecastex" then
    forecastex_order_fee price quantity (if fee_rate = 0 then 5 / 1000 else fee_rate)
  else 0

/-! ### No venue pays a fee -/

theorem clamp_probability_mem (price : ℚ) :
    0 ≤ clamp_probability price ∧ clamp_probability price ≤ 1 := by
  unfold clamp_probability
  exact ⟨le_max_left _ _, max_le zero_le_one (min_le_left _ _)⟩

/-- The quadratic part of a fee. -/
theorem quadratic_nonneg (price rate : ℚ) (quantity : ℕ) (hrate : 0 ≤ rate) :
    0 ≤ rate * quantity * clamp_probability price * (1 - clamp_probability price) := by
  obtain ⟨hlow, hhigh⟩ := clamp_probability_mem price
  have hrest : 0 ≤ 1 - clamp_probability price := sub_nonneg.mpr hhigh
  positivity

theorem kalshi_order_fee_nonneg (price : ℚ) (quantity : ℕ) : 0 ≤ kalshi_order_fee price quantity := by
  unfold kalshi_order_fee
  dsimp only
  split
  case isTrue => exact le_refl 0
  case isFalse =>
    have hraw := quadratic_nonneg price kalshi_taker_fee_rate quantity
      (by unfold kalshi_taker_fee_rate; norm_num)
    have hceil : (0 : ℤ) ≤ ⌈kalshi_taker_fee_rate * quantity * clamp_probability price *
        (1 - clamp_probability price) * 100 - 1 / 10 ^ 9⌉ := by
      have hlt : (-1 : ℤ) < ⌈kalshi_taker_fee_rate * quantity * clamp_probability price *
          (1 - clamp_probability price) * 100 - 1 / 10 ^ 9⌉ := by
        rw [Int.lt_ceil]
        push_cast
        linarith
      omega
    exact div_nonneg (by exact_mod_cast hceil) (by norm_num)

theorem polymarket_order_fee_nonneg (price : ℚ) (quantity : ℕ) (resolved_rate : ℚ) :
    0 ≤ polymarket_order_fee price quantity resolved_rate := by
  unfold polymarket_order_fee
  dsimp only
  split
  case isTrue => exact le_refl 0
  case isFalse => exact quadratic_nonneg price _ quantity (le_max_right _ 0)

theorem forecastex_order_fee_nonneg (price : ℚ) (quantity : ℕ) (fee_per_contract : ℚ) :
    0 ≤ forecastex_order_fee price quantity fee_per_contract := by
  unfold forecastex_order_fee
  split
  case isTrue => exact le_refl 0
  case isFalse => exact mul_nonneg (le_max_right _ 0) (Nat.cast_nonneg _)

theorem compute_fee_nonneg (platform : String) (price : ℚ) (quantity : ℕ) (fee_rate : ℚ) :
    0 ≤ compute_fee platform price quantity fee_rate := by
  unfold compute_fee
  split
  · exact le_refl 0
  split
  · exact kalshi_order_fee_nonneg price quantity
  split
  · exact polymarket_order_fee_nonneg price quantity _
  split
  · exact forecastex_order_fee_nonneg price quantity _
  · exact le_refl 0

end Scanner
