import Mathlib.Tactic.Linarith
import Arbiter.Scanner.AlertGate

/-! # What the Alert Gate Promises

  The gate charges every venue a share of the price. What the venues charge is another matter:
  Kalshi a quadratic fee that is rounded up to the cent, Polymarket a quadratic one, ForecastEx
  half a cent a contract. At low prices the gate's estimate is below the fee of a leg; then the
  other leg makes up for it, or the gross edge is far above both fees.

  ## Contents

  - Section 1: rates.
  - Section 2: one leg.
  - Section 3: two legs at different venues.
  - Section 4: what passes the gate earns something.
-/

namespace Scanner

open Execution (OppStatus)

/-! ## Section 1: Rates -/

/-- A rate as the collector of a venue attaches it; none attached is zero. -/
def CollectedRate (platform : String) (attached : Option ℚ≥0) : Prop :=
  (platform = "kalshi" ∧ (attached.getD 0 = 0 ∨ attached.getD 0 = 7 / 100)) ∨
    (platform = "forecastex" ∧ (attached.getD 0 = 0 ∨ attached.getD 0 = 5 / 1000)) ∨
    platform = "polymarket"

/-- The fallback rates are the default ones, and the names of the venues are in lower case. -/
structure DefaultFallback (cfg : AlertConfig) : Prop where
  kalshi : cfg.fee_rate_kalshi = 7 / 100
  polymarket : cfg.fee_rate_polymarket = 5 / 100
  forecastex : cfg.fee_rate_forecastex = 3 / 100
  lower : ∀ platform ∈ venues, cfg.lower platform = platform

/-- The fees of both venues per contract, at an opportunity's own prices and quantity. -/
def true_fees (opp : ArbitrageOpportunity) : ℚ :=
  (compute_fee opp.yes_platform opp.yes_price opp.suggested_qty (opp.yes_fee_rate.getD 0 : ℚ≥0) +
    compute_fee opp.no_platform opp.no_price opp.suggested_qty (opp.no_fee_rate.getD 0 : ℚ≥0)) /
      opp.suggested_qty

/-! ## Section 2: One leg -/

/-- The fee of a contract at a price, against what the gate estimates for it. -/
inductive LegFee (price fee estimate : ℚ) : String → Prop
  | kalshi (hfee : fee ≤ 2 / 100) (hestimate : estimate = price * (7 / 100)) :
      LegFee price fee estimate "kalshi"
  | forecastex (hfee : fee = 5 / 1000) (hestimate : estimate = price * (3 / 100)) :
      LegFee price fee estimate "forecastex"
  | polymarket (rate : ℚ) (hrate : 5 / 100 ≤ rate) (hfee : fee ≤ price * rate * (1 - price))
      (hestimate : estimate = price * rate) : LegFee price fee estimate "polymarket"

section leg

variable {price : ℚ} {quantity : ℕ}

theorem clamp_probability_self (hlow : 0 ≤ price) (hhigh : price ≤ 1) :
    clamp_probability price = price := by
  rw [clamp_probability, min_eq_right hhigh, max_eq_right hlow]

/-- Kalshi never charges more than two cents a contract. -/
theorem kalshi_fee_le (hlow : 0 < price) (hhigh : price ≤ 1) (hqty : 0 < quantity) (rate : ℚ) :
    compute_fee "kalshi" price quantity rate / quantity ≤ 2 / 100 := by
  have hpos : (0 : ℚ) < quantity := Nat.cast_pos.mpr hqty
  have hne : quantity ≠ 0 := hqty.ne'
  -- the quadratic part is at most a quarter
  have hquarter : price * (1 - price) ≤ 1 / 4 := by nlinarith [sq_nonneg (price - 1 / 2)]
  have hraw : kalshi_taker_fee_rate * quantity * price * (1 - price) * 100 - 1 / 10 ^ 9 ≤
      ((2 * quantity : ℕ) : ℤ) := by
    have hfee := mul_le_mul_of_nonneg_left hquarter hpos.le
    rw [kalshi_taker_fee_rate]
    push_cast
    nlinarith
  have hceil := Int.ceil_le.mpr hraw
  have hcents : (⌈kalshi_taker_fee_rate * quantity * price * (1 - price) * 100 - 1 / 10 ^ 9⌉ : ℚ) ≤
      2 * quantity := by exact_mod_cast hceil
  rw [compute_fee, if_neg hne, if_pos rfl, kalshi_order_fee,
    clamp_probability_self hlow.le hhigh]
  dsimp only
  rw [if_neg (not_or.mpr ⟨hne, not_le.mpr hlow⟩), div_le_iff₀ hpos]
  linarith

/-- ForecastEx charges half a cent a contract. -/
theorem forecastex_fee_eq (hlow : 0 < price) (hhigh : price ≤ 1) (hqty : 0 < quantity) {rate : ℚ}
    (hrate : rate = 0 ∨ rate = 5 / 1000) :
    compute_fee "forecastex" price quantity rate / quantity = 5 / 1000 := by
  have hne : quantity ≠ 0 := hqty.ne'
  have hpos : (quantity : ℚ) ≠ 0 := Nat.cast_ne_zero.mpr hne
  have hresolved : (if rate = 0 then 5 / 1000 else rate) = 5 / 1000 := by
    split
    · rfl
    · next hzero => exact hrate.resolve_left hzero
  rw [compute_fee, if_neg hne, if_neg (by decide), if_neg (by decide), if_pos rfl, hresolved,
    forecastex_order_fee, clamp_probability_self hlow.le hhigh,
    if_neg (not_or.mpr ⟨hne, not_le.mpr hlow⟩), max_eq_left (by norm_num), mul_div_assoc,
    div_self hpos, mul_one]

/-- Polymarket's fee is quadratic, at no more than the rate of the gate. -/
theorem polymarket_fee_le (hlow : 0 < price) (hhigh : price ≤ 1) (hqty : 0 < quantity) {rate : ℚ}
    (hrate : 0 ≤ rate) :
    compute_fee "polymarket" price quantity rate / quantity ≤
      price * max rate (5 / 100) * (1 - price) := by
  have hne : quantity ≠ 0 := hqty.ne'
  have hpos : (0 : ℚ) < quantity := Nat.cast_pos.mpr hqty
  -- politics falls back to a lower rate than the gate
  have hresolved : max (if rate = 0 then polymarket_politics_fee_rate else rate) 0 ≤
      max rate (5 / 100) := by
    apply max_le
    · split
      · rw [polymarket_politics_fee_rate]
        exact le_max_of_le_right (by norm_num)
      · exact le_max_left _ _
    · exact le_max_of_le_left hrate
  have hquadratic : 0 ≤ price * (1 - price) := mul_nonneg hlow.le (sub_nonneg.mpr hhigh)
  rw [compute_fee, if_neg hne, if_neg (by decide), if_pos rfl, polymarket_order_fee,
    clamp_probability_self hlow.le hhigh,
    if_neg (not_or.mpr ⟨hne, not_le.mpr hlow⟩), div_le_iff₀ hpos]
  calc max (if rate = 0 then polymarket_politics_fee_rate else rate) 0 * quantity * price *
        (1 - price)
      = max (if rate = 0 then polymarket_politics_fee_rate else rate) 0 *
          (quantity * (price * (1 - price))) := by ring
    _ ≤ max rate (5 / 100) * (quantity * (price * (1 - price))) :=
        mul_le_mul_of_nonneg_right hresolved (mul_nonneg hpos.le hquadratic)
    _ = price * max rate (5 / 100) * (1 - price) * quantity := by ring

/-- The fee of a leg, whichever of the venues it is at. -/
theorem leg_fee {cfg : AlertConfig} {platform : String} {attached : Option ℚ≥0}
    (hcfg : DefaultFallback cfg) (hrate : CollectedRate platform attached)
    (hlow : 0 < price) (hhigh : price ≤ 1) (hqty : 0 < quantity) :
    LegFee price (compute_fee platform price quantity (attached.getD 0 : ℚ≥0) / quantity)
      (price * venue_fee_rate cfg platform attached) platform := by
  rcases hrate with ⟨rfl, hrate⟩ | ⟨rfl, hrate⟩ | rfl
  · apply LegFee.kalshi (kalshi_fee_le hlow hhigh hqty _)
    rw [venue_fee_rate, hcfg.lower _ (by decide), AlertConfig.fallback, if_pos rfl, hcfg.kalshi]
    rcases hrate with h | h
    · rw [h]
      norm_num
    · rw [h]
      norm_num
  · have hcast : ((attached.getD 0 : ℚ≥0) : ℚ) = 0 ∨ ((attached.getD 0 : ℚ≥0) : ℚ) = 5 / 1000 := by
      rcases hrate with h | h
      · exact .inl (by rw [h]; rfl)
      · exact .inr (by rw [h]; norm_num)
    apply LegFee.forecastex (forecastex_fee_eq hlow hhigh hqty hcast)
    rw [venue_fee_rate, hcfg.lower _ (by decide), AlertConfig.fallback, if_neg (by decide),
      if_neg (by decide), if_pos rfl, hcfg.forecastex]
    rcases hcast with h | h
    · rw [h]
      norm_num
    · rw [h]
      norm_num
  · apply LegFee.polymarket (max (attached.getD 0 : ℚ≥0) (5 / 100)) (le_max_right _ _)
    · exact polymarket_fee_le hlow hhigh hqty (NNRat.cast_nonneg _)
    · rw [venue_fee_rate, hcfg.lower _ (by decide), AlertConfig.fallback, if_neg (by decide),
        if_pos rfl, hcfg.polymarket]

end leg

/-! ## Section 3: Two legs -/

section legs

variable {a b : ℚ}

/-- Kalshi and ForecastEx together charge two and a half cents, the gate leaves three. -/
theorem kalshi_forecastex_covered (ha : 5 / 100 ≤ a)
    (hedge : 0 < 1 - a - b - a * (7 / 100) - b * (3 / 100)) :
    2 / 100 + 5 / 1000 < 1 - a - b := by
  linarith

/-- A flat fee on one leg is covered, once the estimate for Polymarket is above its fee by as
    much, or the gross edge is large. `share` is what the gate charges the flat leg. -/
theorem flat_polymarket_covered {flat share rate : ℚ} (ha : 5 / 100 ≤ a)
    (hshare : 0 ≤ share) (hrate : 5 / 100 ≤ rate)
    (hedge : 0 < 1 - a - b - a * share - b * rate)
    (hcase : flat ≤ a * share + 5 / 100 * b ^ 2 ∨ flat ≤ b * (1 - a - b)) :
    flat + b * rate * (1 - b) < 1 - a - b := by
  rcases hcase with hestimate | hgross
  · have hsquare : 5 / 100 * b ^ 2 ≤ rate * b ^ 2 :=
      mul_le_mul_of_nonneg_right hrate (sq_nonneg b)
    nlinarith
  · -- the gate leaves more than the fee of the other leg at this share of the gross edge
    have hb' : b < 1 := by nlinarith [mul_nonneg (by linarith : (0 : ℚ) ≤ a) hshare]
    have hscaled := mul_lt_mul_of_pos_right hedge (sub_pos.mpr hb')
    have hrest : 0 ≤ a * share * (1 - b) :=
      mul_nonneg (mul_nonneg (by linarith) hshare) (by linarith)
    nlinarith

/-- A price times the gross edge is least where the price is at an end of its range. -/
theorem price_mul_edge_ge {flat top lo hi : ℚ} (ha : a ≤ top) (hlo : lo ≤ b) (hhi : b ≤ hi)
    (hpos : 0 ≤ lo) (hleast : flat ≤ lo * (1 - top - lo)) (hmost : flat ≤ hi * (1 - top - hi)) :
    flat ≤ b * (1 - a - b) := by
  have hedge : b * (1 - top - b) ≤ b * (1 - a - b) :=
    mul_le_mul_of_nonneg_left (by linarith) (hpos.trans hlo)
  have hchord := mul_nonneg (sub_nonneg.mpr hlo) (sub_nonneg.mpr hhi)
  -- the chord between the ends lies below, and rises or falls
  rcases le_total 0 (1 - top - lo - hi) with hrises | hfalls
  · have hend := mul_nonneg hrises (sub_nonneg.mpr hlo)
    linarith
  · have hend := mul_nonneg_of_nonpos_of_nonpos hfalls (sub_nonpos.mpr hhi)
    linarith

/-- A flat fee is covered next to Polymarket: the estimate is large enough where one of the
    legs is dear, and the gross edge elsewhere. -/
theorem flat_polymarket_case {flat share : ℚ} (top hi : ℚ) (hshare : 0 ≤ share) (hhi : 0 ≤ hi)
    (ha : 5 / 100 ≤ a) (hb : 5 / 100 ≤ b) (hdear : flat ≤ top * share)
    (hdear' : flat ≤ 5 / 100 * share + 5 / 100 * hi ^ 2)
    (hleast : flat ≤ 5 / 100 * (1 - top - 5 / 100)) (hmost : flat ≤ hi * (1 - top - hi)) :
    flat ≤ a * share + 5 / 100 * b ^ 2 ∨ flat ≤ b * (1 - a - b) := by
  by_cases htop : top ≤ a
  · left
    have hestimate := mul_le_mul_of_nonneg_right htop hshare
    linarith [sq_nonneg b]
  by_cases hdear_b : hi ≤ b
  · left
    have hestimate := mul_le_mul_of_nonneg_right ha hshare
    have hsquare : hi ^ 2 ≤ b ^ 2 := pow_le_pow_left₀ hhi hdear_b 2
    linarith
  · right
    exact price_mul_edge_ge (not_le.mp htop).le hb (not_le.mp hdear_b).le (by norm_num) hleast hmost

/-- Kalshi's two cents are covered next to Polymarket. -/
theorem kalshi_polymarket_case (ha : 5 / 100 ≤ a) (hb : 5 / 100 ≤ b) :
    2 / 100 ≤ a * (7 / 100) + 5 / 100 * b ^ 2 ∨ 2 / 100 ≤ b * (1 - a - b) := by
  apply flat_polymarket_case (2 / 7) (6 / 10) _ _ ha hb <;> norm_num

/-- ForecastEx's half cent is covered next to Polymarket. -/
theorem forecastex_polymarket_case (ha : 5 / 100 ≤ a) (hb : 5 / 100 ≤ b) :
    5 / 1000 ≤ a * (3 / 100) + 5 / 100 * b ^ 2 ∨ 5 / 1000 ≤ b * (1 - a - b) := by
  apply flat_polymarket_case (1 / 6) (3 / 10) _ _ ha hb <;> norm_num

/-- **The fees of two legs** at different venues are covered where the gate finds an edge. -/
theorem legs_covered {fee fee' estimate estimate' : ℚ} {platform platform' : String}
    (hleg : LegFee a fee estimate platform) (hleg' : LegFee b fee' estimate' platform')
    (hne : platform ≠ platform') (ha : 5 / 100 ≤ a) (hb : 5 / 100 ≤ b)
    (hedge : 0 < 1 - a - b - estimate - estimate') : fee + fee' < 1 - a - b := by
  -- by the venues of the two legs, which are not the same
  cases hleg with
  | kalshi hfee hestimate =>
    cases hleg' with
    | kalshi => exact absurd rfl hne
    | forecastex hfee' hestimate' =>
      have := kalshi_forecastex_covered (b := b) ha (by linarith)
      linarith
    | polymarket rate hrate hfee' hestimate' =>
      have := flat_polymarket_covered ha (by norm_num) hrate (by linarith)
        (kalshi_polymarket_case ha hb)
      linarith
  | forecastex hfee hestimate =>
    cases hleg' with
    | kalshi hfee' hestimate' =>
      have := kalshi_forecastex_covered (b := a) hb (by linarith)
      linarith
    | forecastex => exact absurd rfl hne
    | polymarket rate hrate hfee' hestimate' =>
      have := flat_polymarket_covered ha (by norm_num) hrate (by linarith)
        (forecastex_polymarket_case ha hb)
      linarith
  | polymarket rate hrate hfee hestimate =>
    cases hleg' with
    | kalshi hfee' hestimate' =>
      have := flat_polymarket_covered hb (by norm_num) hrate (by linarith)
        (kalshi_polymarket_case hb ha)
      linarith
    | forecastex hfee' hestimate' =>
      have := flat_polymarket_covered hb (by norm_num) hrate (by linarith)
        (forecastex_polymarket_case hb ha)
      linarith
    | polymarket => exact absurd rfl hne

end legs

/-! ## Section 4: What passes the gate -/

section approved

variable {cfg : AlertConfig} {d : Detection}

/-- What the gate has looked at, as far as prices and fees go. -/
structure Estimated (cfg : AlertConfig) (opp : ArbitrageOpportunity) : Prop where
  yes_price : alert_min_price ≤ opp.yes_price
  no_price : alert_min_price ≤ opp.no_price
  below_a_dollar : opp.yes_price + opp.no_price < 1
  sized : 0 < opp.suggested_qty
  profit : 0 < estimated_net_edge_after_fees_usd cfg opp

theorem estimated_of_safe (hsafe : alert_is_safe_to_send cfg d = true) :
    Estimated cfg d.toArbitrageOpportunity := by
  unfold alert_is_safe_to_send at hsafe
  simp only [Bool.if_false_left, Bool.and_eq_true, Bool.not_eq_true', decide_eq_false_iff_not,
    not_or, not_lt, not_le] at hsafe
  obtain ⟨-, -, ⟨hyes, hno⟩, hsum, -, -, -, hqty, -, hprofit, -⟩ := hsafe
  exact ⟨hyes, hno, hsum, Nat.pos_of_ne_zero hqty, hprofit⟩

/-- **The gate is sound for profit**: what passes it, between two venues whose collectors
    attached their rates, earns something on every contract after the fees of both venues. -/
theorem approved_earns (hcfg : DefaultFallback cfg)
    (hyes : CollectedRate d.yes_platform d.yes_fee_rate)
    (hno : CollectedRate d.no_platform d.no_fee_rate) (hne : d.yes_platform ≠ d.no_platform)
    (hsafe : alert_is_safe_to_send cfg d = true) :
    0 < 1 - (d.yes_price : ℚ) - d.no_price - true_fees d.toArbitrageOpportunity := by
  have hest := estimated_of_safe hsafe
  have hcent : ((alert_min_price : ℚ≥0) : ℚ) = 5 / 100 := by rw [alert_min_price]; norm_num
  have hyes_low : (5 / 100 : ℚ) ≤ d.yes_price := hcent ▸ NNRat.cast_le.mpr hest.yes_price
  have hno_low : (5 / 100 : ℚ) ≤ d.no_price := hcent ▸ NNRat.cast_le.mpr hest.no_price
  have hsum : (d.yes_price : ℚ) + d.no_price < 1 := by exact_mod_cast hest.below_a_dollar
  -- the estimate is positive for one contract as well
  have hqty : (0 : ℚ) < d.suggested_qty := Nat.cast_pos.mpr hest.sized
  have hedge := (mul_pos_iff_of_pos_right hqty).mp hest.profit
  have hyes_pos : (0 : ℚ) < d.yes_price := by linarith
  have hno_pos : (0 : ℚ) < d.no_price := by linarith
  have hyes_fee := leg_fee hcfg hyes hyes_pos (by linarith) hest.sized
  have hno_fee := leg_fee hcfg hno hno_pos (by linarith) hest.sized
  have hcovered := legs_covered hyes_fee hno_fee hne hyes_low hno_low hedge
  rw [true_fees, add_div]
  exact sub_pos.mpr hcovered

end approved

/-- `approved_earns` of `house_opportunity`, with a name on the leg at Kalshi. -/
theorem approved_earns_house :
    0 < 1 - (house_opportunity.yes_price : ℚ) - house_opportunity.no_price -
      true_fees house_opportunity := by
  have hcfg : DefaultFallback alert_config := ⟨rfl, rfl, rfl, by decide +kernel⟩
  have hyes : CollectedRate house_opportunity.yes_platform house_opportunity.yes_fee_rate :=
    .inl ⟨by decide +kernel, by decide +kernel⟩
  have hno : CollectedRate house_opportunity.no_platform house_opportunity.no_fee_rate :=
    .inr (.inr (by decide +kernel))
  exact approved_earns (d := detection house_opportunity told untold) hcfg hyes hno
    (by decide +kernel) (by decide +kernel)

end Scanner
