import Mathlib.Data.String.Basic
import Arbiter.Execution.Opportunity
import Arbiter.Framework.Text
import Arbiter.Scanner.PricePoint

/-! # Opportunities of the Scanner

  An opportunity as the scanner builds it, the scanner's configuration, and the floors
  a pair of venues is held to.
-/

namespace Scanner

open Execution (OppStatus)

/-! ### Opportunities -/

/-- `ArbitrageOpportunity`: what the scanner, the auditor and the executor read of one. -/
structure ArbitrageOpportunity where
  canonical_id : String
  description : String
  yes_platform : String
  yes_price : ℚ≥0
  /-- Dollars per contract, as are `no_fee`, the edges and `total_fees`. -/
  yes_fee : ℚ
  yes_market_id : String
  no_platform : String
  no_price : ℚ≥0
  no_fee : ℚ
  no_market_id : String
  gross_edge : ℚ
  total_fees : ℚ
  net_edge : ℚ
  net_edge_cents : ℚ
  suggested_qty : ℕ
  max_profit_usd : ℚ
  timestamp : ℚ
  confidence : ℚ
  status : OppStatus
  persistence_count : ℕ
  quote_age_seconds : ℚ≥0
  min_available_liquidity : ℚ≥0
  mapping_status : String
  mapping_score : ℚ
  requires_manual : Bool
  /-- The rates of the price points, absent where those are. -/
  yes_fee_rate : Option ℚ≥0
  no_fee_rate : Option ℚ≥0
  yes_quote_age_seconds : ℚ≥0
  no_quote_age_seconds : ℚ≥0
  deriving DecidableEq

/-- `key`. -/
def ArbitrageOpportunity.key (opp : ArbitrageOpportunity) : String :=
  opp.canonical_id ++ ":" ++ opp.yes_platform ++ ":" ++ opp.no_platform ++ ":" ++
    opp.yes_market_id ++ ":" ++ opp.no_market_id

/-- Notional of both legs. -/
def ArbitrageOpportunity.cost (opp : ArbitrageOpportunity) : ℚ≥0 :=
  opp.suggested_qty * (opp.yes_price + opp.no_price)

/-- The opportunity, as the engine reads it. -/
def ArbitrageOpportunity.to_engine (opp : ArbitrageOpportunity) : Execution.Opportunity where
  canonical_id := opp.canonical_id
  yes_platform := opp.yes_platform
  yes_market_id := opp.yes_market_id
  yes_price := opp.yes_price
  yes_fee_rate := opp.yes_fee_rate.getD 0
  no_platform := opp.no_platform
  no_market_id := opp.no_market_id
  no_price := opp.no_price
  no_fee_rate := opp.no_fee_rate.getD 0
  suggested_qty := opp.suggested_qty
  net_edge := opp.net_edge
  net_edge_cents := opp.net_edge_cents
  confidence := opp.confidence
  quote_age_seconds := opp.quote_age_seconds
  status := opp.status
  requires_manual := opp.requires_manual

/-- The engine sees the same notional. -/
@[simp] theorem ArbitrageOpportunity.to_engine_exposure (opp : ArbitrageOpportunity) :
    opp.to_engine.exposure = opp.cost :=
  rfl

/-! ### Floors of a pair of venues -/

/-- The key of a pair in the tables of floors: both names in order. -/
def pair_key (a b : String) : String := if a ≤ b then a ++ "_" ++ b else b ++ "_" ++ a

/-- The floor of a pair: its entry in `by_pair`, but never above the global floor. The
    lookups of the configurations are all this one. -/
def floor_for_pair (global_floor : ℚ) (by_pair : List (String × ℚ))
    (yes_platform no_platform : String) : ℚ :=
  let a := (Text.strip yes_platform).toLower
  let b := (Text.strip no_platform).toLower
  if a = "" ∨ b = "" ∨ a = b then global_floor
  else
    match by_pair.lookup (pair_key a b) with
    | none => global_floor
    | some pair_floor => min global_floor pair_floor

/-- A pair's entry relaxes the global floor, it never raises it. -/
theorem floor_for_pair_le (global_floor : ℚ) (by_pair : List (String × ℚ))
    (yes_platform no_platform : String) :
    floor_for_pair global_floor by_pair yes_platform no_platform ≤ global_floor := by
  simp only [floor_for_pair]
  split
  · exact le_rfl
  · split
    · exact le_rfl
    · exact min_le_left _ _

/-- The key does not depend on the order of the legs. -/
theorem pair_key_comm (a b : String) : pair_key a b = pair_key b a := by
  rcases lt_trichotomy a b with h | rfl | h
  · simp [pair_key, h.le, not_le.2 h]
  · rfl
  · simp [pair_key, h.le, not_le.2 h]

/-- Nor does the floor. -/
theorem floor_for_pair_comm (global_floor : ℚ) (by_pair : List (String × ℚ))
    (yes_platform no_platform : String) :
    floor_for_pair global_floor by_pair yes_platform no_platform =
      floor_for_pair global_floor by_pair no_platform yes_platform := by
  simp only [floor_for_pair, pair_key_comm (Text.strip yes_platform).toLower,
    eq_comm (a := (Text.strip yes_platform).toLower), or_left_comm]

/-! ### Configuration -/

/-- `ScannerConfig`: what the scanner reads of it, and `FORECASTEX_MAX_QUOTE_AGE_S`. -/
structure ScannerConfig where
  min_edge_cents : ℚ
  min_edge_cents_by_pair : List (String × ℚ)
  max_position_usd : ℚ
  confidence_threshold : ℚ
  persistence_scans : ℕ
  max_quote_age_seconds : ℚ
  min_liquidity : ℚ
  min_liquidity_by_pair : List (String × ℚ)
  max_bid_ask_spread_cents : ℚ
  max_balance_fraction_per_trade : ℚ
  min_platform_reserve_usd : ℚ
  edge_scaling_enabled : Bool
  edge_scaling_min_fraction : ℚ
  edge_scaling_ref_cents : ℚ
  phantom_edge_threshold_cents : ℚ
  phantom_edge_max_age_seconds : ℚ
  forecastex_max_quote_age_s : ℚ

/-- `min_edge_for_pair`. -/
def ScannerConfig.min_edge_for_pair (cfg : ScannerConfig) : String → String → ℚ :=
  floor_for_pair cfg.min_edge_cents cfg.min_edge_cents_by_pair

/-- `min_liquidity_for_pair`. -/
def ScannerConfig.min_liquidity_for_pair (cfg : ScannerConfig) : String → String → ℚ :=
  floor_for_pair cfg.min_liquidity cfg.min_liquidity_by_pair

end Scanner
