import Mathlib.Algebra.Order.Field.Rat
import Arbiter.Framework.Instances

/-! # Price Points

  One venue's view of one market, as the collectors store it.
-/

namespace Scanner

/-- `PricePoint`: what the scanner and the executors read of one. Its age is taken
    once, when it is read. -/
structure PricePoint where
  platform : String
  /-- Mark prices. -/
  yes_price : ℚ≥0
  no_price : ℚ≥0
  yes_volume : ℚ≥0
  no_volume : ℚ≥0
  age_seconds : ℚ≥0
  raw_market_id : String
  yes_market_id : String
  no_market_id : String
  yes_bid : ℚ≥0
  yes_ask : ℚ≥0
  no_bid : ℚ≥0
  no_ask : ℚ≥0
  /-- Absent where the collector has none. -/
  fee_rate : Option ℚ≥0
  deriving DecidableEq

/-- `fee_rate or 0.0`. -/
def PricePoint.rate (p : PricePoint) : ℚ≥0 := p.fee_rate.getD 0

end Scanner
