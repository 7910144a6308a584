import Arbiter.Execution.Order

/-! # Opportunities and Executions

  What the scanner hands to the engine, and the record the engine keeps of what
  it did with it.
-/

namespace Execution

/-! ### Opportunities -/

/-- `opp.status`, as the scanner sets it. -/
inductive OppStatus
  | candidate
  | review
  | stale
  | illiquid
  | tradable
  | manual
  deriving DecidableEq

/-- The status text. -/
def OppStatus.value : OppStatus → String
  | candidate => "candidate"
  | review => "review"
  | stale => "stale"
  | illiquid => "illiquid"
  | tradable => "tradable"
  | manual => "manual"

/-- `ArbitrageOpportunity`: what the engine reads of one. -/
structure Opportunity where
  canonical_id : String
  yes_platform : String
  yes_market_id : String
  yes_price : ℚ≥0
  yes_fee_rate : ℚ≥0
  no_platform : String
  no_market_id : String
  no_price : ℚ≥0
  no_fee_rate : ℚ≥0
  suggested_qty : ℕ
  /-- Dollars per contract after fees. -/
  net_edge : ℚ
  net_edge_cents : ℚ
  confidence : ℚ
  quote_age_seconds : ℚ
  status : OppStatus
  requires_manual : Bool
  deriving DecidableEq

namespace Opportunity

/-- Notional of the YES leg. -/
def yes_exposure (opp : Opportunity) : ℚ≥0 := opp.suggested_qty * opp.yes_price

/-- Notional of the NO leg. -/
def no_exposure (opp : Opportunity) : ℚ≥0 := opp.suggested_qty * opp.no_price

/-- Notional of both legs. -/
def exposure (opp : Opportunity) : ℚ≥0 := opp.suggested_qty * (opp.yes_price + opp.no_price)

/-- The notional splits into its legs. -/
theorem exposure_eq (opp : Opportunity) : opp.exposure = opp.yes_exposure + opp.no_exposure := by
  simp only [exposure, yes_exposure, no_exposure, mul_add]

end Opportunity

/-! ### Executions -/

/-- `ArbExecution.status`. -/
inductive ExecStatus
  | submitted
  | filled
  | recovering
  | failed
  | simulated
  | manual_pending
  | manual_entered
  | manual_closed
  | manual_cancelled
  deriving DecidableEq

/-- The status text, as stored and published. -/
def ExecStatus.value : ExecStatus → String
  | submitted => "submitted"
  | filled => "filled"
  | recovering => "recovering"
  | failed => "failed"
  | simulated => "simulated"
  | manual_pending => "manual_pending"
  | manual_entered => "manual_entered"
  | manual_closed => "manual_closed"
  | manual_cancelled => "manual_cancelled"

/-- `ArbExecution`: one execution of an opportunity. -/
structure ArbExecution where
  arb_id : String
  opportunity : Opportunity
  leg_yes : Leg
  leg_no : Leg
  status : ExecStatus
  realized_pnl : ℚ
  /-- The part of `realized_pnl` that came from unwinding. -/
  unwind_pnl : ℚ
  notes : List String
  deriving DecidableEq

end Execution
