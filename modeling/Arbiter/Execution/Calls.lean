import Arbiter.Framework.Prog
import Arbiter.Execution.Risk

/-! # Calls of the Engine

  Everything the execution engine asks of the outside: its venue adapters, the
  store, the incident log, the risk book, the clock. A modelled method is a
  program over these calls; what a call may answer is left to the environment a
  result is stated in.

  A call that may raise answers `Except`. Of a raised exception only the text is
  kept; a local timeout of a placement is told apart, since the engine does.
-/

namespace Execution

open Effect

/-! ### Requests and replies -/

/-- What a placement asks for. -/
structure OrderRequest where
  arb_id : String
  market_id : String
  canonical_id : String
  side : Side
  price : ℚ≥0
  qty : ℕ
  deriving DecidableEq

/-- How a placement can end without an order. -/
inductive PlaceFailure
  /-- `asyncio.wait_for` gave up. -/
  | timeout
  | raised (err : String)
  deriving DecidableEq

/-- A fresh reading of an order. The adapters write it into the order they were
    given and return that; a reading that is not `in_place` is a new object. -/
structure Reading where
  order : Leg
  in_place : Bool
  deriving DecidableEq

/-- The order object the engine holds after a reading. -/
def Reading.held (r : Reading) (before : Leg) : Leg := if r.in_place then r.order else before

/-- The arb row written together with its first leg. -/
structure Stub where
  opportunity : Opportunity
  net_edge : Option ℚ

/-! ### Incidents -/

/-- Severities of incidents. -/
inductive Severity
  | info
  | warning
  | critical
  deriving DecidableEq

/-- An incident as raised: what it is about, and the legs its metadata names. -/
structure Incident where
  arb_id : String
  canonical_id : String
  severity : Severity
  message : String
  /-- `metadata["event_type"]`, empty when there is none. -/
  event_type : String
  /-- Platform and side of each leg the metadata names. -/
  legs : List (String × Side)
  deriving DecidableEq

/-! ### Calls -/

/-- External calls. Venue calls carry the platform whose adapter is asked. -/
inductive Call
  | place_fok (platform : String) (req : OrderRequest)
  | place_ioc (platform : String) (req : OrderRequest)
  | place_resting_sell (platform : String) (req : OrderRequest)
  /-- Market sell; the price of the request is not sent. -/
  | place_unwind_sell (platform : String) (req : OrderRequest)
  | get_order (platform : String) (order : Leg)
  | cancel_order (platform : String) (order : Leg)
  | list_open_orders_by_client_id (platform : String) (key : String)
  | best_executable_price (platform market_id : String) (side : Side) (qty : ℕ)
  | check_depth (platform market_id : String) (side : Side) (required_qty : ℕ)
  /-- The last balance seen on a platform, if there is one. -/
  | balance (platform : String)
  /-- `self._db_write_failed`, which other tasks may set meanwhile. -/
  | db_write_failed
  | upsert_order (order : Leg) (arb_id : String) (client_order_id : Option String)
  | record_arb_stub_with_leg (arb_id canonical_id : String) (first_leg : Leg) (stub : Stub)
      (client_order_id : Option String)
  /-- `_handle_db_failure`: arms the kill switch, never raises. -/
  | handle_db_failure (op arb_id canonical_id err : String)
  | mark_naked_leg_reconciled (arb_id : String) (unwind_pnl : ℚ) (note : String)
  /-- `record_incident`: never raises. -/
  | record_incident (incident : Incident)
  | handle_one_leg_exposure (incident : Incident) (filled_leg failed_leg : Leg)
  /-- `_auto_resolve_recovery_incidents`: never raises. -/
  | auto_resolve_recovery_incidents (arb_id : String) (unwound_qty unwind_target : ℕ)
  /-- `self._executions.append`. -/
  | append_execution (execution : ArbExecution)
  | record_arb (execution : ArbExecution)
  /-- `_maybe_halt_on_daily_loss`: books the profit of the unwind, never raises. -/
  | maybe_halt_on_daily_loss (unwind_pnl : ℚ)
  | record_trade (canonical_id : String) (exposure : ℚ≥0) (pnl : ℚ)
      (alloc : RiskManager.Allocation)
  | release_trade (canonical_id : String) (exposure : ℚ≥0) (alloc : RiskManager.Allocation)
  /-- `_smart_unwind`, as its caller sees it. -/
  | smart_unwind (arb_id : String) (filled_leg : Leg) (qty : ℕ)
  | sleep (seconds : ℚ)
  /-- How many more rounds a loop bounded by wall-clock time gets. -/
  | rounds_left (seconds : ℚ)

/-- What each call answers. -/
@[reducible] def Answer : Call → Type
  | .place_fok .. => Except PlaceFailure Leg
  | .place_ioc .. => Except PlaceFailure Leg
  | .place_resting_sell .. => Except String Leg
  | .place_unwind_sell .. => Except String Leg
  | .get_order .. => Except String Reading
  | .cancel_order .. => Except String Bool
  | .list_open_orders_by_client_id .. => Except String (List Leg)
  | .best_executable_price .. => Except String (Bool × ℚ≥0)
  | .check_depth .. => Except String (Bool × ℚ≥0)
  | .balance .. => Option ℚ
  | .db_write_failed => Bool
  | .upsert_order .. => Except String Unit
  | .record_arb_stub_with_leg .. => Except String Unit
  | .handle_db_failure .. => Unit
  | .mark_naked_leg_reconciled .. => Except String Unit
  | .record_incident .. => Unit
  | .handle_one_leg_exposure .. => Except String Unit
  | .auto_resolve_recovery_incidents .. => Unit
  | .append_execution .. => Unit
  | .record_arb .. => Except String Unit
  | .maybe_halt_on_daily_loss .. => Unit
  | .record_trade .. => Unit
  | .release_trade .. => Unit
  | .smart_unwind .. => Except String Leg
  | .sleep .. => Unit
  | .rounds_left .. => ℕ

/-- Programs of the engine. -/
abbrev Exe := Prog Call Answer

/-! ### Calls at their types -/

abbrev place_fok (platform : String) (req : OrderRequest) : Exe (Except PlaceFailure Leg) :=
  .send (Call.place_fok platform req)

abbrev place_ioc (platform : String) (req : OrderRequest) : Exe (Except PlaceFailure Leg) :=
  .send (Call.place_ioc platform req)

abbrev place_resting_sell (platform : String) (req : OrderRequest) : Exe (Except String Leg) :=
  .send (Call.place_resting_sell platform req)

abbrev place_unwind_sell (platform : String) (req : OrderRequest) : Exe (Except String Leg) :=
  .send (Call.place_unwind_sell platform req)

abbrev get_order (platform : String) (order : Leg) : Exe (Except String Reading) :=
  .send (Call.get_order platform order)

abbrev cancel_order (platform : String) (order : Leg) : Exe (Except String Bool) :=
  .send (Call.cancel_order platform order)

abbrev list_open_orders_by_client_id (platform key : String) : Exe (Except String (List Leg)) :=
  .send (Call.list_open_orders_by_client_id platform key)

abbrev best_executable_price (platform market_id : String) (side : Side) (qty : ℕ) :
    Exe (Except String (Bool × ℚ≥0)) :=
  .send (Call.best_executable_price platform market_id side qty)

abbrev db_write_failed : Exe Bool := .send Call.db_write_failed

abbrev upsert_order (order : Leg) (arb_id : String) (client_order_id : Option String) :
    Exe (Except String Unit) :=
  .send (Call.upsert_order order arb_id client_order_id)

abbrev record_arb_stub_with_leg (arb_id canonical_id : String) (first_leg : Leg) (stub : Stub)
    (client_order_id : Option String) : Exe (Except String Unit) :=
  .send (Call.record_arb_stub_with_leg arb_id canonical_id first_leg stub client_order_id)

abbrev handle_db_failure (op arb_id canonical_id err : String) : Exe Unit :=
  .send (Call.handle_db_failure op arb_id canonical_id err)

abbrev mark_naked_leg_reconciled (arb_id : String) (unwind_pnl : ℚ) (note : String) :
    Exe (Except String Unit) :=
  .send (Call.mark_naked_leg_reconciled arb_id unwind_pnl note)

abbrev record_incident (incident : Incident) : Exe Unit := .send (Call.record_incident incident)

abbrev handle_one_leg_exposure (incident : Incident) (filled_leg failed_leg : Leg) :
    Exe (Except String Unit) :=
  .send (Call.handle_one_leg_exposure incident filled_leg failed_leg)

abbrev auto_resolve_recovery_incidents (arb_id : String) (unwound_qty unwind_target : ℕ) :
    Exe Unit :=
  .send (Call.auto_resolve_recovery_incidents arb_id unwound_qty unwind_target)

abbrev release_trade (canonical_id : String) (exposure : ℚ≥0) (alloc : RiskManager.Allocation) :
    Exe Unit :=
  .send (Call.release_trade canonical_id exposure alloc)

abbrev call_smart_unwind (arb_id : String) (filled_leg : Leg) (qty : ℕ) :
    Exe (Except String Leg) :=
  .send (Call.smart_unwind arb_id filled_leg qty)

abbrev sleep (seconds : ℚ) : Exe Unit := .send (Call.sleep seconds)

abbrev rounds_left (seconds : ℚ) : Exe ℕ := .send (Call.rounds_left seconds)

/-! ### Configuration -/

/-- What the engine probes an adapter for. -/
structure Adapter where
  /-- `place_ioc` is there and a coroutine. -/
  async_place_ioc : Bool
  has_check_depth : Bool
  has_get_order : Bool
  /-- `get_order` is a coroutine. -/
  async_get_order : Bool
  has_best_executable_price : Bool
  has_place_resting_sell : Bool
  has_place_unwind_sell : Bool

/-- The engine's fixed surroundings: adapters by platform, store and settings. -/
structure Engine where
  adapters : String → Option Adapter
  has_store : Bool
  /-- A `SafetySupervisor` is wired. -/
  has_safety : Bool
  /-- `execution_timeout_s`, as errors print it. -/
  execution_timeout_text : String
  smart_unwind_timeout_s : ℚ
  submit_poll_timeout_s : ℚ
  submit_poll_timeout_forecastex_s : ℚ
  submit_poll_interval_s : ℚ
  /-- `SUBMIT_FIRST_POLL_S`. -/
  submit_first_poll_s : ℚ
  secondary_requote_attempts : ℕ
  secondary_requote_delay_ms : ℚ

end Execution
