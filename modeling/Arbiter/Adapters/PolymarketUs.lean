import Arbiter.Framework.Decimal
import Arbiter.Framework.Json
import Arbiter.Framework.Text
import Arbiter.Execution.Calls

/-! # The Polymarket US Adapter

  What the adapter makes of the answers of the US venue. A placement is read off the
  answer and its first execution, which may carry an order of its own. A poll only
  raises the fill of the order it is given.

  Where the code trips over the shape of an answer, a placement raises and a poll flags
  the order. The price as sent shows up nowhere in the order. A price below zero counts
  as zero.
-/

namespace PolymarketUs

open Execution

/-! ## Section 1: Gates -/

/-- How a placement can end without an order. -/
inductive Raised
  /-- `OrderRejected`. -/
  | rejected (text : String)
  /-- Any other exception. -/
  | other

/-- What a placement is checked against. -/
structure Config where
  phase4_max_usd : Option ℚ
  phase5_max_usd : Option ℚ
  /-- There is a supervisor, and it is armed. -/
  armed : Bool
  /-- `_cached_tick`. -/
  tick : ℚ
  max_affordable : Option ℚ

/-- The hard lock of one phase. -/
def hard_lock (phase : String) (max_usd : Option ℚ) (notional : ℚ≥0) : Option String :=
  max_usd.bind fun limit =>
    if (notional : ℚ) > limit then
      some (phase ++ " hard-lock: notional $" ++ Decimal.fixed 2 notional ++ " > $" ++
        Decimal.fixed_signed 2 limit)
    else none

/-- The three gates, in their order. -/
def check_gates (phase4_max_usd phase5_max_usd : Option ℚ) (armed : Bool) (notional : ℚ≥0) :
    Option String :=
  ((hard_lock "PHASE4" phase4_max_usd notional).or
    (hard_lock "PHASE5" phase5_max_usd notional)).or
    (if armed then some "supervisor armed" else none)

/-- `_us_order_params` of a buy: every price goes out on the YES scale. -/
def us_order_params (side : Side) (price : ℚ≥0) : String × ℚ :=
  let clipped_price : ℚ := min price 1
  match side with
  | .no => ("BUY_SHORT", max (1 - clipped_price) 0)
  | .yes => ("BUY_LONG", clipped_price)

/-- `_snap_to_tick`. -/
def snap_to_tick (price tick : ℚ) : ℚ :=
  if tick ≤ 0 then max 0 (min price 1)
  else max 0 (min (Decimal.round_to 6 (Decimal.round_to 0 (price / tick) * tick)) 1)

/-- What `_marketability_clamp_and_snap` refuses the request with. -/
def unaffordable (cfg : Config) (req : OrderRequest) : Option String :=
  let (intent, request_price) := us_order_params req.side req.price
  let snapped := snap_to_tick request_price cfg.tick
  let user_side_price := if intent = "BUY_SHORT" then max (1 - snapped) 0 else snapped
  cfg.max_affordable.bind fun max_affordable =>
    if user_side_price > max_affordable + 1 / 1000000000 then
      some ("polymarket_us tick-snap pushed price to " ++
        Decimal.fixed_signed 4 user_side_price ++ " > max_affordable " ++
        Decimal.fixed_signed 4 max_affordable)
    else none

/-- What a placement is refused with before anything is sent. -/
def refusal (cfg : Config) (req : OrderRequest) : Option String :=
  (check_gates cfg.phase4_max_usd cfg.phase5_max_usd cfg.armed (req.price * req.qty)).or
    (unaffordable cfg req)

/-! ## Section 2: Answers -/

/-- `_map_status`. -/
def map_status (api_status : String) (default : OrderStatus) : OrderStatus :=
  let normalized := api_status.toUpper
  if Text.occurs "PARTIAL" normalized then .partialFill
  else if normalized ∈ ["FILLED", "MATCHED", "EXECUTED", "ORDER_STATE_FILLED"] then .filled
  else if normalized ∈ ["CANCELED", "CANCELLED", "ORDER_STATE_CANCELED",
      "ORDER_STATE_CANCELLED", "KILLED", "ORDER_STATE_KILLED", "EXPIRED",
      "ORDER_STATE_EXPIRED", "ORDER_STATE_UNFILLED"] then .cancelled
  else if normalized ∈ ["REJECTED", "ORDER_STATE_REJECTED"] then .failed
  else if normalized ∈ ["LIVE", "OPEN", "ORDER_STATE_OPEN", "ORDER_STATE_LIVE", "NEW",
      "ORDER_STATE_NEW"] then .submitted
  -- An unknown word is no open order.
  else if default = .submitted then .failed
  else default

/-- `_amount_value`. -/
def amount_value (value : Json ℚ) : ℚ :=
  ((if value.is_obj then value.get "value" else value).float).getD 0

/-- The order of the first execution of an answer. -/
inductive FirstExecution
  | order (fields : Json ℚ)
  /-- There is none. -/
  | absent
  /-- Looking for it raises a `TypeError`. -/
  | type_error
  /-- Looking for it raises another exception. -/
  | raises

/-- `(executions[0].get("order") or {})`, where `executions` is that or empty. -/
def first_execution (response : Json ℚ) : FirstExecution :=
  let executions := response.get "executions"
  if executions.truthy then
    match executions with
    | .arr (first :: _) =>
        if first.is_obj then
          let order := (first.get "order").orElse (.obj [])
          if order.is_obj then .order order else .raises
        else .absent
    | .str _ _ => .absent
    | .obj _ => .raises
    | _ => .type_error
  else .absent

/-! ## Section 3: `place_fok` and `place_ioc` -/

section place

variable (spelled : Json ℚ → String)

/-- The order id made up where the venue names none. -/
def made_up_id (req : OrderRequest) : String := req.arb_id ++ "-" ++ req.side.upper ++ "-POLYUS"

/-- The order of the first execution as a placement reads it: no fields where there is no
    execution. There is none where reading it raises. -/
def execution_order (response : Json ℚ) : Option (Json ℚ) :=
  if (response.get "executions").truthy then
    match response.get "executions" with
    | .arr (first :: _) =>
        -- The status for the log is looked up without the guards of the other reading.
        if first.is_obj ∧ (first.getD "order" (.obj [])).is_obj then
          some (first.getD "order" (.obj []))
        else none
    | _ => none
  else some (.obj [])

/-- The status word of an answer. -/
def status_word (response execution : Json ℚ) (default : String) : String :=
  (response.getD "state" (response.getD "status"
    (execution.getD "state" (execution.getD "status" (.str default none))))).text spelled

/-- The fill of an answer, before it is converted. -/
def fill_value (response execution : Json ℚ) : Json ℚ :=
  execution.getD "cumQuantity"
    (response.getD "filledQty" (response.getD "size_matched" (.num 0)))

/-- The answer has one of the keys a fill is read from. -/
def has_fill (response execution : Json ℚ) : Bool :=
  (execution.get? "cumQuantity").isSome || (response.get? "filledQty").isSome ||
    (response.get? "size_matched").isSome

/-- `_order_from_response` of an answer that is an object. -/
def order_from_response (req : OrderRequest) (response execution : Json ℚ) : Order ℚ :=
  let order_id := response.getD "id" (response.getD "orderId" (response.getD "orderID"
    (execution.getD "id" (.str (made_up_id req) none))))
  let mapped_status := map_status (status_word spelled response execution "OPEN") .submitted
  let fill_qty := (fill_value response execution).float.getD 0
  let avg_px := amount_value ((execution.get "avgPx").orElse (.obj []))
  let status :=
    if mapped_status = .filled ∧ fill_qty = 0 then
      -- A zero the venue spells out is a kill; no count at all is left to the poll.
      if has_fill response execution then .cancelled else .submitted
    else mapped_status
  { order_id := order_id.text spelled, platform := "polymarket"
    market_id := req.market_id, canonical_id := req.canonical_id, side := req.side
    price := req.price, quantity := req.qty, status
    fill_price := if avg_px = 0 then req.price else avg_px.toNNRat
    fill_qty, error := "", external_client_order_id := none, idempotency_ambiguous := false }

/-- The order on an answer that is no object. -/
def unexpected_order (req : OrderRequest) : Order ℚ :=
  { order_id := made_up_id req, platform := "polymarket"
    market_id := req.market_id, canonical_id := req.canonical_id, side := req.side
    price := req.price, quantity := req.qty, status := .failed, fill_price := 0, fill_qty := 0
    error := "Unexpected non-dict response from Polymarket US"
    external_client_order_id := none, idempotency_ambiguous := false }

/-- Why the venue refused, where an answer says so. -/
def rejection_reason (response execution : Json ℚ) : Json ℚ :=
  response.first ["rejectionReason", "errorMessage", "errorMsg", "error", "message"]
    (execution.first ["rejectionReason", "statusReason", "errorMessage"] .null)

/-- The error of an order that is over and not filled. -/
def terminal_error (response execution : Json ℚ) : String :=
  let word := status_word spelled response execution ""
  let reason := rejection_reason response execution
  "polymarket_us " ++ (if word = "" then "unknown" else word) ++
    (if reason.truthy then ": " ++ String.ofList ((reason.text spelled).toList.take 200) else "")

/-- What `_sign_and_send` makes of an answer. -/
def sent_order (req : OrderRequest) (response : Json ℚ) : Except Raised (Order ℚ) :=
  if response.is_obj then
    match execution_order response with
    | none => .error .other
    | some execution =>
        let order := order_from_response spelled req response execution
        if order.status.terminalFailed then
          .ok { order with error := terminal_error spelled response execution }
        else .ok order
  else .ok (unexpected_order req)

/-- `place_fok`, and `place_ioc`: they differ in what they send. `answer` is what the
    client ends with. -/
def place_fok (cfg : Config) (req : OrderRequest) (answer : Except Raised (Json ℚ)) :
    Except Raised (Order ℚ) :=
  match refusal cfg req with
  | some text => .error (.rejected text)
  | none => answer.bind (sent_order spelled req)

end place

/-! ## Section 4: `get_order` -/

section get_order

variable (spelled : Json ℚ → String)

/-- What reading a key of an answer ends with: the key itself, else that of the first
    execution. -/
def polled_value (response payload : Json ℚ) (key : String) : Except Raised (Option (Json ℚ)) :=
  match payload.get key with
  | .null =>
      match first_execution response with
      | .order fields => .ok (some (fields.get key))
      | .absent => .ok none
      | .type_error => .ok none
      | .raises => .error .other
  | value => .ok (some value)

/-- A poll may only raise a fill. -/
def raised_fill (fill_qty : ℚ) (cum : Option (Json ℚ)) : ℚ :=
  match cum.bind Json.float with
  | some cum => max fill_qty cum
  | none => fill_qty

/-- The price a poll reads. -/
def polled_price (value : Option (Json ℚ)) : ℚ :=
  match value with
  | none => 0
  | some value => amount_value value

/-- A poll that trips: the order is flagged. -/
def failed_poll (exc : String) (order : Order ℚ) : Order ℚ :=
  { order with idempotency_ambiguous := true, error := "get_order failed: " ++ exc }

/-- The fill and the price of a poll. -/
def polled_fill (response payload : Json ℚ) (exc : String) (order : Order ℚ) : Order ℚ :=
  match polled_value response payload "cumQuantity" with
  | .error _ => failed_poll exc order
  | .ok cum =>
      let order := { order with fill_qty := raised_fill order.fill_qty cum }
      match polled_value response payload "avgPx" with
      | .error _ => failed_poll exc order
      | .ok avg_px =>
          let price := polled_price avg_px
          if price > 0 then { order with fill_price := price.toNNRat } else order

/-- The status word of a poll. -/
def polled_word (payload : Json ℚ) : String :=
  (payload.getD "state" (payload.getD "status" (.str "" none))).text spelled

/-- `get_order`: `answer` is what the client ends with, nothing where it has no such
    method. `exc` is the text of an exception that reading the answer raises. -/
def get_order (answer : Option (Except String (Json ℚ))) (exc : String) (order : Order ℚ) :
    Order ℚ :=
  let unknown : Order ℚ := { order with idempotency_ambiguous := true }
  match answer with
  | none => unknown
  | some (.error exc) => failed_poll exc order
  | some (.ok response) =>
      if response.is_obj then
        let payload := response.getD "order" response
        if payload.is_obj then
          let api_status := (polled_word spelled payload).toUpper
          -- without a word for its status nothing is known of the order
          if api_status = "" then unknown
          else
            polled_fill response payload exc
              { order with status := map_status api_status order.status }
        else failed_poll exc order
      else unknown

end get_order

end PolymarketUs
