import Arbiter.Adapters.PolymarketUs

/-! # The ForecastEx Adapter

  What the adapter makes of the answers of the broker. An acknowledgement comes bare or
  wrapped in a list, and spells its fields in several ways. The broker's id of an order is
  looked for in the acknowledgement and among the live orders; where neither has it, the
  order is lost.

  A price below zero counts as zero.
-/

namespace Forecastex

open Execution
open PolymarketUs (Raised check_gates)

/-! ## Section 1: Statuses and counts -/

/-- `_map_status`. -/
def map_status (api_status : String) (default : OrderStatus) : OrderStatus :=
  let normalized := String.ofList (api_status.toUpper.toList.filter fun c => c ≠ '_')
  if normalized ∈ ["FILLED", "EXECUTED"] then .filled
  else if normalized ∈ ["PARTIALLYFILLED", "PARTIAL"] then .partialFill
  else if normalized ∈ ["CANCELLED", "CANCELED", "EXPIRED", "INACTIVE", "REPLACED"] then
    .cancelled
  else if normalized = "REJECTED" then .failed
  else if normalized ∈ ["SUBMITTED", "PRESUBMITTED", "PENDINGSUBMIT", "OPEN", "WORKING"] then
    .submitted
  -- An unknown word is no open order.
  else if default = .submitted then .failed
  else default

/-- `int(q)`: towards zero. -/
def int (q : ℚ) : ℤ := if 0 ≤ q then ⌊q⌋ else ⌈q⌉

/-- A price in dollars; above one it is in cents. -/
def normalized_price (avg_px : ℚ) : ℚ := if avg_px ≤ 1 then avg_px else avg_px / 100

/-- The keys of an average price. -/
def price_keys : List String := ["avg_price", "avgPrice", "avgFillPrice", "average_price"]

/-- `_snap_to_tick`. -/
def snap_to_tick (price : ℚ≥0) : ℚ≥0 :=
  let clipped := max (1 / 100) (min price (99 / 100))
  let snapped : ℚ≥0 := Decimal.round_half_even (clipped * 100) / 100
  Decimal.round_half_even (max (1 / 100) (min snapped (99 / 100)) * 10000) / 10000

/-! ## Section 2: `place_fok` and `place_ioc` -/

/-- What `place_order` of the client can raise, with its text. -/
inductive ClientRaised
  /-- `OrderRejected`. -/
  | rejected (text : String)
  | other (text : String)

/-- What a placement is checked against. -/
structure Config where
  phase4_max_usd : Option ℚ
  phase5_max_usd : Option ℚ
  /-- There is a supervisor, and it is armed. -/
  armed : Bool
  max_affordable : Option ℚ

/-- What `_submit` refuses the request with. `op` is the name of the placement. -/
def refusal (cfg : Config) (op : String) (req : OrderRequest) : Option String :=
  let gates := check_gates cfg.phase4_max_usd cfg.phase5_max_usd cfg.armed (req.price * req.qty)
  let no_market :=
    if Text.strip req.market_id ∈ ["", "0", "None"] then
      some ("forecastex " ++ op ++ " refused: empty market_id (side='" ++ req.side.text ++
        "'); collector likely failed NO-conid discovery — investigate before retrying")
    else none
  let snapped := snap_to_tick req.price
  let unaffordable := cfg.max_affordable.bind fun max_affordable =>
    if (snapped : ℚ) > max_affordable + 1 / 1000000000 then
      some ("forecastex price " ++ Decimal.fixed 4 snapped ++ " > max_affordable " ++
        Decimal.fixed_signed 4 max_affordable)
    else none
  (gates.or no_market).or unaffordable

/-- An order the adapter has no id for. -/
def lost_order (req : OrderRequest) (price : ℚ≥0) (error : String) : Order ℚ :=
  { order_id := req.arb_id ++ "-" ++ req.side.upper ++ "-FCST-NOID", platform := "forecastex"
    market_id := req.market_id, canonical_id := req.canonical_id, side := req.side
    price, quantity := req.qty, status := .failed, fill_price := 0, fill_qty := 0, error
    external_client_order_id := none, idempotency_ambiguous := false }

/-- What a wrapper holds: the first of a list under the key, where it is an object. -/
def unwrapped (key : String) (response : Json ℚ) : Json ℚ :=
  match response.get key with
  | .arr (first :: _) => if first.is_obj then first else response
  | _ => response

/-- The acknowledgement itself, out of its wrappers. -/
def acknowledgement (response : Json ℚ) : Json ℚ :=
  unwrapped "orders" (unwrapped "items" (if response.is_obj then response else .obj []))

/-- The fill of an acknowledgement. -/
def ack_fill (ack : Json ℚ) : ℚ :=
  (ack.first ["filled_quantity", "filledQuantity", "cumQty"] (.num 0)).float.getD 0

/-- The acknowledgement has one of the keys that may spell out a zero. -/
def has_fill (ack : Json ℚ) : Bool :=
  ["filled_qty", "filledQty", "filled_quantity", "filledQuantity", "cumQty", "cum_fill"].any
    fun key => (ack.get? key).isSome

section place

variable (spelled : Json ℚ → String)

/-- The status word of an acknowledgement. -/
def ack_word (ack : Json ℚ) : String :=
  (ack.first ["order_status", "orderStatus", "status"] (.str "SUBMITTED" none)).text spelled

/-- `_order_from_response`, of the acknowledgement itself. -/
def order_from_response (req : OrderRequest) (price : ℚ≥0) (broker_order_id : String)
    (ack : Json ℚ) : Order ℚ :=
  let mapped := map_status (ack_word spelled ack).toUpper .submitted
  let avg_px := normalized_price ((ack.first price_keys (.num 0)).float.getD 0)
  let unfilled := mapped = .filled ∧ ack_fill ack = 0
  { order_id := broker_order_id, platform := "forecastex"
    market_id := req.market_id, canonical_id := req.canonical_id, side := req.side
    price, quantity := req.qty
    -- A zero that is spelled out is a kill; without a count it is a full fill.
    status := if unfilled ∧ has_fill ack then .cancelled else mapped
    fill_price := if avg_px = 0 then price else avg_px.toNNRat
    fill_qty := if unfilled ∧ ¬ has_fill ack then req.qty else int (ack_fill ack)
    error := "", external_client_order_id := none, idempotency_ambiguous := false }

/-- `_submit`, for `place_fok` and `place_ioc`: `op` is which. `answer` is what the client
    ends with; `broker_order_id` is the id found in the answer, else among the live
    orders. -/
def submit (cfg : Config) (op : String) (req : OrderRequest)
    (answer : Except ClientRaised (Json ℚ)) (broker_order_id : Option String) :
    Except Raised (Order ℚ) :=
  match refusal cfg op req with
  | some text => .error (.rejected text)
  | none =>
      let snapped := snap_to_tick req.price
      match answer with
      -- a rejection is raised on; anything else may have reached the venue
      | .error (.rejected text) => .error (.rejected text)
      | .error (.other exc) =>
          .ok (lost_order req req.price ("forecastex place_order failed: " ++ exc))
      | .ok response =>
          match broker_order_id with
          | none =>
              .ok (lost_order req snapped
                ("forecastex broker_id unrecoverable from ack and live-orders lookup; " ++
                  "order MAY be live at IBKR — operator review required"))
          | some broker_order_id =>
              .ok (order_from_response spelled req snapped broker_order_id
                (acknowledgement response))

end place

/-! ## Section 3: `get_order` -/

section get_order

variable (spelled : Json ℚ → String)

/-- `_looks_like_synthetic_id`. -/
def looks_like_synthetic_id (order_id : String) : Bool :=
  order_id = "" || "ARB-".toList.isPrefixOf order_id.toList &&
    (Text.ends_with "-FCST-NOID" order_id || Text.ends_with "-FCST" order_id)

/-- The entry of an answer that is read: the last of a list. -/
def entry (payload : Json ℚ) : Json ℚ :=
  match payload with
  | .arr items => items.getLast?.getD payload
  | _ => payload

/-- The status word of an entry. -/
def status_word (payload : Json ℚ) : String :=
  (payload.first ["status", "order_status", "orderStatus"] (.str "" none)).text spelled

/-- The fill after a poll: a zero, or a count that does not convert, leaves it. -/
def polled_fill (payload : Json ℚ) (fill_qty : ℚ) : ℚ :=
  let count := (payload.first ["filled_quantity", "filledQuantity", "cumQty", "cum_fill"]
    (.num 0)).float.getD 0
  if count = 0 then fill_qty else int count

/-- The fill price after a poll. An exit that bought the sibling reads it inverted. -/
def polled_price (payload : Json ℚ) (inverted : Bool) (fill_price : ℚ≥0) : ℚ≥0 :=
  let avg_px := (payload.first price_keys (.num 0)).float.getD 0
  if avg_px = 0 then fill_price
  else if inverted then (Decimal.round_to 4 (1 - normalized_price avg_px)).toNNRat
  else (normalized_price avg_px).toNNRat

/-- `get_order`: `answer` is what the client ends with; `inverted` says that the order is
    one of `_inverted_exits`. -/
def get_order (answer : Except String (Json ℚ)) (inverted : Bool) (order : Order ℚ) : Order ℚ :=
  let unknown : Order ℚ := { order with idempotency_ambiguous := true }
  if looks_like_synthetic_id order.order_id then unknown
  else
    match answer with
    | .error exc => { unknown with error := "get_order failed: " ++ exc }
    | .ok answer =>
        let payload := entry answer
        if payload.is_obj && payload.truthy then
          let api_status := (status_word spelled payload).toUpper
          if api_status = "" then unknown
          else
            { order with
              status := map_status api_status order.status
              fill_qty := polled_fill payload order.fill_qty
              fill_price := polled_price payload inverted order.fill_price }
        else unknown

end get_order

end Forecastex
