import Arbiter.Framework.Decimal
import Arbiter.Framework.Json
import Arbiter.Framework.Text
import Arbiter.Execution.Calls

/-! # The Legacy Polymarket Adapter

  `place_fok` submits a fill-or-kill order up to three times. Polymarket takes no
  idempotency key, so the adapter lists the open orders of the token before every
  attempt and takes one that looks like its own for an attempt that went through.

  Calls of the SDK and of the circuit breaker are the environment's. Logging and
  timestamps are left out.
-/

namespace Polymarket

open Effect Execution

/-! ## Section 1: Calls -/

/-- What an SDK call can raise, with its text. -/
inductive Raised
  | timeout (text : String)
  | other (text : String)

/-- `OrderArgs`. -/
structure OrderArgs where
  token_id : String
  price : ℚ
  size : ℕ
  side : String

/-- An order as it goes out. -/
structure SignedOrder where
  args : OrderArgs
  signature : String

/-- External calls. -/
inductive Call
  /-- `circuit.can_execute`. -/
  | can_execute
  | record_success
  | record_failure
  /-- `rate_limiter.acquire`. -/
  | acquire
  /-- `rate_limiter.apply_retry_after`: the penalty in seconds. -/
  | apply_retry_after
  /-- The open orders on a token. An object of the SDK counts as its attributes. -/
  | get_orders (market : String)
  /-- Signs an order, sends nothing. -/
  | create_order (args : OrderArgs)
  | post_order (order : SignedOrder)
  | sleep (seconds : ℚ)

/-- What each call answers. -/
@[reducible] def Answer : Call → Type
  | .can_execute => Bool
  | .record_success => Unit
  | .record_failure => Unit
  | .acquire => Unit
  | .apply_retry_after => ℚ
  | .get_orders _ => Except Raised (List (Json ℚ))
  | .create_order _ => Except Raised String
  | .post_order _ => Except Raised (Json ℚ)
  | .sleep _ => Unit

/-- Programs of the adapter. -/
abbrev Sdk := Prog Call Answer

/-- What the adapter is configured with. A limit is unset, or set to a text that may
    not be a number. -/
structure Config where
  has_private_key : Bool
  /-- `clob_client_factory` returns a client. -/
  has_client : Bool
  /-- `PHASE4_MAX_ORDER_USD`. -/
  phase4_max_order_usd : Option (Option ℚ)
  /-- `PHASE5_MAX_ORDER_USD`. -/
  phase5_max_order_usd : Option (Option ℚ)

/-! ## Section 2: Orders -/

section orders

variable (spelled : Json ℚ → String)

/-- The order id of an order Polymarket named none for. -/
def made_up_id (req : OrderRequest) : String := req.arb_id ++ "-" ++ req.side.upper ++ "-POLY"

/-- An order on a request. -/
def order_for (req : OrderRequest) (order_id : String) (status : OrderStatus)
    (fill_price : ℚ≥0) (fill_qty : ℚ) (error : String) : Order ℚ :=
  { order_id, platform := "polymarket", market_id := req.market_id
    canonical_id := req.canonical_id, side := req.side, price := req.price
    quantity := req.qty, status, fill_price, fill_qty, error
    external_client_order_id := none, idempotency_ambiguous := false }

/-- `_failed_order`. -/
def failed_order (req : OrderRequest) (error : String) : Order ℚ :=
  order_for req (made_up_id req) .failed 0 0 error

/-- The status map of `_order_from_response`. -/
def response_status : String → OrderStatus
  | "matched" => .filled
  | "filled" => .filled
  | "executed" => .filled
  | "canceled" => .cancelled
  | "cancelled" => .cancelled
  | "rejected" => .failed
  | _ => .submitted

/-- The id an answer gives the order. -/
def response_order_id (req : OrderRequest) (response : Json ℚ) : String :=
  (response.getD "orderID" (response.getD "id" (.str (made_up_id req) none))).text spelled

/-- `_order_from_response`. An answer that is no object has no keys. -/
def order_from_response (req : OrderRequest) (response : Json ℚ) : Order ℚ :=
  if (response.getD "success" (.bool true)).truthy then
    let api_status := ((response.getD "status" (.str "matched" none)).text spelled).toLower
    let fill_qty := (response.getD "size_matched" (.num req.qty)).float.getD req.qty
    order_for req (response_order_id spelled req response) (response_status api_status) req.price
      fill_qty ""
  else
    failed_order req ((response.getD "errorMsg" (.str "Order rejected" none)).text spelled)

/-- The id of an open order. -/
def record_order_id (req : OrderRequest) (record : Json ℚ) : String :=
  (record.getD "id" (record.getD "orderID" (.str (made_up_id req) none))).text spelled

/-- `_order_from_record`. A price is never negative. -/
def order_from_record (req : OrderRequest) (record : Json ℚ) : Order ℚ :=
  let fill_price := (record.getD "price" (.num req.price)).float.getD req.price
  let fill_qty := (((record.getD "size_matched" (record.getD "filled" (.num 0))).orElse
    (.num 0)).float).getD 0
  order_for req (record_order_id spelled req record) .submitted fill_price.toNNRat fill_qty ""

/-- `_poly_side`. -/
def poly_side (side : String) : String :=
  let s := side.toUpper
  if s = "BUY" ∨ s = "SELL" then s else "BUY"

/-- An open order looks like the one asked for. -/
def looks_alike (req : OrderRequest) (record : Json ℚ) : Bool :=
  match ((record.getD "price" (.num 0)).orElse (.num 0)).float,
      ((record.getD "size" (.num 0)).orElse (.num 0)).float with
  | some price, some size =>
      |price - req.price| < 1 / 100 && size = req.qty &&
        ((record.getD "side" (.str "" none)).text spelled).toUpper = poly_side req.side.text
  | _, _ => false

/-- `_match_existing`. -/
def match_existing (existing : List (Json ℚ)) (req : OrderRequest) : Option (Json ℚ) :=
  existing.find? (looks_alike spelled req)

end orders

/-! ## Section 3: Placing an order -/

section place

variable (spelled : Json ℚ → String)

/-- `_is_rate_limit_error`. -/
def is_rate_limit_error (exc : String) : Bool :=
  let msg := exc.toLower
  Text.occurs "429" msg || Text.occurs "rate limit" msg || Text.occurs "rate_limit" msg ||
    Text.occurs "too many requests" msg

/-- The order as it is asked for. -/
def order_args (req : OrderRequest) : OrderArgs :=
  { token_id := req.market_id, price := Decimal.round_to 2 req.price, size := req.qty
    side := poly_side req.side.text }

/-- Sign the order and post it. -/
def submit (req : OrderRequest) : Sdk (Except Raised (Json ℚ)) := do
  let _ ← .send Call.acquire
  match ← .send (Call.create_order (order_args req)) with
  | .error exc => pure (.error exc)
  | .ok signature => .send (Call.post_order ⟨order_args req, signature⟩)

/-- An exception that is no timeout ends the call. -/
def give_up (req : OrderRequest) (exc : String) : Sdk (Order ℚ) := do
  if is_rate_limit_error exc then
    let delay ← .send Call.apply_retry_after
    let _ ← .send Call.record_failure
    pure (failed_order req ("rate_limited (" ++ Decimal.fixed_signed 1 (min delay 60) ++ "s)"))
  else
    let _ ← .send Call.record_failure
    pure (failed_order req ("Polymarket order exception: " ++ exc))

/-- The attempts of `_place_fok_reconciling` from `attempt` on. -/
def attempts (req : OrderRequest) : ℕ → ℕ → String → Sdk (Order ℚ)
  | 0, _, last_exc => do
      let _ ← .send Call.record_failure
      pure (failed_order req ("Polymarket max attempts exhausted (last_exc=" ++ last_exc ++ ")"))
  | left + 1, attempt, _ => do
      let listing ← .send (Call.get_orders req.market_id)
      -- a listing that raises counts as empty
      match match_existing spelled (listing.toOption.getD []) req with
      | some record => pure (order_from_record spelled req record)
      | none =>
          match ← submit req with
          | .ok response =>
              let _ ← .send Call.record_success
              pure (order_from_response spelled req response)
          -- only a timeout is tried again
          | .error (.timeout exc) =>
              let _ ← .send (Call.sleep (1 / 2 * 2 ^ attempt))
              attempts req left (attempt + 1) exc
          | .error (.other exc) => give_up req exc

/-- `_place_fok_reconciling`. -/
def place_fok_reconciling (req : OrderRequest) (max_attempts : ℕ) : Sdk (Order ℚ) :=
  attempts spelled req max_attempts 0 "None"

/-- The hard lock of one phase: what it refuses the request with. -/
def hard_lock (phase : String) (limit : Option (Option ℚ)) (req : OrderRequest) :
    Option String :=
  limit.bind fun read =>
    let max_order_usd := read.getD 0
    let notional_usd := req.qty * req.price
    if (notional_usd : ℚ) > max_order_usd then
      some (phase ++ "_MAX_ORDER_USD hard-lock: notional $" ++ Decimal.fixed 2 notional_usd ++
        " > $" ++ Decimal.fixed_signed 2 max_order_usd)
    else none

/-- `place_fok`. -/
def place_fok (cfg : Config) (req : OrderRequest) : Sdk (Order ℚ) := do
  if cfg.has_private_key then
    if ← .send Call.can_execute then
      if cfg.has_client then
        match (hard_lock "PHASE4" cfg.phase4_max_order_usd req).or
            (hard_lock "PHASE5" cfg.phase5_max_order_usd req) with
        | some error => pure (failed_order req error)
        | none => place_fok_reconciling spelled req 3
      else pure (failed_order req "Unable to initialize Polymarket client")
    else pure (failed_order req "polymarket circuit open")
  else pure (failed_order req "Polymarket wallet not configured")

end place

/-! ## Section 4: `get_order` -/

section get_order

variable (spelled : Json ℚ → String)

/-- The status map of `get_order`; a word it does not know leaves the status. -/
def record_status (status : OrderStatus) : String → OrderStatus
  | "matched" => .filled
  | "filled" => .filled
  | "executed" => .filled
  | "canceled" => .cancelled
  | "cancelled" => .cancelled
  | "live" => .submitted
  | "open" => .submitted
  | _ => status

/-- The fill a record gives, the fill the order had where it gives none. -/
def record_fill (record : Json ℚ) (fill_qty : ℚ) : ℚ :=
  ((record.getD "size_matched" (record.getD "filled" (.num fill_qty))).orElse
    (.num fill_qty)).float.getD fill_qty

/-- `get_order`: `answer` is what the SDK ends with, null where it has no order, and
    `delay` the penalty of the rate limiter. -/
def get_order (has_client : Bool) (answer : Except String (Json ℚ)) (delay : ℚ)
    (order : Order ℚ) : Order ℚ :=
  if has_client then
    match answer with
    | .error exc =>
        if is_rate_limit_error exc then
          { order with
            status := .failed
            error := "rate_limited (" ++ Decimal.fixed_signed 1 (min delay 60) ++ "s)" }
        else { order with status := .failed, error := "Polymarket get_order exception: " ++ exc }
    | .ok .null => { order with status := .failed, error := "not found on platform" }
    | .ok record =>
        let api_status := ((record.getD "status" (.str "" none)).text spelled).toLower
        { order with
          status := record_status order.status api_status
          fill_qty := record_fill record order.fill_qty }
  else { order with status := .failed, error := "Polymarket client unavailable for get_order" }

end get_order

end Polymarket
