import Arbiter.Framework.Json
import Arbiter.Adapters.Polymarket

/-! # The Kalshi Adapter

  What the adapter makes of Kalshi's answers. `get_order` writes into the order it is
  given, also where no answer came. `place_fok` makes a new one, of whatever shape the
  answer has. A price below zero counts as zero.
-/

namespace Kalshi

open Execution

/-! ## Section 1: Answers -/

/-- An HTTP answer on an order. -/
structure Response (Q : Type) where
  status_code : ℕ
  payload : String
  /-- What `json.loads` makes of the payload, where it does not raise. -/
  json : Option (Json Q)
  /-- The penalty of the rate limiter, as errors print it. -/
  penalty_text : String
  /-- The text of an exception the parse of the payload raises. -/
  parse_exc : String

/-- `_FOK_STATUS_MAP`. -/
def fok_status_map : String → Option OrderStatus
  | "executed" => some .filled
  | "canceled" => some .cancelled
  | "cancelled" => some .cancelled
  | "pending" => some .pending
  | "resting" => some .submitted
  | _ => none

/-- `_FOK_STATUS_MAP.get(api_status, SUBMITTED)`: a list or an object is no key. -/
def mapped_status {Q : Type} : Json Q → Option OrderStatus
  | .str s _ => some ((fok_status_map s).getD .submitted)
  | .arr _ => none
  | .obj _ => none
  | _ => some .submitted

/-! ## Section 2: `get_order` -/

section get_order

variable {Q : Type} [Zero Q] [One Q] [DecidableEq Q]

/-- `data.get("order", data)` of an object, else an empty one. -/
def order_data (data : Json Q) : Json Q :=
  if data.is_obj then data.getD "order" data else .obj []

/-- The count of the order, the fill it had where there is none. -/
def fill_count (data : Json Q) (fill_qty : Q) : Option Q :=
  ((data.getD "fill_count_fp" (data.getD "count_filled" (.num fill_qty))).orElse
    (.num fill_qty)).float

/-- The order as a payload has it. -/
def read_payload (response : Response Q) (order : Order Q) : Order Q :=
  let failed_parse (order : Order Q) : Order Q :=
    { order with error := "Kalshi get_order parse: " ++ response.parse_exc }
  match response.json with
  | none => failed_parse order
  | some data =>
      if (order_data data).is_obj then
        match mapped_status ((order_data data).getD "status" (.str "resting" none)) with
        | none => failed_parse order
        | some status =>
            let order := { order with status := status }
            match fill_count (order_data data) order.fill_qty with
            | none => failed_parse order
            | some fill_qty => { order with fill_qty := fill_qty }
      else failed_parse order

/-- `get_order`: `answer` is what `_fetch_order` ends with. -/
def get_order (authenticated : Bool) (answer : Except String (Response Q)) (order : Order Q) :
    Order Q :=
  if authenticated then
    match answer with
    | .error exc =>
        { order with status := .failed, error := "Kalshi get_order exception: " ++ exc }
    | .ok response =>
        if response.status_code = 429 then
          { order with
            status := .failed, error := "rate_limited (" ++ response.penalty_text ++ "s)" }
        else if response.status_code = 404 then
          { order with status := .failed, error := "not found on platform" }
        else if response.status_code ≠ 200 ∧ response.status_code ≠ 201 then
          { order with
            status := .failed
            error := "Kalshi get_order " ++ toString response.status_code ++ ": " ++
              String.ofList (response.payload.toList.take 200) }
        else read_payload response order
  else { order with status := .failed, error := "Kalshi auth not configured for get_order" }

/-- Kalshi answered with the order. -/
def reported (authenticated : Bool) (answer : Except String (Response Q)) : Bool :=
  authenticated && match answer with
    | .error _ => false
    | .ok response => response.status_code = 200 || response.status_code = 201

/-- Whatever Kalshi did not answer is FAILED, with the fill the order had. -/
theorem get_order_unreported {authenticated : Bool} {answer : Except String (Response Q)}
    (h : reported authenticated answer = false) (order : Order Q) :
    (get_order authenticated answer order).status = .failed ∧
      (get_order authenticated answer order).fill_qty = order.fill_qty ∧
      (get_order authenticated answer order).idempotency_ambiguous =
        order.idempotency_ambiguous := by
  unfold get_order
  cases authenticated with
  | false => exact ⟨rfl, rfl, rfl⟩
  | true =>
    rw [if_pos rfl]
    cases answer with
    | error exc => exact ⟨rfl, rfl, rfl⟩
    | ok response =>
      have hcode : response.status_code ≠ 200 ∧ response.status_code ≠ 201 := by
        have hno : (response.status_code = 200 || response.status_code = 201) = false := h
        simpa using hno
      dsimp only
      rw [if_pos hcode]
      split_ifs <;> exact ⟨rfl, rfl, rfl⟩

end get_order

/-! ## Section 3: `place_fok` and `place_ioc` -/

/-- What the POST can raise, with its text. -/
inductive Raised
  /-- One of `TRANSIENT_EXCEPTIONS`, after the retries. -/
  | transient (text : String)
  | other (text : String)

/-- What a placement finds before it sends anything. A limit is unset, or set to a text
    that may not be a number. -/
structure Config where
  authenticated : Bool
  /-- `circuit.can_execute`. -/
  can_execute : Bool
  /-- `PHASE4_MAX_ORDER_USD`. -/
  phase4_max_order_usd : Option (Option ℚ)
  /-- `PHASE5_MAX_ORDER_USD`. -/
  phase5_max_order_usd : Option (Option ℚ)
  /-- The price asked for, as errors print it. -/
  price_text : String
  /-- `uuid.uuid4().hex`. -/
  uuid : String

/-- `_failed_order`. -/
def failed_order (req : OrderRequest) (error : String) : Order ℚ :=
  { order_id := req.arb_id ++ "-" ++ req.side.upper ++ "-KALSHI", platform := "kalshi"
    market_id := req.market_id, canonical_id := req.canonical_id, side := req.side
    price := req.price, quantity := req.qty, status := .failed, fill_price := 0, fill_qty := 0
    error, external_client_order_id := none, idempotency_ambiguous := false }

/-- What a placement is refused with before anything is sent. -/
def refusal (cfg : Config) (req : OrderRequest) : Option String :=
  if cfg.authenticated then
    if 0 < req.price ∧ req.price < 1 then
      if cfg.can_execute then
        (Polymarket.hard_lock "PHASE4" cfg.phase4_max_order_usd req).or
          (Polymarket.hard_lock "PHASE5" cfg.phase5_max_order_usd req)
      else some "kalshi circuit open"
    else some ("Invalid price " ++ cfg.price_text ++ ": must be between 0 and 1 exclusive")
  else some "Kalshi auth not configured"

/-- The idempotency key of a placement. -/
def client_order_id (cfg : Config) (req : OrderRequest) : String :=
  req.arb_id ++ "-" ++ req.side.upper ++ "-" ++ String.ofList (cfg.uuid.toList.take 8)

/-- `_float_from_order`: the first value under the keys that converts. -/
def float_from_order (order_data : Json ℚ) (keys : List String) : ℚ :=
  (keys.findSome? fun key => (order_data.get key).float).getD 0

/-- The contracts a payload reports filled. -/
def fill_qty (order_data : Json ℚ) : ℚ :=
  float_from_order order_data ["fill_count", "fill_count_fp", "count_filled"]

/-- The contracts a payload reports still open. -/
def remaining_qty (order_data : Json ℚ) : ℚ :=
  float_from_order order_data ["remaining_count", "remaining_count_fp", "count_remaining"]

/-- `_extract_fill_price`. -/
def extract_fill_price (order_data : Json ℚ) (side : Side) (fill_qty fallback : ℚ) : ℚ :=
  let by_cost := (order_data.get "taker_fill_cost_dollars").float.bind fun cost =>
    if 0 < fill_qty ∧ 0 < cost then some (cost / fill_qty) else none
  -- The average is quoted on the YES book, whichever side was bought.
  let by_average := (order_data.get "average_fill_price").float.map fun avg_fill =>
    if side = .no then 1 - avg_fill else avg_fill
  let side_key := if side = .no then "no_price_dollars" else "yes_price_dollars"
  let by_side := (order_data.get side_key).float
  (((by_cost.or by_average).or by_side).or (order_data.get "avg_price").float).getD fallback

section place

variable (spelled : Json ℚ → String)

/-- `_map_order_status_from_counts`: by the status word, where there is one. -/
def map_order_status_from_counts (order_data : Json ℚ) (target_qty : ℕ) : OrderStatus :=
  let api_status := order_data.get "status"
  if api_status.truthy then (fok_status_map (api_status.text spelled)).getD .submitted
  else if fill_qty order_data ≥ max ((target_qty : ℚ) - 1 / 1000000000) 0 then .filled
  else if fill_qty order_data > 0 then .partialFill
  else if remaining_qty order_data > 0 then .submitted
  else .cancelled

/-- The order on a payload. -/
def placed_order (cfg : Config) (req : OrderRequest) (order_data : Json ℚ) : Order ℚ :=
  let fill_price := extract_fill_price order_data req.side (fill_qty order_data) req.price
  let order_id := order_data.getD "order_id" (.str (client_order_id cfg req) none)
  { order_id := order_id.text spelled, platform := "kalshi"
    market_id := req.market_id, canonical_id := req.canonical_id, side := req.side
    price := req.price, quantity := req.qty
    status := map_order_status_from_counts spelled order_data req.qty
    fill_price := fill_price.toNNRat, fill_qty := fill_qty order_data, error := ""
    external_client_order_id := some (client_order_id cfg req), idempotency_ambiguous := false }

/-- `place_fok`, and `place_ioc`: they differ in what they post. `answer` is what
    `_post_order` ends with. There is no order where the call raises, on an `order` in
    the payload that is no object. -/
def place_fok (cfg : Config) (req : OrderRequest) (answer : Except Raised (Response ℚ)) :
    Option (Order ℚ) :=
  match refusal cfg req with
  | some error => some (failed_order req error)
  | none =>
      match answer with
      | .error (.transient exc) =>
          some (failed_order req ("Kalshi transient (retries exhausted): " ++ exc))
      | .error (.other exc) => some (failed_order req ("Kalshi request exception: " ++ exc))
      | .ok response =>
          if response.status_code = 429 then
            some (failed_order req ("rate_limited (" ++ response.penalty_text ++ "s)"))
          else if response.status_code ≠ 200 ∧ response.status_code ≠ 201 then
            some (failed_order req ("Kalshi API " ++ toString response.status_code ++ ": " ++
              String.ofList (response.payload.toList.take 200)))
          else
            match response.json with
            | none => some (failed_order req ("Kalshi response parse: " ++ response.parse_exc))
            | some data =>
                if (order_data data).is_obj then
                  some (placed_order spelled cfg req (order_data data))
                else none

end place

end Kalshi
