import Arbiter.Adapters.ForecastexSiblings
import Arbiter.Adapters.Polymarket

/-! # Unwinding a Leg

  `place_unwind_sell` of the four adapters, up to the order that is sent, and the least a
  contract is sold for under that order. No caller passes a price: the default is a cent.

  ## Contents

  - Section 1: the orders.
  - Section 2: the limit of each.
-/

namespace Unwind

open Execution

/-! ## Section 1: Orders -/

/-- `panic_price`, the default of every adapter. -/
def panic_price : ℚ≥0 := 1 / 100

/-- A call of `place_unwind_sell`. The side is the one that was bought. -/
structure Request where
  market_id : String
  side : Side
  qty : ℕ
  deriving DecidableEq

/-- The body of Kalshi's `_event_order_body`: everything is quoted on the YES book. -/
structure KalshiOrder where
  ticker : String
  side : String
  count : ℕ
  price : ℚ
  time_in_force : String
  deriving DecidableEq

/-- `_book_side_for` of a sale. -/
def book_side_for_sell (outcome_side : Side) : String :=
  match outcome_side with
  | .yes => "ask"
  | .no => "bid"

/-- `_book_price_for`. -/
def book_price_for (outcome_side : Side) (outcome_price : ℚ) : ℚ :=
  match outcome_side with
  | .yes => outcome_price
  | .no => 1 - outcome_price

/-- `KalshiAdapter.place_unwind_sell`. -/
def kalshi (req : Request) : KalshiOrder where
  ticker := req.market_id
  side := book_side_for_sell req.side
  count := req.qty
  price := Decimal.round_to 4 (book_price_for req.side panic_price)
  time_in_force := "immediate_or_cancel"

/-- `PolymarketAdapter.place_unwind_sell`. -/
def polymarket (req : Request) : Polymarket.OrderArgs where
  token_id := req.market_id
  price := Decimal.round_to 2 panic_price
  size := req.qty
  side := "SELL"

/-- What `place_order` of the Polymarket US client is called with. -/
structure UsOrder where
  slug : String
  intent : String
  price : ℚ
  qty : ℕ
  tif : String
  deriving DecidableEq

/-- `_us_order_params` of a sale: every price goes out on the YES scale. -/
def us_sell_params (side : Side) (price : ℚ≥0) : String × ℚ :=
  let clipped_price : ℚ := min price 1
  match side with
  | .yes => ("SELL_LONG", clipped_price)
  | .no => ("SELL_SHORT", max (1 - clipped_price) 0)

/-- `PolymarketUSAdapter.place_unwind_sell`, on a market with this tick. -/
def polymarket_us (tick : ℚ) (req : Request) : UsOrder where
  slug := req.market_id
  intent := (us_sell_params req.side panic_price).1
  price := PolymarketUs.snap_to_tick (us_sell_params req.side panic_price).2 tick
  qty := req.qty
  tif := "IMMEDIATE_OR_CANCEL"

/-- `ForecastexAdapter.place_unwind_sell`: the sibling is bought. -/
def forecastex (req : Request) : Forecastex.Exit where
  market_id := req.market_id
  price := panic_price
  qty := req.qty
  tif := "IOC"

deriving instance DecidableEq for Polymarket.OrderArgs, Forecastex.Routed

/-- An order on its way to a venue. -/
inductive Wire
  | kalshi (order : KalshiOrder)
  | polymarket (order : Polymarket.OrderArgs)
  | polymarket_us (order : UsOrder)
  | forecastex (order : Forecastex.Routed)
  deriving DecidableEq

/-- What the adapter of a platform sends for a request, if it sends anything. -/
inductive Sends (us : Bool) (tick : ℚ) : String → Request → Wire → Prop
  | kalshi {req : Request} : Sends us tick "kalshi" req (.kalshi (kalshi req))
  | polymarket {req : Request} (h : us = false) :
      Sends us tick "polymarket" req (.polymarket (polymarket req))
  | polymarket_us {req : Request} (h : us = true) :
      Sends us tick "polymarket" req (.polymarket_us (polymarket_us tick req))
  | forecastex {req : Request} {spelled : Json ℚ → String} {gw : Forecastex.Gateway}
      {s : Forecastex.ExitDesk} {routed : Forecastex.Routed}
      (h : (Forecastex.submit_sell spelled gw s (forecastex req)).sent = routed :: s.sent) :
      Sends us tick "forecastex" req (.forecastex routed)

/-! ## Section 2: Limits -/

/-- The number of contracts of an order. -/
def Wire.qty : Wire → ℕ
  | .kalshi order => order.count
  | .polymarket order => order.size
  | .polymarket_us order => order.qty
  | .forecastex order => order.quantity

/-- The least that is got for a contract of the side, at the price of the order. -/
def Wire.limit (side : Side) : Wire → ℚ
  | .kalshi order => book_price_for side order.price
  | .polymarket order => order.price
  | .polymarket_us order =>
      if order.intent = "SELL_SHORT" then max (1 - order.price) 0 else order.price
  | .forecastex order => 1 - order.price

/-- The limit of an exit: a cent. Polymarket US snaps it to the tick, on the YES scale. -/
def exit_limit (us : Bool) (tick : ℚ) (platform : String) (side : Side) : ℚ :=
  if platform = "polymarket" ∧ us = true then
    match side with
    | .yes => PolymarketUs.snap_to_tick (1 / 100) tick
    | .no => max (1 - PolymarketUs.snap_to_tick (99 / 100) tick) 0
  else 1 / 100

theorem us_sell_params_yes : us_sell_params .yes panic_price = ("SELL_LONG", 1 / 100) := by
  decide +kernel

theorem us_sell_params_no : us_sell_params .no panic_price = ("SELL_SHORT", 99 / 100) := by
  decide +kernel

/-- A cent and its complement have no more than four decimals. -/
theorem book_price_twice (side : Side) :
    book_price_for side (Decimal.round_to 4 (book_price_for side panic_price)) = 1 / 100 := by
  cases side <;> decide +kernel

theorem polymarket_us_limit (tick : ℚ) (req : Request) :
    (Wire.polymarket_us (polymarket_us tick req)).limit req.side =
      exit_limit true tick "polymarket" req.side := by
  unfold Wire.limit polymarket_us exit_limit
  cases req.side with
  | yes => simp [us_sell_params_yes]
  | no => simp [us_sell_params_no]

section routed

variable {spelled : Json ℚ → String} {gw : Forecastex.Gateway} {s : Forecastex.ExitDesk}
  {req : Request} {routed : Forecastex.Routed}

theorem snapped_twice :
    Forecastex.snap_to_tick (1 - Forecastex.snap_to_tick panic_price) = 99 / 100 := by
  decide +kernel

/-- The purchase of the sibling, at 99 cents. -/
theorem routed_eq
    (h : (Forecastex.submit_sell spelled gw s (forecastex req)).sent = routed :: s.sent) :
    routed.price = 99 / 100 ∧ routed.quantity = req.qty := by
  unfold Forecastex.submit_sell at h
  dsimp only at h
  split at h
  · -- nothing was sent
    exact absurd (congrArg List.length h) (by simp)
  · obtain ⟨rfl, -⟩ := List.cons.inj h
    exact ⟨snapped_twice, rfl⟩

end routed

variable {us : Bool} {tick : ℚ} {platform : String} {req : Request} {wire : Wire}

/-- Every adapter sells all of it, and down to a cent. -/
theorem Sends.limit_eq (h : Sends us tick platform req wire) :
    wire.limit req.side = exit_limit us tick platform req.side := by
  have hcent : us = false ∨ platform ≠ "polymarket" →
      exit_limit us tick platform req.side = 1 / 100 := by
    intro hother
    refine if_neg fun hus => ?_
    rcases hother with hfalse | hne
    · exact absurd (hfalse.symm.trans hus.2) nofun
    · exact hne hus.1
  cases h with
  | kalshi => exact (book_price_twice req.side).trans (hcent (.inr (by decide))).symm
  | polymarket hus =>
    rw [hcent (.inl hus)]
    show Decimal.round_to 2 panic_price = 1 / 100
    decide +kernel
  | polymarket_us hus => rw [polymarket_us_limit, hus]
  | @forecastex _ _ _ _ routed hsent =>
    rw [hcent (.inr (by decide))]
    show (1 : ℚ) - routed.price = 1 / 100
    rw [(routed_eq hsent).1]
    norm_num

theorem Sends.qty_eq (h : Sends us tick platform req wire) : wire.qty = req.qty := by
  cases h with
  | kalshi => rfl
  | polymarket => rfl
  | polymarket_us => rfl
  | forecastex hsent => exact (routed_eq hsent).2

end Unwind
