import Mathlib.Tactic.Linarith
import Arbiter.Adapters.Unwind

/-! # The Price on the Wire at Polymarket US

  The US venue is told every price on the YES scale, on the grid of the market's ticks. The
  adapter turns the limit of a NO leg over and rounds to the nearest tick, either way: rounding
  away from the touch would leave the order where nobody trades. What a leg may cost at most is
  looked at only where the caller tells it.

  ## Contents

  - Section 1: ticks.
  - Section 2: the price that is sent.
  - Section 3: how far the rounding goes.
  - Section 4: how far the price is from the limit.
-/

namespace PolymarketUs

open Execution

/-! ## Section 1: Ticks -/

/-- `_DEFAULT_TICK`. -/
def default_tick : ℚ := 1 / 100

/-- `_MIN_TICK`. -/
def min_tick : ℚ := 1 / 10000

/-- `_tick_from_meta`. -/
def tick_from_meta (md : Json ℚ) : ℚ :=
  if md.truthy = false then default_tick
  else
    let raw := md.first ["orderPriceMinTickSize", "minTickSize"] (md.get "priceIncrement")
    let tick := amount_value raw
    if tick ≤ 0 then default_tick else max tick min_tick

/-- `_cached_tick`: of the metadata the cache was filled from, if it holds any. -/
def cached_tick (cached : Option (Json ℚ)) : ℚ :=
  match cached with
  | none => default_tick
  | some md => tick_from_meta md

theorem cached_tick_pos (cached : Option (Json ℚ)) : 0 < cached_tick cached := by
  have hdefault : 0 < default_tick := by norm_num [default_tick]
  cases cached with
  | none => exact hdefault
  | some md =>
    show 0 < tick_from_meta md
    unfold tick_from_meta
    dsimp only
    split_ifs
    · exact hdefault
    · exact hdefault
    · exact lt_max_of_lt_right (by norm_num [min_tick])

/-! ## Section 2: The price that is sent -/

/-- What the engine asks for: a side to buy, or a side to sell. -/
inductive OrderSide
  | yes
  | no
  | sell_yes
  | sell_no
  deriving DecidableEq

/-- `_us_order_params`: the intent, and the price on the YES scale. -/
def OrderSide.us_order_params (side : OrderSide) (price : ℚ≥0) : String × ℚ :=
  match side with
  | .yes => PolymarketUs.us_order_params .yes price
  | .no => PolymarketUs.us_order_params .no price
  | .sell_yes => Unwind.us_sell_params .yes price
  | .sell_no => Unwind.us_sell_params .no price

/-- The intents whose prices are those of NO, turned over. -/
def short_intents : List String :=
  ["BUY_SHORT", "ORDER_INTENT_BUY_SHORT", "SELL_SHORT", "ORDER_INTENT_SELL_SHORT"]

/-- `user_side_price`: a price of the wire as one of the side's own. -/
def user_side_price (intent : String) (snapped : ℚ) : ℚ :=
  if intent ∈ short_intents then max (1 - snapped) 0 else snapped

/-- `_marketability_clamp_and_snap`; `none` where it raises. -/
def marketability_clamp_and_snap (tick : ℚ) (intent : String) (request_price : ℚ)
    (max_affordable : Option ℚ) : Option ℚ :=
  let snapped := snap_to_tick request_price tick
  match max_affordable with
  | none => some snapped
  | some limit =>
      if limit + 1 / 1000000000 < user_side_price intent snapped then none else some snapped

/-- The price `_sign_and_send` puts into the order. -/
def wire_price (tick : ℚ) (side : OrderSide) (price : ℚ≥0) (max_affordable : Option ℚ) :
    Option ℚ :=
  let (intent, request_price) := side.us_order_params price
  marketability_clamp_and_snap tick intent request_price max_affordable

/-- A price on the YES scale, as one of the side itself. -/
def OrderSide.own_price (side : OrderSide) (yes_price : ℚ) : ℚ :=
  match side with
  | .yes | .sell_yes => yes_price
  | .no | .sell_no => 1 - yes_price

/-- By how much a price of the wire is worse than the limit: dearer to buy at, or cheaper to
    sell at. -/
def OrderSide.worse_by (side : OrderSide) (wire limit : ℚ) : ℚ :=
  match side with
  | .yes | .no => side.own_price wire - limit
  | .sell_yes | .sell_no => limit - side.own_price wire

section sent

variable {side : OrderSide} {price : ℚ≥0}

/-- Turning a price over twice gives it back. -/
theorem own_price_own_price (side : OrderSide) (p : ℚ) : side.own_price (side.own_price p) = p := by
  cases side
  · rfl
  · exact sub_sub_cancel 1 p
  · rfl
  · exact sub_sub_cancel 1 p

/-- A price of a dollar at most is sent for as it is, on the YES scale. -/
theorem us_order_params_price (hprice : price ≤ 1) :
    (side.us_order_params price).2 = side.own_price price := by
  have hle : (price : ℚ) ≤ 1 := by exact_mod_cast hprice
  have hclip : min (price : ℚ) 1 = price := min_eq_left hle
  have hover : max (1 - min (price : ℚ) 1) 0 = 1 - price := by
    rw [hclip]
    exact max_eq_left (sub_nonneg.mpr hle)
  cases side
  · exact hclip
  · exact hover
  · exact hclip
  · exact hover

/-- The adapter reads the price of the wire back as the side's own. -/
theorem user_side_price_eq (side : OrderSide) (price : ℚ≥0) {wire : ℚ} (hwire : wire ≤ 1) :
    user_side_price (side.us_order_params price).1 wire = side.own_price wire := by
  have hover : max (1 - wire) 0 = 1 - wire := max_eq_left (sub_nonneg.mpr hwire)
  have hlong : ∀ intent ∈ ["BUY_LONG", "SELL_LONG"], user_side_price intent wire = wire := by
    intro intent hintent
    exact if_neg (by revert intent; decide)
  have hshort : ∀ intent ∈ ["BUY_SHORT", "SELL_SHORT"],
      user_side_price intent wire = 1 - wire := by
    intro intent hintent
    exact (if_pos (by revert intent; decide)).trans hover
  cases side
  · exact hlong "BUY_LONG" (by decide)
  · exact hshort "BUY_SHORT" (by decide)
  · exact hlong "SELL_LONG" (by decide)
  · exact hshort "SELL_SHORT" (by decide)

/-- What is sent for a limit of a dollar at most. -/
theorem wire_price_eq (side : OrderSide) {tick : ℚ} (hprice : price ≤ 1) (max_affordable : Option ℚ)
    (hwire : snap_to_tick (side.own_price price) tick ≤ 1) :
    wire_price tick side price max_affordable =
      match max_affordable with
      | none => some (snap_to_tick (side.own_price price) tick)
      | some limit =>
          if limit + 1 / 1000000000 < side.own_price (snap_to_tick (side.own_price price) tick) then
            none
          else some (snap_to_tick (side.own_price price) tick) := by
  have hintent := user_side_price_eq side price hwire
  show marketability_clamp_and_snap tick (side.us_order_params price).1
    (side.us_order_params price).2 max_affordable = _
  rw [us_order_params_price hprice]
  cases max_affordable with
  | none => rfl
  | some limit =>
    show (if _ < user_side_price _ _ then none else some _) = _
    rw [hintent]

/-- The two ways a purchase is refused say the same. -/
theorem unaffordable_iff (cfg : Config) (req : OrderRequest) :
    (unaffordable cfg req).isSome = true ↔
      wire_price cfg.tick (match req.side with | .yes => .yes | .no => .no) req.price
        cfg.max_affordable = none := by
  have hyes (w : ℚ) : user_side_price "BUY_LONG" w = w := if_neg (by decide)
  have hno (w : ℚ) : user_side_price "BUY_SHORT" w = max (1 - w) 0 := if_pos (by decide)
  have hlong : ¬ "BUY_LONG" = "BUY_SHORT" := by decide
  cases hlimit : cfg.max_affordable with
  | none => simp [unaffordable, wire_price, marketability_clamp_and_snap, hlimit]
  | some limit =>
    cases hside : req.side with
    | yes =>
      simp only [unaffordable, hlimit, hside, us_order_params, Option.bind_some, wire_price,
        OrderSide.us_order_params, marketability_clamp_and_snap, hyes, hlong, if_false, gt_iff_lt]
      split_ifs <;> simp
    | no =>
      simp only [unaffordable, hlimit, hside, us_order_params, Option.bind_some, wire_price,
        OrderSide.us_order_params, marketability_clamp_and_snap, hno, if_true, gt_iff_lt]
      split_ifs <;> simp

end sent

/-! ## Section 3: Rounding to the tick -/

section snapping

variable {x tick : ℚ}

/-- Clipping to the range of prices brings nothing away from a price. -/
theorem abs_clip_sub_le (hlow : 0 ≤ x) (hhigh : x ≤ 1) (y : ℚ) :
    |max 0 (min y 1) - x| ≤ |y - x| := by
  by_cases hneg : y < 0
  · rw [min_eq_left (by linarith), max_eq_left hneg.le, abs_sub_comm, abs_sub_comm y,
      abs_of_nonneg (by linarith), abs_of_nonneg (by linarith)]
    linarith
  · by_cases hover : 1 < y
    · rw [min_eq_right hover.le, max_eq_right zero_le_one, abs_of_nonneg (by linarith),
        abs_of_nonneg (by linarith)]
      linarith
    · rw [min_eq_left (not_lt.mp hover), max_eq_right (not_lt.mp hneg)]

theorem snap_to_tick_mem (htick : 0 < tick) :
    0 ≤ snap_to_tick x tick ∧ snap_to_tick x tick ≤ 1 := by
  rw [snap_to_tick, if_neg (not_le.mpr htick)]
  exact ⟨le_max_left _ _, max_le zero_le_one (min_le_right _ _)⟩

/-- The nearest tick is half a tick away at most, and the sixth decimal half a millionth. -/
theorem abs_snap_to_tick_sub_le (htick : 0 < tick) (hlow : 0 ≤ x) (hhigh : x ≤ 1) :
    |snap_to_tick x tick - x| ≤ tick / 2 + 1 / 2 / 10 ^ 6 := by
  have hround := Decimal.abs_round_to_sub_le 0 (x / tick)
  have hmillionth := Decimal.abs_round_to_sub_le 6 (Decimal.round_to 0 (x / tick) * tick)
  rw [snap_to_tick, if_neg (not_le.mpr htick)]
  have hgrid : |Decimal.round_to 0 (x / tick) * tick - x| ≤ tick / 2 := by
    have hscale : Decimal.round_to 0 (x / tick) * tick - x =
        (Decimal.round_to 0 (x / tick) - x / tick) * tick := by
      rw [sub_mul, div_mul_cancel₀ _ htick.ne']
    rw [hscale, abs_mul, abs_of_pos htick]
    have := mul_le_mul_of_nonneg_right hround htick.le
    linarith
  calc |max 0 (min (Decimal.round_to 6 (Decimal.round_to 0 (x / tick) * tick)) 1) - x|
      ≤ |Decimal.round_to 6 (Decimal.round_to 0 (x / tick) * tick) - x| :=
        abs_clip_sub_le hlow hhigh _
    _ ≤ |Decimal.round_to 6 (Decimal.round_to 0 (x / tick) * tick) -
          Decimal.round_to 0 (x / tick) * tick| + |Decimal.round_to 0 (x / tick) * tick - x| :=
        abs_sub_le _ _ _
    _ ≤ tick / 2 + 1 / 2 / 10 ^ 6 := by linarith

/-- The price lies on the grid of the ticks, and has six decimals at most. -/
def OnGrid (tick x : ℚ) : Prop := (∃ n : ℕ, x = n * tick) ∧ ∃ n : ℕ, x * 10 ^ 6 = n

/-- Such a price is not moved. -/
theorem snap_to_tick_of_on_grid (htick : 0 < tick) (hlow : 0 ≤ x) (hhigh : x ≤ 1)
    (hgrid : OnGrid tick x) : snap_to_tick x tick = x := by
  obtain ⟨⟨n, hn⟩, m, hm⟩ := hgrid
  have hquotient : x / tick * 10 ^ 0 = n := by
    rw [hn, pow_zero, mul_one]
    exact mul_div_cancel_right₀ _ htick.ne'
  rw [snap_to_tick, if_neg (not_le.mpr htick), Decimal.round_to_eq_self hquotient,
    div_mul_cancel₀ _ htick.ne', Decimal.round_to_eq_self hm, min_eq_left hhigh, max_eq_right hlow]

end snapping

/-! ## Section 4: The limit -/

section limits

variable {limit : ℚ≥0}

/-- What is said of the price that goes out for a limit: it is within half a tick of it, it is
    the limit itself on the grid, and it is held back where it is above what the caller can
    afford. -/
structure NearLimit (tick : ℚ) (side : OrderSide) (limit : ℚ≥0) (wire : ℚ) : Prop where
  sent : wire_price tick side limit none = some wire
  near : side.worse_by wire limit ≤ tick / 2 + 1 / 2 / 10 ^ 6
  exact_on_grid : OnGrid tick (side.own_price limit) → side.own_price wire = limit
  affordable : ∀ max_affordable : ℚ,
    wire_price tick side limit (some max_affordable) =
      if side.own_price wire ≤ max_affordable + 1 / 1000000000 then some wire else none

theorem own_price_mem (side : OrderSide) (hlimit : limit ≤ 1) :
    0 ≤ side.own_price limit ∧ side.own_price limit ≤ 1 := by
  have hlow : (0 : ℚ) ≤ limit := NNRat.cast_nonneg limit
  have hhigh : (limit : ℚ) ≤ 1 := by exact_mod_cast hlimit
  cases side
  · exact ⟨hlow, hhigh⟩
  · exact ⟨sub_nonneg.mpr hhigh, sub_le_self 1 hlow⟩
  · exact ⟨hlow, hhigh⟩
  · exact ⟨sub_nonneg.mpr hhigh, sub_le_self 1 hlow⟩

/-- Whichever way the side looks at it, no price is worse by more than it is away. -/
theorem worse_by_le (side : OrderSide) (wire : ℚ) :
    side.worse_by wire limit ≤ |wire - side.own_price limit| := by
  cases side
  · exact le_abs_self _
  · calc 1 - wire - (limit : ℚ) = -(wire - (1 - limit)) := by ring
      _ ≤ |wire - (1 - limit)| := neg_le_abs _
  · calc (limit : ℚ) - wire = -(wire - limit) := by ring
      _ ≤ |wire - limit| := neg_le_abs _
  · calc (limit : ℚ) - (1 - wire) = wire - (1 - limit) := by ring
      _ ≤ |wire - (1 - limit)| := le_abs_self _

/-- **The price on the wire is near the limit**: for every side, every limit and every tick the
    adapter may use. -/
theorem wire_price_near_limit (cached : Option (Json ℚ)) (side : OrderSide) (hlimit : limit ≤ 1) :
    ∃ wire, NearLimit (cached_tick cached) side limit wire := by
  have htick := cached_tick_pos cached
  obtain ⟨hlow, hhigh⟩ := own_price_mem side hlimit
  obtain ⟨-, hwire⟩ := snap_to_tick_mem (x := side.own_price limit) htick
  have hsent (m : Option ℚ) := wire_price_eq side hlimit m hwire
  refine ⟨snap_to_tick (side.own_price limit) (cached_tick cached), hsent none, ?_, ?_, ?_⟩
  · exact (worse_by_le side _).trans (abs_snap_to_tick_sub_le htick hlow hhigh)
  · intro hgrid
    rw [snap_to_tick_of_on_grid htick hlow hhigh hgrid, own_price_own_price]
  · intro max_affordable
    rw [hsent (some max_affordable)]
    by_cases h : side.own_price (snap_to_tick (side.own_price limit) (cached_tick cached)) ≤
        max_affordable + 1 / 1000000000
    · rw [if_pos h]
      exact if_neg (not_lt.mpr h)
    · rw [if_neg h]
      exact if_pos (not_le.mp h)

end limits

/-- `wire_price_near_limit` of NO at 37 cents, at a tick of a tenth of a cent. -/
theorem wire_price_near_limit_no :
    ∃ wire, NearLimit (cached_tick (some (.obj [("minTickSize", .num (1 / 1000))]))) .no
      (37 / 100) wire :=
  wire_price_near_limit _ .no (by rw [← NNRat.cast_le (K := ℚ)]; norm_num)

/-- **Rounding goes either way.** YES is to be bought at 49.6 cents at most, and the order goes
    out at 50. -/
theorem wire_price_above_limit :
    ¬ ∀ (cached : Option (Json ℚ)) (side : OrderSide) (limit : ℚ≥0) (wire : ℚ), limit ≤ 1 →
      wire_price (cached_tick cached) side limit none = some wire →
      side.worse_by wire limit ≤ 0 := by
  intro hclaim
  have hworse := hclaim none .yes (496 / 1000) (1 / 2) (by decide +kernel) (by decide +kernel)
  exact absurd hworse (by decide +kernel)

end PolymarketUs
