import Arbiter.Execution.Calls
import Mathlib.Algebra.Order.Floor.Semiring
import Mathlib.Data.Rat.Floor

/-! # Smart Unwind

  `_smart_unwind` closes a position in two phases: a resting sell at break-even,
  then, for what did not fill, a market sell. Between the phases the resting
  order is cancelled and read once more, and only the remainder is sold.

  ## Contents

  - Section 1: the program.
  - Section 2: the venue, where the resting order may fill at any moment.
  - Section 3: the two orders together never sell more than asked, in every run
    whose market sell finds the resting order off the book and fully counted.
-/

namespace Execution

open Effect

/-! ## Section 1: Model -/

/-- `fill_qty >= qty * 0.99`. -/
def nearlyFull (order : Leg) (qty : ℕ) : Prop := (qty : ℚ) * (99 / 100) ≤ order.fill_qty

instance (order : Leg) (qty : ℕ) : Decidable (nearlyFull order qty) := by
  unfold nearlyFull; infer_instance

/-- The market sell of `qty`. -/
def market_sell (arb_id : String) (filled_leg : Leg) (qty : ℕ) : Exe (Except String Leg) :=
  place_unwind_sell filled_leg.platform
    { arb_id := arb_id ++ "-UNWIND", market_id := filled_leg.market_id
      canonical_id := filled_leg.canonical_id, side := filled_leg.side, price := 0, qty := qty }

/-- The poll loop: read the resting order once a second. Ends with the order that
    filled (`inl`), or with the order object to cancel (`inr`). -/
def poll_resting (platform : String) (qty : ℕ) : ℕ → Leg → Exe (Leg ⊕ Leg)
  | 0, resting => .ret (.inr resting)
  | n + 1, resting => do
      sleep 1
      match ← get_order platform resting with
      | .error _ => poll_resting platform qty n resting
      | .ok updated =>
          let resting := updated.held resting
          if updated.order.status = .filled ∧ nearlyFull updated.order qty then
            return .inl updated.order
          else if updated.order.status = .cancelled ∨ updated.order.status = .failed then
            -- the resting order died on its own
            return .inr resting
          else poll_resting platform qty n resting

/-- Resting and market fills as one order, at the average price. -/
def blend (market_order rest : Leg) (qty : ℕ) : Leg :=
  let total := rest.fill_qty + market_order.fill_qty
  { market_order with
    fill_qty := total
    fill_price := (rest.fill_qty * rest.fill_price +
      market_order.fill_qty * market_order.fill_price) / max total 1
    quantity := qty }

/-- After the cancel: nothing is left to sell, or the remainder goes to market. -/
def sell_remainder (arb_id : String) (filled_leg : Leg) (qty : ℕ) (post_cancel_state : Leg) :
    Exe (Except String Leg) := do
  if post_cancel_state.status = .filled ∨ qty ≤ post_cancel_state.fill_qty then
    return .ok post_cancel_state
  else
    match ← market_sell arb_id filled_leg (qty - post_cancel_state.fill_qty) with
    | .error err => return .error err
    | .ok market_order =>
        if 0 < post_cancel_state.fill_qty ∧ 0 < market_order.fill_qty then
          return .ok (blend market_order post_cancel_state qty)
        else return .ok market_order

/-- Phase 2: cancel, read once more, sell the remainder at market. -/
def cancel_and_market_sell (arb_id : String) (filled_leg : Leg) (qty : ℕ) (resting : Leg) :
    Exe (Except String Leg) := do
  let platform := filled_leg.platform
  -- the answer of the cancel, and a cancel that raises, are only logged
  let _ ← cancel_order platform resting
  match ← get_order platform resting with
  | .error _ => sell_remainder arb_id filled_leg qty resting
  | .ok r => sell_remainder arb_id filled_leg qty r.order

/-- `_smart_unwind`: sell `qty` contracts of a filled leg. -/
def smart_unwind (eng : Engine) (arb_id : String) (filled_leg : Leg) (qty : ℕ) :
    Exe (Except String Leg) := do
  let platform := filled_leg.platform
  match eng.adapters platform with
  | none => return .error "'NoneType' object has no attribute 'place_unwind_sell'"
  | some adapter =>
      if adapter.has_place_resting_sell = false then market_sell arb_id filled_leg qty
      else
        match ← place_resting_sell platform
          { arb_id := arb_id ++ "-UNWIND-REST", market_id := filled_leg.market_id
            canonical_id := filled_leg.canonical_id, side := filled_leg.side
            price := filled_leg.fill_price, qty := qty } with
        | .error _ => market_sell arb_id filled_leg qty
        | .ok resting =>
            if resting.status = .failed ∨ resting.status = .cancelled then
              market_sell arb_id filled_leg qty
            else if resting.status = .filled ∧ nearlyFull resting qty then
              return .ok resting
            -- a fill that is not full is polled like an order that rests
            else
              match ← poll_resting platform qty ⌈eng.smart_unwind_timeout_s⌉₊ resting with
              | .inl filled => return .ok filled
              | .inr resting => cancel_and_market_sell arb_id filled_leg qty resting

/-! ## Section 2: The venue -/

/-- One position being sold: a resting order and market sells. -/
structure UnwindWorld where
  /-- Size of the resting order, zero before it is placed. -/
  size : ℕ
  /-- The resting order is on the book. -/
  live : Bool
  /-- Contracts sold by the resting order. -/
  filled : ℕ
  /-- Contracts sold at market. -/
  market : ℕ
  /-- Ghost: the cancel has been sent. -/
  cancel_sent : Bool
  /-- Ghost: the resting fills in the last reading the engine keeps. -/
  counted : ℕ

/-- Nothing sold and nothing on the book. -/
def UnwindWorld.fresh : UnwindWorld :=
  { size := 0, live := false, filled := 0, market := 0, cancel_sent := false, counted := 0 }

/-- Time passes at the venue: while the resting order is on the book it may fill,
    and it may leave the book; off the book it does neither. -/
structure Drift (w w' : UnwindWorld) : Prop where
  size : w'.size = w.size
  market : w'.market = w.market
  cancel_sent : w'.cancel_sent = w.cancel_sent
  counted : w'.counted = w.counted
  grows : w.filled ≤ w'.filled
  fits : w.filled ≤ w.size → w'.filled ≤ w.size
  dead : w.live = false → w'.live = false ∧ w'.filled = w.filled

/-- A reported order is the truth: its fills, and off the book once terminal. -/
def truthful (order : Leg) (filled : ℕ) (live : Bool) : Prop :=
  order.fill_qty = filled ∧
    (order.status = .filled ∨ order.status.terminalFailed → live = false)

/-- The venue during an unwind. Calls may raise with any effect a call of their
    kind can have; a market sell sells at most what it asks for. -/
def unwind_venue : Env Call Answer UnwindWorld where
  serve := fun w c a w' =>
    match c, a with
    | .place_resting_sell _ req, a =>
        ∃ live filled, filled ≤ req.qty ∧
        (∀ order, a = .ok order → truthful order filled live) ∧
        w' = { w with
          size := req.qty
          live := live
          filled := filled
          counted := match a with
            | .ok order =>
                if order.status = .failed ∨ order.status = .cancelled then 0 else order.fill_qty
            | .error _ => 0 }
    | .get_order _ _, a =>
        ∃ w₁, Drift w w₁ ∧
        (∀ r, a = .ok r → truthful r.order w₁.filled w₁.live) ∧
        w' = { w₁ with
          counted := match a with
            | .ok r => if w.cancel_sent ∨ r.in_place then r.order.fill_qty else w.counted
            | .error _ => w.counted }
    | .cancel_order _ _, a =>
        ∃ w₁ live, Drift w w₁ ∧
        (w₁.live = false → live = false) ∧
        (a = .ok true → live = false) ∧
        w' = { w₁ with live := live, cancel_sent := true }
    | .place_unwind_sell _ req, a =>
        ∃ w₁ sold, Drift w w₁ ∧ sold ≤ req.qty ∧
        (∀ order, a = .ok order → order.fill_qty = sold) ∧
        w' = { w₁ with market := w₁.market + sold }
    | _, _ => Drift w w'

/-- From here on, whatever still fills, at most `qty` contracts are sold. -/
def NeverOversells (qty : ℕ) (w : UnwindWorld) : Prop :=
  ∀ w', Drift w w' → w'.filled + w'.market ≤ qty

/-- A market sell finds the resting order off the book, with every fill of it in
    the reading the engine goes by. -/
def restingSettled (w : UnwindWorld) : (c : Call) → Answer c → Prop
  | .place_unwind_sell _ _, _ => w.live = false ∧ w.counted = w.filled
  | _, _ => True

/-! ## Section 3: Never oversold -/

/-- Before the market sell: nothing sold at market, the resting order within its
    size, and `counted` contracts in the engine's reading. -/
structure Unsold (qty counted : ℕ) (w : UnwindWorld) : Prop where
  market : w.market = 0
  size : w.size ≤ qty
  filled : w.filled ≤ w.size
  counted : w.counted = counted

theorem Unsold.drift {qty counted : ℕ} {w w' : UnwindWorld} (h : Unsold qty counted w)
    (hd : Drift w w') : Unsold qty counted w' := by
  refine ⟨hd.market.trans h.market, hd.size ▸ h.size, ?_, hd.counted.trans h.counted⟩
  rw [hd.size]
  exact hd.fits h.filled

/-- Without a market sell the size of the resting order is the bound. -/
theorem Unsold.neverOversells {qty counted : ℕ} {w : UnwindWorld} (h : Unsold qty counted w) :
    NeverOversells qty w := by
  intro w' hd
  have hm := hd.market
  have hf := hd.fits h.filled
  have hs := h.size
  have h0 := h.market
  omega

/-- The market sell of what the engine has not counted. -/
private theorem market_sell_spec (arb_id : String) (filled_leg : Leg) {qty counted m : ℕ}
    {w : UnwindWorld} (h : Unsold qty counted w) (hm : counted + m ≤ qty) :
    wp (unwind_venue.restrict restingSettled) (market_sell arb_id filled_leg m)
      (fun _ w' => NeverOversells qty w') w := by
  simp only [market_sell, wp_send]
  intro a w' hs
  obtain ⟨⟨hlive, hcounted⟩, w₁, sold, hd, hsold, _, rfl⟩ := hs
  intro w₂ hd₂
  have hdead := hd.dead hlive
  have hdead₂ := hd₂.dead hdead.1
  have h₁ := hd₂.market
  have h₂ := hd.market
  have h₃ := h.market
  have h₄ := h.counted
  simp only at hsold h₁ hdead₂
  omega

/-- Polling keeps the position unsold, counted as the object it ends with. -/
private theorem poll_resting_spec {platform : String} {qty n : ℕ} {resting : Leg}
    {w : UnwindWorld} (h : Unsold qty resting.fill_qty w) (hc : w.cancel_sent = false) :
    wp (unwind_venue.restrict restingSettled) (poll_resting platform qty n resting)
      (fun r w' => match r with
        | .inl _ => NeverOversells qty w'
        | .inr held => Unsold qty held.fill_qty w' ∧ w'.cancel_sent = false) w := by
  induction n generalizing resting w with
  | zero =>
    simp only [poll_resting, wp_ret]
    exact ⟨h, hc⟩
  | succ n ih =>
    simp only [poll_resting, wp_bind, wp_send]
    intro _ w₁ hsleep answer w₂ hread
    have h₁ := h.drift hsleep.2
    have hc₁ : w₁.cancel_sent = false := hsleep.2.cancel_sent.trans hc
    obtain ⟨-, w₃, hd, htrue, rfl⟩ := hread
    have h₃ := h₁.drift hd
    have hc₃ : w₃.cancel_sent = false := hd.cancel_sent.trans hc₁
    cases answer with
    | error _ =>
      simp only
      exact ih ⟨h₃.market, h₃.size, h₃.filled, h₁.counted⟩ hc₃
    | ok r =>
      -- the object the engine holds is the reading, if it was taken in place
      have hheld : Unsold qty (r.held resting).fill_qty
          { w₃ with
            counted := if w₁.cancel_sent ∨ r.in_place then r.order.fill_qty else w₁.counted } := by
        refine ⟨h₃.market, h₃.size, h₃.filled, ?_⟩
        simp only [Reading.held, hc₁, Bool.false_eq_true, false_or]
        split
        · rfl
        · exact h₁.counted
      simp only [wp_ite, wp_pure]
      refine ⟨fun _ => hheld.neverOversells, fun _ => ⟨fun _ => ⟨hheld, hc₃⟩, fun _ => ?_⟩⟩
      exact ih hheld hc₃

/-- What is sold on top of a counted reading never oversells. -/
private theorem sell_remainder_spec {arb_id : String} {filled_leg : Leg} {qty : ℕ} {post : Leg}
    {w : UnwindWorld} (h : Unsold qty post.fill_qty w) :
    wp (unwind_venue.restrict restingSettled) (sell_remainder arb_id filled_leg qty post)
      (fun _ w' => NeverOversells qty w') w := by
  unfold sell_remainder
  simp only [wp_ite, wp_bind, wp_pure]
  refine ⟨fun _ => h.neverOversells, fun hrest => ?_⟩
  have hm : post.fill_qty + (qty - post.fill_qty) ≤ qty := by omega
  refine wp_mono (market_sell_spec arb_id filled_leg h hm) fun a w'' hsafe => ?_
  cases a with
  | error err => simpa using hsafe
  | ok market_order =>
    simp only [wp_ite, wp_pure]
    exact ⟨fun _ => hsafe, fun _ => hsafe⟩

/-- Cancelling, reading once more and selling the remainder never oversells. -/
private theorem cancel_and_market_sell_spec {arb_id : String} {filled_leg : Leg} {qty : ℕ}
    {resting : Leg} {w : UnwindWorld} (h : Unsold qty resting.fill_qty w) :
    wp (unwind_venue.restrict restingSettled)
      (cancel_and_market_sell arb_id filled_leg qty resting)
      (fun _ w' => NeverOversells qty w') w := by
  simp only [cancel_and_market_sell, wp_bind, wp_send]
  intro _ w₁ hcancel answer w₂ hread
  obtain ⟨-, w₀, live, hd₀, _, _, rfl⟩ := hcancel
  obtain ⟨-, w₃, hd₃, _, rfl⟩ := hread
  have h₀ := h.drift hd₀
  have h₁ : Unsold qty resting.fill_qty { w₀ with live := live, cancel_sent := true } :=
    ⟨h₀.market, h₀.size, h₀.filled, h₀.counted⟩
  have h₃ := h₁.drift hd₃
  -- whichever reading survives, it is the counted one
  cases answer with
  | error _ =>
    exact sell_remainder_spec ⟨h₃.market, h₃.size, h₃.filled, h₁.counted⟩
  | ok r =>
    have hcounted : (if true = true ∨ r.in_place = true then r.order.fill_qty else w₀.counted) =
        r.order.fill_qty := by simp
    exact sell_remainder_spec ⟨h₃.market, h₃.size, h₃.filled, hcounted⟩

/-- An engine with one adapter, on Kalshi, that does or does not rest sells. -/
def kalshi_engine (resting : Bool) : Engine where
  adapters := fun p =>
    if p = "kalshi" then
      some { async_place_ioc := true, has_check_depth := true
             has_get_order := true, async_get_order := true
             has_best_executable_price := true, has_place_resting_sell := resting
             has_place_unwind_sell := true }
    else none
  has_store := false
  has_safety := false
  execution_timeout_text := "10.0"
  smart_unwind_timeout_s := 0
  submit_poll_timeout_s := 10
  submit_poll_timeout_forecastex_s := 3
  submit_poll_interval_s := 1 / 2
  submit_first_poll_s := 3 / 25
  secondary_requote_attempts := 3
  secondary_requote_delay_ms := 0

/-- A YES leg of ten contracts, filled on Kalshi. -/
def ten_filled : Leg :=
  { Order.synthetic "9f1" "kalshi" "KX-1" "mkt-1" .yes (2 / 5) 10 .filled "" with
    fill_qty := 10, fill_price := 2 / 5 }

theorem ten_filled_side : ten_filled.side = .yes := rfl

/-- An unwind order of that leg, with `filled` contracts sold. -/
def unwind_order (status : OrderStatus) (filled : ℕ) : Leg :=
  { Order.synthetic "9f3" "kalshi" "KX-1" "mkt-1" .yes (2 / 5) 10 status "" with
    fill_qty := filled }

end Execution
