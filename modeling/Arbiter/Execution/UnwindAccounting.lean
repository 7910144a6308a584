import Arbiter.Execution.SmartUnwind

/-! # What an Unwind Reports

  The order that `_smart_unwind` returns stands for two: its count and its price are what
  the profit is booked with. At a venue whose reports are true and whose cancels take
  effect, they are exact where the engine sells at market only after it has counted every
  resting fill, and the market sell fills if the resting order did.

  ## Contents

  - Section 1: the venue, with the proceeds of the sales.
  - Section 2: what the engine has read before it sells at market.
  - Section 3: what the returned order says of both.
-/

namespace Execution

open Effect

/-! ## Section 1: The venue -/

/-- One position being sold, with the proceeds. -/
structure SaleWorld where
  /-- Size of the resting order, zero before it is placed. -/
  size : ℕ
  /-- The resting order is on the book. -/
  live : Bool
  /-- Contracts sold by the resting order. -/
  filled : ℕ
  proceeds : ℚ≥0
  /-- Contracts sold at market. -/
  market : ℕ
  market_proceeds : ℚ≥0
  /-- Ghost: a market sell has been sent. -/
  market_sent : Bool
  /-- Ghost: the cancel has been sent. -/
  cancel_sent : Bool
  /-- Ghost: the resting fills in the last reading the engine keeps. -/
  counted : ℕ
  deriving DecidableEq

/-- Nothing sold and nothing on the book. -/
def SaleWorld.fresh : SaleWorld :=
  { size := 0, live := false, filled := 0, proceeds := 0, market := 0, market_proceeds := 0
    market_sent := false, cancel_sent := false, counted := 0 }

/-- Time passes: while the resting order is on the book it may fill, and it may leave the
    book; off the book it does neither. -/
structure Elapses (w w' : SaleWorld) : Prop where
  rest : ∃ live filled proceeds, w' = { w with live, filled, proceeds }
  grows : w.filled ≤ w'.filled
  fits : w.filled ≤ w.size → w'.filled ≤ w.size
  paid : w'.filled = w.filled → w'.proceeds = w.proceeds
  dead : w.live = false → w'.live = false ∧ w'.filled = w.filled

theorem Elapses.refl (w : SaleWorld) : Elapses w w :=
  ⟨⟨_, _, _, rfl⟩, le_refl _, id, fun _ => rfl, fun h => ⟨h, rfl⟩⟩

/-- The report is true: what the resting order has sold and for how much, and that it is off
    the book once its status is final. -/
structure Reports (order : Leg) (w : SaleWorld) : Prop where
  filled : order.fill_qty = w.filled
  proceeds : order.fill_price * order.fill_qty = w.proceeds
  ended : order.status = .filled ∨ order.status.terminalFailed → w.live = false

/-- The venue during an unwind: every report is true, and a cancel takes effect whatever it
    answers. Calls may raise. -/
def sale_venue : Env Call Answer SaleWorld where
  serve := fun w c a w' =>
    match c, a with
    | .place_resting_sell _ req, a =>
        ∃ live filled proceeds, filled ≤ req.qty ∧ (filled = 0 → proceeds = 0) ∧
        (∀ order, a = .ok order → Reports order { w with live, filled, proceeds }) ∧
        w' = { w with
          size := req.qty
          live
          filled
          proceeds
          counted := match a with
            | .ok order =>
                if order.status = .failed ∨ order.status = .cancelled then 0 else order.fill_qty
            | .error _ => 0 }
    | .get_order _ _, a =>
        ∃ w₁, Elapses w w₁ ∧ (∀ r, a = .ok r → Reports r.order w₁) ∧
        w' = { w₁ with
          counted := match a with
            -- read in place, or read last: that is what the remainder is counted by
            | .ok r => if w.cancel_sent ∨ r.in_place then r.order.fill_qty else w.counted
            | .error _ => w.counted }
    | .cancel_order _ _, _ =>
        ∃ w₁, Elapses w w₁ ∧ w' = { w₁ with live := false, cancel_sent := true }
    | .place_unwind_sell _ req, a =>
        ∃ w₁ sold paid, Elapses w w₁ ∧ sold ≤ req.qty ∧
        (∀ order, a = .ok order → order.fill_qty = sold ∧ order.fill_price * sold = paid) ∧
        w' = { w₁ with
          market := w₁.market + sold
          market_proceeds := w₁.market_proceeds + paid
          market_sent := true }
    | _, _ => Elapses w w'

/-- The order has the contracts that both orders sold, and their proceeds. -/
structure Exact (order : Leg) (w : SaleWorld) : Prop where
  count : order.fill_qty = w.filled + w.market
  proceeds : order.fill_price * order.fill_qty = w.proceeds + w.market_proceeds

/-- If a market sell was sent, the engine had counted all that the resting order sold, and if
    that is anything, the market sell sold something too. -/
def AllCounted (w : SaleWorld) : Prop :=
  w.market_sent = true → w.counted = w.filled ∧ (0 < w.filled → 0 < w.market)

/-! ## Section 2: Before the market sell -/

/-- Nothing is sold at market, and `known` resting fills are read, of this `worth`. -/
structure Before (qty known : ℕ) (worth : ℚ≥0) (w : SaleWorld) : Prop where
  market : w.market = 0
  market_proceeds : w.market_proceeds = 0
  unsent : w.market_sent = false
  size : w.size ≤ qty
  filled : w.filled ≤ w.size
  counted : w.counted = known
  le : known ≤ w.filled
  paid : known = w.filled → worth = w.proceeds

/-- What an order says of its own sales. -/
def Order.revenue (order : Leg) : ℚ≥0 := order.fill_price * order.fill_qty

/-- The order the engine holds, and what it has read of it. -/
structure Holds (qty : ℕ) (resting : Leg) (w : SaleWorld) : Prop
    extends Before qty resting.fill_qty resting.revenue w where
  ended : resting.status = .filled → w.live = false ∧ w.filled = resting.fill_qty

section before

variable {qty known : ℕ} {worth : ℚ≥0} {w w' : SaleWorld} {resting order : Leg}

theorem Before.elapses (h : Before qty known worth w) (he : Elapses w w') :
    Before qty known worth w' := by
  have hgrows := he.grows
  have hfits := he.fits h.filled
  have hpaid := he.paid
  obtain ⟨live, filled, proceeds, rfl⟩ := he.rest
  refine ⟨h.market, h.market_proceeds, h.unsent, h.size, hfits, h.counted,
    h.le.trans hgrows, ?_⟩
  intro hall
  have hall' : known = filled := hall
  have hsame : filled = w.filled := le_antisymm (hall' ▸ h.le) hgrows
  exact (h.paid (hall.trans hsame)).trans (hpaid hsame).symm

theorem Holds.elapses (h : Holds qty resting w) (he : Elapses w w') : Holds qty resting w' := by
  refine ⟨h.toBefore.elapses he, ?_⟩
  intro hfilled
  obtain ⟨hlive, hall⟩ := h.ended hfilled
  obtain ⟨hdead, hsame⟩ := he.dead hlive
  exact ⟨hdead, hsame.trans hall⟩

/-- A true report is all there is to read. -/
theorem Holds.of_reports (h : Before qty known worth w)
    (hr : Reports order w) : Holds qty order { w with counted := order.fill_qty } := by
  refine ⟨⟨h.market, h.market_proceeds, h.unsent, h.size, h.filled, rfl, hr.filled.le, ?_⟩, ?_⟩
  · exact fun _ => hr.proceeds
  · exact fun hfilled => ⟨hr.ended (.inl hfilled), hr.filled.symm⟩

/-- Where nothing is sold at market, an order with every resting fill is exact. -/
theorem Before.exact (h : Before qty order.fill_qty order.revenue w)
    (hall : w.filled ≤ order.fill_qty) : Exact order w ∧ AllCounted w := by
  have hsame : order.fill_qty = w.filled := le_antisymm h.le hall
  refine ⟨⟨?_, ?_⟩, ?_⟩
  · rw [h.market]
    exact hsame
  · rw [h.market_proceeds, add_zero]
    exact h.paid hsame
  · intro hsent
    rw [h.unsent] at hsent
    cases hsent

end before

/-! ## Section 3: After it -/

/-- The market sell is answered. -/
structure Sold (known : ℕ) (worth : ℚ≥0) (market_order : Leg) (w : SaleWorld) : Prop where
  sent : w.market_sent = true
  counted : w.counted = known
  le : known ≤ w.filled
  paid : known = w.filled → worth = w.proceeds
  market : market_order.fill_qty = w.market
  market_proceeds : market_order.revenue = w.market_proceeds

section sold

variable {qty known : ℕ} {worth : ℚ≥0} {w : SaleWorld} {market_order rest : Leg}

/-- The market order alone is exact where no resting fill is left out. -/
theorem Sold.exact_market (h : Sold known worth market_order w)
    (hone : ¬ (0 < known ∧ 0 < market_order.fill_qty)) (hworth : known = 0 → worth = 0) :
    Exact market_order w ↔ AllCounted w := by
  have hnone : Exact market_order w ↔ w.filled = 0 := by
    constructor
    · intro hexact
      have hcount := hexact.count
      rw [h.market] at hcount
      omega
    · intro hfilled
      have hzero : known = 0 := Nat.le_zero.mp (hfilled ▸ h.le)
      have hproceeds : w.proceeds = 0 := by
        rw [← h.paid (hzero.trans hfilled.symm), hworth hzero]
      refine ⟨?_, ?_⟩
      · rw [hfilled, zero_add]
        exact h.market
      · rw [hproceeds, zero_add]
        exact h.market_proceeds
  rw [hnone]
  unfold AllCounted
  rw [h.counted, h.sent, ← h.market]
  have hle := h.le
  constructor
  · intro hfilled _
    omega
  · intro hall
    obtain ⟨hsame, hsold⟩ := hall rfl
    omega

/-- Both fills as one are exact where every resting fill is counted. -/
theorem Sold.exact_blend (h : Sold rest.fill_qty rest.revenue market_order w)
    (hboth : 0 < rest.fill_qty ∧ 0 < market_order.fill_qty) :
    Exact (blend market_order rest qty) w ↔ AllCounted w := by
  have hrevenue : (blend market_order rest qty).fill_price * (blend market_order rest qty).fill_qty =
      rest.revenue + market_order.revenue := by
    have htotal : max (rest.fill_qty + market_order.fill_qty) 1 =
        rest.fill_qty + market_order.fill_qty := max_eq_left (by omega)
    have hpos : ((rest.fill_qty + market_order.fill_qty : ℕ) : ℚ≥0) ≠ 0 :=
      Nat.cast_ne_zero.mpr (by omega)
    unfold blend Order.revenue
    dsimp only
    rw [htotal, div_mul_cancel₀ _ hpos,
      mul_comm (rest.fill_qty : ℚ≥0), mul_comm (market_order.fill_qty : ℚ≥0)]
  -- with a market order sent, all is counted where the resting fills are
  have hall : AllCounted w ↔ rest.fill_qty = w.filled := by
    have hle := h.le
    unfold AllCounted
    rw [h.counted, h.sent, ← h.market]
    constructor
    · exact fun hcounted => (hcounted rfl).1
    · exact fun hsame _ => ⟨hsame, fun _ => hboth.2⟩
  rw [hall]
  constructor
  · intro hexact
    have hcount : rest.fill_qty + market_order.fill_qty = w.filled + w.market := hexact.count
    rw [h.market] at hcount
    omega
  · intro hsame
    refine ⟨?_, ?_⟩
    · show rest.fill_qty + market_order.fill_qty = w.filled + w.market
      rw [hsame, h.market]
    · rw [hrevenue, h.paid hsame, h.market_proceeds]

end sold

/-- What is returned is exact if and only if all is counted. -/
def ReportsExactly (r : Except String Leg) (w : SaleWorld) : Prop :=
  ∀ order, r = .ok order → (Exact order w ↔ AllCounted w)

section run

variable {platform arb_id : String} {filled_leg resting post : Leg} {qty known n : ℕ}
  {worth : ℚ≥0} {w : SaleWorld}

theorem reports_exactly_of (h : Exact resting w ∧ AllCounted w) :
    ReportsExactly (.ok resting) w := by
  intro order heq
  cases heq
  exact iff_of_true h.1 h.2

private theorem market_sell_sold (h : Before qty known worth w) :
    wp sale_venue (market_sell arb_id filled_leg n)
      (fun a w' => ∀ order, a = .ok order → Sold known worth order w') w := by
  unfold market_sell
  rw [wp_send]
  rintro a w' ⟨w₁, sold, revenue, he, -, htrue, rfl⟩ order hok
  have h₁ := h.elapses he
  obtain ⟨hsold, hrevenue⟩ := htrue order hok
  refine ⟨rfl, h₁.counted, h₁.le, h₁.paid, ?_, ?_⟩
  · show order.fill_qty = w₁.market + sold
    rw [h₁.market, zero_add, hsold]
  · show order.fill_price * order.fill_qty = w₁.market_proceeds + revenue
    rw [h₁.market_proceeds, zero_add, hsold, hrevenue]

/-- A market sell without a resting order that the engine knows of. -/
private theorem market_sell_exact (h : Before qty 0 0 w) :
    wp sale_venue (market_sell arb_id filled_leg n) ReportsExactly w := by
  refine wp_mono (market_sell_sold h) fun a w' hsold order hok => ?_
  exact (hsold order hok).exact_market (fun hboth => absurd hboth.1 (lt_irrefl 0)) fun _ => rfl

/-- Selling the remainder. -/
private theorem sell_remainder_exact (h : Holds qty post w) :
    wp sale_venue (sell_remainder arb_id filled_leg qty post) ReportsExactly w := by
  unfold sell_remainder
  rw [wp_ite]
  constructor
  · intro hdone
    rw [wp_pure]
    refine reports_exactly_of (h.toBefore.exact ?_)
    -- filled by its status, or by its count
    rcases hdone with hfilled | hfull
    · exact (h.ended hfilled).2.le
    · exact (h.filled.trans h.size).trans hfull
  · intro _
    rw [wp_bind]
    refine wp_mono (market_sell_sold h.toBefore) fun a w' hsold => ?_
    cases a with
    | error err =>
      rw [wp_pure]
      exact fun order heq => nomatch heq
    | ok market_order =>
      have hanswered := hsold market_order rfl
      rw [wp_ite, wp_pure, wp_pure]
      constructor
      · rintro hboth order heq
        cases heq
        exact hanswered.exact_blend hboth
      · rintro hone order heq
        cases heq
        refine hanswered.exact_market hone ?_
        intro hzero
        unfold Order.revenue
        rw [hzero, Nat.cast_zero, mul_zero]

/-- Cancelling, reading once more and selling the remainder. -/
private theorem cancel_and_market_sell_exact (h : Holds qty resting w) :
    wp sale_venue (cancel_and_market_sell arb_id filled_leg qty resting) ReportsExactly w := by
  unfold cancel_and_market_sell
  dsimp only
  rw [wp_bind, wp_send]
  rintro _ w₁ ⟨w₀, he₀, rfl⟩
  have h₀ := h.elapses he₀
  have h₁ : Holds qty resting { w₀ with live := false, cancel_sent := true } :=
    ⟨⟨h₀.market, h₀.market_proceeds, h₀.unsent, h₀.size, h₀.filled, h₀.counted, h₀.le, h₀.paid⟩,
      fun hfilled => ⟨rfl, (h₀.ended hfilled).2⟩⟩
  rw [wp_bind, wp_send]
  rintro answer w₂ ⟨w₃, he₃, htrue, rfl⟩
  have h₃ := h₁.elapses he₃
  -- the reading that survives is the counted one
  cases answer with
  | error _ =>
    refine sell_remainder_exact ⟨⟨h₃.market, h₃.market_proceeds, h₃.unsent, h₃.size, h₃.filled,
      h₁.counted, h₃.le, h₃.paid⟩, h₃.ended⟩
  | ok r =>
    have hread := Holds.of_reports h₃.toBefore (htrue r rfl)
    have hcounted : (if true = true ∨ r.in_place = true then r.order.fill_qty else w₀.counted) =
        r.order.fill_qty := if_pos (.inl rfl)
    refine sell_remainder_exact ?_
    show Holds qty r.order { w₃ with counted := if true = true ∨ r.in_place = true then
      r.order.fill_qty else w₀.counted }
    rw [hcounted]
    exact hread

/-- Polling ends with an exact order, or with the order the engine holds. -/
private theorem poll_resting_exact (h : Holds qty resting w) (hc : w.cancel_sent = false) :
    wp sale_venue (poll_resting platform qty n resting)
      (fun r w' => match r with
        | .inl filled => Exact filled w' ∧ AllCounted w'
        | .inr held => Holds qty held w') w := by
  induction n generalizing resting w with
  | zero =>
    unfold poll_resting
    rw [wp_ret]
    exact h
  | succ n ih =>
    unfold poll_resting
    rw [wp_bind, wp_send]
    rintro _ w₁ hsleep
    have he₁ : Elapses w w₁ := hsleep
    have h₁ := h.elapses he₁
    have hc₁ : w₁.cancel_sent = false := by
      obtain ⟨_, _, _, rfl⟩ := he₁.rest
      exact hc
    rw [wp_bind, wp_send]
    rintro answer w₂ ⟨w₃, he₃, htrue, rfl⟩
    have h₃ := h₁.elapses he₃
    have hc₃ : w₃.cancel_sent = false := by
      obtain ⟨_, _, _, rfl⟩ := he₃.rest
      exact hc₁
    cases answer with
    | error _ =>
      refine ih ?_ hc₃
      exact ⟨⟨h₃.market, h₃.market_proceeds, h₃.unsent, h₃.size, h₃.filled, h₁.counted, h₃.le,
        h₃.paid⟩, h₃.ended⟩
    | ok r =>
      have hreports := htrue r rfl
      -- the object the engine holds is the reading, if it was taken in place
      have hheld : Holds qty (r.held resting)
          { w₃ with counted := if w₁.cancel_sent ∨ r.in_place then r.order.fill_qty
                               else w₁.counted } := by
        by_cases hplace : r.in_place = true
        · rw [if_pos (.inr hplace), Reading.held, if_pos hplace]
          exact Holds.of_reports h₃.toBefore hreports
        · rw [if_neg (by simp [hc₁, hplace]), Reading.held, if_neg hplace]
          exact ⟨⟨h₃.market, h₃.market_proceeds, h₃.unsent, h₃.size, h₃.filled, h₁.counted,
            h₃.le, h₃.paid⟩, h₃.ended⟩
      dsimp only
      rw [wp_ite, wp_pure]
      constructor
      · intro _
        have hread := Holds.of_reports h₃.toBefore hreports
        obtain ⟨hexact, -⟩ := hread.toBefore.exact hreports.filled.ge
        refine ⟨⟨hexact.count, hexact.proceeds⟩, ?_⟩
        intro hsent
        have hunsent : w₃.market_sent = false := h₃.unsent
        rw [show w₃.market_sent = true from hsent] at hunsent
        cases hunsent
      · intro _
        rw [wp_ite, wp_pure]
        exact ⟨fun _ => hheld, fun _ => ih hheld hc₃⟩

end run

/-- A sell of that leg which sold `filled` contracts at forty cents. -/
def sold_at_forty (status : OrderStatus) (filled : ℕ) : Leg :=
  { unwind_order status filled with fill_price := 2 / 5 }

end Execution
