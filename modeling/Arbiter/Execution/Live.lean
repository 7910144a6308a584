import Arbiter.Scanner.Fees
import Arbiter.Execution.Classify
import Arbiter.Execution.Fallbacks
import Arbiter.Execution.Recovery

/-! # Live Execution

  `_live_execution`: gates, the primary leg, the secondary leg sized to what the
  primary filled, the classification, the booking, the recovery.

  The three large steps (placing a leg, the secondary chain, the recovery) are
  calls of their own here; an environment answers them with runs of their
  programs, or with less where a result needs less.

  ## Contents

  - Section 1: calls, settings and the opportunity by side.
  - Section 2: the gates before any order.
  - Section 3: the primary leg.
  - Section 4: the secondary leg.
  - Section 5: classification, booking, recovery.
  - Section 6: the parts that only ask.
  - Section 7: a concrete way through the gates, in any environment.
-/

namespace Execution

open Effect Decimal Scanner

/-! ## Section 1: Calls and settings -/

/-- Calls of `_live_execution`: its own methods, and what is asked of the outside. -/
inductive Proc
  | outside (c : Call)
  | place_order_for_leg (platform : String) (req : OrderRequest) (use_ioc : Bool)
      (atomic_arb_stub : Option Stub)
  | execute_with_fallbacks (leg : SecondaryLeg) (skip_initial_attempt : Bool)
  | recover_one_leg_risk (arb_id : String) (opp : Opportunity) (leg_yes leg_no : Leg)

/-- What each answers. -/
@[reducible] def Outcomes : Proc → Type
  | .outside c => Answer c
  | .place_order_for_leg .. => Except String Leg
  | .execute_with_fallbacks .. => Except String (Option Leg)
  | .recover_one_leg_risk .. => Recovered

/-- Programs at the level of `_live_execution`. -/
abbrev Live := Prog Proc Outcomes

/-- A call to the outside. -/
abbrev ask (c : Call) : Live (Answer c) := .send (Proc.outside c)

abbrev call_place_order_for_leg (platform : String) (req : OrderRequest) (use_ioc : Bool)
    (atomic_arb_stub : Option Stub) : Live (Except String Leg) :=
  .send (Proc.place_order_for_leg platform req use_ioc atomic_arb_stub)

abbrev call_execute_with_fallbacks (leg : SecondaryLeg) (skip_initial_attempt : Bool) :
    Live (Except String (Option Leg)) :=
  .send (Proc.execute_with_fallbacks leg skip_initial_attempt)

abbrev call_recover_one_leg_risk (arb_id : String) (opp : Opportunity) (leg_yes leg_no : Leg) :
    Live Recovered :=
  .send (Proc.recover_one_leg_risk arb_id opp leg_yes leg_no)

/-- Settings that `_live_execution` reads, from the environment and the scanner. -/
structure LiveConfig where
  min_platform_reserve_usd : ℚ
  /-- `min_edge_for_pair`, in cents. -/
  min_edge_for_pair : String → String → ℚ
  /-- `EXECUTION_ORDER` is `kalshi_first`. -/
  kalshi_first : Bool
  /-- `FOK_SLIPPAGE_TICKS`, by platform. -/
  fok_slippage_ticks : String → ℕ
  fok_buffer_min_net_cents : ℚ
  /-- `EXECUTOR_PRIMARY_TIF` is not `FOK`, by platform. -/
  primary_use_ioc : String → Bool
  inter_leg_delay_ms : ℚ

namespace Opportunity

/-- `getattr(opp, f"{side}_platform")`. -/
def platform (opp : Opportunity) : Side → String
  | .yes => opp.yes_platform
  | .no => opp.no_platform

/-- `getattr(opp, f"{side}_market_id")`. -/
def market_id (opp : Opportunity) : Side → String
  | .yes => opp.yes_market_id
  | .no => opp.no_market_id

/-- `getattr(opp, f"{side}_price")`. -/
def price (opp : Opportunity) : Side → ℚ≥0
  | .yes => opp.yes_price
  | .no => opp.no_price

/-- The fee rate of a side. -/
def fee_rate (opp : Opportunity) : Side → ℚ≥0
  | .yes => opp.yes_fee_rate
  | .no => opp.no_fee_rate

end Opportunity

/-- The fee per contract of one side, at a price. -/
def fee_per (opp : Opportunity) (side : Side) (price : ℚ) (qty : ℕ) : ℚ :=
  compute_fee (opp.platform side) price qty (opp.fee_rate side) / max qty 1

/-- The edge per contract after fees, with one side bought at `price` and the other
    at its quote. -/
def net_edge_at (opp : Opportunity) (side : Side) (price : ℚ) (qty : ℕ) : ℚ :=
  1 - (price + opp.price side.other) - fee_per opp side price qty -
    fee_per opp side.other (opp.price side.other) qty

/-- A leg the engine makes up without an order. -/
def placeholder (arb_id suffix : String) (opp : Opportunity) (side : Side) (price : ℚ≥0)
    (qty : ℕ) (error : String) : Leg :=
  Order.synthetic (arb_id ++ "-" ++ side.upper ++ "-" ++ suffix) (opp.platform side)
    (opp.market_id side) opp.canonical_id side price qty .aborted error

/-! ## Section 2: Gates -/

/-- The first platform short of its notional and the reserve, if there is one. -/
def balance_gate (cfg : LiveConfig) : List (String × ℚ≥0) → Live (Option String)
  | [] => .ret none
  | (platform, notional) :: rest => do
      match ← ask (.balance platform) with
      | none => balance_gate cfg rest
      | some available =>
          if available < notional + cfg.min_platform_reserve_usd then return some platform
          else balance_gate cfg rest

/-- `_leg_notionals`: one entry per platform, the NO leg's when both are on one. -/
def leg_notionals (opp : Opportunity) (qty : ℕ) : List (String × ℚ≥0) :=
  if opp.yes_platform = opp.no_platform then [(opp.no_platform, opp.no_price * qty)]
  else [(opp.yes_platform, opp.yes_price * qty), (opp.no_platform, opp.no_price * qty)]

/-- `max(1, int(opp.suggested_qty or 1))`. -/
def live_qty (opp : Opportunity) : ℕ := max 1 opp.suggested_qty

/-- The side placed first: Polymarket's, or Kalshi's in the legacy order. -/
def primary_side (cfg : LiveConfig) (opp : Opportunity) : Side :=
  if cfg.kalshi_first then
    if opp.yes_platform = "kalshi" then .yes
    else if opp.no_platform = "kalshi" then .no
    else .yes
  else if opp.yes_platform = "polymarket" then .yes
  else if opp.no_platform = "polymarket" then .no
  else if opp.yes_platform = "polymarket_us" then .yes
  else if opp.no_platform = "polymarket_us" then .no
  else .yes

/-- Step 0: the largest of `try_qty`, `try_qty / 2`, … that the book has depth for.
    The fuel `try_qty` outlasts the halving. -/
def find_depth (platform market_id : String) (side : Side) :
    ℕ → ℕ → Live (Except String (Option ℕ))
  | 0, _ => .ret (.ok none)
  | fuel + 1, try_qty => do
      if try_qty = 0 then return .ok none
      else
        match ← ask (.check_depth platform market_id side try_qty) with
        | .error err => return .error err
        | .ok (sufficient, _) =>
            if sufficient then return .ok (some try_qty)
            else find_depth platform market_id side fuel (try_qty / 2)

/-- The depth step, for adapters that have it. -/
def depth_gate (eng : Engine) (platform market_id : String) (side : Side) (qty : ℕ) :
    Live (Except String (Option ℕ)) :=
  if (eng.adapters platform).any Adapter.has_check_depth then
    find_depth platform market_id side qty qty
  else .ret (.ok (some qty))

/-! ## Section 3: The primary leg -/

/-- Step 0b: the price the book asks for the whole quantity, or nothing when the arb
    is not worth it at that price. -/
def walk_primary (eng : Engine) (cfg : LiveConfig) (opp : Opportunity) (side : Side) (qty : ℕ) :
    Live (Except String (Option ℚ≥0)) := do
  if (eng.adapters (opp.platform side)).any Adapter.has_best_executable_price then
    match ← ask (.best_executable_price (opp.platform side) (opp.market_id side) side qty) with
    | .error err => return .error err
    | .ok (fillable, exec_price) =>
        if fillable ∧ 0 < exec_price then
          if opp.price side < exec_price ∧
              net_edge_at opp side exec_price qty * 100 <
                cfg.min_edge_for_pair opp.yes_platform opp.no_platform then
            return .ok none
          else return .ok (some exec_price)
        else return .ok (some (opp.price side))
  else return .ok (some (opp.price side))

/-- Step 0c: the limit lifted by the slippage ticks, where the edge allows it. -/
def buffered_price (cfg : LiveConfig) (opp : Opportunity) (side : Side) (qty : ℕ)
    (price : ℚ≥0) : ℚ≥0 :=
  let lifted := min (price + cfg.fok_slippage_ticks (opp.platform side) / 100) (99 / 100)
  if 0 < cfg.fok_slippage_ticks (opp.platform side) ∧
      cfg.fok_buffer_min_net_cents ≤ net_edge_at opp side lifted qty * 100 then lifted
  else price

/-- Step 1: place the primary leg. -/
def place_primary (cfg : LiveConfig) (arb_id : String) (opp : Opportunity) (side : Side) (qty : ℕ)
    (price : ℚ≥0) : Live (Except String Leg) :=
  call_place_order_for_leg (opp.platform side)
    { arb_id := arb_id, market_id := opp.market_id side, canonical_id := opp.canonical_id
      side := side, price := buffered_price cfg opp side qty price, qty := qty }
    (cfg.primary_use_ioc (opp.platform side))
    (some { opportunity := opp, net_edge := some opp.net_edge })

/-! ## Section 4: The secondary leg -/

/-- The secondary book walked right before the submit; a walk that finds no full fill
    leaves the quote. -/
def walk_secondary (eng : Engine) (opp : Opportunity) (side : Side) (qty : ℕ) :
    Live (Except String ℚ≥0) := do
  if (eng.adapters (opp.platform side)).any Adapter.has_best_executable_price then
    match ← ask (.best_executable_price (opp.platform side) (opp.market_id side) side qty) with
    | .error err => return .error err
    | .ok (fillable, exec_price) =>
        if fillable ∧ 0 < exec_price then return .ok exec_price
        else return .ok (opp.price side)
  else return .ok (opp.price side)

/-- `max_affordable_secondary`: what keeps the edge floor against the primary's fill. -/
def max_affordable (cfg : LiveConfig) (opp : Opportunity) (primary_leg : Leg) (side : Side)
    (qty : ℕ) (secondary_price : ℚ≥0) : ℚ≥0 :=
  let primary_qty := if primary_leg.fill_qty = 0 then qty else primary_leg.fill_qty
  (1 - primary_leg.fill_price - fee_per opp side.other primary_leg.fill_price primary_qty -
    fee_per opp side secondary_price qty -
    cfg.min_edge_for_pair opp.yes_platform opp.no_platform / 100 : ℚ).toNNRat

/-- How far past `max_affordable` the book may be for a first attempt to be made. -/
def hopeless_threshold (platform : String) : ℚ≥0 :=
  if platform = "polymarket" then 0 else 1 / 100

/-- The secondary leg at a walked price. The chain may come back with nothing only
    when it was entered without a first attempt. -/
def secondary_at (cfg : LiveConfig) (arb_id : String) (opp : Opportunity) (primary_leg : Leg)
    (side : Side) (qty : ℕ) (walked : ℚ≥0) : Live (Except String Leg) := do
  let affordable := max_affordable cfg opp primary_leg side qty walked
  -- the book is too far above what is affordable for a first attempt
  let abort_secondary : Bool := affordable + hopeless_threshold (opp.platform side) < walked
  let edge_floor := cfg.min_edge_for_pair opp.yes_platform opp.no_platform / 100
  let answer ← call_execute_with_fallbacks
    { arb_id := arb_id, platform := opp.platform side, market_id := opp.market_id side
      canonical_id := opp.canonical_id, side := side
      initial_price := if abort_secondary then walked else affordable
      qty := qty, max_affordable_price := affordable
      break_even_price := some (affordable + edge_floor : ℚ).toNNRat }
    abort_secondary
  match answer with
  | .error err => return .error err
  | .ok (some secondary_leg) => return .ok secondary_leg
  | .ok none =>
      return .ok (placeholder arb_id "EDGE-LOST" opp side walked qty
        ("Secondary live-book exec price " ++ fixed 4 walked ++ " exceeds max-affordable " ++
          fixed 4 affordable ++ " after primary fill at " ++ fixed 4 primary_leg.fill_price ++
          " (requote attempts exhausted)"))

/-- The pause between the legs. -/
def inter_leg_delay (cfg : LiveConfig) : Live Unit :=
  if 0 < cfg.inter_leg_delay_ms then ask (.sleep (cfg.inter_leg_delay_ms / 1000)) else .ret ()

/-- The type name of a raised exception, from its text. -/
def exc_type (err : String) : String := (err.splitOn ":").headD ""

/-- The block that may raise between the primary fill and the secondary order. -/
def try_secondary (eng : Engine) (cfg : LiveConfig) (arb_id : String) (opp : Opportunity)
    (primary_leg : Leg) (side : Side) (qty : ℕ) : Live (Except String Leg) := do
  inter_leg_delay cfg
  match ← walk_secondary eng opp side qty with
  | .error err => return .error err
  | .ok walked => secondary_at cfg arb_id opp primary_leg side qty walked

/-- Both legs as an incident about them names them. -/
def named_legs (opp : Opportunity) (side : Side) : List (String × Side) :=
  [(opp.platform side.other, side.other), (opp.platform side, side)]

/-- An exception of the secondary block becomes an ABORTED leg and an incident. -/
def secondary_or_placeholder (eng : Engine) (cfg : LiveConfig) (arb_id : String)
    (opp : Opportunity) (primary_leg : Leg) (side : Side) (qty : ℕ) :
    Live (Leg × Option String) := do
  match ← try_secondary eng cfg arb_id opp primary_leg side qty with
  | .ok secondary_leg => return (secondary_leg, none)
  | .error err =>
      ask (.record_incident
        { arb_id := arb_id
          canonical_id := opp.canonical_id
          severity := .critical
          message := "Secondary execution raised before order construction (" ++ exc_type err ++
            ") — naked position"
          event_type := "secondary_execution_exception"
          legs := named_legs opp side })
      return (placeholder arb_id "EXCEPTION" opp side (opp.price side) qty
        ("Secondary execution raised before order construction: " ++ err), some err)

/-- The soft-naked incident: the secondary order is accepted but not filled. -/
def report_soft_naked (eng : Engine) (arb_id : String) (opp : Opportunity)
    (primary_leg secondary_leg : Leg) (side : Side) : Live Unit := do
  if secondary_leg.status = .submitted ∨ secondary_leg.status = .partialFill then
    let incident : Incident :=
      { arb_id := arb_id
        canonical_id := opp.canonical_id
        severity := .critical
        message := "Soft naked position: secondary leg accepted but not filled"
        event_type := "soft_naked_leg"
        legs := named_legs opp side }
    ask (.record_incident incident)
    if eng.has_safety then
      let _ ← ask (.handle_one_leg_exposure incident primary_leg secondary_leg)
      return ()
    else return ()
  else return ()

/-- The two legs as placed, primary first, and the exception to raise in the end. -/
structure Placed where
  primary_side : Side
  primary : Leg
  secondary : Leg
  secondary_exception : Option String

/-- Step 2: the secondary leg for what the primary filled; none for a primary that
    filled nothing. -/
def place_secondary (eng : Engine) (cfg : LiveConfig) (arb_id : String) (opp : Opportunity)
    (side : Side) (primary_leg : Leg) (effective_qty : ℕ) : Live Placed := do
  if primary_leg.fill_qty = 0 then
    return {
      primary_side := side.other
      primary := primary_leg
      secondary := placeholder arb_id "SKIPPED" opp side (opp.price side) effective_qty
        "Skipped: primary leg did not fill (sequential execution)"
      secondary_exception := none }
  else
    let (secondary_leg, raised) ← secondary_or_placeholder eng cfg arb_id opp primary_leg side
      (min primary_leg.fill_qty effective_qty)
    report_soft_naked eng arb_id opp primary_leg secondary_leg side
    return {
      primary_side := side.other
      primary := primary_leg
      secondary := secondary_leg
      secondary_exception := raised }

/-! ## Section 5: The execution -/

/-- The legs of an arb below the profitability gate. -/
def unprofitable (arb_id : String) (opp : Opportunity) (net_edge min_net_edge_cents : ℚ) :
    Placed :=
  let error := "Net edge " ++ fixed_signed 2 (net_edge * 100) ++ "¢ below " ++
    fixed_signed 1 min_net_edge_cents ++ "¢ minimum"
  { primary_side := .yes
    primary := placeholder arb_id "UNPROFITABLE" opp .yes opp.yes_price opp.suggested_qty error
    secondary := placeholder arb_id "UNPROFITABLE" opp .no opp.no_price opp.suggested_qty error
    secondary_exception := none }

/-- The sequential execution of the legs. Nothing comes back when the arb is skipped
    before any order. -/
def place_legs (eng : Engine) (cfg : LiveConfig) (arb_id : String) (opp : Opportunity) :
    Live (Except String (Option Placed)) := do
  let side := primary_side cfg opp
  match ← depth_gate eng (opp.platform side) (opp.market_id side) side (live_qty opp) with
  | .error err => return .error err
  | .ok none => return .ok none
  | .ok (some effective_qty) =>
      match ← walk_primary eng cfg opp side effective_qty with
      | .error err => return .error err
      | .ok none => return .ok none
      | .ok (some price) =>
          match ← place_primary cfg arb_id opp side effective_qty price with
          | .error err => return .error err
          | .ok primary_leg =>
              let placed ← place_secondary eng cfg arb_id opp side.other primary_leg effective_qty
              return .ok (some placed)

/-- The legs of the execution, or nothing when a gate rejects it. -/
def execute_legs (eng : Engine) (cfg : LiveConfig) (arb_id : String) (opp : Opportunity) :
    Live (Except String (Option Placed)) := do
  let qty := live_qty opp
  match ← balance_gate cfg (leg_notionals opp qty) with
  | some platform =>
      ask (.record_incident
        { arb_id := arb_id
          canonical_id := opp.canonical_id
          severity := .warning
          message := "Pre-trade balance gate: " ++ platform ++ " short"
          event_type := "balance_gate_reject"
          legs := [] })
      return .ok none
  | none =>
      -- at the opportunity's own prices, before any book is walked
      let net_edge := net_edge_at opp .yes opp.yes_price qty
      let min_net_edge_cents := cfg.min_edge_for_pair opp.yes_platform opp.no_platform
      if net_edge * 100 < min_net_edge_cents then
        return .ok (some (unprofitable arb_id opp net_edge min_net_edge_cents))
      else place_legs eng cfg arb_id opp

/-- The YES leg of the two placed. -/
def Placed.leg_yes (p : Placed) : Leg :=
  match p.primary_side with
  | .yes => p.primary
  | .no => p.secondary

/-- The NO leg of the two placed. -/
def Placed.leg_no (p : Placed) : Leg :=
  match p.primary_side with
  | .yes => p.secondary
  | .no => p.primary

/-- What a recovering execution books: the surviving leg alone, else both. -/
def surviving_legs (leg_yes leg_no : Leg) : RiskManager.Booked :=
  if leg_yes.status.surviving ∧ ¬ leg_no.status.surviving then .yes_only
  else if leg_no.status.surviving ∧ ¬ leg_yes.status.surviving then .no_only
  else .both

/-- Which legs are booked, if any. -/
def booking (leg_yes leg_no : Leg) : ExecStatus → Option RiskManager.Booked
  | .recovering => some (surviving_legs leg_yes leg_no)
  | .submitted => some .both
  | .filled => some .both
  | _ => none

/-- `record_trade`, for the legs that are booked. -/
def book_execution (opp : Opportunity) (realized_pnl : ℚ) : Option RiskManager.Booked → Live Unit
  | none => .ret ()
  | some b => ask (.record_trade opp.canonical_id (b.exposure opp) realized_pnl (b.allocation opp))

/-- The recovery, when one is due: the notes, the profit, and the legs as it leaves them. -/
def recover_if_needed (needs_recovery : Bool) (arb_id : String) (opp : Opportunity)
    (leg_yes leg_no : Leg) : Live Recovered :=
  if needs_recovery then call_recover_one_leg_risk arb_id opp leg_yes leg_no
  else .ret { notes := [], unwind_pnl := 0, leg_yes, leg_no }

/-- `record_arb`, where there is a store. -/
def persist_arb (eng : Engine) (opp : Opportunity) (execution : ArbExecution) : Live Unit := do
  if eng.has_store then
    match ← ask (.record_arb execution) with
    | .ok _ => return ()
    | .error err =>
        ask (.handle_db_failure "record_arb" execution.arb_id opp.canonical_id err)
  else return ()

/-- From the legs to the finished record. -/
def settle (eng : Engine) (arb_id : String) (opp : Opportunity) (leg_yes leg_no : Leg) :
    Live ArbExecution := do
  let (status, needs_recovery) := classify leg_yes leg_no
  let realized_pnl : ℚ :=
    if status = .filled ∨ status = .submitted then
      opp.net_edge * min leg_yes.fill_qty leg_no.fill_qty
    else 0
  let execution : ArbExecution :=
    { arb_id := arb_id, opportunity := opp, leg_yes := leg_yes, leg_no := leg_no
      status := status, realized_pnl := realized_pnl, unwind_pnl := 0, notes := [] }
  ask (.append_execution execution)
  -- booked before the recovery, which releases
  book_execution opp realized_pnl (booking leg_yes leg_no status)
  let recovered ← recover_if_needed needs_recovery arb_id opp leg_yes leg_no
  let execution :=
    { execution with
      leg_yes := recovered.leg_yes
      leg_no := recovered.leg_no
      notes := recovered.notes
      unwind_pnl := recovered.unwind_pnl
      realized_pnl := realized_pnl + recovered.unwind_pnl }
  ask (.maybe_halt_on_daily_loss recovered.unwind_pnl)
  persist_arb eng opp execution
  return execution

/-- `_live_execution`. -/
def live_execution (eng : Engine) (cfg : LiveConfig) (arb_id : String) (opp : Opportunity) :
    Live (Except String (Option ArbExecution)) := do
  match ← execute_legs eng cfg arb_id opp with
  | .error err => return .error err
  | .ok none => return .ok none
  | .ok (some placed) =>
      let execution ← settle eng arb_id opp placed.leg_yes placed.leg_no
      match placed.secondary_exception with
      | some err => return .error err
      | none => return .ok (some execution)

/-- An execution that goes to recovery is booked as recovering. -/
theorem classify_recovering {leg_yes leg_no : Leg}
    (h : (classify leg_yes leg_no).2 = true) : (classify leg_yes leg_no).1 = .recovering := by
  unfold classify at h ⊢
  split_ifs at h ⊢ <;> rfl

/-! ## Section 6: Programs that only ask -/

/-- The calls that ask for a price, a balance or a moment. -/
def Quotes : Proc → Prop
  | .outside (.balance _) => True
  | .outside (.check_depth ..) => True
  | .outside (.best_executable_price ..) => True
  | .outside (.sleep _) => True
  | _ => False

/-- Those, and the calls that keep the record: no order is sent, nothing is booked and
    no incident raised. -/
def Asks : Proc → Prop
  | .outside (.balance _) => True
  | .outside (.check_depth ..) => True
  | .outside (.best_executable_price ..) => True
  | .outside (.sleep _) => True
  | .outside (.record_arb _) => True
  | .outside (.handle_db_failure ..) => True
  | _ => False

/-- A program that quotes, asks. -/
theorem asking {α : Type} {p : Live α} (hp : p.Calls Quotes) : p.Calls Asks := by
  apply hp.mono
  intro c hc
  cases c with
  | outside c => cases c <;> first | exact hc | trivial
  | _ => exact hc

section asks

variable {eng : Engine} {cfg : LiveConfig} {opp : Opportunity}

theorem balance_gate_calls {notionals : List (String × ℚ≥0)} :
    (balance_gate cfg notionals).Calls Quotes := by
  induction notionals with
  | nil => exact calls_ret _
  | cons head rest ih =>
    apply Prog.Calls.bind (calls_send.2 trivial)
    intro balance
    cases balance with
    | none => exact ih
    | some available =>
      rw [calls_ite]
      exact ⟨fun _ => calls_pure _, fun _ => ih⟩

theorem find_depth_calls {platform market_id : String} {side : Side} {fuel try_qty : ℕ} :
    (find_depth platform market_id side fuel try_qty).Calls Quotes := by
  induction fuel generalizing try_qty with
  | zero => exact calls_ret _
  | succ fuel ih =>
    unfold find_depth
    rw [calls_ite]
    refine ⟨fun _ => calls_pure _, fun _ => ?_⟩
    apply Prog.Calls.bind (calls_send.2 trivial)
    intro depth
    cases depth with
    | error err => exact calls_pure _
    | ok book =>
      simp only [calls_ite]
      exact ⟨fun _ => calls_pure _, fun _ => ih⟩

theorem depth_gate_calls {platform market_id : String} {side : Side} {qty : ℕ} :
    (depth_gate eng platform market_id side qty).Calls Quotes := by
  rw [depth_gate, calls_ite]
  exact ⟨fun _ => find_depth_calls, fun _ => calls_ret _⟩

theorem walk_primary_calls {side : Side} {qty : ℕ} :
    (walk_primary eng cfg opp side qty).Calls Quotes := by
  rw [walk_primary, calls_ite]
  refine ⟨fun _ => ?_, fun _ => calls_pure _⟩
  apply Prog.Calls.bind (calls_send.2 trivial)
  intro walk
  cases walk with
  | error err => exact calls_pure _
  | ok book =>
    simp only [calls_ite]
    exact ⟨fun _ => ⟨fun _ => calls_pure _, fun _ => calls_pure _⟩, fun _ => calls_pure _⟩

theorem walk_secondary_calls {side : Side} {qty : ℕ} :
    (walk_secondary eng opp side qty).Calls Quotes := by
  rw [walk_secondary, calls_ite]
  refine ⟨fun _ => ?_, fun _ => calls_pure _⟩
  apply Prog.Calls.bind (calls_send.2 trivial)
  intro walk
  cases walk with
  | error err => exact calls_pure _
  | ok book =>
    simp only [calls_ite]
    exact ⟨fun _ => calls_pure _, fun _ => calls_pure _⟩

theorem inter_leg_delay_calls : (inter_leg_delay cfg).Calls Quotes := by
  rw [inter_leg_delay, calls_ite]
  exact ⟨fun _ => calls_send.2 trivial, fun _ => calls_ret _⟩

theorem persist_arb_calls {execution : ArbExecution} :
    (persist_arb eng opp execution).Calls Asks := by
  rw [persist_arb, calls_ite]
  refine ⟨fun _ => ?_, fun _ => calls_pure _⟩
  apply Prog.Calls.bind (calls_send.2 trivial)
  intro answer
  cases answer with
  | ok _ => exact calls_pure _
  | error err => exact calls_send.2 trivial

/-- The calls that place the legs: asking, sending orders, raising incidents. -/
def Places : Proc → Prop
  | .outside (.record_incident _) => True
  | .outside (.handle_one_leg_exposure ..) => True
  | .outside c => Quotes (.outside c)
  | .place_order_for_leg .. => True
  | .execute_with_fallbacks .. => True
  | .recover_one_leg_risk .. => False

theorem Quotes.places {c : Proc} (h : Quotes c) : Places c := by
  cases c with
  | outside c => cases c <;> first | exact h | trivial
  | recover_one_leg_risk => exact h
  | _ => trivial

/-- The calls that place the secondary leg: no order but those of the chain. -/
def PlacesSecondary : Proc → Prop
  | .place_order_for_leg .. => False
  | c => Places c

theorem Quotes.placesSecondary {c : Proc} (h : Quotes c) : PlacesSecondary c := by
  cases c with
  | place_order_for_leg => exact h
  | outside c => exact h.places
  | execute_with_fallbacks => exact h.places
  | recover_one_leg_risk => exact h.places

theorem PlacesSecondary.places {c : Proc} (h : PlacesSecondary c) : Places c := by
  cases c with
  | place_order_for_leg => exact h.elim
  | _ => exact h

theorem place_secondary_calls {arb_id : String} {side : Side} {primary_leg : Leg} {qty : ℕ} :
    (place_secondary eng cfg arb_id opp side primary_leg qty).Calls PlacesSecondary := by
  have hat : ∀ qty walked, (secondary_at cfg arb_id opp primary_leg side qty walked).Calls PlacesSecondary := by
    intro qty walked
    unfold secondary_at
    apply Prog.Calls.bind (calls_send.2 trivial)
    intro answer
    match answer with
    | .error err => exact calls_pure _
    | .ok (some secondary_leg) => exact calls_pure _
    | .ok none => exact calls_pure _
  -- from the inside out: one attempt, the placeholder after an exception, the soft-naked report
  have htry : ∀ qty, (try_secondary eng cfg arb_id opp primary_leg side qty).Calls PlacesSecondary := by
    intro qty
    unfold try_secondary
    apply Prog.Calls.bind (inter_leg_delay_calls.mono fun _ => Quotes.placesSecondary)
    intro _
    apply Prog.Calls.bind (walk_secondary_calls.mono fun _ => Quotes.placesSecondary)
    intro walk
    cases walk with
    | error err => exact calls_pure _
    | ok walked => exact hat qty walked
  have hsecond : ∀ qty,
      (secondary_or_placeholder eng cfg arb_id opp primary_leg side qty).Calls PlacesSecondary := by
    intro qty
    unfold secondary_or_placeholder
    apply Prog.Calls.bind (htry qty)
    intro answer
    cases answer with
    | ok secondary_leg => exact calls_pure _
    | error err => exact .bind (calls_send.2 trivial) fun _ => calls_pure _
  have hreport : ∀ secondary_leg,
      (report_soft_naked eng arb_id opp primary_leg secondary_leg side).Calls PlacesSecondary := by
    intro secondary_leg
    unfold report_soft_naked
    rw [calls_ite]
    refine ⟨fun _ => .bind (calls_send.2 trivial) fun _ => ?_, fun _ => calls_pure _⟩
    rw [calls_ite]
    exact ⟨fun _ => .bind (calls_send.2 trivial) fun _ => calls_pure _, fun _ => calls_pure _⟩
  unfold place_secondary
  rw [calls_ite]
  refine ⟨fun _ => calls_pure _, fun _ => (hsecond _).bind fun r => ?_⟩
  exact (hreport r.1).bind fun _ => calls_pure _

/-- Placing the legs neither books anything nor recovers. -/
theorem execute_legs_calls {arb_id : String} : (execute_legs eng cfg arb_id opp).Calls Places := by
  unfold execute_legs
  apply Prog.Calls.bind (balance_gate_calls.mono fun _ => Quotes.places)
  intro short
  cases short with
  | some platform => exact .bind (calls_send.2 trivial) fun _ => calls_pure _
  | none =>
    simp only [calls_ite]
    refine ⟨fun _ => calls_pure _, fun _ => ?_⟩
    unfold place_legs
    apply Prog.Calls.bind (depth_gate_calls.mono fun _ => Quotes.places)
    intro depth
    rcases depth with err | (_ | effective_qty)
    · exact calls_pure _
    · exact calls_pure _
    · apply Prog.Calls.bind (walk_primary_calls.mono fun _ => Quotes.places)
      intro walk
      rcases walk with err | (_ | price)
      · exact calls_pure _
      · exact calls_pure _
      · apply Prog.Calls.bind (calls_send.2 trivial)
        intro answer
        cases answer with
        | error err => exact calls_pure _
        | ok primary_leg =>
          apply (place_secondary_calls.mono fun _ => PlacesSecondary.places).bind
          exact fun _ => calls_pure _

/-- The calls that book, recover and record: no leg is placed. -/
def KeepsBooks : Proc → Prop
  | .outside _ => True
  | .recover_one_leg_risk .. => True
  | _ => False

theorem Asks.keepsBooks {c : Proc} (h : Asks c) : KeepsBooks c := by
  cases c with
  | outside c => trivial
  | recover_one_leg_risk => trivial
  | place_order_for_leg => exact h
  | execute_with_fallbacks => exact h

theorem settle_calls {arb_id : String} {leg_yes leg_no : Leg} :
    (settle eng arb_id opp leg_yes leg_no).Calls KeepsBooks := by
  have hbook : ∀ pnl legs, (book_execution opp pnl legs).Calls KeepsBooks := by
    intro pnl legs
    cases legs with
    | none => exact calls_ret _
    | some legs => exact calls_send.2 trivial
  unfold settle
  apply Prog.Calls.bind (calls_send.2 trivial)
  intro _
  apply Prog.Calls.bind (hbook _ _)
  intro _
  apply Prog.Calls.bind
  · rw [recover_if_needed, calls_ite]
    exact ⟨fun _ => calls_send.2 trivial, fun _ => calls_ret _⟩
  intro recovered
  apply Prog.Calls.bind (calls_send.2 trivial)
  intro _
  exact .bind (persist_arb_calls.mono fun _ => Asks.keepsBooks) fun _ => calls_pure _

end asks

/-! ## Section 7: A way through the gates -/

/-- Ten contracts, YES on Kalshi against NO on Polymarket. -/
def ten_across : Opportunity :=
  { ten_contracts with no_platform := "polymarket", no_market_id := "0x1" }

/-- Settings that let `ten_across` through and place Kalshi first. -/
def kalshi_first_config : LiveConfig where
  min_platform_reserve_usd := 0
  min_edge_for_pair := fun _ _ => 1
  kalshi_first := true
  fok_slippage_ticks := fun _ => 0
  fok_buffer_min_net_cents := 0
  primary_use_ioc := fun _ => true
  inter_leg_delay_ms := 0

/-- The request for the primary of `ten_across`. -/
def ten_across_primary : OrderRequest where
  arb_id := "ARB-000001"
  market_id := "KX-1"
  canonical_id := "mkt-1"
  side := .yes
  price := 2 / 5
  qty := 10

/-- The engine that trades `ten_across`, with or without a store. -/
abbrev trading_engine (has_store : Bool) : Engine :=
  { kalshi_engine true with has_store := has_store }

/-- `ten_across` as the scanner quotes its edge. -/
abbrev across_at (net_edge : ℚ) : Opportunity := { ten_across with net_edge := net_edge }

/-- A run of `ten_across` in any environment: no balance is known, Kalshi has the depth
    and no better price, and the primary is placed. -/
theorem ten_across_run {W : Type} {E : Env Proc Outcomes W} {w w₁ w₂ : W} {primary : Leg}
    {placed : Placed} (eng : Engine)
    (hkalshi : eng.adapters "kalshi" = (kalshi_engine true).adapters "kalshi") (net_edge : ℚ)
    (hbalance : ∀ platform, E.serve w (.outside (.balance platform)) none w)
    (hdepth : E.serve w (.outside (.check_depth "kalshi" "KX-1" .yes 10)) (.ok (true, 2 / 5)) w)
    (hwalk : E.serve w (.outside (.best_executable_price "kalshi" "KX-1" .yes 10))
      (.ok (false, 0)) w)
    (hplace : E.serve w (.place_order_for_leg "kalshi" ten_across_primary true
      (some ⟨across_at net_edge, some net_edge⟩)) (.ok primary) w₁)
    (hsecond : Exec E (place_secondary eng kalshi_first_config "ARB-000001"
      (across_at net_edge) .no primary 10) w₁ placed w₂) :
    Exec E (execute_legs eng kalshi_first_config "ARB-000001" (across_at net_edge)) w
      (.ok (some placed)) w₂ := by
  -- every gate before the primary lets the ten contracts through at the quoted price
  have hedge : ¬ net_edge_at ten_across .yes (2 / 5 : ℚ≥0) 10 * 100 < 1 := by decide +kernel
  have hdeep : Exec E (depth_gate eng "kalshi" "KX-1" .yes 10) w (.ok (some 10)) w := by
    rw [depth_gate, hkalshi]
    exact .call hdepth (.ret _ _)
  have hwalked : Exec E (walk_primary eng kalshi_first_config (across_at net_edge) .yes 10) w
      (.ok (some (2 / 5))) w := by
    unfold walk_primary
    show Exec _ (if (eng.adapters "kalshi").any _ then _ else _) _ _ _
    rw [hkalshi]
    exact .call hwalk (.ret _ _)
  have hprice : buffered_price kalshi_first_config (across_at net_edge) .yes 10 (2 / 5) = 2 / 5 := by
    simp [buffered_price, kalshi_first_config]
  have hprimary : Exec E
      (place_primary kalshi_first_config "ARB-000001" (across_at net_edge) .yes 10 (2 / 5)) w
      (.ok primary) w₁ := by
    rw [place_primary, hprice]
    exact .call hplace (.ret _ _)
  have hlegs : Exec E (place_legs eng kalshi_first_config "ARB-000001" (across_at net_edge)) w
      (.ok (some placed)) w₂ :=
    exec_bind.2 ⟨_, _, hdeep, exec_bind.2 ⟨_, _, hwalked, exec_bind.2 ⟨_, _, hprimary,
      exec_bind.2 ⟨_, _, hsecond, .ret _ _⟩⟩⟩⟩
  refine .call (hbalance "kalshi") (.call (hbalance "polymarket") ?_)
  show Exec _ (if net_edge_at ten_across .yes (2 / 5 : ℚ≥0) 10 * 100 < 1 then _ else _) _ _ _
  rw [if_neg hedge]
  exact hlegs

/-- The primary of `ten_across`, filled at `price`. -/
def bought_at (price : ℚ≥0) : Leg := { ten_filled with fill_price := price }

/-- Its secondary, rejected. -/
def rejected_no : Leg :=
  Order.synthetic "0x9" "polymarket" "0x1" "mkt-1" .no (2 / 5) 10 .failed "rejected"

/-- The ten contracts sold back at what they cost. -/
def sold_back (price : ℚ≥0) : Leg := { unwind_order .filled 10 with fill_price := price }

/-- The profit of selling at cost. -/
def sold_back_pnl (price : ℚ≥0) : ℚ := (10 : ℕ) * ((price : ℚ) - price)

/-- The primary fills, the secondary is rejected. -/
def sold_back_placed (price : ℚ≥0) : Placed where
  primary_side := .yes
  primary := bought_at price
  secondary := rejected_no
  secondary_exception := none

/-- What the recovery of that execution returns. -/
structure SoldBack (price : ℚ≥0) (r : Recovered) : Prop where
  unwind_pnl : r.unwind_pnl = sold_back_pnl price
  leg_yes : r.leg_yes = bought_at price
  leg_no : r.leg_no = rejected_no

/-- The recovery sells the ten contracts back, in any environment that lets it. -/
theorem sold_back_recovery {W : Type} {E : Env Call Answer W} {w w₁ w₂ w₃ : W} {price : ℚ≥0}
    (has_store : Bool) (hincident : ∀ i w, E.serve w (.record_incident i) () w)
    (hresolve : ∀ w, E.serve w (.auto_resolve_recovery_incidents "ARB-000001" 10 10) () w)
    (hsold : E.serve w (.smart_unwind "ARB-000001" (bought_at price) 10) (.ok (sold_back price)) w₁)
    (hrelease : E.serve w₁ (.release_trade "mkt-1" ((10 : ℕ) * price) (.single "kalshi")) () w₂)
    (hmark : Exec E (reconcile_naked_leg (trading_engine has_store) "ARB-000001" (bought_at price)
      (sold_back price) 10 (sold_back_pnl price)) w₂ () w₃) :
    ∃ r, SoldBack price r ∧ Exec E (recover_one_leg_risk (trading_engine has_store) "ARB-000001"
      ten_across (bought_at price) rejected_no) w r w₃ := by
  have hannounce : Exec E (announce_exposure (trading_engine has_store) "ARB-000001" ten_across
      (bought_at price) rejected_no) w () w := .call (hincident _ _) (.ret _ _)
  have hdead : ¬ (rejected_no.fill_qty = 0 ∧ possiblyLive rejected_no) := by decide +kernel
  have hverified : Exec E (verify_before_unwind (trading_engine has_store) "ARB-000001" ten_across
      (bought_at price) rejected_no 10) w (some 10, [], rejected_no) w := by
    unfold verify_before_unwind
    rw [if_neg hdead]
    exact .ret _ _
  have hreconciled : ∀ r : List String × ℚ, Exec E (reconcile_naked_leg (trading_engine has_store)
      "ARB-000001" (bought_at price) (sold_back price) 10 (sold_back_pnl price) >>= fun _ => .ret r)
      w₂ r w₃ := fun r => exec_bind.2 ⟨_, _, hmark, .ret _ _⟩
  have hunwound : ∃ notes, Exec E (unwind (trading_engine has_store) "ARB-000001" ten_across
      (bought_at price) 10) w (notes, sold_back_pnl price) w₃ :=
    ⟨_, .call hsold (.call hrelease (.call (hincident _ _) (.call (hresolve _) (hreconciled _))))⟩
  obtain ⟨notes, hunwound⟩ := hunwound
  exact ⟨_, ⟨rfl, rfl, rfl⟩, exec_bind.2 ⟨_, _, hannounce, exec_bind.2 ⟨_, _, .ret _ _,
    exec_bind.2 ⟨_, _, .ret _ _, exec_bind.2 ⟨_, _, exec_bind.2 ⟨_, _, hverified, exec_bind.2
      ⟨_, _, hunwound, .ret _ _⟩⟩, .ret _ _⟩⟩⟩⟩⟩

/-- The record of that execution. -/
def sold_back_record (price : ℚ≥0) (notes : List String) : ArbExecution where
  arb_id := "ARB-000001"
  opportunity := ten_across
  leg_yes := bought_at price
  leg_no := rejected_no
  status := .recovering
  realized_pnl := 0 + sold_back_pnl price
  unwind_pnl := sold_back_pnl price
  notes := notes

/-- The whole execution: the primary fills, the secondary is rejected, the primary is
    sold back. -/
theorem sold_back_execution {W : Type} {E : Env Proc Outcomes W} {w₀ w₁ w₂ w₃ w₄ w₅ w₆ : W}
    {price : ℚ≥0} (has_store : Bool)
    (hbalance : ∀ platform, E.serve w₀ (.outside (.balance platform)) none w₀)
    (hdepth : E.serve w₀ (.outside (.check_depth "kalshi" "KX-1" .yes 10)) (.ok (true, 2 / 5)) w₀)
    (hwalk : E.serve w₀ (.outside (.best_executable_price "kalshi" "KX-1" .yes 10))
      (.ok (false, 0)) w₀)
    (hplace : E.serve w₀ (.place_order_for_leg "kalshi" ten_across_primary true
      (some ⟨ten_across, some (1 / 5)⟩)) (.ok (bought_at price)) w₁)
    (hchain : ∀ leg skip, leg.side = .no →
      E.serve w₁ (.execute_with_fallbacks leg skip) (.ok (some rejected_no)) w₂)
    (happend : ∀ execution, E.serve w₂ (.outside (.append_execution execution)) () w₂)
    (hbook : E.serve w₂ (.outside (.record_trade "mkt-1" ten_across.yes_exposure 0
      (.single "kalshi"))) () w₃)
    (hrecover : ∃ r, SoldBack price r ∧ E.serve w₃ (.recover_one_leg_risk "ARB-000001" ten_across
      (bought_at price) rejected_no) r w₄)
    (hhalt : E.serve w₄ (.outside (.maybe_halt_on_daily_loss (sold_back_pnl price))) () w₅)
    (hpersist : ∀ notes, Exec E (persist_arb (trading_engine has_store) ten_across
      (sold_back_record price notes)) w₅ () w₆) :
    ∃ r, Exec E (live_execution (trading_engine has_store) kalshi_first_config "ARB-000001"
      ten_across) w₀ r w₆ := by
  -- the chain answers a rejected leg, and the run goes on into the recovery
  have hsecond : Exec E (place_secondary (trading_engine has_store) kalshi_first_config
      "ARB-000001" ten_across .no (bought_at price) 10) w₁ (sold_back_placed price) w₂ :=
    .call (hchain _ _ rfl) (.ret _ _)
  have hlegs := ten_across_run (trading_engine has_store) rfl (1 / 5) hbalance hdepth hwalk hplace hsecond
  obtain ⟨⟨notes, unwind_pnl, leg_yes, leg_no⟩, ⟨rfl, rfl, rfl⟩, hrecover⟩ := hrecover
  have hpersisted : Exec E (persist_arb (trading_engine has_store) ten_across
      (sold_back_record price notes) >>= fun _ => .ret (sold_back_record price notes)) w₅
      (sold_back_record price notes) w₆ := exec_bind.2 ⟨_, _, hpersist notes, .ret _ _⟩
  have hsettled : Exec E (settle (trading_engine has_store) "ARB-000001" ten_across
      (bought_at price) rejected_no) w₂ (sold_back_record price notes) w₆ :=
    .call (happend _) (.call hbook (.call hrecover (.call hhalt hpersisted)))
  exact ⟨_, exec_bind.2 ⟨_, _, hlegs, exec_bind.2 ⟨_, _, hsettled, .ret _ _⟩⟩⟩

end Execution
