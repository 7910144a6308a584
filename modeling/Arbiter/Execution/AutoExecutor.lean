import Arbiter.Scanner.Scan

/-! # The Auto-Executor

  The auto-executor takes the opportunities the scanner publishes and hands them to the
  engine within its policy: a cap on the notional, a ceiling on the gross edge, a floor on
  the net edge. The checks are made one after another on an opportunity that the later
  steps clamp, requote and shrink.

  ## Contents

  - Section 1: configuration, state and what one consideration is told.
  - Section 2: the steps an opportunity goes through.
  - Section 3: one consideration.
  - Section 4: what each step guarantees.
  - Section 5: when what is handed over is within the policy.
-/

namespace AutoExecutor

open LTS Truncate
open Execution (ExecStatus Side)
open Scanner (ArbitrageOpportunity PricePoint compute_fee)

/-! ## Section 1: Configuration and state -/

/-- `AutoExecutorConfig`, with `AUTO_EXEC_NAKED_COOLDOWN_S`. -/
structure AutoExecutorConfig where
  enabled : Bool
  max_position_usd : ℚ
  bootstrap_trades : Option ℤ
  dedup_window_seconds : ℤ
  max_quote_age_s : ℚ
  min_depth_usd : ℚ
  min_edge_cents_preflight : ℚ
  min_edge_cents_preflight_by_pair : List (String × ℚ)
  require_mapping_confirmed : Bool
  max_auto_gross_edge_cents : ℚ
  loss_streak_disable_threshold : ℤ
  liquidity_adaptive_sizing : Bool
  naked_cooldown_s : ℚ

/-- `edge_floor_for`. -/
def AutoExecutorConfig.edge_floor_for (cfg : AutoExecutorConfig) : String → String → ℚ :=
  Scanner.floor_for_pair cfg.min_edge_cents_preflight cfg.min_edge_cents_preflight_by_pair

/-- A mapping, as the executor reads it. -/
structure MappingView where
  allow_auto_trade : Bool
  status : String
  forecastex_not_available : Bool
  forecastex_contract_id : String

/-- `check_depth` of one leg's adapter: whether the book holds a quantity, or `none` where
    it raises. A quantity may be asked for twice, first and while halving. -/
structure Depth where
  first : ℕ → Option Bool
  again : ℕ → Option Bool

/-- The price store's answers for both legs, and when they are read. -/
structure Quotes where
  yes : Except String (Option PricePoint)
  no : Except String (Option PricePoint)
  now : ℚ

/-- `execute_opportunity`: what it raises or returns. -/
inductive EngineResult
  | raised
  | no_result
  | result (status : ExecStatus) (realized_pnl : ℚ)

/-- One opportunity taken from the queue, and what the outside says while it is
    considered. -/
structure Consideration where
  opp : ArbitrageOpportunity
  now : ℚ
  is_armed : Bool
  mapping : Except String (Option MappingView)
  /-- `should_skip`, where there is a failure tracker; what it raises is no. -/
  should_skip : Side → ℚ≥0 → Bool
  /-- Absent where no price store is set. -/
  quotes : Option Quotes
  /-- Absent where a venue has no adapter, or one without `check_depth`. -/
  depth : Side → Option Depth
  /-- `check_trade_gate`; open where there is none or it raises. -/
  gate : Bool × String
  gate_now : ℚ
  engine : EngineResult
  engine_now : ℚ

/-- The engine was called with `handed`. -/
structure Handover where
  considered : Consideration
  handed : ArbitrageOpportunity

/-- The executor between two opportunities. An absent entry of a dictionary is zero. -/
structure State where
  executed : ℕ
  seen_dedup_keys : List (String × ℚ)
  failed_cooldown : String → ℚ
  failed_count : String → ℕ
  loss_streak : String → ℕ
  gate_structural_cooldown : String × String → ℚ
  /-- Every call of the engine, newest first. -/
  handovers : List Handover

/-! ## Section 2: The steps -/

/-- `_estimate_notional`: of at least one contract. -/
def estimate_notional (opp : ArbitrageOpportunity) : ℚ≥0 :=
  (opp.yes_price + opp.no_price) * max 1 opp.suggested_qty

/-- `price or 0.01`. -/
def or_cent (price : ℚ≥0) : ℚ := if price = 0 then 1 / 100 else price

/-- The pair cost the clamp divides by. -/
def pair_cost (opp : ArbitrageOpportunity) : ℚ := or_cent opp.yes_price + or_cent opp.no_price

/-- Fees per contract at `qty`, at given prices and rates. -/
def fees_at (opp : ArbitrageOpportunity) (yes_price no_price yes_rate no_rate : ℚ) (qty : ℕ) : ℚ :=
  (compute_fee opp.yes_platform yes_price qty yes_rate +
    compute_fee opp.no_platform no_price qty no_rate) / qty

/-- The opportunity at `clamped_qty` contracts. -/
def clamped (opp : ArbitrageOpportunity) (clamped_qty : ℕ) : ArbitrageOpportunity :=
  let yes_rate : ℚ := opp.yes_fee_rate.getD 0
  let no_rate : ℚ := opp.no_fee_rate.getD 0
  let new_total_fees := fees_at opp opp.yes_price opp.no_price yes_rate no_rate clamped_qty
  let new_net_edge := opp.gross_edge - new_total_fees
  { opp with
      suggested_qty := clamped_qty
      net_edge := new_net_edge
      net_edge_cents := new_net_edge * 100
      total_fees := new_total_fees
      yes_fee := compute_fee opp.yes_platform opp.yes_price clamped_qty yes_rate / clamped_qty
      no_fee := compute_fee opp.no_platform opp.no_price clamped_qty no_rate / clamped_qty
      max_profit_usd := Decimal.round_to 4 (new_net_edge * clamped_qty) }

/-- The notional cap: a larger opportunity is scaled down, or skipped where not even one
    contract fits or too little edge is left. -/
def clamp_qty (cfg : AutoExecutorConfig) (opp : ArbitrageOpportunity) :
    Option ArbitrageOpportunity :=
  if cfg.max_position_usd < estimate_notional opp then
    let raw_qty := whole (cfg.max_position_usd / pair_cost opp)
    -- Not one contract fits below the cap.
    if raw_qty < 1 then none
    else
      let opp := clamped opp raw_qty.toNat
      -- Rounded up per order, Kalshi's fee weighs more on fewer contracts.
      if opp.net_edge_cents < cfg.edge_floor_for opp.yes_platform opp.no_platform then none
      else some opp
  else some opp

/-- The halving of `try_qty`: the first quantity the book holds, zero where there is none. -/
def absorbed_qty (again : ℕ → Option Bool) (try_qty : ℕ) : Option ℕ :=
  if try_qty = 0 then some 0
  else
    match again try_qty with
    | none => none
    | some true => some try_qty
    | some false => absorbed_qty again (try_qty / 2)
  termination_by try_qty
  decreasing_by omega

/-- The depth check of one leg: what is left of `adaptive_qty`, or `none` to skip. -/
def side_depth (cfg : AutoExecutorConfig) (depth : Option Depth) (qty : ℕ) (price : ℚ≥0)
    (adaptive_qty : ℕ) : Option ℕ :=
  match depth with
  | none => none
  | some depth =>
      -- The book has to hold the order, and `min_depth_usd` in any case.
      let required := max qty (whole (cfg.min_depth_usd / max (price : ℚ) (1 / 100) + 1 / 2)).toNat
      match depth.first required with
      | none => none
      | some true => some adaptive_qty
      | some false =>
          if ¬ cfg.liquidity_adaptive_sizing then none
          else
            match absorbed_qty depth.again (max 1 (required / 2)) with
            | none => none
            -- Halved down to nothing: the book does not hold one contract.
            | some 0 => none
            | some absorbed => some (min adaptive_qty absorbed)

/-- What the books of both legs leave of `qty`. -/
def adaptive_qty (cfg : AutoExecutorConfig) (depth : Side → Option Depth) (qty : ℕ)
    (yes_price no_price : ℚ≥0) : Option ℕ :=
  (side_depth cfg (depth .yes) qty yes_price qty).bind
    (side_depth cfg (depth .no) qty no_price)

/-- The requoted opportunity of `qty` contracts. -/
def requoted (opp : ArbitrageOpportunity) (yes no : PricePoint) (yes_rate no_rate : ℚ≥0)
    (now : ℚ) (qty : ℕ) : ArbitrageOpportunity :=
  let gross_edge : ℚ := 1 - yes.yes_price - no.no_price
  let total_fees := fees_at opp yes.yes_price no.no_price yes_rate no_rate qty
  let net_edge := gross_edge - total_fees
  { opp with
      yes_price := yes.yes_price
      no_price := no.no_price
      yes_market_id := Scanner.or_text yes.yes_market_id opp.yes_market_id
      no_market_id := Scanner.or_text no.no_market_id opp.no_market_id
      gross_edge := gross_edge
      total_fees := total_fees
      net_edge := net_edge
      net_edge_cents := net_edge * 100
      quote_age_seconds := max yes.age_seconds no.age_seconds
      timestamp := now
      yes_fee_rate := some yes_rate
      no_fee_rate := some no_rate }

/-- The size is pushed into a requoted opportunity that the books made smaller. -/
def resized (opp : ArbitrageOpportunity) (qty : ℕ) : ArbitrageOpportunity :=
  { opp with
      suggested_qty := qty
      max_profit_usd := Decimal.round_to 4 (opp.net_edge * qty) }

/-- `_pre_flight_checks` on two fresh quotes. -/
def pre_flight (cfg : AutoExecutorConfig) (depth : Side → Option Depth) (yes no : PricePoint)
    (yes_rate no_rate : ℚ≥0) (now : ℚ) (opp : ArbitrageOpportunity) :
    Option ArbitrageOpportunity :=
  let qty := max opp.suggested_qty 1
  let pair_floor := cfg.edge_floor_for opp.yes_platform opp.no_platform
  let fresh := requoted opp yes no yes_rate no_rate now qty
  if fresh.net_edge_cents < pair_floor then none
  else
    match adaptive_qty cfg depth qty yes.yes_price no.no_price with
    | none => none
    | some left =>
        -- Only the floor is looked at again, not the cap or the ceiling.
        if left < qty ∧ cfg.liquidity_adaptive_sizing then
          let qty := max 1 left
          let fresh := resized (requoted opp yes no yes_rate no_rate now qty) qty
          if fresh.net_edge_cents < pair_floor then none else some fresh
        else some fresh

/-- `_pre_flight_checks`: nothing without a price store. A quote without a fee rate raises
    and is not executed. -/
def pre_flight_checks (cfg : AutoExecutorConfig) (quotes : Option Quotes)
    (depth : Side → Option Depth) (opp : ArbitrageOpportunity) : Option ArbitrageOpportunity :=
  match quotes with
  | none => some opp
  | some quotes =>
      match quotes.yes, quotes.no with
      | .ok (some yes), .ok (some no) =>
          if cfg.max_quote_age_s < (max yes.age_seconds no.age_seconds : ℚ≥0) then none
          else
            match yes.fee_rate, no.fee_rate with
            | some yes_rate, some no_rate =>
                pre_flight cfg depth yes no yes_rate no_rate quotes.now opp
            | _, _ => none
      | _, _ => none

/-! ## Section 3: One consideration -/

/-- Neither leg is a ForecastEx leg without a contract of its own. -/
def forecastex_ok (mapping : MappingView) (opp : ArbitrageOpportunity) : Prop :=
  let conid := Text.strip mapping.forecastex_contract_id
  let no_market_id := Text.strip opp.no_market_id
  let yes_market_id := Text.strip opp.yes_market_id
  opp.yes_platform = "forecastex" ∨ opp.no_platform = "forecastex" →
    (mapping.forecastex_not_available = false ∧ conid ≠ "" ∧ conid ≠ "0") ∧
    (opp.no_platform = "forecastex" →
      (no_market_id ≠ "" ∧ no_market_id ≠ "0" ∧ no_market_id ≠ "None") ∧
      (opp.yes_platform = "forecastex" → no_market_id ≠ yes_market_id))

instance (mapping : MappingView) (opp : ArbitrageOpportunity) :
    Decidable (forecastex_ok mapping opp) :=
  inferInstanceAs (Decidable (_ ∨ _ → (_ ∧ _ ∧ _) ∧ (_ → (_ ∧ _ ∧ _) ∧ (_ → _))))

/-- The mapping lets the opportunity be traded. -/
def mapping_ok (cfg : AutoExecutorConfig) (opp : ArbitrageOpportunity) :
    Except String (Option MappingView) → Bool
  | .ok (some mapping) =>
      mapping.allow_auto_trade && decide (forecastex_ok mapping opp) &&
        (!cfg.require_mapping_confirmed || decide (mapping.status.toLower = "confirmed"))
  | _ => false

/-- `MAX_AUTO_GROSS_EDGE_CENTS`: the edge is too good to be true. -/
def suspicious_edge (cfg : AutoExecutorConfig) (opp : ArbitrageOpportunity) : Prop :=
  0 < cfg.max_auto_gross_edge_cents ∧ cfg.max_auto_gross_edge_cents < opp.gross_edge * 100

instance (cfg : AutoExecutorConfig) (opp : ArbitrageOpportunity) :
    Decidable (suspicious_edge cfg opp) :=
  inferInstanceAs (Decidable (_ ∧ _))

/-- `_dedup_key`. -/
def dedup_key (cfg : AutoExecutorConfig) (opp : ArbitrageOpportunity) (now : ℚ) : String :=
  opp.canonical_id ++ ":" ++ opp.yes_platform ++ ":" ++ opp.no_platform ++ ":" ++
    toString ⌊now / max 1 cfg.dedup_window_seconds⌋

/-- The gates before anything is changed. -/
def gates (cfg : AutoExecutorConfig) (s : State) (c : Consideration) : Prop :=
  cfg.enabled = true ∧ c.is_armed = false ∧ c.opp.requires_manual = false ∧
    mapping_ok cfg c.opp c.mapping = true ∧ ¬ suspicious_edge cfg c.opp ∧
    s.failed_cooldown c.opp.canonical_id ≤ c.now ∧
    c.should_skip .yes c.opp.yes_price = false ∧ c.should_skip .no c.opp.no_price = false ∧
    dedup_key cfg c.opp c.now ∉ s.seen_dedup_keys.map Prod.fst

instance (cfg : AutoExecutorConfig) (s : State) (c : Consideration) :
    Decidable (gates cfg s c) :=
  inferInstanceAs (Decidable (_ ∧ _ ∧ _ ∧ _ ∧ _ ∧ _ ∧ _ ∧ _ ∧ _))

/-- `_record_dedup`. -/
def State.record_dedup (s : State) (cfg : AutoExecutorConfig) (key : String) (ts : ℚ) : State :=
  let cutoff := ts - cfg.dedup_window_seconds * 10
  { s with
      seen_dedup_keys := (key, ts) ::
        s.seen_dedup_keys.filter fun p => p.1 ≠ key ∧ cutoff ≤ p.2 }

/-- A closed gate is remembered, unless it already is. -/
def State.gate_closed (s : State) (canonical_id reason : String) (now : ℚ) : State :=
  if now < s.gate_structural_cooldown (canonical_id, reason) then s
  else
    { s with
        gate_structural_cooldown :=
          Function.update s.gate_structural_cooldown (canonical_id, reason) (now + 1800) }

/-- A result that counts as a failure. -/
def EngineResult.is_failure : EngineResult → Bool
  | .raised => false
  | .no_result => true
  | .result status _ => decide (status = .failed ∨ status = .recovering)

/-- The back-off after a failure: doubled each time up to an hour, and longer after a naked
    round trip. -/
def backoff_s (cfg : AutoExecutorConfig) (count : ℕ) (result : EngineResult) : ℚ :=
  let backoff := min (300 * 2 ^ (count - 1)) 3600
  match result with
  | .result .recovering _ => max backoff cfg.naked_cooldown_s
  | _ => backoff

/-- A failure sets its cooldown. -/
def State.failed (s : State) (cfg : AutoExecutorConfig) (canonical_id : String)
    (result : EngineResult) (now : ℚ) : State :=
  let count := s.failed_count canonical_id + 1
  { s with
      failed_count := Function.update s.failed_count canonical_id count
      failed_cooldown :=
        Function.update s.failed_cooldown canonical_id (now + backoff_s cfg count result) }

/-- A clean fill resets the counters. -/
def State.clean_fill (s : State) (canonical_id : String) (realized_pnl : ℚ) : State :=
  { s with
      failed_count := Function.update s.failed_count canonical_id 0
      failed_cooldown := Function.update s.failed_cooldown canonical_id 0
      loss_streak :=
        if 0 < realized_pnl then Function.update s.loss_streak canonical_id 0 else s.loss_streak }

/-- A loss is counted; the count starts again where it disables the mapping. -/
def State.lost (s : State) (cfg : AutoExecutorConfig) (canonical_id : String) : State :=
  let streak := s.loss_streak canonical_id + 1
  -- The mapping is disabled: a re-enabled one starts afresh.
  let streak :=
    if 0 < cfg.loss_streak_disable_threshold ∧ cfg.loss_streak_disable_threshold ≤ streak then 0
    else streak
  { s with loss_streak := Function.update s.loss_streak canonical_id streak }

/-- What follows a call of the engine. -/
def State.after_engine (s : State) (cfg : AutoExecutorConfig) (canonical_id : String)
    (result : EngineResult) (now : ℚ) : State :=
  let s := if result.is_failure then s.failed cfg canonical_id result now else s
  match result with
  | .raised => s
  | .no_result => s
  | .result status realized_pnl =>
      let s := { s with executed := s.executed + 1 }
      let s :=
        if (status = .filled ∨ status = .submitted) ∧ 0 ≤ realized_pnl then
          s.clean_fill canonical_id realized_pnl
        else s
      if result.is_failure ∧ realized_pnl < 0 then s.lost cfg canonical_id else s

/-- The opportunity the engine would be called with, once the gates are passed. -/
def prepared (cfg : AutoExecutorConfig) (c : Consideration) : Option ArbitrageOpportunity :=
  (clamp_qty cfg c.opp).bind (pre_flight_checks cfg c.quotes c.depth)

/-- `bootstrap_trades` are used up. -/
def State.bootstrap_full (s : State) (cfg : AutoExecutorConfig) : Bool :=
  cfg.bootstrap_trades.any fun bootstrap_trades : ℤ => decide (bootstrap_trades ≤ s.executed)

/-- `_consider_opportunity`. -/
def consider_opportunity (cfg : AutoExecutorConfig) (s : State) (c : Consideration) : State :=
  if gates cfg s c then
    let s := s.record_dedup cfg (dedup_key cfg c.opp c.now) c.now
    match prepared cfg c with
    | none => s
    | some opp =>
        -- What is prepared is thrown away; it has been recorded as seen.
        if s.bootstrap_full cfg then s
        else if c.gate.1 then
          { s with handovers := ⟨c, opp⟩ :: s.handovers }.after_engine cfg opp.canonical_id
            c.engine c.engine_now
        else s.gate_closed opp.canonical_id c.gate.2 c.gate_now
  else s

/-- The executor: it starts with nothing remembered, and considers one opportunity after
    another. -/
def auto_executor (cfg : AutoExecutorConfig) : System State Consideration where
  init := fun s => s = ⟨0, [], fun _ => 0, fun _ => 0, fun _ => 0, fun _ => 0, []⟩
  step := fun s c s' => s' = consider_opportunity cfg s c

/-! ## Section 4: What the steps guarantee -/

/-- The executor's policy, of an opportunity as it is. A ceiling that is not positive is
    switched off. -/
structure WithinPolicy (cfg : AutoExecutorConfig) (opp : ArbitrageOpportunity) : Prop where
  notional : opp.cost ≤ cfg.max_position_usd
  ceiling : 0 < cfg.max_auto_gross_edge_cents →
    opp.gross_edge * 100 ≤ cfg.max_auto_gross_edge_cents
  floor : cfg.edge_floor_for opp.yes_platform opp.no_platform ≤ opp.net_edge_cents

/-- The quantity the clamp leaves. -/
def clamped_qty (cfg : AutoExecutorConfig) (opp : ArbitrageOpportunity) : ℕ :=
  if cfg.max_position_usd < estimate_notional opp then
    (whole (cfg.max_position_usd / pair_cost opp)).toNat
  else opp.suggested_qty

theorem le_or_cent (price : ℚ≥0) : (price : ℚ) ≤ or_cent price := by
  rw [or_cent]
  split
  case isTrue h => norm_num [h]
  case isFalse => exact le_rfl

theorem or_cent_pos (price : ℚ≥0) : 0 < or_cent price := by
  rw [or_cent]
  split
  case isTrue => norm_num
  case isFalse h => exact NNRat.cast_pos.2 (pos_iff_ne_zero.2 h)

/-- **The clamp**: what it lets through has the quantity the cap leaves, costs at most the
    cap, has its gross edge unchanged, and is above the floor if it was scaled down. -/
theorem clamp_qty_spec {cfg : AutoExecutorConfig} {opp opp' : ArbitrageOpportunity}
    (h : clamp_qty cfg opp = some opp') :
    opp'.suggested_qty = clamped_qty cfg opp ∧ opp'.cost ≤ cfg.max_position_usd ∧
      opp'.gross_edge = opp.gross_edge ∧ opp'.yes_platform = opp.yes_platform ∧
      opp'.no_platform = opp.no_platform ∧
      (cfg.edge_floor_for opp.yes_platform opp.no_platform ≤ opp'.net_edge_cents ↔
        cfg.max_position_usd < estimate_notional opp ∨
          cfg.edge_floor_for opp.yes_platform opp.no_platform ≤ opp.net_edge_cents) := by
  rw [clamp_qty] at h
  split at h
  case isTrue hover =>
    simp only [Option.ite_none_left_eq_some, not_lt, Option.some.injEq] at h
    obtain ⟨hqty, hfloor, rfl⟩ := h
    have hcost : 0 < pair_cost opp := add_pos (or_cent_pos _) (or_cent_pos _)
    have hle := (le_whole_div_iff (by omega) hcost).1
      (le_refl (whole (cfg.max_position_usd / pair_cost opp)))
    have hqty_eq : clamped_qty cfg opp = (whole (cfg.max_position_usd / pair_cost opp)).toNat :=
      if_pos hover
    rw [← hqty_eq] at hfloor ⊢
    have hcap : (clamped_qty cfg opp : ℚ) * pair_cost opp ≤ cfg.max_position_usd := by
      have hcast : ((clamped_qty cfg opp : ℕ) : ℤ) = whole (cfg.max_position_usd / pair_cost opp) := by
        rw [hqty_eq]
        omega
      rw [← hcast] at hle
      exact_mod_cast hle
    -- The clamp divides by at least the pair cost.
    have hpair : ((opp.yes_price + opp.no_price : ℚ≥0) : ℚ) ≤ pair_cost opp := by
      rw [NNRat.cast_add]
      exact add_le_add (le_or_cent _) (le_or_cent _)
    refine ⟨rfl, ?_, rfl, rfl, rfl, iff_of_true hfloor (.inl hover)⟩
    show ((clamped_qty cfg opp * (opp.yes_price + opp.no_price) : ℚ≥0) : ℚ) ≤ _
    rw [NNRat.cast_mul, NNRat.cast_natCast]
    exact (mul_le_mul_of_nonneg_left hpair (Nat.cast_nonneg _)).trans hcap
  case isFalse hwithin =>
    simp only [Option.some.injEq] at h
    subst h
    have hcost : opp.cost ≤ estimate_notional opp := by
      rw [ArbitrageOpportunity.cost, estimate_notional, mul_comm]
      gcongr
      exact_mod_cast le_max_right 1 opp.suggested_qty
    refine ⟨(if_neg hwithin).symm, ?_, rfl, rfl, rfl, by simp [hwithin]⟩
    exact (NNRat.cast_le.2 hcost).trans (not_lt.1 hwithin)

/-- The depth check of a leg leaves at least one contract and no more than there were; it
    leaves fewer only where sizes adapt. -/
theorem side_depth_spec {cfg : AutoExecutorConfig} {depth : Option Depth} {qty : ℕ}
    {price : ℚ≥0} {adaptive left : ℕ} (hadaptive : 0 < adaptive)
    (h : side_depth cfg depth qty price adaptive = some left) :
    0 < left ∧ left ≤ adaptive ∧ (left < adaptive → cfg.liquidity_adaptive_sizing = true) := by
  simp only [side_depth] at h
  split at h
  case h_1 => cases h
  case h_2 =>
    split at h
    case h_1 => cases h
    case h_2 =>
      simp only [Option.some.injEq] at h
      omega
    case h_3 =>
      rw [Option.ite_none_left_eq_some] at h
      obtain ⟨hsizes, h⟩ := h
      split at h
      case h_1 => cases h
      case h_2 => cases h
      case h_3 absorbed hne _ =>
        -- Halving has found a quantity, and it is not zero.
        simp only [Option.some.injEq] at h
        have hpos : absorbed ≠ 0 := fun hzero => hne (by rw [hzero])
        exact ⟨by omega, by omega, fun _ => not_not.1 hsizes⟩

/-- So do both. -/
theorem adaptive_qty_spec {cfg : AutoExecutorConfig} {depth : Side → Option Depth} {qty : ℕ}
    {yes_price no_price : ℚ≥0} {left : ℕ} (hqty : 0 < qty)
    (h : adaptive_qty cfg depth qty yes_price no_price = some left) :
    0 < left ∧ left ≤ qty ∧ (left < qty → cfg.liquidity_adaptive_sizing = true) := by
  rw [adaptive_qty, Option.bind_eq_some_iff] at h
  obtain ⟨mid, hyes, hno⟩ := h
  obtain ⟨hmid, hmid_le, hmid_sizes⟩ := side_depth_spec hqty hyes
  obtain ⟨hleft, hleft_le, hleft_sizes⟩ := side_depth_spec hmid hno
  refine ⟨hleft, by omega, fun hlt => ?_⟩
  rcases Nat.lt_or_ge left mid with hlt' | hge
  · exact hleft_sizes hlt'
  · exact hmid_sizes (by omega)

/-- A requoted opportunity: the prices are the fresh ones, the gross edge is theirs, and the
    net edge is above the floor. -/
structure Requoted (cfg : AutoExecutorConfig) (yes no : PricePoint) (qty : ℕ)
    (opp opp' : ArbitrageOpportunity) : Prop where
  yes_platform : opp'.yes_platform = opp.yes_platform
  no_platform : opp'.no_platform = opp.no_platform
  yes_price : opp'.yes_price = yes.yes_price
  no_price : opp'.no_price = no.no_price
  gross_edge : opp'.gross_edge = 1 - yes.yes_price - no.no_price
  suggested_qty : opp'.suggested_qty = qty
  floor : cfg.edge_floor_for opp.yes_platform opp.no_platform ≤ opp'.net_edge_cents

/-- What they let through: the opportunity requoted at what the books leave, and above the
    floor there. Where that is less, the quantity and the profit are pushed into it. -/
theorem pre_flight_cases {cfg : AutoExecutorConfig} {depth : Side → Option Depth}
    {yes no : PricePoint} {yes_rate no_rate : ℚ≥0} {now : ℚ} {opp opp' : ArbitrageOpportunity}
    (h : pre_flight cfg depth yes no yes_rate no_rate now opp = some opp') :
    ∃ left, adaptive_qty cfg depth (max opp.suggested_qty 1) yes.yes_price no.no_price = some left ∧
      1 ≤ left ∧ left ≤ max opp.suggested_qty 1 ∧
      cfg.edge_floor_for opp.yes_platform opp.no_platform ≤
        (requoted opp yes no yes_rate no_rate now left).net_edge_cents ∧
      opp' = if left < max opp.suggested_qty 1 then
          resized (requoted opp yes no yes_rate no_rate now left) left
        else requoted opp yes no yes_rate no_rate now left := by
  simp only [pre_flight, Option.ite_none_left_eq_some, not_lt] at h
  obtain ⟨hfloor, h⟩ := h
  split at h
  case h_1 => cases h
  case h_2 left hleft =>
    obtain ⟨hpos, hle, hsizes⟩ := adaptive_qty_spec (by omega) hleft
    refine ⟨left, hleft, hpos, hle, ?_⟩
    by_cases hless : left < max opp.suggested_qty 1
    · -- The books made it smaller, and the floor is looked at again.
      rw [if_pos ⟨hless, hsizes hless⟩, Option.ite_none_left_eq_some, not_lt,
        Option.some.injEq, Nat.max_eq_right hpos] at h
      rw [if_pos hless]
      exact ⟨h.1, h.2.symm⟩
    · -- The books left it all: they never shrink an order that may not adapt.
      have hfull : left = max opp.suggested_qty 1 := by omega
      rw [if_neg fun hboth => hless hboth.1, Option.some.injEq] at h
      rw [if_neg hless, hfull]
      exact ⟨hfloor, h.symm⟩

/-- **The pre-flight checks** requote the opportunity and shrink it to what the books leave. -/
theorem pre_flight_spec {cfg : AutoExecutorConfig} {depth : Side → Option Depth}
    {yes no : PricePoint} {yes_rate no_rate : ℚ≥0} {now : ℚ} {opp opp' : ArbitrageOpportunity}
    (h : pre_flight cfg depth yes no yes_rate no_rate now opp = some opp') :
    ∃ left, adaptive_qty cfg depth (max opp.suggested_qty 1) yes.yes_price no.no_price = some left ∧
      Requoted cfg yes no (min opp.suggested_qty left) opp opp' := by
  obtain ⟨left, hleft, hpos, hle, hfloor, rfl⟩ := pre_flight_cases h
  refine ⟨left, hleft, ?_⟩
  by_cases hless : left < max opp.suggested_qty 1
  · -- There was more than the one contract of the default.
    rw [if_pos hless]
    exact
      { yes_platform := rfl
        no_platform := rfl
        yes_price := rfl
        no_price := rfl
        gross_edge := rfl
        suggested_qty := by
          show left = min opp.suggested_qty left
          omega
        floor := hfloor }
  · rw [if_neg hless]
    exact
      { yes_platform := rfl
        no_platform := rfl
        yes_price := rfl
        no_price := rfl
        gross_edge := rfl
        suggested_qty := by
          show opp.suggested_qty = min opp.suggested_qty left
          omega
        floor := hfloor }

/-- The price store has a quote of both legs, not too old, with their fee rates. -/
structure Quotes.Fresh (cfg : AutoExecutorConfig) (quotes : Quotes) (yes no : PricePoint)
    (yes_rate no_rate : ℚ≥0) : Prop where
  yes_quote : quotes.yes = .ok (some yes)
  no_quote : quotes.no = .ok (some no)
  age : ((max yes.age_seconds no.age_seconds : ℚ≥0) : ℚ) ≤ cfg.max_quote_age_s
  yes_rate : yes.fee_rate = some yes_rate
  no_rate : no.fee_rate = some no_rate

/-- On fresh quotes the checks are those on the two. -/
theorem pre_flight_checks_of_fresh {cfg : AutoExecutorConfig} {quotes : Quotes}
    {depth : Side → Option Depth} {opp : ArbitrageOpportunity} {yes no : PricePoint}
    {yes_rate no_rate : ℚ≥0} (hfresh : quotes.Fresh cfg yes no yes_rate no_rate) :
    pre_flight_checks cfg (some quotes) depth opp =
      pre_flight cfg depth yes no yes_rate no_rate quotes.now opp := by
  simp only [pre_flight_checks, hfresh.yes_quote, hfresh.no_quote, hfresh.yes_rate, hfresh.no_rate]
  exact if_neg (not_lt.mpr hfresh.age)

/-- What is returned has been looked at on fresh quotes. -/
theorem pre_flight_checks_cases {cfg : AutoExecutorConfig} {quotes : Quotes}
    {depth : Side → Option Depth} {opp opp' : ArbitrageOpportunity}
    (h : pre_flight_checks cfg (some quotes) depth opp = some opp') :
    ∃ yes no yes_rate no_rate, quotes.Fresh cfg yes no yes_rate no_rate ∧
      pre_flight cfg depth yes no yes_rate no_rate quotes.now opp = some opp' := by
  simp only [pre_flight_checks] at h
  split at h
  case h_2 => cases h
  case h_1 yes no hyes hno =>
    rw [Option.ite_none_left_eq_some, not_lt] at h
    obtain ⟨hage, h⟩ := h
    split at h
    case h_2 => cases h
    case h_1 yes_rate no_rate hyes_rate hno_rate =>
      exact ⟨yes, no, yes_rate, no_rate, ⟨hyes, hno, hage, hyes_rate, hno_rate⟩, h⟩

/-! ## Section 5: What is handed over -/

/-- The policy still holds once the steps are through. Without a price store: the clamp has
    looked at the net edge, or it was enough as published. With one: the requoted pair, at
    the quantity that the clamp and the books leave, costs at most the cap, and its gross
    edge is at most the ceiling. -/
def StillWithin (cfg : AutoExecutorConfig) (c : Consideration) : Prop :=
  match c.quotes with
  | none =>
      cfg.max_position_usd < estimate_notional c.opp ∨
        cfg.edge_floor_for c.opp.yes_platform c.opp.no_platform ≤ c.opp.net_edge_cents
  | some quotes =>
      ∀ yes no left, quotes.yes = .ok (some yes) → quotes.no = .ok (some no) →
        adaptive_qty cfg c.depth (max (clamped_qty cfg c.opp) 1) yes.yes_price no.no_price =
          some left →
        min (clamped_qty cfg c.opp) left * (yes.yes_price + no.no_price : ℚ) ≤
            cfg.max_position_usd ∧
          (0 < cfg.max_auto_gross_edge_cents →
            (1 - yes.yes_price - no.no_price : ℚ) * 100 ≤ cfg.max_auto_gross_edge_cents)

/-- Without a price store. -/
theorem within_policy_iff_of_clamped {cfg : AutoExecutorConfig} {opp opp' : ArbitrageOpportunity}
    (hedge : ¬ suspicious_edge cfg opp) (h : clamp_qty cfg opp = some opp') :
    WithinPolicy cfg opp' ↔ cfg.max_position_usd < estimate_notional opp ∨
      cfg.edge_floor_for opp.yes_platform opp.no_platform ≤ opp.net_edge_cents := by
  obtain ⟨-, hcost, hgross, hyes, hno, hfloor⟩ := clamp_qty_spec h
  rw [← hfloor]
  constructor
  · intro hw
    have := hw.floor
    rwa [hyes, hno] at this
  · intro hnet
    exact
      { notional := hcost
        ceiling := by
          intro hpos
          rw [hgross]
          exact not_lt.1 fun hlt => hedge ⟨hpos, hlt⟩
        floor := by rwa [hyes, hno] }

/-- With one: the floor always holds. -/
theorem within_policy_iff_of_requoted {cfg : AutoExecutorConfig} {yes no : PricePoint} {qty : ℕ}
    {opp opp' : ArbitrageOpportunity} (h : Requoted cfg yes no qty opp opp') :
    WithinPolicy cfg opp' ↔ qty * (yes.yes_price + no.no_price : ℚ) ≤ cfg.max_position_usd ∧
      (0 < cfg.max_auto_gross_edge_cents →
        (1 - yes.yes_price - no.no_price : ℚ) * 100 ≤ cfg.max_auto_gross_edge_cents) := by
  have hcost : (opp'.cost : ℚ) = qty * (yes.yes_price + no.no_price : ℚ) := by
    rw [ArbitrageOpportunity.cost, h.suggested_qty, h.yes_price, h.no_price]
    push_cast
    rfl
  rw [← hcost, ← h.gross_edge]
  constructor
  · intro hw
    exact ⟨hw.notional, hw.ceiling⟩
  · intro ⟨hnotional, hceiling⟩
    exact ⟨hnotional, hceiling, by rw [h.yes_platform, h.no_platform]; exact h.floor⟩

/-- **What is prepared is within the policy exactly when it still is**, of an opportunity
    whose gross edge was not suspicious as published. -/
theorem prepared_within_policy_iff {cfg : AutoExecutorConfig} {c : Consideration}
    {opp : ArbitrageOpportunity} (hedge : ¬ suspicious_edge cfg c.opp)
    (h : prepared cfg c = some opp) : WithinPolicy cfg opp ↔ StillWithin cfg c := by
  rw [prepared, Option.bind_eq_some_iff] at h
  obtain ⟨mid, hclamp, hflight⟩ := h
  have hqty := (clamp_qty_spec hclamp).1
  cases hquotes : c.quotes with
  | none =>
    simp only [hquotes, pre_flight_checks, Option.some.injEq] at hflight
    subst hflight
    simp only [StillWithin, hquotes]
    exact within_policy_iff_of_clamped hedge hclamp
  | some quotes =>
    rw [hquotes] at hflight
    simp only [StillWithin, hquotes]
    obtain ⟨yes, no, yes_rate, no_rate, hfresh, hflight⟩ := pre_flight_checks_cases hflight
    obtain ⟨left, hleft, hrequoted⟩ := pre_flight_spec hflight
    rw [hqty] at hleft hrequoted
    rw [within_policy_iff_of_requoted hrequoted]
    constructor
    · intro hw yes' no' left' hyes' hno' hleft'
      -- The store and the books have answered once, so these are the same answers.
      obtain rfl : yes = yes' := by simpa [hfresh.yes_quote] using hyes'
      obtain rfl : no = no' := by simpa [hfresh.no_quote] using hno'
      obtain rfl : left = left' := by simpa [hleft] using hleft'
      exact hw
    · intro hall
      exact hall yes no left hfresh.yes_quote hfresh.no_quote hleft

/-- A call of the engine was prepared from an opportunity that was not suspicious. -/
def Handover.Prepared (cfg : AutoExecutorConfig) (h : Handover) : Prop :=
  ¬ suspicious_edge cfg h.considered.opp ∧ prepared cfg h.considered = some h.handed

/-- What follows a call makes no further one. -/
@[simp] theorem after_engine_handovers (s : State) (cfg : AutoExecutorConfig)
    (canonical_id : String) (result : EngineResult) (now : ℚ) :
    (s.after_engine cfg canonical_id result now).handovers = s.handovers := by
  have hfailed : ∀ t : State, (t.failed cfg canonical_id result now).handovers = t.handovers :=
    fun _ => rfl
  cases result with
  | raised => simp [State.after_engine, EngineResult.is_failure]
  | no_result => simp [State.after_engine, EngineResult.is_failure, hfailed]
  | result status realized_pnl =>
    simp only [State.after_engine]
    split <;> split <;> split <;> rfl

@[simp] theorem gate_closed_handovers (s : State) (canonical_id reason : String) (now : ℚ) :
    (s.gate_closed canonical_id reason now).handovers = s.handovers := by
  rw [State.gate_closed]
  split <;> rfl

/-- **One consideration** makes at most one call, of what it has prepared. -/
theorem consider_opportunity_handovers {cfg : AutoExecutorConfig} {s : State} {c : Consideration}
    {h : Handover} (hh : h ∈ (consider_opportunity cfg s c).handovers) :
    h ∈ s.handovers ∨ h.Prepared cfg := by
  rw [consider_opportunity] at hh
  split at hh
  case isFalse => exact .inl hh
  case isTrue hgates =>
    -- The ceiling was looked at here, on the published opportunity, and nowhere else.
    have hedge : ¬ suspicious_edge cfg c.opp := hgates.2.2.2.2.1
    simp only at hh
    split at hh
    case h_1 => exact .inl hh
    case h_2 opp hprepared =>
      split at hh
      case isTrue => exact .inl hh
      case isFalse =>
        split at hh
        case isTrue =>
          rw [after_engine_handovers] at hh
          rcases List.mem_cons.1 hh with rfl | hold
          · exact .inr ⟨hedge, hprepared⟩
          · exact .inl hold
        case isFalse =>
          rw [gate_closed_handovers] at hh
          exact .inl hh

/-- In every run, what the engine was called with had been prepared so. -/
theorem handovers_prepared (cfg : AutoExecutorConfig) :
    Invariant (auto_executor cfg) fun s => ∀ h ∈ s.handovers, h.Prepared cfg := by
  apply Invariant.of_step
  · intro s hinit
    rw [show s = ⟨0, [], fun _ => 0, fun _ => 0, fun _ => 0, fun _ => 0, []⟩ from hinit]
    simp
  · intro s c s' hs hstep h hh
    rw [show s' = consider_opportunity cfg s c from hstep] at hh
    rcases consider_opportunity_handovers hh with hold | hnew
    · exact hs h hold
    · exact hnew

/-- **What the engine is called with is within the policy exactly when it still is.** In
    every run, for every call of the engine, the opportunity handed over costs at most
    `max_position_usd`, has a gross edge of at most the ceiling and a net edge of at least the
    pair's floor if and only if the requote and the sizes left it so. -/
theorem handed_within_policy_iff {cfg : AutoExecutorConfig} {s : State} {h : Handover}
    (hreach : Reachable (auto_executor cfg) s) (hh : h ∈ s.handovers) :
    WithinPolicy cfg h.handed ↔ StillWithin cfg h.considered := by
  obtain ⟨hedge, hprepared⟩ := handovers_prepared cfg s hreach h hh
  exact prepared_within_policy_iff hedge hprepared

/-- The engine is then sent a notional within the cap. -/
theorem handed_exposure_le {cfg : AutoExecutorConfig} {s : State} {h : Handover}
    (hreach : Reachable (auto_executor cfg) s) (hh : h ∈ s.handovers)
    (hstill : StillWithin cfg h.considered) :
    (h.handed.to_engine.exposure : ℚ) ≤ cfg.max_position_usd := by
  obtain ⟨hedge, hprepared⟩ := handovers_prepared cfg s hreach h hh
  rw [ArbitrageOpportunity.to_engine_exposure]
  exact ((prepared_within_policy_iff hedge hprepared).2 hstill).notional

/-! ### An edge that grows on the requote -/

/-- Gates, preparation and trade gate passed, the engine is called. -/
theorem engine_called {cfg : AutoExecutorConfig} {s : State} {c : Consideration}
    {opp : ArbitrageOpportunity} (hgates : gates cfg s c) (hprepared : prepared cfg c = some opp)
    (hroom : s.bootstrap_full cfg = false) (hgate : c.gate.1 = true) :
    ⟨c, opp⟩ ∈ (consider_opportunity cfg s c).handovers := by
  have hroom' : (s.record_dedup cfg (dedup_key cfg c.opp c.now) c.now).bootstrap_full cfg = false :=
    hroom
  simp [consider_opportunity, hgates, hprepared, hroom', hgate]

/-- The configuration as it comes, switched on. -/
def default_config : AutoExecutorConfig where
  enabled := true
  max_position_usd := 10
  bootstrap_trades := none
  dedup_window_seconds := 5
  max_quote_age_s := 30
  min_depth_usd := 25
  min_edge_cents_preflight := 7
  min_edge_cents_preflight_by_pair := [("forecastex_kalshi", 9 / 2),
    ("forecastex_polymarket", 4), ("kalshi_polymarket", 7)]
  require_mapping_confirmed := true
  max_auto_gross_edge_cents := 15
  loss_streak_disable_threshold := 3
  liquidity_adaptive_sizing := true
  naked_cooldown_s := 7200

/-- The published opportunity, with `fresh` as Kalshi's quote by the time of the pre-flight
    checks and deep books at both venues. -/
def house_consideration (fresh : PricePoint) : Consideration where
  opp := Scanner.house_opportunity
  now := 1001
  is_armed := false
  mapping := .ok (some ⟨true, "confirmed", false, ""⟩)
  should_skip := fun _ _ => false
  quotes := some
    ⟨.ok (some fresh), .ok (some (Scanner.polymarket_quote (some (4 / 100)))), 1001⟩
  depth := fun _ => some ⟨fun _ => some true, fun _ => some true⟩
  gate := (true, "")
  gate_now := 1001
  engine := .result .filled 0
  engine_now := 1002

/-- The executor when it starts. -/
def idle : State := ⟨0, [], fun _ => 0, fun _ => 0, fun _ => 0, fun _ => 0, []⟩

/-- It is reachable from there in one step. -/
theorem consider_reachable (c : Consideration) :
    Reachable (auto_executor default_config) (consider_opportunity default_config idle c) :=
  (Reachable.init rfl).step rfl

/-- Kalshi's quote with YES down to 30 cents. -/
def kalshi_dropped : PricePoint :=
  { Scanner.kalshi_quote with yes_price := 3 / 10, no_price := 7 / 10 }

/-- `handed_within_policy_iff` where the quotes have not moved. -/
theorem handed_within_policy_iff_unmoved :
    ∃ h ∈ (consider_opportunity default_config idle
        (house_consideration Scanner.kalshi_quote)).handovers,
      (WithinPolicy default_config h.handed ↔ StillWithin default_config h.considered) := by
  have hsome : (prepared default_config (house_consideration Scanner.kalshi_quote)).isSome := by
    decide +kernel
  obtain ⟨opp, hprepared⟩ := Option.isSome_iff_exists.1 hsome
  have hcall := engine_called (s := idle) (by decide +kernel) hprepared rfl rfl
  exact ⟨_, hcall, handed_within_policy_iff (consider_reachable _) hcall⟩

/-- **An edge above the ceiling is executed.** Published at a gross edge of 10 cents, the
    pair is requoted at 20 cents, above the ceiling of 15, and handed to the engine. -/
theorem requoted_above_ceiling :
    ∃ s, Reachable (auto_executor default_config) s ∧ ∃ h ∈ s.handovers,
      h.considered.opp = Scanner.house_opportunity ∧
      default_config.max_auto_gross_edge_cents < h.handed.gross_edge * 100 ∧
      ¬ WithinPolicy default_config h.handed := by
  have hgross : (prepared default_config (house_consideration kalshi_dropped)).map
      ArbitrageOpportunity.gross_edge = some (1 / 5) := by
    decide +kernel
  obtain ⟨opp, hprepared, hedge⟩ := Option.map_eq_some_iff.1 hgross
  have hcall := engine_called (s := idle) (by decide +kernel) hprepared rfl rfl
  have habove : default_config.max_auto_gross_edge_cents < opp.gross_edge * 100 := by
    rw [hedge]
    decide +kernel
  refine ⟨_, consider_reachable _, _, hcall, rfl, habove, fun hw => ?_⟩
  exact absurd (hw.ceiling (by decide)) (not_le.2 habove)

end AutoExecutor
