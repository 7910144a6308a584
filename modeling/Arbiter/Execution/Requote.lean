import Arbiter.Execution.AutoExecutor
import Arbiter.Execution.RetryScheduler

/-! # Requotes

  The scanner builds an opportunity from asks, and drops a leg that has none. Three steps
  price it again before it is sent: the executor's pre-flight checks, the scheduler's
  `_requote`, and the engine's `_pre_trade_requote`. Each takes the mark of the quote, which
  the collectors fill with a bid where there is no ask.

  ## Contents

  - Section 1: the engine's requote.
  - Section 2: when the prices put into an opportunity are live asks.
-/

namespace Execution

open Decimal
open AutoExecutor (AutoExecutorConfig Depth Quotes pre_flight_checks pre_flight requoted)
open Scanner (ArbitrageOpportunity PricePoint ScannerConfig compute_fee)

/-! ## Section 1: The engine -/

/-- What the engine's requote is set to. -/
structure RequoteSettings where
  scanner_config : ScannerConfig
  /-- `max_quote_age_seconds` where it is not set. -/
  max_quote_age_seconds_forecastex : ℚ
  slippage_tolerance : ℚ

/-- What the engine's requote reads: the quotes of the price store, the time, and the bid and
    the ask of each platform's market, absent where its adapter gives none. -/
structure RequoteReads where
  current_yes : Option PricePoint
  current_no : Option PricePoint
  get_bbo : String → String → Option (ℚ × ℚ)
  now : ℚ

/-- `QUOTE_DESYNC_TOLERANCE`. -/
def quote_desync_tolerance : ℚ := 1 / 50

/-- The ask of a side, from a bid and an ask of which one is positive. -/
def fresh_ask (side : Side) (best_bid best_ask : ℚ) : ℚ :=
  match side with
  | .yes => if 0 < best_ask then best_ask else 1 - best_bid
  | .no => if 0 < best_bid then 1 - best_bid else 1 - best_ask

/-- The platform of a side. -/
def side_platform (opp : ArbitrageOpportunity) : Side → String
  | .yes => opp.yes_platform
  | .no => opp.no_platform

/-- `_sanity_check_quote`: the incident it records where the quote is not sane. -/
def sanity_check_quote (reads : RequoteReads) (opp : ArbitrageOpportunity) (side : Side)
    (price_point : PricePoint) (store_price : ℚ≥0) : Option String :=
  let platform := side_platform opp side
  let market_id := Scanner.or_text
    (match side with
      | .yes => price_point.yes_market_id
      | .no => price_point.no_market_id)
    opp.canonical_id
  match reads.get_bbo platform market_id with
  | none => none
  | some (best_bid, best_ask) =>
      -- an empty book says nothing about the quote
      if best_bid ≤ 0 ∧ best_ask ≤ 0 then none
      else
        let fresh := fresh_ask side best_bid best_ask
        let delta := |(store_price : ℚ) - fresh|
        if quote_desync_tolerance < delta then
          some ("Quote desync on " ++ platform ++ " " ++ side.text ++ ": store=" ++
            fixed 4 store_price ++ " fresh=" ++ fixed_signed 4 fresh ++ " delta=" ++
            fixed_signed 4 delta)
        else none

/-- The opportunity at the marks of the quotes. -/
def at_marks (opp : ArbitrageOpportunity) (current_yes current_no : PricePoint) (age : ℚ≥0)
    (now : ℚ) : ArbitrageOpportunity :=
  let gross_edge : ℚ := 1 - current_yes.yes_price - current_no.no_price
  let total_fees :=
    (compute_fee opp.yes_platform current_yes.yes_price opp.suggested_qty current_yes.rate +
      compute_fee opp.no_platform current_no.no_price opp.suggested_qty current_no.rate) /
        (max opp.suggested_qty 1 : ℕ)
  let net_edge := gross_edge - total_fees
  { opp with
      yes_price := current_yes.yes_price
      no_price := current_no.no_price
      yes_market_id := Scanner.or_text current_yes.yes_market_id opp.yes_market_id
      no_market_id := Scanner.or_text current_no.no_market_id opp.no_market_id
      gross_edge := gross_edge
      total_fees := total_fees
      net_edge := net_edge
      net_edge_cents := net_edge * 100
      max_profit_usd := round_to 4 (net_edge * opp.suggested_qty)
      quote_age_seconds := age
      timestamp := now
      yes_fee_rate := current_yes.fee_rate
      no_fee_rate := current_no.fee_rate }

/-- `_pre_trade_requote`, with a price store: the opportunity at the quotes read, or the
    warning it records. -/
def pre_trade_requote (cfg : RequoteSettings) (reads : RequoteReads)
    (opp : ArbitrageOpportunity) : Except String ArbitrageOpportunity :=
  match reads.current_yes, reads.current_no with
  | some current_yes, some current_no =>
      let age := max current_yes.age_seconds current_no.age_seconds
      let fx_age_max := cfg.max_quote_age_seconds_forecastex
      if cfg.scanner_config.max_quote_age_seconds < age then
        .error ("Quotes became stale before execution (" ++ fixed 2 age ++ "s)")
      else if opp.yes_platform = "forecastex" ∧ fx_age_max < current_yes.age_seconds then
        .error ("ForecastEx YES quote stale (" ++ fixed 2 current_yes.age_seconds ++ "s > " ++
          fixed_signed 1 fx_age_max ++ "s)")
      else if opp.no_platform = "forecastex" ∧ fx_age_max < current_no.age_seconds then
        .error ("ForecastEx NO quote stale (" ++ fixed 2 current_no.age_seconds ++ "s > " ++
          fixed_signed 1 fx_age_max ++ "s)")
      else
        match sanity_check_quote reads opp .yes current_yes current_yes.yes_price,
          sanity_check_quote reads opp .no current_no current_no.no_price with
        -- both sides are looked at, and the first incident is told
        | some incident, _ => .error incident
        | none, some incident => .error incident
        | none, none =>
            let fresh := at_marks opp current_yes current_no age reads.now
            if cfg.slippage_tolerance < |(current_yes.yes_price : ℚ) - opp.yes_price| ∨
                cfg.slippage_tolerance < |(current_no.no_price : ℚ) - opp.no_price| then
              .error "Slippage exceeded tolerance during re-quote"
            else if fresh.net_edge_cents <
                cfg.scanner_config.min_edge_for_pair opp.yes_platform opp.no_platform then
              .error ("Edge collapsed below threshold after re-quote (" ++
                fixed_signed 2 fresh.net_edge_cents ++ "¢)")
            else .ok fresh
  | _, _ => .error "Missing fresh quotes during pre-trade re-quote"

/-! ## Section 2: Live asks -/

/-- The prices are the positive asks of the sides to be bought. -/
def LiveAsks (yes no : PricePoint) (yes_price no_price : ℚ≥0) : Prop :=
  (yes_price = yes.yes_ask ∧ 0 < yes.yes_ask) ∧ no_price = no.no_ask ∧ 0 < no.no_ask

/-- The marks of the quotes are the positive asks of the sides to be bought. -/
def MarksAreAsks (yes no : PricePoint) : Prop := LiveAsks yes no yes.yes_price no.no_price

/-- What each requote puts into an opportunity, at these quotes, are live asks, or it
    declines; whatever it is set to, and whatever the books say. -/
structure RequotesLive (yes no : PricePoint) : Prop where
  pre_flight : ∀ (cfg : AutoExecutorConfig) (depth : Side → Option Depth) (now : ℚ)
    (opp fresh : ArbitrageOpportunity),
      pre_flight_checks cfg (some ⟨.ok (some yes), .ok (some no), now⟩) depth opp = some fresh →
        LiveAsks yes no fresh.yes_price fresh.no_price
  retry : ∀ (cfg : RetryScheduler.Config) (opp fresh : Opportunity),
    RetryScheduler.requoted cfg opp (some yes) (some no) = .ok fresh →
      LiveAsks yes no fresh.yes_price fresh.no_price
  pre_trade : ∀ (cfg : RequoteSettings) (reads : RequoteReads) (opp fresh : ArbitrageOpportunity),
    reads.current_yes = some yes → reads.current_no = some no →
      pre_trade_requote cfg reads opp = .ok fresh →
        LiveAsks yes no fresh.yes_price fresh.no_price

section steps

variable {yes no : PricePoint}

/-- The pre-flight checks put the marks into the opportunity. -/
theorem pre_flight_marks {cfg : AutoExecutorConfig} {depth : Side → Option Depth} {now : ℚ}
    {opp fresh : ArbitrageOpportunity}
    (h : pre_flight_checks cfg (some ⟨.ok (some yes), .ok (some no), now⟩) depth opp = some fresh) :
    fresh.yes_price = yes.yes_price ∧ fresh.no_price = no.no_price := by
  obtain ⟨yes', no', _, _, hfresh, hflight⟩ := AutoExecutor.pre_flight_checks_cases h
  obtain rfl : yes = yes' := by simpa using hfresh.yes_quote
  obtain rfl : no = no' := by simpa using hfresh.no_quote
  obtain ⟨_, -, hrequoted⟩ := AutoExecutor.pre_flight_spec hflight
  exact ⟨hrequoted.yes_price, hrequoted.no_price⟩

/-- So does the scheduler, which declines nothing but quotes that are too old. -/
theorem retry_marks (yes no : PricePoint) (cfg : RetryScheduler.Config) (opp : Opportunity) :
    (∃ fresh, RetryScheduler.requoted cfg opp (some yes) (some no) = .ok fresh ∧
      fresh.yes_price = yes.yes_price ∧ fresh.no_price = no.no_price) ∨
    cfg.max_quote_age_seconds < (max yes.age_seconds no.age_seconds : ℚ≥0) ∧
      ∃ reason, RetryScheduler.requoted cfg opp (some yes) (some no) = .error reason := by
  by_cases hstale : cfg.max_quote_age_seconds < (max yes.age_seconds no.age_seconds : ℚ≥0)
  · exact .inr ⟨hstale, _, if_pos hstale⟩
  · exact .inl ⟨_, if_neg hstale, rfl, rfl⟩

/-- So does the engine. -/
theorem pre_trade_marks {cfg : RequoteSettings} {reads : RequoteReads}
    {opp fresh : ArbitrageOpportunity} (hyes : reads.current_yes = some yes)
    (hno : reads.current_no = some no) (h : pre_trade_requote cfg reads opp = .ok fresh) :
    fresh.yes_price = yes.yes_price ∧ fresh.no_price = no.no_price := by
  simp only [pre_trade_requote, hyes, hno] at h
  -- the age, and the tighter ages of ForecastEx
  split at h
  · cases h
  split at h
  · cases h
  split at h
  · cases h
  -- the sanity checks, the slippage and the edge
  split at h
  · cases h
  · cases h
  split at h
  · cases h
  split at h
  · cases h
  cases h
  exact ⟨rfl, rfl⟩

end steps

/-- The requotes at two quotes keep to live asks, or decline, exactly if the marks of the
    quotes are live asks. -/
theorem requotes_live_iff (yes no : PricePoint) : RequotesLive yes no ↔ MarksAreAsks yes no := by
  constructor
  · intro h
    let cfg : RetryScheduler.Config :=
      ⟨0, 0, 0, (max yes.age_seconds no.age_seconds : ℚ≥0), 0, true⟩
    obtain ⟨fresh, hfresh, hyes, hno⟩ | ⟨hstale, -⟩ :=
      retry_marks yes no cfg Scanner.house_opportunity.to_engine
    · have hlive := h.retry cfg _ fresh hfresh
      rwa [hyes, hno] at hlive
    · exact absurd hstale (lt_irrefl _)
  · intro hmarks
    refine ⟨fun _ _ _ _ _ h => ?_, fun cfg opp _ h => ?_, fun _ _ _ _ hyes hno h => ?_⟩
    · obtain ⟨hyes, hno⟩ := pre_flight_marks h
      rw [hyes, hno]
      exact hmarks
    · obtain ⟨fresh, hfresh, hyes, hno⟩ | ⟨-, _, hstale⟩ :=
        retry_marks yes no cfg opp
      · cases hfresh.symm.trans h
        rw [hyes, hno]
        exact hmarks
      · cases hstale.symm.trans h
    · obtain ⟨hy, hn⟩ := pre_trade_marks hyes hno h
      rw [hy, hn]
      exact hmarks

/-- A quote with a bid of 39 cents for YES and no ask: its mark is the bid. -/
def dead_ask_quote : PricePoint :=
  { Scanner.kalshi_quote with yes_price := 39 / 100, yes_ask := 0 }

/-- The quote of the other leg. -/
def no_quote : PricePoint := Scanner.polymarket_quote (some (4 / 100))

/-- Both quotes, and no adapter that gives a bid and an ask. -/
def dead_ask_reads : RequoteReads := ⟨some dead_ask_quote, some no_quote, fun _ _ => none, 1001⟩

/-- All three steps put the bid into the opportunity. -/
theorem dead_ask_is_requoted :
    dead_ask_quote.yes_ask = 0 ∧
      (pre_flight_checks AutoExecutor.default_config
          (some ⟨.ok (some dead_ask_quote), .ok (some no_quote), 1001⟩)
          (fun _ => some ⟨fun _ => some true, fun _ => some true⟩)
          Scanner.house_opportunity).map (·.yes_price) = some (39 / 100) ∧
      (RetryScheduler.requoted ⟨3, 1, 2, 30, 60, true⟩ Scanner.house_opportunity.to_engine
          (some dead_ask_quote) (some no_quote)).toOption.map (·.yes_price) = some (39 / 100) ∧
      (pre_trade_requote ⟨Scanner.one_scan_config, 5, 2 / 100⟩ dead_ask_reads
          Scanner.house_opportunity).toOption.map (·.yes_price) = some (39 / 100) := by
  refine ⟨rfl, by decide +kernel, by decide +kernel, by decide +kernel⟩

end Execution
