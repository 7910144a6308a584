import Arbiter.Execution.Requote

/-! # The Economics of a Rewritten Opportunity

  The fields of an opportunity that follow from the others: the gross edge from the
  prices, the fees from the prices and the quantity, the net edge from both, the profit
  from the net edge. The scanner builds them together. Four steps rewrite an opportunity
  afterwards, and each recomputes its own part of them.

  ## Contents

  - Section 1: what is consistent; what the scanner builds is.
  - Section 2: the clamp, the pre-flight checks, the two requotes.
  - Section 3: when each keeps what is consistent so.
-/

namespace Execution

open AutoExecutor (AutoExecutorConfig Depth clamp_qty clamped pre_flight
  pre_flight_checks pre_flight_cases pre_flight_checks_cases requoted resized adaptive_qty fees_at)
open Decimal
open Scanner (ArbitrageOpportunity PricePoint compute_fee)

/-! ## Section 1: Consistency -/

/-- The fields that follow from others do. -/
structure Consistent (opp : ArbitrageOpportunity) : Prop where
  gross_edge : opp.gross_edge = 1 - opp.yes_price - opp.no_price
  own_fees : opp.total_fees = opp.yes_fee + opp.no_fee
  venue_fees : opp.total_fees = fees_at opp opp.yes_price opp.no_price
    (opp.yes_fee_rate.getD 0 : ℚ≥0) (opp.no_fee_rate.getD 0 : ℚ≥0) opp.suggested_qty
  net_edge : opp.net_edge = opp.gross_edge - opp.total_fees
  net_edge_cents : opp.net_edge_cents = 100 * opp.net_edge
  max_profit_usd : opp.max_profit_usd = round_to 4 (opp.net_edge * opp.suggested_qty)

instance (opp : ArbitrageOpportunity) : Decidable (Consistent opp) :=
  decidable_of_iff (_ ∧ _ ∧ _ ∧ _ ∧ _ ∧ _)
    ⟨fun ⟨h₁, h₂, h₃, h₄, h₅, h₆⟩ => ⟨h₁, h₂, h₃, h₄, h₅, h₆⟩,
      fun ⟨h₁, h₂, h₃, h₄, h₅, h₆⟩ => ⟨h₁, h₂, h₃, h₄, h₅, h₆⟩⟩

/-- No contracts pay no fees. -/
@[simp] theorem fees_at_zero (opp : ArbitrageOpportunity) (yes_price no_price yes_rate no_rate : ℚ) :
    fees_at opp yes_price no_price yes_rate no_rate 0 = 0 := by
  simp [fees_at]

/-- What the scanner builds is consistent. -/
theorem opportunity_at_consistent (cfg : Scanner.ScannerConfig) (timestamp : ℚ)
    (listing : Scanner.Listing) (yes no : PricePoint) (qty : ℕ) :
    Consistent (Scanner.opportunity_at cfg timestamp listing yes no qty) where
  gross_edge := rfl
  own_fees := by
    show Scanner.total_fees yes no qty =
      Scanner.yes_fee_total yes qty / qty + Scanner.no_fee_total no qty / qty
    rw [Scanner.total_fees, add_div]
  venue_fees := rfl
  net_edge := rfl
  net_edge_cents := mul_comm _ _
  max_profit_usd := rfl

/-! ## Section 2: The rewrites -/

/-- The retry scheduler's requote, with all the fields it keeps and replaces. -/
def retry_requoted (cfg : RetryScheduler.Config) (now : ℚ) (opp : ArbitrageOpportunity) :
    Option PricePoint → Option PricePoint → Except String ArbitrageOpportunity
  | some current_yes, some current_no =>
      let age := max current_yes.age_seconds current_no.age_seconds
      if cfg.max_quote_age_seconds < age then
        .error ("quotes too stale (" ++ fixed 1 age ++ "s)")
      else
        let gross_edge : ℚ := 1 - current_yes.yes_price - current_no.no_price
        let qty := max opp.suggested_qty 1
        let total_fees :=
          (compute_fee opp.yes_platform current_yes.yes_price qty current_yes.rate +
            compute_fee opp.no_platform current_no.no_price qty current_no.rate) / qty
        let net_edge := gross_edge - total_fees
        .ok { opp with
          yes_price := current_yes.yes_price
          no_price := current_no.no_price
          yes_market_id := Scanner.or_text current_yes.yes_market_id opp.yes_market_id
          no_market_id := Scanner.or_text current_no.no_market_id opp.no_market_id
          gross_edge := gross_edge
          total_fees := total_fees
          net_edge := net_edge
          net_edge_cents := net_edge * 100
          quote_age_seconds := age
          timestamp := now
          yes_fee_rate := current_yes.fee_rate
          no_fee_rate := current_no.fee_rate }
  | _, _ => .error "no fresh quotes available for either leg"

/-- To the engine it is the requote of the retry chain. -/
theorem retry_requoted_to_engine (cfg : RetryScheduler.Config) (now : ℚ)
    (opp : ArbitrageOpportunity) (yes no : Option PricePoint) :
    (retry_requoted cfg now opp yes no).map ArbitrageOpportunity.to_engine =
      RetryScheduler.requoted cfg opp.to_engine yes no := by
  cases yes with
  | none => rfl
  | some yes =>
    cases no with
    | none => rfl
    | some no =>
      unfold retry_requoted RetryScheduler.requoted
      dsimp only
      split
      · rfl
      · rfl

/-- A rewrite at fresh prices that keeps both legs' fees is consistent if the total has not
    changed, is the venues' for the quantity, and the profit is the one of the net edge. -/
theorem Consistent.rewrite_iff {opp opp' : ArbitrageOpportunity} (h : Consistent opp)
    (hgross : opp'.gross_edge = 1 - opp'.yes_price - opp'.no_price)
    (hnet : opp'.net_edge = opp'.gross_edge - opp'.total_fees)
    (hcents : opp'.net_edge_cents = opp'.net_edge * 100)
    (hyes : opp'.yes_fee = opp.yes_fee) (hno : opp'.no_fee = opp.no_fee) :
    Consistent opp' ↔ opp'.total_fees = opp.total_fees ∧
      opp'.total_fees = fees_at opp' opp'.yes_price opp'.no_price
        (opp'.yes_fee_rate.getD 0 : ℚ≥0) (opp'.no_fee_rate.getD 0 : ℚ≥0) opp'.suggested_qty ∧
      opp'.max_profit_usd = round_to 4 (opp'.net_edge * opp'.suggested_qty) := by
  have hown : opp.total_fees = opp'.yes_fee + opp'.no_fee := by
    rw [hyes, hno]
    exact h.own_fees
  constructor
  · intro h'
    exact ⟨h'.own_fees.trans hown.symm, h'.venue_fees, h'.max_profit_usd⟩
  · rintro ⟨htotal, hvenue, hprofit⟩
    exact
      { gross_edge := hgross
        own_fees := htotal.trans hown
        venue_fees := hvenue
        net_edge := hnet
        net_edge_cents := by rw [hcents, mul_comm]
        max_profit_usd := hprofit }

/-! ## Section 3: What keeps the economics -/

/-- At the fresh quotes, `qty` contracts pay the fees per contract that the opportunity has. -/
def FeesStay (opp : ArbitrageOpportunity) (yes no : PricePoint) (qty : ℕ) : Prop :=
  fees_at opp yes.yes_price no.no_price yes.rate no.rate qty = opp.total_fees

/-- At the fresh quotes and the same fees, the profit is the one the opportunity has. -/
def ProfitStays (opp : ArbitrageOpportunity) (yes no : PricePoint) : Prop :=
  opp.max_profit_usd =
    round_to 4 ((1 - yes.yes_price - no.no_price - opp.total_fees) * opp.suggested_qty)

/-- The pre-flight checks find no price store, or quotes at which the fees of what the
    books leave have not moved, and the profit neither unless the books left less. -/
def PreFlightKeeps (cfg : AutoExecutorConfig) (quotes : Option AutoExecutor.Quotes)
    (depth : Side → Option Depth) (opp : ArbitrageOpportunity) : Prop :=
  ∀ q yes no left, quotes = some q → q.yes = .ok (some yes) → q.no = .ok (some no) →
    adaptive_qty cfg depth (max opp.suggested_qty 1) yes.yes_price no.no_price = some left →
    FeesStay opp yes no left ∧ (left < max opp.suggested_qty 1 ∨ ProfitStays opp yes no)

section rewrites

variable {opp opp' : ArbitrageOpportunity} {yes no : PricePoint}

/-- The clamp recomputes all of it. -/
theorem clamp_qty_consistent {cfg : AutoExecutorConfig} (h : Consistent opp)
    (hclamp : clamp_qty cfg opp = some opp') : Consistent opp' := by
  rw [clamp_qty] at hclamp
  split at hclamp
  case isFalse => exact Option.some.inj hclamp ▸ h
  case isTrue =>
    simp only [Option.ite_none_left_eq_some, Option.some.injEq] at hclamp
    obtain ⟨-, -, rfl⟩ := hclamp
    exact
      { gross_edge := h.gross_edge
        own_fees := add_div _ _ _
        venue_fees := rfl
        net_edge := rfl
        net_edge_cents := mul_comm _ _
        max_profit_usd := rfl }

/-- An opportunity without contracts has no fees, at any quotes. -/
theorem fees_at_suggested (h : Consistent opp) (hstay : FeesStay opp yes no (max opp.suggested_qty 1)) :
    fees_at opp yes.yes_price no.no_price yes.rate no.rate (max opp.suggested_qty 1) =
      fees_at opp yes.yes_price no.no_price yes.rate no.rate opp.suggested_qty := by
  rcases Nat.eq_zero_or_pos opp.suggested_qty with hzero | hpos
  · have hnone := h.venue_fees
    rw [hzero, fees_at_zero] at hnone
    have hstay' := hstay.trans hnone
    rw [hstay', hzero, fees_at_zero]
  · rw [Nat.max_eq_left hpos]

/-- A requote that leaves the quantity and the profit alone. -/
theorem requote_consistent_iff (h : Consistent opp)
    (hyes_price : opp'.yes_price = yes.yes_price) (hno_price : opp'.no_price = no.no_price)
    (hyes_rate : opp'.yes_fee_rate.getD 0 = yes.rate) (hno_rate : opp'.no_fee_rate.getD 0 = no.rate)
    (hplatforms : opp'.yes_platform = opp.yes_platform ∧ opp'.no_platform = opp.no_platform)
    (hfees : opp'.yes_fee = opp.yes_fee ∧ opp'.no_fee = opp.no_fee)
    (hqty : opp'.suggested_qty = opp.suggested_qty)
    (hprofit : opp'.max_profit_usd = opp.max_profit_usd)
    (hgross : opp'.gross_edge = 1 - yes.yes_price - no.no_price)
    (htotal : opp'.total_fees =
      fees_at opp yes.yes_price no.no_price yes.rate no.rate (max opp.suggested_qty 1))
    (hnet : opp'.net_edge = opp'.gross_edge - opp'.total_fees)
    (hcents : opp'.net_edge_cents = opp'.net_edge * 100) :
    Consistent opp' ↔
      FeesStay opp yes no (max opp.suggested_qty 1) ∧ ProfitStays opp yes no := by
  have hgross' : opp'.gross_edge = 1 - opp'.yes_price - opp'.no_price := by
    rw [hgross, hyes_price, hno_price]
  rw [h.rewrite_iff hgross' hnet hcents hfees.1 hfees.2, hnet, hgross, hqty, hprofit, htotal]
  have hsame : fees_at opp' opp'.yes_price opp'.no_price (opp'.yes_fee_rate.getD 0 : ℚ≥0)
      (opp'.no_fee_rate.getD 0 : ℚ≥0) opp.suggested_qty =
      fees_at opp yes.yes_price no.no_price yes.rate no.rate opp.suggested_qty := by
    rw [hyes_price, hno_price, hyes_rate, hno_rate, fees_at, fees_at, hplatforms.1, hplatforms.2]
  -- with the fees that were there before, what they come to follows
  rw [hsame]
  constructor
  · rintro ⟨hstay, -, hprofit'⟩
    rw [hstay] at hprofit'
    exact ⟨hstay, hprofit'⟩
  · rintro ⟨hstay, hprofit'⟩
    have hstay' : fees_at opp yes.yes_price no.no_price yes.rate no.rate
        (max opp.suggested_qty 1) = opp.total_fees := hstay
    refine ⟨hstay, fees_at_suggested h hstay, ?_⟩
    rw [hstay']
    exact hprofit'

theorem pre_flight_consistent_iff {cfg : AutoExecutorConfig} {depth : Side → Option Depth}
    {now : ℚ} {yes_rate no_rate : ℚ≥0} (hyes : yes.fee_rate = some yes_rate)
    (hno : no.fee_rate = some no_rate) (h : Consistent opp)
    (hflight : pre_flight cfg depth yes no yes_rate no_rate now opp = some opp') :
    ∃ left, adaptive_qty cfg depth (max opp.suggested_qty 1) yes.yes_price no.no_price = some left ∧
      (Consistent opp' ↔ FeesStay opp yes no left ∧
        (left < max opp.suggested_qty 1 ∨ ProfitStays opp yes no)) := by
  obtain ⟨left, hleft, -, hle, -, rfl⟩ := pre_flight_cases hflight
  have hyes_rate : yes.rate = yes_rate := by rw [PricePoint.rate, hyes]; rfl
  have hno_rate : no.rate = no_rate := by rw [PricePoint.rate, hno]; rfl
  refine ⟨left, hleft, ?_⟩
  by_cases hless : left < max opp.suggested_qty 1
  · have hiff : Consistent (resized (requoted opp yes no yes_rate no_rate now left) left) ↔ _ :=
      h.rewrite_iff rfl rfl rfl rfl rfl
    rw [if_pos hless, hiff]
    unfold FeesStay
    rw [hyes_rate, hno_rate]
    constructor
    · rintro ⟨hstay, -, -⟩
      exact ⟨hstay, .inl hless⟩
    · rintro ⟨hstay, -⟩
      exact ⟨hstay, rfl, rfl⟩
  · -- nothing is taken away: what is handed over is the requote as it is
    obtain rfl : left = max opp.suggested_qty 1 := by omega
    have htotal : (requoted opp yes no yes_rate no_rate now (max opp.suggested_qty 1)).total_fees =
        fees_at opp yes.yes_price no.no_price yes.rate no.rate (max opp.suggested_qty 1) := by
      rw [hyes_rate, hno_rate]
      rfl
    have hiff : Consistent (requoted opp yes no yes_rate no_rate now (max opp.suggested_qty 1)) ↔
        FeesStay opp yes no (max opp.suggested_qty 1) ∧ ProfitStays opp yes no :=
      requote_consistent_iff h rfl rfl hyes_rate.symm hno_rate.symm ⟨rfl, rfl⟩ ⟨rfl, rfl⟩ rfl rfl
        rfl htotal rfl rfl
    rw [if_neg hless, hiff]
    exact and_congr_right fun _ => ⟨.inr, fun hor => hor.resolve_left hless⟩

/-- The pre-flight checks. -/
theorem pre_flight_checks_consistent_iff {cfg : AutoExecutorConfig}
    {quotes : Option AutoExecutor.Quotes}
    {depth : Side → Option Depth} (h : Consistent opp)
    (hchecks : pre_flight_checks cfg quotes depth opp = some opp') :
    Consistent opp' ↔ PreFlightKeeps cfg quotes depth opp := by
  cases quotes with
  | none =>
    obtain rfl : opp = opp' := by simpa [pre_flight_checks] using hchecks
    exact iff_of_true h fun _ _ _ _ hnone => absurd hnone (by simp)
  | some q =>
    obtain ⟨yes, no, yes_rate, no_rate, hfresh, hflight⟩ := pre_flight_checks_cases hchecks
    obtain ⟨left, hleft, hiff⟩ := pre_flight_consistent_iff hfresh.yes_rate hfresh.no_rate h hflight
    rw [hiff]
    constructor
    · intro hkeeps q' yes' no' left' hq' hyes' hno' hleft'
      -- the store and the books have answered once
      obtain rfl : q = q' := Option.some.inj hq'
      obtain rfl : yes = yes' := by simpa [hfresh.yes_quote] using hyes'
      obtain rfl : no = no' := by simpa [hfresh.no_quote] using hno'
      obtain rfl : left = left' := by simpa [hleft] using hleft'
      exact hkeeps
    · intro hkeeps
      exact hkeeps q yes no left rfl hfresh.yes_quote hfresh.no_quote hleft

/-- The retry scheduler's requote. -/
theorem retry_consistent_iff {cfg : RetryScheduler.Config} {now : ℚ} (h : Consistent opp)
    (hretry : retry_requoted cfg now opp (some yes) (some no) = .ok opp') :
    Consistent opp' ↔
      FeesStay opp yes no (max opp.suggested_qty 1) ∧ ProfitStays opp yes no := by
  simp only [retry_requoted] at hretry
  split at hretry
  · cases hretry
  · cases hretry
    exact requote_consistent_iff h rfl rfl rfl rfl ⟨rfl, rfl⟩ ⟨rfl, rfl⟩ rfl rfl rfl rfl rfl rfl

/-- The engine's requote comes back with the marks. -/
theorem pre_trade_requote_eq {cfg : RequoteSettings} {reads : RequoteReads}
    (hyes : reads.current_yes = some yes) (hno : reads.current_no = some no)
    (h : pre_trade_requote cfg reads opp = .ok opp') :
    opp' = at_marks opp yes no (max yes.age_seconds no.age_seconds) reads.now := by
  simp only [pre_trade_requote, hyes, hno] at h
  split at h
  · cases h
  split at h
  · cases h
  split at h
  · cases h
  split at h
  · cases h
  · cases h
  split at h
  · cases h
  split at h
  · cases h
  cases h
  rfl

/-- The engine's requote recomputes the profit, and takes the quantity as it is. -/
theorem pre_trade_consistent_iff {cfg : RequoteSettings} {reads : RequoteReads}
    (h : Consistent opp) (hyes : reads.current_yes = some yes) (hno : reads.current_no = some no)
    (htrade : pre_trade_requote cfg reads opp = .ok opp') :
    Consistent opp' ↔ FeesStay opp yes no opp.suggested_qty := by
  obtain rfl := pre_trade_requote_eq hyes hno htrade
  have htotal : (at_marks opp yes no (max yes.age_seconds no.age_seconds) reads.now).total_fees =
      fees_at opp yes.yes_price no.no_price yes.rate no.rate opp.suggested_qty := by
    show _ / ((max opp.suggested_qty 1 : ℕ) : ℚ) = _ / (opp.suggested_qty : ℚ)
    rcases Nat.eq_zero_or_pos opp.suggested_qty with hzero | hpos
    · rw [hzero]
      simp [compute_fee]
    · rw [Nat.max_eq_left hpos]
  have hiff : Consistent (at_marks opp yes no (max yes.age_seconds no.age_seconds) reads.now) ↔ _ :=
    h.rewrite_iff rfl rfl rfl rfl rfl
  rw [hiff, htotal]
  unfold FeesStay
  constructor
  · rintro ⟨hstay, -, -⟩
    exact hstay
  · intro hstay
    exact ⟨hstay, rfl, rfl⟩

end rewrites

/-- **What the four rewrites leave of the economics.** Of an opportunity whose fields agree,
    the clamp always leaves one whose fields agree. The pre-flight checks after it, and the
    two requotes, keep both legs' fees: they do exactly where the fees per contract have not
    moved, and where those that do not recompute the profit find it unmoved too. -/
theorem rewrites_consistent_iff (opp opp' : ArbitrageOpportunity) (h : Consistent opp) :
    (∀ cfg mid, clamp_qty cfg opp = some mid → Consistent mid ∧
      ∀ quotes depth, pre_flight_checks cfg quotes depth mid = some opp' →
        (Consistent opp' ↔ PreFlightKeeps cfg quotes depth mid)) ∧
    (∀ cfg now yes no, retry_requoted cfg now opp (some yes) (some no) = .ok opp' →
      (Consistent opp' ↔
        FeesStay opp yes no (max opp.suggested_qty 1) ∧ ProfitStays opp yes no)) ∧
    ∀ cfg reads yes no, reads.current_yes = some yes → reads.current_no = some no →
      pre_trade_requote cfg reads opp = .ok opp' →
        (Consistent opp' ↔ FeesStay opp yes no opp.suggested_qty) := by
  refine ⟨fun cfg mid hclamp => ?_, fun cfg now yes no hretry => ?_,
    fun cfg reads yes no hyes hno htrade => ?_⟩
  · have hmid := clamp_qty_consistent h hclamp
    exact ⟨hmid, fun quotes depth hchecks => pre_flight_checks_consistent_iff hmid hchecks⟩
  · exact retry_consistent_iff h hretry
  · exact pre_trade_consistent_iff h hyes hno htrade

/-- Kalshi's quote with YES a cent lower. -/
def kalshi_cent_lower : PricePoint :=
  { Scanner.kalshi_quote with yes_price := 39 / 100, no_price := 61 / 100 }

/-- Both quotes, and no adapter that gives a bid and an ask. -/
def cent_lower_reads : RequoteReads :=
  ⟨some kalshi_cent_lower, some no_quote, fun _ _ => none, 1001⟩

/-- `house_opportunity` at that quote, as the engine requotes it. -/
def house_requoted : ArbitrageOpportunity :=
  at_marks Scanner.house_opportunity kalshi_cent_lower no_quote
    (max kalshi_cent_lower.age_seconds no_quote.age_seconds) 1001

theorem house_consistent : Consistent Scanner.house_opportunity := by decide +kernel

theorem house_pre_trade :
    pre_trade_requote ⟨Scanner.one_scan_config, 5, 2 / 100⟩ cent_lower_reads
      Scanner.house_opportunity = .ok house_requoted := by
  decide +kernel

theorem rewrites_consistent_iff_house :
    Consistent house_requoted ↔ FeesStay Scanner.house_opportunity kalshi_cent_lower no_quote
      Scanner.house_opportunity.suggested_qty :=
  (rewrites_consistent_iff Scanner.house_opportunity house_requoted house_consistent).2.2
    ⟨Scanner.one_scan_config, 5, 2 / 100⟩ cent_lower_reads kalshi_cent_lower no_quote rfl rfl
    house_pre_trade

/-- A cent of movement leaves each of the three requotes with the fees of the legs at the
    old quotes, and two of them with the old profit. -/
theorem cent_of_movement_unsettles :
    Consistent Scanner.house_opportunity ∧
      (pre_flight_checks AutoExecutor.default_config
          (some ⟨.ok (some kalshi_cent_lower), .ok (some no_quote), 1001⟩)
          (fun _ => some ⟨fun _ => some true, fun _ => some true⟩)
          Scanner.house_opportunity).any (fun opp => ¬ Consistent opp) = true ∧
      (retry_requoted ⟨3, 1, 2, 30, 60, true⟩ 1001 Scanner.house_opportunity
          (some kalshi_cent_lower) (some no_quote)).toOption.any (fun opp => ¬ Consistent opp) =
        true ∧
      (pre_trade_requote ⟨Scanner.one_scan_config, 5, 2 / 100⟩ cent_lower_reads
          Scanner.house_opportunity).toOption.any (fun opp => ¬ Consistent opp) = true := by
  exact ⟨house_consistent, by decide +kernel, by decide +kernel, by decide +kernel⟩

end Execution
