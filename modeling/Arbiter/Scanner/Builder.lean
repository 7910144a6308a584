import Arbiter.Framework.Decimal
import Arbiter.Framework.Truncate
import Arbiter.Scanner.Fees
import Arbiter.Scanner.Opportunity

/-! # Building an Opportunity

  The scanner prices a YES leg at one venue against a NO leg at another: it guards the
  quotes, sizes the pair, charges the fees at that size, and holds what is left to the
  pair's floor. Only then is the opportunity given a status.

  ## Contents

  - Section 1: the size, the smallest of five caps.
  - Section 2: the opportunity of two price points.
  - Section 3: its status.
-/

namespace Scanner

open Truncate
open Execution (OppStatus)

/-! ## Section 1: Sizing -/

/-- What the balance provider gives when a pair is sized. -/
inductive Balances
  /-- No provider is set. -/
  | unwired
  /-- It raises, or what it gives for a venue is no number. -/
  | raised
  /-- Its entries. -/
  | told (entry : String → Option ℚ)

/-- `RESERVE_FRACTION`: held back at each venue. -/
def reserve_fraction : ℚ := 1 / 10

/-- `platform_min_shares`. -/
def platform_min_shares (platform : String) : ℕ := if platform = "polymarket" then 5 else 1

/-- `_edge_scalar`. -/
def edge_scalar (cfg : ScannerConfig) (net_edge_cents : ℚ) : ℚ :=
  let min_gate := max cfg.min_edge_cents 0
  let ref_edge := max cfg.edge_scaling_ref_cents (min_gate + 1 / 10 ^ 6)
  let min_frac := max 0 (min cfg.edge_scaling_min_fraction 1)
  -- Never the case: the reference edge is above the gate.
  if ref_edge ≤ min_gate then 1
  else
    let ratio := (net_edge_cents - min_gate) / (ref_edge - min_gate)
    let scalar := min_frac + max 0 ratio * (1 - min_frac)
    max min_frac (min scalar 1)

/-- `yes_cap` and `no_cap`: what a balance buys at `price`, less what is held back. -/
def balance_cap (bal price : ℚ) : ℚ := max (bal * (1 - reserve_fraction)) 0 / max price (1 / 100)

/-- `yes_reserve_cap` and `no_reserve_cap`: the same of the balance above the reserve. -/
def reserve_cap (reserve_floor bal price : ℚ) : ℚ :=
  max (bal - reserve_floor) 0 * (1 - reserve_fraction) / max price (1 / 100)

/-- `legacy_reserve`, `balance_fraction_cap` and `min_reserve_cap` together, at known
    balances. Without a reserve the last is `config_limited`. -/
def balance_limited (cfg : ScannerConfig) (yes_bal no_bal yes_price no_price : ℚ)
    (cost_per_pair : ℚ) (config_limited : ℤ) (net_edge_cents : ℚ) : ℤ :=
  let legacy_reserve := whole (min (balance_cap yes_bal yes_price) (balance_cap no_bal no_price))
  let fraction := max 0 (min cfg.max_balance_fraction_per_trade 1)
  let fraction :=
    if cfg.edge_scaling_enabled ∧ 0 < fraction then fraction * edge_scalar cfg net_edge_cents
    else fraction
  let balance_fraction_cap := whole (min yes_bal no_bal * fraction / cost_per_pair)
  let reserve_floor := max 0 cfg.min_platform_reserve_usd
  -- A balance below the reserve leaves nothing to spend.
  let min_reserve_cap :=
    if 0 < reserve_floor then
      whole (min (reserve_cap reserve_floor yes_bal yes_price)
        (reserve_cap reserve_floor no_bal no_price))
    else config_limited
  min (min legacy_reserve balance_fraction_cap) min_reserve_cap

/-- The three balance caps of a pair: `config_limited` where no balance is known. A venue
    without an entry counts as holding `max_position_usd`. -/
def Balances.limited (balances : Balances) (cfg : ScannerConfig) (yes no : PricePoint)
    (yes_price no_price cost_per_pair : ℚ) (config_limited : ℤ) (net_edge_cents : ℚ) : ℤ :=
  match balances with
  | .unwired => config_limited
  | .raised => config_limited
  | .told entry =>
      balance_limited cfg ((entry yes.platform).getD cfg.max_position_usd)
        ((entry no.platform).getD cfg.max_position_usd) yes_price no_price cost_per_pair
        config_limited net_edge_cents

/-- `_compute_position_size`. -/
def compute_position_size (cfg : ScannerConfig) (balances : Balances) (yes no : PricePoint)
    (yes_price no_price net_edge_cents : ℚ) : ℕ :=
  let cost_per_pair := max (yes_price + no_price) (1 / 100)
  let config_limited := whole (cfg.max_position_usd / cost_per_pair)
  let liquidity_limited := whole (max (min yes.yes_volume no.no_volume) 1 : ℚ≥0)
  let balance_limited := balances.limited cfg yes no yes_price no_price cost_per_pair
    config_limited net_edge_cents
  let size := (min (min config_limited liquidity_limited) balance_limited).toNat
  -- A venue would reject an order below its minimum.
  if size < max (platform_min_shares yes.platform) (platform_min_shares no.platform) then 0
  else size

/-- A positive whole number is below the whole part of the smaller of two numbers when it
    is below both. -/
theorem le_whole_min_iff {n : ℤ} {a b : ℚ} (hn : 0 < n) :
    n ≤ whole (min a b) ↔ (n : ℚ) ≤ a ∧ (n : ℚ) ≤ b := by
  rw [le_whole_iff hn, le_min_iff]

/-- A leg costs at most 90 % of the balance above the reserve. -/
def Affordable (cfg : ScannerConfig) (bal price : ℚ) (qty : ℕ) : Prop :=
  qty * price ≤ (1 - reserve_fraction) * (bal - max 0 cfg.min_platform_reserve_usd)

/-- What a positive number of contracts within `spend / max price 0.01` costs. -/
theorem mul_price_le {n : ℤ} {price spend : ℚ} (hn : 0 < n)
    (h : (n : ℚ) ≤ spend / max price (1 / 100)) : n * price ≤ spend := by
  have hpos : (0 : ℚ) < n := by exact_mod_cast hn
  have hmax : (0 : ℚ) < max price (1 / 100) := lt_max_of_lt_right (by norm_num)
  rw [le_div_iff₀ hmax] at h
  -- A price below a cent counts as a cent, which only makes the quantity smaller.
  have hprice := mul_le_mul_of_nonneg_left (le_max_left price (1 / 100)) hpos.le
  exact hprice.trans h

/-- The caps at known balances keep a leg affordable: `balance_cap` where there is no
    reserve, `reserve_cap` where there is one. -/
theorem affordable_of_caps {cfg : ScannerConfig} {bal price : ℚ} {qty : ℕ} (hqty : 0 < qty)
    (hprice : 0 < price) (hbalance : (qty : ℚ) ≤ balance_cap bal price)
    (hreserve : 0 < max 0 cfg.min_platform_reserve_usd →
      (qty : ℚ) ≤ reserve_cap (max 0 cfg.min_platform_reserve_usd) bal price) :
    Affordable cfg bal price qty := by
  have hn : (0 : ℤ) < qty := by exact_mod_cast hqty
  have hcost : (0 : ℚ) < qty * price := by positivity
  unfold Affordable
  rcases (le_max_left 0 cfg.min_platform_reserve_usd).lt_or_eq with h | h
  · -- The spendable part is positive, so it is what lies above the reserve.
    have hle : qty * price ≤ max (bal - max 0 cfg.min_platform_reserve_usd) 0 *
        (1 - reserve_fraction) := mul_price_le hn (hreserve h)
    rcases le_total (bal - max 0 cfg.min_platform_reserve_usd) 0 with hneg | hpos
    · rw [max_eq_right hneg, zero_mul] at hle
      linarith
    · rw [max_eq_left hpos] at hle
      linarith
  · -- Without a reserve the legacy cap is the one that counts.
    have hle : qty * price ≤ max (bal * (1 - reserve_fraction)) 0 := mul_price_le hn hbalance
    rw [← h]
    rcases le_total (bal * (1 - reserve_fraction)) 0 with hneg | hpos
    · rw [max_eq_right hneg] at hle
      linarith
    · rw [max_eq_left hpos] at hle
      linarith

theorem affordable_of_le_balance_limited {cfg : ScannerConfig}
    {yes_bal no_bal yes_price no_price cost_per_pair net_edge_cents : ℚ} {config_limited : ℤ}
    {qty : ℕ} (hqty : 0 < qty) (hyes : 0 < yes_price) (hno : 0 < no_price)
    (h : (qty : ℤ) ≤ balance_limited cfg yes_bal no_bal yes_price no_price cost_per_pair
      config_limited net_edge_cents) :
    Affordable cfg yes_bal yes_price qty ∧ Affordable cfg no_bal no_price qty := by
  have hn : (0 : ℤ) < qty := by exact_mod_cast hqty
  simp only [balance_limited, le_min_iff] at h
  obtain ⟨⟨hlegacy, -⟩, hreserve⟩ := h
  have hlegs := (le_whole_min_iff hn).1 hlegacy
  have hreserves (hpos : 0 < max 0 cfg.min_platform_reserve_usd) := by
    rw [if_pos hpos] at hreserve
    exact (le_whole_min_iff hn).1 hreserve
  constructor
  · exact affordable_of_caps hqty hyes (by simpa using hlegs.1)
      fun hpos => by simpa using (hreserves hpos).1
  · exact affordable_of_caps hqty hno (by simpa using hlegs.2)
      fun hpos => by simpa using (hreserves hpos).2

/-- A size within every limit. -/
structure Sized (cfg : ScannerConfig) (balances : Balances) (yes no : PricePoint) (qty : ℕ) :
    Prop where
  yes_min : platform_min_shares yes.platform ≤ qty
  no_min : platform_min_shares no.platform ≤ qty
  cost : qty * (yes.yes_ask + no.no_ask : ℚ) ≤ cfg.max_position_usd
  liquidity : (qty : ℚ≥0) ≤ max 1 (min yes.yes_volume no.no_volume)
  yes_balance : ∀ entry, balances = .told entry →
    Affordable cfg ((entry yes.platform).getD cfg.max_position_usd) yes.yes_ask qty
  no_balance : ∀ entry, balances = .told entry →
    Affordable cfg ((entry no.platform).getD cfg.max_position_usd) no.no_ask qty

/-- **A size that is not zero is within every limit.** -/
theorem compute_position_size_sized {cfg : ScannerConfig} {balances : Balances}
    {yes no : PricePoint} {net_edge_cents : ℚ} (hyes : 0 < yes.yes_ask) (hno : 0 < no.no_ask)
    (h : compute_position_size cfg balances yes no yes.yes_ask no.no_ask net_edge_cents ≠ 0) :
    Sized cfg balances yes no
      (compute_position_size cfg balances yes no yes.yes_ask no.no_ask net_edge_cents) := by
  simp only [compute_position_size] at h ⊢
  split at h
  case isTrue => exact absurd rfl h
  case isFalse hmin =>
    rw [if_neg hmin]
    generalize hcaps : min (min (whole _) (whole _)) (balances.limited _ _ _ _ _ _ _ _) = caps
      at h hmin ⊢
    obtain ⟨qty, rfl⟩ := Int.eq_ofNat_of_zero_le (by omega : 0 ≤ caps)
    rw [Int.toNat_natCast] at h hmin ⊢
    rw [not_lt, max_le_iff] at hmin
    have hpos : 0 < qty := Nat.pos_of_ne_zero h
    have hn : (0 : ℤ) < qty := by exact_mod_cast hpos
    -- The size is below each of the caps.
    have hle := hcaps.ge
    rw [le_min_iff, le_min_iff] at hle
    obtain ⟨⟨hconfig, hliquid⟩, hbalance⟩ := hle
    have hboth (entry : String → Option ℚ) (hentry : balances = .told entry) :
        Affordable cfg ((entry yes.platform).getD cfg.max_position_usd) yes.yes_ask qty ∧
          Affordable cfg ((entry no.platform).getD cfg.max_position_usd) no.no_ask qty := by
      rw [hentry] at hbalance
      exact affordable_of_le_balance_limited hpos (NNRat.cast_pos.2 hyes) (NNRat.cast_pos.2 hno)
        hbalance
    exact
      { yes_min := hmin.1
        no_min := hmin.2
        cost := mul_price_le hn ((le_whole_iff hn).1 hconfig)
        liquidity := by
          have hle := (le_whole_iff hn).1 hliquid
          rw [max_comm]
          exact_mod_cast hle
        yes_balance := fun entry hentry => (hboth entry hentry).1
        no_balance := fun entry hentry => (hboth entry hentry).2 }

/-! ## Section 2: The opportunity of two price points -/

/-- A ForecastEx quote too old to price a pair on. -/
def stale_forecastex (cfg : ScannerConfig) (p : PricePoint) : Prop :=
  0 < cfg.forecastex_max_quote_age_s ∧ p.platform = "forecastex" ∧
    cfg.forecastex_max_quote_age_s < p.age_seconds

/-- `MAX_BINARY_DEVIATION`: a venue's two marks are too far from a dollar. -/
def non_binary (p : PricePoint) : Prop :=
  0 < p.yes_price + p.no_price ∧ 15 / 100 < |(p.yes_price + p.no_price : ℚ) - 1|

/-- `max_bid_ask_spread_cents`, where there is a bid. -/
def wide_spread (cfg : ScannerConfig) (bid ask : ℚ≥0) : Prop :=
  0 < cfg.max_bid_ask_spread_cents ∧ 0 < bid ∧ 0 < ask ∧
    cfg.max_bid_ask_spread_cents < ((ask : ℚ) - bid) * 100

instance (cfg : ScannerConfig) (p : PricePoint) : Decidable (stale_forecastex cfg p) :=
  inferInstanceAs (Decidable (_ ∧ _ ∧ _))

instance (p : PricePoint) : Decidable (non_binary p) := inferInstanceAs (Decidable (_ ∧ _))

instance (cfg : ScannerConfig) (bid ask : ℚ≥0) : Decidable (wide_spread cfg bid ask) :=
  inferInstanceAs (Decidable (_ ∧ _ ∧ _ ∧ _))

/-- The gross edge of buying both sides at their asks. -/
def gross_edge (yes no : PricePoint) : ℚ := 1 - yes.yes_ask - no.no_ask

/-- `_early_liq`: the smaller volume. -/
def early_liq (yes no : PricePoint) : ℚ≥0 := min yes.yes_volume no.no_volume

/-- `suggested_qty`: one contract as a placeholder where the pair is illiquid, else its
    size. -/
def suggested_qty (cfg : ScannerConfig) (balances : Balances) (yes no : PricePoint) : ℕ :=
  if (early_liq yes no : ℚ) < cfg.min_liquidity_for_pair yes.platform no.platform then 1
  else compute_position_size cfg balances yes no yes.yes_ask no.no_ask (gross_edge yes no * 100)

/-- `yes_fee_total`. -/
def yes_fee_total (yes : PricePoint) (qty : ℕ) : ℚ :=
  compute_fee yes.platform yes.yes_ask qty yes.rate

/-- `no_fee_total`. -/
def no_fee_total (no : PricePoint) (qty : ℕ) : ℚ :=
  compute_fee no.platform no.no_ask qty no.rate

/-- Fees of the pair per contract. -/
def total_fees (yes no : PricePoint) (qty : ℕ) : ℚ :=
  (yes_fee_total yes qty + no_fee_total no qty) / qty

/-- `_compute_confidence`. -/
def compute_confidence (cfg : ScannerConfig) (quote_age_seconds min_available_liquidity : ℚ)
    (mapping_score : ℚ) (requires_manual : Bool) : ℚ :=
  let freshness_score := max 0 (1 - quote_age_seconds / max cfg.max_quote_age_seconds 1)
  let liquidity_score := min 1 (min_available_liquidity / max (cfg.min_liquidity * 4) 1)
  let manual_penalty := if requires_manual then 1 / 10 else 0
  let confidence :=
    45 / 100 * freshness_score + 35 / 100 * liquidity_score + 20 / 100 * max mapping_score (1 / 4)
  max 0 (min (confidence - manual_penalty) 1)

/-- `a or b`, of texts. -/
def or_text (a b : String) : String := if a = "" then b else a

/-- What is built of a market that is listed as `canonical_id`. -/
structure Listing where
  canonical_id : String
  description : String
  mapping_status : String
  mapping_score : ℚ

/-- The record built for `suggested_qty` contracts. -/
def opportunity_at (cfg : ScannerConfig) (timestamp : ℚ) (listing : Listing)
    (yes no : PricePoint) (suggested_qty : ℕ) : ArbitrageOpportunity :=
  let net_edge := gross_edge yes no - total_fees yes no suggested_qty
  let quote_age_seconds := max yes.age_seconds no.age_seconds
  { canonical_id := listing.canonical_id
    description := listing.description
    yes_platform := yes.platform
    yes_price := yes.yes_ask
    yes_fee := yes_fee_total yes suggested_qty / suggested_qty
    yes_market_id := or_text yes.yes_market_id yes.raw_market_id
    no_platform := no.platform
    no_price := no.no_ask
    no_fee := no_fee_total no suggested_qty / suggested_qty
    no_market_id := or_text no.no_market_id no.raw_market_id
    gross_edge := gross_edge yes no
    total_fees := total_fees yes no suggested_qty
    net_edge := net_edge
    net_edge_cents := net_edge * 100
    suggested_qty := suggested_qty
    max_profit_usd := Decimal.round_to 4 (net_edge * suggested_qty)
    timestamp := timestamp
    confidence := compute_confidence cfg quote_age_seconds (early_liq yes no)
      listing.mapping_score false
    status := .candidate
    persistence_count := 1
    quote_age_seconds := quote_age_seconds
    min_available_liquidity := early_liq yes no
    mapping_status := listing.mapping_status
    mapping_score := listing.mapping_score
    requires_manual := false
    yes_fee_rate := yes.fee_rate
    no_fee_rate := no.fee_rate
    yes_quote_age_seconds := yes.age_seconds
    no_quote_age_seconds := no.age_seconds }

/-- `_build_cross_platform_opportunity`. -/
def build_cross_platform_opportunity (cfg : ScannerConfig) (balances : Balances) (timestamp : ℚ)
    (listing : Listing) (yes no : PricePoint) : Option ArbitrageOpportunity :=
  if stale_forecastex cfg yes ∨ stale_forecastex cfg no then none
  -- No ask is no price: a mark is not tradable.
  else if yes.yes_ask = 0 ∨ no.no_ask = 0 then none
  -- Marks that do not add up to a dollar belong to a market with more than two outcomes.
  else if non_binary yes ∨ non_binary no then none
  else if gross_edge yes no ≤ 0 then none
  -- A leg bought across a wide spread could not be sold back.
  else if wide_spread cfg yes.yes_bid yes.yes_ask ∨ wide_spread cfg no.no_bid no.no_ask then none
  else
    let qty := suggested_qty cfg balances yes no
    if qty = 0 then none
    else
      let opp := opportunity_at cfg timestamp listing yes no qty
      -- The fees, and so the net edge, are those of the quantity found.
      if opp.net_edge_cents < cfg.min_edge_for_pair yes.platform no.platform then none
      else some opp

/-- When an opportunity is built of two price points. -/
structure Buildable (cfg : ScannerConfig) (balances : Balances) (timestamp : ℚ)
    (listing : Listing) (yes no : PricePoint) : Prop where
  yes_fresh : ¬ stale_forecastex cfg yes
  no_fresh : ¬ stale_forecastex cfg no
  yes_ask : 0 < yes.yes_ask
  no_ask : 0 < no.no_ask
  yes_binary : ¬ non_binary yes
  no_binary : ¬ non_binary no
  gross : 0 < gross_edge yes no
  yes_spread : ¬ wide_spread cfg yes.yes_bid yes.yes_ask
  no_spread : ¬ wide_spread cfg no.no_bid no.no_ask
  qty : suggested_qty cfg balances yes no ≠ 0
  floor : cfg.min_edge_for_pair yes.platform no.platform ≤
    (opportunity_at cfg timestamp listing yes no
      (suggested_qty cfg balances yes no)).net_edge_cents

/-- **What the builder builds**: the record of the pair at its size, of a pair that passes
    every guard. -/
theorem build_eq_some_iff {cfg : ScannerConfig} {balances : Balances} {timestamp : ℚ}
    {listing : Listing} {yes no : PricePoint} {opp : ArbitrageOpportunity} :
    build_cross_platform_opportunity cfg balances timestamp listing yes no = some opp ↔
      Buildable cfg balances timestamp listing yes no ∧
        opp = opportunity_at cfg timestamp listing yes no
          (suggested_qty cfg balances yes no) := by
  constructor
  · intro h
    simp only [build_cross_platform_opportunity, Option.ite_none_left_eq_some, not_or, not_le,
      not_lt, Option.some.injEq] at h
    obtain ⟨hfresh, hask, hbinary, hgross, hspread, hqty, hfloor, rfl⟩ := h
    exact ⟨⟨hfresh.1, hfresh.2, pos_iff_ne_zero.2 hask.1, pos_iff_ne_zero.2 hask.2, hbinary.1,
      hbinary.2, hgross, hspread.1, hspread.2, hqty, hfloor⟩, rfl⟩
  · intro ⟨hb, heq⟩
    simp only [build_cross_platform_opportunity, Option.ite_none_left_eq_some, not_or, not_le,
      not_lt, Option.some.injEq]
    exact ⟨⟨hb.yes_fresh, hb.no_fresh⟩, ⟨hb.yes_ask.ne', hb.no_ask.ne'⟩,
      ⟨hb.yes_binary, hb.no_binary⟩, hb.gross, ⟨hb.yes_spread, hb.no_spread⟩, hb.qty, hb.floor,
      heq.symm⟩

/-- A pair with liquidity is built at its size, not at the placeholder. -/
theorem suggested_qty_of_liquid {cfg : ScannerConfig} {balances : Balances} {yes no : PricePoint}
    (h : cfg.min_liquidity_for_pair yes.platform no.platform ≤ early_liq yes no) :
    suggested_qty cfg balances yes no =
      compute_position_size cfg balances yes no yes.yes_ask no.no_ask
        (gross_edge yes no * 100) :=
  if_neg (not_lt.2 h)

/-! ## Section 3: Status -/

/-- An entry of `MARKET_MAP`: what the scanner reads of one. An absent text is empty. -/
structure Mapping where
  status : String
  description : String
  mapping_score : ℚ
  allow_auto_trade : Bool
  /-- `pending_operator_review` where it is absent. -/
  resolution_match_status : String
  kalshi : String
  kalshi_market_id : String
  polymarket : String
  polymarket_slug : String

/-- The phantom-edge filter: an edge this large on a quote that is not fresh. -/
def phantom_edge (cfg : ScannerConfig) (opp : ArbitrageOpportunity) : Prop :=
  let max_age :=
    if cfg.phantom_edge_max_age_seconds = 0 then 5 else cfg.phantom_edge_max_age_seconds
  0 < cfg.phantom_edge_threshold_cents ∧ cfg.phantom_edge_threshold_cents ≤ opp.net_edge_cents ∧
    (max_age < opp.yes_quote_age_seconds ∨ max_age < opp.no_quote_age_seconds)

instance (cfg : ScannerConfig) (opp : ArbitrageOpportunity) : Decidable (phantom_edge cfg opp) :=
  inferInstanceAs (Decidable (_ ∧ _ ∧ (_ ∨ _)))

/-- `_resolve_status`. -/
def resolve_status (cfg : ScannerConfig) (mapping : Mapping) (opp : ArbitrageOpportunity) :
    OppStatus :=
  if opp.mapping_status ≠ "confirmed" then .review
  -- A mapping found by discovery stays in review whatever its edge.
  else if ¬ mapping.allow_auto_trade then .review
  else if mapping.resolution_match_status.toLower ≠ "identical" then .review
  else if cfg.max_quote_age_seconds < opp.quote_age_seconds then .stale
  -- The placeholder quantity ends here: its pair is below this floor.
  else if (opp.min_available_liquidity : ℚ) <
      cfg.min_liquidity_for_pair opp.yes_platform opp.no_platform then .illiquid
  else if opp.persistence_count < cfg.persistence_scans then .candidate
  else if opp.requires_manual then .manual
  else if opp.confidence < cfg.confidence_threshold then .candidate
  else if opp.net_edge_cents < cfg.min_edge_for_pair opp.yes_platform opp.no_platform then
    .candidate
  else if phantom_edge cfg opp then .candidate
  else .tradable

/-- When an opportunity is tradable. -/
structure Tradable (cfg : ScannerConfig) (mapping : Mapping) (opp : ArbitrageOpportunity) :
    Prop where
  confirmed : opp.mapping_status = "confirmed"
  allowed : mapping.allow_auto_trade = true
  identical : mapping.resolution_match_status.toLower = "identical"
  fresh : (opp.quote_age_seconds : ℚ) ≤ cfg.max_quote_age_seconds
  liquid : cfg.min_liquidity_for_pair opp.yes_platform opp.no_platform ≤
    opp.min_available_liquidity
  persistent : cfg.persistence_scans ≤ opp.persistence_count
  automatic : opp.requires_manual = false
  confident : cfg.confidence_threshold ≤ opp.confidence
  floor : cfg.min_edge_for_pair opp.yes_platform opp.no_platform ≤ opp.net_edge_cents
  real : ¬ phantom_edge cfg opp

/-- An opportunity seen for the `count`-th time in a row, with its status. -/
def resolved (cfg : ScannerConfig) (mapping : Mapping) (count : ℕ) (opp : ArbitrageOpportunity) :
    ArbitrageOpportunity :=
  let opp := { opp with persistence_count := count }
  { opp with status := resolve_status cfg mapping opp }

/-- A gate lets an opportunity through to `t` when it does not fire. -/
theorem gate_eq_iff {c : Prop} [Decidable c] {a b t : OppStatus} (h : a ≠ t) :
    (if c then a else b) = t ↔ ¬ c ∧ b = t := by
  by_cases hc : c
  · simp [hc, h]
  · simp [hc]

/-- **An opportunity is tradable when it passes every gate.** -/
theorem resolve_status_eq_tradable_iff {cfg : ScannerConfig} {mapping : Mapping}
    {opp : ArbitrageOpportunity} :
    resolve_status cfg mapping opp = .tradable ↔ Tradable cfg mapping opp := by
  have hreview : OppStatus.review ≠ .tradable := by decide
  have hstale : OppStatus.stale ≠ .tradable := by decide
  have hilliquid : OppStatus.illiquid ≠ .tradable := by decide
  have hcandidate : OppStatus.candidate ≠ .tradable := by decide
  have hmanual : OppStatus.manual ≠ .tradable := by decide
  simp only [resolve_status, gate_eq_iff hreview, gate_eq_iff hstale, gate_eq_iff hilliquid,
    gate_eq_iff hcandidate, gate_eq_iff hmanual, not_not, not_lt, Bool.not_eq_true, Bool.not_eq_false, and_true]
  constructor
  · intro ⟨h₁, h₂, h₃, h₄, h₅, h₆, h₇, h₈, h₉, h₁₀⟩
    exact ⟨h₁, h₂, h₃, h₄, h₅, h₆, h₇, h₈, h₉, h₁₀⟩
  · intro ht
    exact ⟨ht.confirmed, ht.allowed, ht.identical, ht.fresh, ht.liquid, ht.persistent,
      ht.automatic, ht.confident, ht.floor, ht.real⟩

end Scanner
