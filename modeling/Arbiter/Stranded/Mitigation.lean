import Mathlib.Data.List.MinMax
import Arbiter.Adapters.ForecastexSiblings
import Arbiter.Scanner.Fees
import Arbiter.Stranded.Cycle

/-! # The Mitigation Engine

  `MitigationEngine.decide`: what to do with a stranded lot. It buys the missing leg where
  another venue sells it cheaply enough, closes what the market takes for lost, and holds
  everything else.

  ## Contents

  - Section 1: the thresholds, and what the engine is told.
  - Section 2: the market of a lot, and what the lot is worth.
  - Section 3: the missing leg.
  - Section 4: the decision.
  - Section 5: when it completes, and when it closes.
-/

namespace Stranded

open Effect Execution

/-! ## Section 1: Thresholds -/

/-- `MitigationConfig`, with its defaults. -/
structure MitigationConfig where
  complete_arb_min_edge_cents : ℚ := 3
  penny_cost_threshold_usd : ℚ := 5 / 100
  losing_implied_prob_threshold : ℚ := 25 / 100
  underwater_close_ratio : ℚ := 40 / 100
  max_autonomous_spread_bps : ℚ := 800
  max_autonomous_notional_usd : ℚ := 30
  unactionable_max_notional_usd : ℚ := 10
  young_age_seconds : ℚ := 6 * 3600
  mature_age_seconds : ℚ := 24 * 3600
  young_max_loss_pct : ℚ := 0
  mature_max_loss_pct : ℚ := 25 / 100
  aged_max_loss_pct : ℚ := 50 / 100
  settlement_proximity_hold_seconds : ℚ := 24 * 3600
  max_quote_age_seconds : ℚ := 60
  hopeless_cost_gap : ℚ := 15 / 100

/-- `MARKET_MAP`, in order: rows of every status. -/
abbrev MappingTable := List (String × Json ℚ)

/-- The quotes of one market, by venue. -/
abbrev Quotes := List (String × Scanner.PricePoint)

/-- `MitigationEngine`, as it is constructed. -/
structure MitigationEngine where
  config : MitigationConfig
  has_price_store : Bool
  /-- The venues whose adapter has `place_fok`. -/
  place_fok : String → Bool
  /-- The venues whose adapter has `place_unwind_sell`. -/
  place_unwind_sell : String → Bool
  /-- `str(v)` of a value that is no text. -/
  spelled : Json ℚ → String

/-- What the engine reads when it decides on a lot. -/
structure Readings where
  now : ℚ
  market_map : MappingTable
  /-- `get_all_for_market`, where it does not raise. -/
  quotes : String → Option Quotes

/-! ## Section 2: What a lot is worth -/

/-- The keys of a row under which a market id is looked for. -/
def mapping_keys : List String :=
  ["kalshi", "kalshi_market_id", "polymarket", "polymarket_slug", "polymarket_market_id",
    "forecastex", "forecastex_contract_id"]

/-- The row is bound to the market id under one of the keys. -/
def bound_to (spelled : Json ℚ → String) (mid : String) (mapping : Json ℚ) : Bool :=
  mapping_keys.any fun key =>
    (Text.strip (Forecastex.text_or_empty spelled (mapping.get key))).toLower = mid

/-- `_canonical_id_for_position`: of the first row that is bound to the market of the lot. -/
def canonical_id_for_position (spelled : Json ℚ → String) (pos : StrandedPosition)
    (market_map : MappingTable) : Option String :=
  let mid := (Text.strip pos.market_id).toLower
  if mid = "" then none else (market_map.find? fun row => bound_to spelled mid row.2).map (·.1)

/-- `_estimate_close_fees`. -/
def estimate_close_fees (platform : String) (price : ℚ) (qty : ℕ) : ℚ :=
  if qty = 0 ∨ price ≤ 0 then 0 else Scanner.compute_fee platform price qty 0

/-- `ProfitabilitySnapshot`: what a decision depends on. -/
structure ProfitabilitySnapshot where
  cost_basis_usd : ℚ
  cost_per_share : ℚ
  best_bid : ℚ
  best_ask : ℚ
  spread_cents : ℚ
  close_proceeds_usd : ℚ
  implied_settle_probability : ℚ
  is_underwater : Prop
  seconds_to_expiry : Option ℚ

/-- `build_profitability_snapshot`. -/
def build_profitability_snapshot (pos : StrandedPosition) (now : ℚ) : ProfitabilitySnapshot :=
  let close_price := if 0 < pos.best_bid then pos.best_bid else 0
  let mtm := |pos.qty| * close_price
  { cost_basis_usd := |pos.cost_basis_usd|
    cost_per_share := pos.cost_per_share
    best_bid := pos.best_bid
    best_ask := pos.best_ask
    spread_cents :=
      if 0 < pos.best_bid ∧ 0 < pos.best_ask then max 0 ((pos.best_ask - pos.best_bid) * 100) else 0
    close_proceeds_usd :=
      max 0 (mtm - estimate_close_fees pos.platform close_price pos.contracts)
    implied_settle_probability :=
      max 0 (min 1 (if 0 < pos.best_ask then pos.best_ask else pos.best_bid))
    is_underwater := mtm < |pos.cost_basis_usd|
    seconds_to_expiry := pos.expiry_ts.map (· - now) }

/-! ## Section 3: The missing leg -/

/-- What buying a side costs at a quote. -/
def buy_price (side : Side) (pp : Scanner.PricePoint) : ℚ :=
  match side with
  | .no => if pp.no_ask = 0 then pp.no_price else pp.no_ask
  | .yes => if pp.yes_ask = 0 then pp.yes_price else pp.yes_ask

/-- The market a side is bought on. -/
def buy_market_id (side : Side) (pp : Scanner.PricePoint) : String :=
  match side with
  | .no => if pp.no_market_id = "" then pp.raw_market_id else pp.no_market_id
  | .yes => if pp.yes_market_id = "" then pp.raw_market_id else pp.yes_market_id

/-- The fees of a purchase, by the contract. -/
def entry_fees_per_share (venue : String) (price : ℚ) (qty : ℕ) : ℚ :=
  estimate_close_fees venue price qty / max qty 1

/-- What a pair would earn, in cents. -/
def net_edge_cents (pos : StrandedPosition) (venue : String) (price : ℚ) : ℚ :=
  (1 - pos.cost_per_share - price - entry_fees_per_share venue price pos.contracts) * 100

/-- A venue of the loop: its edge and the leg, unless it is skipped. -/
def candidate_leg (eng : MitigationEngine) (pos : StrandedPosition) (canonical_id : String)
    (quote : String × Scanner.PricePoint) : Option (ℚ × MissingLeg) :=
  let need_side := pos.side.other
  let price := buy_price need_side quote.2
  let market_id := buy_market_id need_side quote.2
  if quote.1 = pos.platform ∨ eng.place_fok quote.1 = false then none
  else if eng.config.max_quote_age_seconds < quote.2.age_seconds then none
  else if price ≤ 0 ∨ market_id = "" then none
  else if eng.config.hopeless_cost_gap ≤ pos.cost_per_share + price - 1 then none
  else if net_edge_cents pos quote.1 price < eng.config.complete_arb_min_edge_cents then none
  else
    some (net_edge_cents pos quote.1 price,
      { venue := quote.1, market_id, canonical_id, side := need_side, price, qty := pos.contracts })

/-- `_try_complete_arb`: the first of the legs with the largest edge. -/
def try_complete_arb (eng : MitigationEngine) (pos : StrandedPosition) (canonical_id : String)
    (quotes : Option Quotes) : Option MissingLeg :=
  if pos.contracts = 0 ∨ pos.cost_per_share ≤ 0 then none
  else
    (((quotes.getD []).filterMap (candidate_leg eng pos canonical_id)).argmax (·.1)).map (·.2)

/-- The leg `decide` tries first: of the market the lot belongs to. -/
def missing_leg (eng : MitigationEngine) (r : Readings) (pos : StrandedPosition) :
    Option MissingLeg :=
  match canonical_id_for_position eng.spelled pos r.market_map with
  | none => none
  | some canonical_id =>
      if canonical_id = "" ∨ eng.has_price_store = false then none
      else try_complete_arb eng pos canonical_id (r.quotes canonical_id)

/-! ## Section 4: The decision -/

/-- `max_loss_pct` of the age bracket. -/
def MitigationConfig.max_loss_pct (cfg : MitigationConfig) (age_seconds : ℚ) : ℚ :=
  if age_seconds < cfg.young_age_seconds then cfg.young_max_loss_pct
  else if age_seconds < cfg.mature_age_seconds then cfg.mature_max_loss_pct
  else cfg.aged_max_loss_pct

/-- `age_seconds` of a lot. -/
def age_seconds (pos : StrandedPosition) (now : ℚ) : ℚ := max 0 (now - pos.first_seen_ts)

/-- `realised_loss_pct`. -/
def realised_loss_pct (prof : ProfitabilitySnapshot) : ℚ :=
  if 0 < prof.cost_basis_usd then
    max 0 ((prof.cost_basis_usd - prof.close_proceeds_usd) / prof.cost_basis_usd)
  else 0

/-- The market takes the lot for lost, or most of its cost is gone. -/
def losing (cfg : MitigationConfig) (prof : ProfitabilitySnapshot) : Prop :=
  (prof.implied_settle_probability < cfg.losing_implied_prob_threshold ∧ prof.is_underwater) ∨
    (0 < prof.cost_basis_usd ∧
      prof.close_proceeds_usd / max prof.cost_basis_usd (1 / 10 ^ 9) ≤ cfg.underwater_close_ratio)

instance (cfg : MitigationConfig) (pos : StrandedPosition) (now : ℚ) :
    Decidable (losing cfg (build_profitability_snapshot pos now)) := by
  unfold losing build_profitability_snapshot; infer_instance

/-- The market settles within the window. -/
def settles_soon (cfg : MitigationConfig) (prof : ProfitabilitySnapshot) : Bool :=
  prof.seconds_to_expiry.any fun left =>
    0 < left ∧ left ≤ cfg.settlement_proximity_hold_seconds

/-- A close that needs no approval. -/
def close_autonomous (cfg : MitigationConfig) (prof : ProfitabilitySnapshot) : Bool :=
  prof.cost_basis_usd ≤ cfg.max_autonomous_notional_usd ∧
    prof.spread_cents * 100 ≤ cfg.max_autonomous_spread_bps

/-- Held without an alert. -/
def MitigationDecision.hold : MitigationDecision :=
  { action := .hold_to_settle, autonomous_ok := true }

/-- Left to the operator. -/
def MitigationDecision.manual : MitigationDecision :=
  { action := .manual_review, autonomous_ok := false }

/-- `decide` once no leg completes the lot. -/
def hold_or_close (eng : MitigationEngine) (pos : StrandedPosition) (now : ℚ) :
    MitigationDecision :=
  let cfg := eng.config
  let prof := build_profitability_snapshot pos now
  let has_close := eng.place_unwind_sell pos.platform
  let no_bbo := prof.best_bid ≤ 0 ∨ prof.best_ask ≤ 0
  if 0 < prof.cost_per_share ∧ prof.cost_per_share ≤ cfg.penny_cost_threshold_usd then .hold
  else if (has_close = false ∨ no_bbo) ∧
      prof.cost_basis_usd ≤ cfg.unactionable_max_notional_usd then .hold
  else if has_close = false then .manual
  else if no_bbo then .manual
  else if settles_soon cfg prof then .hold
  else if losing cfg (build_profitability_snapshot pos now) then
    if cfg.max_loss_pct (age_seconds pos now) < realised_loss_pct prof then .hold
    else { action := .close_now, autonomous_ok := close_autonomous cfg prof }
  else .hold

/-- `MitigationEngine.decide`. -/
def MitigationEngine.decide (eng : MitigationEngine) (r : Readings) (pos : StrandedPosition) :
    MitigationDecision :=
  match missing_leg eng r pos with
  | some leg =>
      { action := .complete_arb leg
        autonomous_ok := |pos.cost_basis_usd| ≤ eng.config.max_autonomous_notional_usd }
  | none => hold_or_close eng pos r.now

/-! ## Section 5: Completing and closing -/

section decisions

variable {eng : MitigationEngine} {r : Readings} {pos : StrandedPosition} {leg : MissingLeg}

/-- The legs the engine compares. -/
def candidate_legs (eng : MitigationEngine) (pos : StrandedPosition) (canonical_id : String)
    (quotes : Option Quotes) : List (ℚ × MissingLeg) :=
  (quotes.getD []).filterMap (candidate_leg eng pos canonical_id)

/-- The leg is the first of those with the largest edge. -/
def BestLeg (legs : List (ℚ × MissingLeg)) (leg : MissingLeg) : Prop :=
  ∃ edge, legs.argmax (·.1) = some (edge, leg)

/-- The lot can be completed with the leg: a row leads from its market, whatever the row's
    status, to a market on which that is the best leg. -/
structure Completable (eng : MitigationEngine) (r : Readings) (pos : StrandedPosition)
    (leg : MissingLeg) : Prop where
  row : canonical_id_for_position eng.spelled pos r.market_map = some leg.canonical_id
  named : leg.canonical_id ≠ ""
  priced : eng.has_price_store = true
  whole : pos.contracts ≠ 0
  paid : 0 < pos.cost_per_share
  best : BestLeg (candidate_legs eng pos leg.canonical_id (r.quotes leg.canonical_id)) leg

/-- A leg the loop does not skip. -/
structure Offered (eng : MitigationEngine) (pos : StrandedPosition) (canonical_id : String)
    (leg : MissingLeg) : Prop where
  canonical : leg.canonical_id = canonical_id
  elsewhere : leg.venue ≠ pos.platform
  adapter : eng.place_fok leg.venue = true
  side : leg.side = pos.side.other
  qty : leg.qty = pos.contracts

theorem candidate_leg_offered {canonical_id : String} {quote : String × Scanner.PricePoint}
    {c : ℚ × MissingLeg} (h : candidate_leg eng pos canonical_id quote = some c) :
    Offered eng pos canonical_id c.2 := by
  unfold candidate_leg at h
  dsimp only at h
  split at h
  · exact absurd h nofun
  · next hvenue =>
    obtain ⟨helsewhere, hadapter⟩ := not_or.mp hvenue
    simp only [Option.ite_none_left_eq_some, Option.some_inj] at h
    obtain ⟨-, -, -, -, rfl⟩ := h
    exact ⟨rfl, helsewhere, eq_true_of_ne_false hadapter, rfl, rfl⟩

theorem candidate_legs_offered {canonical_id : String} {quotes : Option Quotes}
    {c : ℚ × MissingLeg} (h : c ∈ candidate_legs eng pos canonical_id quotes) :
    Offered eng pos canonical_id c.2 := by
  obtain ⟨quote, -, hc⟩ := List.mem_filterMap.mp h
  exact candidate_leg_offered hc

theorem BestLeg.offered {canonical_id : String} {quotes : Option Quotes}
    (h : BestLeg (candidate_legs eng pos canonical_id quotes) leg) :
    Offered eng pos canonical_id leg := by
  obtain ⟨edge, hbest⟩ := h
  exact candidate_legs_offered (List.argmax_mem hbest)

theorem try_complete_arb_iff {canonical_id : String} {quotes : Option Quotes} :
    try_complete_arb eng pos canonical_id quotes = some leg ↔
      pos.contracts ≠ 0 ∧ 0 < pos.cost_per_share ∧
        BestLeg (candidate_legs eng pos canonical_id quotes) leg := by
  unfold try_complete_arb
  split
  · next hskip =>
    refine ⟨nofun, fun h => ?_⟩
    exact (hskip.elim h.1 (not_le.mpr h.2.1)).elim
  · next htry =>
    obtain ⟨hwhole, hpaid⟩ := not_or.mp htry
    rw [and_iff_right hwhole, and_iff_right (not_le.mp hpaid), Option.map_eq_some_iff]
    constructor
    · rintro ⟨⟨edge, leg'⟩, hbest, rfl⟩
      exact ⟨edge, hbest⟩
    · rintro ⟨edge, hbest⟩
      exact ⟨(edge, leg), hbest, rfl⟩

theorem missing_leg_iff : missing_leg eng r pos = some leg ↔ Completable eng r pos leg := by
  unfold missing_leg
  constructor
  · intro h
    split at h
    · exact absurd h nofun
    · next canonical_id hrow =>
      split at h
      · exact absurd h nofun
      · next hok =>
        obtain ⟨hnamed, hpriced⟩ := not_or.mp hok
        obtain ⟨hwhole, hpaid, hbest⟩ := try_complete_arb_iff.mp h
        have hcanonical : leg.canonical_id = canonical_id := hbest.offered.canonical
        rw [← hcanonical] at hrow hnamed hbest
        exact ⟨hrow, hnamed, eq_true_of_ne_false hpriced, hwhole, hpaid, hbest⟩
  · intro h
    rw [h.row]
    dsimp only
    rw [if_neg (not_or.mpr ⟨h.named, by simp [h.priced]⟩)]
    exact try_complete_arb_iff.mpr ⟨h.whole, h.paid, h.best⟩

/-- Holding and closing complete nothing. -/
theorem hold_or_close_action {now : ℚ} :
    (hold_or_close eng pos now).action ≠ .complete_arb leg := by
  unfold hold_or_close
  dsimp only
  split_ifs <;> nofun

/-- **When the engine completes**: there is such a leg, and the lot is small enough for it to
    act on its own. -/
theorem decide_complete_iff :
    eng.decide r pos = { action := .complete_arb leg, autonomous_ok := true } ↔
      Completable eng r pos leg ∧ |pos.cost_basis_usd| ≤ eng.config.max_autonomous_notional_usd := by
  rw [← missing_leg_iff]
  unfold MitigationEngine.decide
  cases missing_leg eng r pos with
  | none =>
    refine ⟨fun h => ?_, fun h => absurd h.1 nofun⟩
    exact absurd (congrArg MitigationDecision.action h) hold_or_close_action
  | some other => simp

/-- The engine closes the lot on its own: it is no penny lot, it can be sold, it does not
    settle soon, it is losing, and the sale at the bid loses no more than the bracket lets. -/
structure CutsLoss (eng : MitigationEngine) (pos : StrandedPosition) (now : ℚ) : Prop where
  dear : 0 < pos.cost_per_share → eng.config.penny_cost_threshold_usd < pos.cost_per_share
  adapter : eng.place_unwind_sell pos.platform = true
  bid : 0 < pos.best_bid
  ask : 0 < pos.best_ask
  late : settles_soon eng.config (build_profitability_snapshot pos now) = false
  losing : losing eng.config (build_profitability_snapshot pos now)
  bracket : realised_loss_pct (build_profitability_snapshot pos now) ≤
    eng.config.max_loss_pct (age_seconds pos now)
  alone : close_autonomous eng.config (build_profitability_snapshot pos now) = true

/-- **When the engine closes**: no leg completes the lot, and its loss is cut. -/
theorem decide_close_iff :
    eng.decide r pos = { action := .close_now, autonomous_ok := true } ↔
      missing_leg eng r pos = none ∧ CutsLoss eng pos r.now := by
  unfold MitigationEngine.decide
  cases missing_leg eng r pos with
  | some leg => simp
  | none =>
    simp only [true_and]
    unfold hold_or_close
    dsimp only
    constructor
    · intro h
      -- every other way holds, or asks the operator
      split_ifs at h with hpenny hsmall hadapter hbbo hsoon hlosing hcap <;>
        cases congrArg MitigationDecision.action h
      obtain ⟨hbid, hask⟩ := not_or.mp hbbo
      exact
        { dear := fun hpos => lt_of_not_ge fun hle => hpenny ⟨hpos, hle⟩
          adapter := eq_true_of_ne_false hadapter
          bid := not_le.mp hbid
          ask := not_le.mp hask
          late := (Bool.not_eq_true _).mp hsoon
          losing := hlosing
          bracket := not_lt.mp hcap
          alone := congrArg MitigationDecision.autonomous_ok h }
    · intro h
      have hbbo : ¬ ((build_profitability_snapshot pos r.now).best_bid ≤ 0 ∨
          (build_profitability_snapshot pos r.now).best_ask ≤ 0) :=
        not_or.mpr ⟨not_le.mpr h.bid, not_le.mpr h.ask⟩
      rw [if_neg fun hpenny => not_le.mpr (h.dear hpenny.1) hpenny.2,
        if_neg fun hsmall => hsmall.1.elim (by simp [h.adapter]) hbbo, if_neg (by simp [h.adapter]),
        if_neg hbbo, if_neg (by simp [h.late]), if_pos h.losing, if_neg (not_lt.mpr h.bracket),
        h.alone]

end decisions

end Stranded
