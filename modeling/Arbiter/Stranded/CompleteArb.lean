import Arbiter.Framework.FirstBest
import Arbiter.Stranded.Mitigation

/-! # Completing an Arb

  A lot is completed at the venue that leaves the largest edge. What a leg costs is the ask of
  the venue's quote; where the quote has no ask, the engine takes the last price for one, though
  nobody sells at it.

  ## Contents

  - Section 1: venues that may complete a lot.
  - Section 2: which leg the engine chooses.
  - Section 3: when the choice is sound and best.
-/

namespace Stranded

open Execution

/-! ## Section 1: Venues -/

/-- The ask of a side. -/
def ask (side : Side) (pp : Scanner.PricePoint) : ℚ≥0 :=
  match side with
  | .yes => pp.yes_ask
  | .no => pp.no_ask

/-- The last price of a side. -/
def mark (side : Side) (pp : Scanner.PricePoint) : ℚ≥0 :=
  match side with
  | .yes => pp.yes_price
  | .no => pp.no_price

/-- The venue may be traded on: it is another one, its adapter places orders, and its quote is
    fresh and names the market. -/
structure Open (eng : MitigationEngine) (pos : StrandedPosition)
    (quote : String × Scanner.PricePoint) : Prop where
  elsewhere : quote.1 ≠ pos.platform
  adapter : eng.place_fok quote.1 = true
  fresh : quote.2.age_seconds ≤ eng.config.max_quote_age_seconds
  market : buy_market_id pos.side.other quote.2 ≠ ""

/-- The venue is eligible: somebody there sells the missing side. -/
structure Eligible (eng : MitigationEngine) (pos : StrandedPosition)
    (quote : String × Scanner.PricePoint) : Prop extends Open eng pos quote where
  asked : 0 < ask pos.side.other quote.2

/-- Nobody there sells the missing side; it has a last price. -/
structure MarkedOnly (eng : MitigationEngine) (pos : StrandedPosition)
    (quote : String × Scanner.PricePoint) : Prop extends Open eng pos quote where
  unasked : ask pos.side.other quote.2 = 0
  marked : 0 < mark pos.side.other quote.2

section venues

variable {eng : MitigationEngine} {pos : StrandedPosition} {quote : String × Scanner.PricePoint}

theorem buy_price_of_asked {side : Side} {pp : Scanner.PricePoint} (h : 0 < ask side pp) :
    buy_price side pp = ask side pp := by
  cases side
  · exact if_neg (ne_of_gt h)
  · exact if_neg (ne_of_gt h)

theorem buy_price_of_unasked {side : Side} {pp : Scanner.PricePoint} (h : ask side pp = 0) :
    buy_price side pp = mark side pp := by
  cases side
  · exact if_pos h
  · exact if_pos h

/-- What the loop takes for a price is positive where the side has an ask or a last price. -/
theorem buy_price_pos_iff {side : Side} {pp : Scanner.PricePoint} :
    0 < buy_price side pp ↔ 0 < ask side pp ∨ (ask side pp = 0 ∧ 0 < mark side pp) := by
  by_cases hask : 0 < ask side pp
  · rw [buy_price_of_asked hask, NNRat.cast_pos]
    simp [hask]
  · have hzero : ask side pp = 0 := by simpa using hask
    rw [buy_price_of_unasked hzero, NNRat.cast_pos]
    simp [hzero]

/-- The edge of a venue clears the floor. -/
def Clears (eng : MitigationEngine) (pos : StrandedPosition) (venue : String) (price : ℚ) : Prop :=
  eng.config.complete_arb_min_edge_cents ≤ net_edge_cents pos venue price

/-- Fees are never negative. -/
theorem entry_fees_per_share_nonneg (venue : String) (price : ℚ) (qty : ℕ) :
    0 ≤ entry_fees_per_share venue price qty := by
  unfold entry_fees_per_share estimate_close_fees
  apply div_nonneg _ (Nat.cast_nonneg _)
  split_ifs
  · exact le_rfl
  · exact Scanner.compute_fee_nonneg _ _ _ _

/-- A leg that clears a positive floor is far from hopeless. -/
theorem not_hopeless {venue : String} {price : ℚ}
    (hfloor : 0 < eng.config.complete_arb_min_edge_cents)
    (hgap : 0 ≤ eng.config.hopeless_cost_gap) (hclears : Clears eng pos venue price) :
    ¬ eng.config.hopeless_cost_gap ≤ pos.cost_per_share + price - 1 := by
  intro hhopeless
  have hfees := entry_fees_per_share_nonneg venue price pos.contracts
  unfold Clears net_edge_cents at hclears
  linarith

/-- The leg of a venue. -/
def leg_of (pos : StrandedPosition) (canonical_id : String)
    (quote : String × Scanner.PricePoint) : MissingLeg where
  venue := quote.1
  market_id := buy_market_id pos.side.other quote.2
  canonical_id := canonical_id
  side := pos.side.other
  price := buy_price pos.side.other quote.2
  qty := pos.contracts

/-- **What the loop takes**: the venues with an ask, and those with a last price only. -/
theorem candidate_leg_iff {canonical_id : String} {c : ℚ × MissingLeg}
    (hfloor : 0 < eng.config.complete_arb_min_edge_cents)
    (hgap : 0 ≤ eng.config.hopeless_cost_gap) :
    candidate_leg eng pos canonical_id quote = some c ↔
      (Eligible eng pos quote ∨ MarkedOnly eng pos quote) ∧
        Clears eng pos quote.1 (buy_price pos.side.other quote.2) ∧
        c = (net_edge_cents pos quote.1 (buy_price pos.side.other quote.2),
          leg_of pos canonical_id quote) := by
  unfold candidate_leg
  simp only [Option.ite_none_left_eq_some, not_or, not_lt, not_le, Option.some_inj]
  constructor
  · rintro ⟨⟨helsewhere, hadapter⟩, hfresh, ⟨hprice, hmarket⟩, -, hclears, rfl⟩
    have hopen : Open eng pos quote :=
      ⟨helsewhere, eq_true_of_ne_false hadapter, hfresh, hmarket⟩
    refine ⟨?_, hclears, rfl⟩
    rcases buy_price_pos_iff.mp hprice with hask | ⟨hask, hmark⟩
    · exact .inl ⟨hopen, hask⟩
    · exact .inr ⟨hopen, hask, hmark⟩
  · rintro ⟨hkind, hclears, rfl⟩
    have hopen : Open eng pos quote := hkind.elim Eligible.toOpen MarkedOnly.toOpen
    have hprice : 0 < buy_price pos.side.other quote.2 := by
      rw [buy_price_pos_iff]
      exact hkind.imp Eligible.asked fun h => ⟨h.unasked, h.marked⟩
    exact ⟨⟨hopen.elsewhere, by simp [hopen.adapter]⟩, hopen.fresh, ⟨hprice, hopen.market⟩,
      not_le.mp (not_hopeless hfloor hgap hclears), hclears, rfl⟩

end venues

/-! ## Section 2: The choice -/

section choice

variable {eng : MitigationEngine} {r : Readings} {pos : StrandedPosition} {leg : MissingLeg}

/-- The decision completes with the leg that was found. -/
theorem decide_action_iff :
    (eng.decide r pos).action = .complete_arb leg ↔ missing_leg eng r pos = some leg := by
  unfold MitigationEngine.decide
  cases missing_leg eng r pos with
  | none => exact ⟨fun h => absurd h hold_or_close_action, fun h => absurd h nofun⟩
  | some other => simp

/-- A lot of a mapped market that could be completed. -/
structure Mapped (eng : MitigationEngine) (r : Readings) (pos : StrandedPosition)
    (canonical_id : String) : Prop where
  row : canonical_id_for_position eng.spelled pos r.market_map = some canonical_id
  named : canonical_id ≠ ""
  priced : eng.has_price_store = true
  /-- A whole number of contracts, one at least. -/
  whole : |pos.qty| = pos.contracts ∧ 1 ≤ pos.contracts
  paid : 0 < pos.cost_per_share

/-- What the engine found, by the position of its quote. -/
theorem missing_leg_position {canonical_id : String} (h : Mapped eng r pos canonical_id) :
    missing_leg eng r pos = some leg ↔ ∃ edge quote,
      FirstBest.Position Prod.fst (candidate_leg eng pos canonical_id)
        ((r.quotes canonical_id).getD []) quote (edge, leg) := by
  have hwhole : pos.contracts ≠ 0 := by
    have := h.whole.2
    omega
  have hbest : BestLeg (candidate_legs eng pos canonical_id (r.quotes canonical_id)) leg ↔
      ∃ edge quote, FirstBest.Position Prod.fst (candidate_leg eng pos canonical_id)
        ((r.quotes canonical_id).getD []) quote (edge, leg) :=
    exists_congr fun _ => FirstBest.argmax_filterMap_iff
  rw [← hbest, missing_leg_iff]
  constructor
  · intro hc
    have hid : leg.canonical_id = canonical_id := Option.some.inj (hc.row.symm.trans h.row)
    have := hc.best
    rwa [hid] at this
  · intro hb
    have hid : leg.canonical_id = canonical_id := hb.offered.canonical
    subst hid
    exact ⟨h.row, h.named, h.priced, hwhole, h.paid, hb⟩

end choice

/-! ## Section 3: Sound and best -/

/-- What is asked of the decision: a leg it completes with is at an eligible venue, at the ask,
    clears the floor, and no other eligible venue has a larger edge; and if some eligible venue
    clears the floor, it completes. -/
structure SoundAndBest (eng : MitigationEngine) (r : Readings) (pos : StrandedPosition)
    (quotes : Quotes) : Prop where
  sound : ∀ leg, (eng.decide r pos).action = .complete_arb leg → ∃ quote ∈ quotes,
    Eligible eng pos quote ∧ leg.venue = quote.1 ∧ leg.price = ask pos.side.other quote.2 ∧
      Clears eng pos leg.venue leg.price ∧
      ∀ other ∈ quotes, Eligible eng pos other →
        net_edge_cents pos other.1 (ask pos.side.other other.2) ≤
          net_edge_cents pos leg.venue leg.price
  complete : (∃ quote ∈ quotes, Eligible eng pos quote ∧
      Clears eng pos quote.1 (ask pos.side.other quote.2)) →
    ∃ leg, (eng.decide r pos).action = .complete_arb leg

/-- A venue where nobody sells the missing side wins: at its last price it clears the floor with
    the first of the largest edges. -/
def MarkWins (eng : MitigationEngine) (pos : StrandedPosition) (quotes : Quotes) : Prop :=
  ∃ before quote after, quotes = before ++ quote :: after ∧ MarkedOnly eng pos quote ∧
    Clears eng pos quote.1 (mark pos.side.other quote.2) ∧
    (∀ other ∈ before, Eligible eng pos other ∨ MarkedOnly eng pos other →
      net_edge_cents pos other.1 (buy_price pos.side.other other.2) <
        net_edge_cents pos quote.1 (mark pos.side.other quote.2)) ∧
    ∀ other ∈ after, Eligible eng pos other ∨ MarkedOnly eng pos other →
      net_edge_cents pos other.1 (buy_price pos.side.other other.2) ≤
        net_edge_cents pos quote.1 (mark pos.side.other quote.2)

section best

variable {eng : MitigationEngine} {r : Readings} {pos : StrandedPosition} {canonical_id : String}
         {quote : String × Scanner.PricePoint} {leg : MissingLeg} {edge : ℚ} {quotes : Quotes}

/-- A leg chosen at its last price is one that wins. -/
theorem mark_wins_iff (canonical_id : String)
    (hfloor : 0 < eng.config.complete_arb_min_edge_cents)
    (hgap : 0 ≤ eng.config.hopeless_cost_gap) :
    MarkWins eng pos quotes ↔ ∃ quote edge leg, MarkedOnly eng pos quote ∧
      FirstBest.Position Prod.fst (candidate_leg eng pos canonical_id) quotes quote
        (edge, leg) := by
  -- a venue below the floor has the smaller edge anyway
  have hlt : ∀ {other : String × Scanner.PricePoint} {e : ℚ},
      eng.config.complete_arb_min_edge_cents ≤ e →
      ¬ Clears eng pos other.1 (buy_price pos.side.other other.2) →
      net_edge_cents pos other.1 (buy_price pos.side.other other.2) < e := fun he hnot =>
    (not_le.mp hnot).trans_le he
  constructor
  · rintro ⟨before, quote, after, rfl, hmarked, hclears, hbefore, hafter⟩
    rw [← buy_price_of_unasked hmarked.unasked] at hclears hbefore hafter
    refine ⟨quote, _, _, hmarked,
      (candidate_leg_iff hfloor hgap).mpr ⟨.inr hmarked, hclears, rfl⟩, before, after, rfl, ?_, ?_⟩
    · intro other hother c hc
      obtain ⟨hkind, -, rfl⟩ := (candidate_leg_iff hfloor hgap).mp hc
      exact hbefore other hother hkind
    · intro other hother c hc
      obtain ⟨hkind, -, rfl⟩ := (candidate_leg_iff hfloor hgap).mp hc
      exact hafter other hother hkind
  · rintro ⟨quote, edge, leg, hmarked, hyields, before, after, rfl, hbefore, hafter⟩
    obtain ⟨-, hclears, heq⟩ := (candidate_leg_iff hfloor hgap).mp hyields
    obtain ⟨rfl, rfl⟩ := Prod.mk.inj heq
    have hprice := buy_price_of_unasked hmarked.unasked
    refine ⟨before, quote, after, rfl, hmarked, hprice ▸ hclears, ?_, ?_⟩
    · intro other hother hkind
      rw [← hprice]
      by_cases hother_clears : Clears eng pos other.1 (buy_price pos.side.other other.2)
      · exact hbefore other hother _
          ((candidate_leg_iff hfloor hgap).mpr ⟨hkind, hother_clears, rfl⟩)
      · exact hlt hclears hother_clears
    · intro other hother hkind
      rw [← hprice]
      by_cases hother_clears : Clears eng pos other.1 (buy_price pos.side.other other.2)
      · exact hafter other hother _
          ((candidate_leg_iff hfloor hgap).mpr ⟨hkind, hother_clears, rfl⟩)
      · exact (hlt hclears hother_clears).le

end best

/-! ### A lot of eight, and a venue where nobody sells -/

/-- Eight YES contracts at Kalshi, bought at 40 cents. -/
def eight_yes : StrandedPosition where
  platform := "kalshi"
  market_id := "KX-1"
  side := .yes
  qty := 8
  cost_basis_usd := 32 / 10
  mtm_usd := 3
  unrealized_usd := -2 / 10
  best_bid := 38 / 100
  best_ask := 40 / 100
  title := ""
  first_seen_ts := 0
  expiry_ts := none
  mitigation_decision := none
  paired_qty := 0

/-- An engine as it comes, every venue with an adapter. -/
def stock_engine : MitigationEngine where
  config := {}
  has_price_store := true
  place_fok := fun _ => true
  place_unwind_sell := fun _ => true
  spelled := fun _ => ""

/-- NO sold at 52 cents. -/
def sold_no : Scanner.PricePoint where
  platform := "polymarket"
  yes_price := 48 / 100
  no_price := 52 / 100
  yes_volume := 100
  no_volume := 100
  age_seconds := 1
  raw_market_id := "slug"
  yes_market_id := "slug"
  no_market_id := "slug"
  yes_bid := 48 / 100
  yes_ask := 50 / 100
  no_bid := 50 / 100
  no_ask := 52 / 100
  fee_rate := none

/-- An empty book, whose last trade put NO at 44 cents. -/
def unsold_no : Scanner.PricePoint :=
  { sold_no with
    platform := "forecastex", yes_price := 56 / 100, no_price := 44 / 100,
    raw_market_id := "701", yes_market_id := "701", no_market_id := "702",
    yes_bid := 0, yes_ask := 0, no_bid := 0, no_ask := 0 }

/-- The row of the lot. -/
def eight_map : MappingTable := [("MKT", .obj [("kalshi", .str "KX-1" none)])]

/-- What the engine reads, by the quotes of the market. -/
def eight_reads (quotes : Quotes) : Readings where
  now := 1000
  market_map := eight_map
  quotes := fun _ => some quotes

theorem eight_mapped (quotes : Quotes) :
    Mapped stock_engine (eight_reads quotes) eight_yes "MKT" := by
  have hrow : canonical_id_for_position stock_engine.spelled eight_yes eight_map = some "MKT" := by
    decide +kernel
  exact ⟨hrow, by decide, rfl, by decide +kernel, by decide +kernel⟩

end Stranded
