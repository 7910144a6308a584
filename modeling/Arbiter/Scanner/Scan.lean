import Mathlib.Data.List.Sort
import Mathlib.Data.Prod.Lex
import Arbiter.Framework.System
import Arbiter.Scanner.Builder

/-! # Scanning and Publishing

  A scan prices every market over every ordered pair of venues, counts how often in a row
  it has seen each opportunity, and offers the subscribers those that may be traded. What
  it offers as tradable is well sized.

  ## Contents

  - Section 1: one scan, and the feed's single market.
  - Section 2: what a tradable opportunity is worth and how large it is.
  - Section 3: every run of scans publishes only such opportunities.
-/

namespace Scanner

open LTS
open Execution (OppStatus)

/-! ## Section 1: A scan -/

/-- `_BRACKET_TICKER_RE`: the texts it matches, in lower case. -/
def bracket_tickers : List String :=
  ["kxdsenateseats", "kxdhouseseats", "kxrsenateseats", "kxrhouseseats"]

/-- `_mapping_is_bracket_mismatch`. -/
def mapping_is_bracket_mismatch (mapping : Mapping) : Bool :=
  let kalshi := or_text mapping.kalshi mapping.kalshi_market_id
  let poly := or_text mapping.polymarket mapping.polymarket_slug
  bracket_tickers.any (Text.occurs · kalshi.toLower) &&
    ["midterms", "control", "usse", "usho"].any (Text.occurs · poly.toLower)

/-- A market of `MARKET_MAP` in one scan, with what the outside gives for it. -/
structure Market where
  canonical_id : String
  mapping : Mapping
  /-- `get_all_for_market`: a dictionary by venue, in its order. -/
  prices : List PricePoint
  distinct : (prices.map PricePoint.platform).Nodup
  /-- The balance provider, when the pair is sized. -/
  balances : PricePoint → PricePoint → Balances
  /-- The clock, when the pair is built. -/
  now : PricePoint → PricePoint → ℚ

namespace Market

/-- The market, as its opportunities name it. -/
def listing (m : Market) : Listing where
  canonical_id := m.canonical_id
  description := m.mapping.description
  mapping_status := m.mapping.status
  mapping_score := m.mapping.mapping_score

/-- It is confirmed, not a bracket mismatch, and priced at two venues. -/
def scannable (m : Market) : Bool :=
  decide (m.mapping.status = "confirmed") && !mapping_is_bracket_mismatch m.mapping &&
    decide (2 ≤ m.prices.length)

/-- Its ordered pairs of venues, in the order of the loops. -/
def pairs (m : Market) : List (PricePoint × PricePoint) :=
  (m.prices.product m.prices).filter fun p => p.1.platform ≠ p.2.platform

/-- The opportunity of a pair. -/
def build (cfg : ScannerConfig) (m : Market) (yes no : PricePoint) : Option ArbitrageOpportunity :=
  build_cross_platform_opportunity cfg (m.balances yes no) (m.now yes no) m.listing yes no

theorem mem_pairs {m : Market} {yes no : PricePoint} :
    (yes, no) ∈ m.pairs ↔ yes ∈ m.prices ∧ no ∈ m.prices ∧ yes.platform ≠ no.platform := by
  simp [pairs, and_assoc]

end Market

/-- The scanner between scans. An absent entry of a dictionary is zero. -/
structure ScannerState where
  stable_keys : String → ℕ
  recent_publish_time : String → ℚ
  /-- `_opportunities`, of the last scan. -/
  opportunities : List ArbitrageOpportunity
  /-- What the subscribers have been offered, newest first. -/
  published : List ArbitrageOpportunity

/-- The scanner in the middle of a scan. -/
structure Progress extends ScannerState where
  seen_keys : List String

/-- `_should_publish`. -/
def ScannerState.should_publish (s : ScannerState) (opp : ArbitrageOpportunity) : Bool :=
  let last_published := s.recent_publish_time opp.key
  decide (last_published = 0) || decide (30 ≤ opp.timestamp - last_published)

/-- An opportunity of a pair is counted, given its status, and offered if it may be. -/
def Progress.consider (cfg : ScannerConfig) (mapping : Mapping) (built : ArbitrageOpportunity)
    (s : Progress) : Progress :=
  -- The key names the market and the legs, so giving the opportunity its status keeps it.
  let count := s.stable_keys built.key + 1
  let opp := resolved cfg mapping count built
  let s : Progress :=
    { s with
        seen_keys := opp.key :: s.seen_keys
        stable_keys := Function.update s.stable_keys opp.key count
        opportunities := s.opportunities ++ [opp] }
  -- A subscriber whose queue is full misses it; the others get it.
  if (opp.status = .tradable ∨ opp.status = .manual) ∧ s.should_publish opp then
    { s with
        recent_publish_time := Function.update s.recent_publish_time opp.key opp.timestamp
        published := opp :: s.published }
  else s

/-- One pair of a market. -/
def Progress.pair (cfg : ScannerConfig) (s : Progress) (p : Market × PricePoint × PricePoint) :
    Progress :=
  match p.1.build cfg p.2.1 p.2.2 with
  | none => s
  | some built => s.consider cfg p.1.mapping built

/-- The pairs of a scan, in order. -/
def scan_pairs (markets : List Market) : List (Market × PricePoint × PricePoint) :=
  (markets.filter Market.scannable).flatMap fun m => m.pairs.map fun p => (m, p)

/-- The order of the listing: tradable first, then by net edge, then by confidence. -/
def rank (opp : ArbitrageOpportunity) : Bool ×ₗ ℚ ×ₗ ℚ :=
  toLex (decide (opp.status = .tradable), toLex (opp.net_edge_cents, opp.confidence))

/-- `scan_once`. -/
def scan_once (cfg : ScannerConfig) (markets : List Market) (s : ScannerState) : ScannerState :=
  let start : Progress := { s with opportunities := [], seen_keys := [] }
  let done := (scan_pairs markets).foldl (Progress.pair cfg) start
  -- What was not seen in this scan is forgotten.
  { stable_keys := fun key => if key ∈ done.seen_keys then done.stable_keys key else 0
    recent_publish_time := fun key =>
      if key ∈ done.seen_keys then done.recent_publish_time key else 0
    opportunities := done.opportunities.insertionSort fun a b => rank b ≤ rank a
    published := done.published }

/-- The better of two opportunities: the one held, unless the other has the larger edge. -/
def better (best : Option ArbitrageOpportunity) (opp : ArbitrageOpportunity) :
    Option ArbitrageOpportunity :=
  match best with
  | none => some opp
  | some held => if held.net_edge_cents < opp.net_edge_cents then some opp else some held

/-- The opportunities of a market that may be traded, each as seen once. -/
def Market.offers (cfg : ScannerConfig) (m : Market) : List ArbitrageOpportunity :=
  m.pairs.filterMap fun p =>
    ((m.build cfg p.1 p.2).map (resolved cfg m.mapping 1)).filter fun opp =>
      opp.status = .tradable ∨ opp.status = .manual

/-- `build_opportunity_for_canonical`. -/
def build_opportunity_for_canonical (cfg : ScannerConfig) (m : Market) :
    Option ArbitrageOpportunity :=
  if m.scannable then (m.offers cfg).foldl better none else none

/-- The scanner: it starts with nothing seen, and scans. -/
def scanner (cfg : ScannerConfig) : System ScannerState (List Market) where
  init := fun s => s = ⟨fun _ => 0, fun _ => 0, [], []⟩
  step := fun s markets s' => s' = scan_once cfg markets s

/-! ## Section 2: Tradable opportunities -/

/-- An opportunity of two price points whose size and edge are right at each other. -/
structure WellSized (cfg : ScannerConfig) (balances : Balances) (yes no : PricePoint)
    (opp : ArbitrageOpportunity) : Prop where
  yes_platform : opp.yes_platform = yes.platform
  no_platform : opp.no_platform = no.platform
  yes_price : opp.yes_price = yes.yes_ask
  no_price : opp.no_price = no.no_ask
  yes_ask : 0 < yes.yes_ask
  no_ask : 0 < no.no_ask
  /-- The net edge is the one at the opportunity's own quantity. -/
  net_edge_cents : opp.net_edge_cents =
    (1 - yes.yes_ask - no.no_ask -
      (compute_fee yes.platform yes.yes_ask opp.suggested_qty yes.rate +
        compute_fee no.platform no.no_ask opp.suggested_qty no.rate) / opp.suggested_qty) * 100
  floor : cfg.min_edge_for_pair yes.platform no.platform ≤ opp.net_edge_cents
  size : Sized cfg balances yes no opp.suggested_qty

/-- **A tradable opportunity is well sized.** The placeholder quantity never gets there: it
    stands for a pair below its liquidity floor, and such a pair is not tradable. -/
theorem well_sized_of_tradable {cfg : ScannerConfig} {balances : Balances} {timestamp : ℚ}
    {listing : Listing} {mapping : Mapping} {count : ℕ} {yes no : PricePoint}
    {built : ArbitrageOpportunity}
    (hbuilt : build_cross_platform_opportunity cfg balances timestamp listing yes no = some built)
    (htradable : (resolved cfg mapping count built).status = .tradable) :
    WellSized cfg balances yes no (resolved cfg mapping count built) := by
  obtain ⟨hb, rfl⟩ := build_eq_some_iff.1 hbuilt
  have hliquid : cfg.min_liquidity_for_pair yes.platform no.platform ≤ early_liq yes no :=
    (resolve_status_eq_tradable_iff.1 htradable).liquid
  -- The liquidity gate of the status is the one the builder sized by.
  have hqty : suggested_qty cfg balances yes no = _ := suggested_qty_of_liquid hliquid
  have hpos := hb.qty
  rw [hqty] at hpos
  exact
    { yes_platform := rfl
      no_platform := rfl
      yes_price := rfl
      no_price := rfl
      yes_ask := hb.yes_ask
      no_ask := hb.no_ask
      net_edge_cents := rfl
      floor := hb.floor
      size := by
        show Sized cfg balances yes no (suggested_qty cfg balances yes no)
        rw [hqty]
        exact compute_position_size_sized hb.yes_ask hb.no_ask hpos }

/-! ## Section 3: Runs of scans -/

/-- An opportunity comes from a pair of one of the markets. -/
def ComesFrom (cfg : ScannerConfig) (markets : List Market) (opp : ArbitrageOpportunity) : Prop :=
  ∃ m ∈ markets, ∃ yes ∈ m.prices, ∃ no ∈ m.prices, yes.platform ≠ no.platform ∧
    ∃ built count, m.build cfg yes no = some built ∧ opp = resolved cfg m.mapping count built

/-- A tradable one is then well sized. -/
theorem ComesFrom.well_sized {cfg : ScannerConfig} {markets : List Market}
    {opp : ArbitrageOpportunity} (h : ComesFrom cfg markets opp)
    (htradable : opp.status = .tradable) :
    ∃ m ∈ markets, ∃ yes ∈ m.prices, ∃ no ∈ m.prices, yes.platform ≠ no.platform ∧
      WellSized cfg (m.balances yes no) yes no opp := by
  obtain ⟨m, hm, yes, hyes, no, hno, hne, built, count, hbuilt, rfl⟩ := h
  exact ⟨m, hm, yes, hyes, no, hno, hne, well_sized_of_tradable hbuilt htradable⟩

/-- A pair of a scan is an ordered pair of venues of one of its markets. -/
theorem mem_scan_pairs {markets : List Market} {m : Market} {yes no : PricePoint}
    (h : (m, yes, no) ∈ scan_pairs markets) :
    m ∈ markets ∧ yes ∈ m.prices ∧ no ∈ m.prices ∧ yes.platform ≠ no.platform := by
  simp only [scan_pairs, List.mem_flatMap, List.mem_filter, List.mem_map] at h
  obtain ⟨m', ⟨hm, -⟩, ⟨yes', no'⟩, hpair, heq⟩ := h
  simp only [Prod.mk.injEq] at heq
  obtain ⟨rfl, rfl, rfl⟩ := heq
  obtain ⟨hyes, hno, hne⟩ := Market.mem_pairs.1 hpair
  exact ⟨hm, hyes, hno, hne⟩

/-- What holds in the middle of a scan over `markets` that began with `old` published. -/
structure Progress.Sound (cfg : ScannerConfig) (markets : List Market)
    (old : List ArbitrageOpportunity) (s : Progress) : Prop where
  listed : ∀ opp ∈ s.opportunities, ComesFrom cfg markets opp
  published : ∀ opp ∈ s.published, opp ∈ old ∨ opp ∈ s.opportunities

/-- Considering an opportunity lists it, and publishes nothing else. -/
theorem Progress.Sound.consider {cfg : ScannerConfig} {markets : List Market}
    {old : List ArbitrageOpportunity} {s : Progress} {mapping : Mapping}
    {built : ArbitrageOpportunity} (hs : s.Sound cfg markets old)
    (hfrom : ∀ count, ComesFrom cfg markets (resolved cfg mapping count built)) :
    (s.consider cfg mapping built).Sound cfg markets old := by
  -- It is listed whether or not it is published.
  have hlisted : ∀ opp ∈ s.opportunities ++
      [resolved cfg mapping (s.stable_keys built.key + 1) built], ComesFrom cfg markets opp := by
    intro opp hopp
    rcases List.mem_append.1 hopp with hold | hnew
    · exact hs.listed opp hold
    · rw [List.mem_singleton.1 hnew]
      exact hfrom _
  have hkept : ∀ opp ∈ s.published, opp ∈ old ∨ opp ∈ s.opportunities ++
      [resolved cfg mapping (s.stable_keys built.key + 1) built] := by
    intro opp hopp
    exact (hs.published opp hopp).imp_right (List.mem_append_left _)
  simp only [Progress.consider]
  split
  case isTrue =>
    refine ⟨hlisted, fun opp hopp => ?_⟩
    rcases List.mem_cons.1 hopp with rfl | hold
    · exact .inr (List.mem_append_right _ (List.mem_singleton_self _))
    · exact hkept opp hold
  case isFalse => exact ⟨hlisted, hkept⟩

/-- One pair keeps it. -/
theorem Progress.Sound.pair {cfg : ScannerConfig} {markets : List Market}
    {old : List ArbitrageOpportunity} {s : Progress} {p : Market × PricePoint × PricePoint}
    (hs : s.Sound cfg markets old) (hp : p ∈ scan_pairs markets) :
    (s.pair cfg p).Sound cfg markets old := by
  obtain ⟨m, yes, no⟩ := p
  obtain ⟨hm, hyes, hno, hne⟩ := mem_scan_pairs hp
  rw [Progress.pair]
  split
  case h_1 => exact hs
  case h_2 built hbuilt =>
    exact hs.consider fun count => ⟨m, hm, yes, hyes, no, hno, hne, built, count, hbuilt, rfl⟩

/-- All the pairs of a scan do. -/
theorem Progress.Sound.scan {cfg : ScannerConfig} {markets : List Market}
    {old : List ArbitrageOpportunity} {ps : List (Market × PricePoint × PricePoint)}
    {s : Progress} (hs : s.Sound cfg markets old) (hps : ∀ p ∈ ps, p ∈ scan_pairs markets) :
    (ps.foldl (Progress.pair cfg) s).Sound cfg markets old := by
  induction ps generalizing s with
  | nil => exact hs
  | cons p ps ih =>
    rw [List.foldl_cons]
    exact ih (hs.pair (hps p (by simp))) fun q hq => hps q (by simp [hq])

/-- What one scan lists comes from its markets, and what it publishes it lists. -/
theorem scan_once_sound (cfg : ScannerConfig) (markets : List Market) (s : ScannerState) :
    (∀ opp ∈ (scan_once cfg markets s).opportunities, ComesFrom cfg markets opp) ∧
      ∀ opp ∈ (scan_once cfg markets s).published,
        opp ∈ s.published ∨ opp ∈ (scan_once cfg markets s).opportunities := by
  have hstart : Progress.Sound cfg markets s.published
      { s with opportunities := [], seen_keys := [] } :=
    { listed := by simp
      published := fun opp hopp => .inl hopp }
  -- The final sort changes the order only.
  have hdone := hstart.scan fun p (hp : p ∈ scan_pairs markets) => hp
  simp only [scan_once, List.mem_insertionSort]
  exact ⟨hdone.listed, hdone.published⟩

/-- The listing of a scan is in order: the best opportunity comes first. -/
theorem scan_once_sorted (cfg : ScannerConfig) (markets : List Market) (s : ScannerState) :
    (scan_once cfg markets s).opportunities.Pairwise fun a b => rank b ≤ rank a := by
  have : Std.Total fun a b : ArbitrageOpportunity => rank b ≤ rank a :=
    ⟨fun a b => le_total (rank b) (rank a)⟩
  have : IsTrans ArbitrageOpportunity fun a b => rank b ≤ rank a :=
    ⟨fun a b c hab hbc => hbc.trans hab⟩
  exact List.pairwise_insertionSort _ _

/-- The best of a list is one of it. -/
theorem mem_of_foldl_better {l : List ArbitrageOpportunity} {best : Option ArbitrageOpportunity}
    {opp : ArbitrageOpportunity} (h : l.foldl better best = some opp) :
    opp ∈ l ∨ best = some opp := by
  induction l generalizing best with
  | nil => exact .inr h
  | cons a l ih =>
    rcases ih h with hmem | hbest
    · exact .inl (List.mem_cons_of_mem a hmem)
    · -- The one held so far came from earlier, so the step put it there or this opportunity.
      cases best with
      | none =>
        simp only [better, Option.some.injEq] at hbest
        exact .inl (by simp [hbest])
      | some held =>
        simp only [better] at hbest
        split at hbest
        case isTrue =>
          simp only [Option.some.injEq] at hbest
          exact .inl (by simp [hbest])
        case isFalse => exact .inr hbest

/-- The single market a feed asks for: what is built of it as tradable is well sized. -/
theorem build_opportunity_for_canonical_well_sized {cfg : ScannerConfig} {m : Market}
    {opp : ArbitrageOpportunity} (h : build_opportunity_for_canonical cfg m = some opp)
    (htradable : opp.status = .tradable) :
    ∃ yes ∈ m.prices, ∃ no ∈ m.prices, yes.platform ≠ no.platform ∧
      WellSized cfg (m.balances yes no) yes no opp := by
  rw [build_opportunity_for_canonical, Option.ite_none_right_eq_some] at h
  rcases mem_of_foldl_better h.2 with hmem | hnone
  · simp only [Market.offers, List.mem_filterMap, Option.filter_eq_some_iff,
      Option.map_eq_some_iff] at hmem
    obtain ⟨⟨yes, no⟩, hpair, ⟨built, hbuilt, rfl⟩, -⟩ := hmem
    obtain ⟨hyes, hno, hne⟩ := Market.mem_pairs.1 hpair
    exact ⟨yes, hyes, no, hno, hne, well_sized_of_tradable hbuilt htradable⟩
  · cases hnone

/-- What a run of scans has published came from one of them. -/
theorem published_from {cfg : ScannerConfig} {s s' : ScannerState} {scans : List (List Market)}
    (hrun : Steps (scanner cfg) s scans s') :
    ∀ opp ∈ s'.published, opp ∈ s.published ∨ ∃ markets ∈ scans, ComesFrom cfg markets opp := by
  induction hrun with
  | nil s => exact fun opp hopp => .inl hopp
  | @cons s mid s' markets scans hstep hrun ih =>
    intro opp hopp
    rcases ih opp hopp with hmid | ⟨markets', hmem, hfrom⟩
    · -- It was published by the first scan, or before it.
      have hsound := scan_once_sound cfg markets s
      rw [show mid = scan_once cfg markets s from hstep] at hmid
      rcases hsound.2 opp hmid with hold | hlisted
      · exact .inl hold
      · exact .inr ⟨markets, by simp, hsound.1 opp hlisted⟩
    · exact .inr ⟨markets', by simp [hmem], hfrom⟩

/-- **What the scanner publishes as tradable is well sized.** In every run of scans, each
    opportunity it has offered as tradable comes from two venues of a market of one of the
    scans: both asks are positive, the net edge at its own quantity is at least the pair's
    floor, and the quantity is within the minimum orders, `max_position_usd`, the smaller
    volume and, where the balances are known, 90 % of each above the reserve. -/
theorem published_well_sized {cfg : ScannerConfig} {s s' : ScannerState}
    {scans : List (List Market)} {opp : ArbitrageOpportunity} (hinit : (scanner cfg).init s)
    (hrun : Steps (scanner cfg) s scans s') (hpub : opp ∈ s'.published)
    (htradable : opp.status = .tradable) :
    ∃ markets ∈ scans, ∃ m ∈ markets, ∃ yes ∈ m.prices, ∃ no ∈ m.prices,
      yes.platform ≠ no.platform ∧ WellSized cfg (m.balances yes no) yes no opp := by
  rcases published_from hrun opp hpub with hold | ⟨markets, hmem, hfrom⟩
  · rw [show s = ⟨fun _ => 0, fun _ => 0, [], []⟩ from hinit] at hold
    cases hold
  · exact ⟨markets, hmem, hfrom.well_sized htradable⟩

/-! ### A published opportunity -/

/-- The configuration as it comes, with one scan in a row enough and ten dollars kept at
    each venue. -/
def one_scan_config : ScannerConfig where
  min_edge_cents := 7
  min_edge_cents_by_pair := [("forecastex_kalshi", 9 / 2), ("forecastex_polymarket", 4),
    ("kalshi_polymarket", 7)]
  max_position_usd := 100
  confidence_threshold := 1 / 2
  persistence_scans := 1
  max_quote_age_seconds := 15
  min_liquidity := 25
  min_liquidity_by_pair := [("forecastex_kalshi", 0), ("forecastex_polymarket", 0),
    ("kalshi_polymarket", 25)]
  max_bid_ask_spread_cents := 15
  max_balance_fraction_per_trade := 1
  min_platform_reserve_usd := 10
  edge_scaling_enabled := false
  edge_scaling_min_fraction := 1 / 2
  edge_scaling_ref_cents := 10
  phantom_edge_threshold_cents := 40
  phantom_edge_max_age_seconds := 5
  forecastex_max_quote_age_s := 60

/-- YES at 40 cents on Kalshi. -/
def kalshi_quote : PricePoint where
  platform := "kalshi"
  yes_price := 4 / 10
  no_price := 6 / 10
  yes_volume := 40
  no_volume := 40
  age_seconds := 1
  raw_market_id := "KXHOUSE"
  yes_market_id := "KXHOUSE"
  no_market_id := "KXHOUSE"
  yes_bid := 39 / 100
  yes_ask := 4 / 10
  no_bid := 6 / 10
  no_ask := 61 / 100
  fee_rate := some (7 / 100)

/-- NO at 50 cents on Polymarket, with the market's own fee rate at `rate`. -/
def polymarket_quote (rate : Option ℚ≥0) : PricePoint where
  platform := "polymarket"
  yes_price := 5 / 10
  no_price := 5 / 10
  yes_volume := 50
  no_volume := 50
  age_seconds := 1
  raw_market_id := "house-control"
  yes_market_id := "house-control"
  no_market_id := "house-control"
  yes_bid := 49 / 100
  yes_ask := 51 / 100
  no_bid := 49 / 100
  no_ask := 5 / 10
  fee_rate := rate

/-- A confirmed mapping that may be traded. -/
def confirmed_mapping : Mapping where
  status := "confirmed"
  description := "House control"
  mapping_score := 9 / 10
  allow_auto_trade := true
  resolution_match_status := "identical"
  kalshi := "KXHOUSE"
  kalshi_market_id := ""
  polymarket := "house-control"
  polymarket_slug := ""

/-- The two venues' quotes, with 100 dollars at Kalshi and 60 at Polymarket. -/
def house_market : Market where
  canonical_id := "HOUSE_2026"
  mapping := confirmed_mapping
  prices := [kalshi_quote, polymarket_quote (some (4 / 100))]
  distinct := by decide
  balances := fun _ _ => .told fun platform => if platform = "kalshi" then some 100 else some 60
  now := fun _ _ => 1000

/-- Forty contracts, as the smaller volume. -/
def house_opportunity : ArbitrageOpportunity :=
  resolved one_scan_config confirmed_mapping 1
    (opportunity_at one_scan_config 1000 house_market.listing kalshi_quote
      (polymarket_quote (some (4 / 100))) 40)

/-- `published_well_sized` of one scan of that market. -/
theorem published_well_sized_house :
    ∃ markets ∈ [[house_market]], ∃ m ∈ markets, ∃ yes ∈ m.prices, ∃ no ∈ m.prices,
      yes.platform ≠ no.platform ∧
        WellSized one_scan_config (m.balances yes no) yes no house_opportunity := by
  have hinit : (scanner one_scan_config).init ⟨fun _ => 0, fun _ => 0, [], []⟩ := rfl
  have hrun : Steps (scanner one_scan_config) ⟨fun _ => 0, fun _ => 0, [], []⟩ [[house_market]]
      (scan_once one_scan_config [house_market] ⟨fun _ => 0, fun _ => 0, [], []⟩) :=
    .cons rfl (.nil _)
  exact published_well_sized hinit hrun (by decide +kernel) (by decide +kernel)

end Scanner
