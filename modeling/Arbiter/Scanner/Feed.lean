import Arbiter.Scanner.Scan

/-! # Opportunities for a Feed

  An external signal asks the scanner for the best opportunity of one market. It is built of
  the same quotes as in a scan, and is meant not to wait for the persistence counter. But the
  status is resolved by the same function, which reads that counter, of an opportunity that
  counts as seen once.

  ## Contents

  - Section 1: the status and the counter.
  - Section 2: what a scan lists, pair by pair.
  - Section 3: the best of a list.
  - Section 4: the feed against the scan.
-/

namespace Scanner

open Execution (OppStatus)

/-! ## Section 1: The status and the counter -/

/-- A status that may be acted on. -/
def Accepts (status : OppStatus) : Prop := status = .tradable ∨ status = .manual

instance (status : OppStatus) : Decidable (Accepts status) := inferInstanceAs (Decidable (_ ∨ _))

/-- The opportunity, whatever its count. -/
def ArbitrageOpportunity.uncounted (opp : ArbitrageOpportunity) : ArbitrageOpportunity :=
  { opp with persistence_count := 1 }

/-- An opportunity with every gate of the status looked at but the counter's. -/
def persistent (cfg : ScannerConfig) (mapping : Mapping) (built : ArbitrageOpportunity) :
    ArbitrageOpportunity :=
  (resolved cfg mapping cfg.persistence_scans built).uncounted

/-- From `persistence_scans` on, the count makes no difference. -/
theorem resolved_uncounted {cfg : ScannerConfig} {mapping : Mapping} {count : ℕ}
    {built : ArbitrageOpportunity} (h : cfg.persistence_scans ≤ count) :
    (resolved cfg mapping count built).uncounted = persistent cfg mapping built := by
  have hstatus : resolve_status cfg mapping { built with persistence_count := count } =
      resolve_status cfg mapping { built with persistence_count := cfg.persistence_scans } := by
    unfold resolve_status
    dsimp only
    rw [if_neg (not_lt.2 h), if_neg (lt_irrefl _)]
    rfl
  show ({ built with
      persistence_count := 1
      status := resolve_status cfg mapping { built with persistence_count := count } } :
      ArbitrageOpportunity) = _
  rw [hstatus]
  rfl

/-- Below it, the opportunity is not accepted. -/
theorem not_accepts_of_young {cfg : ScannerConfig} {mapping : Mapping} {count : ℕ}
    {built : ArbitrageOpportunity} (h : count < cfg.persistence_scans) :
    ¬ Accepts (resolved cfg mapping count built).status := by
  show ¬ Accepts (resolve_status cfg mapping { built with persistence_count := count })
  unfold resolve_status
  dsimp only
  -- the counter's gate is the sixth, and the five before it accept nothing either
  rw [if_pos h]
  split
  · decide
  split
  · decide
  split
  · decide
  split
  · decide
  split <;> decide

/-! ## Section 2: What a scan lists -/

/-- What there is to accept of a pair of venues. -/
def Market.settled (cfg : ScannerConfig) (m : Market) (p : PricePoint × PricePoint) :
    Option ArbitrageOpportunity :=
  (m.build cfg p.1 p.2).map (persistent cfg m.mapping)

/-- The scanner has seen every opportunity often enough, but for this time. -/
def ScannerState.SeenLong (cfg : ScannerConfig) (s : ScannerState) : Prop :=
  ∀ key, cfg.persistence_scans ≤ s.stable_keys key + 1

/-- A pair adds what it settles to the listing. -/
theorem pair_lists {cfg : ScannerConfig} {s : Progress} (hs : s.SeenLong cfg)
    (p : Market × PricePoint × PricePoint) :
    (s.pair cfg p).opportunities.map (·.uncounted) =
        s.opportunities.map (·.uncounted) ++ (p.1.settled cfg p.2).toList ∧
      (s.pair cfg p).SeenLong cfg := by
  rw [Progress.pair, Market.settled]
  cases hbuilt : p.1.build cfg p.2.1 p.2.2 with
  | none => exact ⟨by simp, hs⟩
  | some built =>
    have hcount : (resolved cfg p.1.mapping (s.stable_keys built.key + 1) built).uncounted =
        persistent cfg p.1.mapping built := resolved_uncounted (hs built.key)
    have hgrown : ∀ key, cfg.persistence_scans ≤
        Function.update s.stable_keys (resolved cfg p.1.mapping (s.stable_keys built.key + 1)
          built).key (s.stable_keys built.key + 1) key + 1 := by
      intro key
      by_cases hkey : key = (resolved cfg p.1.mapping (s.stable_keys built.key + 1) built).key
      · have := hs built.key
        rw [hkey, Function.update_self]
        omega
      · rw [Function.update_of_ne hkey]
        exact hs key
    simp only [Progress.consider]
    split <;> exact ⟨by simp [hcount], hgrown⟩

/-- So do all the pairs. -/
theorem pairs_list {cfg : ScannerConfig} {s : Progress} (hs : s.SeenLong cfg)
    (ps : List (Market × PricePoint × PricePoint)) :
    (ps.foldl (Progress.pair cfg) s).opportunities.map (·.uncounted) =
      s.opportunities.map (·.uncounted) ++ ps.filterMap fun p => p.1.settled cfg p.2 := by
  induction ps generalizing s with
  | nil => simp
  | cons p ps ih =>
    obtain ⟨hlists, hgrown⟩ := pair_lists hs p
    rw [List.foldl_cons, ih hgrown, hlists, List.append_assoc, List.filterMap_cons]
    cases p.1.settled cfg p.2 <;> simp

/-- **What a scan lists**, of what it has seen often enough: what the pairs settle. -/
theorem mem_scan_once {cfg : ScannerConfig} {markets : List Market} {s : ScannerState}
    (hs : s.SeenLong cfg) (opp : ArbitrageOpportunity) :
    opp ∈ (scan_once cfg markets s).opportunities.map (·.uncounted) ↔
      ∃ m ∈ markets, m.scannable = true ∧ ∃ p ∈ m.pairs, m.settled cfg p = some opp := by
  have hstart : Progress.toScannerState { s with opportunities := [], seen_keys := [] }
      |>.SeenLong cfg := hs
  have hlist := (pairs_list hstart (scan_pairs markets)).trans (List.nil_append _)
  have hsorted : opp ∈ (scan_once cfg markets s).opportunities.map (·.uncounted) ↔
      opp ∈ (scan_pairs markets).filterMap fun p => p.1.settled cfg p.2 := by
    rw [← hlist]
    simp only [scan_once, List.mem_map, List.mem_insertionSort]
  rw [hsorted]
  simp only [scan_pairs, List.mem_filterMap, List.mem_flatMap, List.mem_filter, List.mem_map]
  constructor
  · rintro ⟨_, ⟨m, ⟨hm, hscan⟩, p, hp, rfl⟩, hsettled⟩
    exact ⟨m, hm, hscan, p, hp, hsettled⟩
  · rintro ⟨m, hm, hscan, p, hp, hsettled⟩
    exact ⟨(m, p), ⟨m, ⟨hm, hscan⟩, p, hp, rfl⟩, hsettled⟩

/-! ## Section 3: The best of a list -/

/-- Going through a list, the one held only gives way to a larger edge. -/
theorem foldl_better_some (l : List ArbitrageOpportunity) (held : ArbitrageOpportunity) :
    ∃ opp, l.foldl better (some held) = some opp ∧ held.net_edge_cents ≤ opp.net_edge_cents ∧
      ∀ other ∈ l, other.net_edge_cents ≤ opp.net_edge_cents := by
  induction l generalizing held with
  | nil => exact ⟨held, rfl, le_rfl, by simp⟩
  | cons a l ih =>
    rw [List.foldl_cons]
    by_cases hlarger : held.net_edge_cents < a.net_edge_cents
    · obtain ⟨opp, hfold, ha, hl⟩ := ih a
      refine ⟨opp, ?_, hlarger.le.trans ha, ?_⟩
      · rw [better, if_pos hlarger]
        exact hfold
      · intro other hother
        rcases List.mem_cons.1 hother with rfl | hrest
        · exact ha
        · exact hl other hrest
    · obtain ⟨opp, hfold, hheld, hl⟩ := ih held
      refine ⟨opp, ?_, hheld, ?_⟩
      · rw [better, if_neg hlarger]
        exact hfold
      · intro other hother
        rcases List.mem_cons.1 hother with rfl | hrest
        · exact (not_lt.1 hlarger).trans hheld
        · exact hl other hrest

/-- Nothing is best of an empty list only. -/
theorem foldl_better_eq_none {l : List ArbitrageOpportunity} :
    l.foldl better none = none ↔ l = [] := by
  cases l with
  | nil => simp
  | cons a l =>
    obtain ⟨opp, hfold, -⟩ := foldl_better_some l a
    simp [List.foldl_cons, better, hfold]

/-- What is best is in the list, and nothing in it has a larger edge. -/
theorem foldl_better_spec {l : List ArbitrageOpportunity} {opp : ArbitrageOpportunity}
    (h : l.foldl better none = some opp) :
    opp ∈ l ∧ ∀ other ∈ l, other.net_edge_cents ≤ opp.net_edge_cents := by
  constructor
  · rcases mem_of_foldl_better h with hmem | hnone
    · exact hmem
    · cases hnone
  · cases l with
    | nil => cases h
    | cons a l =>
      obtain ⟨best, hfold, ha, hl⟩ := foldl_better_some l a
      rw [List.foldl_cons, better, hfold] at h
      obtain rfl : best = opp := Option.some.inj h
      intro other hother
      rcases List.mem_cons.1 hother with rfl | hrest
      · exact ha
      · exact hl other hrest

/-! ## Section 4: The feed against the scan -/

/-- `MARKET_MAP`, as a scan goes through it: one market for each canonical id. -/
structure MarketMap where
  markets : List Market
  distinct : (markets.map Market.canonical_id).Nodup

/-- `MARKET_MAP.get`. -/
def MarketMap.get (map : MarketMap) (canonical_id : String) : Option Market :=
  map.markets.find? fun m => m.canonical_id = canonical_id

/-- `build_opportunity_for_canonical`, by the id. -/
def MarketMap.build_opportunity (map : MarketMap) (cfg : ScannerConfig) (canonical_id : String) :
    Option ArbitrageOpportunity :=
  (map.get canonical_id).bind (build_opportunity_for_canonical cfg)

/-- What a scan builds of the market and accepts. -/
def MarketMap.scan_accepts (map : MarketMap) (cfg : ScannerConfig) (canonical_id : String)
    (s : ScannerState) : List ArbitrageOpportunity :=
  ((scan_once cfg map.markets s).opportunities.filter fun opp =>
    opp.canonical_id = canonical_id ∧ Accepts opp.status).map (·.uncounted)

/-- **The feed's opportunity is the scan's**: of those that a scan accepts which has seen all
    of them often enough, whatever their counts, it is one with the largest net edge, and it
    is missing only if there is none. -/
def FeedAgrees (cfg : ScannerConfig) (map : MarketMap) (canonical_id : String) : Prop :=
  ∀ s : ScannerState, s.SeenLong cfg →
    (map.build_opportunity cfg canonical_id = none → map.scan_accepts cfg canonical_id s = []) ∧
    ∀ opp, map.build_opportunity cfg canonical_id = some opp →
      opp ∈ map.scan_accepts cfg canonical_id s ∧
        ∀ other ∈ map.scan_accepts cfg canonical_id s, other.net_edge_cents ≤ opp.net_edge_cents

/-- A pair of venues of the market that is built and accepted, the counter apart. -/
def Market.Acceptable (cfg : ScannerConfig) (m : Market) (opp : ArbitrageOpportunity) : Prop :=
  m.scannable = true ∧ (∃ p ∈ m.pairs, m.settled cfg p = some opp) ∧ Accepts opp.status

theorem MarketMap.get_eq_some_iff {map : MarketMap} {canonical_id : String} {m : Market} :
    map.get canonical_id = some m ↔ m ∈ map.markets ∧ m.canonical_id = canonical_id := by
  constructor
  · intro h
    exact ⟨List.mem_of_find?_eq_some h, by simpa using List.find?_some h⟩
  · intro ⟨hm, hid⟩
    cases hfind : map.get canonical_id with
    | none =>
      have hnot := List.find?_eq_none.1 hfind m hm
      simp [hid] at hnot
    | some other =>
      -- the ids are distinct
      have hother := List.mem_of_find?_eq_some hfind
      have hsame : other.canonical_id = canonical_id := by simpa using List.find?_some hfind
      rw [List.inj_on_of_nodup_map map.distinct hother hm (hsame.trans hid.symm)]

/-- A settled opportunity is of its market. -/
theorem Market.settled_canonical_id {cfg : ScannerConfig} {m : Market}
    {p : PricePoint × PricePoint} {opp : ArbitrageOpportunity} (h : m.settled cfg p = some opp) :
    opp.canonical_id = m.canonical_id := by
  rw [Market.settled, Option.map_eq_some_iff] at h
  obtain ⟨built, hbuilt, rfl⟩ := h
  obtain ⟨-, rfl⟩ := build_eq_some_iff.1 hbuilt
  rfl

/-- What the scan accepts of a market is what is acceptable there. -/
theorem MarketMap.mem_scan_accepts {map : MarketMap} {cfg : ScannerConfig}
    {canonical_id : String} {s : ScannerState} (hs : s.SeenLong cfg)
    {opp : ArbitrageOpportunity} :
    opp ∈ map.scan_accepts cfg canonical_id s ↔
      ∃ m, map.get canonical_id = some m ∧ m.Acceptable cfg opp := by
  have hscan : opp ∈ (scan_once cfg map.markets s).opportunities.map (·.uncounted) ↔ _ :=
    mem_scan_once hs opp
  constructor
  · intro hopp
    rw [scan_accepts, List.mem_map] at hopp
    obtain ⟨listed, hlisted, rfl⟩ := hopp
    obtain ⟨hmem, hid, hstatus⟩ := by simpa using List.mem_filter.1 hlisted
    obtain ⟨m, hm, hscannable, p, hp, hsettled⟩ := hscan.1 (List.mem_map_of_mem hmem)
    have hm_id : m.canonical_id = canonical_id := (m.settled_canonical_id hsettled).symm.trans hid
    exact ⟨m, MarketMap.get_eq_some_iff.2 ⟨hm, hm_id⟩, hscannable, ⟨p, hp, hsettled⟩, hstatus⟩
  · intro ⟨m, hget, hscannable, ⟨p, hp, hsettled⟩, hstatus⟩
    obtain ⟨hm, hm_id⟩ := MarketMap.get_eq_some_iff.1 hget
    obtain ⟨listed, hlisted, rfl⟩ := List.mem_map.1 (hscan.2 ⟨m, hm, hscannable, p, hp, hsettled⟩)
    have hid : listed.canonical_id = canonical_id :=
      (m.settled_canonical_id hsettled).trans hm_id
    exact List.mem_map_of_mem (List.mem_filter.2 ⟨hlisted, decide_eq_true ⟨hid, hstatus⟩⟩)

/-- Where one scan is enough, the feed's list is the acceptable one. -/
theorem Market.mem_offers_of_one_scan {cfg : ScannerConfig} {m : Market}
    (hone : cfg.persistence_scans ≤ 1) {opp : ArbitrageOpportunity} :
    opp ∈ m.offers cfg ↔ (∃ p ∈ m.pairs, m.settled cfg p = some opp) ∧ Accepts opp.status := by
  have hsame : ∀ built, resolved cfg m.mapping 1 built = persistent cfg m.mapping built :=
    fun built => resolved_uncounted hone
  have hfun : resolved cfg m.mapping 1 = persistent cfg m.mapping := funext hsame
  simp only [Market.offers, Market.settled, hfun, List.mem_filterMap, Option.filter_eq_some_iff,
    decide_eq_true_eq]
  constructor
  · rintro ⟨p, hp, hsettled, hstatus⟩
    exact ⟨⟨p, hp, hsettled⟩, hstatus⟩
  · rintro ⟨⟨p, hp, hsettled⟩, hstatus⟩
    exact ⟨p, hp, hsettled, hstatus⟩

/-- Where it is not, the feed's list is empty. -/
theorem Market.offers_eq_nil {cfg : ScannerConfig} (m : Market)
    (hmore : 1 < cfg.persistence_scans) : m.offers cfg = [] := by
  rw [Market.offers, List.filterMap_eq_nil_iff]
  intro p _
  rw [Option.filter_eq_none_iff]
  intro opp hopp
  obtain ⟨built, -, rfl⟩ := Option.map_eq_some_iff.1 hopp
  have hyoung : ¬ Accepts (resolved cfg m.mapping 1 built).status := not_accepts_of_young hmore
  simpa [Accepts] using hyoung

/-- With no market of that name, or nothing acceptable in it, a scan accepts nothing. -/
theorem MarketMap.scan_accepts_eq_nil {map : MarketMap} {cfg : ScannerConfig}
    {canonical_id : String} {s : ScannerState} (hs : s.SeenLong cfg)
    (h : ∀ m opp, map.get canonical_id = some m → ¬ m.Acceptable cfg opp) :
    map.scan_accepts cfg canonical_id s = [] := by
  apply List.eq_nil_iff_forall_not_mem.2
  intro opp hopp
  obtain ⟨m, hget, hacceptable⟩ := (mem_scan_accepts hs).1 hopp
  exact h m opp hget hacceptable

/-- The feed's opportunity where one scan is enough. -/
theorem feed_agrees_of_one_scan {cfg : ScannerConfig} {map : MarketMap} {canonical_id : String}
    (hone : cfg.persistence_scans ≤ 1) : FeedAgrees cfg map canonical_id := by
  intro s hlong
  unfold MarketMap.build_opportunity
  cases hget : map.get canonical_id with
  | none =>
    constructor
    · intro _
      apply MarketMap.scan_accepts_eq_nil hlong
      intro m opp hsome
      rw [hget] at hsome
      cases hsome
    · intro opp hopp
      cases hopp
  | some m =>
    -- what a scan accepts of the market is what the market offers
    have hmem : ∀ opp, m.scannable = true →
        (opp ∈ map.scan_accepts cfg canonical_id s ↔ opp ∈ m.offers cfg) := by
      intro opp hscannable
      rw [MarketMap.mem_scan_accepts hlong, Market.mem_offers_of_one_scan hone]
      constructor
      · intro ⟨m', hget', hacceptable⟩
        obtain rfl : m = m' := Option.some.inj (hget.symm.trans hget')
        exact hacceptable.2
      · intro hoffer
        exact ⟨m, hget, hscannable, hoffer⟩
    show (build_opportunity_for_canonical cfg m = none → _) ∧
      ∀ opp, build_opportunity_for_canonical cfg m = some opp → _
    unfold build_opportunity_for_canonical
    by_cases hscannable : m.scannable = true
    · rw [if_pos hscannable]
      constructor
      · intro hnone
        apply List.eq_nil_iff_forall_not_mem.2
        intro opp hopp
        have hoffer := (hmem opp hscannable).1 hopp
        rw [foldl_better_eq_none.1 hnone] at hoffer
        cases hoffer
      · intro opp hopp
        obtain ⟨hoffer, hbest⟩ := foldl_better_spec hopp
        exact ⟨(hmem opp hscannable).2 hoffer,
          fun other hother => hbest other ((hmem other hscannable).1 hother)⟩
    · -- a market that is not scanned is not fed either
      rw [if_neg hscannable]
      constructor
      · intro _
        apply MarketMap.scan_accepts_eq_nil hlong
        intro m' opp hget' hacceptable
        obtain rfl : m = m' := Option.some.inj (hget.symm.trans hget')
        exact hscannable hacceptable.1
      · intro opp hopp
        cases hopp

/-- Where it is not, the feed has nothing. -/
theorem MarketMap.build_opportunity_eq_none {cfg : ScannerConfig} (map : MarketMap)
    (canonical_id : String) (hmore : 1 < cfg.persistence_scans) :
    map.build_opportunity cfg canonical_id = none := by
  rw [MarketMap.build_opportunity, Option.bind_eq_none_iff]
  intro m _
  rw [build_opportunity_for_canonical, m.offers_eq_nil hmore]
  split <;> rfl

/-- **The feed agrees with the scan exactly when one scan is enough**, or when the scan would
    accept nothing of the market anyway. -/
theorem feed_agrees_iff (cfg : ScannerConfig) (map : MarketMap) (canonical_id : String) :
    FeedAgrees cfg map canonical_id ↔ cfg.persistence_scans ≤ 1 ∨
      ∀ m opp, map.get canonical_id = some m → ¬ m.Acceptable cfg opp := by
  by_cases hone : cfg.persistence_scans ≤ 1
  · exact iff_of_true (feed_agrees_of_one_scan hone) (.inl hone)
  · have hnone := map.build_opportunity_eq_none canonical_id (not_le.1 hone)
    constructor
    · intro hagrees
      right
      intro m opp hget hacceptable
      have hlong : ScannerState.SeenLong cfg ⟨fun _ => cfg.persistence_scans, fun _ => 0, [], []⟩ :=
        fun _ => Nat.le_succ _
      have hmem := (MarketMap.mem_scan_accepts hlong).2 ⟨m, hget, hacceptable⟩
      rw [(hagrees _ hlong).1 hnone] at hmem
      cases hmem
    · intro hcase s hlong
      constructor
      · intro _
        exact MarketMap.scan_accepts_eq_nil hlong (hcase.resolve_left hone)
      · intro opp hopp
        rw [hnone] at hopp
        cases hopp

/-! ### A market on the default settings -/

/-- Five scans in a row, as the configuration comes. -/
def five_scan_config : ScannerConfig := { one_scan_config with persistence_scans := 5 }

/-- The map with that one market. -/
def house_map : MarketMap where
  markets := [house_market]
  distinct := by decide

/-- Seen five times before. -/
def seen_five_times : ScannerState := ⟨fun _ => 5, fun _ => 0, [], []⟩

/-- The scan accepts the forty contracts of the house; the feed is told there is nothing. -/
theorem house_not_offered_to_feed :
    seen_five_times.SeenLong five_scan_config ∧
      house_map.build_opportunity five_scan_config "HOUSE_2026" = none ∧
      house_map.scan_accepts five_scan_config "HOUSE_2026" seen_five_times ≠ [] ∧
      ¬ FeedAgrees five_scan_config house_map "HOUSE_2026" := by
  have hlong : seen_five_times.SeenLong five_scan_config := by
    intro key
    show 5 ≤ 5 + 1
    omega
  have hnone : house_map.build_opportunity five_scan_config "HOUSE_2026" = none :=
    house_map.build_opportunity_eq_none _ (by decide)
  have haccepts : house_map.scan_accepts five_scan_config "HOUSE_2026" seen_five_times ≠ [] := by
    have hlength : (house_map.scan_accepts five_scan_config "HOUSE_2026"
        seen_five_times).length = 1 := by decide +kernel
    intro hnil
    rw [hnil] at hlength
    cases hlength
  refine ⟨hlong, hnone, haccepts, fun hagrees => ?_⟩
  exact haccepts ((hagrees seen_five_times hlong).1 hnone)

end Scanner
