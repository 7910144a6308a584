import Mathlib.Data.List.Nodup
import Arbiter.Adapters.ForecastexSiblings
import Arbiter.Scanner.Collectors

/-! # The Contracts of a ForecastEx Quote

  YES and NO of a ForecastEx market are contracts of their own. The collector takes the NO
  contract from the mapping, or looks for a Put under the parent of the YES contract, and
  keeps what it has found. YES contracts that are mapped twice are skipped.

  ## Contents

  - Section 1: the tracked markets.
  - Section 2: the lookup of a NO contract.
  - Section 3: a cycle.
  - Section 4: what each step keeps.
  - Section 5: in which runs every conid belongs to one side of one market.
-/

namespace ForecastexQuotes

open LTS Forecastex Collectors

/-! ## Section 1: Tracked markets -/

/-- `MARKET_MAP`, in order. -/
abbrev MarketMap := List (String × Json ℚ)

/-- A market that is tracked; `no_conid` is empty where none is mapped. -/
structure Tracked where
  canonical_id : String
  yes_conid : String
  no_conid : String
  deriving DecidableEq

section conids

variable (spelled : Json ℚ → String)

/-- `str(mapping.get(key, "") or "").strip()`, empty where it is no conid. -/
def mapped_conid (mapping : Json ℚ) (key : String) : String :=
  let conid := Text.strip (text_or_empty spelled (mapping.get key))
  if is_valid_conid conid then conid else ""

/-- The market of an entry, if it has a YES contract. -/
def candidate (entry : String × Json ℚ) : Option Tracked :=
  let yes_conid := mapped_conid spelled entry.2 "forecastex"
  if (entry.2.get "forecastex_not_available").truthy = true ∨ yes_conid = "" then none
  else some ⟨entry.1, yes_conid, mapped_conid spelled entry.2 "forecastex_no"⟩

/-- The markets whose YES contract is theirs alone. -/
def sole_owners (candidates : List Tracked) : List Tracked :=
  candidates.filter fun t => (candidates.filter fun u => u.yes_conid = t.yes_conid).length ≤ 1

/-- `_conid_map`, as `refresh_tracked_markets` makes it. -/
def tracked_markets (market_map : MarketMap) : List Tracked :=
  sole_owners (market_map.filterMap (candidate spelled))

end conids

/-- The collector between two cycles. -/
structure Collector where
  inactive_conids : List String
  parent_probe_counts : String → ℕ
  no_discovery_cache : String → Option String
  no_discovery_failed : List String
  /-- Until when a lookup is not repeated. -/
  no_discovery_soft_block : String → Option ℚ

/-- `refresh_tracked_markets`: what is noted of contracts that are tracked no more is
    forgotten. -/
def Collector.refresh (s : Collector) (tracked : List Tracked) : Collector :=
  let referenced := tracked.map (·.yes_conid) ++ tracked.map (·.no_conid)
  let stale := s.inactive_conids.filter fun conid => conid ∉ referenced
  { s with
    inactive_conids := s.inactive_conids.filter fun conid => conid ∈ referenced
    parent_probe_counts := fun conid =>
      if conid ∈ stale then 0 else s.parent_probe_counts conid
    no_discovery_cache := fun conid =>
      if conid ∈ tracked.map (·.yes_conid) then s.no_discovery_cache conid else none
    no_discovery_failed :=
      s.no_discovery_failed.filter fun conid => conid ∈ tracked.map (·.yes_conid) }

/-- `reactivate_conid`. -/
def Collector.reactivate_conid (s : Collector) (conid : String) : Collector :=
  { s with
    inactive_conids := s.inactive_conids.filter (· ≠ conid)
    parent_probe_counts := Function.update s.parent_probe_counts conid 0
    no_discovery_failed := s.no_discovery_failed.filter (· ≠ conid) }

/-- `_mark_inactive`. -/
def Collector.mark_inactive (s : Collector) (conid : String) : Collector :=
  { s with inactive_conids := conid :: s.inactive_conids }

/-! ## Section 2: The lookup of a NO contract -/

/-- What an IBKR request answers. -/
inductive Reply
  | answered (snapshot : Json ℚ)
  | status (code : ℕ)
  | raised

/-- What is answered while one market is fetched: each snapshot at the first and the second
    try, of the YES contract and of a NO contract. -/
structure Answers where
  now : ℚ
  gateway : Gateway
  /-- When a lookup that fails for now may be repeated. -/
  soft_block_until : ℚ
  yes_snapshots : Reply × Reply
  no_snapshots : String → Reply × Reply

section lookup

variable (spelled : Json ℚ → String) (float_text : String → Option ℚ)

/-- `_attempt_no_conid_discovery`. -/
def Collector.attempt_no_conid_discovery (s : Collector) (a : Answers) (yes_conid : String) :
    Collector × Option String :=
  match s.no_discovery_cache yes_conid with
  | some no_conid => (s, some no_conid)
  | none =>
      if yes_conid ∈ s.no_discovery_failed then (s, none)
      else if (s.no_discovery_soft_block yes_conid).any (a.now < ·) then (s, none)
      else
        let s := { s with
          no_discovery_soft_block :=
            Function.update s.no_discovery_soft_block yes_conid none }
        let failed := { s with no_discovery_failed := yes_conid :: s.no_discovery_failed }
        -- a lookup that raises may be tried again; one that finds nothing may not
        match a.gateway.contract_info yes_conid with
        | none => (s, none)
        | some info =>
            if (info.is_obj && info.truthy) = false then (failed, none)
            else
              let parent := info.first parent_keys .null
              if parent.truthy = false ∨ info.get "strike" matches .null ∨
                  info_right spelled info ∉ call_rights then
                (failed, none)
              else
                match resolve_event_children spelled a.gateway (parent.text spelled) with
                | none =>
                    ({ s with
                        no_discovery_soft_block :=
                          Function.update s.no_discovery_soft_block yes_conid
                            (some a.soft_block_until) },
                      none)
                | some children =>
                    match children.find?
                        (takes yes_conid put_rights (strike_f (info.get "strike"))) with
                    | some child =>
                        let no_conid := Text.strip child.conid
                        ({ s with
                            no_discovery_cache :=
                              Function.update s.no_discovery_cache yes_conid (some no_conid) },
                          some no_conid)
                    | none => (failed, none)

/-- `_max_discoveries_per_cycle`. -/
def max_discoveries_per_cycle : ℕ := 3

/-- The NO contract of a market: the mapped one, else what a lookup finds, which is skipped
    when the budget of the cycle is used up. -/
def Collector.resolve_no (s : Collector) (discoveries : ℕ) (a : Answers) (t : Tracked) :
    Collector × ℕ × Option String :=
  if t.no_conid ≠ "" then (s, discoveries, some t.no_conid)
  else
    let is_cache_hit := (s.no_discovery_cache t.yes_conid).isSome ||
      decide (t.yes_conid ∈ s.no_discovery_failed)
    let soft_blocked := (s.no_discovery_soft_block t.yes_conid).any (a.now < ·)
    if is_cache_hit || soft_blocked then
      let (s, no_conid) := s.attempt_no_conid_discovery spelled a t.yes_conid
      (s, discoveries, no_conid)
    else if max_discoveries_per_cycle ≤ discoveries then (s, discoveries, none)
    else
      let (s, no_conid) := s.attempt_no_conid_discovery spelled a t.yes_conid
      (s, discoveries + 1, no_conid)

/-! ## Section 3: A cycle -/

/-- A field of a snapshot has a positive number. -/
def positive_field (value : Json ℚ) : Bool :=
  match value with
  | .num q => decide (0 < q)
  | .str s _ =>
      let bare := s.toList.dropWhile fun c => c ∈ ['C', 'H', 'c', ' ', 'h']
      decide (s ∉ ["", "N/A"]) && (float_text (Text.strip (String.ofList bare))).any (0 < ·)
  | _ => false

/-- `is_tradeable_snapshot`. -/
def is_tradeable_snapshot (snapshot : Json ℚ) : Bool :=
  snapshot.is_obj &&
    ["31", "84", "86"].any fun code => positive_field float_text (snapshot.get code)

/-- `_snapshot_with_warmup`: a second try where the first gives no prices. -/
def snapshot_with_warmup (replies : Reply × Reply) : Reply :=
  match replies.1 with
  | .answered snapshot =>
      if snapshot.truthy && !is_tradeable_snapshot float_text snapshot then replies.2
      else replies.1
  | reply => reply

/-- `_fetch_side_snapshot`. -/
def Collector.fetch_side_snapshot (s : Collector) (yes_conid no_conid : String) (a : Answers) :
    Collector × Option (Json ℚ) :=
  if no_conid = "" ∨ no_conid ∈ s.inactive_conids then (s, none)
  else
    match snapshot_with_warmup float_text (a.no_snapshots no_conid) with
    | .status code =>
        if code ∈ [404, 410] then
          -- the NO contract is gone, and is not looked for again
          let s := s.mark_inactive no_conid
          ({ s with
              no_discovery_failed := yes_conid :: s.no_discovery_failed
              no_discovery_cache := Function.update s.no_discovery_cache yes_conid none },
            none)
        else (s, none)
    | .raised => (s, none)
    | .answered snapshot =>
        if snapshot.truthy && !is_tradeable_snapshot float_text snapshot then (s, none)
        else (s, some snapshot)

/-- `_PROBE_DISABLE_THRESHOLD`. -/
def probe_disable_threshold : ℕ := 8

/-- One round of the loop of `fetch_markets`. -/
def Collector.fetch (s : Collector) (discoveries : ℕ) (mapping : MappingEntry) (a : Answers)
    (t : Tracked) : Collector × ℕ × Option PricePoint :=
  if t.yes_conid ∈ s.inactive_conids then (s, discoveries, none)
  else
    match snapshot_with_warmup float_text a.yes_snapshots with
    | .raised => (s, discoveries, none)
    | .status code =>
        if code ∈ [404, 410, 500] then (s.mark_inactive t.yes_conid, discoveries, none)
        else (s, discoveries, none)
    | .answered yes_snapshot =>
        -- an event, and no contract of it: it has a page, but no price
        if yes_snapshot.truthy && !is_tradeable_snapshot float_text yes_snapshot then
          let probes := s.parent_probe_counts t.yes_conid + 1
          let s := { s with
            parent_probe_counts := Function.update s.parent_probe_counts t.yes_conid probes }
          (if probe_disable_threshold ≤ probes then s.mark_inactive t.yes_conid else s,
            discoveries, none)
        else
          let s := { s with
            parent_probe_counts := Function.update s.parent_probe_counts t.yes_conid 0 }
          let (s, discoveries, no_conid) := s.resolve_no spelled discoveries a t
          let (s, no_snapshot) :=
            match no_conid with
            | none => (s, none)
            | some no_conid => s.fetch_side_snapshot float_text t.yes_conid no_conid a
          (s, discoveries,
            forecastex_price_point float_text t.canonical_id t.yes_conid mapping yes_snapshot
              no_conid no_snapshot)

/-- The loop of `fetch_markets`: the collector afterwards, and what is published. -/
def Collector.fetch_all (mappings : String → MappingEntry) (answers : String → Answers) :
    Collector → ℕ → List Tracked → Collector × List PricePoint
  | s, _, [] => (s, [])
  | s, discoveries, t :: tracked =>
      let (s, discoveries, price) := s.fetch spelled float_text discoveries
        (mappings t.canonical_id) (answers t.canonical_id) t
      let (s, results) := fetch_all mappings answers s discoveries tracked
      (s, price.toList ++ results)

/-- The collector, and what the last cycle has published. -/
structure Desk where
  collector : Collector
  published : List PricePoint

/-- What happens to the collector. -/
inductive Step
  /-- `fetch_markets`, with the market map and the answers to each market. -/
  | fetch_markets (market_map : MarketMap) (mappings : String → MappingEntry)
      (answers : String → Answers)
  | reactivate_conid (conid : String)

/-- One step. -/
def Step.apply (s : Desk) : Step → Desk
  | .fetch_markets market_map mappings answers =>
      let tracked := tracked_markets spelled market_map
      let (collector, published) := (s.collector.refresh tracked).fetch_all spelled float_text
        mappings answers 0 tracked
      ⟨collector, published⟩
  | .reactivate_conid conid => { s with collector := s.collector.reactivate_conid conid }

/-- The collector as it is built. -/
def Collector.fresh : Collector := ⟨[], fun _ => 0, fun _ => none, [], fun _ => none⟩

/-- Cycles over any market maps, with any answers. -/
def quotes_system : System Desk Step where
  init := fun s => s = ⟨.fresh, []⟩
  step := fun s l s' => s' = l.apply spelled float_text s

end lookup

/-! ## Section 4: What each step keeps -/

/-- `no` is the Put of the market of `yes`. -/
def PutOf (cat : Catalogue) (yes no : String) : Prop :=
  ∃ k l, cat yes = some k ∧ cat no = some l ∧ l.right = .put ∧ l.parent = k.parent ∧
    l.strike = k.strike ∧ l.maturity = k.maturity

/-- Every pair that is kept is one market's. -/
def Cached (cat : Catalogue) (s : Collector) : Prop :=
  ∀ yes no, s.no_discovery_cache yes = some no → PutOf cat yes no

/-- The gateway is truthful, and the first Put that the comparisons let through matures with
    the contract and has its strike, unless both strikes are told. -/
def ListsTruly (spelled : Json ℚ → String) (cat : Catalogue) (gw : Gateway) (yes : String) :
    Prop :=
  Truthful spelled cat gw ∧
    ∀ info before child after, gw.contract_info yes = some info →
      resolve_event_children spelled gw ((info.first parent_keys .null).text spelled) =
        some (before ++ child :: after) →
      takes yes put_rights (strike_f (info.get "strike")) child = true →
      (∀ c ∈ before, takes yes put_rights (strike_f (info.get "strike")) c = false) →
      ∀ k l, cat yes = some k → cat (Text.strip child.conid) = some l →
        l.maturity = k.maturity ∧ (l.strike = k.strike ∨
          ∃ q, strike_f (info.get "strike") = some q ∧ strike_f child.strike = some q)

section keeps

variable {spelled : Json ℚ → String} {float_text : String → Option ℚ} {cat : Catalogue}
  {s : Collector} {a : Answers} {t : Tracked}

/-- The first Put that is taken under a truthful listing is the market's. -/
theorem put_of_first {gw : Gateway} {yes : String} {info : Json ℚ} {children : List Child}
    {child : Child} (hlists : ListsTruly spelled cat gw yes)
    (hinfo : gw.contract_info yes = some info)
    (hparent : (info.first parent_keys .null).truthy = true)
    (hright : info_right spelled info ∈ call_rights)
    (hchildren : resolve_event_children spelled gw
      ((info.first parent_keys .null).text spelled) = some children)
    (hfind : children.find? (takes yes put_rights (strike_f (info.get "strike"))) = some child) :
    PutOf cat yes (Text.strip child.conid) := by
  obtain ⟨htrue, hfirst⟩ := hlists
  obtain ⟨htakes, before, after, rfl, hbefore⟩ := List.find?_eq_some_iff_append.mp hfind
  have hbefore : ∀ c ∈ before, takes yes put_rights (strike_f (info.get "strike")) c = false :=
    fun c hc => by simpa using hbefore c hc
  have hputs : want_right (info_right spelled info) = put_rights := if_pos hright
  -- the search is the one that siblings are found by, so what is told of those holds here
  have hmatched : MatchedFirst spelled gw yes info (Text.strip child.conid) child.strike := by
    refine .child hchildren ?_ ?_
    · rw [hputs]
      exact htakes
    · rw [hputs]
      exact hbefore
  obtain ⟨k, l, hk, hl, hlparent, hne, hkstrike, hlstrike⟩ :=
    hmatched.told htrue hinfo hparent (List.mem_append_left _ hright)
  obtain ⟨k', hk', -, htold⟩ := htrue.page yes info hinfo hparent
  obtain rfl : k' = k := Option.some_inj.mp (hk'.symm.trans hk)
  have hput : l.right = .put := by
    rw [htold.call hright] at hne
    cases hlright : l.right with
    | call => exact absurd hlright hne
    | put => rfl
  obtain ⟨hmaturity, hstrike⟩ := hfirst info before child after hinfo hchildren htakes hbefore
    k' l hk hl
  refine ⟨k', l, hk, hl, hput, hlparent, ?_, hmaturity⟩
  obtain hstrike | ⟨q, hq, hq'⟩ := hstrike
  · exact hstrike
  · rw [hlstrike q hq', hkstrike q hq]

/-- What a lookup gives and leaves. -/
theorem attempt_spec {yes : String} (h : Cached cat s)
    (hlists : s.no_discovery_cache yes = none → ListsTruly spelled cat a.gateway yes) :
    Cached cat (s.attempt_no_conid_discovery spelled a yes).1 ∧
      ∀ no ∈ (s.attempt_no_conid_discovery spelled a yes).2, PutOf cat yes no := by
  have hnone : Cached cat s ∧ ∀ no ∈ (none : Option String), PutOf cat yes no :=
    ⟨h, fun _ hno => (nomatch hno)⟩
  unfold Collector.attempt_no_conid_discovery
  cases hcache : s.no_discovery_cache yes with
  | some no =>
    refine ⟨h, fun no' hno' => ?_⟩
    obtain rfl : no = no' := Option.some_inj.mp hno'
    exact h yes no hcache
  | none =>
    have hlists := hlists hcache
    dsimp only
    split_ifs
    -- given up for good, or left alone for a while: nothing is found, and nothing is kept
    · exact hnone
    · exact hnone
    · cases hinfo : a.gateway.contract_info yes with
      | none => exact hnone
      | some info =>
        dsimp only
        split_ifs with hobj hnamed
        · exact hnone
        · exact hnone
        -- the page names a parent and the right of a call, which the search goes on with
        · have hparent : (info.first parent_keys .null).truthy = true := by
            cases htruthy : (info.first parent_keys .null).truthy with
            | true => rfl
            | false => exact absurd (.inl htruthy) hnamed
          have hright : info_right spelled info ∈ call_rights :=
            not_not.mp fun hno => hnamed (.inr (.inr hno))
          cases hchildren : resolve_event_children spelled a.gateway
              ((info.first parent_keys .null).text spelled) with
          | none => exact hnone
          | some children =>
            dsimp only
            cases hfind : children.find?
                (takes yes put_rights (strike_f (info.get "strike"))) with
            | none => exact hnone
            | some child =>
              have hput := put_of_first hlists hinfo hparent hright hchildren hfind
              refine ⟨fun yes' no hno => ?_, fun no hno => ?_⟩
              · by_cases hyes : yes' = yes
                · subst hyes
                  obtain rfl : Text.strip child.conid = no := by simpa using hno
                  exact hput
                · exact h yes' no (by simpa [Function.update_of_ne hyes] using hno)
              · obtain rfl : Text.strip child.conid = no := Option.some_inj.mp hno
                exact hput

/-- The condition on one market: a mapped NO contract is the market's Put, and where one has
    to be looked up the listing is truthful. -/
def ResolvesTruly (spelled : Json ℚ → String) (cat : Catalogue) (s : Collector) (a : Answers)
    (t : Tracked) : Prop :=
  if t.no_conid ≠ "" then PutOf cat t.yes_conid t.no_conid
  else s.no_discovery_cache t.yes_conid = none → ListsTruly spelled cat a.gateway t.yes_conid

theorem resolve_no_spec (discoveries : ℕ) (h : Cached cat s)
    (hok : ResolvesTruly spelled cat s a t) :
    Cached cat (s.resolve_no spelled discoveries a t).1 ∧
      ∀ no ∈ (s.resolve_no spelled discoveries a t).2.2, PutOf cat t.yes_conid no := by
  unfold ResolvesTruly at hok
  unfold Collector.resolve_no
  by_cases hmapped : t.no_conid ≠ ""
  · rw [if_pos hmapped] at hok ⊢
    refine ⟨h, fun no hno => ?_⟩
    obtain rfl : t.no_conid = no := Option.some_inj.mp hno
    exact hok
  · rw [if_neg hmapped] at hok ⊢
    dsimp only
    split_ifs
    · exact attempt_spec h hok
    · exact ⟨h, fun _ hno => (nomatch hno)⟩
    · exact attempt_spec h hok

/-- The snapshot of the NO side drops pairs at most. -/
theorem fetch_side_cached {yes no : String} (h : Cached cat s) :
    Cached cat (s.fetch_side_snapshot float_text yes no a).1 := by
  unfold Collector.fetch_side_snapshot
  split_ifs
  · exact h
  · cases snapshot_with_warmup float_text (a.no_snapshots no) with
    | status code =>
      dsimp only
      split_ifs
      · intro yes' no' hno'
        by_cases hyes : yes' = yes
        · subst hyes
          simp at hno'
        · refine h yes' no' ?_
          simpa [Function.update_of_ne hyes, Collector.mark_inactive] using hno'
      · exact h
    | raised => exact h
    | answered snapshot =>
      dsimp only
      split_ifs
      · exact h
      · exact h

/-- The contracts of a price point. -/
theorem price_point_ids {canonical_id yes_conid : String} {mapping : MappingEntry}
    {yes_snapshot : Json ℚ} {no_conid : Option String} {no_snapshot : Option (Json ℚ)}
    {p : PricePoint}
    (hp : forecastex_price_point float_text canonical_id yes_conid mapping yes_snapshot no_conid
      no_snapshot = some p) :
    p.yes_market_id = yes_conid ∧
      ((p.no_bid ≤ 0 ∧ p.no_ask ≤ 0 ∧ p.no_market_id = "") ∨
        no_conid = some p.no_market_id) := by
  unfold forecastex_price_point at hp
  dsimp only at hp
  split_ifs at hp with hnone hquoted
  · cases hp
    refine ⟨rfl, .inr ?_⟩
    unfold no_side at hquoted ⊢
    cases no_conid with
    | none => simp [to_dollars] at hquoted
    | some conid =>
      cases no_snapshot with
      | none => simp [to_dollars] at hquoted
      | some snapshot =>
        by_cases hused : conid ≠ "" ∧ snapshot.truthy = true
        · simp [hused]
        · simp [hused, to_dollars] at hquoted
  · cases hp
    obtain ⟨hbid, hask⟩ := not_or.mp hquoted
    exact ⟨rfl, .inl ⟨not_lt.mp hbid, not_lt.mp hask, rfl⟩⟩

/-! ### Other contracts are left alone -/

theorem attempt_cache_ne {yes other : String} (hne : other ≠ yes) :
    (s.attempt_no_conid_discovery spelled a yes).1.no_discovery_cache other =
      s.no_discovery_cache other := by
  unfold Collector.attempt_no_conid_discovery
  cases s.no_discovery_cache yes with
  | some no => rfl
  | none =>
    dsimp only
    split_ifs
    · rfl
    · rfl
    · cases a.gateway.contract_info yes with
      | none => rfl
      | some info =>
        dsimp only
        split_ifs
        · rfl
        · rfl
        · cases resolve_event_children spelled a.gateway
              ((info.first parent_keys .null).text spelled) with
          | none => rfl
          | some children =>
            dsimp only
            cases children.find? (takes yes put_rights (strike_f (info.get "strike"))) with
            | none => rfl
            | some child => exact Function.update_of_ne hne _ _

theorem resolve_no_cache_ne (spelled : Json ℚ → String) (discoveries : ℕ) {other : String}
    (hne : other ≠ t.yes_conid) :
    (s.resolve_no spelled discoveries a t).1.no_discovery_cache other =
      s.no_discovery_cache other := by
  unfold Collector.resolve_no
  dsimp only
  split_ifs
  · rfl
  · exact attempt_cache_ne hne
  · rfl
  · exact attempt_cache_ne hne

theorem fetch_side_cache_ne {yes no other : String} (hne : other ≠ yes) :
    (s.fetch_side_snapshot float_text yes no a).1.no_discovery_cache other =
      s.no_discovery_cache other := by
  unfold Collector.fetch_side_snapshot
  split_ifs
  · rfl
  · cases snapshot_with_warmup float_text (a.no_snapshots no) with
    | status code =>
      dsimp only
      split_ifs
      · exact Function.update_of_ne hne _ _
      · rfl
    | raised => rfl
    | answered snapshot =>
      dsimp only
      split_ifs <;> rfl

/-! ### One round, and the loop -/

/-- The price point is of the market, and a NO contract of it is the market's Put. -/
structure OneMarket (cat : Catalogue) (yes_conid : String) (p : PricePoint) : Prop where
  yes : p.yes_market_id = yes_conid
  no : (p.no_bid ≤ 0 ∧ p.no_ask ≤ 0 ∧ p.no_market_id = "") ∨ PutOf cat yes_conid p.no_market_id

theorem fetch_spec (float_text : String → Option ℚ) (discoveries : ℕ) (mapping : MappingEntry)
    (h : Cached cat s)
    (hok : ResolvesTruly spelled cat s a t) :
    Cached cat (s.fetch spelled float_text discoveries mapping a t).1 ∧
      ∀ p ∈ (s.fetch spelled float_text discoveries mapping a t).2.2,
        OneMarket cat t.yes_conid p := by
  unfold Collector.fetch
  split_ifs
  · exact ⟨h, fun _ hp => by cases hp⟩
  · cases snapshot_with_warmup float_text a.yes_snapshots with
    | raised => exact ⟨h, fun _ hp => by cases hp⟩
    | status code =>
      dsimp only
      split_ifs
      · exact ⟨h, fun _ hp => by cases hp⟩
      · exact ⟨h, fun _ hp => by cases hp⟩
    | answered yes_snapshot =>
      dsimp only
      split_ifs
      · exact ⟨h, fun _ hp => by cases hp⟩
      · exact ⟨h, fun _ hp => by cases hp⟩
      -- a YES side with a price: its NO contract is resolved, and asked for
      · obtain ⟨hcached, hput⟩ := resolve_no_spec discoveries
          (s := { s with
            parent_probe_counts := Function.update s.parent_probe_counts t.yes_conid 0 }) h hok
        constructor
        · cases (Collector.resolve_no spelled _ discoveries a t).2.2 with
          | none => exact hcached
          | some no => exact fetch_side_cached hcached
        · intro p hp
          obtain ⟨hyes, hids⟩ := price_point_ids hp
          exact ⟨hyes, hids.imp id fun hno => hput _ hno⟩

theorem fetch_cache_ne {discoveries : ℕ} {mapping : MappingEntry} {other : String}
    (hne : other ≠ t.yes_conid) :
    (s.fetch spelled float_text discoveries mapping a t).1.no_discovery_cache other =
      s.no_discovery_cache other := by
  unfold Collector.fetch
  split_ifs
  · rfl
  · cases snapshot_with_warmup float_text a.yes_snapshots with
    | raised => rfl
    | status code =>
      dsimp only
      split_ifs <;> rfl
    | answered yes_snapshot =>
      dsimp only
      split_ifs
      · rfl
      · rfl
      · have hresolved := resolve_no_cache_ne spelled discoveries (a := a)
          (s := { s with
            parent_probe_counts := Function.update s.parent_probe_counts t.yes_conid 0 }) hne
        cases (Collector.resolve_no spelled _ discoveries a t).2.2 with
        | none => exact hresolved
        | some no => exact (fetch_side_cache_ne hne).trans hresolved

theorem fetch_all_cons {mappings : String → MappingEntry} {answers : String → Answers}
    {discoveries : ℕ} {tracked : List Tracked} :
    s.fetch_all spelled float_text mappings answers discoveries (t :: tracked) =
      let fetched := s.fetch spelled float_text discoveries (mappings t.canonical_id)
        (answers t.canonical_id) t
      let rest := fetched.1.fetch_all spelled float_text mappings answers fetched.2.1 tracked
      (rest.1, fetched.2.2.toList ++ rest.2) := rfl

/-- By induction on the markets that are left: each is of its own YES contract, so what was
    kept of it before the loop is kept when its turn comes. -/
theorem fetch_all_spec (float_text : String → Option ℚ) (mappings : String → MappingEntry)
    {answers : String → Answers} (discoveries : ℕ) {tracked : List Tracked} (h : Cached cat s)
    (hsole : (tracked.map (·.yes_conid)).Nodup)
    (hok : ∀ t ∈ tracked, ResolvesTruly spelled cat s (answers t.canonical_id) t) :
    Cached cat (s.fetch_all spelled float_text mappings answers discoveries tracked).1 ∧
      ((s.fetch_all spelled float_text mappings answers discoveries tracked).2.map
        (·.yes_market_id)).Sublist (tracked.map (·.yes_conid)) ∧
      ∀ p ∈ (s.fetch_all spelled float_text mappings answers discoveries tracked).2,
        OneMarket cat p.yes_market_id p := by
  induction tracked generalizing s discoveries with
  | nil => exact ⟨h, List.Sublist.refl _, fun _ hp => (nomatch hp)⟩
  | cons t tracked ih =>
    obtain ⟨hfresh, hsole⟩ := List.nodup_cons.mp hsole
    obtain ⟨hcached, hprice⟩ := fetch_spec float_text discoveries (mappings t.canonical_id) h
      (hok t List.mem_cons_self)
    -- this fetch writes under its own YES contract alone
    have hrest : ∀ u ∈ tracked, ResolvesTruly spelled cat
        (s.fetch spelled float_text discoveries (mappings t.canonical_id)
          (answers t.canonical_id) t).1 (answers u.canonical_id) u := by
      intro u hu
      have hne : u.yes_conid ≠ t.yes_conid :=
        fun heq => hfresh (List.mem_map.mpr ⟨u, hu, heq⟩)
      have hbefore := hok u (List.mem_cons_of_mem _ hu)
      unfold ResolvesTruly at hbefore ⊢
      rwa [fetch_cache_ne hne]
    rw [fetch_all_cons]
    generalize s.fetch spelled float_text discoveries (mappings t.canonical_id)
      (answers t.canonical_id) t = fetched at hcached hprice hrest
    obtain ⟨hcached', hsub, hresults⟩ := ih fetched.2.1 hcached hsole hrest
    refine ⟨hcached', ?_, ?_⟩
    · rw [List.map_append]
      cases hpublished : fetched.2.2 with
      | none => exact hsub.cons _
      | some p =>
        have hyes : p.yes_market_id = t.yes_conid := (hprice p hpublished).yes
        simp only [Option.toList_some, List.map_cons, List.map_nil, hyes]
        exact hsub.cons_cons _
    · intro p hp
      obtain hown | hlater := List.mem_append.mp hp
      · have hmarket := hprice p (Option.mem_toList.mp hown)
        exact ⟨rfl, hmarket.yes ▸ hmarket.no⟩
      · exact hresults p hlater

/-! ### The tracked markets -/

/-- A YES contract is tracked once. -/
theorem sole_owners_nodup (candidates : List Tracked) :
    ((sole_owners candidates).map (·.yes_conid)).Nodup := by
  rw [List.nodup_iff_count_le_one]
  intro conid
  by_cases hmem : conid ∈ (sole_owners candidates).map (·.yes_conid)
  · obtain ⟨t, ht, rfl⟩ := List.mem_map.mp hmem
    have hsole : (candidates.filter fun u => u.yes_conid = t.yes_conid).length ≤ 1 :=
      of_decide_eq_true (List.mem_filter.mp ht).2
    calc ((sole_owners candidates).map (·.yes_conid)).count t.yes_conid
        ≤ (candidates.map (·.yes_conid)).count t.yes_conid :=
          (List.filter_sublist.map _).count_le _
      _ = (candidates.filter fun u => u.yes_conid = t.yes_conid).length := by
          rw [List.count_eq_countP, List.countP_map, List.countP_eq_length_filter]
          rfl
      _ ≤ 1 := hsole
  · rw [List.count_eq_zero.mpr hmem]
    exact Nat.zero_le 1

/-- A refresh drops pairs at most. -/
theorem refresh_cached (tracked : List Tracked) (h : Cached cat s) :
    Cached cat (s.refresh tracked) := by
  intro yes no hno
  unfold Collector.refresh at hno
  dsimp only at hno
  split_ifs at hno
  exact h yes no hno

/-! ## Section 5: Whole runs -/

/-- The conids of a price point. -/
def conids (p : PricePoint) : List String :=
  p.yes_market_id :: if p.no_market_id = "" then [] else [p.no_market_id]

/-- Every positive NO quote is of the Put of its YES contract, and no conid is quoted twice. -/
structure OneMarketEach (cat : Catalogue) (published : List PricePoint) : Prop where
  puts : ∀ p ∈ published, 0 < p.no_bid ∨ 0 < p.no_ask →
    PutOf cat p.yes_market_id p.no_market_id
  once : (published.flatMap conids).Nodup

/-- The condition on a cycle: a contract has one id, no tracked YES contract is a Put, and
    every mapped NO contract and every listing that is looked up is the market's. -/
def MapsTruly (spelled : Json ℚ → String) (cat : Catalogue) (s : Desk) : Step → Prop
  | .fetch_markets market_map _ answers =>
      (∀ a b k, cat a = some k → cat b = some k → a = b) ∧
        ∀ t ∈ tracked_markets spelled market_map,
          (∀ k, cat t.yes_conid = some k → k.right = .call) ∧
            ResolvesTruly spelled cat
              (s.collector.refresh (tracked_markets spelled market_map))
              (answers t.canonical_id) t
  | .reactivate_conid _ => True

/-- Two markets have no conid in common. -/
theorem conids_disjoint (hone : ∀ a b k, cat a = some k → cat b = some k → a = b)
    {p q : PricePoint} (hp : OneMarket cat p.yes_market_id p) (hq : OneMarket cat q.yes_market_id q)
    (hpcall : ∀ k, cat p.yes_market_id = some k → k.right = .call)
    (hqcall : ∀ k, cat q.yes_market_id = some k → k.right = .call)
    (hne : p.yes_market_id ≠ q.yes_market_id) : (conids p).Disjoint (conids q) := by
  have hno {p : PricePoint} (hp : OneMarket cat p.yes_market_id p) {conid : String}
      (hmem : conid ∈ conids p) :
      conid = p.yes_market_id ∨ PutOf cat p.yes_market_id conid := by
    obtain rfl | hmem := List.mem_cons.mp hmem
    · exact .inl rfl
    · split_ifs at hmem with hnone
      · cases hmem
      · obtain rfl := List.mem_singleton.mp hmem
        exact .inr (hp.no.resolve_left fun h => hnone h.2.2)
  intro conid hmemp hmemq
  obtain rfl | ⟨k, l, hk, hl, hput, hparent, hstrike, hmaturity⟩ := hno hp hmemp
  · obtain heq | ⟨-, l, -, hl, hput, -⟩ := hno hq hmemq
    · exact hne heq
    · exact absurd ((hpcall l hl).symm.trans hput) (by decide)
  · obtain rfl | ⟨k', l', hk', hl', -, hparent', hstrike', hmaturity'⟩ := hno hq hmemq
    · exact absurd ((hqcall l hl).symm.trans hput) (by decide)
    · -- both are the call of the same put
      obtain rfl : l = l' := Option.some_inj.mp (hl.symm.trans hl')
      have hsame : k = k' := by
        have hright := (hpcall k hk).trans (hqcall k' hk').symm
        cases k
        cases k'
        simp_all
      exact hne (hone _ _ k hk (hsame ▸ hk'))

/-- A market has two conids. -/
theorem conids_nodup {p : PricePoint} (hp : OneMarket cat p.yes_market_id p)
    (hcall : ∀ k, cat p.yes_market_id = some k → k.right = .call) : (conids p).Nodup := by
  unfold conids
  split_ifs with hnone
  · exact List.nodup_singleton _
  · obtain ⟨k, l, hk, hl, hput, -⟩ := hp.no.resolve_left fun h => hnone h.2.2
    refine List.nodup_cons.mpr ⟨fun hmem => ?_, List.nodup_singleton _⟩
    rw [List.mem_singleton.mp hmem] at hcall
    exact absurd ((hcall l hl).symm.trans hput) (by decide)

/-- In every run whose markets are mapped and listed truly, every positive NO quote is of the
    Put of its YES contract, and no conid is quoted for two markets or two sides. -/
theorem conids_of_one_market {d : Desk}
    (hd : Reachable ((quotes_system spelled float_text).restrict (MapsTruly spelled cat)) d) :
    OneMarketEach cat d.published := by
  have hinv : Invariant ((quotes_system spelled float_text).restrict (MapsTruly spelled cat))
      fun d => Cached cat d.collector ∧ OneMarketEach cat d.published := by
    refine Invariant.of_step ?_ ?_
    · rintro d rfl
      exact ⟨fun _ _ hno => (nomatch hno), fun _ hp => (nomatch hp), List.nodup_nil⟩
    · rintro d step _ ⟨hcached, hpublished⟩ ⟨hok, rfl⟩
      cases step with
      | reactivate_conid conid => exact ⟨hcached, hpublished⟩
      | fetch_markets market_map mappings answers =>
        obtain ⟨hone, htracked⟩ := hok
        obtain ⟨hcached', hsub, hmarkets⟩ := fetch_all_spec float_text mappings 0
          (refresh_cached _ hcached) (sole_owners_nodup _) fun t ht => (htracked t ht).2
        refine ⟨hcached', fun p hp hquoted => ?_, ?_⟩
        · refine (hmarkets p hp).no.resolve_left fun hnone => ?_
          exact hquoted.elim (not_lt.mpr hnone.1) (not_lt.mpr hnone.2.1)
        · have hcall : ∀ p ∈ ((d.collector.refresh (tracked_markets spelled market_map)).fetch_all
              spelled float_text mappings answers 0 (tracked_markets spelled market_map)).2,
              ∀ k, cat p.yes_market_id = some k → k.right = .call := by
            intro p hp
            obtain ⟨t, ht, heq⟩ := List.mem_map.mp (hsub.subset (List.mem_map.mpr ⟨p, hp, rfl⟩))
            rw [← heq]
            exact (htracked t ht).1
          refine List.nodup_flatMap.mpr
            ⟨fun p hp => conids_nodup (hmarkets p hp) (hcall p hp), ?_⟩
          -- what is published is of distinct YES contracts, and so of distinct Puts
          have hdistinct := List.pairwise_map.mp (hsub.nodup (sole_owners_nodup _))
          exact hdistinct.imp_of_mem fun hp hq hne =>
            conids_disjoint hone (hmarkets _ hp) (hmarkets _ hq) (hcall _ hp) (hcall _ hq) hne
  exact (hinv d hd).2

end keeps

/-- The answers of a cycle are true of the contracts. -/
def AnswersTruly (spelled : Json ℚ → String) (cat : Catalogue) : Step → Prop
  | .fetch_markets _ _ answers => ∀ id, Truthful spelled cat (answers id).gateway
  | .reactivate_conid _ => True

/-- A market whose YES contract is mapped, and not the NO. -/
def house : MarketMap := [("HOUSE", .obj [("forecastex", .str "101" none)])]

/-- Every contract is asked for at 45 cents. -/
def asked (gateway : Gateway) : Answers where
  now := 0
  gateway := gateway
  soft_block_until := 600
  yes_snapshots := (.answered (.obj [("86", .num 45)]), .raised)
  no_snapshots := fun _ => (.answered (.obj [("86", .num 45)]), .raised)

/-- One cycle with the house market. -/
def house_cycle (gateway : Gateway) : Step :=
  .fetch_markets house (fun _ => {}) fun _ => asked gateway

/-- What it publishes of contracts and asks. -/
def quoted (gateway : Gateway) : List (String × String × ℚ) :=
  ((house_cycle gateway).apply unspelled (fun _ => none) ⟨.fresh, []⟩).published.map fun p =>
    (p.yes_market_id, p.no_market_id, p.no_ask)

/-- Where February is listed only, the NO of February is quoted. -/
theorem one_maturity_is_quoted :
    OneMarketEach two_maturities
      ((house_cycle (gateway_with listed_once)).apply unspelled (fun _ => none)
        ⟨.fresh, []⟩).published ∧
      quoted (gateway_with listed_once) = [("101", "102", 45 / 100)] := by
  have htracked : tracked_markets unspelled house = [⟨"HOUSE", "101", ""⟩] := by decide +kernel
  have hone : ∀ a b k, two_maturities a = some k → two_maturities b = some k → a = b := by
    intro a b k ha hb
    unfold two_maturities at ha hb
    split at ha <;> cases ha <;> split at hb <;> first | rfl | simp at hb
  -- the first Put that is taken is 102, of February as its Call is
  have hlists : ListsTruly unspelled two_maturities (gateway_with listed_once) "101" := by
    refine ⟨listed_once_truthful, ?_⟩
    intro info before child after hinfo hchildren htakes hbefore k l hk hl
    cases hinfo
    have hfirst : ((resolve_event_children unspelled (gateway_with listed_once) "500").map
        fun children => (children.find? (takes "101" put_rights (some 3))).map
          fun child => Text.strip child.conid) = some (some "102") := by decide +kernel
    have hfind :
        (before ++ child :: after).find? (takes "101" put_rights (some 3)) = some child := by
      refine List.find?_eq_some_iff_append.mpr ⟨htakes, before, after, rfl, fun c hc => ?_⟩
      have hnot : takes "101" put_rights (some 3) c = false := hbefore c hc
      rw [hnot]
      rfl
    rw [show resolve_event_children unspelled (gateway_with listed_once) "500" = _ from hchildren,
      Option.map_some, hfind, Option.map_some, Option.some_inj, Option.some_inj] at hfirst
    rw [hfirst] at hl
    cases hk
    cases hl
    exact ⟨rfl, .inl rfl⟩
  refine ⟨conids_of_one_market (.step (.init rfl) (l := house_cycle (gateway_with listed_once))
    ⟨⟨hone, ?_⟩, rfl⟩), by decide +kernel⟩
  intro t ht
  rw [htracked] at ht
  obtain rfl := List.mem_singleton.mp ht
  exact ⟨fun k hk => by cases hk; rfl, fun _ => hlists⟩

/-- Where January is listed too, the NO of January is quoted against the YES of February. -/
theorem earlier_maturity_is_quoted :
    quoted (gateway_with listed_twice) = [("101", "202", 45 / 100)] ∧
      ¬ ∀ (spelled : Json ℚ → String) (float_text : String → Option ℚ) (cat : Catalogue)
          (d : Desk),
        Reachable ((quotes_system spelled float_text).restrict
          fun _ step => AnswersTruly spelled cat step) d → OneMarketEach cat d.published := by
  have hquoted : quoted (gateway_with listed_twice) = [("101", "202", 45 / 100)] := by
    decide +kernel
  refine ⟨hquoted, fun h => ?_⟩
  have hputs := (h unspelled (fun _ => none) two_maturities _
    (.step (.init rfl) (l := house_cycle (gateway_with listed_twice))
      ⟨fun _ => listed_twice_truthful, rfl⟩)).puts
  have hmem : ("101", "202", (45 / 100 : ℚ)) ∈ quoted (gateway_with listed_twice) := by
    rw [hquoted]
    exact List.mem_cons_self
  obtain ⟨p, hp, heq⟩ := List.mem_map.mp hmem
  obtain ⟨hyes, hno, hask⟩ : p.yes_market_id = "101" ∧ p.no_market_id = "202" ∧
      p.no_ask = 45 / 100 := by simpa using heq
  obtain ⟨k, l, hk, hl, -, -, -, hmaturity⟩ :=
    hputs p hp (.inr (by rw [hask]; norm_num))
  rw [hyes] at hk
  rw [hno] at hl
  cases hk
  cases hl
  exact absurd hmaturity (by decide)

end ForecastexQuotes
