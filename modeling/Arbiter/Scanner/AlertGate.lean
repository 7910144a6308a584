import Arbiter.Scanner.Scan

/-! # The Alert Gate

  What the scanner publishes goes through `alert_opportunity` before the executor sees it. The
  gate repeats the checks of the scanner, and adds its own: a floor on prices, limits on age,
  confidence and edge, an estimate of the fees, and an outcome that has a name of its own.

  The scanner takes the name of an outcome from what the collector of a venue tells; a venue
  that tells none has none.

  ## Contents

  - Section 1: names of outcomes.
  - Section 2: the gate.
  - Section 3: the queue, and what was handled when.
  - Section 4: keys.
  - Section 5: what is published reaches the queue.
-/

namespace Scanner

open LTS
open Execution (OppStatus Side)

/-! ## Section 1: Names of outcomes -/

/-- What a collector tells of a market, as far as names go. An absent text is empty. -/
structure Metadata where
  market_title : String
  yes_sub_title : String
  no_sub_title : String
  question : String

/-- `extract_outcome_metadata`, of a quote on `platform`: the outcome's name and the question. -/
def extract_outcome_metadata (platform : String) (md : Metadata) (side : Side) : String × String :=
  if platform = "kalshi" then
    let outcome := Text.strip (match side with
      | .yes => md.yes_sub_title
      | .no => md.no_sub_title)
    let question := Text.strip md.market_title
    (or_text outcome question, question)
  else if platform = "polymarket" then
    let question := Text.strip md.question
    (question, question)
  -- no names are known of any other venue
  else ("", "")

/-- An opportunity with the names of its outcomes. -/
structure Detection extends ArbitrageOpportunity where
  yes_outcome_name : String
  no_outcome_name : String
  deriving DecidableEq

/-- The opportunity as the scanner names it. -/
def detection (opp : ArbitrageOpportunity) (yes no : Metadata) : Detection :=
  { opp with
    yes_outcome_name := (extract_outcome_metadata opp.yes_platform yes .yes).1
    no_outcome_name := (extract_outcome_metadata opp.no_platform no .no).1 }

/-- `AlertConfig`, with `ALERT_FEE_RATE_FALLBACK` and two tables of Unicode: the lower case of a
    text, and what is in a word, which is what `\w` matches but for the underscore. -/
structure AlertConfig where
  cooldown : ℚ
  fee_rate_kalshi : ℚ
  fee_rate_polymarket : ℚ
  fee_rate_forecastex : ℚ
  lower : String → String
  word : Char → Bool

/-- `_normalize_for_compare`: in lower case, the words with a blank between them. -/
def normalize_for_compare (cfg : AlertConfig) (text : String) : String :=
  let runs := (cfg.lower text).toList.splitOnP fun c => !cfg.word c
  " ".intercalate ((runs.filter (· ≠ [])).map String.ofList)

/-- `_alert_outcome_is_specific`: a name of a leg is neither empty nor the description. -/
def alert_outcome_is_specific (cfg : AlertConfig) (d : Detection) : Bool :=
  let description_norm := normalize_for_compare cfg d.description
  let specific (name : String) : Bool :=
    let norm := normalize_for_compare cfg name
    decide (norm ≠ "") && decide (norm ≠ description_norm)
  specific d.yes_outcome_name || specific d.no_outcome_name

/-! ## Section 2: The gate -/

/-- `ALERT_FEE_RATE_FALLBACK.get(platform, 0.07)`. -/
def AlertConfig.fallback (cfg : AlertConfig) (platform : String) : ℚ :=
  if platform = "kalshi" then cfg.fee_rate_kalshi
  else if platform = "polymarket" then cfg.fee_rate_polymarket
  else if platform = "forecastex" then cfg.fee_rate_forecastex
  else 7 / 100

/-- `_venue_fee_rate`: the rate that is attached, but no lower than the fallback. -/
def venue_fee_rate (cfg : AlertConfig) (platform : String) (attached : Option ℚ≥0) : ℚ :=
  max (attached.getD 0) (cfg.fallback (cfg.lower platform))

/-- `_estimated_net_edge_after_fees_usd`. -/
def estimated_net_edge_after_fees_usd (cfg : AlertConfig) (opp : ArbitrageOpportunity) : ℚ :=
  let gross_per_contract : ℚ := 1 - opp.yes_price - opp.no_price
  let yes_fee := opp.yes_price * venue_fee_rate cfg opp.yes_platform opp.yes_fee_rate
  let no_fee := opp.no_price * venue_fee_rate cfg opp.no_platform opp.no_fee_rate
  (gross_per_contract - yes_fee - no_fee) * opp.suggested_qty

/-- `ALERT_MIN_PRICE`. -/
def alert_min_price : ℚ≥0 := 5 / 100

/-- `ALERT_MIN_NET_EDGE_CENTS`. -/
def alert_min_net_edge_cents : ℚ := 3

/-- `ALERT_MAX_QUOTE_AGE_SECONDS`. -/
def alert_max_quote_age_seconds : ℚ≥0 := 30

/-- `ALERT_MIN_CONFIDENCE`. -/
def alert_min_confidence : ℚ := 1 / 2

/-- The age of a leg's quote; the opportunity's where none is attached. -/
def leg_age (age quote_age_seconds : ℚ≥0) : ℚ≥0 := if age = 0 then quote_age_seconds else age

/-- `_alert_is_safe_to_send`. -/
def alert_is_safe_to_send (cfg : AlertConfig) (d : Detection) : Bool :=
  if d.mapping_status ≠ "confirmed" then false
  else if ¬ (d.status = .tradable ∨ d.status = .manual) then false
  else if d.yes_price < alert_min_price ∨ d.no_price < alert_min_price then false
  else if 1 ≤ d.yes_price + d.no_price then false
  else if d.net_edge_cents < alert_min_net_edge_cents then false
  else if alert_max_quote_age_seconds < leg_age d.yes_quote_age_seconds d.quote_age_seconds ∨
      alert_max_quote_age_seconds < leg_age d.no_quote_age_seconds d.quote_age_seconds then false
  else if d.confidence < alert_min_confidence then false
  else if d.suggested_qty = 0 then false
  else if d.max_profit_usd ≤ 0 then false
  -- the fees are estimated anew, the scanner's are not trusted
  else if estimated_net_edge_after_fees_usd cfg d.toArbitrageOpportunity ≤ 0 then false
  else alert_outcome_is_specific cfg d

/-! ## Section 3: The queue -/

/-- The market and the venues of an opportunity. -/
structure Pair where
  canonical_id : String
  yes_platform : String
  no_platform : String
  deriving DecidableEq

def Detection.pair (d : Detection) : Pair := ⟨d.canonical_id, d.yes_platform, d.no_platform⟩

/-- The key of an opportunity among the times of the last alerts. -/
def Pair.key (p : Pair) : String :=
  "arb_" ++ p.canonical_id ++ "_" ++ p.yes_platform ++ "_" ++ p.no_platform

/-- The monitor. An absent entry of a dictionary is zero. -/
structure MonitorState where
  last_alert_time : String → ℚ
  /-- `_approved_opportunities`: all that was put there, newest first. -/
  approved : List Detection
  /-- Ghost: when an opportunity of the pair was last handled. -/
  last_handled : Pair → ℚ

/-- `alert_opportunity`. What becomes of the request to an operator changes nothing here. -/
def alert_opportunity (cfg : AlertConfig) (now : ℚ) (d : Detection) (s : MonitorState) :
    MonitorState :=
  if alert_is_safe_to_send cfg d = false then s
  else if now - s.last_alert_time d.pair.key < cfg.cooldown then s
  else
    let s : MonitorState :=
      { s with
        last_alert_time := Function.update s.last_alert_time d.pair.key now
        last_handled := Function.update s.last_handled d.pair now }
    if d.requires_manual ∨ d.status = .manual then s
    else { s with approved := d :: s.approved }

/-- The warning of a low balance shares the dictionary. -/
def check_low_balance (cfg : AlertConfig) (now : ℚ) (platform : String) (s : MonitorState) :
    MonitorState :=
  if now - s.last_alert_time ("balance_" ++ platform) < cfg.cooldown then s
  else
    { s with last_alert_time := Function.update s.last_alert_time ("balance_" ++ platform) now }

/-- What the monitor is asked to do. -/
inductive Alert
  | opportunity (d : Detection)
  | low_balance (platform : String)

/-- The three venues. -/
def venues : List String := ["kalshi", "polymarket", "forecastex"]

/-- The opportunity is one between two of the venues. -/
def Pair.OnVenues (p : Pair) : Prop := p.yes_platform ∈ venues ∧ p.no_platform ∈ venues

/-- The monitor starts with nothing handled; it is asked at any time. -/
def monitor (cfg : AlertConfig) : System MonitorState (ℚ × Alert) where
  init := fun s => s = ⟨fun _ => 0, [], fun _ => 0⟩
  step := fun s l s' =>
    match l with
    | (now, .opportunity d) => d.pair.OnVenues ∧ s' = alert_opportunity cfg now d s
    | (now, .low_balance platform) => s' = check_low_balance cfg now platform s

/-! ## Section 4: Keys -/

/-- No venue has the separator in its name. -/
theorem venues_plain : ∀ platform ∈ venues, '_' ∉ platform.toList := by decide

/-- Pairs on the venues have keys of their own. -/
theorem key_injective {p q : Pair} (hp : p.OnVenues) (hq : q.OnVenues) (h : p.key = q.key) :
    p = q := by
  -- the last two parts are venues
  obtain ⟨hfront, hno⟩ := Text.append_sep_inj rfl (venues_plain _ hp.2) (venues_plain _ hq.2) h
  obtain ⟨hid, hyes⟩ := Text.append_sep_inj rfl (venues_plain _ hp.1) (venues_plain _ hq.1) hfront
  have hmarket := (String.append_right_inj _).mp hid
  cases p
  cases q
  rw [Pair.mk.injEq]
  exact ⟨hmarket, hyes, hno⟩

/-- The key of a warning is none of theirs. -/
theorem balance_key_ne (platform : String) (p : Pair) : "balance_" ++ platform ≠ p.key := by
  intro h
  have hhead := congrArg (fun s : String => s.toList.head?) h
  simp [Pair.key] at hhead

/-- The dictionary has, under the key of a pair, when the pair was last handled. -/
def MonitorState.Timed (s : MonitorState) : Prop :=
  ∀ p : Pair, p.OnVenues → s.last_alert_time p.key = s.last_handled p

/-- Handling a pair changes the entry of no other. -/
theorem MonitorState.Timed.opportunity {cfg : AlertConfig} {now : ℚ} {d : Detection}
    {s : MonitorState} (hs : s.Timed) (hd : d.pair.OnVenues) : (alert_opportunity cfg now d s).Timed := by
  have hupdated : ∀ p : Pair, p.OnVenues →
      Function.update s.last_alert_time d.pair.key now p.key =
        Function.update s.last_handled d.pair now p := by
    intro p hp
    by_cases hsame : p = d.pair
    · rw [hsame, Function.update_self, Function.update_self]
    · have hkey : p.key ≠ d.pair.key := fun h => hsame (key_injective hp hd h)
      rw [Function.update_of_ne hkey, Function.update_of_ne hsame]
      exact hs p hp
  unfold alert_opportunity
  split
  · exact hs
  split
  · exact hs
  dsimp only
  split <;> exact hupdated

theorem MonitorState.Timed.low_balance {cfg : AlertConfig} {now : ℚ} {platform : String}
    {s : MonitorState} (hs : s.Timed) : (check_low_balance cfg now platform s).Timed := by
  unfold check_low_balance
  split
  · exact hs
  · intro p hp
    show Function.update s.last_alert_time ("balance_" ++ platform) now p.key = s.last_handled p
    rw [Function.update_of_ne (balance_key_ne platform p).symm]
    exact hs p hp

/-- At any time the dictionary has when each pair was last handled. -/
theorem monitor_timed (cfg : AlertConfig) : Invariant (monitor cfg) MonitorState.Timed := by
  apply Invariant.of_step
  · intro s hinit
    obtain rfl : s = ⟨fun _ => 0, [], fun _ => 0⟩ := hinit
    intro p _
    rfl
  · intro s l s' hs hstep
    obtain ⟨now, alert⟩ := l
    cases alert with
    | opportunity d =>
      obtain ⟨hd, rfl⟩ := hstep
      exact MonitorState.Timed.opportunity hs hd
    | low_balance platform =>
      obtain rfl : s' = check_low_balance cfg now platform s := hstep
      exact MonitorState.Timed.low_balance hs

/-! ## Section 5: What is published reaches the queue -/

/-- The limits that are the gate's own: its floor on prices, its limits on age, confidence and
    edge, and a profit under its own estimate of the fees. -/
structure WithinLimits (cfg : AlertConfig) (opp : ArbitrageOpportunity) : Prop where
  yes_price : alert_min_price ≤ opp.yes_price
  no_price : alert_min_price ≤ opp.no_price
  yes_age : leg_age opp.yes_quote_age_seconds opp.quote_age_seconds ≤ alert_max_quote_age_seconds
  no_age : leg_age opp.no_quote_age_seconds opp.quote_age_seconds ≤ alert_max_quote_age_seconds
  confidence : alert_min_confidence ≤ opp.confidence
  net_edge : alert_min_net_edge_cents ≤ opp.net_edge_cents
  profit : 0 < estimated_net_edge_after_fees_usd cfg opp

/-- What the scanner sees to of a tradable opportunity. -/
structure Published (opp : ArbitrageOpportunity) : Prop where
  confirmed : opp.mapping_status = "confirmed"
  tradable : opp.status = .tradable
  automatic : opp.requires_manual = false
  below_a_dollar : opp.yes_price + opp.no_price < 1
  sized : opp.suggested_qty ≠ 0
  max_profit : opp.max_profit_usd =
    Decimal.round_to 4 (opp.net_edge_cents / 100 * opp.suggested_qty)

theorem ComesFrom.published {cfg : ScannerConfig} {markets : List Market}
    {opp : ArbitrageOpportunity} (h : ComesFrom cfg markets opp)
    (htradable : opp.status = .tradable) : Published opp := by
  obtain ⟨m, -, yes, -, no, -, -, built, count, hbuilt, rfl⟩ := h
  obtain ⟨hb, rfl⟩ := build_eq_some_iff.1 hbuilt
  have hpassed := resolve_status_eq_tradable_iff.1 htradable
  have hgross := hb.gross
  have hsum : ((yes.yes_ask + no.no_ask : ℚ≥0) : ℚ) < 1 := by
    unfold gross_edge at hgross
    push_cast
    linarith
  exact
    { confirmed := hpassed.confirmed
      tradable := htradable
      automatic := rfl
      below_a_dollar := by exact_mod_cast hsum
      sized := hb.qty
      max_profit := by
        show Decimal.round_to 4 _ = Decimal.round_to 4 (_ * 100 / 100 * _)
        rw [mul_div_cancel_right₀ _ (by norm_num)]
        rfl }

/-- An edge within the limits is a profit that survives the rounding. -/
theorem Published.profitable {opp : ArbitrageOpportunity} (h : Published opp)
    (hedge : alert_min_net_edge_cents ≤ opp.net_edge_cents) : 0 < opp.max_profit_usd := by
  have hqty : (1 : ℚ) ≤ opp.suggested_qty := by exact_mod_cast Nat.one_le_iff_ne_zero.2 h.sized
  have hprofit : 3 / 100 ≤ opp.net_edge_cents / 100 * opp.suggested_qty := by
    have hcents : (3 : ℚ) ≤ opp.net_edge_cents := hedge
    nlinarith
  have hround := (abs_le.1 (Decimal.abs_round_to_sub_le 4
    (opp.net_edge_cents / 100 * opp.suggested_qty))).1
  rw [h.max_profit]
  norm_num at hround
  linarith

/-- Within the limits, the gate turns on the names alone. -/
theorem Published.safe_iff {cfg : AlertConfig} {opp : ArbitrageOpportunity} (h : Published opp)
    (hlimits : WithinLimits cfg opp) (yes no : Metadata) :
    alert_is_safe_to_send cfg (detection opp yes no) =
      alert_outcome_is_specific cfg (detection opp yes no) := by
  have hprofitable := h.profitable hlimits.net_edge
  obtain ⟨d, hd⟩ : ∃ d, d = detection opp yes no := ⟨_, rfl⟩
  have hopp : d.toArbitrageOpportunity = opp := by rw [hd]; rfl
  rw [← hd]
  subst hopp
  unfold alert_is_safe_to_send
  rw [if_neg (not_not.2 h.confirmed), if_neg (not_not.2 (.inl h.tradable))]
  rw [if_neg (not_or.2 ⟨not_lt.2 hlimits.yes_price, not_lt.2 hlimits.no_price⟩)]
  rw [if_neg (not_le.2 h.below_a_dollar), if_neg (not_lt.2 hlimits.net_edge)]
  rw [if_neg (not_or.2 ⟨not_lt.2 hlimits.yes_age, not_lt.2 hlimits.no_age⟩)]
  rw [if_neg (not_lt.2 hlimits.confidence), if_neg h.sized]
  rw [if_neg (not_le.2 hprofitable)]
  exact if_neg (not_le.2 hlimits.profit)

/-- What the gate lets through is queued once the cooldown of its pair is over. -/
theorem queued_iff {cfg : AlertConfig} {now : ℚ} {d : Detection} {s : MonitorState}
    (hs : s.Timed) (hd : d.pair.OnVenues) (hauto : d.requires_manual = false)
    (hstatus : d.status = .tradable) :
    (alert_opportunity cfg now d s).approved = d :: s.approved ↔
      alert_is_safe_to_send cfg d = true ∧ cfg.cooldown ≤ now - s.last_handled d.pair := by
  have hlonger : s.approved ≠ d :: s.approved := fun h => by
    have hlength := congrArg List.length h
    simp at hlength
  have hmanual : ¬ (d.requires_manual = true ∨ d.status = .manual) := by
    rw [hauto, hstatus]
    decide
  unfold alert_opportunity
  by_cases hsafe : alert_is_safe_to_send cfg d = false
  · rw [if_pos hsafe, hsafe]
    simp [hlonger]
  · rw [Bool.not_eq_false] at hsafe
    rw [if_neg (by simp [hsafe]), hs _ hd]
    by_cases hcool : now - s.last_handled d.pair < cfg.cooldown
    · rw [if_pos hcool]
      simp [hlonger, hcool]
    · rw [if_neg hcool]
      dsimp only
      rw [if_neg hmanual]
      exact ⟨fun _ => ⟨hsafe, not_lt.1 hcool⟩, fun _ => rfl⟩

/-- **What is published reaches the queue, if its outcome has a name.** Let a run of scans have
    published a tradable opportunity between two venues, within the limits of the gate. In every
    state of the monitor it is put on the queue if and only if one of its outcomes has a name
    that is neither empty nor the description, and its pair was not handled within the
    cooldown. -/
theorem published_reaches_queue_iff {scfg : ScannerConfig} {s s' : ScannerState}
    {scans : List (List Market)} {opp : ArbitrageOpportunity} {cfg : AlertConfig}
    {m : MonitorState} (hinit : (scanner scfg).init s) (hrun : Steps (scanner scfg) s scans s')
    (hpub : opp ∈ s'.published) (htradable : opp.status = .tradable) (yes no : Metadata)
    (hvenues : (detection opp yes no).pair.OnVenues) (hlimits : WithinLimits cfg opp)
    (hreach : Reachable (monitor cfg) m) (now : ℚ) :
    (alert_opportunity cfg now (detection opp yes no) m).approved =
        detection opp yes no :: m.approved ↔
      alert_outcome_is_specific cfg (detection opp yes no) = true ∧
        cfg.cooldown ≤ now - m.last_handled (detection opp yes no).pair := by
  have hpublished : Published opp := by
    rcases published_from hrun opp hpub with hold | ⟨markets, -, hfrom⟩
    · rw [show s = ⟨fun _ => 0, fun _ => 0, [], []⟩ from hinit] at hold
      cases hold
    · exact hfrom.published htradable
  rw [queued_iff (monitor_timed cfg m hreach) hvenues hpublished.automatic htradable]
  rw [hpublished.safe_iff hlimits]

/-! ### Two venues that tell no names -/

/-- The limits as they come. Characters of words are those of ASCII. -/
def alert_config : AlertConfig where
  cooldown := 300
  fee_rate_kalshi := 7 / 100
  fee_rate_polymarket := 5 / 100
  fee_rate_forecastex := 3 / 100
  lower := String.toLower
  word := Char.isAlphanum

/-- Nothing is told. -/
def untold : Metadata := ⟨"", "", "", ""⟩

/-- The outcome is told, as Kalshi tells it. -/
def told : Metadata := { untold with yes_sub_title := "Democratic party" }

/-- `published_reaches_queue_iff` of `house_opportunity`, with a name on the leg at Kalshi. -/
theorem published_reaches_queue_house :
    (alert_opportunity alert_config 1000 (detection house_opportunity told untold)
        ⟨fun _ => 0, [], fun _ => 0⟩).approved = [detection house_opportunity told untold] ↔
      alert_outcome_is_specific alert_config (detection house_opportunity told untold) = true ∧
        (300 : ℚ) ≤ 1000 - 0 := by
  have hrun : Steps (scanner one_scan_config) ⟨fun _ => 0, fun _ => 0, [], []⟩ [[house_market]]
      (scan_once one_scan_config [house_market] ⟨fun _ => 0, fun _ => 0, [], []⟩) :=
    .cons rfl (.nil _)
  have hlimits : WithinLimits alert_config house_opportunity := by
    constructor <;> decide +kernel
  exact published_reaches_queue_iff rfl hrun (by decide +kernel) (by decide +kernel) told untold
    ⟨by decide, by decide⟩ hlimits (.init rfl) 1000

/-- YES at 40 cents on ForecastEx. -/
def forecastex_quote : PricePoint where
  platform := "forecastex"
  yes_price := 4 / 10
  no_price := 6 / 10
  yes_volume := 40
  no_volume := 40
  age_seconds := 1
  raw_market_id := "701234567"
  yes_market_id := "701234567"
  no_market_id := "701234568"
  yes_bid := 39 / 100
  yes_ask := 4 / 10
  no_bid := 6 / 10
  no_ask := 61 / 100
  fee_rate := some (5 / 1000)

/-- The market of `house_market`, at ForecastEx and Polymarket. -/
def forecastex_market : Market where
  canonical_id := "HOUSE_2026"
  mapping := confirmed_mapping
  prices := [forecastex_quote, polymarket_quote (some (4 / 100))]
  distinct := by decide
  balances := fun _ _ => .told fun platform => if platform = "forecastex" then some 100 else some 60
  now := fun _ _ => 1000

/-- Forty contracts. -/
def forecastex_opportunity : ArbitrageOpportunity :=
  resolved one_scan_config confirmed_mapping 1
    (opportunity_at one_scan_config 1000 forecastex_market.listing forecastex_quote
      (polymarket_quote (some (4 / 100))) 40)

/-- It is published as tradable, is within the limits, and no pair was handled; the collectors
    of its venues tell no names, and it is dropped. -/
theorem nameless_opportunity_dropped :
    ¬ ∀ (scfg : ScannerConfig) (s s' : ScannerState) (scans : List (List Market))
      (opp : ArbitrageOpportunity) (cfg : AlertConfig) (m : MonitorState) (yes no : Metadata)
      (now : ℚ), (scanner scfg).init s → Steps (scanner scfg) s scans s' → opp ∈ s'.published →
      opp.status = .tradable → (detection opp yes no).pair.OnVenues → WithinLimits cfg opp →
      Reachable (monitor cfg) m → cfg.cooldown ≤ now - m.last_handled (detection opp yes no).pair →
      (alert_opportunity cfg now (detection opp yes no) m).approved =
        detection opp yes no :: m.approved := by
  intro hclaim
  have hrun : Steps (scanner one_scan_config) ⟨fun _ => 0, fun _ => 0, [], []⟩
      [[forecastex_market]]
      (scan_once one_scan_config [forecastex_market] ⟨fun _ => 0, fun _ => 0, [], []⟩) :=
    .cons rfl (.nil _)
  have hlimits : WithinLimits alert_config forecastex_opportunity := by
    constructor <;> decide +kernel
  have hqueued := hclaim one_scan_config ⟨fun _ => 0, fun _ => 0, [], []⟩ _ _
    forecastex_opportunity alert_config ⟨fun _ => 0, [], fun _ => 0⟩ untold untold 1000 rfl hrun
    (by decide +kernel) (by decide +kernel) ⟨by decide, by decide⟩ hlimits (.init rfl)
    (by decide +kernel)
  have hunsafe : alert_is_safe_to_send alert_config
      (detection forecastex_opportunity untold untold) = false := by decide +kernel
  rw [alert_opportunity, if_pos hunsafe] at hqueued
  cases hqueued

end Scanner
