import Mathlib.Data.List.AList
import Arbiter.Safety.Profitability

/-! # Operational Readiness

  `OperationalReadiness`: the checks of a refresh, the view of it by venue and by pair of
  venues, and `allow_execution`, the gate of live orders. A check that blocks may be
  narrowed to the venues it is about. The view and the gate do that by different routes.

  ## Contents

  - Section 1: what is read.
  - Section 2: the checks.
  - Section 3: scopes, and the view by venue.
  - Section 4: the gate.

  Of the details of a check only those that a scope is read from are kept. The entries of
  the view are under their pair, the source spells it `left:right`.
-/

namespace Readiness

open Execution Profitability

/-! ## Section 1: What is read -/

/-- The state of a circuit breaker. -/
inductive CircuitState
  | closed
  | opened
  | half_open
  deriving DecidableEq

/-- A collector, with the circuits it has. -/
structure Collector where
  total_fetches : ℤ := 0
  consecutive_errors : ℤ := 0
  circuit : Option CircuitState := none
  circuit_gamma : Option CircuitState := none
  circuit_clob : Option CircuitState := none
  /-- `auth.is_authenticated`. -/
  is_authenticated : Bool := false
  deriving DecidableEq

/-- A balance that was observed. -/
structure BalanceSnapshot where
  balance : ℚ
  is_low : Bool
  deriving DecidableEq

/-- The settings of Polymarket, by variant. -/
inductive PolymarketSettings
  | us (api_key_id api_secret : String)
  | legacy (private_key : String)

/-- The report of the reconciler: whether it has flags, and the balances of its entries. -/
structure ReconciliationReport where
  has_flags : Bool
  platform_balances : List ℚ

/-- The quotes of the price store: platform and timestamp. -/
structure Quotes where
  ttl : ℚ
  points : List (String × ℚ)

/-- Everything the gate reads. -/
structure Runtime where
  dry_run : Bool
  /-- The confirmed mappings with auto-trade. -/
  auto_trade_mappings : List String
  kalshi_api_key_id : String
  kalshi_private_key_path : String
  polymarket : PolymarketSettings
  telegram_bot_token : String
  telegram_chat_id : String
  /-- `PHASE5_BOOTSTRAP_TRADES`, when it is set to a number. -/
  bootstrap_trades : Option ℤ
  profitability : Option ProfitabilitySnapshot
  /-- `engine.incidents`, the newest first. -/
  incidents : List ExecutionIncident
  balances : AList fun _ : String => BalanceSnapshot
  collectors : AList fun _ : String => Collector
  price_store : Option Quotes
  /-- The reconciler's latest report, where there is a reconciler. -/
  reconciler : Option (Option ReconciliationReport)
  now : ℚ

/-! ## Section 2: The checks -/

/-- `key` of a check. -/
inductive CheckKey
  | auto_trade_mappings
  | platform_credentials
  | alerting
  | profitability
  | incidents
  | balances
  | collectors
  | quote_freshness
  | reconciliation
  deriving DecidableEq

/-- `status` of a check. -/
inductive CheckStatus
  | pass
  | warning
  | manual
  | fail
  deriving DecidableEq

/-- The details a scope is read from. -/
inductive Details
  | other
  /-- Every venue, and whether its balance is low. -/
  | balances (is_low : List (String × Bool))
  | critical_incidents (first : List ExecutionIncident)

/-- `ReadinessCheck`. -/
structure ReadinessCheck where
  key : CheckKey
  status : CheckStatus
  summary : String
  blocking : Bool
  details : Details := .other

/-- The check stands in the way. -/
def ReadinessCheck.blocks (c : ReadinessCheck) : Bool := c.blocking && c.status ≠ .pass

/-- `", ".join(sorted(names))`. -/
def sorted_names (names : List String) : String :=
  ", ".intercalate (names.insertionSort (· ≤ ·))

/-- A circuit of the collector is open, or it has failed five times in a row. -/
def Collector.failing (c : Collector) : Bool :=
  [c.circuit, c.circuit_gamma, c.circuit_clob].contains (some .opened) || 5 ≤ c.consecutive_errors

/-- The collector has fetched nothing yet. -/
def Collector.warming_up (c : Collector) : Bool := c.total_fetches ≤ 0

namespace Runtime

variable (r : Runtime)

/-- `_check_auto_trade_mappings`. -/
def check_auto_trade_mappings : ReadinessCheck :=
  if r.auto_trade_mappings ≠ [] then
    { key := .auto_trade_mappings
      status := .pass
      summary := toString r.auto_trade_mappings.length ++ " confirmed auto-trade mappings enabled"
      blocking := true }
  else
    { key := .auto_trade_mappings
      status := .fail
      summary := "No confirmed auto-trade mappings are enabled"
      blocking := true }

/-- Kalshi can be traded at: its collector is logged in, or the key is configured. -/
def kalshi_ready : Bool :=
  (r.collectors.lookup "kalshi").any (·.is_authenticated) ||
    (r.kalshi_api_key_id ≠ "" && r.kalshi_private_key_path ≠ "")

/-- `_polymarket_credentials_state`: whether they are there, and the venue's name. -/
def polymarket_credentials_state : Bool × String :=
  match r.polymarket with
  | .us api_key_id api_secret => (api_key_id ≠ "" && api_secret ≠ "", "Polymarket US")
  | .legacy private_key => (private_key ≠ "", "Polymarket")

/-- `_check_platform_credentials`. -/
def check_platform_credentials : ReadinessCheck :=
  let polymarket := r.polymarket_credentials_state
  if r.kalshi_ready && polymarket.1 then
    { key := .platform_credentials
      status := .pass
      summary := "Live venue credentials are configured"
      blocking := true }
  else
    let missing := (if r.kalshi_ready then [] else ["Kalshi"]) ++
      (if polymarket.1 then [] else [polymarket.2])
    { key := .platform_credentials
      status := .fail
      summary := "Missing live venue credentials: " ++ ", ".intercalate missing
      blocking := true }

/-- `_check_alerting`. -/
def check_alerting : ReadinessCheck :=
  if r.telegram_bot_token ≠ "" && r.telegram_chat_id ≠ "" then
    { key := .alerting
      status := .pass
      summary := "Telegram alerting is configured"
      blocking := true }
  else
    { key := .alerting
      status := .warning
      summary := "Telegram alerting is not configured yet"
      blocking := true }

/-- The trades the bootstrap window has left, when it is open. -/
def bootstrap_remaining (s : ProfitabilitySnapshot) : Option ℤ :=
  r.bootstrap_trades.bind fun bootstrap_limit =>
    if s.verdict = .collecting_evidence ∧ 1 ≤ bootstrap_limit ∧ bootstrap_limit ≤ 500 ∧
        s.completed_executions < bootstrap_limit then
      some (bootstrap_limit - s.completed_executions)
    else none

/-- `_check_profitability`. -/
def check_profitability : ReadinessCheck :=
  match r.profitability with
  | none =>
      { key := .profitability
        status := .fail
        summary := "Profitability validator is unavailable"
        blocking := true }
  | some s =>
      match r.bootstrap_remaining s with
      | some remaining =>
          { key := .profitability
            status := .pass
            summary := "Phase 5 bootstrap: " ++ toString remaining ++
              " trade(s) remaining before profitability gate re-engages"
            blocking := false }
      | none =>
          match s.verdict with
          | .validated_profitable =>
              { key := .profitability
                status := .pass
                summary := "Profitability gate is validated"
                blocking := true }
          | .collecting_evidence =>
              { key := .profitability
                status := .warning
                summary := "Profitability is still collecting evidence (collecting_evidence)"
                blocking := true }
          | verdict =>
              { key := .profitability
                status := .fail
                summary := "Profitability verdict is " ++ verdict.value
                blocking := true }

/-- `_check_incidents`: its details have the first five critical ones. -/
def check_incidents : ReadinessCheck :=
  let open_incidents := r.incidents.filter fun i => i.status ≠ .resolved
  let critical := r.incidents.filter (·.open_critical)
  if critical ≠ [] then
    { key := .incidents
      status := .fail
      summary := toString (effective_critical_incident_count critical) ++
        " critical incidents remain unresolved"
      blocking := true
      details := .critical_incidents (critical.take 5) }
  else if open_incidents ≠ [] then
    { key := .incidents
      status := .warning
      summary := toString open_incidents.length ++ " non-critical incidents are still open"
      blocking := false }
  else
    { key := .incidents
      status := .pass
      summary := "No open incidents are blocking execution"
      blocking := true }

/-- The venues with a low balance. -/
def low_balances : List String := (r.balances.entries.filter (·.2.is_low)).map (·.1)

/-- `_check_balances`. -/
def check_balances : ReadinessCheck :=
  let details := Details.balances (r.balances.entries.map fun entry => (entry.1, entry.2.is_low))
  if r.balances.entries = [] then
    { key := .balances
      status := .warning
      summary := "Venue balances have not been observed yet"
      blocking := true }
  else if r.low_balances ≠ [] then
    { key := .balances
      status := .fail
      summary := "Low balances detected on " ++ sorted_names r.low_balances
      blocking := true
      details }
  else
    { key := .balances
      status := .pass
      summary := "Venue balances are above configured thresholds"
      blocking := true
      details }

/-- The names of the collectors that meet `p`. -/
def collectors_that (p : Collector → Bool) : List String :=
  (r.collectors.entries.filter fun entry => p entry.2).map (·.1)

/-- `_check_collectors`: failing ones, else those that warm up. -/
def check_collectors : ReadinessCheck :=
  let failures := r.collectors_that (·.failing)
  let warming_up := r.collectors_that (·.warming_up)
  if r.collectors.entries = [] then
    { key := .collectors
      status := .warning
      summary := "Collector telemetry is unavailable"
      blocking := true }
  else if failures ≠ [] then
    { key := .collectors
      status := .fail
      summary := "Collector health is degraded: " ++ sorted_names failures
      blocking := true }
  else if warming_up ≠ [] then
    { key := .collectors
      status := .warning
      summary := "Collectors are still warming up: " ++ sorted_names warming_up
      blocking := true }
  else
    { key := .collectors
      status := .pass
      summary := "Collectors are publishing healthy live data"
      blocking := true }

/-- `_check_quote_freshness`: it never blocks. -/
def check_quote_freshness : ReadinessCheck :=
  match r.price_store with
  | none =>
      { key := .quote_freshness
        status := .manual
        summary := "Quote-freshness telemetry is unavailable"
        blocking := false }
  | some quotes =>
      let fresh := fun platform =>
        quotes.points.any fun point => point.1 = platform && r.now - point.2 < quotes.ttl
      -- enabled are the platforms with a collector
      let silent := r.collectors.keys.filter fun platform => !fresh platform
      if r.collectors.entries = [] then
        { key := .quote_freshness
          status := .manual
          summary := "Quote-freshness telemetry is unavailable"
          blocking := false }
      else if silent ≠ [] then
        { key := .quote_freshness
          status := .warning
          summary := "Enabled platforms with no fresh quotes: " ++ sorted_names silent
          blocking := false }
      else
        { key := .quote_freshness
          status := .pass
          summary := "All enabled platforms are publishing fresh quotes"
          blocking := false }

/-- `_check_reconciliation`: flags block, unless no balance could be fetched. -/
def check_reconciliation : ReadinessCheck :=
  match r.reconciler with
  | none =>
      { key := .reconciliation
        status := .manual
        summary := "PnL reconciliation is not wired into the runtime yet"
        blocking := false }
  | some none =>
      { key := .reconciliation
        status := .warning
        summary := "PnL reconciliation has not produced a report yet"
        blocking := false }
  | some (some report) =>
      -- balances that are all zero were not fetched
      let all_zero := !report.platform_balances.isEmpty && report.platform_balances.all (· = 0)
      if report.has_flags then
        { key := .reconciliation
          status := if all_zero then .warning else .fail
          summary := if all_zero then "PnL reconciliation: balance fetch unavailable"
            else "PnL reconciliation drift is flagged"
          blocking := !all_zero }
      else
        { key := .reconciliation
          status := .pass
          summary := "PnL reconciliation shows no drift"
          blocking := false }

/-- The checks of a refresh, in order. -/
def checks : List ReadinessCheck :=
  [r.check_auto_trade_mappings, r.check_platform_credentials, r.check_alerting,
    r.check_profitability, r.check_incidents, r.check_balances, r.check_collectors,
    r.check_quote_freshness, r.check_reconciliation]

end Runtime

/-! ## Section 3: The view by venue -/

/-- The venues a summary names: what is between commas after its last colon. -/
def names_in (summary : String) : List String :=
  let after := ((summary.toList.splitOn ':').getLast?).getD []
  ((after.splitOn ',').map fun name => (Text.strip (String.ofList name)).toLower).filter (· ≠ "")

/-- `_platform_scope_for_check`: the venues a check is about, `none` when it is about all. -/
def platform_scope_for_check (c : ReadinessCheck) : Option (List String) :=
  match c.key, c.details with
  | .collectors, _ => some (names_in c.summary)
  | .balances, .balances is_low =>
      let low := (is_low.filter Prod.snd).map (·.1.toLower)
      if low = [] then none else some low
  | .incidents, .critical_incidents first =>
      if first = [] ∨ ∃ i ∈ first, i.metadata.platform = "" then none
      else some (first.map (·.metadata.platform.toLower))
  | _, _ => none

/-- The check is about the venue. -/
def ReadinessCheck.about (c : ReadinessCheck) (platform : String) : Bool :=
  (platform_scope_for_check c).all (platform ∈ ·)

/-- `preferred`: the venues that are listed first. -/
def preferred_rank (name : String) : ℕ :=
  match name with
  | "kalshi" => 0
  | "polymarket" => 1
  | "forecastex" => 2
  | _ => 99

/-- `_known_platforms`: those with a collector or a balance, and the two that always are. -/
def Runtime.known_platforms (r : Runtime) : List String :=
  (r.collectors.keys.map String.toLower ++ r.balances.keys.map String.toLower ++
    ["kalshi", "polymarket"]).dedup.insertionSort fun a b =>
      preferred_rank a < preferred_rank b ∨ preferred_rank a = preferred_rank b ∧ a ≤ b

/-- An entry of the view. -/
structure ScopedReadiness where
  ready_for_live_trading : Bool
  blocking_reasons : List String
  warnings : List String

/-- The reasons and warnings of a venue. -/
def venue_entry (checks : List ReadinessCheck) (platform : String) : ScopedReadiness :=
  let blocking_reasons := (checks.filter fun c => c.blocks && c.about platform).map (·.summary)
  { ready_for_live_trading := blocking_reasons.isEmpty
    blocking_reasons
    warnings := (checks.filter fun c =>
      (c.status = .warning || c.status = .manual) && c.about platform).map (·.summary) }

/-- What blocks every venue. -/
def global_blocking (checks : List ReadinessCheck) : List String :=
  (checks.filter fun c => c.blocks && (platform_scope_for_check c).isNone).map (·.summary)

/-- The entry of a pair: the reasons of both, each once. -/
def pair_readiness (checks : List ReadinessCheck) (left right : String) : ScopedReadiness :=
  let blocking := (global_blocking checks ++ (venue_entry checks left).blocking_reasons ++
    (venue_entry checks right).blocking_reasons).eraseDups
  { ready_for_live_trading := blocking.isEmpty
    blocking_reasons := blocking
    warnings :=
      ((venue_entry checks left).warnings ++ (venue_entry checks right).warnings).eraseDups }

/-- The pairs of a list, the earlier name first. -/
def pairs_of : List String → List (String × String)
  | [] => []
  | left :: rest => rest.map (fun right => (left, right)) ++ pairs_of rest

/-- `ReadinessSnapshot`. -/
structure ReadinessSnapshot where
  mode : String
  ready_for_live_trading : Bool
  blocking_reasons : List String
  warnings : List String
  checks : List ReadinessCheck
  venue_readiness : List (String × ScopedReadiness)
  venue_pairs : List ((String × String) × ScopedReadiness)

/-- `refresh`. -/
def Runtime.refresh (r : Runtime) : ReadinessSnapshot :=
  let checks := r.checks
  let blocking_reasons := (checks.filter (·.blocks)).map (·.summary)
  { mode := if r.dry_run then "dry-run" else "live"
    ready_for_live_trading := blocking_reasons.isEmpty
    blocking_reasons
    warnings := (checks.filter fun c => c.status = .warning || c.status = .manual).map (·.summary)
    checks
    venue_readiness := r.known_platforms.map fun platform => (platform, venue_entry checks platform)
    venue_pairs := (pairs_of r.known_platforms).map fun pair =>
      (pair, pair_readiness checks pair.1 pair.2) }

/-! ## Section 4: The gate -/

/-- `_incident_touches_opportunity`: an incident without a platform touches every one. -/
def incident_touches_opportunity (i : ExecutionIncident) (involved_platforms : List String) :
    Bool :=
  i.metadata.platform = "" || i.metadata.platform.toLower ∈ involved_platforms

/-- The answer of the gate. -/
structure Decision where
  allowed : Bool
  reason : String
  snapshot : ReadinessSnapshot

/-- What the gate makes of a check that blocks. -/
inductive Narrowed
  /-- It is not about this opportunity. -/
  | skipped
  | relevant (summary : String)
  /-- The scoped validation refuses at once. -/
  | refused (reason : String)
  deriving DecidableEq

/-- The reason of an immediate refusal. -/
def Narrowed.refusal : Narrowed → Option String
  | .refused reason => some reason
  | _ => none

/-- The summary that joins `relevant_blocking`. -/
def Narrowed.blocker : Narrowed → Option String
  | .relevant summary => some summary
  | _ => none

namespace Runtime

variable (r : Runtime)

/-- The check has venues, and none of them is involved. -/
def elsewhere (c : ReadinessCheck) (involved_platforms : List String) : Bool :=
  let scope := (platform_scope_for_check c).getD []
  !scope.isEmpty && !scope.any (· ∈ involved_platforms)

/-- The turn of the loop for a check that blocks. -/
def narrow (yes_platform no_platform : String) (c : ReadinessCheck) : Narrowed :=
  let involved_platforms := [yes_platform.toLower, no_platform.toLower]
  match c.key with
  | .collectors | .balances =>
      if elsewhere c involved_platforms then .skipped else .relevant c.summary
  | .profitability =>
      match r.profitability with
      | none => .relevant c.summary
      | some s =>
          -- the scope of the pair decides, and a refusal of it ends the loop
          let scope := validate_opportunity_scope s yes_platform no_platform
          if scope.1 then .skipped else .refused scope.2
  | .incidents =>
      let open_critical := r.incidents.filter (·.open_critical)
      if !open_critical.isEmpty &&
          !open_critical.any (incident_touches_opportunity · involved_platforms) then .skipped
      else .relevant c.summary
  | _ => .relevant c.summary

/-- The involved venues whose balance is low. -/
def low_platforms (involved_platforms : List String) : List String :=
  involved_platforms.dedup.filter fun platform =>
    (r.balances.lookup platform).any (·.is_low)

/-- The gate once no check stands in the way: the scoped validation, then the balances. -/
def allow_scoped (yes_platform no_platform : String) : Bool × String :=
  let refusal := r.profitability.bind fun s =>
    let scope := validate_opportunity_scope s yes_platform no_platform
    if scope.1 then none else some scope.2
  let low := r.low_platforms [yes_platform.toLower, no_platform.toLower]
  match refusal with
  | some reason => (false, reason)
  | none =>
      if low ≠ [] then (false, "Low balances on live venues: " ++ sorted_names low)
      else (true, "ready for live execution")

/-- `allow_execution`. -/
def allow_execution (yes_platform no_platform : String) : Decision :=
  let snapshot := r.refresh
  let answer : Bool × String :=
    if r.dry_run then (true, "dry-run mode collecting evidence")
    else
      let outcomes := (snapshot.checks.filter (·.blocks)).map (r.narrow yes_platform no_platform)
      match outcomes.findSome? Narrowed.refusal <|> outcomes.findSome? Narrowed.blocker with
      | some reason => (false, reason)
      | none => r.allow_scoped yes_platform no_platform
  ⟨answer.1, answer.2, snapshot⟩

end Runtime

end Readiness
