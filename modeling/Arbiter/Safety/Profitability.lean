import Mathlib.Data.List.Sort
import Mathlib.Data.String.Basic
import Arbiter.Execution.Incidents
import Arbiter.Execution.Opportunity
import Arbiter.Framework.Text

/-! # The Profitability Validator

  `ProfitabilityValidator`: a verdict over all completed executions, and one for each
  platform and each pair of venues over those that touched it. The reasons, the progress
  and the history of the snapshots are left out, no gate reads them.
-/

namespace Profitability

open Execution

/-! ### Configuration -/

/-- `ProfitabilityConfig`; the overrides are by platform or pair, in lower case. -/
structure ProfitabilityConfig where
  min_scan_count : ℕ := 250
  min_published_opportunities : ℕ := 25
  min_completed_executions : ℕ := 10
  min_total_realized_pnl : ℚ := 5
  min_average_realized_pnl : ℚ := 1 / 4
  min_average_edge_cents : ℚ := 3
  min_profitable_execution_ratio : ℚ := 65 / 100
  min_total_realized_pnl_by_scope : List (String × ℚ) := []
  min_average_realized_pnl_by_scope : List (String × ℚ) := []
  min_profitable_execution_ratio_by_scope : List (String × ℚ) := []
  min_audit_pass_rate : ℚ := 995 / 1000
  max_incident_rate : ℚ := 15 / 100
  max_critical_incidents : ℕ := 0

/-- A floor for a scope: the override may lower it, never raise it. -/
def effective_floor (floor : ℚ) (by_scope : List (String × ℚ)) (scope_key : String) : ℚ :=
  match by_scope.lookup scope_key.toLower with
  | none => floor
  | some override => min floor override

namespace ProfitabilityConfig

variable (cfg : ProfitabilityConfig)

/-- `effective_min_total_realized_pnl`. -/
def effective_min_total_realized_pnl (scope_key : String) : ℚ :=
  effective_floor cfg.min_total_realized_pnl cfg.min_total_realized_pnl_by_scope scope_key

/-- `effective_min_average_realized_pnl`. -/
def effective_min_average_realized_pnl (scope_key : String) : ℚ :=
  effective_floor cfg.min_average_realized_pnl cfg.min_average_realized_pnl_by_scope scope_key

/-- `effective_min_profitable_execution_ratio`. -/
def effective_min_profitable_execution_ratio (scope_key : String) : ℚ :=
  effective_floor cfg.min_profitable_execution_ratio cfg.min_profitable_execution_ratio_by_scope
    scope_key

end ProfitabilityConfig

/-! ### Verdicts -/

/-- `verdict`. -/
inductive Verdict
  | blocked
  | collecting_evidence
  | not_profitable
  | validated_profitable
  deriving DecidableEq

/-- The verdict's text. -/
def Verdict.value : Verdict → String
  | blocked => "blocked"
  | collecting_evidence => "collecting_evidence"
  | not_profitable => "not_profitable"
  | validated_profitable => "validated_profitable"

/-- What a verdict is made of. -/
structure Evidence where
  scan_count : ℕ
  published_opportunities : ℕ
  completed_executions : ℕ
  total_realized_pnl : ℚ
  average_realized_pnl : ℚ
  average_edge_cents : ℚ
  profitable_ratio : ℚ
  audit_pass_rate : ℚ
  incident_rate : ℚ
  critical_incidents : ℕ

/-- `_resolve_verdict`, at the floors it is given. -/
def resolve_verdict (cfg : ProfitabilityConfig) (e : Evidence) (min_total min_avg min_ratio : ℚ) :
    Verdict :=
  if e.audit_pass_rate < cfg.min_audit_pass_rate ∨
      cfg.max_critical_incidents < e.critical_incidents then .blocked
  else if e.scan_count < cfg.min_scan_count ∨
      e.published_opportunities < cfg.min_published_opportunities ∨
      e.completed_executions < cfg.min_completed_executions then .collecting_evidence
  else if e.total_realized_pnl < min_total ∨ e.average_realized_pnl < min_avg ∨
      e.average_edge_cents < cfg.min_average_edge_cents ∨ e.profitable_ratio < min_ratio ∨
      cfg.max_incident_rate < e.incident_rate then .not_profitable
  else .validated_profitable

/-! ### Samples -/

/-- `arb_pnl`: without what came from unwinding. -/
def arb_pnl (execution : ArbExecution) : ℚ := execution.realized_pnl - execution.unwind_pnl

/-- `_completed_executions`. -/
def completed_executions (executions : List ArbExecution) : List ArbExecution :=
  executions.filter fun execution =>
    execution.status ∈ [.simulated, .filled, .manual_closed] || execution.realized_pnl ≠ 0

/-- The mean, of no numbers 0. -/
def mean_of (numbers : List ℚ) : ℚ := if numbers = [] then 0 else numbers.sum / numbers.length

/-- What is counted of a sample of executions. -/
structure Sample where
  total : ℕ
  profitable : ℕ
  losing : ℕ
  breakeven : ℕ
  total_pnl : ℚ
  average_pnl : ℚ
  average_edge_cents : ℚ
  profitable_ratio : ℚ

/-- The counts of both validations. -/
def sample_of (executions : List ArbExecution) : Sample :=
  let total := executions.length
  let profitable := executions.countP fun execution => 0 < arb_pnl execution
  let total_pnl := (executions.map arb_pnl).sum
  { total
    profitable
    losing := executions.countP fun execution => arb_pnl execution < 0
    breakeven := executions.countP fun execution => arb_pnl execution = 0
    total_pnl
    average_pnl := if total = 0 then 0 else total_pnl / total
    average_edge_cents := mean_of (executions.map fun e => e.opportunity.net_edge_cents)
    profitable_ratio := if total = 0 then 0 else profitable / total }

/-- `_score_execution_scope`, as far as its verdict. -/
def score_execution_scope (cfg : ProfitabilityConfig) (key : String)
    (executions : List ArbExecution) : Verdict :=
  let sample := sample_of executions
  resolve_verdict cfg
    { scan_count := cfg.min_scan_count
      published_opportunities := cfg.min_published_opportunities
      completed_executions := sample.total
      total_realized_pnl := sample.total_pnl
      average_realized_pnl := sample.average_pnl
      average_edge_cents := sample.average_edge_cents
      profitable_ratio := sample.profitable_ratio
      audit_pass_rate := 1
      incident_rate := 0
      critical_incidents := 0 }
    (cfg.effective_min_total_realized_pnl key) (cfg.effective_min_average_realized_pnl key)
    (cfg.effective_min_profitable_execution_ratio key)

/-! ### Scopes -/

/-- `sorted({…} - {""})`: the names in lower case, each once. -/
def clean_names (names : List String) : List String :=
  ((names.map String.toLower).filter (· ≠ "")).dedup.insertionSort (· ≤ ·)

/-- `_pair_key`. -/
def pair_key (platforms : List String) : String := "_".intercalate (clean_names platforms)

/-- The venues of an execution's opportunity. -/
def venues_of (execution : ArbExecution) : List String :=
  [execution.opportunity.yes_platform, execution.opportunity.no_platform]

/-- The sample of a platform. -/
def platform_sample (executions : List ArbExecution) (platform : String) : List ArbExecution :=
  executions.filter fun execution => platform ∈ clean_names (venues_of execution)

/-- The sample of a pair; an execution without two named venues is in none. -/
def pair_sample (executions : List ArbExecution) (key : String) : List ArbExecution :=
  executions.filter fun execution =>
    execution.opportunity.yes_platform ≠ "" && execution.opportunity.no_platform ≠ "" &&
      pair_key (venues_of execution) = key

/-- The score of a sample, where there is one. -/
def scope_verdict (cfg : ProfitabilityConfig) (key : String) (executions : List ArbExecution) :
    Option Verdict :=
  if executions = [] then none else some (score_execution_scope cfg key executions)

/-- `ProfitabilitySnapshot`, as the gates read it: the scores by platform and by pair. -/
structure ProfitabilitySnapshot where
  verdict : Verdict
  completed_executions : ℕ
  platform_profitability : String → Option Verdict
  pair_profitability : String → Option Verdict

/-- What the validator is refreshed from. -/
structure Observed where
  scan_count : ℕ
  published : ℕ
  executions : List ArbExecution
  incidents : List ExecutionIncident
  total_executions : ℕ
  aborted : ℕ
  audit_pass_rate : ℚ

/-- The incidents that count: not resolved, no information, no symptom of a closed gate. -/
def active_incidents (incidents : List ExecutionIncident) : List ExecutionIncident :=
  incidents.filter fun i =>
    i.status ≠ .resolved && i.severity ≠ .info &&
      !Text.occurs "Trade gate blocked execution:" i.message

/-- Incidents for each opportunity that was evaluated. -/
def incident_rate (o : Observed) : ℚ :=
  let incident_count := (active_incidents o.incidents).length
  let evaluated := o.total_executions + o.aborted
  if 0 < evaluated then incident_count / evaluated else if 0 < incident_count then 1 else 0

/-- `refresh`. -/
def refresh (cfg : ProfitabilityConfig) (o : Observed) : ProfitabilitySnapshot :=
  let completed := completed_executions o.executions
  let sample := sample_of completed
  { verdict :=
      resolve_verdict cfg
        { scan_count := o.scan_count
          published_opportunities := o.published
          completed_executions := sample.total
          total_realized_pnl := sample.total_pnl
          average_realized_pnl := sample.average_pnl
          average_edge_cents := sample.average_edge_cents
          profitable_ratio := sample.profitable_ratio
          audit_pass_rate := o.audit_pass_rate
          incident_rate := incident_rate o
          critical_incidents := effective_critical_incident_count (active_incidents o.incidents) }
        cfg.min_total_realized_pnl cfg.min_average_realized_pnl cfg.min_profitable_execution_ratio
    completed_executions := sample.total
    platform_profitability := fun platform =>
      scope_verdict cfg platform (platform_sample completed platform)
    pair_profitability := fun key => scope_verdict cfg key (pair_sample completed key) }

/-! ### The gate of a scope -/

/-- Why a scope is refused, if it is. -/
def scope_refusal (missing named : String) : Option Verdict → Option String
  | none => some missing
  | some .validated_profitable => none
  | some verdict => some (named ++ " is " ++ verdict.value)

/-- `validate_opportunity_scope`: the platforms in turn, then their pair. -/
def validate_opportunity_scope (s : ProfitabilitySnapshot) (yes_platform no_platform : String) :
    Bool × String :=
  let platforms := clean_names [yes_platform, no_platform]
  let key := pair_key platforms
  let refusals := platforms.filterMap fun platform =>
    scope_refusal ("No profitability evidence for platform " ++ platform)
      ("Platform profitability for " ++ platform) (s.platform_profitability platform)
  let pair_refusal := scope_refusal ("No profitability evidence for venue pair " ++ key)
    ("Venue-pair profitability for " ++ key) (s.pair_profitability key)
  match refusals.head? <|> pair_refusal with
  | some reason => (false, reason)
  | none => (true, "platform and pair profitability validated")

/-- The platforms and their pair have all been validated. -/
def ScopesValidated (s : ProfitabilitySnapshot) (yes_platform no_platform : String) : Prop :=
  (∀ platform ∈ clean_names [yes_platform, no_platform],
    s.platform_profitability platform = some .validated_profitable) ∧
    s.pair_profitability (pair_key (clean_names [yes_platform, no_platform])) =
      some .validated_profitable

theorem scope_refusal_eq_none {missing named : String} {verdict : Option Verdict} :
    scope_refusal missing named verdict = none ↔ verdict = some .validated_profitable := by
  cases verdict with
  | none => simp [scope_refusal]
  | some verdict => cases verdict <;> simp [scope_refusal]

/-- The scope passes exactly where its platforms and its pair are validated. -/
theorem validate_opportunity_scope_iff {s : ProfitabilitySnapshot}
    {yes_platform no_platform : String} :
    (validate_opportunity_scope s yes_platform no_platform).1 = true ↔
      ScopesValidated s yes_platform no_platform := by
  have hpass (refusals : List String) (pair : Option String) :
      (match refusals.head? <|> pair with
        | some reason => (false, reason)
        | none => (true, "platform and pair profitability validated") : Bool × String).1 = true ↔
        refusals = [] ∧ pair = none := by
    cases refusals <;> cases pair <;> simp
  refine (hpass _ _).trans (and_congr ?_ scope_refusal_eq_none)
  simp only [List.filterMap_eq_nil_iff, scope_refusal_eq_none]

end Profitability
