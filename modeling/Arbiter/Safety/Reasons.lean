import Arbiter.Framework.Decimal
import Arbiter.Safety.Profitability

/-! # Reasons

  `_resolve_verdict` and `_build_reasons` go through the same ten gates, one to say how it
  stands and the other to say why. A scope may come with floors of its own, and the reasons
  are silent on profits before there are enough executions.

  ## Contents

  - Section 1: the floors, with the overrides.
  - Section 2: the reasons.
  - Section 3: the verdict by the reasons.
  - Section 4: better evidence and lower floors.
-/

namespace Profitability

open Decimal

/-! ## Section 1: Floors -/

/-- The floors a caller may give in place of the configured ones. -/
structure Overrides where
  min_total_realized_pnl_override : Option ℚ
  min_average_realized_pnl_override : Option ℚ
  min_profitable_execution_ratio_override : Option ℚ

namespace Overrides

variable (o : Overrides) (cfg : ProfitabilityConfig)

/-- `min_total`. -/
def min_total : ℚ := o.min_total_realized_pnl_override.getD cfg.min_total_realized_pnl

/-- `min_avg`. -/
def min_avg : ℚ := o.min_average_realized_pnl_override.getD cfg.min_average_realized_pnl

/-- `min_ratio`. -/
def min_ratio : ℚ :=
  o.min_profitable_execution_ratio_override.getD cfg.min_profitable_execution_ratio

end Overrides

/-- `_resolve_verdict`, with the overrides as they come. -/
def resolve_verdict_with (cfg : ProfitabilityConfig) (o : Overrides) (e : Evidence) : Verdict :=
  resolve_verdict cfg e (o.min_total cfg) (o.min_avg cfg) (o.min_ratio cfg)

/-! ## Section 2: Reasons -/

/-- A reason, where its gate fails. -/
def reason_if (failing : Prop) [Decidable failing] (text : String) : List String :=
  if failing then [text] else []

/-- A share as a percentage with two decimals. -/
def percent (share : ℚ) : String := fixed_signed 2 (share * 100) ++ "%"

section reasons

variable (cfg : ProfitabilityConfig) (o : Overrides) (e : Evidence)

/-- The reasons the verdict is blocked for. -/
def blocking_reasons : List String :=
  reason_if (e.audit_pass_rate < cfg.min_audit_pass_rate)
    ("Audit pass rate " ++ (fixed_signed 4 e.audit_pass_rate ++ " is below the required " ++
      fixed_signed 4 cfg.min_audit_pass_rate)) ++
  reason_if (cfg.max_critical_incidents < e.critical_incidents)
    ("Critical incidents " ++ (toString e.critical_incidents ++ " exceed the allowed " ++
      toString cfg.max_critical_incidents))

/-- The reasons there is too little evidence for. -/
def missing_reasons : List String :=
  reason_if (e.scan_count < cfg.min_scan_count)
    ("Need " ++ (toString (cfg.min_scan_count - e.scan_count) ++
      " more scans before profitability can be determined")) ++
  reason_if (e.published_opportunities < cfg.min_published_opportunities)
    ("Need " ++ (toString (cfg.min_published_opportunities - e.published_opportunities) ++
      " more published opportunities")) ++
  reason_if (e.completed_executions < cfg.min_completed_executions)
    ("Need " ++ (toString (cfg.min_completed_executions - e.completed_executions) ++
      " more completed executions"))

/-- The reasons it does not pay for, once there are enough executions. -/
def unprofitable_reasons : List String :=
  if cfg.min_completed_executions ≤ e.completed_executions then
    reason_if (e.total_realized_pnl < o.min_total cfg)
      ("Total realized P&L $" ++ (fixed_signed 2 e.total_realized_pnl ++
        " is below the required $" ++ fixed_signed 2 (o.min_total cfg))) ++
    reason_if (e.average_realized_pnl < o.min_avg cfg)
      ("Average realized P&L $" ++ (fixed_signed 2 e.average_realized_pnl ++
        " is below the required $" ++ fixed_signed 2 (o.min_avg cfg))) ++
    reason_if (e.average_edge_cents < cfg.min_average_edge_cents)
      ("Average edge " ++ (fixed_signed 2 e.average_edge_cents ++
        "¢ is below the required " ++ fixed_signed 2 cfg.min_average_edge_cents ++ "¢")) ++
    reason_if (e.profitable_ratio < o.min_ratio cfg)
      ("Profitable execution ratio " ++ (percent e.profitable_ratio ++
        " is below the required " ++ percent (o.min_ratio cfg))) ++
    reason_if (cfg.max_incident_rate < e.incident_rate)
      ("Incident rate " ++ (percent e.incident_rate ++ " exceeds the allowed " ++
        percent cfg.max_incident_rate))
  else []

/-- One reason for each gate that fails. -/
def failing_gates : List String :=
  blocking_reasons cfg e ++ missing_reasons cfg e ++ unprofitable_reasons cfg o e

/-- What is said where none does. -/
def all_satisfied : String := "All profitability gates are currently satisfied"

/-- `_build_reasons`. -/
def build_reasons : List String :=
  if failing_gates cfg o e = [] then [all_satisfied] else failing_gates cfg o e

end reasons

/-! ## Section 3: The verdict by the reasons -/

section verdict

variable {cfg : ProfitabilityConfig} {o : Overrides} {e : Evidence}

@[simp] theorem reason_if_eq_nil_iff {failing : Prop} [Decidable failing] {text : String} :
    reason_if failing text = [] ↔ ¬ failing := by
  unfold reason_if
  split <;> simp_all

theorem blocking_reasons_eq_nil_iff : blocking_reasons cfg e = [] ↔
    ¬ (e.audit_pass_rate < cfg.min_audit_pass_rate ∨
      cfg.max_critical_incidents < e.critical_incidents) := by
  simp only [blocking_reasons, List.append_eq_nil_iff, reason_if_eq_nil_iff, not_or]

theorem missing_reasons_eq_nil_iff : missing_reasons cfg e = [] ↔
    ¬ (e.scan_count < cfg.min_scan_count ∨
      e.published_opportunities < cfg.min_published_opportunities ∨
      e.completed_executions < cfg.min_completed_executions) := by
  simp only [missing_reasons, List.append_eq_nil_iff, reason_if_eq_nil_iff, not_or, and_assoc]

/-- With enough executions the five gates on profits are listed. -/
theorem unprofitable_reasons_eq_nil_iff
    (henough : cfg.min_completed_executions ≤ e.completed_executions) :
    unprofitable_reasons cfg o e = [] ↔
      ¬ (e.total_realized_pnl < o.min_total cfg ∨ e.average_realized_pnl < o.min_avg cfg ∨
        e.average_edge_cents < cfg.min_average_edge_cents ∨
        e.profitable_ratio < o.min_ratio cfg ∨ cfg.max_incident_rate < e.incident_rate) := by
  simp only [unprofitable_reasons, if_pos henough, List.append_eq_nil_iff, reason_if_eq_nil_iff,
    not_or, and_assoc]

/-- **The verdict is that of the first group with a reason in it.** -/
theorem resolve_verdict_with_eq : resolve_verdict_with cfg o e =
    if blocking_reasons cfg e ≠ [] then .blocked
    else if missing_reasons cfg e ≠ [] then .collecting_evidence
    else if unprofitable_reasons cfg o e ≠ [] then .not_profitable
    else .validated_profitable := by
  unfold resolve_verdict_with resolve_verdict
  simp only [ne_eq, blocking_reasons_eq_nil_iff, missing_reasons_eq_nil_iff, not_not]
  split
  · rfl
  · split
    · rfl
    · next hcounts =>
      -- past the counts there are enough executions
      have henough : cfg.min_completed_executions ≤ e.completed_executions := by
        by_contra hfew
        exact hcounts (.inr (.inr (not_le.mp hfew)))
      simp only [unprofitable_reasons_eq_nil_iff henough, not_not]

theorem resolve_verdict_with_validated_iff :
    resolve_verdict_with cfg o e = .validated_profitable ↔ failing_gates cfg o e = [] := by
  rw [resolve_verdict_with_eq, failing_gates, List.append_eq_nil_iff, List.append_eq_nil_iff]
  split_ifs with hblocking hmissing hunprofitable
  · simp [hblocking]
  · simp [hmissing]
  · simp [hunprofitable]
  · simp_all

/-- A text that begins as another does not is another one. -/
theorem append_ne_of_start {start rest text : String}
    (h : start.toList.isPrefixOf text.toList = false) : start ++ rest ≠ text := by
  rintro rfl
  rw [String.toList_append, ← Bool.not_eq_true, List.isPrefixOf_iff_prefix] at h
  exact h (List.prefix_append _ _)

/-- No gate that fails is told as all being well. -/
theorem all_satisfied_not_mem_failing_gates : all_satisfied ∉ failing_gates cfg o e := by
  have hreason {failing : Prop} [Decidable failing] {start rest : String}
      (h : start.toList.isPrefixOf all_satisfied.toList = false) :
      all_satisfied ∉ reason_if failing (start ++ rest) := by
    unfold reason_if
    split
    · exact fun hmem => append_ne_of_start h (List.mem_singleton.mp hmem).symm
    · exact List.not_mem_nil
  simp only [failing_gates, List.mem_append, not_or]
  refine ⟨⟨?_, ?_⟩, ?_⟩
  · simp only [blocking_reasons, List.mem_append, not_or]
    exact ⟨hreason (by decide), hreason (by decide)⟩
  · simp only [missing_reasons, List.mem_append, not_or]
    exact ⟨⟨hreason (by decide), hreason (by decide)⟩, hreason (by decide)⟩
  · unfold unprofitable_reasons
    split
    · simp only [List.mem_append, not_or]
      exact ⟨⟨⟨⟨hreason (by decide), hreason (by decide)⟩, hreason (by decide)⟩,
        hreason (by decide)⟩, hreason (by decide)⟩
    · exact List.not_mem_nil

theorem build_reasons_eq_all_satisfied_iff :
    build_reasons cfg o e = [all_satisfied] ↔ failing_gates cfg o e = [] := by
  unfold build_reasons
  constructor
  · intro h
    by_contra hfailing
    rw [if_neg hfailing] at h
    have hmem : all_satisfied ∈ failing_gates cfg o e := by
      rw [h]
      exact List.mem_singleton_self _
    exact all_satisfied_not_mem_failing_gates hmem
  · exact fun h => if_pos h

end verdict

/-! ## Section 4: Better evidence -/

/-- The metrics of the second are at least as good. -/
structure Evidence.NoWorse (e e' : Evidence) : Prop where
  scan_count : e.scan_count ≤ e'.scan_count
  published_opportunities : e.published_opportunities ≤ e'.published_opportunities
  completed_executions : e.completed_executions ≤ e'.completed_executions
  total_realized_pnl : e.total_realized_pnl ≤ e'.total_realized_pnl
  average_realized_pnl : e.average_realized_pnl ≤ e'.average_realized_pnl
  average_edge_cents : e.average_edge_cents ≤ e'.average_edge_cents
  profitable_ratio : e.profitable_ratio ≤ e'.profitable_ratio
  audit_pass_rate : e.audit_pass_rate ≤ e'.audit_pass_rate
  incident_rate : e'.incident_rate ≤ e.incident_rate
  critical_incidents : e'.critical_incidents ≤ e.critical_incidents

/-- The second ask for no more. -/
structure Overrides.Relaxed (cfg : ProfitabilityConfig) (o o' : Overrides) : Prop where
  min_total : o'.min_total cfg ≤ o.min_total cfg
  min_avg : o'.min_avg cfg ≤ o.min_avg cfg
  min_ratio : o'.min_ratio cfg ≤ o.min_ratio cfg

theorem resolve_verdict_with_mono {cfg : ProfitabilityConfig} {o o' : Overrides}
    {e e' : Evidence} (hbetter : e.NoWorse e') (hrelaxed : o.Relaxed cfg o')
    (h : resolve_verdict_with cfg o e = .validated_profitable) :
    resolve_verdict_with cfg o' e' = .validated_profitable := by
  rw [resolve_verdict_with_validated_iff, failing_gates, List.append_eq_nil_iff,
    List.append_eq_nil_iff, blocking_reasons_eq_nil_iff, missing_reasons_eq_nil_iff] at h ⊢
  obtain ⟨⟨hblocking, hmissing⟩, hunprofitable⟩ := h
  simp only [not_or, not_lt] at hblocking hmissing
  have henough := hmissing.2.2
  have henough' := henough.trans hbetter.completed_executions
  rw [unprofitable_reasons_eq_nil_iff henough] at hunprofitable
  rw [unprofitable_reasons_eq_nil_iff henough']
  simp only [not_or, not_lt] at hunprofitable ⊢
  obtain ⟨htotal, havg, hedge, hratio, hrate⟩ := hunprofitable
  refine ⟨⟨⟨?_, ?_⟩, ?_, ?_, henough'⟩, ?_, ?_, ?_, ?_, ?_⟩
  · exact hblocking.1.trans hbetter.audit_pass_rate
  · exact hbetter.critical_incidents.trans hblocking.2
  · exact hmissing.1.trans hbetter.scan_count
  · exact hmissing.2.1.trans hbetter.published_opportunities
  · exact hrelaxed.min_total.trans (htotal.trans hbetter.total_realized_pnl)
  · exact hrelaxed.min_avg.trans (havg.trans hbetter.average_realized_pnl)
  · exact hedge.trans hbetter.average_edge_cents
  · exact hrelaxed.min_ratio.trans (hratio.trans hbetter.profitable_ratio)
  · exact hbetter.incident_rate.trans hrate

/-- The floors of a scope, as `_score_execution_scope` passes them. -/
def scope_overrides (cfg : ProfitabilityConfig) (key : String) : Overrides where
  min_total_realized_pnl_override := some (cfg.effective_min_total_realized_pnl key)
  min_average_realized_pnl_override := some (cfg.effective_min_average_realized_pnl key)
  min_profitable_execution_ratio_override :=
    some (cfg.effective_min_profitable_execution_ratio key)

theorem effective_floor_le (floor : ℚ) (by_scope : List (String × ℚ)) (key : String) :
    effective_floor floor by_scope key ≤ floor := by
  unfold effective_floor
  split
  · exact le_rfl
  · exact min_le_left _ _

/-- A scope is asked for no more than the whole is, which has no overrides. -/
theorem relaxed_scope_overrides (cfg : ProfitabilityConfig) (key : String) :
    (⟨none, none, none⟩ : Overrides).Relaxed cfg (scope_overrides cfg key) where
  min_total := effective_floor_le _ _ _
  min_avg := effective_floor_le _ _ _
  min_ratio := effective_floor_le _ _ _

/-- A sample that would do for the whole does for a scope. -/
theorem score_execution_scope_of_global {cfg : ProfitabilityConfig} {e : Evidence}
    {executions : List Execution.ArbExecution} (key : String)
    (h : resolve_verdict_with cfg ⟨none, none, none⟩ e = .validated_profitable)
    (hsample : e.NoWorse
      { scan_count := cfg.min_scan_count
        published_opportunities := cfg.min_published_opportunities
        completed_executions := (sample_of executions).total
        total_realized_pnl := (sample_of executions).total_pnl
        average_realized_pnl := (sample_of executions).average_pnl
        average_edge_cents := (sample_of executions).average_edge_cents
        profitable_ratio := (sample_of executions).profitable_ratio
        audit_pass_rate := 1
        incident_rate := 0
        critical_incidents := 0 }) :
    score_execution_scope cfg key executions = .validated_profitable :=
  resolve_verdict_with_mono hsample (relaxed_scope_overrides cfg key) h

/-- **The verdict and its reasons agree**: it is validated exactly when no gate is listed as
    failing, and it stays so with better metrics and lower floors. -/
theorem verdict_agrees_with_reasons (cfg : ProfitabilityConfig) (o : Overrides) (e : Evidence) :
    (resolve_verdict_with cfg o e = .validated_profitable ↔
      build_reasons cfg o e = [all_satisfied]) ∧
    ∀ o' e', e.NoWorse e' → o.Relaxed cfg o' →
      resolve_verdict_with cfg o e = .validated_profitable →
      resolve_verdict_with cfg o' e' = .validated_profitable := by
  constructor
  · rw [resolve_verdict_with_validated_iff, build_reasons_eq_all_satisfied_iff]
  · intro o' e' hbetter hrelaxed h
    exact resolve_verdict_with_mono hbetter hrelaxed h

end Profitability
