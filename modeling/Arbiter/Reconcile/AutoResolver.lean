import Arbiter.Framework.Json
import Arbiter.Framework.Prog
import Arbiter.Execution.HalfRecorded

/-! # The Resolver of Half-Recorded Arbs

  `AutoResolver.reconcile_half_recorded`: an arb whose legs leave exposure is marked as
  reconciled if it is old enough, an incident says that an unwind has closed contracts of
  it, and none of its orders is open.
-/

namespace AutoResolver

open Effect Execution

/-! ### Results -/

/-- `ReconcileOutcome`. -/
inductive ReconcileOutcome
  | applied
  | skipped_no_evidence
  | skipped_too_young
  | skipped_already_reconciled
  | skipped_open_position
  | error
  deriving DecidableEq

/-- `ReconcileResult`. -/
structure ReconcileResult where
  arb_id : String
  outcome : ReconcileOutcome
  reason : String
  unwind_pnl : Option ℚ := none

/-- What is read of the settings. -/
structure AutoResolverConfig where
  half_recorded_min_age_seconds : ℚ := 3600

/-! ### Calls -/

/-- An incident that an unwind has left. -/
structure UnwindIncident where
  incident_id : String
  metadata : Json ℚ

/-- What the resolver asks the store for. -/
inductive Call
  | list_half_recorded_arbs
  /-- The newest incident of an arb `LIKE 'Auto-unwind closed%'`. -/
  | lookup_auto_unwind_incident (arb_id : String)
  | has_open_legs (arb_id : String)
  | mark_naked_leg_reconciled (arb_id : String) (unwind_pnl : ℚ) (note : String)

/-- What each call answers. -/
@[reducible] def Answer : Call → Type
  | .list_half_recorded_arbs => Except String (List HalfRecordedArb)
  | .lookup_auto_unwind_incident _ => Except String (Option UnwindIncident)
  | .has_open_legs _ => Except String Bool
  | .mark_naked_leg_reconciled .. => Except String Unit

/-- Programs of the resolver. -/
abbrev Res := Prog Call Answer

abbrev list_half_recorded_arbs : Res (Except String (List HalfRecordedArb)) :=
  .send Call.list_half_recorded_arbs

abbrev lookup_auto_unwind_incident (arb_id : String) :
    Res (Except String (Option UnwindIncident)) :=
  .send (Call.lookup_auto_unwind_incident arb_id)

abbrev has_open_legs (arb_id : String) : Res (Except String Bool) :=
  .send (Call.has_open_legs arb_id)

abbrev mark_naked_leg_reconciled (arb_id : String) (unwind_pnl : ℚ) (note : String) :
    Res (Except String Unit) :=
  .send (Call.mark_naked_leg_reconciled arb_id unwind_pnl note)

/-! ### The pass -/

/-- `_age_seconds`. -/
def age_seconds (created_at : ℤ) (now : ℚ) : ℚ≥0 := (now - created_at).toNNRat

/-- `_extract_unwind_pnl`. -/
def extract_unwind_pnl (unwind_incident : UnwindIncident) : ℚ :=
  let metadata := unwind_incident.metadata
  let raw := (metadata.get "realized_pnl").orElse
    ((metadata.get "unwind_pnl").orElse (.num 0))
  raw.float.getD 0

section pass

variable (spelled : ℚ → String) (config : AutoResolverConfig) (now : ℚ)

/-- `_reconcile_one`; what its first two queries raise is raised. -/
def reconcile_one (arb : HalfRecordedArb) : Res (Except String ReconcileResult) := do
  let arb_id := arb.arb_id
  let age := age_seconds arb.created_at now
  if age < config.half_recorded_min_age_seconds then
    return .ok
      { arb_id
        outcome := .skipped_too_young
        reason := "age " ++ Decimal.fixed 0 age ++ "s < " ++
          Decimal.fixed 0 config.half_recorded_min_age_seconds.toNNRat ++ "s" }
  else
    match ← lookup_auto_unwind_incident arb_id with
    | .error err => return .error err
    | .ok none =>
        return .ok
          { arb_id
            outcome := .skipped_no_evidence
            reason := "no auto_unwind incident found for arb_id" }
    | .ok (some unwind) =>
        match ← has_open_legs arb_id with
        | .error err => return .error err
        | .ok true =>
            return .ok
              { arb_id
                outcome := .skipped_open_position
                reason := "execution_orders still has a non-terminal leg for arb_id" }
        | .ok false =>
            let unwind_pnl := extract_unwind_pnl unwind
            let note := "AutoResolver (2026-05-22): unwind_pnl=" ++ spelled unwind_pnl ++
              " sourced from auto_unwind incident metadata."
            match ← mark_naked_leg_reconciled arb_id unwind_pnl note with
            -- the write is the one call that is caught
            | .error err =>
                return .ok
                  { arb_id
                    outcome := .error
                    reason := "mark_naked_leg_reconciled raised: " ++ err
                    unwind_pnl := some unwind_pnl }
            | .ok _ =>
                return .ok
                  { arb_id
                    outcome := .applied
                    reason := "auto_unwind evidence present; sentinel applied"
                    unwind_pnl := some unwind_pnl }

/-- One arb of the loop, for its result. -/
def reconcile_or_report (arb : HalfRecordedArb) : Res ReconcileResult := do
  match ← reconcile_one spelled config now arb with
  | .ok result => return result
  | .error err =>
      return { arb_id := arb.arb_id, outcome := .error, reason := "exception: " ++ err }

/-- The loop of `reconcile_half_recorded`. -/
def reconcile_arbs : List HalfRecordedArb → Res (List ReconcileResult)
  | [] => return []
  | arb :: arbs => do
      if arb.arb_id = "" then reconcile_arbs arbs
      else
        let result ← reconcile_or_report spelled config now arb
        let results ← reconcile_arbs arbs
        return result :: results

/-- `reconcile_half_recorded`. -/
def reconcile_half_recorded : Res (List ReconcileResult) := do
  match ← list_half_recorded_arbs with
  | .error _ => return []
  | .ok arbs => reconcile_arbs spelled config now arbs

end pass

end AutoResolver
