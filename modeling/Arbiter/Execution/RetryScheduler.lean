import Arbiter.Framework.Budget
import Arbiter.Framework.Decimal
import Arbiter.Framework.Text
import Arbiter.Execution.Opportunity
import Arbiter.Scanner.Fees
import Arbiter.Scanner.PricePoint

/-! # The Retry Scheduler

  `RetryScheduler` takes every execution the engine publishes from a queue, and
  retries the failed ones with fresh quotes.

  ## Contents

  - Section 1: settings, calls and records.
  - Section 2: the classification of a failure.
  - Section 3: the cooldown of rejected legs.
  - Section 4: fresh quotes.
  - Section 5: the retries of one execution.
  - Section 6: what the handling of one execution submits.
-/

namespace Execution.RetryScheduler

open Effect Decimal Scanner

/-! ## Section 1: Settings, calls, records -/

/-- `RetrySchedulerConfig`, and whether there is a price store. -/
structure Config where
  max_retries : ℕ
  retry_delay_s : ℚ
  min_edge_cents_retry : ℚ
  max_quote_age_seconds : ℚ
  rejected_cooldown_s : ℚ
  has_price_store : Bool

/-- What the scheduler asks of the outside. -/
inductive Call
  /-- `supervisor.is_armed`; a supervisor that raises counts as not armed. -/
  | supervisor_armed
  | sleep (seconds : ℚ)
  | get_price (platform canonical_id : String)
  | execute_opportunity (opp : Opportunity)

/-- What each call answers. -/
@[reducible] def Answer : Call → Type
  | .supervisor_armed => Bool
  | .sleep _ => Unit
  | .get_price .. => Except String (Option PricePoint)
  | .execute_opportunity _ => Except String (Option ArbExecution)

/-- Programs of the scheduler. -/
abbrev Scheduled := Prog Call Answer

/-- `final_disposition`. -/
inductive Disposition
  | pending
  | retried_success
  | retry_exhausted
  | spread_closed
  deriving DecidableEq

/-- `FailedTradeRecord`. -/
structure FailedTradeRecord where
  arb_id : String
  canonical_id : String
  yes_platform : String
  no_platform : String
  failed_leg_side : Side
  failed_leg_platform : String
  failure_reason : String
  failure_raw : String
  original_yes_price : ℚ≥0
  original_no_price : ℚ≥0
  original_net_edge_cents : ℚ
  retry_attempts : ℕ
  retry_arb_ids : List String
  retry_edges_cents : List ℚ
  final_disposition : Disposition
  final_reason : String
  retried_arb_id : Option String

/-! ## Section 2: Classification -/

/-- The leg a failure is put down to. -/
def primary_failed_leg (execution : ArbExecution) : Leg :=
  let leg_yes := execution.leg_yes
  let leg_no := execution.leg_no
  if leg_yes.status.terminalFailed ∧ (¬ leg_no.status.terminalFailed ∨
      Text.occurs "second leg skipped" leg_no.error.toLower) then leg_yes
  else if leg_no.status.terminalFailed ∧ (¬ leg_yes.status.terminalFailed ∨
      Text.occurs "second leg skipped" leg_yes.error.toLower) then leg_no
  else if leg_yes.error ≠ "" then leg_yes
  else leg_no

/-- The operator's text for an error, given in lower case. -/
def failure_reason (err : String) : String :=
  if Text.occurs "fok" err ∧ (Text.occurs "reject" err ∨ Text.occurs "insufficient" err) then
    "Insufficient liquidity (FOK rejected)"
  else if Text.occurs "second leg skipped" err then "Second leg skipped (primary leg failed)"
  else if Text.occurs "slippage" err then "Price moved beyond threshold"
  else if Text.occurs "timeout" err then "Local timeout"
  else if Text.occurs "http" err ∨ Text.occurs "connection" err ∨ Text.occurs "503" err ∨
      Text.occurs "502" err ∨ Text.occurs "504" err ∨ Text.occurs "reset by peer" err then
    "Platform API error"
  else if Text.occurs "no adapter" err then "No platform adapter configured"
  else "Platform error"

/-- `classify_failure`: side, platform and reason. -/
def classify_failure (execution : ArbExecution) : Side × String × String :=
  let primary := primary_failed_leg execution
  (primary.side, primary.platform, failure_reason primary.error.toLower)

/-- The leg on the side that the classification names. -/
def primary_leg (execution : ArbExecution) : Leg :=
  match (classify_failure execution).1 with
  | .yes => execution.leg_yes
  | .no => execution.leg_no

/-! ## Section 3: Cooldown -/

/-- Market, side and price in whole cents. -/
abbrev CooldownKey := String × Side × ℕ

/-- `_cooldown_key`: none for a leg without a market. -/
def cooldown_key (leg : Leg) : Option CooldownKey :=
  if leg.market_id = "" then none
  else some (leg.market_id, leg.side, round_half_even (leg.price * 100))

/-- `_rejected_cooldowns`: when each key was last rejected. -/
abbrev Cooldowns := List (CooldownKey × ℚ)

/-- `_in_cooldown`. A stale entry that it drops is written again right after. -/
def in_cooldown (cfg : Config) (cooldowns : Cooldowns) (now : ℚ) (key : CooldownKey) : Bool :=
  match cooldowns.lookup key with
  | none => false
  | some ts => decide (now - ts < cfg.rejected_cooldown_s)

/-- `_note_rejection`: past 512 entries the expired ones are dropped. -/
def note_rejection (cfg : Config) (cooldowns : Cooldowns) (now : ℚ) (key : CooldownKey) :
    Cooldowns :=
  let noted := (key, now) :: cooldowns.filter fun entry => entry.1 ≠ key
  if 512 < noted.length then noted.filter fun entry => now - entry.2 < cfg.rejected_cooldown_s
  else noted

/-- The leg of a failed execution was rejected at this price a short while ago. -/
def suppressed (cfg : Config) (cooldowns : Cooldowns) (now : ℚ) (execution : ArbExecution) :
    Bool :=
  (cooldown_key (primary_leg execution)).any (in_cooldown cfg cooldowns now)

/-! ## Section 4: Fresh quotes -/

/-- The opportunity at the quotes read, or why there is none. -/
def requoted (cfg : Config) (opp : Opportunity) :
    Option PricePoint → Option PricePoint → Except String Opportunity
  | some current_yes, some current_no =>
      let age := max current_yes.age_seconds current_no.age_seconds
      if cfg.max_quote_age_seconds < age then
        .error ("quotes too stale (" ++ fixed 1 age ++ "s)")
      else
        let qty := max opp.suggested_qty 1
        let total_fees :=
          (compute_fee opp.yes_platform current_yes.yes_price qty current_yes.rate +
            compute_fee opp.no_platform current_no.no_price qty current_no.rate) / qty
        let net_edge : ℚ := 1 - current_yes.yes_price - current_no.no_price - total_fees
        .ok { opp with
          yes_price := current_yes.yes_price
          no_price := current_no.no_price
          yes_market_id :=
            if current_yes.yes_market_id = "" then opp.yes_market_id else current_yes.yes_market_id
          no_market_id :=
            if current_no.no_market_id = "" then opp.no_market_id else current_no.no_market_id
          net_edge := net_edge
          net_edge_cents := net_edge * 100
          quote_age_seconds := age
          yes_fee_rate := current_yes.rate
          no_fee_rate := current_no.rate }
  | _, _ => .error "no fresh quotes available for either leg"

/-- `_requote`. -/
def requote (cfg : Config) (opp : Opportunity) : Scheduled (Except String Opportunity) := do
  if cfg.has_price_store then
    match ← .send (Call.get_price opp.yes_platform opp.canonical_id) with
    | .error exc => return .error ("price store error: " ++ exc)
    | .ok current_yes =>
        match ← .send (Call.get_price opp.no_platform opp.canonical_id) with
        | .error exc => return .error ("price store error: " ++ exc)
        | .ok current_no => return requoted cfg opp current_yes current_no
  else return .error "price store unavailable"

/-! ## Section 5: Retries -/

/-- The end of a chain, and why. -/
def FailedTradeRecord.ends (record : FailedTradeRecord) (disposition : Disposition)
    (reason : String) : FailedTradeRecord :=
  { record with final_disposition := disposition, final_reason := reason }

/-- The end of a chain under an armed kill switch. -/
def FailedTradeRecord.aborted (record : FailedTradeRecord) : FailedTradeRecord :=
  record.ends .retry_exhausted "kill switch armed — retries aborted"

/-- An execution that ends the chain: the retry worked. -/
def succeeded (result : ArbExecution) : Prop :=
  result.status = .filled ∨ result.status = .submitted ∨ result.status = .simulated

instance (result : ArbExecution) : Decidable (succeeded result) := by
  unfold succeeded; infer_instance

/-- The retry loop, `left` rounds from its end. -/
def retry_rounds (cfg : Config) (opp : Opportunity) :
    ℕ → FailedTradeRecord → Scheduled FailedTradeRecord
  | 0, record => .ret (record.ends .retry_exhausted
      ("All " ++ toString cfg.max_retries ++ " retries failed"))
  | left + 1, record => do
      let attempt := cfg.max_retries - left
      if ← .send Call.supervisor_armed then return record.aborted
      else
        .send (Call.sleep cfg.retry_delay_s)
        -- the switch may have been thrown during the sleep
        if ← .send Call.supervisor_armed then return record.aborted
        else
          match ← requote cfg opp with
          | .error reason => return record.ends .spread_closed reason
          | .ok fresh =>
              let record :=
                { record with retry_edges_cents := record.retry_edges_cents ++ [fresh.net_edge_cents] }
              if fresh.net_edge_cents < cfg.min_edge_cents_retry then
                return record.ends .spread_closed
                  ("Edge collapsed to " ++ fixed_signed 2 fresh.net_edge_cents ++ "¢ (retry floor " ++
                    fixed_signed 2 cfg.min_edge_cents_retry ++ "¢)")
              else
                match ← .send (Call.execute_opportunity fresh) with
                -- one that raises and one that gives nothing are attempts that failed
                | .error _ => retry_rounds cfg opp left { record with retry_attempts := attempt }
                | .ok none => retry_rounds cfg opp left { record with retry_attempts := attempt }
                | .ok (some result) =>
                    let record :=
                      { record with
                        retry_attempts := attempt
                        retry_arb_ids := record.retry_arb_ids ++
                          (if result.arb_id = "" then [] else [result.arb_id]) }
                    if succeeded result then
                      return { record.ends .retried_success
                          ("Retry " ++ toString attempt ++ " succeeded with " ++
                            fixed_signed 2 fresh.net_edge_cents ++ "¢ edge") with
                        retried_arb_id := some result.arb_id }
                    else retry_rounds cfg opp left record

/-- The record a chain starts with. -/
def new_record (execution : ArbExecution) : FailedTradeRecord where
  arb_id := execution.arb_id
  canonical_id := execution.opportunity.canonical_id
  yes_platform := execution.opportunity.yes_platform
  no_platform := execution.opportunity.no_platform
  failed_leg_side := (classify_failure execution).1
  failed_leg_platform := (classify_failure execution).2.1
  failure_reason := (classify_failure execution).2.2
  failure_raw := (primary_leg execution).error
  original_yes_price := execution.opportunity.yes_price
  original_no_price := execution.opportunity.no_price
  original_net_edge_cents := execution.opportunity.net_edge_cents
  retry_attempts := 0
  retry_arb_ids := []
  retry_edges_cents := []
  final_disposition := .pending
  final_reason := ""
  retried_arb_id := none

/-- `_handle_execution`, with the clock read when it starts: nothing is awaited before the
    cooldown is written. Returns the cooldowns and the record, if one was made. -/
def handle_execution (cfg : Config) (cooldowns : Cooldowns) (now : ℚ)
    (execution : ArbExecution) : Scheduled (Cooldowns × Option FailedTradeRecord) := do
  if execution.status ≠ .failed then return (cooldowns, none)
  else
    let noted := match cooldown_key (primary_leg execution) with
      | none => cooldowns
      | some key => note_rejection cfg cooldowns now key
    if suppressed cfg cooldowns now execution then return (noted, none)
    else
      let record ← retry_rounds cfg execution.opportunity cfg.max_retries (new_record execution)
      return (noted, some record)

/-! ## Section 6: Submissions -/

/-- What counts as a retry: a call of `execute_opportunity`. -/
def submissions : Call → ℕ
  | .execute_opportunity _ => 1
  | _ => 0

section submissions

variable {cfg : Config} {opp : Opportunity}

theorem requote_within : (requote cfg opp).Within submissions 0 := by
  rw [requote, within_ite]
  refine ⟨fun _ => ?_, fun _ => within_pure _ _⟩
  refine .call (zero_add 0) fun yes_quote => ?_
  cases yes_quote with
  | error exc => exact within_pure _ _
  | ok current_yes =>
    refine .call (zero_add 0) fun no_quote => ?_
    cases no_quote with
    | error exc => exact within_pure _ _
    | ok current_no => exact within_pure _ _

/-- A loop with `left` rounds to go submits at most `left` retries. -/
theorem retry_rounds_within {left : ℕ} {record : FailedTradeRecord} :
    (retry_rounds cfg opp left record).Within submissions left := by
  induction left generalizing record with
  | zero => exact within_ret _ _
  | succ left ih =>
    unfold retry_rounds
    refine .call (zero_add _) fun armed => ?_
    rw [within_ite]
    refine ⟨fun _ => within_pure _ _, fun _ => ?_⟩
    refine .call (zero_add _) fun _ => ?_
    refine .call (zero_add _) fun armed => ?_
    rw [within_ite]
    refine ⟨fun _ => within_pure _ _, fun _ => ?_⟩
    apply Prog.Within.free_bind requote_within
    intro quoted
    cases quoted with
    | error reason => exact within_pure _ _
    | ok fresh =>
      simp only [within_ite]
      refine ⟨fun _ => within_pure _ _, fun _ => ?_⟩
      -- the one submission of the round, and the rounds after it
      refine .call (add_comm 1 left) fun outcome => ?_
      rcases outcome with _ | (_ | result)
      · exact ih
      · exact ih
      · simp only [within_ite]
        exact ⟨fun _ => within_pure _ _, fun _ => ih⟩

/-- Handling one execution submits at most `max_retries` retries. -/
theorem handle_execution_within (cooldowns : Cooldowns) (now : ℚ) (execution : ArbExecution) :
    (handle_execution cfg cooldowns now execution).Within submissions cfg.max_retries := by
  unfold handle_execution
  simp only [within_ite]
  refine ⟨fun _ => within_pure _ _, fun _ => ⟨fun _ => within_pure _ _, fun _ => ?_⟩⟩
  have hrecord : cfg.max_retries = cfg.max_retries + 0 := rfl
  rw [hrecord]
  exact retry_rounds_within.bind fun _ => within_pure _ _

/-- Handling an execution that did not fail, or that is suppressed, submits nothing. -/
theorem handle_execution_skips {cooldowns : Cooldowns} {now : ℚ} {execution : ArbExecution}
    (h : execution.status = .failed → suppressed cfg cooldowns now execution) :
    (handle_execution cfg cooldowns now execution).Within submissions 0 := by
  unfold handle_execution
  simp only [within_ite]
  refine ⟨fun _ => within_pure _ _, fun hfailed => ⟨fun _ => within_pure _ _, fun hnot => ?_⟩⟩
  exact absurd (h (by simpa using hfailed)) hnot

end submissions

end Execution.RetryScheduler
