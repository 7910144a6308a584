import Arbiter.Safety.Supervisor
import Arbiter.Execution.Live

/-! # The Kill Switch during an Execution

  The trade gate reads the kill switch once. From there on an execution waits for the
  venues many times, and at any of those moments the switch may be tripped or reset. Two
  of the adapters can read it again before they post a buy, the others do not.

  The main result says in which runs no buy is posted while the switch is armed.
-/

namespace Execution

open Effect

/-! ## Section 1: From the gate on -/

/-- Calls of `_execute_opportunity_locked` from the trade gate on. -/
inductive Stage
  /-- `_check_trade_gate`: readiness, then the supervisor's `allow_execution`. -/
  | check_trade_gate (opp : Opportunity)
  | record_incident (incident : Incident)
  | queue_manual_execution (arb_id : String) (opp : Opportunity)
  | pre_trade_requote (arb_id : String) (opp : Opportunity)
  | audit_opportunity (arb_id : String) (opp : Opportunity)
  | simulate_execution (arb_id : String) (opp : Opportunity)
  | live_execution (arb_id : String) (opp : Opportunity)
  | audit_execution (execution : ArbExecution)
  | publish_execution (execution : ArbExecution)
  /-- `balance_monitor.alert_execution_result`: what it raises is caught. -/
  | alert_execution_result (execution : ArbExecution)

/-- What each answers. -/
@[reducible] def Stage.Result : Stage → Type
  | .check_trade_gate _ => Bool × String
  | .record_incident _ => Unit
  | .queue_manual_execution .. => Except String ArbExecution
  | .pre_trade_requote .. => Except String (Option Opportunity)
  | .audit_opportunity .. => Bool
  | .simulate_execution .. => ArbExecution
  | .live_execution .. => Except String (Option ArbExecution)
  | .audit_execution _ => Unit
  | .publish_execution _ => Unit
  | .alert_execution_result _ => Unit

/-- Programs at that level. -/
abbrev Staged := Prog Stage Stage.Result

/-- An execution that came to an end is audited, published and, unless it is manual,
    alerted on. -/
def finish_execution (alerts : Bool) (execution : ArbExecution) :
    Staged (Except String (Option ArbExecution)) := do
  let _ ← .send (Stage.audit_execution execution)
  let _ ← .send (Stage.publish_execution execution)
  if alerts then
    let _ ← .send (Stage.alert_execution_result execution)
    return .ok (some execution)
  else return .ok (some execution)

/-- The manual workflow: nothing is sent to a venue. -/
def manual_execution (arb_id : String) (opp : Opportunity) :
    Staged (Except String (Option ArbExecution)) := do
  if ← .send (Stage.audit_opportunity arb_id opp) then
    match ← .send (Stage.queue_manual_execution arb_id opp) with
    | .error err => return .error err
    | .ok execution => finish_execution false execution
  else return .ok none

/-- An audited opportunity is simulated or goes live. -/
def run_execution (dry_run : Bool) (arb_id : String) (opp : Opportunity) :
    Staged (Except String (Option ArbExecution)) := do
  if dry_run then
    let execution ← .send (Stage.simulate_execution arb_id opp)
    finish_execution true execution
  else
    match ← .send (Stage.live_execution arb_id opp) with
    | .error err => return .error err
    | .ok none => return .ok none
    | .ok (some execution) => finish_execution true execution

/-- What follows a gate that is open. -/
def past_gate (dry_run : Bool) (arb_id : String) (opp : Opportunity) :
    Staged (Except String (Option ArbExecution)) := do
  if opp.requires_manual then manual_execution arb_id opp
  else
    match ← .send (Stage.pre_trade_requote arb_id opp) with
    | .error err => return .error err
    | .ok none => return .ok none
    | .ok (some requoted) =>
        if ← .send (Stage.audit_opportunity arb_id requoted) then
          run_execution dry_run arb_id requoted
        else return .ok none

/-- The incident a closed gate raises, except in a dry run. -/
def report_blocked (dry_run : Bool) (arb_id : String) (opp : Opportunity) (reason : String) :
    Staged Unit :=
  if dry_run then .ret ()
  else .send (Stage.record_incident
    { arb_id := arb_id
      canonical_id := opp.canonical_id
      severity := .warning
      message := "Trade gate blocked execution: " ++ reason
      event_type := "trade_gate_blocked"
      legs := [] })

/-- `_execute_opportunity_locked` from the trade gate on. -/
def execute_opportunity (dry_run : Bool) (arb_id : String) (opp : Opportunity) :
    Staged (Except String (Option ArbExecution)) := do
  let (allowed, reason) ← .send (Stage.check_trade_gate opp)
  if allowed then past_gate dry_run arb_id opp
  else
    report_blocked dry_run arb_id opp reason
    return .ok none

/-! ## Section 2: Adapters and the switch -/

/-- The adapter classes. -/
inductive AdapterClass
  | kalshi
  | polymarket
  | polymarket_us
  | forecastex
  deriving DecidableEq

/-- `place_fok` and `place_ioc` begin with the gate `supervisor.is_armed`, where they are
    built with a supervisor. -/
def AdapterClass.has_gate : AdapterClass → Bool
  | kalshi => false
  | polymarket => false
  | polymarket_us => true
  | forecastex => true

/-- How the adapter of a platform was built. -/
structure Wiring where
  adapter : String → AdapterClass
  has_supervisor : String → Bool

/-- The adapter of the platform reads the switch before it posts a buy. -/
def Wiring.checks (wiring : Wiring) (platform : String) : Bool :=
  (wiring.adapter platform).has_gate && wiring.has_supervisor platform

/-- `build_polymarket_adapter` and `build_forecastex_adapter` pass no supervisor. -/
def main_wiring (polymarket_is_us : Bool) : Wiring where
  adapter := fun platform =>
    if platform = "polymarket" then if polymarket_is_us then .polymarket_us else .polymarket
    else if platform = "forecastex" then .forecastex
    else .kalshi
  has_supervisor := fun _ => false

/-- As the process wires them, no adapter reads the switch. -/
theorem main_wiring_checks (polymarket_is_us : Bool) (platform : String) :
    (main_wiring polymarket_is_us).checks platform = false :=
  Bool.and_false _

/-- The kill switch, as one execution meets it. -/
structure KillLog where
  safety : Safety.SafetyState
  /-- Ghost: tripped since the gate read it, and not reset since. -/
  since_gate : Bool
  /-- Ghost: tripped since an adapter was entered, and not reset since. -/
  since_entry : Bool
  /-- A buy was posted while the switch was armed. -/
  breached : Prop
  /-- A buy was posted although the switch had been tripped since it was last read. -/
  missed : Prop

namespace KillLog

/-- Before the gate. -/
def start (safety : Safety.SafetyState) : KillLog := ⟨safety, false, false, False, False⟩

/-- What `trip_kill` sets. -/
def trip (w : KillLog) (sup : Safety.Supervisor) (trip_by reason : String) (now : ℚ) : KillLog :=
  { w with
    safety := Safety.SafetyState.tripped sup trip_by reason now
    since_gate := true
    since_entry := true }

/-- What `reset_kill` sets. -/
def reset (w : KillLog) (reset_by : String) (now : ℚ) : KillLog :=
  { w with
    safety := { Safety.SafetyState.initial with last_reset_at := now, last_reset_by := reset_by }
    since_gate := false
    since_entry := false }

/-- A buy goes out to the venue. -/
def post (w : KillLog) (checks : Bool) : KillLog :=
  { w with
    breached := w.breached ∨ w.safety.armed = true
    missed := w.missed ∨ (if checks then w.since_entry else w.since_gate) = true }

end KillLog

/-- What others do to the switch while the execution waits. -/
inductive Meanwhile (sup : Safety.Supervisor) (w : KillLog) : KillLog → Prop
  | still : Meanwhile sup w w
  | trip {w₁ : KillLog} (before : Meanwhile sup w w₁) (hdisarmed : w₁.safety.armed = false)
      (trip_by reason : String) (now : ℚ) : Meanwhile sup w (w₁.trip sup trip_by reason now)
  | reset {w₁ : KillLog} (before : Meanwhile sup w w₁) (reset_by : String) (now : ℚ)
      (hcooled : ¬ (w₁.safety.armed = true ∧ now < w₁.safety.cooldown_until)) :
      Meanwhile sup w (w₁.reset reset_by now)

/-- An adapter that was entered posts its buy, or posts it again, or does not. -/
inductive Posting (sup : Safety.Supervisor) (checks : Bool) (w : KillLog) : KillLog → Prop
  | waits {w₁ : KillLog} (h : Meanwhile sup w w₁) : Posting sup checks w w₁
  | posts {w₁ w₂ : KillLog} (before : Posting sup checks w w₁)
      (h : Meanwhile sup (w₁.post checks) w₂) : Posting sup checks w w₂

/-- `place_fok` or `place_ioc` of an adapter. The gate raises, so the buy is not posted. -/
def Buys (sup : Safety.Supervisor) (checks : Bool) (w : KillLog)
    (answer : Except PlaceFailure Leg) (w' : KillLog) : Prop :=
  ∃ w₁, Meanwhile sup w w₁ ∧
    if checks = true ∧ w₁.safety.armed = true then
      (∃ err, answer = .error (.raised err)) ∧ w' = w₁
    else Posting sup checks { w₁ with since_entry := false } w'

/-- The venues, with the switch. Selling what is held opens nothing. -/
def watched (sup : Safety.Supervisor) (wiring : Wiring) : Env Call Answer KillLog where
  serve := fun w c a w' =>
    match c, a with
    | .place_fok platform _, a => Buys sup (wiring.checks platform) w a w'
    | .place_ioc platform _, a => Buys sup (wiring.checks platform) w a w'
    | _, _ => Meanwhile sup w w'

/-- `_live_execution` there: every step is a run of its program. -/
def live_watched (sup : Safety.Supervisor) (wiring : Wiring) (eng : Engine) :
    Env Proc Outcomes KillLog where
  serve := fun w p r w' =>
    match p, r with
    | .outside c, a => (watched sup wiring).serve w c a w'
    | .place_order_for_leg platform req use_ioc stub, r =>
        Exec (watched sup wiring) (place_order_for_leg eng platform req use_ioc stub none) w r w'
    | .execute_with_fallbacks leg skip, r =>
        Exec (watched sup wiring) (execute_with_fallbacks eng leg skip) w r w'
    | .recover_one_leg_risk arb_id opp leg_yes leg_no, r =>
        Exec (watched sup wiring) (recover_one_leg_risk eng arb_id opp leg_yes leg_no) w r w'

/-- The execution from the gate on. An open gate means that the supervisor allowed it. -/
def gated (sup : Safety.Supervisor) (wiring : Wiring) (eng : Engine) (cfg : LiveConfig) :
    Env Stage Stage.Result KillLog where
  serve := fun w c a w' =>
    match c, a with
    | .check_trade_gate _, (allowed, _) => ∃ w₁, Meanwhile sup w w₁ ∧
        (allowed = true → (Safety.allow_execution w₁.safety).1 = true) ∧
        w' = { w₁ with since_gate := false }
    | .live_execution arb_id opp, r =>
        Exec (live_watched sup wiring eng) (live_execution eng cfg arb_id opp) w r w'
    | _, _ => Meanwhile sup w w'

/-! ## Section 3: What the two readings are worth -/

section watched

variable {sup : Safety.Supervisor} {wiring : Wiring} {eng : Engine} {cfg : LiveConfig}
         {w w' : KillLog}

/-- An open gate read a switch that was not armed. -/
theorem disarmed_of_allowed {state : Safety.SafetyState}
    (h : (Safety.allow_execution state).1 = true) : state.armed = false := by
  unfold Safety.allow_execution at h
  by_cases harmed : state.armed = true
  · rw [if_pos harmed] at h
    cases h
  · simpa using harmed

/-- Whatever others do to the switch, no buy is posted. -/
theorem Meanwhile.flags (h : Meanwhile sup w w') :
    w'.breached = w.breached ∧ w'.missed = w.missed := by
  induction h with
  | still => exact ⟨rfl, rfl⟩
  | trip _ _ _ _ _ ih => exact ih
  | reset _ _ _ _ ih => exact ih

/-- A switch that was not armed when it was last read is armed if it was tripped since. -/
theorem Meanwhile.gate (h : Meanwhile sup w w') (hgate : w.safety.armed = w.since_gate) :
    w'.safety.armed = w'.since_gate := by
  induction h with
  | still => exact hgate
  | trip _ _ _ _ _ _ => rfl
  | reset _ _ _ _ _ => rfl

theorem Meanwhile.entry (h : Meanwhile sup w w') (hentry : w.safety.armed = w.since_entry) :
    w'.safety.armed = w'.since_entry := by
  induction h with
  | still => exact hentry
  | trip _ _ _ _ _ _ => rfl
  | reset _ _ _ _ _ => rfl

/-- The gate was open, and the two flags say the same. -/
structure Synced (w : KillLog) : Prop where
  gate : w.safety.armed = w.since_gate
  flags : w.breached ↔ w.missed

theorem Synced.meanwhile (h : Synced w) (hm : Meanwhile sup w w') : Synced w' := by
  obtain ⟨hbreached, hmissed⟩ := hm.flags
  refine ⟨hm.gate h.gate, ?_⟩
  rw [hbreached, hmissed]
  exact h.flags

/-- The reading that counts for a buy is the adapter's, where it has one. -/
theorem Synced.post {checks : Bool} (h : Synced w)
    (hentry : checks = true → w.safety.armed = w.since_entry) : Synced (w.post checks) := by
  refine ⟨h.gate, ?_⟩
  have hread : w.safety.armed = if checks then w.since_entry else w.since_gate := by
    cases checks with
    | false => exact h.gate
    | true => exact hentry rfl
  show w.breached ∨ w.safety.armed = true ↔
    w.missed ∨ (if checks then w.since_entry else w.since_gate) = true
  rw [h.flags, hread]

theorem Synced.posting {checks : Bool} (h : Synced w)
    (hentry : checks = true → w.safety.armed = w.since_entry) (hp : Posting sup checks w w') :
    Synced w' ∧ (checks = true → w'.safety.armed = w'.since_entry) := by
  induction hp with
  | waits hm => exact ⟨h.meanwhile hm, fun hchecks => hm.entry (hentry hchecks)⟩
  | posts _ hm ih =>
    obtain ⟨hsynced, hentry'⟩ := ih
    exact ⟨(hsynced.post hentry').meanwhile hm, fun hchecks => hm.entry (hentry' hchecks)⟩

/-- A placement: an adapter that checks is entered with the switch not armed. -/
theorem Synced.buys {checks : Bool} {answer : Except PlaceFailure Leg} (h : Synced w)
    (hb : Buys sup checks w answer w') : Synced w' := by
  obtain ⟨w₁, hm, hrest⟩ := hb
  have h₁ := h.meanwhile hm
  by_cases hgate : checks = true ∧ w₁.safety.armed = true
  · rw [if_pos hgate] at hrest
    obtain ⟨-, rfl⟩ := hrest
    exact h₁
  · rw [if_neg hgate] at hrest
    have hentered : Synced { w₁ with since_entry := false } := ⟨h₁.gate, h₁.flags⟩
    refine (hentered.posting (fun hchecks => ?_) hrest).1
    have harmed : ¬ w₁.safety.armed = true := fun hyes => hgate ⟨hchecks, hyes⟩
    simpa using harmed

theorem Synced.watched {c : Call} {a : Answer c} (h : Synced w)
    (hs : (watched sup wiring).serve w c a w') : Synced w' := by
  cases c with
  | place_fok platform req => exact h.buys hs
  | place_ioc platform req => exact h.buys hs
  | _ => exact h.meanwhile hs

/-- Every run against the venues. -/
theorem Synced.run {α : Type} {p : Exe α} {a : α} (h : Synced w)
    (hrun : Exec (Execution.watched sup wiring) p w a w') : Synced w' :=
  hrun.keeps (fun _ _ _ _ hs hw => hw.watched hs) h

theorem Synced.live {p : Proc} {a : Outcomes p} (h : Synced w)
    (hs : (live_watched sup wiring eng).serve w p a w') : Synced w' := by
  cases p with
  | outside c => exact h.watched hs
  | place_order_for_leg platform req use_ioc stub => exact h.run hs
  | execute_with_fallbacks leg skip => exact h.run hs
  | recover_one_leg_risk arb_id opp leg_yes leg_no => exact h.run hs

/-- The calls behind the gate. -/
def Stage.behind_gate : Stage → Prop
  | .check_trade_gate _ => False
  | _ => True

theorem Synced.staged {c : Stage} {a : c.Result} (h : Synced w) (hc : c.behind_gate)
    (hs : (gated sup wiring eng cfg).serve w c a w') : Synced w' := by
  cases c with
  | check_trade_gate opp => exact absurd hc id
  | live_execution arb_id opp => exact Exec.keeps (fun _ _ _ _ hs hw => hw.live hs) hs h
  | _ => exact h.meanwhile hs

/-! ### The gate is not asked again -/

theorem finish_execution_calls (alerts : Bool) (execution : ArbExecution) :
    (finish_execution alerts execution).Calls Stage.behind_gate := by
  unfold finish_execution
  apply Prog.Calls.bind (calls_send.2 trivial)
  intro _
  apply Prog.Calls.bind (calls_send.2 trivial)
  intro _
  apply calls_ite.2
  exact ⟨fun _ => .bind (calls_send.2 trivial) fun _ => calls_pure _, fun _ => calls_pure _⟩

theorem manual_execution_calls (arb_id : String) (opp : Opportunity) :
    (manual_execution arb_id opp).Calls Stage.behind_gate := by
  unfold manual_execution
  apply Prog.Calls.bind (calls_send.2 trivial)
  intro audited
  apply calls_ite.2
  refine ⟨fun _ => .bind (calls_send.2 trivial) fun queued => ?_, fun _ => calls_pure _⟩
  cases queued with
  | error err => exact calls_pure _
  | ok execution => exact finish_execution_calls false execution

theorem run_execution_calls (dry_run : Bool) (arb_id : String) (opp : Opportunity) :
    (run_execution dry_run arb_id opp).Calls Stage.behind_gate := by
  unfold run_execution
  apply calls_ite.2
  constructor
  · intro _
    exact .bind (calls_send.2 trivial) fun execution => finish_execution_calls true execution
  · intro _
    apply Prog.Calls.bind (calls_send.2 trivial)
    intro answer
    match answer with
    | .error err => exact calls_pure _
    | .ok none => exact calls_pure _
    | .ok (some execution) => exact finish_execution_calls true execution

theorem past_gate_calls (dry_run : Bool) (arb_id : String) (opp : Opportunity) :
    (past_gate dry_run arb_id opp).Calls Stage.behind_gate := by
  unfold past_gate
  apply calls_ite.2
  refine ⟨fun _ => manual_execution_calls arb_id opp, fun _ => ?_⟩
  apply Prog.Calls.bind (calls_send.2 trivial)
  intro answer
  match answer with
  | .error err => exact calls_pure _
  | .ok none => exact calls_pure _
  | .ok (some requoted) =>
    apply Prog.Calls.bind (calls_send.2 trivial)
    intro audited
    apply calls_ite.2
    exact ⟨fun _ => run_execution_calls dry_run arb_id requoted, fun _ => calls_pure _⟩

/-- A closed gate lets nothing out. -/
theorem report_blocked_flags (dry_run : Bool) (arb_id : String) (opp : Opportunity)
    (reason : String) : wp (gated sup wiring eng cfg) (report_blocked dry_run arb_id opp reason)
      (fun _ w' => w'.breached = w.breached ∧ w'.missed = w.missed) w := by
  unfold report_blocked
  refine wp_ite.2 ⟨fun _ => wp_ret.2 ⟨rfl, rfl⟩, fun _ => wp_send.2 fun _ w₁ hs => ?_⟩
  exact Meanwhile.flags hs

theorem execute_opportunity_flags (dry_run : Bool) (arb_id : String) (opp : Opportunity)
    (h : w.breached ↔ w.missed) : wp (gated sup wiring eng cfg)
      (execute_opportunity dry_run arb_id opp) (fun _ w' => w'.breached ↔ w'.missed) w := by
  unfold execute_opportunity
  refine wp_bind.2 (wp_send.2 fun answer w₁ hgate => ?_)
  obtain ⟨allowed, reason⟩ := answer
  obtain ⟨w₀, hm, hopen, rfl⟩ := hgate
  obtain ⟨hbreached, hmissed⟩ := hm.flags
  have hflags : w₀.breached ↔ w₀.missed := by
    rw [hbreached, hmissed]
    exact h
  refine wp_ite.2 ⟨fun hallowed => ?_, fun _ => ?_⟩
  · have hsynced : Synced { w₀ with since_gate := false } :=
      ⟨disarmed_of_allowed (hopen hallowed), hflags⟩
    have hkept : wp (gated sup wiring eng cfg) (past_gate dry_run arb_id opp) (fun _ => Synced)
        { w₀ with since_gate := false } :=
      (past_gate_calls dry_run arb_id opp).keeps (fun _ _ _ _ hc hs hw => hw.staged hc hs) hsynced
    exact wp_mono hkept fun _ _ hw => hw.flags
  · refine wp_bind.2 (wp_mono (report_blocked_flags dry_run arb_id opp reason) ?_)
    rintro _ w₂ ⟨hbreached₂, hmissed₂⟩
    refine wp_pure.2 ?_
    rw [hbreached₂, hmissed₂]
    exact hflags

end watched

/-! ## Section 4: When the switch holds -/

/-- A supervisor of one venue. -/
def one_venue : Safety.Supervisor where
  adapters := ["kalshi"]
  nodup := by decide
  min_cooldown_seconds := 30
  has_redis := false
  has_safety_store := false

/-- The primary, killed by Kalshi with nothing filled. -/
def killed_primary : Leg :=
  Order.synthetic "9f7" "kalshi" "KX-1" "mkt-1" .yes (2 / 5) 10 .cancelled ""

/-- The log once Kalshi's adapter posted the primary. -/
def bought (w : KillLog) : KillLog := ({ w with since_entry := false } : KillLog).post false

/-- The legs of that execution. -/
def killed_placed : Placed where
  primary_side := .yes
  primary := killed_primary
  secondary := placeholder "ARB-000001" "SKIPPED" ten_across .no (2 / 5) 10
    "Skipped: primary leg did not fill (sequential execution)"
  secondary_exception := none

/-- Kalshi alone, wired as the process wires it. -/
abbrev kalshi_live : Env Proc Outcomes KillLog :=
  live_watched one_venue (main_wiring false) (trading_engine false)

/-- A call that posts nothing may leave the switch alone. -/
theorem kalshi_live_still {c : Call} {a : Answer c} {w : KillLog}
    (hs : (watched one_venue (main_wiring false)).serve w c a w) :
    kalshi_live.serve w (.outside c) a w := hs

/-- The live execution places the primary and stops there. -/
theorem killed_run (w : KillLog) : ∃ execution,
    Exec kalshi_live (live_execution (trading_engine false) kalshi_first_config "ARB-000001"
      ten_across) w (.ok (some execution)) (bought w) := by
  have hposted : Buys one_venue false w (.ok killed_primary) (bought w) :=
    ⟨w, .still, .posts (.waits .still) .still⟩
  have hfree : (watched one_venue (main_wiring false)).serve w .db_write_failed false w := .still
  have hbuy : (watched one_venue (main_wiring false)).serve w
      (.place_ioc "kalshi" ten_across_primary) (.ok killed_primary) (bought w) := hposted
  have hplace : kalshi_live.serve w (.place_order_for_leg "kalshi" ten_across_primary true
      (some ⟨ten_across, some (1 / 5)⟩)) (.ok killed_primary) (bought w) :=
    .call hfree (.call hbuy (.ret _ _))
  have hsecond : Exec kalshi_live (place_secondary (trading_engine false) kalshi_first_config
      "ARB-000001" ten_across .no killed_primary 10) (bought w) killed_placed (bought w) := .ret _ _
  have hlegs := ten_across_run (trading_engine false) rfl (1 / 5) (fun _ => kalshi_live_still .still)
    (kalshi_live_still .still) (kalshi_live_still .still) hplace hsecond
  have happend : ∀ execution,
      kalshi_live.serve (bought w) (.outside (.append_execution execution)) () (bought w) :=
    fun _ => kalshi_live_still .still
  have hhalt : kalshi_live.serve (bought w) (.outside (.maybe_halt_on_daily_loss 0)) ()
      (bought w) := kalshi_live_still .still
  have hfailed : classify killed_placed.leg_yes killed_placed.leg_no = (.failed, false) := by
    decide +kernel
  have hsettled : ∃ execution, Exec kalshi_live (settle (trading_engine false) "ARB-000001"
      ten_across killed_placed.leg_yes killed_placed.leg_no) (bought w) execution (bought w) := by
    unfold settle
    rw [hfailed]
    exact ⟨_, .call (happend _) (.call hhalt (.ret _ _))⟩
  obtain ⟨execution, hsettled⟩ := hsettled
  exact ⟨execution, exec_bind.2 ⟨_, _, hlegs, exec_bind.2 ⟨_, _, hsettled, .ret _ _⟩⟩⟩

/-- The execution around it. -/
abbrev kalshi_gated : Env Stage Stage.Result KillLog :=
  gated one_venue (main_wiring false) (trading_engine false) kalshi_first_config

/-- The gate is open; `w` is what others made of the switch by the end of the re-quote. -/
theorem gated_run {w : KillLog} (hm : Meanwhile one_venue (.start .initial) w) : ∃ execution,
    Exec kalshi_gated (execute_opportunity false "ARB-000001" ten_across) (.start .initial)
      (.ok (some execution)) (bought w) := by
  have hgate : kalshi_gated.serve (.start .initial) (.check_trade_gate ten_across)
      (true, "safety supervisor approved") (.start .initial) := ⟨_, .still, fun _ => rfl, rfl⟩
  have hrequote : kalshi_gated.serve (.start .initial)
      (.pre_trade_requote "ARB-000001" ten_across) (.ok (some ten_across)) w := hm
  have haudit : kalshi_gated.serve w (.audit_opportunity "ARB-000001" ten_across) true w := .still
  obtain ⟨execution, hrun⟩ := killed_run w
  have hlive : kalshi_gated.serve w (.live_execution "ARB-000001" ten_across)
      (.ok (some execution)) (bought w) := hrun
  have haudited : kalshi_gated.serve (bought w) (.audit_execution execution) () (bought w) := .still
  have hpublish : kalshi_gated.serve (bought w) (.publish_execution execution) () (bought w) :=
    .still
  have halert : kalshi_gated.serve (bought w) (.alert_execution_result execution) ()
      (bought w) := .still
  exact ⟨execution, .call hgate (.call hrequote (.call haudit (.call hlive (.call haudited
    (.call hpublish (.call halert (.ret _ _)))))))⟩

end Execution
