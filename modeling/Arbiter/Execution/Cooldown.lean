import Arbiter.Execution.AutoExecutor
import Arbiter.Execution.EdgeFloor
import Arbiter.Execution.Gate
import Arbiter.Execution.OnRecord

/-! # Cooldowns after an Execution

  The auto-executor learns how a call of the engine ended over three channels: an execution
  with its status, nothing, or an exception. What it does next, whether the pair cools down
  and whether the call counts as one of the bootstrap trades, hangs on the channel. The
  engine raises again after a leg was filled and its hedge was not.

  ## Contents

  - Section 1: what the venues make of a call.
  - Section 2: a call of the engine, and what it is worth when nothing comes back.
  - Section 3: considerations that call the engine, and those that do not.
  - Section 4: when the next opportunity has to wait.
  - Section 5: the cooldown that is due, and when the executor keeps it.
  - Section 6: a hedge that raises.
-/

namespace AutoExecutor

open LTS Effect
open Execution
open Scanner (ArbitrageOpportunity)

/-! ## Section 1: The venues -/

/-- What the venues have seen of a call: whether an order was sent to one, and how many
    contracts were bought on each side by now. Nothing fills that was not sent. -/
structure VenueLog where
  reached : Bool
  bought : Side → ℕ
  sent_first : ∀ side, bought side ≠ 0 → reached = true

/-- No order yet. -/
def VenueLog.start : VenueLog := ⟨false, fun _ => 0, fun _ h => absurd rfl h⟩

/-- A leg was filled without its hedge: the sides do not have the same fill. -/
def VenueLog.naked (w : VenueLog) : Prop := w.bought .yes ≠ w.bought .no

instance (w : VenueLog) : Decidable w.naked := inferInstanceAs (Decidable (_ ≠ _))

/-- Orders fill as time goes by. -/
def VenueLog.Fills (w w' : VenueLog) : Prop := ∀ side, w.bought side ≤ w'.bought side

/-- The venues, with any answers they like. An adapter may also give up before it sends. -/
def venues : Env Call Answer VenueLog where
  serve := fun w c _ w' => w.Fills w' ∧
    match c with
    | .place_fok .. | .place_ioc .. | .place_resting_sell .. | .place_unwind_sell .. =>
        w.reached = true → w'.reached = true
    | _ => w'.reached = w.reached

/-- `_live_execution` there. -/
abbrev live_venues (eng : Engine) : Env Proc Outcomes VenueLog := venues.lift (step_program eng)

/-- `_execute_opportunity_locked` from the trade gate on. Only `_live_execution` sends. -/
def staged_venues (eng : Engine) (live : LiveConfig) : Env Stage Stage.Result VenueLog where
  serve := fun w c a w' =>
    match c, a with
    | .live_execution arb_id opp, r =>
        Exec (live_venues eng) (live_execution eng live arb_id opp) w r w'
    | _, _ => w' = w

/-! ## Section 2: A call of the engine -/

/-- What the executor makes of the end of a call. -/
def EngineResult.of : Except String (Option ArbExecution) → EngineResult
  | .error _ => .raised
  | .ok none => .no_result
  | .ok (some execution) => .result execution.status execution.realized_pnl

/-- A call of `execute_opportunity`, with its end and what the venues have of it: it is
    turned down or raises before the trade gate, or gets there. -/
inductive EngineCall (eng : Engine) (live : LiveConfig) (opp : Opportunity) :
    Except String (Option ArbExecution) → VenueLog → Prop
  | turned_down : EngineCall eng live opp (.ok none) .start
  | raised_early (err : String) : EngineCall eng live opp (.error err) .start
  | gated {dry_run : Bool} {arb_id : String} {r : Except String (Option ArbExecution)}
      {w : VenueLog} (hrun : Exec (staged_venues eng live)
        (execute_opportunity dry_run arb_id opp) .start r w) : EngineCall eng live opp r w

section none_returned

variable {eng : Engine} {live : LiveConfig} {arb_id : String} {opp : Opportunity}
         {w : VenueLog}

/-- Nothing comes back only if nothing was sent. -/
def NoneUnsent {α : Type} (r : Except String (Option α)) (w : VenueLog) : Prop :=
  r = .ok none → w.reached = false

theorem NoneUnsent.of_some {α : Type} {a : α} : NoneUnsent (.ok (some a)) w :=
  fun h => absurd h (by simp)

theorem NoneUnsent.of_error {α : Type} {err : String} :
    NoneUnsent (.error err : Except String (Option α)) w :=
  fun h => absurd h (by simp)

/-- A call to the outside is answered by the venues. -/
theorem outside_served {c : Call} {a : Answer c} {w' : VenueLog}
    (hs : (live_venues eng).serve w (.outside c) a w') : venues.serve w c a w' := by
  obtain ⟨a', w₁, hs, hend⟩ := exec_call.1 hs
  obtain ⟨rfl, rfl⟩ := exec_ret.1 hend
  exact hs

/-- Asking for a price or a balance sends no order. -/
theorem quotes_unsent {α : Type} {p : Live α} (hp : p.Calls Execution.Quotes)
    (hw : w.reached = false) :
    wp (live_venues eng) p (fun _ w' => w'.reached = false) w := by
  refine hp.keeps (fun w₁ c a w₂ hc hs h => ?_) hw
  cases c with
  | outside c =>
    have hserved := outside_served hs
    have hsame : w₂.reached = w₁.reached := by
      cases c <;> first | exact hc.elim | exact hserved.2
    rw [hsame]
    exact h
  | _ => exact hc.elim

theorem place_legs_none_unsent (hw : w.reached = false) :
    wp (live_venues eng) (place_legs eng live arb_id opp) NoneUnsent w := by
  unfold place_legs
  refine wp_bind.2 (wp_mono (quotes_unsent depth_gate_calls hw) fun depth w₁ hw₁ => ?_)
  match depth with
  | .error err => exact wp_pure.2 .of_error
  | .ok none => exact wp_pure.2 fun _ => hw₁
  | .ok (some effective_qty) =>
    refine wp_bind.2 (wp_mono (quotes_unsent walk_primary_calls hw₁) fun walk w₂ hw₂ => ?_)
    match walk with
    | .error err => exact wp_pure.2 .of_error
    | .ok none => exact wp_pure.2 fun _ => hw₂
    | .ok (some price) =>
      -- from the primary on, an execution or an exception comes back
      rw [wp_bind, place_primary, wp_send]
      intro answer w₃ _
      cases answer with
      | error err => exact wp_pure.2 .of_error
      | ok primary_leg =>
        rw [wp_bind]
        intro placed w₄ _
        exact wp_pure.2 .of_some

theorem execute_legs_none_unsent (hw : w.reached = false) :
    wp (live_venues eng) (execute_legs eng live arb_id opp) NoneUnsent w := by
  unfold execute_legs
  refine wp_bind.2 (wp_mono (quotes_unsent balance_gate_calls hw) fun short w₁ hw₁ => ?_)
  cases short with
  | some platform =>
    rw [wp_bind, wp_send]
    intro _ w₂ hs
    have hsame : w₂.reached = w₁.reached := (outside_served hs).2
    exact wp_pure.2 fun _ => hsame.trans hw₁
  | none =>
    simp only [wp_ite]
    exact ⟨fun _ => wp_pure.2 .of_some, fun _ => place_legs_none_unsent hw₁⟩

theorem live_execution_none_unsent (hw : w.reached = false) :
    wp (live_venues eng) (live_execution eng live arb_id opp) NoneUnsent w := by
  unfold live_execution
  refine wp_bind.2 (wp_mono (execute_legs_none_unsent hw) fun legs w₁ hlegs => ?_)
  match legs with
  | .error err => exact wp_pure.2 .of_error
  | .ok none => exact wp_pure.2 fun _ => hlegs rfl
  | .ok (some placed) =>
    rw [wp_bind]
    intro execution w₂ _
    cases placed.secondary_exception with
    | none => exact wp_pure.2 .of_some
    | some err => exact wp_pure.2 .of_error

theorem finish_execution_none_unsent (alerts : Bool) (execution : ArbExecution) :
    wp (staged_venues eng live) (finish_execution alerts execution) NoneUnsent w := by
  unfold finish_execution
  rw [wp_bind]
  intro _ w₁ _
  rw [wp_bind]
  intro _ w₂ _
  rw [wp_ite]
  constructor
  · intro _
    rw [wp_bind]
    intro _ w₃ _
    exact wp_pure.2 .of_some
  · intro _
    exact wp_pure.2 .of_some

theorem manual_execution_none_unsent (hw : w.reached = false) :
    wp (staged_venues eng live) (manual_execution arb_id opp) NoneUnsent w := by
  unfold manual_execution
  rw [wp_bind, wp_send]
  intro audited w₁ hs
  obtain rfl : w₁ = w := hs
  rw [wp_ite]
  constructor
  · intro _
    rw [wp_bind]
    intro queued w₂ _
    cases queued with
    | error err => exact wp_pure.2 .of_error
    | ok execution => exact finish_execution_none_unsent false execution
  · intro _
    exact wp_pure.2 fun _ => hw

theorem run_execution_none_unsent (dry_run : Bool) (hw : w.reached = false) :
    wp (staged_venues eng live) (run_execution dry_run arb_id opp) NoneUnsent w := by
  unfold run_execution
  rw [wp_ite]
  constructor
  · intro _
    rw [wp_bind]
    intro execution w₁ _
    exact finish_execution_none_unsent true execution
  · intro _
    rw [wp_bind, wp_send]
    intro answer w₁ hs
    have hnone : NoneUnsent answer w₁ := live_execution_none_unsent hw answer w₁ hs
    match answer with
    | .error err => exact wp_pure.2 .of_error
    | .ok none => exact wp_pure.2 fun _ => hnone rfl
    | .ok (some execution) => exact finish_execution_none_unsent true execution

theorem execute_opportunity_none_unsent (dry_run : Bool) (hw : w.reached = false) :
    wp (staged_venues eng live) (execute_opportunity dry_run arb_id opp) NoneUnsent w := by
  unfold execute_opportunity
  rw [wp_bind, wp_send]
  intro gate w₁ hs
  obtain rfl : w₁ = w := hs
  rw [wp_ite]
  constructor
  · intro _
    unfold past_gate
    rw [wp_ite]
    refine ⟨fun _ => manual_execution_none_unsent hw, fun _ => ?_⟩
    rw [wp_bind, wp_send]
    intro requote w₂ hs
    obtain rfl : w₂ = w₁ := hs
    -- a requote that is given up returns nothing, and has sent nothing
    match requote with
    | .error err => exact wp_pure.2 .of_error
    | .ok none => exact wp_pure.2 fun _ => hw
    | .ok (some requoted) =>
      rw [wp_bind, wp_send]
      intro audited w₃ hs
      obtain rfl : w₃ = w₂ := hs
      rw [wp_ite]
      exact ⟨fun _ => run_execution_none_unsent dry_run hw, fun _ => wp_pure.2 fun _ => hw⟩
  · intro _
    unfold report_blocked
    rw [wp_bind, wp_ite]
    constructor
    · intro _
      exact wp_ret.2 (wp_pure.2 fun _ => hw)
    · intro _
      rw [wp_send]
      intro _ w₂ hs
      obtain rfl : w₂ = w₁ := hs
      exact wp_pure.2 fun _ => hw

/-- **A call that returns nothing has sent no order.** -/
theorem EngineCall.none_unsent (h : EngineCall eng live opp (.ok none) w) : w.reached = false := by
  cases h with
  | turned_down => rfl
  | gated hrun => exact execute_opportunity_none_unsent _ rfl _ _ hrun rfl

/-- So no leg was filled. -/
theorem EngineCall.none_not_naked (h : EngineCall eng live opp (.ok none) w) : ¬ w.naked := by
  have hzero : ∀ side, w.bought side = 0 := by
    intro side
    by_contra hfilled
    have hreached := w.sent_first side hfilled
    rw [h.none_unsent] at hreached
    cases hreached
  intro hnaked
  exact hnaked ((hzero .yes).trans (hzero .no).symm)

end none_returned

/-! ## Section 3: Considerations that call the engine -/

/-- The consideration gets through to the engine, with `handed`. -/
structure Hands (cfg : AutoExecutorConfig) (s : State) (c : Consideration)
    (handed : ArbitrageOpportunity) : Prop where
  gates : gates cfg s c
  prepared : prepared cfg c = some handed
  room : s.bootstrap_full cfg = false
  open_gate : c.gate.1 = true

section considered

variable {cfg : AutoExecutorConfig} {s : State} {c : Consideration} {handed : ArbitrageOpportunity}

/-- What is prepared is of the same mapping. -/
theorem prepared_canonical_id (h : prepared cfg c = some handed) :
    handed.canonical_id = c.opp.canonical_id := by
  rw [prepared, Option.bind_eq_some_iff] at h
  obtain ⟨mid, hclamp, hflight⟩ := h
  have hmid : mid.canonical_id = c.opp.canonical_id := by
    rw [clamp_qty] at hclamp
    split at hclamp
    case isTrue =>
      simp only [Option.ite_none_left_eq_some, Option.some.injEq] at hclamp
      obtain ⟨-, -, rfl⟩ := hclamp
      rfl
    case isFalse =>
      cases hclamp
      rfl
  rw [← hmid]
  cases hquotes : c.quotes with
  | none =>
    rw [hquotes] at hflight
    cases hflight
    rfl
  | some quotes =>
    rw [hquotes] at hflight
    obtain ⟨yes, no, yes_rate, no_rate, -, hflight⟩ := pre_flight_checks_cases hflight
    obtain ⟨left, -, -, -, -, rfl⟩ := pre_flight_cases hflight
    split <;> rfl

/-- The state once the engine was called. -/
theorem Hands.consider (h : Hands cfg s c handed) :
    consider_opportunity cfg s c =
      { s.record_dedup cfg (dedup_key cfg c.opp c.now) c.now with
        handovers := ⟨c, handed⟩ :: s.handovers }.after_engine cfg c.opp.canonical_id c.engine
          c.engine_now := by
  have hroom : (s.record_dedup cfg (dedup_key cfg c.opp c.now) c.now).bootstrap_full cfg = false :=
    h.room
  rw [consider_opportunity, if_pos h.gates]
  simp only [h.prepared, hroom, h.open_gate, prepared_canonical_id h.prepared]
  rfl

/-- Any other consideration leaves the cooldowns and the count of executions alone. -/
theorem consider_unhanded (h : ∀ handed, ¬ Hands cfg s c handed) :
    (consider_opportunity cfg s c).failed_cooldown = s.failed_cooldown ∧
      (consider_opportunity cfg s c).executed = s.executed := by
  rw [consider_opportunity]
  by_cases hgates : gates cfg s c
  · rw [if_pos hgates]
    cases hprepared : prepared cfg c with
    | none => exact ⟨rfl, rfl⟩
    | some handed =>
      dsimp only
      by_cases hroom : s.bootstrap_full cfg = true
      · rw [if_pos (show (State.record_dedup _ _ _ _).bootstrap_full cfg = true from hroom)]
        exact ⟨rfl, rfl⟩
      · rw [if_neg (show ¬ (State.record_dedup _ _ _ _).bootstrap_full cfg = true from hroom)]
        by_cases hopen : c.gate.1 = true
        · exact absurd ⟨hgates, hprepared, Bool.eq_false_of_not_eq_true hroom, hopen⟩ (h handed)
        · rw [if_neg hopen, State.gate_closed]
          split <;> exact ⟨rfl, rfl⟩
  · rw [if_neg hgates]
    exact ⟨rfl, rfl⟩

end considered

/-! ### What follows a call -/

/-- A filled or submitted execution that did not lose. -/
def EngineResult.is_clean_fill : EngineResult → Bool
  | .result status realized_pnl =>
      decide ((status = .filled ∨ status = .submitted) ∧ 0 ≤ realized_pnl)
  | _ => false

/-- An execution came back. -/
def EngineResult.returned : EngineResult → Bool
  | .result .. => true
  | _ => false

/-- The cooldown of the mapping after a call: a failure sets it, a clean fill clears it, and
    anything else leaves it as it was. -/
def cooldown_after (cfg : AutoExecutorConfig) (s : State) (canonical_id : String)
    (result : EngineResult) (now : ℚ) : ℚ :=
  if result.is_failure then now + backoff_s cfg (s.failed_count canonical_id + 1) result
  else if result.is_clean_fill then 0
  else s.failed_cooldown canonical_id

section after_engine

variable (s : State) (cfg : AutoExecutorConfig) (canonical_id : String) (result : EngineResult)
         (now : ℚ)

/-- A failure is no clean fill. -/
theorem is_clean_fill_of_failure (h : result.is_failure = true) : result.is_clean_fill = false := by
  cases result with
  | result status realized_pnl => cases status <;> first | rfl | cases h
  | _ => rfl

/-- A call counts exactly when an execution comes back. -/
theorem after_engine_executed :
    (s.after_engine cfg canonical_id result now).executed =
      s.executed + if result.returned then 1 else 0 := by
  have hfailed : (s.failed cfg canonical_id result now).executed = s.executed := rfl
  cases result with
  | raised => rfl
  | no_result => rfl
  | result status realized_pnl =>
    simp only [State.after_engine]
    split <;> split <;> split <;> rfl

/-- The other mappings keep their cooldowns. -/
theorem after_engine_cooldown_other {other : String} (hne : other ≠ canonical_id) :
    (s.after_engine cfg canonical_id result now).failed_cooldown other =
      s.failed_cooldown other := by
  have hset : ∀ due, Function.update s.failed_cooldown canonical_id due other =
      s.failed_cooldown other := fun _ => Function.update_of_ne hne _ _
  cases result with
  | raised => rfl
  | no_result => exact hset _
  | result status realized_pnl =>
    simp only [State.after_engine]
    split <;> split <;> split <;> simp [State.failed, State.clean_fill, State.lost, hne]

theorem after_engine_cooldown :
    (s.after_engine cfg canonical_id result now).failed_cooldown canonical_id =
      cooldown_after cfg s canonical_id result now := by
  have hnot := is_clean_fill_of_failure result
  cases result with
  | raised => rfl
  | no_result => exact Function.update_self ..
  | result status realized_pnl =>
    unfold cooldown_after
    simp only [State.after_engine]
    by_cases hfailure : (EngineResult.result status realized_pnl).is_failure = true
    · -- a failure: the mapping is not cleared again
      have hclean : ¬ ((status = .filled ∨ status = .submitted) ∧ 0 ≤ realized_pnl) :=
        of_decide_eq_false (hnot hfailure)
      rw [if_pos hfailure, if_pos hfailure, if_neg hclean]
      split <;> simp [State.failed, State.lost]
    · rw [if_neg hfailure, if_neg hfailure, if_neg fun hlost => hfailure hlost.1]
      by_cases hclean : (status = .filled ∨ status = .submitted) ∧ 0 ≤ realized_pnl
      · have hfill : (EngineResult.result status realized_pnl).is_clean_fill = true :=
          decide_eq_true hclean
        rw [if_pos hclean, if_pos hfill]
        exact Function.update_self ..
      · have hno_fill : ¬ (EngineResult.result status realized_pnl).is_clean_fill = true :=
          fun hfill => hclean (of_decide_eq_true hfill)
        rw [if_neg hclean, if_neg hno_fill]

end after_engine

/-! ## Section 4: When the next opportunity has to wait -/

section waiting

variable {cfg : AutoExecutorConfig} {s s' : State} {c : Consideration} {canonical_id : String}
         {now due : ℚ}

/-- The engine is not called for this mapping. -/
def Spares (cfg : AutoExecutorConfig) (canonical_id : String) (s : State) (c : Consideration) :
    Prop :=
  ∀ handed, Hands cfg s c handed → c.opp.canonical_id ≠ canonical_id

/-- From `now` on, whatever else is considered meanwhile, the next opportunity of the mapping
    is not executed before `due`. -/
def Waits (cfg : AutoExecutorConfig) (canonical_id : String) (now due : ℚ) (s : State) : Prop :=
  ∀ cs s' c handed, Steps ((auto_executor cfg).restrict (Spares cfg canonical_id)) s cs s' →
    Hands cfg s' c handed → c.opp.canonical_id = canonical_id → now ≤ c.now → due ≤ c.now

/-- A consideration that spares the mapping leaves its cooldown, and uncounts no execution. -/
theorem spared_step (h : Spares cfg canonical_id s c) :
    (consider_opportunity cfg s c).failed_cooldown canonical_id = s.failed_cooldown canonical_id ∧
      s.executed ≤ (consider_opportunity cfg s c).executed := by
  by_cases hcall : ∃ handed, Hands cfg s c handed
  · obtain ⟨handed, hcall⟩ := hcall
    rw [hcall.consider, after_engine_cooldown_other _ _ _ _ _ (h handed hcall).symm,
      after_engine_executed]
    exact ⟨rfl, Nat.le_add_right _ _⟩
  · obtain ⟨hcooldown, hexecuted⟩ := consider_unhanded (not_exists.1 hcall)
    rw [hcooldown, hexecuted]
    exact ⟨rfl, le_rfl⟩

theorem spared_run {cs : List Consideration}
    (h : Steps ((auto_executor cfg).restrict (Spares cfg canonical_id)) s cs s') :
    s'.failed_cooldown canonical_id = s.failed_cooldown canonical_id ∧ s.executed ≤ s'.executed := by
  induction h with
  | nil s => exact ⟨rfl, le_rfl⟩
  | cons hs _ ih =>
    obtain ⟨hspares, rfl⟩ := hs
    obtain ⟨hcooldown, hexecuted⟩ := spared_step hspares
    exact ⟨ih.1.trans hcooldown, hexecuted.trans ih.2⟩

/-- Bootstrap trades that are used up stay used up. -/
theorem bootstrap_full_mono (hle : s.executed ≤ s'.executed) (h : s.bootstrap_full cfg = true) :
    s'.bootstrap_full cfg = true := by
  unfold State.bootstrap_full at h ⊢
  cases hlimit : cfg.bootstrap_trades with
  | none => simp [hlimit] at h
  | some limit =>
    simp only [hlimit, Option.any_some, decide_eq_true_eq] at h ⊢
    omega

/-- An opportunity of the mapping that every check lets through, but for the cooldown and the
    keys that were seen. -/
def free_pair (c : Consideration) (platform : String) (now : ℚ) : Consideration where
  opp :=
    { c.opp with
      yes_platform := platform, yes_market_id := "1", yes_price := 0
      no_platform := "kalshi", no_market_id := "2", no_price := 0
      gross_edge := 0, requires_manual := false }
  now := now
  is_armed := false
  mapping := .ok (some ⟨true, "confirmed", false, "1"⟩)
  should_skip := fun _ _ => false
  quotes := none
  depth := fun _ => none
  gate := (true, "")
  gate_now := now
  engine := .no_result
  engine_now := now

/-- One of its keys is new. -/
theorem exists_unseen (cfg : AutoExecutorConfig) (c : Consideration) (now : ℚ)
    (keys : List String) :
    ∃ platform, dedup_key cfg (free_pair c platform now).opp now ∉ keys := by
  -- a platform with a longer name than any key
  have hlong : ∃ n, ∀ key ∈ keys, key.length ≤ n := by
    induction keys with
    | nil => exact ⟨0, by simp⟩
    | cons key keys ih =>
      obtain ⟨n, hn⟩ := ih
      refine ⟨max key.length n, fun other hother => ?_⟩
      rcases List.mem_cons.1 hother with rfl | hold
      · omega
      · have := hn other hold
        omega
  obtain ⟨n, hn⟩ := hlong
  use String.ofList (List.replicate (n + 1) 'x')
  intro hmem
  have hle := hn _ hmem
  simp only [dedup_key, free_pair, String.length_append, String.length_ofList,
    List.length_replicate] at hle
  omega

/-- Such an opportunity is executed, once the cooldown is over and with bootstrap trades left. -/
theorem free_pair_handed {platform : String} (henabled : cfg.enabled = true)
    (hcap : 0 ≤ cfg.max_position_usd) (hroom : s.bootstrap_full cfg = false)
    (hcool : s.failed_cooldown c.opp.canonical_id ≤ now)
    (hunseen : dedup_key cfg (free_pair c platform now).opp now ∉ s.seen_dedup_keys.map Prod.fst) :
    Hands cfg s (free_pair c platform now) (free_pair c platform now).opp := by
  have hmapping : mapping_ok cfg (free_pair c platform now).opp
      (.ok (some ⟨true, "confirmed", false, "1"⟩)) = true := by
    have hforecastex : forecastex_ok ⟨true, "confirmed", false, "1"⟩
        (free_pair c platform now).opp := by
      intro _
      refine ⟨by decide, fun hno => ?_⟩
      exact absurd hno (show ¬ "kalshi" = "forecastex" by decide)
    have hconfirmed : "confirmed".toLower = "confirmed" := by decide +kernel
    simp [mapping_ok, hforecastex, hconfirmed]
  have hedge : ¬ suspicious_edge cfg (free_pair c platform now).opp := by
    rintro ⟨hceiling, hover⟩
    have hzero : (free_pair c platform now).opp.gross_edge = 0 := rfl
    rw [hzero] at hover
    linarith
  have hcost : ¬ cfg.max_position_usd < estimate_notional (free_pair c platform now).opp := by
    have hzero : estimate_notional (free_pair c platform now).opp = 0 := by
      simp [estimate_notional, free_pair]
    rw [hzero, NNRat.cast_zero]
    exact not_lt.2 hcap
  exact
    { gates := ⟨henabled, rfl, rfl, hmapping, hedge, hcool, rfl, rfl, hunseen⟩
      prepared := by
        rw [prepared, clamp_qty, if_neg hcost]
        rfl
      room := hroom
      open_gate := rfl }

/-- **The next opportunity has to wait** exactly when the bootstrap trades are used up, or the
    cooldown of the mapping lasts until then. -/
theorem waits_iff (henabled : cfg.enabled = true) (hcap : 0 ≤ cfg.max_position_usd)
    (hlater : now < due) (c : Consideration) :
    Waits cfg c.opp.canonical_id now due s ↔
      s.bootstrap_full cfg = true ∨ due ≤ s.failed_cooldown c.opp.canonical_id := by
  constructor
  · intro hwaits
    by_contra hnot
    rw [not_or, not_le, Bool.not_eq_true] at hnot
    obtain ⟨hroom, hover⟩ := hnot
    -- it comes as soon as the cooldown is over, under a key that is new
    obtain ⟨platform, hunseen⟩ := exists_unseen cfg c
      (max now (s.failed_cooldown c.opp.canonical_id)) (s.seen_dedup_keys.map Prod.fst)
    have hcall := free_pair_handed henabled hcap hroom (le_max_right _ _) hunseen
    have hdue := hwaits [] s _ _ (.nil s) hcall rfl (le_max_left _ _)
    exact absurd hdue (not_le.2 (max_lt hlater hover))
  · intro hcase cs s' c' handed hrun hcall hid _
    obtain ⟨hcooldown, hexecuted⟩ := spared_run hrun
    rcases hcase with hfull | hcool
    · have hstill := bootstrap_full_mono hexecuted hfull
      rw [hcall.room] at hstill
      cases hstill
    · have hgate : s'.failed_cooldown c'.opp.canonical_id ≤ c'.now := hcall.gates.2.2.2.2.2.1
      rw [hid, hcooldown] at hgate
      exact hcool.trans hgate

end waiting

/-! ## Section 5: The cooldown that is due -/

/-- The back-off of a first failure. -/
def base_backoff_s : ℚ := 300

/-- How long a mapping has to cool down: the base back-off, and after a naked leg the naked
    cooldown too. -/
def cooldown_due (cfg : AutoExecutorConfig) (w : VenueLog) : ℚ :=
  if w.naked then max base_backoff_s cfg.naked_cooldown_s else base_backoff_s

/-- What is asked of the executor about a call: unless it was a clean fill, the next
    opportunity of the mapping waits for the cooldown that is due; and the call counts if it
    sent an order. -/
structure CoolsDown (cfg : AutoExecutorConfig) (s : State) (c : Consideration) (w : VenueLog) :
    Prop where
  waits : c.engine.is_clean_fill = false →
    Waits cfg c.opp.canonical_id c.engine_now (c.engine_now + cooldown_due cfg w)
      (consider_opportunity cfg s c)
  counted : w.reached = true → (consider_opportunity cfg s c).executed = s.executed + 1

/-- This call is the last of the bootstrap trades. -/
def State.last_trade (s : State) (cfg : AutoExecutorConfig) : Prop :=
  ∃ limit, cfg.bootstrap_trades = some limit ∧ limit ≤ s.executed + 1

/-- No later call can come too soon. Nothing and a recovery always leave the cooldown that is
    due, a failed execution does unless a leg was naked for longer than the back-off. Any
    other end that is no clean fill leaves none, and only an older cooldown, or the end of the
    bootstrap trades, keeps the next call away. -/
def Covered (cfg : AutoExecutorConfig) (s : State) (c : Consideration) (w : VenueLog) : Prop :=
  let due := c.engine_now + cooldown_due cfg w
  match c.engine with
  | .no_result => True
  | .result .recovering _ => True
  | .result .failed _ =>
      s.last_trade cfg ∨
        (w.naked → cfg.naked_cooldown_s ≤ min (300 * 2 ^ s.failed_count c.opp.canonical_id) 3600)
  | .raised => w.reached = false ∧ due ≤ s.failed_cooldown c.opp.canonical_id
  | result =>
      result.is_clean_fill = true ∨ s.last_trade cfg ∨
        due ≤ s.failed_cooldown c.opp.canonical_id

section covered

variable {cfg : AutoExecutorConfig} {s : State} {c : Consideration} {handed : ArbitrageOpportunity}
         {w : VenueLog}

theorem base_backoff_le_due : base_backoff_s ≤ cooldown_due cfg w := by
  unfold cooldown_due
  split
  · exact le_max_left _ _
  · exact le_rfl

/-- A failure backs off at least as long as the first. -/
theorem base_backoff_le (count : ℕ) : base_backoff_s ≤ min (300 * 2 ^ count) 3600 := by
  have hpow : (1 : ℚ) ≤ 2 ^ count := one_le_pow₀ (by norm_num)
  unfold base_backoff_s
  apply le_min
  · linarith
  · norm_num

/-- The back-off of a failure that is no recovery, against what is due. -/
theorem due_le_backoff_iff (count : ℕ) :
    cooldown_due cfg w ≤ min (300 * 2 ^ count) 3600 ↔
      (w.naked → cfg.naked_cooldown_s ≤ min (300 * 2 ^ count) 3600) := by
  unfold cooldown_due
  by_cases hnaked : w.naked
  · rw [if_pos hnaked, max_le_iff]
    constructor
    · intro h _
      exact h.2
    · intro h
      exact ⟨base_backoff_le count, h hnaked⟩
  · rw [if_neg hnaked]
    constructor
    · intro _ h
      exact absurd h hnaked
    · intro _
      exact base_backoff_le count

/-- A recovery backs off for all that may be due. -/
theorem due_le_recovery (count : ℕ) (realized_pnl : ℚ) :
    cooldown_due cfg w ≤ backoff_s cfg (count + 1) (.result .recovering realized_pnl) := by
  have hbase := base_backoff_le count
  unfold cooldown_due
  split
  · exact max_le_max_right _ hbase
  · exact hbase.trans (le_max_left _ _)

/-- The executor is on and its cap is no negative amount, or the engine was not called. -/
theorem Hands.enabled (h : Hands cfg s c handed) :
    cfg.enabled = true ∧ 0 ≤ cfg.max_position_usd := by
  refine ⟨h.gates.1, ?_⟩
  have hprepared := h.prepared
  rw [AutoExecutor.prepared, Option.bind_eq_some_iff] at hprepared
  obtain ⟨mid, hclamp, -⟩ := hprepared
  have hcost := (clamp_qty_spec hclamp).2.1
  exact le_trans (by positivity) hcost

/-- The bootstrap trades are used up by a call exactly if it counts and was the last. -/
theorem Hands.bootstrap_full_iff (h : Hands cfg s c handed) :
    (consider_opportunity cfg s c).bootstrap_full cfg = true ↔
      c.engine.returned = true ∧ s.last_trade cfg := by
  have hexecuted : (consider_opportunity cfg s c).executed =
      s.executed + if c.engine.returned then 1 else 0 := by
    rw [h.consider, after_engine_executed]
    rfl
  have hroom := h.room
  unfold State.bootstrap_full State.last_trade at *
  rw [hexecuted]
  cases hlimit : cfg.bootstrap_trades with
  | none => simp
  | some limit =>
    simp only [hlimit, Option.any_some, decide_eq_true_eq, decide_eq_false_iff_not] at hroom ⊢
    by_cases hreturned : c.engine.returned = true
    · simp [hreturned]
    · simp [hreturned]
      omega

/-- The cooldown once the call is over. -/
theorem Hands.cooldown (h : Hands cfg s c handed) :
    (consider_opportunity cfg s c).failed_cooldown c.opp.canonical_id =
      cooldown_after cfg s c.opp.canonical_id c.engine c.engine_now := by
  rw [h.consider, after_engine_cooldown]
  rfl

theorem Hands.waits_iff (h : Hands cfg s c handed) :
    Waits cfg c.opp.canonical_id c.engine_now (c.engine_now + cooldown_due cfg w)
        (consider_opportunity cfg s c) ↔
      (c.engine.returned = true ∧ s.last_trade cfg) ∨
        c.engine_now + cooldown_due cfg w ≤
          cooldown_after cfg s c.opp.canonical_id c.engine c.engine_now := by
  have hdue : c.engine_now < c.engine_now + cooldown_due cfg w := by
    have hbase : base_backoff_s ≤ cooldown_due cfg w := base_backoff_le_due
    have hpos : (0 : ℚ) < base_backoff_s := by norm_num [base_backoff_s]
    linarith
  rw [AutoExecutor.waits_iff h.enabled.1 h.enabled.2 hdue c, h.bootstrap_full_iff, h.cooldown]

/-- **What the executor makes of a call.** -/
theorem Hands.cools_down_iff (h : Hands cfg s c handed)
    (hnone : c.engine = .no_result → w.reached = false ∧ ¬ w.naked) :
    CoolsDown cfg s c w ↔ Covered cfg s c w := by
  have hwaits := h.waits_iff (w := w)
  have hcount : (consider_opportunity cfg s c).executed = s.executed + 1 ↔
      c.engine.returned = true := by
    rw [h.consider, after_engine_executed]
    show s.executed + _ = s.executed + 1 ↔ _
    by_cases hreturned : c.engine.returned = true <;> simp [hreturned]
  have hsplit : CoolsDown cfg s c w ↔
      (c.engine.is_clean_fill = false → (c.engine.returned = true ∧ s.last_trade cfg) ∨
        c.engine_now + cooldown_due cfg w ≤
          cooldown_after cfg s c.opp.canonical_id c.engine c.engine_now) ∧
      (w.reached = true → c.engine.returned = true) := by
    rw [← hwaits, ← hcount]
    exact ⟨fun hcools => ⟨hcools.waits, hcools.counted⟩, fun ⟨hw, hc⟩ => ⟨hw, hc⟩⟩
  -- an execution that is no failure leaves the cooldown that there was
  have hother : ∀ result : EngineResult, result.returned = true → result.is_failure = false →
      ((result.is_clean_fill = false → (result.returned = true ∧ s.last_trade cfg) ∨
          c.engine_now + cooldown_due cfg w ≤
            cooldown_after cfg s c.opp.canonical_id result c.engine_now) ∧
        (w.reached = true → result.returned = true) ↔
      result.is_clean_fill = true ∨ s.last_trade cfg ∨
        c.engine_now + cooldown_due cfg w ≤ s.failed_cooldown c.opp.canonical_id) := by
    intro result hreturned hfailure
    cases hclean : result.is_clean_fill <;> simp [cooldown_after, hreturned, hfailure, hclean]
  rw [hsplit]
  unfold Covered
  cases hengine : c.engine with
  | raised =>
    simp [cooldown_after, EngineResult.is_clean_fill, EngineResult.is_failure,
      EngineResult.returned, and_comm]
  | no_result =>
    obtain ⟨hunsent, hpaired⟩ := hnone hengine
    have hle : cooldown_due cfg w ≤ backoff_s cfg (s.failed_count c.opp.canonical_id + 1)
        .no_result := (due_le_backoff_iff _).2 fun hnaked => absurd hnaked hpaired
    simp [cooldown_after, EngineResult.is_clean_fill, EngineResult.is_failure, hunsent, hle]
  | result status realized_pnl =>
    cases status with
    | failed =>
      have hiff : cooldown_due cfg w ≤ backoff_s cfg (s.failed_count c.opp.canonical_id + 1)
          (.result .failed realized_pnl) ↔ _ := due_le_backoff_iff _
      simp [cooldown_after, EngineResult.is_clean_fill, EngineResult.is_failure,
        EngineResult.returned, hiff]
    | recovering =>
      have hle : cooldown_due cfg w ≤ backoff_s cfg (s.failed_count c.opp.canonical_id + 1)
          (.result .recovering realized_pnl) := due_le_recovery _ _
      simp [cooldown_after, EngineResult.is_clean_fill, EngineResult.is_failure,
        EngineResult.returned, hle]
    | _ => exact hother _ rfl rfl

end covered

theorem of_eq_no_result {r : Except String (Option ArbExecution)}
    (h : EngineResult.of r = .no_result) : r = .ok none := by
  match r with
  | .error err => cases h
  | .ok none => rfl
  | .ok (some execution) => cases h

/-- **A call cools its mapping down, and counts, exactly in the cases covered.** In every
    state of the executor and for every end of a call of the engine: unless it was a clean
    fill, the next opportunity of the mapping waits for the base back-off, and for the naked
    cooldown where a leg was filled without its hedge, and the call counts as a bootstrap
    trade if it sent an order, if and only if the call is covered. -/
theorem cools_down_iff_covered (cfg : AutoExecutorConfig) (eng : Engine) (live : LiveConfig)
    (s : State) (c : Consideration) (handed : ArbitrageOpportunity)
    (hcall : Hands cfg s c handed) (r : Except String (Option ArbExecution)) (w : VenueLog)
    (hrun : EngineCall eng live handed.to_engine r w) (hend : c.engine = .of r) :
    CoolsDown cfg s c w ↔ Covered cfg s c w := by
  apply hcall.cools_down_iff
  intro hnone
  obtain rfl := of_eq_no_result (hend.symm.trans hnone)
  exact ⟨hrun.none_unsent, hrun.none_not_naked⟩

/-! ## Section 6: A hedge that raises -/

/-- An order is filled at once. -/
def VenueLog.buy (w : VenueLog) (req : OrderRequest) : VenueLog where
  reached := true
  bought := fun side => w.bought side + if side = req.side then req.qty else 0
  sent_first := fun _ _ => rfl

/-- Every order is filled, but the book of Polymarket cannot be read. Nothing can be sold. -/
def hedge_raises : Oracle Call Answer VenueLog := fun w c =>
  match c with
  | .place_fok platform req | .place_ioc platform req =>
      (.ok { Order.synthetic "9f1" platform req.market_id req.canonical_id req.side req.price
          req.qty .filled "" with fill_qty := req.qty, fill_price := req.price }, w.buy req)
  | .best_executable_price platform .. =>
      (if platform = "kalshi" then .ok (false, 0) else .error "503", w)
  | .place_resting_sell .. | .place_unwind_sell .. | .get_order .. => (.error "503", w)
  | .cancel_order .. | .list_open_orders_by_client_id .. | .smart_unwind .. => (.error "503", w)
  | .upsert_order .. | .record_arb_stub_with_leg .. | .record_arb _ => (.error "no store", w)
  | .mark_naked_leg_reconciled .. | .handle_one_leg_exposure .. => (.error "no store", w)
  | .check_depth .. => (.ok (true, 0), w)
  | .balance _ => (none, w)
  | .db_write_failed => (false, w)
  | .rounds_left _ => (0, w)
  | .handle_db_failure .. | .record_incident _ | .auto_resolve_recovery_incidents .. => ((), w)
  | .append_execution _ | .maybe_halt_on_daily_loss _ | .record_trade .. => ((), w)
  | .release_trade .. | .sleep _ => ((), w)

theorem hedge_raises_serves (w : VenueLog) (c : Call) :
    venues.serve w c (hedge_raises w c).1 (hedge_raises w c).2 := by
  have hsame : w.Fills w := fun _ => le_rfl
  have hbuy : ∀ req, w.Fills (w.buy req) := fun req side => Nat.le_add_right _ _
  cases c <;> first | exact ⟨hbuy _, fun _ => rfl⟩ | exact ⟨hsame, id⟩ | exact ⟨hsame, rfl⟩

/-- `_live_execution` there, with adapters on both venues. -/
def hedge_raises_run (opp : Opportunity) : Except String (Option ArbExecution) × VenueLog :=
  play (fun w p => play hedge_raises (step_program across_engine p) w)
    (live_execution across_engine kalshi_first_config "ARB-000001" opp) .start

/-- A raised call of the engine ends so. -/
theorem hedge_raises_call (opp : Opportunity) (hauto : opp.requires_manual = false)
    (hraised : (hedge_raises_run opp).1.isOk = false) :
    ∃ err, EngineCall across_engine kalshi_first_config opp (.error err)
      (hedge_raises_run opp).2 := by
  have hplay : Exec (live_venues across_engine)
      (live_execution across_engine kalshi_first_config "ARB-000001" opp) .start
      (hedge_raises_run opp).1 (hedge_raises_run opp).2 :=
    exec_play (fun w p => exec_play hedge_raises_serves (step_program across_engine p) w) _ _
  obtain ⟨err, herr⟩ : ∃ err, (hedge_raises_run opp).1 = .error err := by
    cases hend : (hedge_raises_run opp).1 with
    | error err => exact ⟨err, rfl⟩
    | ok _ =>
      rw [hend] at hraised
      cases hraised
  rw [herr] at hplay
  have hlive : (staged_venues across_engine kalshi_first_config).serve .start
      (.live_execution "ARB-000001" opp) (.error err) (hedge_raises_run opp).2 := hplay
  -- gate, requote and audit let it through
  have hrequote : (staged_venues across_engine kalshi_first_config).serve .start
      (.pre_trade_requote "ARB-000001" opp) (.ok (some opp)) .start := rfl
  have haudit : (staged_venues across_engine kalshi_first_config).serve .start
      (.audit_opportunity "ARB-000001" opp) true .start := rfl
  have hgate : (staged_venues across_engine kalshi_first_config).serve .start
      (.check_trade_gate opp) (true, "approved") .start := rfl
  have hpast : Exec (staged_venues across_engine kalshi_first_config)
      (past_gate false "ARB-000001" opp) .start (.error err) (hedge_raises_run opp).2 := by
    unfold past_gate
    rw [hauto]
    exact .call hrequote (.call haudit (.call hlive (.ret _ _)))
  have hrun : Exec (staged_venues across_engine kalshi_first_config)
      (execute_opportunity false "ARB-000001" opp) .start (.error err) (hedge_raises_run opp).2 :=
    .call hgate hpast
  exact ⟨err, .gated hrun⟩

/-- The pair of the house, considered at `now`; the call takes a second and raises. -/
def house_raises (now : ℚ) : Consideration :=
  { house_consideration Scanner.kalshi_quote with
    now := now
    gate_now := now
    engine := .raised
    engine_now := now + 1 }

/-- The executor after such a call. -/
def house_raised : State := consider_opportunity default_config idle (house_raises 1001)

/-- What is handed over: eleven contracts are bought on Kalshi, and none on Polymarket. -/
theorem house_raises_naked : ∃ handed err w,
    prepared default_config (house_consideration Scanner.kalshi_quote) = some handed ∧
      EngineCall across_engine kalshi_first_config handed.to_engine (.error err) w ∧
      w.reached = true ∧ w.naked := by
  have hany : ((prepared default_config (house_consideration Scanner.kalshi_quote)).any
      fun handed => decide (handed.requires_manual = false ∧
        (hedge_raises_run handed.to_engine).1.isOk = false ∧
        (hedge_raises_run handed.to_engine).2.reached = true ∧
        (hedge_raises_run handed.to_engine).2.naked)) = true := by
    decide +kernel
  obtain ⟨handed, hprepared, hall⟩ := (Option.any_eq_true _ _).1 hany
  obtain ⟨hauto, hraised, hreached, hnaked⟩ := of_decide_eq_true hall
  obtain ⟨err, hcall⟩ := hedge_raises_call handed.to_engine hauto hraised
  exact ⟨handed, err, _, hprepared, hcall, hreached, hnaked⟩

theorem house_raises_handed {handed : ArbitrageOpportunity}
    (h : prepared default_config (house_consideration Scanner.kalshi_quote) = some handed) :
    Hands default_config idle (house_raises 1001) handed where
  gates := by decide +kernel
  prepared := h
  room := rfl
  open_gate := rfl

/-- `cools_down_iff_covered` for that call. -/
theorem cools_down_iff_covered_house : ∃ w, w.naked ∧
    (CoolsDown default_config idle (house_raises 1001) w ↔
      Covered default_config idle (house_raises 1001) w) := by
  obtain ⟨handed, err, w, hprepared, hcall, -, hnaked⟩ := house_raises_naked
  exact ⟨w, hnaked, cools_down_iff_covered default_config across_engine kalshi_first_config idle _
    handed (house_raises_handed hprepared) _ w hcall rfl⟩

/-- **The pair fires again.** The primary fills, the hedge raises, and the engine raises again:
    no cooldown is set and nothing is counted, and nine seconds later the same opportunity is
    handed to the engine once more. -/
theorem naked_leg_fires_again : ∃ handed err w,
    Hands default_config idle (house_raises 1001) handed ∧
      EngineCall across_engine kalshi_first_config handed.to_engine (.error err) w ∧
      w.reached = true ∧ w.naked ∧
      Hands default_config house_raised (house_raises 1010) handed ∧
      house_raised.executed = 0 ∧ ¬ CoolsDown default_config idle (house_raises 1001) w := by
  obtain ⟨handed, err, w, hprepared, hcall, hreached, hnaked⟩ := house_raises_naked
  have hfirst := house_raises_handed hprepared
  have hagain : Hands default_config house_raised (house_raises 1010) handed :=
    { gates := by decide +kernel
      prepared := hprepared
      room := rfl
      open_gate := rfl }
  have huncounted : house_raised.executed = 0 := by decide +kernel
  refine ⟨handed, err, w, hfirst, hcall, hreached, hnaked, hagain, huncounted, fun hcools => ?_⟩
  -- the second call comes eight seconds after the first ended
  have hdue := hcools.waits rfl [] house_raised (house_raises 1010) handed (.nil _) hagain rfl
    (by norm_num [house_raises])
  have hbase : base_backoff_s ≤ cooldown_due default_config w := base_backoff_le_due
  norm_num [house_raises, base_backoff_s] at hdue hbase
  linarith

end AutoExecutor
