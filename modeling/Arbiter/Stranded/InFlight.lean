import Arbiter.Execution.Live
import Arbiter.Framework.Cooperative
import Arbiter.Stranded.Cap

/-! # The Reconciler beside a Running Execution

  The engine and the reconciler are tasks of one event loop. The reconciler looks at the
  engine's list of executions before it acts on a lot; an execution is on that list only
  once both of its legs are done.

  The main result says in which runs no mitigation order is submitted on a leg of an
  execution that is still running.

  ## Contents

  - Section 1: the executions under way, and the engine's list.
  - Section 2: the reconciler's calls, and the interleavings.
  - Section 3: the programs that submit nothing.
  - Section 4: one lot of the mitigation pass.
  - Section 5: every interleaving.
  - Section 6: a sale under an execution that has filled its primary.
-/

namespace Stranded

open Effect Execution LTS

/-! ## Section 1: The engine -/

/-- A `_live_execution` under way, and what is left of it. -/
structure Flight where
  arb_id : String
  opp : Opportunity
  rest : Live (Except String (Option ArbExecution))

/-- One of its legs is on the market. -/
def Flight.on (f : Flight) (key : Key) : Bool :=
  decide ((f.opp.yes_platform, f.opp.yes_market_id) = key) ||
    decide ((f.opp.no_platform, f.opp.no_market_id) = key)

/-- What the engine and the reconciler share. -/
structure World where
  /-- `engine._executions`. -/
  executions : List ArbExecution
  flights : List Flight
  reconciler : Reconciler
  /-- A mitigation order was submitted on a leg of an execution under way. -/
  touched : Bool
  /-- One was submitted where the guard did not see the execution. -/
  missed : Bool

/-- `MAX_EXECUTION_HISTORY`. -/
def max_execution_history : ℕ := 1000

/-- `_trim_executions`. -/
def trim_executions (executions : List ArbExecution) : List ArbExecution :=
  executions.drop (executions.length - max_execution_history)

/-- What a call of an execution does to the list. -/
def noted (executions : List ArbExecution) : Proc → List ArbExecution
  | .outside (.append_execution execution) => trim_executions (executions ++ [execution])
  | _ => executions

/-- A step of the engine. -/
inductive EngineStep (eng : Engine) (cfg : LiveConfig) (w : World) : World → Prop
  /-- An execution goes live. -/
  | launch (arb_id : String) (opp : Opportunity) :
      EngineStep eng cfg w
        { w with flights := ⟨arb_id, opp, live_execution eng cfg arb_id opp⟩ :: w.flights }
  /-- A call of an execution is answered. -/
  | progress (before after : List Flight) (f : Flight) (c : Proc)
      (k : Outcomes c → Live (Except String (Option ArbExecution))) (a : Outcomes c)
      (hflights : w.flights = before ++ f :: after) (hrest : f.rest = .call c k) :
      EngineStep eng cfg w
        { w with
          flights := before ++ { f with rest := k a } :: after
          executions := noted w.executions c }
  /-- An execution comes to its end. -/
  | finish (before after : List Flight) (f : Flight) (r : Except String (Option ArbExecution))
      (hflights : w.flights = before ++ f :: after) (hrest : f.rest = .ret r) :
      EngineStep eng cfg w { w with flights := before ++ after }
  /-- A simulated or a manual execution is put on the list. -/
  | append (execution : ArbExecution) :
      EngineStep eng cfg w
        { w with executions := trim_executions (w.executions ++ [execution]) }
  /-- A manual execution gets another status. -/
  | update (arb_id : String) (status : ExecStatus) :
      EngineStep eng cfg w
        { w with
          executions := w.executions.map fun execution =>
            if execution.arb_id = arb_id then { execution with status := status } else execution }

/-! ## Section 2: The reconciler -/

/-- A leg on the market. -/
def leg_at (key : Key) (leg : Leg) : Bool :=
  leg.platform.toLower = key.1.toLower ∧ leg.market_id = key.2

/-- The engine's list shows the execution on the market, and not as terminal. -/
def World.lists (w : World) (f : Flight) (key : Key) : Bool :=
  w.executions.any fun ex => decide (ex.arb_id = f.arb_id) &&
    (decide (ex.status.value.toLower ∉ terminal_statuses) &&
      (leg_at key ex.leg_yes || leg_at key ex.leg_no))

/-- The two kinds of orders: one for the missing leg of a lot, one on the lot's own
    market. -/
inductive Mitigation
  | completion
  | sale
  deriving DecidableEq

/-- The guard does not keep such an order from the execution: it never looks at the market
    of a missing leg, and elsewhere it sees what the list shows. -/
def World.blind (cfg : Config) (w : World) (kind : Mitigation) (key : Key) (f : Flight) : Bool :=
  decide (kind = .completion) || !cfg.has_engine || !w.lists f key

/-- An order is submitted on the market. -/
def World.submit (cfg : Config) (w : World) (kind : Mitigation) (key : Key) : World :=
  { w with
    touched := w.touched || w.flights.any fun f => f.on key
    missed := w.missed || w.flights.any fun f => f.on key && w.blind cfg kind key f }

/-- What a call of the reconciler does to the world. -/
def World.after (cfg : Config) (w : World) : Call → World
  | .place_fok venue order => w.submit cfg .completion (venue, order.market_id)
  | .place_unwind_sell platform order => w.submit cfg .sale (platform, order.market_id)
  | _ => w

/-- The calls that wait for nobody. -/
def suspends : Call → Bool
  | .configured _ => false
  | .venue_truth_available _ => false
  | .time => false
  | .executions => false
  | _ => true

/-- The reconciler's calls. The venues, the store and the clock may answer anything. -/
def amid (cfg : Config) : Env Call Answer World where
  serve := fun w c a w' =>
    w' = w.after cfg c ∧
      match c, a with
      | .executions, executions => executions = w.executions
      | _, _ => True

/-- Every interleaving of the reconciler's cycles with the engine. -/
def interleaved (cfg : Config) (eng : Engine) (live : LiveConfig) :
    System (Task Call Answer World Reconciler) Turn :=
  cooperative (amid cfg) suspends (fun w => run_once cfg w.reconciler)
    (fun s w => { w with reconciler := s }) (EngineStep eng live)
    (fun w => w.executions = [] ∧ w.flights = [] ∧ w.reconciler = .new ∧
      w.touched = false ∧ w.missed = false)

/-! ## Section 3: Programs that submit nothing -/

/-- Calls that submit no order. -/
def Harmless : Call → Prop
  | .place_fok .. => False
  | .place_unwind_sell .. => False
  | _ => True

theorem Harmless.after {c : Call} (h : Harmless c) (cfg : Config) (w : World) :
    w.after cfg c = w := by
  cases c <;> first | rfl | exact h.elim

theorem Idle.harmless {c : Call} (h : Idle c) : Harmless c := by
  cases c <;> first | exact h | trivial

section harmless

variable {cfg : Config} {s : Reconciler}

theorem quoted_harmless {platform : String} {mtm : Lot → Quote → ℚ} {ask : Lot → Recon Quote}
    (hask : ∀ lot, (ask lot).Calls Harmless) (lots : List Lot) :
    (quoted platform mtm ask lots).Calls Harmless := by
  induction lots with
  | nil => exact calls_pure _
  | cons lot rest ih =>
    unfold quoted
    exact .bind (hask lot) fun _ => .bind (calls_send.2 trivial) fun _ => ih.bind fun _ =>
      calls_pure _

theorem fetch_harmless {platform : String} {portfolio : Recon (Option (List Lot))}
    {mtm : Lot → Quote → ℚ} {ask : Lot → Recon Quote} (hportfolio : portfolio.Calls Harmless)
    (hask : ∀ lot, (ask lot).Calls Harmless) :
    (fetch platform portfolio mtm ask).Calls Harmless := by
  unfold fetch
  apply Prog.Calls.bind (calls_send.2 trivial)
  intro configured
  cases configured with
  | false => exact calls_pure _
  | true =>
    apply hportfolio.bind
    intro lots
    cases lots with
    | none => exact calls_pure _
    | some lots => exact (quoted_harmless hask lots).bind fun _ => calls_pure _

theorem survey_harmless : (survey cfg).Calls Harmless := by
  -- one call for the portfolio, one for each quote
  have hone : ∀ {β : Type} {c : Call} {f : Answer c → β}, Harmless c →
      (do return f (← .send c) : Recon β).Calls Harmless :=
    fun hc => .bind (calls_send.2 hc) fun _ => calls_pure _
  have hkalshi : (fetch_kalshi_positions cfg).Calls Harmless :=
    fetch_harmless (hone trivial) fun _ => hone trivial
  have hpolymarket : (fetch_polymarket_us_positions cfg).Calls Harmless := by
    unfold fetch_polymarket_us_positions
    rw [calls_ite]
    exact ⟨fun _ => calls_ret _, fun _ => fetch_harmless (hone trivial) fun _ => hone trivial⟩
  have hforecastex : (fetch_forecastex_positions cfg).Calls Harmless :=
    fetch_harmless (hone trivial) fun _ => hone trivial
  exact hkalshi.bind fun _ => hpolymarket.bind fun _ => hforecastex.bind fun _ => calls_pure _

theorem net_harmless : (net cfg s).Calls Harmless := by
  unfold net load_paired_inventory
  apply Prog.Calls.bind
  · rw [calls_ite]
    exact ⟨fun _ => .bind (calls_send.2 trivial) fun _ => calls_pure _, fun _ => calls_pure _⟩
  · intro _
    exact calls_pure _

theorem decide_one_harmless (pos : StrandedPosition) : (decide_one pos).Calls Harmless := by
  unfold decide_one
  rw [calls_ite]
  refine ⟨fun _ => calls_pure _, fun _ => ?_⟩
  apply Prog.Calls.bind (calls_send.2 trivial)
  intro answer
  cases answer with
  | none => exact calls_pure _
  | some decision => exact calls_pure _

theorem decide_all_harmless (l : List StrandedPosition) (t : Tracker) :
    (decide_all l t).Calls Harmless := by
  induction l generalizing t with
  | nil => exact calls_pure _
  | cons pos rest ih =>
    unfold decide_all
    exact (decide_one_harmless pos).bind fun decided => ih _

theorem refresh_decisions_harmless {deferred : Bool} :
    (refresh_decisions cfg deferred s).Calls Harmless := by
  unfold refresh_decisions
  simp only [calls_ite]
  refine ⟨fun _ => calls_pure _, fun _ => ⟨fun _ => ?_, fun _ => calls_pure _⟩⟩
  exact (decide_all_harmless _ _).bind fun _ => calls_pure _

theorem sweep_arbs_harmless {covered : List String} {raw : List Key} (arbs : List ListedArb)
    (resolved : ℕ) (seen : List String) (s : Reconciler) :
    (sweep_arbs cfg covered raw arbs resolved seen s).Calls Harmless := by
  induction arbs generalizing resolved seen s with
  | nil => exact calls_pure _
  | cons arb rest ih =>
    unfold sweep_arbs
    simp only [calls_ite]
    refine ⟨fun _ => ih _ _ _, fun _ => ⟨fun _ => ih _ _ _, fun _ => ⟨fun _ => ih _ _ _, fun _ => ?_⟩⟩⟩
    apply Prog.Calls.bind (calls_send.2 trivial)
    intro answer
    cases answer with
    | none => exact calls_pure _
    | some _ =>
      apply Prog.Calls.bind (announce_closed_idle.mono fun _ => Idle.harmless)
      intro _
      rw [calls_ite]
      exact ⟨fun _ => calls_pure _, fun _ => ih _ _ _⟩

theorem sweep_phantom_records_harmless {raw : List Key} {failed_platforms : List String} :
    (sweep_phantom_records cfg raw failed_platforms s).Calls Harmless := by
  unfold sweep_phantom_records
  rw [calls_ite]
  refine ⟨fun _ => calls_pure _, fun _ => ?_⟩
  apply Prog.Calls.bind ((covered_platforms_idle _).mono fun _ => Idle.harmless)
  intro covered
  apply Prog.Calls.bind (calls_send.2 trivial)
  intro answer
  cases answer with
  | none => exact calls_pure _
  | some arbs =>
    apply Prog.Calls.bind (sweep_arbs_harmless arbs _ _ _)
    intro r
    obtain ⟨s', seen⟩ := r
    cases seen with
    | none => exact calls_pure _
    | some seen => exact calls_pure _

theorem mark_close_attempt_harmless {key : Key} : (mark_close_attempt s key).Calls Harmless :=
  .bind (calls_send.2 trivial) fun _ => calls_pure _

end harmless

/-! ## Section 4: One lot -/

/-- Every order that touched an execution was one the guard could not hold back. -/
def Accountable (w : World) : Prop := w.touched = true ↔ w.missed = true

/-- The engine may act any number of times. -/
abbrev rely (eng : Engine) (live : LiveConfig) : World → World → Prop :=
  Relation.ReflTransGen (EngineStep eng live)

section mitigation

variable {cfg : Config} {eng : Engine} {live : LiveConfig} {s : Reconciler}
         {pos : StrandedPosition} {w w' : World}

/-- The engine submits no mitigation order. -/
theorem EngineStep.flags (h : EngineStep eng live w w') :
    w'.touched = w.touched ∧ w'.missed = w.missed := by
  cases h <;> exact ⟨rfl, rfl⟩

theorem Accountable.step (h : Accountable w) (hs : EngineStep eng live w w') : Accountable w' := by
  rw [Accountable, hs.flags.1, hs.flags.2]
  exact h

theorem Accountable.meanwhile (h : Accountable w) (hr : rely eng live w w') : Accountable w' := by
  induction hr with
  | refl => exact h
  | tail _ hs ih => exact ih.step hs

/-- A program that submits nothing, whatever the engine does meanwhile. -/
theorem harmless_yields {α : Type} {p : Recon α} (hp : p.Calls Harmless) (hw : Accountable w) :
    Yields (amid cfg) suspends (rely eng live) Accountable (fun _ => Accountable) p w := by
  apply hp.yields hw
  · intro w₁ w₂ h hr
    exact h.meanwhile hr
  · intro w₁ c a w₂ hc h hs
    rw [hs.1, hc.after]
    exact h

/-- The guard lets the lot through. -/
def Passed (cfg : Config) (pos : StrandedPosition) (w : World) : Prop :=
  cfg.has_engine = true → is_part_of_active_arb w.executions pos = false

/-- Behind the guard, the engine's list shows no execution on the market of the lot. -/
theorem Passed.blind (h : Passed cfg pos w) (f : Flight) : w.blind cfg .sale pos.key f = true := by
  by_cases hengine : cfg.has_engine = true
  · have hnone := h hengine
    have hlists : w.lists f pos.key = false := by
      rw [Bool.eq_false_iff]
      intro hyes
      rcases List.any_eq_true.1 hyes with ⟨ex, hex, hshown⟩
      have hactive : is_part_of_active_arb w.executions pos = true := by
        apply List.any_eq_true.2
        refine ⟨ex, hex, ?_⟩
        simp only [Bool.and_eq_true, Bool.or_eq_true, leg_at, decide_eq_true_eq] at hshown
        simpa [on_market, StrandedPosition.key] using hshown.2
      rw [hnone] at hactive
      exact absurd hactive (by decide)
    simp [World.blind, hlists]
  · simp [World.blind, hengine]

/-- A sale behind the guard. -/
theorem Passed.sale (h : Passed cfg pos w) (hw : Accountable w) :
    Accountable (w.submit cfg .sale pos.key) := by
  have hsame : ∀ f : Flight, (f.on pos.key && w.blind cfg .sale pos.key f) = f.on pos.key := by
    intro f
    rw [h.blind f, Bool.and_true]
  have hboth : w.touched = w.missed := Bool.eq_iff_iff.2 hw
  simp [Accountable, World.submit, hsame, hboth]

/-- An order for a missing leg, which no guard looks at. -/
theorem Accountable.completion (hw : Accountable w) (key : Key) :
    Accountable (w.submit cfg .completion key) := by
  have hboth : w.touched = w.missed := Bool.eq_iff_iff.2 hw
  simp [Accountable, World.submit, World.blind, hboth]

/-- The cap either lets the order go with nobody in between, or it is not submitted. -/
theorem cum_cap_allows_yields {qty : ℕ} {G : World → Prop} (hG : G w) (hw : Accountable w) :
    Yields (amid cfg) suspends (rely eng live) Accountable
      (fun r w' => Accountable w' ∧ (r.2 = true → G w')) (cum_cap_allows cfg s pos qty) w := by
  unfold cum_cap_allows
  simp only [yields_ite]
  refine ⟨fun _ => ⟨hw, fun _ => hG⟩, fun _ => ?_⟩
  apply Yields.bind (harmless_yields mark_close_attempt_harmless hw)
  intro s₁ w₁ h₁
  rw [yields_ite]
  refine ⟨fun _ => ?_, fun _ => ⟨h₁, fun hno => Bool.noConfusion hno⟩⟩
  have hincident : (Prog.send (Call.record_incident (.stranded_close_cap pos
      (s.cum_close_submitted pos.key) (max (s.max_observed_qty pos.key) |pos.qty|))) :
      Recon Unit).Calls Harmless := calls_send.2 trivial
  apply Yields.bind (harmless_yields hincident h₁)
  intro _ w₂ h₂
  exact ⟨h₂, fun hno => Bool.noConfusion hno⟩

/-- A call that submits an order. -/
theorem place_yields {c : Call} (hw : Accountable (w.after cfg c)) :
    Yields (amid cfg) suspends (rely eng live) Accountable (fun _ => Accountable)
      (.send c) w := by
  intro a w₁ hs
  rw [← hs.1] at hw
  exact ⟨hw, fun _ => hw, fun _ w₂ hr => hw.meanwhile hr⟩

/-- An order that is submitted right where the cap let it go. -/
theorem submit_yields {qty : ℕ} {G : World → Prop} {place : Recon Placement}
    (hplace : ∀ w, G w → Accountable w →
      Yields (amid cfg) suspends (rely eng live) Accountable (fun _ => Accountable) place w)
    (hG : G w) (hw : Accountable w) :
    Yields (amid cfg) suspends (rely eng live) Accountable (fun _ => Accountable)
      (submit cfg s pos qty place) w := by
  unfold submit
  apply Yields.bind (cum_cap_allows_yields hG hw)
  intro r w₁ h₁
  obtain ⟨s₁, allowed⟩ := r
  dsimp only
  rw [yields_ite]
  refine ⟨fun _ => h₁.1, fun hallowed => ?_⟩
  have hgo : G w₁ := h₁.2 (by simpa using hallowed)
  apply Yields.bind (hplace w₁ hgo h₁.1)
  intro placement w₂ h₂
  cases placement with
  | returned order =>
    have hcalls : ∀ s₂ : Reconciler, (do
        Prog.send (Call.persist_close_attempt pos.key order)
        return s₂ : Recon Reconciler).Calls Harmless :=
      fun s₂ => .bind (calls_send.2 trivial) fun _ => calls_pure _
    apply Yields.bind (harmless_yields mark_close_attempt_harmless h₂)
    intro s₂ w₃ h₃
    exact harmless_yields (hcalls _) h₃
  | raised err accepted => exact harmless_yields mark_close_attempt_harmless h₂

theorem close_lot_yields (hpassed : Passed cfg pos w) (hw : Accountable w) :
    Yields (amid cfg) suspends (rely eng live) Accountable (fun _ => Accountable)
      (close_lot cfg s pos) w := by
  apply submit_yields (G := Passed cfg pos) _ hpassed hw
  intro w₁ hpassed₁ h₁
  exact place_yields (hpassed₁.sale h₁)

theorem execute_complete_arb_yields (info : MissingLeg) (hw : Accountable w) :
    Yields (amid cfg) suspends (rely eng live) Accountable (fun _ => Accountable)
      (execute_complete_arb cfg s pos info) w := by
  have hsubmit : ∀ w, Accountable w →
      Yields (amid cfg) suspends (rely eng live) Accountable (fun _ => Accountable)
        (submit cfg s pos info.qty (.send (Call.place_fok info.venue (complete_order pos info))))
        w := by
    intro w₁ h₁
    apply submit_yields (G := fun _ => True) _ trivial h₁
    intro w₂ _ h₂
    exact place_yields (h₂.completion _)
  unfold execute_complete_arb
  simp only [yields_ite]
  refine ⟨fun _ => harmless_yields mark_close_attempt_harmless hw, fun _ => ⟨fun _ => ?_, fun _ =>
    hsubmit w hw⟩⟩
  have hquotes : (Prog.send (Call.get_all_for_market info.canonical_id) : Recon _).Calls Harmless :=
    calls_send.2 trivial
  apply Yields.bind (harmless_yields hquotes hw)
  intro quotes w₁ h₁
  rw [yields_ite]
  exact ⟨fun _ => hsubmit w₁ h₁, fun _ => harmless_yields mark_close_attempt_harmless h₁⟩

theorem act_on_yields (hpassed : Passed cfg pos w) (hw : Accountable w) :
    Yields (amid cfg) suspends (rely eng live) Accountable (fun _ => Accountable)
      (act_on cfg s pos) w := by
  unfold act_on
  split
  case h_1 decision _ _ =>
    unfold execute_decision
    split
    case h_1 info _ _ => exact execute_complete_arb_yields info hw
    case h_2 =>
      unfold execute_close_now
      rw [yields_ite]
      exact ⟨fun _ => harmless_yields mark_close_attempt_harmless hw,
        fun _ => close_lot_yields hpassed hw⟩
    case h_3 => exact hw
  case h_2 =>
    unfold maybe_auto_close
    rw [yields_ite]
    exact ⟨fun _ => close_lot_yields hpassed hw, fun _ => hw⟩

/-- What the guard read still stands when the lot is acted on. -/
theorem mitigate_one_yields (hw : Accountable w) :
    Yields (amid cfg) suspends (rely eng live) Accountable (fun _ => Accountable)
      (mitigate_one cfg s pos) w := by
  -- the list is read with nobody in between
  have hread : Yields (amid cfg) suspends (rely eng live) Accountable
      (fun executions w' => Accountable w' ∧
        (cfg.has_engine = true → executions = w'.executions)) (active_executions cfg) w := by
    unfold active_executions
    rw [yields_ite]
    constructor
    · intro _
      apply yields_sync rfl
      intro executions w₁ hs
      have hsame : w₁ = w := hs.1
      rw [hsame]
      exact ⟨hw, hw, fun _ => hs.2⟩
    · intro hno
      exact ⟨hw, fun hengine => absurd hengine hno⟩
  unfold mitigate_one
  rw [yields_ite]
  refine ⟨fun _ => hw, fun _ => ?_⟩
  apply Yields.bind hread
  intro executions w₁ h₁
  rw [yields_ite]
  refine ⟨fun _ => h₁.1, fun hinactive => ?_⟩
  -- the guard has passed on the executions as they are now
  have hpassed : Passed cfg pos w₁ := by
    intro hengine
    rw [← h₁.2 hengine]
    simpa using hinactive
  -- so is the clock
  have hclock : Yields (amid cfg) suspends (rely eng live) Accountable
      (fun _ w' => Accountable w' ∧ Passed cfg pos w') (.send Call.time) w₁ := by
    apply yields_sync rfl
    intro now w₂ hs
    have hsame : w₂ = w₁ := hs.1
    rw [hsame]
    exact ⟨h₁.1, h₁.1, hpassed⟩
  apply Yields.bind hclock
  intro now w₂ h₂
  rw [yields_ite]
  exact ⟨fun _ => act_on_yields h₂.2 h₂.1, fun _ => h₂.1⟩

theorem mitigate_all_yields (l : List StrandedPosition) (s : Reconciler) (hw : Accountable w) :
    Yields (amid cfg) suspends (rely eng live) Accountable (fun _ => Accountable)
      (mitigate_all cfg l s) w := by
  induction l generalizing s w with
  | nil => exact hw
  | cons pos rest ih =>
    unfold mitigate_all
    apply Yields.bind (mitigate_one_yields hw)
    intro s₁ w₁ h₁
    exact ih s₁ h₁

theorem run_once_yields (hw : Accountable w) :
    Yields (amid cfg) suspends (rely eng live) Accountable (fun _ => Accountable)
      (run_once cfg s) w := by
  have hannounce : ∀ l, (announce_all cfg l).Calls Harmless := fun l =>
    (announce_all_idle l).mono fun _ => Idle.harmless
  unfold run_once
  apply Yields.bind (harmless_yields survey_harmless hw)
  intro sight w₁ h₁
  apply Yields.bind (harmless_yields net_harmless h₁)
  intro s₂ w₂ h₂
  apply Yields.bind (harmless_yields refresh_decisions_harmless h₂)
  intro s₃ w₃ h₃
  apply Yields.bind (harmless_yields (hannounce _) h₃)
  intro _ w₄ h₄
  have hmitigate : Yields (amid cfg) suspends (rely eng live) Accountable (fun _ => Accountable)
      (mitigate cfg (!sight.failed_platforms.isEmpty) s₃) w₄ := by
    unfold mitigate
    rw [yields_ite]
    exact ⟨fun _ => mitigate_all_yields _ _ h₄, fun _ => h₄⟩
  apply hmitigate.bind
  intro s₅ w₅ h₅
  exact harmless_yields sweep_phantom_records_harmless h₅

end mitigation

/-! ## Section 5: Every interleaving -/

/-- **No order on a running execution**: in every interleaving of the reconciler's cycles
    with the engine, a mitigation order is submitted on a leg of an execution under way
    exactly if one is submitted where the guard does not see the execution: it completes a
    lot on that market, or the engine's list does not show the execution there, or shows it
    as terminal. -/
theorem in_flight_untouched_iff (cfg : Config) (eng : Engine) (live : LiveConfig)
    (s : Task Call Answer World Reconciler) (hr : Reachable (interleaved cfg eng live) s) :
    s.world.touched = true ↔ s.world.missed = true := by
  have hbody : ∀ w, Accountable w → Yields (amid cfg) suspends (rely eng live) Accountable
      (fun s w' => Accountable { w' with reconciler := s }) (run_once cfg w.reconciler) w :=
    fun w h => run_once_yields h
  have hinv : Invariant (interleaved cfg eng live) (fun s => Accountable s.world) := by
    refine cooperative_invariant ?_ ?_ ?_ ?_ hbody
    · intro w
      exact .refl
    · intro w₁ w₂ w₃ hs hr
      exact .head hs hr
    · intro w hw
      rw [Accountable, hw.2.2.2.1, hw.2.2.2.2]
    · intro w w' h hs
      exact h.step hs
  exact hinv s hr

/-! ## Section 6: A sale under an execution -/

/-- Kalshi alone, with the engine wired. -/
def engine_config : Config := { lone_config with has_engine := true }

/-- Ten contracts of the market. -/
def ten_held : Inputs :=
  kalshi_book [.obj [("ticker", .str "KX-1" none), ("position_fp", .num 10),
    ("total_traded_dollars", .num 4)]]

/-- An execution goes on until its primary has filled: no balance is known, the book is
    deep enough and no better. -/
def fill_primary (p : Live (Except String (Option ArbExecution))) :
    Live (Except String (Option ArbExecution)) :=
  match p with
  | .call (.outside (.balance _)) k => k none
  | .call (.outside (.check_depth ..)) k => k (.ok (true, 2 / 5))
  | .call (.outside (.best_executable_price ..)) k => k (.ok (false, 0))
  | .call (.place_order_for_leg ..) k => k (.ok (bought_at (2 / 5)))
  | p => p

/-- The execution is about to place its secondary leg. -/
def places_secondary : Live (Except String (Option ArbExecution)) → Bool
  | .call (.execute_with_fallbacks ..) _ => true
  | _ => false

/-- The execution of `ten_across` after some calls. -/
def ten_flight (calls : ℕ) : Flight where
  arb_id := "ARB-000001"
  opp := ten_across
  rest := fill_primary^[calls]
    (live_execution (trading_engine false) kalshi_first_config "ARB-000001" ten_across)

/-- The world with it alone. -/
def flying (calls : ℕ) : World where
  executions := []
  flights := [ten_flight calls]
  reconciler := .new
  touched := false
  missed := false

/-- The answers of a cycle that finds the ten contracts and is told to close them. -/
def close_ten (w : World) : (c : Call) → Answer c
  | .executions => w.executions
  | c => ten_held.reply 1000 close_it (.returned unfilled_sale) c

/-- The reconciler's cycle beside the execution. -/
def cycle_beside : Reconciler × World :=
  play (fun w c => (close_ten w c, w.after engine_config c)) (run_once engine_config .new)
    (flying 5)

/-- The state after it. -/
def sold_beneath : Task Call Answer World Reconciler :=
  ⟨{ cycle_beside.2 with reconciler := cycle_beside.1 }, none, false⟩

/-- A call of the execution, or none. -/
theorem fill_primary_steps (calls : ℕ) :
    EngineStep (trading_engine false) kalshi_first_config (flying calls) (flying (calls + 1)) ∨
      flying (calls + 1) = flying calls := by
  have hnext : (ten_flight (calls + 1)).rest = fill_primary (ten_flight calls).rest :=
    Function.iterate_succ_apply' fill_primary calls _
  -- an answered call that leaves the list alone is a step of the engine
  have hstep : ∀ (c : Proc) (k : Outcomes c → Live (Except String (Option ArbExecution)))
      (a : Outcomes c), (ten_flight calls).rest = .call c k → noted [] c = [] →
      (ten_flight (calls + 1)).rest = k a →
      EngineStep (trading_engine false) kalshi_first_config (flying calls) (flying (calls + 1)) := by
    intro c k a hrest hnoted hgoes
    have hprogress : EngineStep (trading_engine false) kalshi_first_config (flying calls)
        { flying calls with
          flights := [] ++ { ten_flight calls with rest := k a } :: []
          executions := noted (flying calls).executions c } :=
      .progress [] [] (ten_flight calls) c k a rfl hrest
    have hworld : flying (calls + 1) =
        { flying calls with
          flights := [] ++ { ten_flight calls with rest := k a } :: []
          executions := noted (flying calls).executions c } := by
      show World.mk _ _ _ _ _ = World.mk _ _ _ _ _
      rw [show noted (flying calls).executions c = [] from hnoted, ← hgoes]
      rfl
    rw [hworld]
    exact hprogress
  unfold fill_primary at hnext
  split at hnext
  case h_1 k hrest => exact .inl (hstep _ k _ hrest rfl hnext)
  case h_2 k hrest => exact .inl (hstep _ k _ hrest rfl hnext)
  case h_3 k hrest => exact .inl (hstep _ k _ hrest rfl hnext)
  case h_4 k hrest => exact .inl (hstep _ k _ hrest rfl hnext)
  case h_5 =>
    right
    show World.mk _ _ _ _ _ = World.mk _ _ _ _ _
    -- the execution waits for an answer that `fill_primary` does not give
    have hsame : ten_flight (calls + 1) = ten_flight calls := by
      show Flight.mk _ _ _ = Flight.mk _ _ _
      rw [show fill_primary^[calls + 1] _ = _ from hnext]
      rfl
    rw [hsame]

theorem flying_reachable (calls : ℕ) :
    Reachable (interleaved engine_config (trading_engine false) kalshi_first_config)
      ⟨flying calls, none, false⟩ := by
  induction calls with
  | zero =>
    have hstart : Reachable (interleaved engine_config (trading_engine false) kalshi_first_config)
        ⟨{ flying 0 with flights := [] }, none, false⟩ :=
      .init ⟨⟨rfl, rfl, rfl, rfl, rfl⟩, rfl, rfl⟩
    exact hstart.step (l := .other) ⟨.inl rfl, .launch "ARB-000001" ten_across, rfl, rfl⟩
  | succ calls ih =>
    rcases fill_primary_steps calls with hs | hsame
    · exact ih.step (l := .other) ⟨.inl rfl, hs, rfl, rfl⟩
    · rw [hsame]
      exact ih

theorem sold_beneath_reachable :
    Reachable (interleaved engine_config (trading_engine false) kalshi_first_config)
      sold_beneath := by
  have hentered : Reachable (interleaved engine_config (trading_engine false) kalshi_first_config)
      ⟨flying 5, some (run_once engine_config .new), false⟩ :=
    (flying_reachable 5).step (l := .enter) ⟨rfl, rfl⟩
  have hserve : ∀ w c, (amid engine_config).serve w c (close_ten w c) (w.after engine_config c) := by
    intro w c
    refine ⟨rfl, ?_⟩
    cases c <;> trivial
  exact Reachable.runs hentered (exec_play hserve (run_once engine_config .new) (flying 5))

theorem in_flight_untouched_iff_sold_beneath :
    sold_beneath.world.touched = true ↔ sold_beneath.world.missed = true :=
  in_flight_untouched_iff engine_config (trading_engine false) kalshi_first_config _
    sold_beneath_reachable

/-- The primary has filled, the secondary is being placed, and the reconciler sells the
    ten contracts. -/
theorem filled_leg_is_sold :
    Reachable (interleaved engine_config (trading_engine false) kalshi_first_config)
        sold_beneath ∧
      sold_beneath.world.touched = true ∧
      sold_beneath.world.flights.map (fun f => places_secondary f.rest) = [true] :=
  ⟨sold_beneath_reachable, by decide +kernel, by decide +kernel⟩

end Stranded
