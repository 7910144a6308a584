import Arbiter.Execution.Gate
import Arbiter.Safety.LiveGate
import Arbiter.Stranded.InFlight
import Arbiter.Stranded.Mitigation
import Arbiter.Stranded.Review

/-! # Mitigation Buys and the Trade Gates

  The reconciler buys the missing leg of a stranded lot with the adapter's `place_fok`. The
  engine, which buys the legs of an arb, asks for a confirmed and identical mapping and for
  the trade gate first. The reconciler's path has none of these checks: the row of the market
  map may have any status.

  The main result says in which runs every such order would have passed them.

  ## Contents

  - Section 1: the gates, and the orders they are about.
  - Section 2: what a cycle meets, and its runs.
  - Section 3: which legs a cycle buys.
  - Section 4: one lot.
  - Section 5: the whole pass.
  - Section 6: runs.
-/

namespace Stranded

open Effect Execution LTS

/-! ## Section 1: The gates -/

/-- What the engine checks a trade against, at one moment. -/
structure Gates where
  market_map : MappingTable
  readiness : Readiness.Runtime
  safety : Safety.SafetyState

/-- The trade gate, as `main` chains it: readiness, then the kill switch. -/
def Gates.allow_execution (g : Gates) (yes_platform no_platform : String) : Bool :=
  (g.readiness.allow_execution yes_platform no_platform).allowed &&
    (Safety.allow_execution g.safety).1

/-- What a row has to say for a trade to go out on its market. -/
structure TradableRow (spelled : Json ℚ → String) (mapping : Json ℚ) : Prop where
  confirmed : (mapping.get "status").text spelled = "confirmed"
  identical : ((mapping.getD "resolution_match_status"
    (.str "pending_operator_review" none)).text spelled).toLower = "identical"
  allowed : (mapping.get "allow_auto_trade").truthy = true

instance (spelled : Json ℚ → String) (mapping : Json ℚ) :
    Decidable (TradableRow spelled mapping) :=
  decidable_of_iff ((mapping.get "status").text spelled = "confirmed" ∧
    ((mapping.getD "resolution_match_status"
      (.str "pending_operator_review" none)).text spelled).toLower = "identical" ∧
    (mapping.get "allow_auto_trade").truthy = true)
    ⟨fun h => ⟨h.1, h.2.1, h.2.2⟩, fun h => ⟨h.confirmed, h.identical, h.allowed⟩⟩

/-- An order for a missing leg that was submitted to a venue, and the gates as they were. -/
structure Completion where
  venue : String
  order : MitigationOrder
  gates : Gates

/-- The venue of the YES leg, of the lot and the order that completes it. -/
def Completion.yes_platform (x : Completion) : String :=
  match x.order.side with
  | .yes => x.venue
  | .no => x.order.strand.1

/-- The venue of the NO leg. -/
def Completion.no_platform (x : Completion) : String :=
  match x.order.side with
  | .yes => x.order.strand.1
  | .no => x.venue

/-- The engine would have let the order through. -/
structure Completion.Obeys (spelled : Json ℚ → String) (x : Completion) : Prop where
  mapping : ∃ row, x.gates.market_map.lookup x.order.canonical_id = some row ∧
    TradableRow spelled row
  disarmed : x.gates.safety.armed = false
  gate_open : x.gates.allow_execution x.yes_platform x.no_platform = true

/-! ## Section 2: Cycles -/

/-- What one cycle meets. Others work meanwhile: what a lot is decided on, and what the gates
    say when its order is placed, are the lot's own. -/
structure Session where
  /-- What the survey sees. -/
  sight : Sighting
  inventory : Option Inventory
  /-- `decide` raises. -/
  raises : StrandedPosition → Bool
  readings : StrandedPosition → Readings
  /-- The lists of executions the engine has during the cycle. -/
  executions : List ArbExecution → Prop
  /-- The readings of the clock during the cycle. -/
  clock : ℚ → Prop
  /-- The quotes of a market as an order is repriced. -/
  requotes : String → Option Quotes → Prop
  gates : MitigationOrder → Gates

namespace Session

/-- The engine's answer on a lot. -/
def decision (eng : MitigationEngine) (l : Session) (view : StrandedPosition) :
    Option MitigationDecision :=
  if l.raises view then none else some (eng.decide (l.readings view) view)

/-- What the store and the engine say. -/
def opinions (eng : MitigationEngine) (l : Session) : Opinions where
  inventory := l.inventory
  decision := l.decision eng

/-- The adapter of the venue reads the kill switch, and finds it armed. -/
def refuses (wiring : Wiring) (l : Session) (venue : String) (order : MitigationOrder) : Prop :=
  wiring.checks venue = true ∧ (l.gates order).safety.armed = true

/-- The answers a cycle can get. -/
def answers (eng : MitigationEngine) (wiring : Wiring) (l : Session) : (c : Call) → Answer c → Prop
  | .paired_inventory_by_market, a => a = l.inventory
  | .decide view, a => a = l.decision eng view
  | .time, a => l.clock a
  | .executions, a => l.executions a
  | .get_all_for_market canonical_id, a => l.requotes canonical_id a
  | .place_fok venue order, a => l.refuses wiring venue order → ∃ err, a = .raised err false
  | _, _ => True

/-- The orders submitted for missing legs, after a call. -/
def after (l : Session) (log : List Completion) : (c : Call) → Answer c → List Completion
  | .place_fok _ _, .raised _ false => log
  | .place_fok venue order, _ => ⟨venue, order, l.gates order⟩ :: log
  | _, _ => log

end Session

/-- The environment of a cycle. -/
def trading_floor (eng : MitigationEngine) (wiring : Wiring) (l : Session) :
    Env Call Answer (List Completion) where
  serve := fun log c a log' => l.answers eng wiring c a ∧ log' = l.after log c a

/-- A reconciler, and the orders it has submitted for missing legs. -/
structure Buyer where
  reconciler : Reconciler
  completions : List Completion

/-- Every sequence of cycles of a new reconciler. -/
def buying (cfg : Config) (eng : MitigationEngine) (wiring : Wiring) : System Buyer Session where
  init := fun b => b.reconciler = .new ∧ b.completions = []
  step := fun b l b' =>
    Exec (trading_floor eng wiring l) (survey cfg) b.completions l.sight b.completions ∧
      Exec (trading_floor eng wiring l) (after_survey cfg b.reconciler l.sight) b.completions
        b'.reconciler b'.completions

/-! ## Section 3: The legs a cycle buys -/

/-- The engine wants the leg bought for the lot without asking: it says so in this cycle, or
    it raises and has said so before. `pos` is the lot with its hedged part. -/
structure Wants (cfg : Config) (eng : MitigationEngine) (l : Session) (pos : StrandedPosition)
    (leg : MissingLeg) : Prop where
  engine : cfg.has_mitigation_engine = true
  stranded : ¬ pos.fully_paired
  decided : (l.raises (residual_view pos) = false ∧
      Completable eng (l.readings (residual_view pos)) (residual_view pos) leg ∧
      |(residual_view pos).cost_basis_usd| ≤ eng.config.max_autonomous_notional_usd) ∨
    (l.raises (residual_view pos) = true ∧
      pos.mitigation_decision = some { action := .complete_arb leg, autonomous_ok := true })

/-- The reconciler's own guards, and the adapter's, let it buy the leg. -/
structure Unguarded (cfg : Config) (wiring : Wiring) (l : Session) (s : Reconciler)
    (pos : StrandedPosition) (leg : MissingLeg) : Prop where
  unpaired : pos.paired_qty ≤ 0
  idle : ∃ executions, (if cfg.has_engine then l.executions executions else executions = []) ∧
    is_part_of_active_arb executions pos = false
  cooled : ∃ now, l.clock now ∧ close_attempt_allowed cfg s pos.key now = true
  adapter : cfg.place_fok leg.venue = true
  some_qty : leg.qty ≠ 0
  repriced : cfg.has_price_store = true →
    ∃ quotes, l.requotes leg.canonical_id quotes ∧ reprice_allows leg quotes = true
  fits : fits cfg s pos leg.qty
  taken : ¬ l.refuses wiring leg.venue (complete_order pos leg)

/-- The order for the leg of a lot, with the gates it is placed under. -/
def Session.completion (l : Session) (pos : StrandedPosition) (leg : MissingLeg) : Completion :=
  ⟨leg.venue, complete_order pos leg, l.gates (complete_order pos leg)⟩

/-- In the cycle, every leg that nothing keeps the reconciler from buying is one the engine
    would have bought: its row is tradable, the switch is off, the gate is open. -/
def GatesOpen (cfg : Config) (eng : MitigationEngine) (wiring : Wiring) (b : Buyer)
    (l : Session) : Prop :=
  cfg.auto_close = true → l.sight.deferred = false →
    ∀ key lot leg, lot_followed l.sight b.reconciler key = some lot →
      let pos := netted ((l.opinions eng).paired cfg) lot
      Wants cfg eng l pos leg → Unguarded cfg wiring l b.reconciler pos leg →
        (l.completion pos leg).Obeys eng.spelled

/-! ## Section 4: One lot -/

/-- What the turn of a lot leaves alone: everything about the others. -/
structure Elsewhere (key : Key) (s s' : Reconciler) : Prop where
  tracked : s'.tracked = s.tracked
  submitted : ∀ other, other ≠ key → s'.cum_close_submitted other = s.cum_close_submitted other
  largest : ∀ other, other ≠ key → s'.max_observed_qty other = s.max_observed_qty other
  attempted : ∀ other, other ≠ key →
    s'.last_close_attempt_ts other = s.last_close_attempt_ts other

theorem Elsewhere.refl (key : Key) (s : Reconciler) : Elsewhere key s s :=
  ⟨rfl, fun _ _ => rfl, fun _ _ => rfl, fun _ _ => rfl⟩

theorem Elsewhere.trans {key : Key} {s s' s'' : Reconciler} (h : Elsewhere key s s')
    (h' : Elsewhere key s' s'') : Elsewhere key s s'' :=
  ⟨h'.tracked.trans h.tracked,
    fun other hne => (h'.submitted other hne).trans (h.submitted other hne),
    fun other hne => (h'.largest other hne).trans (h.largest other hne),
    fun other hne => (h'.attempted other hne).trans (h.attempted other hne)⟩

section turn

variable {cfg : Config} {eng : MitigationEngine} {wiring : Wiring} {l : Session}
  {s : Reconciler} {pos : StrandedPosition} {leg : MissingLeg} {log : List Completion}

theorem mark_close_attempt_elsewhere (key : Key) :
    wp (trading_floor eng wiring l) (mark_close_attempt s key)
      (fun s' log' => Elsewhere key s s' ∧ log' = log) log := by
  unfold mark_close_attempt
  rw [wp_bind, wp_send]
  rintro now log' ⟨-, rfl⟩
  exact wp_pure.2 ⟨⟨rfl, fun _ _ => rfl, fun _ _ => rfl,
    fun _ hne => Function.update_of_ne hne _ _⟩, rfl⟩

theorem cum_cap_allows_elsewhere (qty : ℕ) :
    wp (trading_floor eng wiring l) (cum_cap_allows cfg s pos qty)
      (fun r log' => (Elsewhere pos.key s r.1 ∧ (r.2 = true → fits cfg s pos qty)) ∧ log' = log)
      log := by
  have hweighed : Elsewhere pos.key s
      { s with max_observed_qty := Function.update s.max_observed_qty pos.key (cap_base s pos) } :=
    ⟨rfl, fun _ _ => rfl, fun _ hne => Function.update_of_ne hne _ _, fun _ _ => rfl⟩
  unfold cum_cap_allows
  simp only [wp_ite]
  refine ⟨fun hfits => wp_pure.2 ⟨⟨hweighed, fun _ => hfits⟩, rfl⟩, fun _ => ?_⟩
  rw [wp_bind]
  refine wp_mono (mark_close_attempt_elsewhere pos.key) fun s₁ log₁ h₁ => ?_
  obtain ⟨hmarked, rfl⟩ := h₁
  have hdone := hweighed.trans hmarked
  rw [wp_ite]
  refine ⟨fun _ => ?_, fun _ => wp_pure.2 ⟨⟨hdone, fun h => Bool.noConfusion h⟩, rfl⟩⟩
  rw [wp_bind, wp_send]
  rintro _ log₂ ⟨-, rfl⟩
  exact wp_pure.2 ⟨⟨hdone.trans ⟨rfl, fun _ _ => rfl, fun _ _ => rfl, fun _ _ => rfl⟩,
    fun h => Bool.noConfusion h⟩, rfl⟩

/-- An order is submitted under the cap, or the log stands. -/
theorem submit_elsewhere {qty : ℕ} {place : Recon Placement} {R : List Completion → Prop}
    (hplace : wp (trading_floor eng wiring l) place (fun _ => R) log) :
    wp (trading_floor eng wiring l) (submit cfg s pos qty place)
      (fun s' log' => Elsewhere pos.key s s' ∧ (log' = log ∨ (fits cfg s pos qty ∧ R log'))) log := by
  unfold submit
  rw [wp_bind]
  refine wp_mono (cum_cap_allows_elsewhere qty) fun r log₁ h₁ => ?_
  obtain ⟨s₁, allowed⟩ := r
  obtain ⟨⟨hweighed, hallowed⟩, rfl⟩ := h₁
  dsimp only at hweighed hallowed ⊢
  rw [wp_ite]
  refine ⟨fun _ => wp_pure.2 ⟨hweighed, .inl rfl⟩, fun hno => ?_⟩
  have hfits : fits cfg s pos qty := hallowed (by simpa using hno)
  rw [wp_bind]
  refine wp_mono hplace fun placement log₂ h₂ => ?_
  cases placement with
  | returned placed =>
    dsimp only
    rw [wp_bind]
    refine wp_mono (mark_close_attempt_elsewhere pos.key) fun s₂ log₃ h₃ => ?_
    obtain ⟨hmarked, rfl⟩ := h₃
    rw [wp_bind, wp_send]
    rintro _ log₄ ⟨-, rfl⟩
    refine wp_pure.2 ⟨(hweighed.trans hmarked).trans ?_, .inr ⟨hfits, h₂⟩⟩
    exact ⟨rfl, fun _ hne => Function.update_of_ne hne _ _, fun _ _ => rfl, fun _ _ => rfl⟩
  | raised err accepted =>
    refine wp_mono (mark_close_attempt_elsewhere pos.key) fun s₂ log₃ h₃ => ?_
    obtain ⟨hmarked, rfl⟩ := h₃
    exact ⟨hweighed.trans hmarked, .inr ⟨hfits, h₂⟩⟩

/-- What the turn of a lot does: at most the leg of its decision is bought, where no guard
    keeps it. -/
def Turned (cfg : Config) (wiring : Wiring) (l : Session) (s : Reconciler)
    (pos : StrandedPosition) (log : List Completion) (s' : Reconciler) (log' : List Completion) :
    Prop :=
  Elsewhere pos.key s s' ∧ (log' = log ∨ ∃ leg, log' = l.completion pos leg :: log ∧
    cfg.has_mitigation_engine = true ∧
    pos.mitigation_decision = some { action := .complete_arb leg, autonomous_ok := true } ∧
    Unguarded cfg wiring l s pos leg)

theorem close_lot_turned :
    wp (trading_floor eng wiring l) (close_lot cfg s pos) (Turned cfg wiring l s pos log) log := by
  have hplace : wp (trading_floor eng wiring l)
      (.send (Call.place_unwind_sell pos.platform (close_order pos))) (fun _ log' => log' = log)
      log := by
    rw [wp_send]
    exact fun a log' hs => hs.2
  refine wp_mono (submit_elsewhere hplace) fun s' log' h => ⟨h.1, .inl ?_⟩
  exact h.2.elim id And.right

theorem place_fok_logged :
    wp (trading_floor eng wiring l) (.send (Call.place_fok leg.venue (complete_order pos leg)))
      (fun _ log' => log' = log ∨ (log' = l.completion pos leg :: log ∧
        ¬ l.refuses wiring leg.venue (complete_order pos leg))) log := by
  rw [wp_send]
  rintro a log' ⟨ha, rfl⟩
  cases a with
  | returned order =>
    refine .inr ⟨rfl, fun hrefuses => ?_⟩
    obtain ⟨err, herr⟩ := ha hrefuses
    exact absurd herr nofun
  | raised err accepted =>
    cases accepted with
    | false => exact .inl rfl
    | true =>
      refine .inr ⟨rfl, fun hrefuses => ?_⟩
      obtain ⟨err', herr⟩ := ha hrefuses
      exact absurd herr (by simp)

/-- A lot whose turn it is: nothing hedges it, no execution is on it, it has cooled down. -/
structure Ready (cfg : Config) (l : Session) (s : Reconciler) (pos : StrandedPosition) : Prop where
  unpaired : pos.paired_qty ≤ 0
  idle : ∃ executions, (if cfg.has_engine then l.executions executions else executions = []) ∧
    is_part_of_active_arb executions pos = false
  cooled : ∃ now, l.clock now ∧ close_attempt_allowed cfg s pos.key now = true

theorem execute_complete_arb_turned (hready : Ready cfg l s pos)
    (hengine : cfg.has_mitigation_engine = true)
    (hdecision : pos.mitigation_decision =
      some { action := .complete_arb leg, autonomous_ok := true }) :
    wp (trading_floor eng wiring l) (execute_complete_arb cfg s pos leg)
      (Turned cfg wiring l s pos log) log := by
  have hmark : ∀ log, wp (trading_floor eng wiring l) (mark_close_attempt s pos.key)
      (Turned cfg wiring l s pos log) log := fun log =>
    wp_mono (mark_close_attempt_elsewhere pos.key) fun s' log' h => ⟨h.1, .inl h.2⟩
  unfold execute_complete_arb
  simp only [wp_ite]
  refine ⟨fun _ => hmark log, fun hskip => ?_⟩
  obtain ⟨hadapter, hqty⟩ := not_or.mp hskip
  -- an order that is submitted has passed every guard, once it was repriced
  have hsubmit (hrepriced : cfg.has_price_store = true →
      ∃ quotes, l.requotes leg.canonical_id quotes ∧ reprice_allows leg quotes = true) :
      wp (trading_floor eng wiring l)
        (submit cfg s pos leg.qty (.send (Call.place_fok leg.venue (complete_order pos leg))))
        (Turned cfg wiring l s pos log) log := by
    refine wp_mono (submit_elsewhere place_fok_logged) fun s' log' h => ⟨h.1, ?_⟩
    obtain hnone | ⟨hfits, hnone | ⟨hbought, htaken⟩⟩ := h.2
    · exact .inl hnone
    · exact .inl hnone
    · exact .inr ⟨leg, hbought, hengine, hdecision, hready.unpaired, hready.idle, hready.cooled,
        eq_true_of_ne_false hadapter, hqty, hrepriced, hfits, htaken⟩
  refine ⟨fun hstore => ?_, fun hstore => hsubmit fun h => absurd h hstore⟩
  rw [wp_bind, wp_send]
  rintro quotes log' ⟨hquotes, rfl⟩
  rw [wp_ite]
  exact ⟨fun hrepriced => hsubmit fun _ => ⟨quotes, hquotes, hrepriced⟩, fun _ => hmark _⟩

theorem act_on_turned (hready : Ready cfg l s pos) :
    wp (trading_floor eng wiring l) (act_on cfg s pos) (Turned cfg wiring l s pos log) log := by
  have hnothing : wp (trading_floor eng wiring l) (.ret s) (Turned cfg wiring l s pos log) log :=
    wp_ret.2 ⟨.refl pos.key s, .inl rfl⟩
  unfold act_on
  split
  case h_1 decision hengine hdecision =>
    unfold execute_decision
    split
    case h_1 leg hauto haction =>
      refine execute_complete_arb_turned hready hengine ?_
      rw [hdecision, ← hauto, ← haction]
    case h_2 =>
      unfold execute_close_now
      rw [wp_ite]
      refine ⟨fun _ => ?_, fun _ => close_lot_turned⟩
      exact wp_mono (mark_close_attempt_elsewhere pos.key) fun s' log' h => ⟨h.1, .inl h.2⟩
    case h_3 => exact hnothing
  case h_2 =>
    unfold maybe_auto_close
    rw [wp_ite]
    exact ⟨fun _ => close_lot_turned, fun _ => hnothing⟩

theorem mitigate_one_turned :
    wp (trading_floor eng wiring l) (mitigate_one cfg s pos) (Turned cfg wiring l s pos log) log := by
  have hnothing : ∀ log, wp (trading_floor eng wiring l) (pure s)
      (Turned cfg wiring l s pos log) log := fun log => wp_pure.2 ⟨.refl pos.key s, .inl rfl⟩
  have hexecutions : wp (trading_floor eng wiring l) (active_executions cfg) (fun executions log' =>
      (if cfg.has_engine then l.executions executions else executions = []) ∧ log' = log) log := by
    unfold active_executions
    rw [wp_ite]
    refine ⟨fun hengine => ?_, fun hengine => wp_ret.2 ⟨by rw [if_neg hengine], rfl⟩⟩
    rw [wp_send]
    rintro executions log' ⟨hlisted, rfl⟩
    exact ⟨by rw [if_pos hengine]; exact hlisted, rfl⟩
  unfold mitigate_one
  rw [wp_ite]
  refine ⟨fun _ => hnothing log, fun hunpaired => ?_⟩
  rw [wp_bind]
  refine wp_mono hexecutions fun executions log₁ h₁ => ?_
  obtain ⟨hlisted, rfl⟩ := h₁
  rw [wp_ite]
  refine ⟨fun _ => hnothing _, fun hactive => ?_⟩
  rw [wp_bind, wp_send]
  rintro now log₂ ⟨hnow, rfl⟩
  rw [wp_ite]
  refine ⟨fun hcooled => act_on_turned ⟨not_lt.mp hunpaired, ?_, ⟨now, hnow, hcooled⟩⟩,
    fun _ => hnothing _⟩
  exact ⟨executions, hlisted, (Bool.not_eq_true _).mp hactive⟩

end turn

/-! ## Section 5: The pass -/

section pass

variable {cfg : Config} {eng : MitigationEngine} {wiring : Wiring} {l : Session}
  {s s' : Reconciler} {pos : StrandedPosition} {leg : MissingLeg} {key : Key}
  {log : List Completion}

/-- Of the state, the guards read what belongs to the lot. -/
theorem Unguarded.of_same (h : Unguarded cfg wiring l s' pos leg)
    (hsubmitted : s'.cum_close_submitted pos.key = s.cum_close_submitted pos.key)
    (hlargest : s'.max_observed_qty pos.key = s.max_observed_qty pos.key)
    (hattempted : s'.last_close_attempt_ts pos.key = s.last_close_attempt_ts pos.key) :
    Unguarded cfg wiring l s pos leg := by
  obtain ⟨now, hnow, hcooled⟩ := h.cooled
  refine { h with cooled := ⟨now, hnow, ?_⟩, fits := ?_ }
  · unfold close_attempt_allowed at hcooled ⊢
    rwa [← hattempted]
  · have hfits := h.fits
    unfold Stranded.fits cap_base at hfits ⊢
    rwa [← hsubmitted, ← hlargest]

/-- No guard reads the decision. -/
theorem Unguarded.undecided {decision : Option MitigationDecision}
    (h : Unguarded cfg wiring l s { pos with mitigation_decision := decision } leg) :
    Unguarded cfg wiring l s pos leg :=
  ⟨h.unpaired, h.idle, h.cooled, h.adapter, h.some_qty, h.repriced, h.fits, h.taken⟩

/-- An order of the pass: of the leg that is decided on for one of its lots. -/
def OfPass (cfg : Config) (wiring : Wiring) (l : Session) (s : Reconciler)
    (lots : List StrandedPosition) (x : Completion) : Prop :=
  ∃ pos ∈ lots, ∃ leg, x = l.completion pos leg ∧ cfg.has_mitigation_engine = true ∧
    pos.mitigation_decision = some { action := .complete_arb leg, autonomous_ok := true } ∧
    Unguarded cfg wiring l s pos leg

/-- By induction on the lots: the turn of one leaves to the others what their guards read. -/
theorem mitigate_all_bought {lots : List StrandedPosition} (hnodup : (lots.map (·.key)).Nodup) :
    wp (trading_floor eng wiring l) (mitigate_all cfg lots s)
      (fun _ log' => ∀ x ∈ log', x ∈ log ∨ OfPass cfg wiring l s lots x) log := by
  induction lots generalizing s log with
  | nil => exact wp_pure.2 fun _ hx => .inl hx
  | cons pos lots ih =>
    obtain ⟨hfresh, hrest⟩ := List.nodup_cons.mp hnodup
    unfold mitigate_all
    rw [wp_bind]
    refine wp_mono mitigate_one_turned fun s₁ log₁ h₁ => ?_
    obtain ⟨helsewhere, hturn⟩ := h₁
    refine wp_mono (ih hrest) fun _ log₂ h₂ x hx => ?_
    obtain hlogged | ⟨other, hother, leg, hcompletion, hengine, hdecision, hunguarded⟩ := h₂ x hx
    · obtain rfl | ⟨leg, rfl, hengine, hdecision, hunguarded⟩ := hturn
      · exact .inl hlogged
      · obtain rfl | hold := List.mem_cons.mp hlogged
        · exact .inr ⟨pos, List.mem_cons_self, leg, rfl, hengine, hdecision, hunguarded⟩
        · exact .inl hold
    · have hne : other.key ≠ pos.key := fun heq =>
        hfresh (List.mem_map.mpr ⟨other, hother, heq⟩)
      refine .inr ⟨other, List.mem_cons_of_mem _ hother, leg, hcompletion, hengine, hdecision,
        hunguarded.of_same ?_ ?_ ?_⟩
      · exact helsewhere.submitted _ hne
      · exact helsewhere.largest _ hne
      · exact helsewhere.attempted _ hne

/-- The accounts of one lot stand as they were. -/
structure SameLot (key : Key) (s s' : Reconciler) : Prop where
  submitted : s'.cum_close_submitted key = s.cum_close_submitted key
  largest : s'.max_observed_qty key = s.max_observed_qty key
  attempted : s'.last_close_attempt_ts key = s.last_close_attempt_ts key

theorem SameLot.trans {s'' : Reconciler} (h : SameLot key s s') (h' : SameLot key s' s'') :
    SameLot key s s'' :=
  ⟨h'.submitted.trans h.submitted, h'.largest.trans h.largest, h'.attempted.trans h.attempted⟩

theorem foldl_merge_same (lots : List StrandedPosition) :
    SameLot key s (lots.foldl merge_one s) := by
  induction lots generalizing s with
  | nil => exact ⟨rfl, rfl, rfl⟩
  | cons pos lots ih => exact (⟨rfl, rfl, rfl⟩ : SameLot key s (merge_one s pos)).trans ih

theorem foldl_prune_same {sight : Sighting} (hkept : ¬ Gone sight key)
    (lots : List StrandedPosition) : SameLot key s (lots.foldl (prune_one sight) s) := by
  induction lots generalizing s with
  | nil => exact ⟨rfl, rfl, rfl⟩
  | cons pos lots ih =>
    suffices hone : SameLot key s (prune_one sight s pos) from hone.trans ih
    by_cases hgone : Gone sight pos.key
    · -- what is cleared belongs to the lot that is gone
      have hne : key ≠ pos.key := fun heq => hkept (heq ▸ hgone)
      unfold prune_one
      dsimp only
      split_ifs
      · exact ⟨rfl, rfl, rfl⟩
      · exact ⟨Function.update_of_ne hne _ _, Function.update_of_ne hne _ _, rfl⟩
      · exact ⟨rfl, rfl, rfl⟩
    · rw [prune_one_of_not_gone hgone]
      exact ⟨rfl, rfl, rfl⟩

/-- A lot that is followed is not gone, so its accounts are kept. -/
theorem followed_same {sight : Sighting} {lot : StrandedPosition}
    (hlot : lot_followed sight s key = some lot) : SameLot key s (followed sight s) := by
  have hkept : ¬ Gone sight key := by
    rintro ⟨hread, hunseen⟩
    unfold lot_followed at hlot
    rw [Tracker.lookup_eq_none_iff.mpr hunseen] at hlot
    exact absurd ((if_neg hread).symm.trans hlot) nofun
  exact (foldl_merge_same _).trans (foldl_prune_same hkept _)

/-- A lot that is decided on for a leg: the engine wants the leg for it. -/
theorem wants_of_reviewed {lot : StrandedPosition} (hengine : cfg.has_mitigation_engine = true)
    (hdecision : (reviewed_lot cfg (l.opinions eng) false lot).mitigation_decision =
      some { action := .complete_arb leg, autonomous_ok := true }) :
    Wants cfg eng l (netted ((l.opinions eng).paired cfg) lot) leg ∧
      ∃ decision, reviewed_lot cfg (l.opinions eng) false lot =
        { netted ((l.opinions eng).paired cfg) lot with mitigation_decision := decision } := by
  have hlot : reviewed_lot cfg (l.opinions eng) false lot =
      decided (l.decision eng) (hold_paired (netted ((l.opinions eng).paired cfg) lot)) := by
    unfold reviewed_lot refreshed
    rw [if_neg Bool.false_ne_true, if_pos hengine]
    rfl
  rw [hlot] at hdecision ⊢
  generalize netted ((l.opinions eng).paired cfg) lot = pos at hdecision ⊢
  by_cases hpaired : pos.fully_paired
  · -- a hedged lot is held
    have hheld : decided (l.decision eng) (hold_paired pos) = hold_paired pos := by
      unfold decided hold_paired
      rw [if_pos hpaired]
      exact if_pos hpaired
    rw [hheld, hold_paired, if_pos hpaired] at hdecision
    exact absurd hdecision (by simp)
  · have hfree : hold_paired pos = pos := if_neg hpaired
    rw [hfree] at hdecision ⊢
    unfold decided Session.decision at hdecision ⊢
    rw [if_neg hpaired] at hdecision ⊢
    by_cases hraises : l.raises (residual_view pos) = true
    · rw [if_pos hraises] at hdecision ⊢
      exact ⟨⟨hengine, hpaired, .inr ⟨hraises, hdecision⟩⟩, pos.mitigation_decision, rfl⟩
    · rw [if_neg hraises] at hdecision ⊢
      have hdecide := decide_complete_iff.mp (Option.some_inj.mp hdecision)
      exact ⟨⟨hengine, hpaired, .inl ⟨(Bool.not_eq_true _).mp hraises, hdecide⟩⟩, _, rfl⟩

end pass

/-! ## Section 6: Runs -/

section runs

variable {cfg : Config} {eng : MitigationEngine} {wiring : Wiring} {l : Session}

theorem trading_floor_says : Says (trading_floor eng wiring l) (l.opinions eng) where
  inventory := fun _ _ _ hs => ⟨hs.1, hs.2⟩
  decision := fun _ _ _ _ hs => ⟨hs.1, hs.2⟩

theorem harmless_unlogged {α : Type} {p : Recon α} (hp : p.Calls Harmless)
    (log : List Completion) :
    wp (trading_floor eng wiring l) p (fun _ log' => log' = log) log := by
  have hkeep : ∀ log₁ c a log₂, Harmless c → (trading_floor eng wiring l).serve log₁ c a log₂ →
      log₁ = log → log₂ = log := by
    rintro log₁ c a log₂ hc ⟨-, rfl⟩ rfl
    cases c <;> first | rfl | exact hc.elim
  exact hp.keeps hkeep rfl

/-- A cycle whose gates are open submits only orders that obey them. -/
theorem after_survey_obeys {b : Buyer} (hopen : GatesOpen cfg eng wiring b l) :
    wp (trading_floor eng wiring l) (after_survey cfg b.reconciler l.sight)
      (fun _ log' => ∀ x ∈ log', x ∈ b.completions ∨ x.Obeys eng.spelled) b.completions := by
  refine review_says trading_floor_says ?_
  unfold after_review
  rw [wp_bind]
  refine wp_mono (harmless_unlogged ((announce_all_idle _).mono fun _ => Idle.harmless) _)
    fun _ log₁ h₁ => ?_
  subst h₁
  rw [wp_bind]
  have hpass : wp (trading_floor eng wiring l) (mitigate cfg l.sight.deferred
      (reviewed cfg (l.opinions eng) l.sight b.reconciler))
      (fun _ log' => ∀ x ∈ log', x ∈ b.completions ∨ x.Obeys eng.spelled) b.completions := by
    unfold mitigate
    rw [wp_ite]
    refine ⟨fun hacts => ?_, fun _ => wp_ret.2 fun _ hx => .inl hx⟩
    obtain ⟨hauto, hdeferred⟩ := hacts
    refine wp_mono (mitigate_all_bought (Tracker.nodup _)) fun _ log' hbought x hx => ?_
    refine (hbought x hx).imp id ?_
    rintro ⟨pos, hpos, leg, rfl, hengine, hdecision, hunguarded⟩
    -- the lot the order is for, before its review
    obtain ⟨lot, hlot, hreviewed⟩ : ∃ lot, lot_followed l.sight b.reconciler pos.key = some lot ∧
        reviewed_lot cfg (l.opinions eng) l.sight.deferred lot = pos := by
      have hlookup := Tracker.lookup_eq_some_iff.mpr ⟨hpos, rfl⟩
      rw [reviewed_lookup] at hlookup
      exact Option.map_eq_some_iff.mp hlookup
    rw [hdeferred] at hreviewed
    subst hreviewed
    obtain ⟨hwants, decision, heq⟩ := wants_of_reviewed hengine hdecision
    rw [heq] at hunguarded ⊢
    have hsame := followed_same hlot
    rw [heq] at hsame
    have hbefore := hunguarded.of_same hsame.submitted hsame.largest hsame.attempted
    exact hopen hauto hdeferred _ lot leg hlot hwants hbefore.undecided
  refine wp_mono hpass fun _ log₂ h₂ => ?_
  refine wp_mono (harmless_unlogged sweep_phantom_records_harmless log₂) fun _ log₃ h₃ => ?_
  rwa [h₃]

/-- **In which runs mitigation buys what the engine would buy.** -/
theorem completions_gated {b : Buyer}
    (hb : Reachable ((buying cfg eng wiring).restrict (GatesOpen cfg eng wiring)) b) :
    ∀ x ∈ b.completions, x.Obeys eng.spelled := by
  refine Invariant.of_step (P := fun b => ∀ x ∈ b.completions, x.Obeys eng.spelled) ?_ ?_ b hb
  · rintro b ⟨-, hnone⟩ x hx
    rw [hnone] at hx
    exact absurd hx List.not_mem_nil
  · rintro b l b' hold ⟨hopen, -, hrun⟩ x hx
    exact (after_survey_obeys hopen _ _ hrun x hx).elim (hold x) id

end runs

/-! ### One cycle with a lot of eight -/

/-- The row of the lot's market, with a status. -/
def eight_row (status : String) : Json ℚ :=
  .obj [("status", .str status none), ("kalshi", .str "KX-1" none),
    ("resolution_match_status", .str "identical" none), ("allow_auto_trade", .bool true)]

/-- NO at 40 cents. -/
def cheap_no : Scanner.PricePoint where
  platform := "polymarket"
  yes_price := 60 / 100
  no_price := 40 / 100
  yes_volume := 100
  no_volume := 100
  age_seconds := 1
  raw_market_id := "kx-1"
  yes_market_id := "kx-1"
  no_market_id := "kx-1"
  yes_bid := 59 / 100
  yes_ask := 60 / 100
  no_bid := 39 / 100
  no_ask := 40 / 100
  fee_rate := none

/-- A reconciler with a price store. -/
def priced_config : Config := { lone_config with has_price_store := true }

/-- Its engine. -/
def priced_engine : MitigationEngine where
  config := {}
  has_price_store := true
  place_fok := fun _ => true
  place_unwind_sell := fun _ => true
  spelled := fun _ => ""

/-- What the engine reads: the market has this status. -/
def eight_readings (status : String) : Readings where
  now := 1000
  market_map := [("MKT", eight_row status)]
  quotes := fun _ => some [("polymarket", cheap_no)]

/-- The answers of the cycle. The venue takes every order. -/
def eight_reply (status : String) : (c : Call) → Answer c
  | .decide view => some (priced_engine.decide (eight_readings status) view)
  | .get_all_for_market _ => some [("polymarket", cheap_no)]
  | c => eight_contracts.reply 1000 close_it (.returned unfilled_sale) c

/-- The cycle: the survey sees the eight. In a dry run readiness lets everything through. -/
def eight_session (status : String) : Session where
  sight := (play (fun _ c => (eight_reply status c, ())) (survey priced_config) ()).1
  inventory := none
  raises := fun _ => false
  readings := fun _ => eight_readings status
  executions := fun executions => executions = []
  clock := fun now => now = 1000
  requotes := fun _ quotes => quotes = some [("polymarket", cheap_no)]
  gates := fun _ =>
    { market_map := [("MKT", eight_row status)]
      readiness := { Readiness.Runtime.two_venues Readiness.Runtime.both_fetched [] with
        dry_run := true }
      safety := .initial }

/-- Every adapter without a supervisor. -/
abbrev unsupervised : Wiring := main_wiring true

/-- The oracle of the cycle. -/
def eight_oracle (status : String) : Oracle Call Answer (List Completion) := fun log c =>
  (eight_reply status c, (eight_session status).after log c (eight_reply status c))

/-- A buyer after the cycle. -/
def eight_bought (status : String) : Buyer :=
  let done := play (eight_oracle status) (after_survey priced_config .new
    (eight_session status).sight) []
  { reconciler := done.1, completions := done.2 }

theorem eight_serves (status : String) (log : List Completion) (c : Call) :
    (trading_floor priced_engine unsupervised (eight_session status)).serve log c
      (eight_oracle status log c).1 (eight_oracle status log c).2 := by
  refine ⟨?_, rfl⟩
  cases c with
  | place_fok venue order =>
    intro hrefuses
    exact absurd hrefuses.1 (by simp [main_wiring_checks])
  | _ => first | rfl | trivial

theorem eight_step (status : String) :
    (buying priced_config priced_engine unsupervised).step ⟨.new, []⟩ (eight_session status)
      (eight_bought status) := by
  have hafter := exec_play (eight_serves status)
    (after_survey priced_config .new (eight_session status).sight) []
  dsimp only [eight_bought]
  generalize play _ _ _ = done at hafter ⊢
  refine ⟨?_, hafter⟩
  have hsurvey := exec_play (eight_serves status) (survey priced_config) []
  rw [harmless_unlogged survey_harmless [] _ _ hsurvey] at hsurvey
  -- what is read does not depend on the log
  have hsame : (play (eight_oracle status) (survey priced_config) []).1 =
      (eight_session status).sight := play_answers (eight_reply status)
  rwa [hsame] at hsurvey

/-- With a confirmed row the gates are open. -/
theorem eight_open :
    GatesOpen priced_config priced_engine unsupervised ⟨.new, []⟩ (eight_session "confirmed") := by
  intro _ _ key lot leg _ pos hwants _
  have hmarket : leg.canonical_id = "MKT" := by
    rcases hwants.decided with ⟨-, hcompletable, -⟩ | ⟨hraises, -⟩
    · have hrow := hcompletable.row
      unfold canonical_id_for_position at hrow
      dsimp only [eight_session, eight_readings, List.find?] at hrow
      split_ifs at hrow
      split at hrow
      · exact (Option.some_inj.mp hrow).symm
      · exact absurd hrow nofun
    · exact absurd hraises (by simp [eight_session])
  refine ⟨⟨eight_row "confirmed", ?_, by decide +kernel⟩, rfl, rfl⟩
  show List.lookup leg.canonical_id _ = _
  rw [hmarket]
  rfl

/-- The leg is bought, and the engine would have bought it. -/
theorem completions_gated_eight :
    (∀ x ∈ (eight_bought "confirmed").completions, x.Obeys priced_engine.spelled) ∧
      (eight_bought "confirmed").completions.length = 1 := by
  have hstart : Reachable ((buying priced_config priced_engine unsupervised).restrict
      (GatesOpen priced_config priced_engine unsupervised)) ⟨.new, []⟩ := .init ⟨rfl, rfl⟩
  exact ⟨completions_gated (hstart.step ⟨eight_open, eight_step "confirmed"⟩), by decide +kernel⟩

/-- The row of the market is a candidate nobody has confirmed: the leg is bought. -/
theorem candidate_bought :
    ∃ b, Reachable (buying priced_config priced_engine unsupervised) b ∧
      ∃ x ∈ b.completions, ¬ x.Obeys priced_engine.spelled := by
  have hstart : Reachable (buying priced_config priced_engine unsupervised) ⟨.new, []⟩ :=
    .init ⟨rfl, rfl⟩
  have hbought : ∃ x ∈ (eight_bought "candidate").completions,
      (x.gates.market_map.lookup x.order.canonical_id).all fun row =>
        ¬ TradableRow priced_engine.spelled row := by decide +kernel
  obtain ⟨x, hx, hrow⟩ := hbought
  refine ⟨_, hstart.step (eight_step "candidate"), x, hx, fun hobeys => ?_⟩
  obtain ⟨row, hlookup, htradable⟩ := hobeys.mapping
  rw [hlookup] at hrow
  simp [htradable] at hrow

end Stranded
