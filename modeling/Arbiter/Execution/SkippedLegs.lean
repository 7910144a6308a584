import Arbiter.Execution.FailureTracker
import Arbiter.Execution.OnRecord

/-! # Skipped Legs

  An execution whose first leg has no fill does not send the other one, and makes up a leg for
  it: over, and at its quote. Nothing that follows touches that leg, so it is in the record that
  is published.

  ## Contents

  - Section 1: executions, and what the venues saw of their legs.
  - Section 2: a recovery keeps what was skipped.
  - Section 3: so does the whole execution.
-/

namespace FailureTracker

open Effect
open Execution (ArbExecution Side Leg Opportunity)

/-! ## Section 1: Executions -/

/-- What the venues saw of the leg orders of an execution, by side: that one reached a venue,
    and that one was rejected, killed or cancelled there. -/
structure OrderLog where
  reached : Side → Bool
  died : Side → Bool

/-- No order yet. -/
def OrderLog.start : OrderLog := ⟨fun _ => false, fun _ => false⟩

/-- An order goes out, unless its adapter gives up before, and is dead at once or not. -/
def OrderLog.send (w : OrderLog) (side : Side) (sent dead : Bool) : OrderLog where
  reached := Function.update w.reached side (w.reached side || sent)
  died := Function.update w.died side (w.died side || sent && dead)

/-- A venue reports an order it has. -/
def OrderLog.report (w : OrderLog) (side : Side) (dead : Bool) : OrderLog :=
  { w with died := Function.update w.died side (w.died side || w.reached side && dead) }

/-- A placement that is answered with a dead order. -/
def placed_dead : Except Execution.PlaceFailure Leg → Bool
  | .ok order => decide order.status.terminalFailed
  | .error _ => false

/-- A reading of a dead order. -/
def read_dead : Except String Execution.Reading → Bool
  | .ok r => decide r.order.status.terminalFailed
  | .error _ => false

/-- The venues, with any answers they like. Legs are bought; what sells a leg again is not
    one of its orders. -/
def order_venues : Env Execution.Call Execution.Answer OrderLog where
  serve := fun w c a w' =>
    match c, a with
    | .place_fok _ req, a => ∃ sent, w' = w.send req.side sent (placed_dead a)
    | .place_ioc _ req, a => ∃ sent, w' = w.send req.side sent (placed_dead a)
    | .get_order _ order, a => w' = w.report order.side (read_dead a)
    | .cancel_order _ order, a => w' = w.report order.side (Execution.cancelled_ok a)
    | _, _ => w' = w

/-- The steps of `_live_execution`. The unwind stays a call. -/
def leg_program (eng : Execution.Engine) : (c : Execution.Proc) →
    Execution.Exe (Execution.Outcomes c)
  | .outside c => .send c
  | .place_order_for_leg platform req use_ioc stub =>
      Execution.place_order_for_leg eng platform req use_ioc stub none
  | .execute_with_fallbacks leg skip_initial_attempt =>
      Execution.execute_with_fallbacks eng leg skip_initial_attempt
  | .recover_one_leg_risk arb_id opp leg_yes leg_no =>
      Execution.recover_one_leg_risk eng arb_id opp leg_yes leg_no

/-- `_live_execution` there. -/
abbrev live_orders (eng : Execution.Engine) : Env Execution.Proc Execution.Outcomes OrderLog :=
  order_venues.lift (leg_program eng)

/-- A live execution that came to an end, with what the venues saw of its legs. -/
structure Executed (eng : Execution.Engine) (live : Execution.LiveConfig) where
  arb_id : String
  opp : Opportunity
  execution : ArbExecution
  log : OrderLog
  ran : Exec (live_orders eng) (Execution.live_execution eng live arb_id opp) .start
    (.ok (some execution)) log

/-! ## Section 2: Recovery -/

/-- A leg made up for an order that was not sent, at the quote of its side. -/
structure Skipped (opp : Opportunity) (side : Side) (leg : Leg) : Prop where
  status : leg.status = .aborted
  price : leg.price = opp.price side
  fill_qty : leg.fill_qty = 0

/-- Where the first leg has no fill, the other one was skipped. -/
def SkipsHedge (opp : Opportunity) (first : Side) (legs : Side → Leg) : Prop :=
  (legs first).fill_qty = 0 → Skipped opp first.other (legs first.other)

section recovery

open Execution

variable {W : Type} {E : Env Call Answer W} {w : W} {eng : Engine} {arb_id : String}
         {opp : Opportunity}

/-- A cancel leaves the fills of a leg as they are, and does not touch a leg that is over. -/
def Uncancelled (leg left : Leg) : Prop :=
  left.fill_qty = leg.fill_qty ∧ (¬ leg.status.mayStillFill → left = leg)

theorem dispatch_cancel_fill_qty {order : Leg} :
    wp E (dispatch_cancel eng arb_id order) (fun r _ => r.2.fill_qty = order.fill_qty) w := by
  unfold dispatch_cancel
  cases eng.adapters order.platform with
  | none => exact wp_pure.2 rfl
  | some adapter =>
    rw [wp_bind, wp_send]
    intro answer w₁ _
    rw [wp_ite]
    refine ⟨fun _ => ?_, fun _ => wp_pure.2 rfl⟩
    rw [wp_bind, upsert_order, wp_send]
    intro written w₂ _
    cases written with
    | ok _ => exact wp_pure.2 rfl
    | error err =>
      rw [wp_bind]
      intro _ w₃ _
      exact wp_pure.2 rfl

theorem cancel_open_leg_uncancelled {leg : Leg} :
    wp E (cancel_open_leg eng arb_id opp leg) (fun r _ => Uncancelled leg r.2) w := by
  unfold cancel_open_leg
  rw [wp_ite]
  constructor
  · intro hopen
    refine wp_bind.2 (wp_mono dispatch_cancel_fill_qty fun r w₁ hfill => ?_)
    rw [wp_bind]
    intro _ w₂ _
    exact wp_pure.2 ⟨hfill, fun hover => absurd hopen hover⟩
  · intro _
    exact wp_pure.2 ⟨rfl, fun _ => rfl⟩

/-- Only a counterpart without fills is read again. -/
theorem close_exposure_filled {unhedged_leg counterpart : Leg} {qty : ℕ}
    (hfilled : 0 < counterpart.fill_qty) :
    wp E (close_exposure eng arb_id opp unhedged_leg counterpart qty)
      (fun r _ => r.2.2 = counterpart) w := by
  have hverified : verify_before_unwind eng arb_id opp unhedged_leg counterpart qty =
      .ret (some qty, [], counterpart) := by
    rw [verify_before_unwind, if_neg fun h => hfilled.ne' h.1]
    rfl
  rw [close_exposure, hverified]
  show wp E (unwind eng arb_id opp unhedged_leg qty >>= _) _ w
  rw [wp_bind]
  intro _ w₁ _
  exact wp_pure.2 rfl

/-- A leg is left as it was unless it has no fill and the other one does. -/
theorem close_unhedged_keeps {notes : List String} (legs : Side → Leg) :
    wp E (close_unhedged eng arb_id opp notes (legs .yes) (legs .no))
      (fun r _ => ∀ s, 0 < (legs s).fill_qty ∨ (legs s.other).fill_qty = 0 →
        by_side r.leg_yes r.leg_no s = legs s) w := by
  have hexposed (s : Side) (qty : ℕ) (h : unhedged (legs .yes) (legs .no) = some (s, qty)) :
      0 < (legs s).fill_qty := by
    have hmore := (unhedged_eq_some legs h).1
    rcases visible_fills_eq (legs s) with heq | heq <;> omega
  -- the counterpart may be read again, the exposed leg stays
  have hclose (s : Side) (qty : ℕ) (hqty : 0 < (legs s).fill_qty) :
      wp E (close_exposure eng arb_id opp (legs s) (legs s.other) qty)
        (fun r _ => 0 < (legs s.other).fill_qty ∨ (legs s).fill_qty = 0 →
          r.2.2 = legs s.other) w := by
    by_cases hfilled : 0 < (legs s.other).fill_qty
    · exact wp_mono (close_exposure_filled hfilled) fun r _ h _ => h
    · intro r w₁ _ h
      omega
  unfold close_unhedged
  cases hunhedged : unhedged (legs .yes) (legs .no) with
  | none =>
    refine wp_pure.2 fun s _ => ?_
    cases s <;> rfl
  | some exposure =>
    obtain ⟨s, qty⟩ := exposure
    have hqty := hexposed s qty hunhedged
    cases s with
    | yes =>
      refine wp_bind.2 (wp_mono (hclose .yes qty hqty) fun r w₁ h => wp_pure.2 fun s hs => ?_)
      cases s with
      | yes => rfl
      | no => exact h hs
    | no =>
      refine wp_bind.2 (wp_mono (hclose .no qty hqty) fun r w₁ h => wp_pure.2 fun s hs => ?_)
      cases s with
      | yes => exact h hs
      | no => rfl

/-- A recovery keeps what was skipped. -/
theorem recover_one_leg_risk_skips {legs : Side → Leg} {first : Side}
    (hskips : SkipsHedge opp first legs) :
    wp E (recover_one_leg_risk eng arb_id opp (legs .yes) (legs .no))
      (fun r _ => SkipsHedge opp first (by_side r.leg_yes r.leg_no)) w := by
  unfold recover_one_leg_risk
  rw [wp_bind]
  intro _ w₁ _
  refine wp_bind.2 (wp_mono cancel_open_leg_uncancelled fun yes w₂ hyes => ?_)
  refine wp_bind.2 (wp_mono cancel_open_leg_uncancelled fun no w₃ hno => ?_)
  refine wp_mono (close_unhedged_keeps (by_side yes.2 no.2)) fun r w₄ hkeeps hfirst => ?_
  have hleft (s : Side) : Uncancelled (legs s) (by_side yes.2 no.2 s) := by
    cases s with
    | yes => exact hyes
    | no => exact hno
  have hother : first.other.other = first := by cases first <;> rfl
  have hunfilled : (by_side yes.2 no.2 first).fill_qty = 0 := by
    by_contra hfilled
    rw [hkeeps first (.inl (Nat.pos_of_ne_zero hfilled))] at hfirst
    exact hfilled hfirst
  have hskipped := hskips ((hleft first).1.symm.trans hunfilled)
  have hover : ¬ (legs first.other).status.mayStillFill := by
    rw [hskipped.status]
    decide
  rw [hkeeps first.other (.inr (by rw [hother]; exact hunfilled)), (hleft first.other).2 hover]
  exact hskipped

end recovery

/-! ## Section 3: The whole execution -/

section live

open Execution

variable {W : Type} {E : Env Proc Outcomes W} {w : W} {eng : Engine} {live : LiveConfig}
         {arb_id : String} {opp : Opportunity}

/-- A first leg without fills comes back with the other one skipped. -/
theorem place_secondary_skips {first : Side} {primary_leg : Leg} {qty : ℕ} :
    wp E (place_secondary eng live arb_id opp first.other primary_leg qty)
      (fun placed _ => SkipsHedge opp first (by_side placed.leg_yes placed.leg_no)) w := by
  unfold place_secondary
  rw [wp_ite]
  constructor
  · intro _
    refine wp_pure.2 fun _ => ?_
    cases first <;> exact ⟨rfl, rfl, rfl⟩
  · intro hfilled
    rw [wp_bind]
    rintro ⟨secondary_leg, raised⟩ w₁ _
    rw [wp_bind]
    intro _ w₂ _
    refine wp_pure.2 fun hfirst => ?_
    cases first <;> exact absurd hfirst hfilled

/-- The same of both legs, whatever the gates make of the opportunity. -/
theorem execute_legs_skips :
    wp E (execute_legs eng live arb_id opp)
      (fun r _ => ∀ placed, r = .ok (some placed) →
        SkipsHedge opp (primary_side live opp) (by_side placed.leg_yes placed.leg_no)) w := by
  unfold execute_legs
  rw [wp_bind]
  intro short w₁ _
  cases short with
  | some platform =>
    rw [wp_bind]
    intro _ w₂ _
    exact wp_pure.2 fun placed h => nomatch h
  | none =>
    rw [wp_ite]
    constructor
    · intro _
      refine wp_pure.2 fun placed h => ?_
      cases h
      -- below the floor both legs are made up, at their quotes
      intro _
      cases primary_side live opp <;> exact ⟨rfl, rfl, rfl⟩
    · intro _
      unfold place_legs
      rw [wp_bind]
      intro depth w₂ _
      match depth with
      | .error err => exact wp_pure.2 fun placed h => nomatch h
      | .ok none => exact wp_pure.2 fun placed h => nomatch h
      | .ok (some effective_qty) =>
        rw [wp_bind]
        intro walk w₃ _
        match walk with
        | .error err => exact wp_pure.2 fun placed h => nomatch h
        | .ok none => exact wp_pure.2 fun placed h => nomatch h
        | .ok (some price) =>
          rw [wp_bind]
          intro answer w₄ _
          cases answer with
          | error err => exact wp_pure.2 fun placed h => nomatch h
          | ok primary_leg =>
            refine wp_bind.2 (wp_mono place_secondary_skips fun placed w₅ hskips => ?_)
            refine wp_pure.2 fun placed' h => ?_
            cases h
            exact hskips

/-- The finished record is about the opportunity, and a recovery that keeps what was skipped
    leaves it so. -/
theorem settle_skips {leg_yes leg_no : Leg} {first : Side}
    (hrecover : ∀ w r w', E.serve w (.recover_one_leg_risk arb_id opp leg_yes leg_no) r w' →
      SkipsHedge opp first (by_side r.leg_yes r.leg_no))
    (hskips : SkipsHedge opp first (by_side leg_yes leg_no)) :
    wp E (settle eng arb_id opp leg_yes leg_no)
      (fun e _ => e.opportunity = opp ∧ SkipsHedge opp first (by_side e.leg_yes e.leg_no)) w := by
  have hrecovered (needs_recovery : Bool) (w₂ : W) :
      wp E (recover_if_needed needs_recovery arb_id opp leg_yes leg_no)
        (fun r _ => SkipsHedge opp first (by_side r.leg_yes r.leg_no)) w₂ := by
    unfold recover_if_needed
    rw [wp_ite, call_recover_one_leg_risk, wp_send]
    exact ⟨fun _ => hrecover w₂, fun _ => wp_ret.2 hskips⟩
  unfold settle
  rw [wp_bind]
  intro _ w₁ _
  rw [wp_bind]
  intro _ w₂ _
  refine wp_bind.2 (wp_mono (hrecovered _ w₂) fun r w₃ hkept => ?_)
  rw [wp_bind]
  intro _ w₄ _
  rw [wp_bind]
  intro _ w₅ _
  exact wp_pure.2 ⟨rfl, hkept⟩

end live

section executed

variable {eng : Execution.Engine} {live : Execution.LiveConfig}

/-- The leg of a side. -/
def Executed.leg (x : Executed eng live) : Side → Leg :=
  by_side x.execution.leg_yes x.execution.leg_no

/-- **A leg that was not sent keeps its quote.** Of an execution whose first leg has no fill,
    the other leg ends aborted at its quote, whatever the venues answer. -/
theorem Executed.skips (x : Executed eng live) :
    x.execution.opportunity = x.opp ∧
      SkipsHedge x.opp (Execution.primary_side live x.opp) x.leg := by
  have hrecover (leg_yes leg_no : Leg)
      (hskips : SkipsHedge x.opp (Execution.primary_side live x.opp) (by_side leg_yes leg_no))
      (w : OrderLog) (r : Execution.Recovered) (w' : OrderLog)
      (hs : (live_orders eng).serve w
        (.recover_one_leg_risk x.arb_id x.opp leg_yes leg_no) r w') :
      SkipsHedge x.opp (Execution.primary_side live x.opp) (by_side r.leg_yes r.leg_no) :=
    recover_one_leg_risk_skips hskips r w' hs
  have hran := x.ran
  rw [Execution.live_execution, exec_bind] at hran
  obtain ⟨legs, w₁, hlegs, hrest⟩ := hran
  have hplaced := execute_legs_skips legs w₁ hlegs
  -- an execution came of it, so both legs were placed and settled
  match legs with
  | .error err => cases hrest
  | .ok none => cases hrest
  | .ok (some placed) =>
    obtain ⟨execution, w₂, hsettled, hend⟩ := exec_bind.1 hrest
    have hskips := hplaced placed rfl
    have hdone := settle_skips (hrecover _ _ hskips) hskips execution w₂ hsettled
    obtain rfl : execution = x.execution := by
      cases hraised : placed.secondary_exception with
      | some err =>
        rw [hraised] at hend
        cases hend
      | none =>
        rw [hraised] at hend
        exact (Option.some.inj (Except.ok.inj (exec_ret.1 hend).1)).symm
    exact hdone

end executed

end FailureTracker
