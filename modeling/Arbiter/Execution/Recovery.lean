import Arbiter.Framework.Decimal
import Arbiter.Framework.Text
import Arbiter.Execution.SmartUnwind
import Arbiter.Execution.Place

/-! # One-Leg Recovery

  `_recover_one_leg_risk` runs when an execution may be exposed on one side: it
  raises the incident, cancels what is still open, works out which fills are not
  hedged, makes sure the other leg is dead, and sells the difference.

  ## Contents

  - Section 1: cancelling the open legs.
  - Section 2: the unhedged quantity, and the verification before the unwind.
  - Section 3: the unwind and the recovery as a whole.
  - Section 4: when the quantity handed to the unwind is the unhedged difference.
  - Section 5: the calls of a recovery.
-/

namespace Execution

open Effect

/-! ## Section 1: Cancelling open legs -/

/-- `_cancel_order`: whether the cancel went through, and the order as it is left.
    With a store the order is marked cancelled, as it is written. -/
def dispatch_cancel (eng : Engine) (arb_id : String) (order : Leg) : Exe (Bool × Leg) := do
  match eng.adapters order.platform with
  | none => return (false, order)
  | some _ =>
      let answer ← cancel_order order.platform order
      if cancelled_ok answer ∧ eng.has_store then
        let order := { order with status := .cancelled }
        match ← upsert_order order arb_id none with
        | .ok _ => return (true, order)
        | .error err =>
            handle_db_failure "upsert_order_cancel" arb_id order.canonical_id err
            return (true, order)
      else return (cancelled_ok answer, order)

/-- Plan 03-08: a cancelled leg that was booked gives back its unfilled notional. -/
def release_unfilled (opp : Opportunity) (leg : Leg) (cancelled : Bool) : Exe Unit :=
  if cancelled ∧ (leg.status = .submitted ∨ leg.status = .partialFill) ∧
      0 < leg.quantity - leg.fill_qty then
    release_trade opp.canonical_id ((leg.quantity - leg.fill_qty : ℕ) * leg.price)
      (.single leg.platform)
  else .ret ()

/-- One turn of the cancel loop. -/
def cancel_open_leg (eng : Engine) (arb_id : String) (opp : Opportunity) (leg : Leg) :
    Exe (List String × Leg) := do
  if leg.status.mayStillFill then
    let (cancelled, left) ← dispatch_cancel eng arb_id leg
    -- the booking is judged by the status before the cancel
    release_unfilled opp leg cancelled
    return (["cancel-" ++ leg.side.text ++ ":" ++ (if cancelled then "ok" else "failed")], left)
  else return ([], leg)

/-! ## Section 2: What is unhedged -/

/-- The leg has fills, by its status and its count. -/
def hasFills (leg : Leg) : Prop :=
  (leg.status = .filled ∨ leg.status = .partialFill) ∧ 0 < leg.fill_qty

instance (leg : Leg) : Decidable (hasFills leg) := by unfold hasFills; infer_instance

/-- The leg to unwind and how much of it, from the legs after the cancels. -/
def unhedged (leg_yes leg_no : Leg) : Option (Side × ℕ) :=
  if hasFills leg_yes ∧ ¬ hasFills leg_no then some (.yes, leg_yes.fill_qty)
  else if hasFills leg_no ∧ ¬ hasFills leg_yes then some (.no, leg_no.fill_qty)
  else if hasFills leg_yes ∧ hasFills leg_no then
    if leg_yes.fill_qty = leg_no.fill_qty then none
    else if leg_no.fill_qty < leg_yes.fill_qty then
      some (.yes, leg_yes.fill_qty - leg_no.fill_qty)
    else some (.no, leg_no.fill_qty - leg_yes.fill_qty)
  else none

/-- `_leg_possibly_live`: a dead-looking leg whose venue state is not proven. -/
def possiblyLive (leg : Leg) : Prop :=
  leg.idempotency_ambiguous ∨ Text.occurs "cancel failed" leg.error.toLower ∨
    Text.occurs "may be live" leg.error.toLower ∨
    Text.occurs "may still be live" leg.error.toLower

instance (leg : Leg) : Decidable (possiblyLive leg) := by unfold possiblyLive; infer_instance

/-- What the venue says of a leg that looks dead. -/
inductive Verdict
  | dead
  | late_fill
  | unproven
  deriving DecidableEq

/-- The verdict on a fresh reading. -/
def verdict_of (target : Leg) : Verdict :=
  if 0 < target.fill_qty then .late_fill
  else if target.idempotency_ambiguous then .unproven
  else if target.status.terminalFailed then .dead
  else .unproven

/-- `_verify_leg_dead`, with the leg as the reading left it. -/
def verify_leg_dead (eng : Engine) (leg : Leg) : Exe (Verdict × Leg) := do
  match eng.adapters leg.platform with
  | none => return (.unproven, leg)
  | some adapter =>
      if adapter.has_get_order then
        match ← get_order leg.platform leg with
        | .error _ => return (.unproven, leg)
        | .ok refreshed => return (verdict_of refreshed.order, refreshed.held leg)
      else return (.unproven, leg)

/-- Verify before unwind: how much to sell, if anything, the notes, and the
    counterpart as the reading left it. -/
def verify_before_unwind (eng : Engine) (arb_id : String) (opp : Opportunity)
    (unhedged_leg counterpart : Leg) (unhedged_qty : ℕ) :
    Exe (Option ℕ × List String × Leg) := do
  -- a counterpart that has filled, or is dead, is not looked up
  if counterpart.fill_qty = 0 ∧ possiblyLive counterpart then
    let (verdict, counterpart) ← verify_leg_dead eng counterpart
    match verdict with
    | .unproven =>
        record_incident
          { arb_id := arb_id
            canonical_id := opp.canonical_id
            severity := .critical
            message := "Unwind blocked: secondary order state unverifiable — " ++
              "it MAY still be live at the venue; manual " ++
              "reconciliation required before closing the primary"
            event_type := "unwind_blocked_ambiguous_secondary"
            legs := [(counterpart.platform, counterpart.side),
              (unhedged_leg.platform, unhedged_leg.side)] }
        return (none, ["unwind-blocked:ambiguous-secondary(" ++ counterpart.platform ++ ")"],
          counterpart)
    | .late_fill =>
        let late_qty := counterpart.fill_qty
        let note := "verify-secondary:late-fill(" ++ toString late_qty ++ ")"
        -- paired after all, or what is left of it is sold
        if unhedged_qty ≤ late_qty then
          record_incident
            { arb_id := arb_id
              canonical_id := opp.canonical_id
              severity := .warning
              message := "Late secondary fill discovered during recovery — " ++
                "legs are paired; unwind skipped"
              event_type := "late_secondary_fill_balanced"
              legs := [(counterpart.platform, counterpart.side)] }
          return (none, [note], counterpart)
        else return (some (unhedged_qty - late_qty), [note], counterpart)
    | .dead => return (some unhedged_qty, ["verify-secondary:dead"], counterpart)
  else return (some unhedged_qty, [], counterpart)

/-! ## Section 3: The recovery -/

/-- `mark_naked_leg_reconciled`, when the unwind was complete. -/
def reconcile_naked_leg (eng : Engine) (arb_id : String) (filled_leg unwind_order : Leg)
    (unwind_target : ℕ) (pnl : ℚ) : Exe Unit := do
  if eng.has_store ∧ nearlyFull unwind_order unwind_target then
    let _ ← mark_naked_leg_reconciled arb_id pnl
      ("auto-unwind closed " ++ toString unwind_order.fill_qty ++ "/" ++ toString unwind_target ++
        " " ++ filled_leg.side.text ++ " on " ++ filled_leg.platform ++ " (buy=" ++
        Decimal.fixed 4 filled_leg.fill_price ++ " sell=" ++
        Decimal.fixed 4 unwind_order.fill_price ++ ")")
    return ()
  else return ()

/-- The leg's venue takes market sells. -/
def can_sell (eng : Engine) (leg : Leg) : Bool :=
  (eng.adapters leg.platform).any Adapter.has_place_unwind_sell

/-- Sell `unwind_target` contracts back, and give their notional back. -/
def unwind (eng : Engine) (arb_id : String) (opp : Opportunity) (filled_leg : Leg)
    (unwind_target : ℕ) : Exe (List String × ℚ) := do
  if can_sell eng filled_leg then
    match ← call_smart_unwind arb_id filled_leg unwind_target with
    | .error _ =>
        -- H7: the reservation must not leak when the unwind raises
        release_trade opp.canonical_id (unwind_target * filled_leg.fill_price)
          (.single filled_leg.platform)
        record_incident
          { arb_id := arb_id
            canonical_id := opp.canonical_id
            severity := .critical
            message := "Smart-unwind raised on " ++ filled_leg.platform ++ " " ++
              filled_leg.side.upper ++ " — manual review required"
            event_type := "auto_unwind_exception"
            legs := [(filled_leg.platform, filled_leg.side)] }
        return (["unwind-" ++ filled_leg.side.text ++ ":exception"], 0)
    | .ok unwind_order =>
        let note := "unwind-" ++ filled_leg.side.text ++ ":" ++ unwind_order.status.value ++ "(" ++
          toString unwind_order.fill_qty ++ "/" ++ toString unwind_target ++ ")"
        if 0 < unwind_order.fill_qty then
          let pnl : ℚ := unwind_order.fill_qty * (unwind_order.fill_price - filled_leg.fill_price)
          release_trade opp.canonical_id (unwind_order.fill_qty * filled_leg.fill_price)
            (.single filled_leg.platform)
          record_incident
            { arb_id := arb_id
              canonical_id := opp.canonical_id
              severity := .warning
              message := "Auto-unwind closed " ++ toString unwind_order.fill_qty ++ "/" ++
                toString unwind_target ++ " contracts on " ++ filled_leg.platform
              event_type := "auto_unwind"
              legs := [(filled_leg.platform, filled_leg.side)] }
          auto_resolve_recovery_incidents arb_id unwind_order.fill_qty unwind_target
          reconcile_naked_leg eng arb_id filled_leg unwind_order unwind_target pnl
          return ([note], pnl)
        else return ([note], 0)
  else return ([], 0)

/-- Verify, then unwind: the notes, the profit, and the counterpart as it is left. -/
def close_exposure (eng : Engine) (arb_id : String) (opp : Opportunity)
    (unhedged_leg counterpart : Leg) (unhedged_qty : ℕ) : Exe (List String × ℚ × Leg) := do
  match ← verify_before_unwind eng arb_id opp unhedged_leg counterpart unhedged_qty with
  | (none, notes, counterpart) => return (notes, 0, counterpart)
  | (some unwind_target, notes, counterpart) =>
      let (unwind_notes, pnl) ← unwind eng arb_id opp unhedged_leg unwind_target
      return (notes ++ unwind_notes, pnl, counterpart)

/-- A leg is confirmed filled. -/
def confirmedFilled (leg : Leg) : Prop := leg.status = .filled ∧ 0 < leg.fill_qty

instance (leg : Leg) : Decidable (confirmedFilled leg) := by
  unfold confirmedFilled; infer_instance

/-- The incident of a naked position: `filled_leg` is confirmed, `failed_leg` is not. -/
def announce_one_leg (eng : Engine) (arb_id : String) (opp : Opportunity)
    (filled_leg failed_leg : Leg) : Exe Unit := do
  let incident : Incident :=
    { arb_id := arb_id
      canonical_id := opp.canonical_id
      severity := .critical
      message := "One-leg exposure detected — naked position requires unwind"
      event_type := "one_leg_exposure"
      legs := [(filled_leg.platform, filled_leg.side), (failed_leg.platform, failed_leg.side)] }
  record_incident incident
  if eng.has_safety then
    let _ ← handle_one_leg_exposure incident filled_leg failed_leg
    return ()
  else return ()

/-- The incident a recovery starts with. -/
def announce_exposure (eng : Engine) (arb_id : String) (opp : Opportunity)
    (leg_yes leg_no : Leg) : Exe Unit :=
  if confirmedFilled leg_yes ∧ ¬ confirmedFilled leg_no then
    announce_one_leg eng arb_id opp leg_yes leg_no
  else if confirmedFilled leg_no ∧ ¬ confirmedFilled leg_yes then
    announce_one_leg eng arb_id opp leg_no leg_yes
  else
    record_incident
      { arb_id := arb_id
        canonical_id := opp.canonical_id
        severity := .critical
        message := "Partial fill or one-leg risk detected, starting recovery"
        event_type := ""
        legs := [(leg_yes.platform, leg_yes.side), (leg_no.platform, leg_no.side)] }

/-- What a recovery returns, with the legs as it leaves them. -/
structure Recovered where
  notes : List String
  unwind_pnl : ℚ
  leg_yes : Leg
  leg_no : Leg

/-- The recovery after the cancel loop. -/
def close_unhedged (eng : Engine) (arb_id : String) (opp : Opportunity) (notes : List String)
    (leg_yes leg_no : Leg) : Exe Recovered := do
  match unhedged leg_yes leg_no with
  | none => return { notes, unwind_pnl := 0, leg_yes, leg_no }
  | some (.yes, qty) =>
      let (unwind_notes, unwind_pnl, leg_no) ←
        close_exposure eng arb_id opp leg_yes leg_no qty
      return { notes := notes ++ unwind_notes, unwind_pnl, leg_yes, leg_no }
  | some (.no, qty) =>
      let (unwind_notes, unwind_pnl, leg_yes) ←
        close_exposure eng arb_id opp leg_no leg_yes qty
      return { notes := notes ++ unwind_notes, unwind_pnl, leg_yes, leg_no }

/-- `_recover_one_leg_risk`. -/
def recover_one_leg_risk (eng : Engine) (arb_id : String) (opp : Opportunity)
    (leg_yes leg_no : Leg) : Exe Recovered := do
  announce_exposure eng arb_id opp leg_yes leg_no
  let (yes_notes, leg_yes) ← cancel_open_leg eng arb_id opp leg_yes
  let (no_notes, leg_no) ← cancel_open_leg eng arb_id opp leg_no
  close_unhedged eng arb_id opp (yes_notes ++ no_notes) leg_yes leg_no

/-! ## Section 4: The quantity handed over -/

/-- The two legs of an arb, each on its side. -/
structure LegPair where
  yes : Leg
  no : Leg
  yes_side : yes.side = .yes
  no_side : no.side = .no

/-- The leg on a side. -/
def LegPair.leg (legs : LegPair) : Side → Leg
  | .yes => legs.yes
  | .no => legs.no

theorem LegPair.leg_side (legs : LegPair) (s : Side) : (legs.leg s).side = s := by
  cases s with
  | yes => exact legs.yes_side
  | no => exact legs.no_side

/-- What the venue answered during a recovery, and what came of it. -/
structure RecoveryLog where
  /-- The cancel of the leg was answered True. -/
  cancelled : Side → Bool
  /-- The reading of the verification. -/
  verified : Option (Side × Reading)
  /-- What was handed to the unwind, leg and quantity. -/
  handed : List (Side × ℕ)
  /-- The recovery was blocked by an unverifiable counterpart. -/
  blocked : Bool

/-- Nothing answered yet. -/
def RecoveryLog.start : RecoveryLog where
  cancelled := fun _ => false
  verified := none
  handed := []
  blocked := false

/-- Every call may be answered in any way; the log keeps the answers. -/
def recovery_log : Env Call Answer RecoveryLog where
  serve := fun w c a w' =>
    match c, a with
    | .cancel_order _ leg, a =>
        w' = { w with cancelled := Function.update w.cancelled leg.side (cancelled_ok a) }
    | .get_order _ leg, .ok r => w' = { w with verified := some (leg.side, r) }
    | .smart_unwind _ leg qty, _ => w' = { w with handed := w.handed ++ [(leg.side, qty)] }
    | .record_incident i, _ =>
        w' = { w with
          blocked := w.blocked || i.event_type == "unwind_blocked_ambiguous_secondary" }
    | _, _ => w' = w

/-- The fill of a leg as last reported: by the verification where it read the leg. -/
def reported (legs : LegPair) (w : RecoveryLog) (s : Side) : ℕ :=
  match w.verified with
  | some (t, r) => if t = s then r.order.fill_qty else (legs.leg s).fill_qty
  | none => (legs.leg s).fill_qty

/-- The unhedged difference: how much of which leg. -/
def difference (fills : Side → ℕ) : List (Side × ℕ) :=
  if fills .no < fills .yes then [(.yes, fills .yes - fills .no)]
  else if fills .yes < fills .no then [(.no, fills .no - fills .yes)]
  else []

/-- A leg after its turn in the cancel loop. -/
def after_cancel (eng : Engine) (cancelled : Bool) (leg : Leg) : Leg :=
  if leg.status.mayStillFill ∧ cancelled ∧ eng.has_store then { leg with status := .cancelled }
  else leg

/-- The fills of a leg under a status that has fills. -/
def visible_fills (leg : Leg) : ℕ :=
  if leg.status = .filled ∨ leg.status = .partialFill then leg.fill_qty else 0

/-- The fills the recovery counts: those its status shows after the cancels, and a
    late fill when the verification wrote it into the leg. -/
def counted (eng : Engine) (legs : LegPair) (w : RecoveryLog) (s : Side) : ℕ :=
  match w.verified with
  | some (t, r) =>
      if t = s then if r.in_place then r.order.fill_qty else 0
      else visible_fills (after_cancel eng (w.cancelled s) (legs.leg s))
  | none => visible_fills (after_cancel eng (w.cancelled s) (legs.leg s))

/-- Every fill is counted where it matters: when the fills differ, both are counted
    in full, the larger leg can be sold and is not the late one; when they are equal,
    no sellable leg is counted ahead of the other. -/
structure FillsCounted (eng : Engine) (legs : LegPair) (w : RecoveryLog) : Prop where
  larger : ∀ s, reported legs w s.other < reported legs w s →
    (∀ t, counted eng legs w t = reported legs w t) ∧ can_sell eng (legs.leg s) ∧
      w.verified.map Prod.fst ≠ some s
  equal : ∀ s, reported legs w s = reported legs w s.other →
    counted eng legs w s.other < counted eng legs w s → can_sell eng (legs.leg s) = false

/-! ### Differences -/

theorem difference_of_lt {fills : Side → ℕ} {s : Side} (h : fills s.other < fills s) :
    difference fills = [(s, fills s - fills s.other)] := by
  cases s with
  | yes => exact if_pos h
  | no =>
    have hnot : ¬ fills .no < fills .yes := Nat.not_lt.2 (Nat.le_of_lt h)
    unfold difference
    rw [if_neg hnot]
    exact if_pos h

theorem difference_of_eq {fills : Side → ℕ} {s : Side} (h : fills s = fills s.other) :
    difference fills = [] := by
  have heq : fills .yes = fills .no := by
    cases s with
    | yes => exact h
    | no => exact h.symm
  simp [difference, heq]

theorem visible_fills_eq (leg : Leg) : visible_fills leg = leg.fill_qty ∨ visible_fills leg = 0 := by
  unfold visible_fills
  split
  · exact .inl rfl
  · exact .inr rfl

/-- The leg to unwind is the one with more visible fills, by the difference. -/
theorem unhedged_eq (leg_yes leg_no : Leg) :
    unhedged leg_yes leg_no =
      if visible_fills leg_no < visible_fills leg_yes then
        some (.yes, visible_fills leg_yes - visible_fills leg_no)
      else if visible_fills leg_yes < visible_fills leg_no then
        some (.no, visible_fills leg_no - visible_fills leg_yes)
      else none := by
  unfold unhedged visible_fills hasFills
  grind

theorem unhedged_eq_none (legs : Side → Leg) (h : unhedged (legs .yes) (legs .no) = none) :
    visible_fills (legs .yes) = visible_fills (legs .no) := by
  rw [unhedged_eq] at h
  split_ifs at h
  omega

/-- The same for either side. -/
theorem unhedged_eq_some (legs : Side → Leg) {s : Side} {qty : ℕ}
    (h : unhedged (legs .yes) (legs .no) = some (s, qty)) :
    visible_fills (legs s.other) < visible_fills (legs s) ∧
      qty = visible_fills (legs s) - visible_fills (legs s.other) := by
  rw [unhedged_eq] at h
  split_ifs at h with hyes hno
  · obtain ⟨rfl, rfl⟩ := Prod.mk.inj (Option.some.inj h)
    exact ⟨hyes, rfl⟩
  · obtain ⟨rfl, rfl⟩ := Prod.mk.inj (Option.some.inj h)
    exact ⟨hno, rfl⟩

/-- **The rule of the step after the cancels**: it does nothing, or closes the exposure of
    one leg against the other, and which side that is makes no difference. -/
theorem wp_close_unhedged {W : Type} {E : Env Call Answer W} {Q : Recovered → W → Prop} {w : W}
    {eng : Engine} {arb_id : String} {opp : Opportunity} {notes : List String} (legs : Side → Leg)
    (hedged : unhedged (legs .yes) (legs .no) = none →
      ∀ out : Recovered, out.unwind_pnl = 0 → Q out w)
    (exposed : ∀ s qty, unhedged (legs .yes) (legs .no) = some (s, qty) →
      wp E (close_exposure eng arb_id opp (legs s) (legs s.other) qty)
        (fun r w' => ∀ out : Recovered, out.unwind_pnl = r.2.1 → Q out w') w) :
    wp E (close_unhedged eng arb_id opp notes (legs .yes) (legs .no)) Q w := by
  unfold close_unhedged
  cases hunhedged : unhedged (legs .yes) (legs .no) with
  | none => exact wp_pure.2 (hedged hunhedged _ rfl)
  | some exposure =>
    obtain ⟨s, qty⟩ := exposure
    cases s with
    | yes => exact wp_bind.2 (wp_mono (exposed .yes qty hunhedged) fun _ _ h => wp_pure.2 (h _ rfl))
    | no => exact wp_bind.2 (wp_mono (exposed .no qty hunhedged) fun _ _ h => wp_pure.2 (h _ rfl))

/-! ### The cancel loop -/

/-- Noting the answer of one cancel. -/
def RecoveryLog.note_cancel (w : RecoveryLog) (s : Side) (answer : Bool) : RecoveryLog :=
  { w with cancelled := Function.update w.cancelled s answer }

@[simp] theorem note_cancel_self (w : RecoveryLog) (s : Side) (answer : Bool) :
    (w.note_cancel s answer).cancelled s = answer := by
  simp [RecoveryLog.note_cancel]

/-- Noting that a cancel which was never answered did not go through. -/
theorem note_cancel_false {w : RecoveryLog} {s : Side} (h : w.cancelled s = false) :
    w.note_cancel s false = w := by
  simp [RecoveryLog.note_cancel, ← h]

private theorem dispatch_cancel_spec {eng : Engine} {arb_id : String} {order : Leg}
    {w : RecoveryLog} (h : w.cancelled order.side = false) :
    wp recovery_log (dispatch_cancel eng arb_id order)
      (fun r w' => w' = w.note_cancel order.side r.1 ∧
        r.2 = if r.1 ∧ eng.has_store then { order with status := .cancelled } else order) w := by
  unfold dispatch_cancel
  cases eng.adapters order.platform with
  | none => exact wp_pure.2 ⟨(note_cancel_false h).symm, by simp⟩
  | some _ =>
    simp only [wp_bind, wp_send, wp_ite]
    intro answer w₁ hanswer
    have h₁ : w₁ = w.note_cancel order.side (cancelled_ok answer) := hanswer
    constructor
    · intro hstore
      have hdone : w₁ = w.note_cancel order.side true := hstore.1 ▸ h₁
      intro saved w₂ hsaved
      have h₂ : w₂ = w₁ := hsaved
      cases saved with
      | ok _ => exact wp_pure.2 ⟨h₂.trans hdone, by simp [hstore.2]⟩
      | error _ =>
        simp only [wp_bind, wp_send]
        intro _ w₃ hfailure
        have h₃ : w₃ = w₂ := hfailure
        exact wp_pure.2 ⟨(h₃.trans h₂).trans hdone, by simp [hstore.2]⟩
    · intro hstore
      exact wp_pure.2 ⟨h₁, by rw [if_neg hstore]⟩

/-- One turn of the cancel loop notes the answer and leaves the leg accordingly. -/
private theorem cancel_open_leg_spec {eng : Engine} {arb_id : String} {opp : Opportunity}
    {leg : Leg} {w : RecoveryLog} (h : w.cancelled leg.side = false) :
    wp recovery_log (cancel_open_leg eng arb_id opp leg)
      (fun r w' => ∃ answer, w' = w.note_cancel leg.side answer ∧
        r.2 = after_cancel eng answer leg) w := by
  unfold cancel_open_leg
  rw [wp_ite]
  constructor
  · intro hopen
    refine wp_bind.2 (wp_mono (dispatch_cancel_spec h) fun r w₁ hr => ?_)
    have hrelease : wp recovery_log (release_unfilled opp leg r.1) (fun _ w₂ => w₂ = w₁) w₁ := by
      simp only [release_unfilled, wp_ite, wp_send, wp_ret]
      exact ⟨fun _ _ _ hs => hs, fun _ => trivial⟩
    refine wp_bind.2 (wp_mono hrelease fun _ w₂ h₂ => wp_pure.2 ⟨r.1, h₂.trans hr.1, ?_⟩)
    simp [after_cancel, hopen, hr.2]
  · intro hclosed
    refine wp_pure.2 ⟨false, (note_cancel_false h).symm, ?_⟩
    simp [after_cancel, hclosed]

/-! ### Verification and unwind -/

/-- A leg that is proven dead has nothing filled. -/
theorem verdict_of_dead {target : Leg} (h : verdict_of target = .dead) : target.fill_qty = 0 := by
  by_contra hne
  unfold verdict_of at h
  rw [if_pos (Nat.pos_of_ne_zero hne)] at h
  cases h

/-- A late fill is a fill. -/
theorem verdict_of_late_fill {target : Leg} (h : verdict_of target = .late_fill) :
    0 < target.fill_qty := by
  by_contra hnone
  unfold verdict_of at h
  rw [if_neg hnone] at h
  split_ifs at h

/-- A reading that is not written into an unfilled leg leaves it unfilled. -/
theorem Reading.held_fill_qty (r : Reading) {before : Leg} (h : before.fill_qty = 0) :
    (r.held before).fill_qty = if r.in_place then r.order.fill_qty else 0 := by
  unfold Reading.held
  split
  · rfl
  · exact h

/-- In any environment: the verdict is that of a reading, or nothing is proven. -/
theorem wp_verify_leg_dead {W : Type*} {E : Env Call Answer W} {eng : Engine} {leg : Leg}
    {Q : Verdict × Leg → W → Prop} {w : W} (hunread : Q (.unproven, leg) w)
    (hread : ∀ answer w', E.serve w (.get_order leg.platform leg) answer w' →
      match answer with
      | .error _ => Q (.unproven, leg) w'
      | .ok r => Q (verdict_of r.order, r.held leg) w') :
    wp E (verify_leg_dead eng leg) Q w := by
  unfold verify_leg_dead
  cases eng.adapters leg.platform with
  | none => exact wp_pure.2 hunread
  | some adapter =>
    refine wp_ite.2 ⟨fun _ => ?_, fun _ => wp_pure.2 hunread⟩
    refine wp_bind.2 (wp_send.2 fun answer w' hs => ?_)
    have hanswer := hread answer w' hs
    cases answer with
    | error _ => exact wp_pure.2 hanswer
    | ok r => exact wp_pure.2 hanswer

/-- Reconciling a naked leg marks it at most. -/
theorem reconcile_naked_leg_marks {ok : Call → Prop} {eng : Engine} {arb_id : String}
    {filled_leg unwind_order : Leg} {unwind_target : ℕ} {pnl : ℚ}
    (hmark : ∀ note, ok (.mark_naked_leg_reconciled arb_id pnl note)) :
    (reconcile_naked_leg eng arb_id filled_leg unwind_order unwind_target pnl).Calls ok := by
  unfold reconcile_naked_leg
  rw [calls_ite]
  constructor
  · intro _
    exact .bind (calls_send.2 (hmark _)) fun _ => calls_pure _
  · intro _
    exact calls_pure _

/-- Everything but the blocked mark is the same: incidents, releases and writes leave
    the log of answers and hand-overs alone. -/
structure SameHandover (w w' : RecoveryLog) : Prop where
  cancelled : w'.cancelled = w.cancelled
  verified : w'.verified = w.verified
  handed : w'.handed = w.handed

theorem SameHandover.refl (w : RecoveryLog) : SameHandover w w := ⟨rfl, rfl, rfl⟩

theorem SameHandover.trans {w w' w'' : RecoveryLog} (h : SameHandover w w')
    (h' : SameHandover w' w'') : SameHandover w w'' :=
  ⟨h'.cancelled.trans h.cancelled, h'.verified.trans h.verified, h'.handed.trans h.handed⟩

private theorem record_incident_spec {i : Incident} {w : RecoveryLog} :
    wp recovery_log (record_incident i)
      (fun _ w' => SameHandover w w' ∧ (w.blocked = true → w'.blocked = true) ∧
        (i.event_type = "unwind_blocked_ambiguous_secondary" → w'.blocked = true)) w := by
  rw [wp_send]
  intro _ w' hs
  have hw : w' = { w with
      blocked := w.blocked || i.event_type == "unwind_blocked_ambiguous_secondary" } := hs
  subst hw
  refine ⟨⟨rfl, rfl, rfl⟩, fun h => ?_, fun h => ?_⟩
  · simp [h]
  · simp [h]

private theorem reconcile_naked_leg_spec {eng : Engine} {arb_id : String} {leg order : Leg}
    {qty : ℕ} {pnl : ℚ} {w : RecoveryLog} :
    wp recovery_log (reconcile_naked_leg eng arb_id leg order qty pnl)
      (fun _ w' => SameHandover w w') w := by
  unfold reconcile_naked_leg
  simp only [wp_ite, wp_bind, wp_send, wp_pure]
  refine ⟨fun _ _ w' hs => ?_, fun _ => .refl w⟩
  have hw : w' = w := hs
  subst hw
  exact SameHandover.refl w'

/-- The unwind hands over what it is given, where the venue can be sold at. -/
private theorem unwind_spec {eng : Engine} {arb_id : String} {opp : Opportunity}
    {filled_leg : Leg} {qty : ℕ} {w : RecoveryLog} :
    wp recovery_log (unwind eng arb_id opp filled_leg qty)
      (fun _ w' => w'.cancelled = w.cancelled ∧ w'.verified = w.verified ∧
        w'.handed = w.handed ++
          if can_sell eng filled_leg then [(filled_leg.side, qty)] else []) w := by
  unfold unwind
  rw [wp_ite]
  constructor
  · intro hsell
    rw [wp_bind, wp_send]
    intro answer w₁ hhanded
    have h₁ : w₁ = { w with handed := w.handed ++ [(filled_leg.side, qty)] } := hhanded
    -- after the sale the log of handed quantities does not move
    have hdone : ∀ w', SameHandover w₁ w' → w'.cancelled = w.cancelled ∧
        w'.verified = w.verified ∧ w'.handed = w.handed ++
          if can_sell eng filled_leg then [(filled_leg.side, qty)] else [] := by
      intro w' hsame
      rw [if_pos hsell, hsame.cancelled, hsame.verified, hsame.handed, h₁]
      exact ⟨rfl, rfl, rfl⟩
    cases answer with
    | error _ =>
      rw [wp_bind, wp_send]
      intro _ w₂ hrelease
      have h₂ : w₂ = w₁ := hrelease
      refine wp_bind.2 (wp_mono record_incident_spec fun _ w₃ h₃ => wp_pure.2 (hdone _ ?_))
      exact h₂ ▸ h₃.1
    | ok unwind_order =>
      simp only [wp_ite]
      refine ⟨fun _ => ?_, fun _ => wp_pure.2 (hdone _ (.refl w₁))⟩
      rw [wp_bind, wp_send]
      intro _ w₂ hrelease
      have h₂ : w₂ = w₁ := hrelease
      refine wp_bind.2 (wp_mono record_incident_spec fun _ w₃ h₃ => ?_)
      rw [wp_bind, wp_send]
      intro _ w₄ hresolve
      have h₄ : w₄ = w₃ := hresolve
      refine wp_bind.2 (wp_mono reconcile_naked_leg_spec fun _ w₅ h₅ => wp_pure.2 (hdone _ ?_))
      exact (h₂ ▸ h₃.1).trans (h₄ ▸ h₅)
  · intro hsell
    refine wp_pure.2 ⟨rfl, rfl, ?_⟩
    rw [if_neg hsell, List.append_nil]

/-- The verification: blocked, or what is left to sell. -/
private theorem verify_before_unwind_spec {eng : Engine} {arb_id : String} {opp : Opportunity}
    {unhedged_leg counterpart : Leg} {qty : ℕ} {w : RecoveryLog} (hfresh : w.verified = none)
    (hqty : 0 < qty) :
    wp recovery_log (verify_before_unwind eng arb_id opp unhedged_leg counterpart qty)
      (fun r w' => w'.cancelled = w.cancelled ∧ w'.handed = w.handed ∧
        ((w'.blocked = true ∧ r.1 = none) ∨ ∃ late, r.1 = (if late < qty then some (qty - late) else none) ∧
          ((w'.verified = none ∧ late = 0) ∨
            ∃ r, counterpart.fill_qty = 0 ∧ w'.verified = some (counterpart.side, r) ∧
              late = if r.in_place then r.order.fill_qty else 0))) w := by
  have hall : (if 0 < qty then some (qty - 0) else none) = some qty := by
    rw [if_pos hqty, Nat.sub_zero]
  unfold verify_before_unwind
  rw [wp_ite]
  constructor
  · intro hlive
    -- the verdict, with the reading it is based on
    have hverify : wp recovery_log (verify_leg_dead eng counterpart)
        (fun v w₁ => (v.1 = .unproven ∧ SameHandover w w₁) ∨
          ∃ r, v.1 = verdict_of r.order ∧ v.2 = r.held counterpart ∧
            w₁ = { w with verified := some (counterpart.side, r) }) w := by
      refine wp_verify_leg_dead (.inl ⟨rfl, .refl w⟩) fun answer w₁ hread => ?_
      cases answer with
      | error _ =>
        have h₁ : w₁ = w := hread
        exact .inl ⟨rfl, h₁ ▸ .refl w⟩
      | ok r => exact .inr ⟨r, rfl, rfl, hread⟩
    refine wp_bind.2 (wp_mono hverify fun v w₁ hv => ?_)
    obtain ⟨verdict, left⟩ := v
    cases verdict with
    | unproven =>
      have hsame : w₁.cancelled = w.cancelled ∧ w₁.handed = w.handed := by
        rcases hv with ⟨-, h⟩ | ⟨r, -, -, rfl⟩
        · exact ⟨h.cancelled, h.handed⟩
        · exact ⟨rfl, rfl⟩
      refine wp_bind.2 (wp_mono record_incident_spec fun _ w₂ h₂ => wp_pure.2 ?_)
      exact ⟨h₂.1.cancelled.trans hsame.1, h₂.1.handed.trans hsame.2, .inl ⟨h₂.2.2 rfl, rfl⟩⟩
    | late_fill =>
      obtain ⟨r, -, hleft, h₁⟩ := hv.resolve_left (by simp)
      have hlate : left.fill_qty = if r.in_place then r.order.fill_qty else 0 := by
        rw [show left = r.held counterpart from hleft]
        exact r.held_fill_qty hlive.1
      simp only [wp_ite]
      constructor
      · intro hpaired
        refine wp_bind.2 (wp_mono record_incident_spec fun _ w₂ h₂ => wp_pure.2 ?_)
        refine ⟨h₂.1.cancelled.trans (h₁ ▸ rfl), h₂.1.handed.trans (h₁ ▸ rfl), .inr ⟨_, ?_,
          .inr ⟨r, hlive.1, h₂.1.verified.trans (h₁ ▸ rfl), hlate⟩⟩⟩
        rw [if_neg (Nat.not_lt.2 hpaired)]
      · intro hpaired
        refine wp_pure.2 ⟨h₁ ▸ rfl, h₁ ▸ rfl, .inr ⟨_, ?_, .inr ⟨r, hlive.1, h₁ ▸ rfl, hlate⟩⟩⟩
        rw [if_pos (Nat.not_le.1 hpaired)]
    | dead =>
      obtain ⟨r, hdead, -, h₁⟩ := hv.resolve_left (by simp)
      have hzero : r.order.fill_qty = 0 := verdict_of_dead hdead.symm
      refine wp_pure.2 ⟨h₁ ▸ rfl, h₁ ▸ rfl, .inr ⟨0, hall.symm, .inr ⟨r, hlive.1, h₁ ▸ rfl, ?_⟩⟩⟩
      simp [hzero]
  · intro _
    exact wp_pure.2 ⟨rfl, rfl, .inr ⟨0, hall.symm, .inl ⟨hfresh, rfl⟩⟩⟩

/-- What closing the exposure of leg `s`, unhedged by `qty`, leaves in the log: it is
    blocked, or hands over `qty` less a late fill written into the counterpart. -/
def Closes (eng : Engine) (s : Side) (unhedged_leg counterpart : Leg) (qty : ℕ)
    (w' : RecoveryLog) : Prop :=
  w'.blocked = true ∨ ∃ late,
    w'.handed = (if late < qty ∧ can_sell eng unhedged_leg then [(s, qty - late)] else []) ∧
    ((w'.verified = none ∧ late = 0) ∨
      ∃ r, counterpart.fill_qty = 0 ∧ w'.verified = some (s.other, r) ∧
        late = if r.in_place then r.order.fill_qty else 0)

private theorem close_exposure_spec {eng : Engine} {arb_id : String} {opp : Opportunity}
    {s : Side} {unhedged_leg counterpart : Leg} {qty : ℕ} {w : RecoveryLog}
    (hs : unhedged_leg.side = s) (hc : counterpart.side = s.other) (hqty : 0 < qty)
    (hverified : w.verified = none) (hhanded : w.handed = []) :
    wp recovery_log (close_exposure eng arb_id opp unhedged_leg counterpart qty)
      (fun _ w' => w'.cancelled = w.cancelled ∧ Closes eng s unhedged_leg counterpart qty w') w := by
  unfold close_exposure
  refine wp_bind.2 (wp_mono (verify_before_unwind_spec hverified hqty) fun r w₁ hr => ?_)
  obtain ⟨hcancelled, hnone, hr⟩ := hr
  rw [hhanded] at hnone
  rw [hc] at hr
  obtain ⟨target, notes, left⟩ := r
  cases target with
  | none =>
    -- nothing is sold: it was blocked, or as much was filled late on the other side
    refine wp_pure.2 ⟨hcancelled, ?_⟩
    rcases hr with ⟨hblocked, -⟩ | ⟨late, htarget, hread⟩
    · exact .inl hblocked
    · refine .inr ⟨late, ?_, hread⟩
      have hlate : ¬ late < qty := by
        intro hlt
        have htarget' : none = if late < qty then some (qty - late) else none := htarget
        rw [if_pos hlt] at htarget'
        cases htarget'
      rw [hnone, if_neg fun h => hlate h.1]
  | some target =>
    refine wp_bind.2 (wp_mono unwind_spec fun _ w₂ h₂ => wp_pure.2 ?_)
    refine ⟨h₂.1.trans hcancelled, ?_⟩
    rcases hr with ⟨-, hsome⟩ | ⟨late, htarget, hread⟩
    · cases hsome
    · refine .inr ⟨late, ?_, h₂.2.1 ▸ hread⟩
      have htarget' : some target = if late < qty then some (qty - late) else none := htarget
      rw [h₂.2.2, hnone, hs, List.nil_append]
      split at htarget'
      case isTrue hlt =>
        cases htarget'
        simp [hlt]
      case isFalse _ => cases htarget'

/-! ### The whole recovery -/

/-- Raising the first incident leaves the hand-over alone. -/
private theorem announce_exposure_spec {eng : Engine} {arb_id : String} {opp : Opportunity}
    {leg_yes leg_no : Leg} {w : RecoveryLog} :
    wp recovery_log (announce_exposure eng arb_id opp leg_yes leg_no)
      (fun _ w' => SameHandover w w') w := by
  have hone : ∀ filled failed, wp recovery_log (announce_one_leg eng arb_id opp filled failed)
      (fun _ w' => SameHandover w w') w := by
    intro filled failed
    unfold announce_one_leg
    refine wp_bind.2 (wp_mono record_incident_spec fun _ w₁ h₁ => ?_)
    rw [wp_ite]
    refine ⟨fun _ => ?_, fun _ => wp_pure.2 h₁.1⟩
    rw [wp_bind, wp_send]
    intro _ w₂ hsafety
    have h₂ : w₂ = w₁ := hsafety
    subst h₂
    exact wp_pure.2 h₁.1
  unfold announce_exposure
  simp only [wp_ite]
  refine ⟨fun _ => hone _ _, fun _ => ⟨fun _ => hone _ _, fun _ => ?_⟩⟩
  exact wp_mono record_incident_spec fun _ _ h => h.1

/-- How a recovery that is not blocked ends: some leg `s` is not behind in the fills
    counted, unless the verification read the other leg, and the rest of it is handed
    over where it can be sold. -/
structure HandsOver (eng : Engine) (legs : LegPair) (s : Side) (w : RecoveryLog) : Prop where
  handed : w.handed =
    if counted eng legs w s.other < counted eng legs w s ∧ can_sell eng (legs.leg s) then
      [(s, counted eng legs w s - counted eng legs w s.other)]
    else []
  behind : counted eng legs w s < counted eng legs w s.other →
    w.verified.map Prod.fst = some s.other ∧ 0 < counted eng legs w s
  other : w.verified.map Prod.fst ≠ some s
  /-- A count is the fill reported, or nothing. -/
  count : ∀ t, counted eng legs w t = reported legs w t ∨ counted eng legs w t = 0

theorem after_cancel_fill_qty (eng : Engine) (cancelled : Bool) (leg : Leg) :
    (after_cancel eng cancelled leg).fill_qty = leg.fill_qty := by
  unfold after_cancel; split <;> rfl

theorem after_cancel_side (eng : Engine) (cancelled : Bool) (leg : Leg) :
    (after_cancel eng cancelled leg).side = leg.side := by
  unfold after_cancel; split <;> rfl

theorem can_sell_after_cancel (eng : Engine) (cancelled : Bool) (leg : Leg) :
    can_sell eng (after_cancel eng cancelled leg) = can_sell eng leg := by
  unfold after_cancel can_sell; split <;> rfl

/-- The fills of a leg that its status shows after the cancel loop. -/
def left_visible (eng : Engine) (legs : LegPair) (w : RecoveryLog) (s : Side) : ℕ :=
  visible_fills (after_cancel eng (w.cancelled s) (legs.leg s))

theorem Side.other_ne (s : Side) : s.other ≠ s := by cases s <;> decide

theorem counted_eq_reported_or_zero (eng : Engine) (legs : LegPair) (w : RecoveryLog)
    (s : Side) : counted eng legs w s = reported legs w s ∨ counted eng legs w s = 0 := by
  have hleft := visible_fills_eq (after_cancel eng (w.cancelled s) (legs.leg s))
  rw [after_cancel_fill_qty] at hleft
  unfold counted reported
  split
  case h_1 t r hv =>
    by_cases ht : t = s
    · rw [if_pos ht, if_pos ht]
      split
      · exact .inl rfl
      · exact .inr rfl
    · rw [if_neg ht, if_neg ht]
      exact hleft
  case h_2 => exact hleft

theorem counted_of_unverified {eng : Engine} {legs : LegPair} {w : RecoveryLog} {s : Side}
    (h : w.verified.map Prod.fst ≠ some s) : counted eng legs w s = left_visible eng legs w s := by
  unfold counted left_visible
  split
  case h_1 t r hv =>
    rw [hv] at h
    exact if_neg fun ht => h (by rw [ht]; rfl)
  case h_2 => rfl

/-- Closing the exposure of the leg with more visible fills. -/
private theorem Closes.handsOver {eng : Engine} {legs : LegPair} {s : Side} {w : RecoveryLog}
    (hlt : left_visible eng legs w s.other < left_visible eng legs w s)
    (h : Closes eng s (after_cancel eng (w.cancelled s) (legs.leg s))
      (after_cancel eng (w.cancelled s.other) (legs.leg s.other))
      (left_visible eng legs w s - left_visible eng legs w s.other) w)
    (hb : w.blocked = false) : HandsOver eng legs s w := by
  obtain ⟨late, hhanded, hread⟩ := h.resolve_left (by simp [hb])
  rw [can_sell_after_cancel] at hhanded
  rcases hread with ⟨hnone, rfl⟩ | ⟨r, hzero, hsome, hlate⟩
  · have hs : w.verified.map Prod.fst ≠ some s := by simp [hnone]
    have ho : w.verified.map Prod.fst ≠ some s.other := by simp [hnone]
    have hcs : counted eng legs w s = left_visible eng legs w s := counted_of_unverified hs
    have hco : counted eng legs w s.other = left_visible eng legs w s.other :=
      counted_of_unverified ho
    refine ⟨?_, ?_, hs, counted_eq_reported_or_zero eng legs w⟩
    · have hpos : 0 < left_visible eng legs w s - left_visible eng legs w s.other := by omega
      simp only [hhanded, hcs, hco, hlt, hpos, true_and, Nat.sub_zero]
    · rw [hcs, hco]
      omega
  · have hs : w.verified.map Prod.fst ≠ some s := by
      rw [hsome]
      intro heq
      exact Side.other_ne s (Option.some.inj heq)
    have hcs : counted eng legs w s = left_visible eng legs w s := counted_of_unverified hs
    have hco : counted eng legs w s.other = late := by
      unfold counted
      rw [hsome, hlate]
      simp
    -- the counterpart had no fill, so nothing of the larger leg was hedged
    have hother : left_visible eng legs w s.other = 0 := by
      have hv := visible_fills_eq (after_cancel eng (w.cancelled s.other) (legs.leg s.other))
      rw [hzero] at hv
      exact hv.elim id id
    rw [hother, Nat.sub_zero, ← hcs, ← hco] at hhanded
    refine ⟨hhanded, fun _ => ⟨by rw [hsome]; rfl, ?_⟩, hs, counted_eq_reported_or_zero eng legs w⟩
    rw [hcs]
    omega

/-- In terms of what was handed over: it is the difference of the fills reported
    exactly when every fill was counted where it matters. -/
theorem HandsOver.iff {eng : Engine} {legs : LegPair} {s : Side} {w : RecoveryLog}
    (h : HandsOver eng legs s w) :
    w.handed = difference (reported legs w) ↔ FillsCounted eng legs w := by
  have hcs := h.count s
  have hco := h.count s.other
  -- two sides: what holds of `s` and of the other one holds of both
  have hside : ∀ t, t = s ∨ t = s.other := by
    intro t
    cases t <;> cases s <;> simp [Side.other]
  have htwice : s.other.other = s := by cases s <;> rfl
  constructor
  · intro heq
    rw [h.handed] at heq
    constructor
    · intro t hlt
      rw [difference_of_lt hlt] at heq
      split at heq
      case isFalse _ => cases heq
      case isTrue hcond =>
        simp only [List.cons.injEq, Prod.mk.injEq, and_true] at heq
        obtain ⟨rfl, hqty⟩ := heq
        refine ⟨fun t => ?_, hcond.2, h.other⟩
        rcases hside t with rfl | rfl <;> omega
    · intro t heq' hlt
      rw [difference_of_eq heq'] at heq
      rcases hside t with rfl | rfl
      · by_contra hsell
        rw [if_pos ⟨hlt, by simpa using hsell⟩] at heq
        cases heq
      · -- the late fill would be ahead of a fill counted in full
        rw [htwice] at hlt heq'
        have hpos := (h.behind hlt).2
        omega
  · intro hcounted
    rcases Nat.lt_trichotomy (reported legs w s.other) (reported legs w s) with hlt | heq | hgt
    · -- the larger leg is `s`: every fill is counted, so the difference is handed over
      obtain ⟨hcount, hsell, -⟩ := hcounted.larger s hlt
      rw [difference_of_lt hlt, h.handed, hcount, hcount, if_pos ⟨hlt, hsell⟩]
    · rw [difference_of_eq heq.symm, h.handed, if_neg]
      intro hcond
      -- equal fills: a leg that counts more cannot be sold at its venue
      have hsell := hcounted.equal s heq.symm hcond.1
      simp [hsell] at hcond
    · -- the other leg is larger although `s` was closed: a late fill would have to be lost
      have hlarger := hcounted.larger s.other (htwice.symm ▸ hgt)
      have hbehind := h.behind (by rw [hlarger.1, hlarger.1]; exact hgt)
      exact absurd hbehind.1 hlarger.2.2

/-- Nothing is unhedged: nothing is handed over. -/
private theorem handsOver_of_hedged {eng : Engine} {legs : LegPair} {w : RecoveryLog}
    (heq : left_visible eng legs w .yes = left_visible eng legs w .no)
    (hverified : w.verified = none) (hhanded : w.handed = []) : HandsOver eng legs .yes w := by
  have hy : counted eng legs w .yes = left_visible eng legs w .yes :=
    counted_of_unverified (by simp [hverified])
  have hn : counted eng legs w .no = left_visible eng legs w .no :=
    counted_of_unverified (by simp [hverified])
  have hcount : counted eng legs w .yes = counted eng legs w Side.yes.other :=
    hy.trans (heq.trans hn.symm)
  refine ⟨?_, ?_, by simp [hverified], counted_eq_reported_or_zero eng legs w⟩
  · rw [hhanded, if_neg]
    rw [hcount]
    exact fun hcond => Nat.lt_irrefl _ hcond.1
  · rw [hcount]
    exact fun hlt => absurd hlt (Nat.lt_irrefl _)

/-- The recovery after the cancel loop. -/
private theorem close_unhedged_spec {eng : Engine} {arb_id : String} {opp : Opportunity}
    {legs : LegPair} {notes : List String} {w : RecoveryLog} (hverified : w.verified = none)
    (hhanded : w.handed = []) :
    wp recovery_log (close_unhedged eng arb_id opp notes
        (after_cancel eng (w.cancelled .yes) legs.yes) (after_cancel eng (w.cancelled .no) legs.no))
      (fun _ w' => w'.blocked = false → ∃ s, HandsOver eng legs s w') w := by
  let left : Side → Leg := fun s => after_cancel eng (w.cancelled s) (legs.leg s)
  have hside : ∀ s, (left s).side = s := fun s => (after_cancel_side ..).trans (legs.leg_side s)
  refine wp_close_unhedged left ?_ ?_
  · intro hnone _ _ _
    exact ⟨.yes, handsOver_of_hedged (unhedged_eq_none left hnone) hverified hhanded⟩
  · intro s qty hsome
    obtain ⟨hlt, rfl⟩ := unhedged_eq_some left hsome
    refine wp_mono (close_exposure_spec (hside s) (hside s.other) (Nat.sub_pos_of_lt hlt) hverified
      hhanded) fun r w' hclosed _ _ hb => ⟨s, ?_⟩
    obtain ⟨hc, hcloses⟩ := hclosed
    -- the cancels on record are still the ones the legs were left with
    simp only [left, ← hc] at hlt hcloses
    exact hcloses.handsOver hlt hb

/-- Every recovery is blocked, or hands over what it counts as unhedged. -/
private theorem recover_one_leg_risk_spec {eng : Engine} {arb_id : String} {opp : Opportunity}
    {legs : LegPair} :
    wp recovery_log (recover_one_leg_risk eng arb_id opp legs.yes legs.no)
      (fun _ w => w.blocked = false → ∃ s, HandsOver eng legs s w) .start := by
  unfold recover_one_leg_risk
  refine wp_bind.2 (wp_mono announce_exposure_spec fun _ w₁ h₁ => ?_)
  have hyes : w₁.cancelled legs.yes.side = false := by rw [h₁.cancelled]; rfl
  refine wp_bind.2 (wp_mono (cancel_open_leg_spec hyes) fun ry w₂ h₂ => ?_)
  obtain ⟨yes_ok, rfl, hleft_yes⟩ := h₂
  have hno : (w₁.note_cancel legs.yes.side yes_ok).cancelled legs.no.side = false := by
    rw [legs.yes_side, legs.no_side]
    show Function.update w₁.cancelled .yes yes_ok .no = false
    rw [Function.update_of_ne (by decide), h₁.cancelled]
    rfl
  refine wp_bind.2 (wp_mono (cancel_open_leg_spec hno) fun rn w₃ h₃ => ?_)
  obtain ⟨no_ok, rfl, hleft_no⟩ := h₃
  generalize hw₃ : (w₁.note_cancel legs.yes.side yes_ok).note_cancel legs.no.side no_ok = w₃
  -- the second cancel does not touch the first one's entry
  have hyes_ok : w₃.cancelled .yes = yes_ok := by
    rw [← hw₃, legs.no_side]
    show Function.update (w₁.note_cancel legs.yes.side yes_ok).cancelled .no no_ok .yes = yes_ok
    rw [Function.update_of_ne (by decide), legs.yes_side]
    exact note_cancel_self _ _ _
  have hno_ok : w₃.cancelled .no = no_ok := by
    rw [← hw₃, legs.no_side]
    exact note_cancel_self _ _ _
  have hverified : w₃.verified = none := by rw [← hw₃]; exact h₁.verified
  have hhanded : w₃.handed = [] := by rw [← hw₃]; exact h₁.handed
  have hspec : wp recovery_log (close_unhedged eng arb_id opp (ry.1 ++ rn.1)
      (after_cancel eng (w₃.cancelled .yes) legs.yes) (after_cancel eng (w₃.cancelled .no) legs.no))
      (fun _ w => w.blocked = false → ∃ s, HandsOver eng legs s w) w₃ :=
    close_unhedged_spec hverified hhanded
  rw [hyes_ok, hno_ok, ← hleft_yes, ← hleft_no] at hspec
  exact hspec

/-- Ten YES contracts filled on Kalshi, six of ten NO contracts. -/
def ten_against_six : LegPair where
  yes := ten_filled
  no :=
    { Order.synthetic "9f2" "kalshi" "KX-1" "mkt-1" .no (2 / 5) 10 .partialFill "" with
      fill_qty := 6, fill_price := 2 / 5 }
  yes_side := ten_filled_side
  no_side := rfl

/-- The opportunity of these legs. -/
def ten_contracts : Opportunity where
  canonical_id := "mkt-1"
  yes_platform := "kalshi"
  yes_market_id := "KX-1"
  yes_price := 2 / 5
  yes_fee_rate := 0
  no_platform := "kalshi"
  no_market_id := "KX-1"
  no_price := 2 / 5
  no_fee_rate := 0
  suggested_qty := 10
  net_edge := 1 / 5
  net_edge_cents := 20
  confidence := 1
  quote_age_seconds := 0
  status := .tradable
  requires_manual := false

/-- The log after the PARTIAL leg was cancelled, with what was handed over since. -/
def after_partial_cancel (handed : List (Side × ℕ)) : RecoveryLog where
  cancelled := Function.update (fun _ => false) .no true
  verified := none
  handed := handed
  blocked := false

/-- Kalshi, with or without a store. -/
def kalshi_with_store (has_store : Bool) : Engine := { kalshi_engine true with has_store := has_store }

/-- An incident that does not block the recovery. -/
private theorem serves_incident (i : Incident) (w : RecoveryLog)
    (hi : (i.event_type == "unwind_blocked_ambiguous_secondary") = false) :
    recovery_log.serve w (.record_incident i) () w := by
  show w = { w with blocked := w.blocked || i.event_type == "unwind_blocked_ambiguous_secondary" }
  rw [hi, Bool.or_false]

/-- Selling `qty` contracts of the YES leg, with an unwind that raises. -/
private theorem unwind_raises (has_store : Bool) (qty : ℕ) :
    Exec recovery_log (unwind (kalshi_with_store has_store) "ARB-000001" ten_contracts ten_filled qty)
      (after_partial_cancel []) (["unwind-yes:exception"], 0)
      (after_partial_cancel [(.yes, qty)]) := by
  have hsell : can_sell (kalshi_with_store has_store) ten_filled = true := rfl
  have hcall : recovery_log.serve (after_partial_cancel [])
      (.smart_unwind "ARB-000001" ten_filled qty) (.error "timeout")
      (after_partial_cancel [(.yes, qty)]) := rfl
  have hrelease : recovery_log.serve (after_partial_cancel [(.yes, qty)])
      (.release_trade "mkt-1" (qty * (2 / 5)) (.single "kalshi")) ()
      (after_partial_cancel [(.yes, qty)]) := rfl
  unfold unwind
  rw [if_pos hsell]
  exact .call hcall (.call hrelease (.call (serves_incident _ _ rfl) (.ret _ _)))

/-- The first incident of `ten_against_six`. -/
private theorem announce_run (has_store : Bool) :
    Exec recovery_log (announce_exposure (kalshi_with_store has_store) "ARB-000001" ten_contracts
      ten_against_six.yes ten_against_six.no) .start () .start :=
  .call (serves_incident _ _ rfl) (.ret _ _)

/-- The cancel of the PARTIAL leg goes through; it is marked when there is a store. -/
private theorem cancel_partial_run (has_store : Bool) :
    Exec recovery_log (cancel_open_leg (kalshi_with_store has_store) "ARB-000001" ten_contracts
      ten_against_six.no) .start
      (["cancel-no:ok"], after_cancel (kalshi_with_store has_store) true ten_against_six.no)
      (after_partial_cancel []) := by
  have hcancel : recovery_log.serve .start (.cancel_order "kalshi" ten_against_six.no) (.ok true)
      (after_partial_cancel []) := rfl
  have hrelease : recovery_log.serve (after_partial_cancel [])
      (.release_trade "mkt-1" ((4 : ℕ) * (2 / 5)) (.single "kalshi")) ()
      (after_partial_cancel []) := rfl
  cases has_store with
  | false => exact .call hcancel (.call hrelease (.ret _ _))
  | true =>
    have hsaved : recovery_log.serve (after_partial_cancel [])
        (.upsert_order { ten_against_six.no with status := .cancelled } "ARB-000001" none) (.ok ())
        (after_partial_cancel []) := rfl
    exact .call hcancel (.call hsaved (.call hrelease (.ret _ _)))

/-- After the cancel four contracts are unhedged without a store, and ten with one. -/
private theorem close_run (has_store : Bool) (notes : List String) :
    ∃ r, Exec recovery_log (close_unhedged (kalshi_with_store has_store) "ARB-000001"
        ten_contracts notes ten_against_six.yes
        (after_cancel (kalshi_with_store has_store) true ten_against_six.no))
      (after_partial_cancel []) r
      (after_partial_cancel [(.yes, if has_store then 10 else 4)]) := by
  cases has_store with
  | false => exact ⟨_, exec_bind.2 ⟨_, _, exec_bind.2 ⟨_, _, .ret _ _, exec_bind.2
      ⟨_, _, unwind_raises false 4, .ret _ _⟩⟩, .ret _ _⟩⟩
  | true => exact ⟨_, exec_bind.2 ⟨_, _, exec_bind.2 ⟨_, _, .ret _ _, exec_bind.2
      ⟨_, _, unwind_raises true 10, .ret _ _⟩⟩, .ret _ _⟩⟩

/-- The recovery of `ten_against_six` hands over four contracts without a store, and
    all ten with one. -/
private theorem ten_against_six_run (has_store : Bool) :
    ∃ r, Exec recovery_log (recover_one_leg_risk (kalshi_with_store has_store) "ARB-000001"
      ten_contracts ten_against_six.yes ten_against_six.no)
      .start r (after_partial_cancel [(.yes, if has_store then 10 else 4)]) := by
  obtain ⟨r, hclose⟩ := close_run has_store ["cancel-no:ok"]
  exact ⟨r, exec_bind.2 ⟨_, _, announce_run has_store, exec_bind.2 ⟨_, _, .ret _ _,
    exec_bind.2 ⟨_, _, cancel_partial_run has_store, hclose⟩⟩⟩⟩

/-- The calls before the unwind: incidents, cancels, readings. -/
def Prepares : Call → Prop
  | .record_incident _ => True
  | .handle_one_leg_exposure .. => True
  | .cancel_order .. => True
  | .upsert_order .. => True
  | .handle_db_failure .. => True
  | .release_trade .. => True
  | .get_order .. => True
  | _ => False

/-- The calls of the whole recovery. -/
def Recovers : Call → Prop
  | .smart_unwind .. => True
  | .auto_resolve_recovery_incidents .. => True
  | .mark_naked_leg_reconciled .. => True
  | c => Prepares c

theorem Prepares.recovers {c : Call} (h : Prepares c) : Recovers c := by
  cases c <;> first | exact h | trivial

/-- The event types of what a recovery reports as critical. -/
def exposure_event_types : List String :=
  ["one_leg_exposure", "", "unwind_blocked_ambiguous_secondary", "auto_unwind_exception"]

/-- A critical incident of a recovery is about an exposure. -/
def ReportsExposure : Call → Prop
  | .record_incident i => i.severity = .critical → i.event_type ∈ exposure_event_types
  | _ => True

section calls

variable {eng : Engine} {arb_id : String} {opp : Opportunity}

theorem announce_one_leg_calls {ok : Call → Prop} {filled_leg failed_leg : Leg}
    (hincident : ∀ i : Incident, i.event_type = "one_leg_exposure" → ok (.record_incident i))
    (hhandle : ∀ i filled failed, ok (.handle_one_leg_exposure i filled failed)) :
    (announce_one_leg eng arb_id opp filled_leg failed_leg).Calls ok := by
  unfold announce_one_leg
  apply Prog.Calls.bind (calls_send.2 (hincident _ rfl))
  intro _
  rw [calls_ite]
  constructor
  · intro _
    exact .bind (calls_send.2 (hhandle _ _ _)) fun _ => calls_pure _
  · intro _
    exact calls_pure _

/-- A recovery starts with an incident of one of two kinds. -/
theorem announce_exposure_calls {ok : Call → Prop} {leg_yes leg_no : Leg}
    (hincident : ∀ i : Incident, i.event_type = "one_leg_exposure" ∨ i.event_type = "" →
      ok (.record_incident i))
    (hhandle : ∀ i filled failed, ok (.handle_one_leg_exposure i filled failed)) :
    (announce_exposure eng arb_id opp leg_yes leg_no).Calls ok := by
  have hone : ∀ filled failed, (announce_one_leg eng arb_id opp filled failed).Calls ok :=
    fun _ _ => announce_one_leg_calls (fun i h => hincident i (.inl h)) hhandle
  unfold announce_exposure
  simp only [calls_ite]
  exact ⟨fun _ => hone _ _, fun _ => ⟨fun _ => hone _ _,
    fun _ => calls_send.2 (hincident _ (.inr rfl))⟩⟩

theorem announce_exposure_prepares {leg_yes leg_no : Leg} :
    (announce_exposure eng arb_id opp leg_yes leg_no).Calls Prepares :=
  announce_exposure_calls (fun _ _ => trivial) fun _ _ _ => trivial

/-- Giving back what a cancelled leg left unfilled is a release, or nothing. -/
theorem release_unfilled_calls {ok : Call → Prop} {leg : Leg} {cancelled : Bool}
    (hrelease : ∀ c exposure alloc, ok (.release_trade c exposure alloc)) :
    (release_unfilled opp leg cancelled).Calls ok := by
  unfold release_unfilled
  rw [calls_ite]
  exact ⟨fun _ => calls_send.2 (hrelease _ _ _), fun _ => calls_ret _⟩

theorem cancel_open_leg_calls {ok : Call → Prop} {leg : Leg}
    (hok : ∀ c, Prepares c → ReportsExposure c → ok c) :
    (cancel_open_leg eng arb_id opp leg).Calls ok := by
  have hdispatch : (dispatch_cancel eng arb_id leg).Calls ok := by
    unfold dispatch_cancel
    cases eng.adapters leg.platform with
    | none => exact calls_pure _
    | some adapter =>
      refine .bind (calls_send.2 (hok _ trivial trivial)) fun answer => ?_
      simp only [calls_ite]
      constructor
      · intro _
        refine .bind (calls_send.2 (hok _ trivial trivial)) fun written => ?_
        cases written with
        | ok _ => exact calls_pure _
        | error err =>
          exact .bind (calls_send.2 (hok _ trivial trivial)) fun _ => calls_pure _
      · intro _
        exact calls_pure _
  unfold cancel_open_leg
  rw [calls_ite]
  constructor
  · intro _
    exact hdispatch.bind fun _ =>
      (release_unfilled_calls fun _ _ _ => hok _ trivial trivial).bind fun _ => calls_pure _
  · intro _
    exact calls_pure _

theorem cancel_open_leg_prepares {leg : Leg} :
    (cancel_open_leg eng arb_id opp leg).Calls Prepares :=
  cancel_open_leg_calls fun _ h _ => h

theorem verify_before_unwind_calls {ok : Call → Prop} {unhedged_leg counterpart : Leg} {qty : ℕ}
    (hok : ∀ c, Prepares c → ReportsExposure c → ok c) :
    (verify_before_unwind eng arb_id opp unhedged_leg counterpart qty).Calls ok := by
  have hverify : (verify_leg_dead eng counterpart).Calls ok := by
    unfold verify_leg_dead
    cases eng.adapters counterpart.platform with
    | none => exact calls_pure _
    | some adapter =>
      simp only [calls_ite]
      refine ⟨fun _ => .bind (calls_send.2 (hok _ trivial trivial)) fun answer => ?_,
        fun _ => calls_pure _⟩
      cases answer with
      | error _ => exact calls_pure _
      | ok refreshed => exact calls_pure _
  unfold verify_before_unwind
  rw [calls_ite]
  refine ⟨fun _ => hverify.bind fun r => ?_, fun _ => calls_pure _⟩
  obtain ⟨verdict, left⟩ := r
  cases verdict with
  | unproven =>
    refine .bind (calls_send.2 (hok _ trivial fun _ => ?_)) fun _ => calls_pure _
    simp [exposure_event_types]
  | dead => exact calls_pure _
  | late_fill =>
    simp only [calls_ite]
    refine ⟨fun _ => .bind (calls_send.2 (hok _ trivial ?_)) fun _ => calls_pure _,
      fun _ => calls_pure _⟩
    exact fun hcritical => by cases hcritical

theorem verify_before_unwind_prepares {unhedged_leg counterpart : Leg} {qty : ℕ} :
    (verify_before_unwind eng arb_id opp unhedged_leg counterpart qty).Calls Prepares :=
  verify_before_unwind_calls fun _ h _ => h

theorem unwind_calls {ok : Call → Prop} {filled_leg : Leg} {target : ℕ}
    (hok : ∀ c, Recovers c → ReportsExposure c → ok c) :
    (unwind eng arb_id opp filled_leg target).Calls ok := by
  unfold unwind
  rw [calls_ite]
  refine ⟨fun _ => .bind (calls_send.2 (hok _ trivial trivial)) fun answer => ?_,
    fun _ => calls_pure _⟩
  cases answer with
  | error _ =>
    refine .bind (calls_send.2 (hok _ trivial trivial)) fun _ => ?_
    refine .bind (calls_send.2 (hok _ trivial fun _ => ?_)) fun _ => calls_pure _
    simp [exposure_event_types]
  | ok order =>
    simp only [calls_ite]
    constructor
    · intro _
      refine .bind (calls_send.2 (hok _ trivial trivial)) fun _ => ?_
      refine .bind (calls_send.2 (hok _ trivial fun hcritical => by cases hcritical)) fun _ => ?_
      refine .bind (calls_send.2 (hok _ trivial trivial)) fun _ => ?_
      exact (reconcile_naked_leg_marks fun _ => hok _ trivial trivial).bind fun _ => calls_pure _
    · intro _
      exact calls_pure _

theorem close_exposure_calls {ok : Call → Prop} {unhedged_leg counterpart : Leg} {qty : ℕ}
    (hok : ∀ c, Recovers c → ReportsExposure c → ok c) :
    (close_exposure eng arb_id opp unhedged_leg counterpart qty).Calls ok := by
  apply Prog.Calls.bind (verify_before_unwind_calls fun c hc => hok c hc.recovers)
  rintro ⟨target, notes, left⟩
  cases target with
  | none => exact calls_pure _
  | some t => exact (unwind_calls hok).bind fun _ => calls_pure _

/-- Every call of a recovery, and what it reports. -/
theorem recover_one_leg_risk_calls {ok : Call → Prop} {leg_yes leg_no : Leg}
    (hok : ∀ c, Recovers c → ReportsExposure c → ok c) :
    (recover_one_leg_risk eng arb_id opp leg_yes leg_no).Calls ok := by
  have hannounce : (announce_exposure eng arb_id opp leg_yes leg_no).Calls ok := by
    refine announce_exposure_calls (fun i hi => hok _ trivial fun _ => ?_)
      fun _ _ _ => hok _ trivial trivial
    obtain heq | heq := hi <;> simp [heq, exposure_event_types]
  apply Prog.Calls.bind hannounce
  intro _
  apply Prog.Calls.bind (cancel_open_leg_calls fun c hc => hok c hc.recovers)
  rintro ⟨yes_notes, left_yes⟩
  apply Prog.Calls.bind (cancel_open_leg_calls fun c hc => hok c hc.recovers)
  rintro ⟨no_notes, left_no⟩
  show (close_unhedged eng arb_id opp (yes_notes ++ no_notes) left_yes left_no).Calls ok
  unfold close_unhedged
  cases unhedged left_yes left_no with
  | none => exact calls_pure _
  | some exposed =>
    obtain ⟨side, qty⟩ := exposed
    cases side with
    | yes => exact (close_exposure_calls hok).bind fun _ => calls_pure _
    | no => exact (close_exposure_calls hok).bind fun _ => calls_pure _

theorem recover_one_leg_risk_recovers {leg_yes leg_no : Leg} :
    (recover_one_leg_risk eng arb_id opp leg_yes leg_no).Calls Recovers :=
  recover_one_leg_risk_calls fun _ h _ => h

/-- The critical incidents of a recovery. -/
theorem recovery_reports_exposure {leg_yes leg_no : Leg} :
    (recover_one_leg_risk eng arb_id opp leg_yes leg_no).Calls ReportsExposure :=
  recover_one_leg_risk_calls fun _ _ h => h

end calls

end Execution
