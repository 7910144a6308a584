import Arbiter.Execution.Live

/-! # Exposure Booked and Released

  A recovering execution books the notional of its survivors, at the quantity and
  the quotes of the opportunity. The recovery releases in up to three pieces, at the
  quantities and prices of the orders: the cancelled remainder of each leg, and
  what was sold back. When everything is closed the pieces should add up.

  ## Contents

  - Section 1: the book and the evidence during an execution.
  - Section 2: what releases do to the book.
  - Section 3: the recovery releases each closed leg.
  - Section 4: exactness, and a run that leaves a residue.
-/

namespace Execution

open Effect

/-! ## Section 1: The book during an execution -/

/-- The risk book, and what became of the legs handed to the recovery. -/
structure RiskLog where
  risk : RiskManager
  /-- The legs the recovery was entered with, YES first. -/
  legs : Option (Leg × Leg)
  /-- The cancel of the leg was answered True. -/
  cancelled : Side → Bool
  /-- Contracts of the leg known to be filled. -/
  filled : Side → ℕ
  /-- Contracts of the leg sold back. -/
  sold : Side → ℕ

/-- Before the execution. -/
def RiskLog.start (rm : RiskManager) : RiskLog where
  risk := rm
  legs := none
  cancelled := fun _ => false
  filled := fun _ => 0
  sold := fun _ => 0

/-- Every call may be answered in any way. An unwind order reports what was sold; an
    unwind that raises may have sold any number. -/
def risk_venue : Env Call Answer RiskLog where
  serve := fun w c a w' =>
    match c, a with
    | .record_trade canonical_id exposure pnl alloc, _ =>
        w' = { w with risk := w.risk.record_trade canonical_id exposure pnl alloc }
    | .release_trade canonical_id exposure alloc, _ =>
        w' = { w with risk := w.risk.release_trade canonical_id exposure 0 alloc }
    | .maybe_halt_on_daily_loss pnl, _ =>
        w' = { w with risk := { w.risk with daily_pnl := w.risk.daily_pnl + pnl } }
    | .cancel_order _ leg, a =>
        w' = { w with cancelled := Function.update w.cancelled leg.side (cancelled_ok a) }
    | .get_order _ leg, .ok r =>
        w' = { w with filled := Function.update w.filled leg.side r.order.fill_qty }
    | .smart_unwind _ leg _, a =>
        ∃ n, (∀ order, a = .ok order → n = order.fill_qty) ∧
        w' = { w with sold := Function.update w.sold leg.side (w.sold leg.side + n) }
    | _, _ => w' = w

/-- `_live_execution` over that book. A leg result may be anything, on the side it was
    asked for; the recovery is a run of its program. -/
def live_risk (eng : Engine) : Env Proc Outcomes RiskLog where
  serve := fun w p r w' =>
    match p, r with
    | .outside c, a => risk_venue.serve w c a w'
    | .place_order_for_leg _ req _ _, r => (∀ leg, r = .ok leg → leg.side = req.side) ∧ w' = w
    | .execute_with_fallbacks leg _, r =>
        (∀ o, r = .ok (some o) → o.side = leg.side) ∧ w' = w
    | .recover_one_leg_risk arb_id opp leg_yes leg_no, r =>
        Exec risk_venue (recover_one_leg_risk eng arb_id opp leg_yes leg_no)
          { w with
            legs := some (leg_yes, leg_no)
            filled := fun s => match s with
              | .yes => leg_yes.fill_qty
              | .no => leg_no.fill_qty } r w'

/-! ## Section 2: Releases -/

/-- `e` taken off platform `q`, as an amount for every platform: `""` is never released. -/
def released_on (q : String) (e : ℚ≥0) (p : String) : ℚ≥0 := if p = q ∧ p ≠ "" then e else 0

@[simp] theorem released_on_zero (q p : String) : released_on q 0 p = 0 := by
  simp [released_on]

theorem released_on_add (q : String) (e e' : ℚ≥0) (p : String) :
    released_on q (e + e') p = released_on q e p + released_on q e' p := by
  unfold released_on
  split
  · rfl
  · exact (add_zero 0).symm

/-- From `rm` to `rm'` a market gave back `e`, and the platforms `on`. -/
structure Releases (canonical_id : String) (e : ℚ≥0) (on : String → ℚ≥0) (rm rm' : RiskManager) :
    Prop where
  position : rm'.open_positions.amount canonical_id = rm.open_positions.amount canonical_id - e
  platform : ∀ p, rm'.platform_exposures.amount p = rm.platform_exposures.amount p - on p

namespace Releases

variable {c : String} {e e' : ℚ≥0} {on on' : String → ℚ≥0} {rm rm' rm'' : RiskManager}

theorem none (rm : RiskManager) : Releases c 0 (fun _ => 0) rm rm :=
  ⟨(tsub_zero _).symm, fun _ => (tsub_zero _).symm⟩

/-- A release of nothing on some platform. -/
theorem zero_on (q : String) (rm : RiskManager) : Releases c 0 (released_on q 0) rm rm :=
  ⟨(tsub_zero _).symm, fun p => by rw [released_on_zero, tsub_zero]⟩

theorem trans (h : Releases c e on rm rm') (h' : Releases c e' on' rm' rm'') :
    Releases c (e + e') (fun p => on p + on' p) rm rm'' := by
  constructor
  · rw [h'.position, h.position, tsub_tsub]
  · intro p
    rw [h'.platform, h.platform, tsub_tsub]

/-- `release_trade` on one platform. -/
theorem of_release_trade (rm : RiskManager) (q : String) (e : ℚ≥0) (pnl : ℚ) :
    Releases c e (released_on q e) rm (rm.release_trade c e pnl (.single q)) := by
  constructor
  · rw [RiskManager.release_trade_position, if_pos rfl]
  · intro p
    rw [RiskManager.release_trade_platform]
    unfold released_on RiskManager.Allocation.share
    by_cases hp : p = "" <;> simp [hp]

end Releases

/-- What a cancelled leg gives back, if it was cancelled: its remainder at its limit. -/
def remainder_freed (leg : Leg) (cancelled : Bool) : ℚ≥0 :=
  if cancelled ∧ (leg.status = .submitted ∨ leg.status = .partialFill) then
    (leg.quantity - leg.fill_qty : ℕ) * leg.price
  else 0

/-- What a closed leg gives back: its remainder at its limit, its fill at its price. -/
def freed (leg : Leg) : ℚ≥0 := remainder_freed leg true + leg.fill_qty * leg.fill_price

/-- A part of the order was open when the recovery began. -/
def HasRemainder (leg : Leg) : Prop := leg.status.mayStillFill ∧ leg.fill_qty < leg.quantity

/-- Only an open remainder is given back, so it only matters whether that is cancelled. -/
theorem remainder_freed_of_cancelled {leg : Leg} {cancelled : Bool}
    (h : HasRemainder leg → cancelled = true) :
    remainder_freed leg cancelled = remainder_freed leg true := by
  unfold remainder_freed
  by_cases hopen : leg.status = .submitted ∨ leg.status = .partialFill
  · by_cases hlt : leg.fill_qty < leg.quantity
    · have hmay : leg.status.mayStillFill := by
        unfold OrderStatus.mayStillFill
        tauto
      rw [h ⟨hmay, hlt⟩]
    · have hnone : leg.quantity - leg.fill_qty = 0 := by omega
      simp [hnone]
  · simp [hopen]

/-- Everything is closed: what was filled is sold back, what was open is cancelled. -/
structure Unwound (leg_yes leg_no : Leg) (w : RiskLog) : Prop where
  sold : ∀ s, w.sold s = w.filled s
  cancelled_yes : HasRemainder leg_yes → w.cancelled .yes = true
  cancelled_no : HasRemainder leg_no → w.cancelled .no = true

/-! ## Section 3: The recovery -/

/-- Calls that touch neither the book nor the evidence. -/
def LeavesBook : Call → Prop
  | .record_trade .. => False
  | .release_trade .. => False
  | .maybe_halt_on_daily_loss _ => False
  | .cancel_order .. => False
  | .get_order .. => False
  | .smart_unwind .. => False
  | _ => True

theorem LeavesBook.keeps {w w' : RiskLog} {c : Call} {a : Answer c} (hc : LeavesBook c)
    (hs : risk_venue.serve w c a w') : w' = w := by
  cases c with
  | record_trade => exact hc.elim
  | release_trade => exact hc.elim
  | maybe_halt_on_daily_loss => exact hc.elim
  | cancel_order => exact hc.elim
  | get_order => exact hc.elim
  | smart_unwind => exact hc.elim
  | _ => exact hs

section recovery

variable {eng : Engine} {arb_id : String} {opp : Opportunity} {α β : Type} {w : RiskLog}

/-- A program of such calls goes first: the book is as it was. -/
theorem wp_leaving_book {p : Exe α} {f : α → Exe β} {Q : β → RiskLog → Prop}
    (hp : p.Calls LeavesBook) (hf : ∀ a, wp risk_venue (f a) Q w) :
    wp risk_venue (p >>= f) Q w :=
  hp.wp_bind (fun _ _ _ _ hc hs => hc.keeps hs) hf

private theorem announce_exposure_leaves {leg_yes leg_no : Leg} :
    (announce_exposure eng arb_id opp leg_yes leg_no).Calls LeavesBook :=
  announce_exposure_calls (fun _ _ => trivial) fun _ _ _ => trivial

/-! ### Cancelling a leg -/

/-- The order after a cancel is the order before, but for its status. -/
structure SameFills (leg left : Leg) : Prop where
  side : left.side = leg.side
  platform : left.platform = leg.platform
  fill_qty : left.fill_qty = leg.fill_qty
  fill_price : left.fill_price = leg.fill_price

theorem SameFills.refl (leg : Leg) : SameFills leg leg := ⟨rfl, rfl, rfl, rfl⟩

/-- The cancel is on record, and nothing else changed. -/
private theorem dispatch_cancel_released {leg : Leg} (hw : w.cancelled leg.side = false) :
    wp risk_venue (dispatch_cancel eng arb_id leg)
      (fun r w' => SameFills leg r.2 ∧
        w' = { w with cancelled := Function.update w.cancelled leg.side r.1 }) w := by
  unfold dispatch_cancel
  cases eng.adapters leg.platform with
  | none =>
    refine wp_pure.2 ⟨.refl leg, ?_⟩
    rw [← hw, Function.update_eq_self]
  | some adapter =>
    rw [wp_bind, wp_send]
    rintro answer w₁ rfl
    simp only [wp_ite]
    constructor
    · rintro ⟨hok, -⟩
      refine wp_leaving_book (calls_send.2 trivial) fun written => ?_
      cases written with
      | ok _ => exact wp_pure.2 ⟨⟨rfl, rfl, rfl, rfl⟩, by rw [hok]⟩
      | error err =>
        refine wp_leaving_book (calls_send.2 trivial) fun _ => ?_
        exact wp_pure.2 ⟨⟨rfl, rfl, rfl, rfl⟩, by rw [hok]⟩
    · intro _
      exact wp_pure.2 ⟨.refl leg, rfl⟩

/-- One leg has gone through the cancel loop. -/
structure CancelTurn (opp : Opportunity) (leg left : Leg) (w w' : RiskLog) : Prop where
  same : SameFills leg left
  legs : w'.legs = w.legs
  filled : w'.filled = w.filled
  sold : w'.sold = w.sold
  others : ∀ s, s ≠ leg.side → w'.cancelled s = w.cancelled s
  releases : Releases opp.canonical_id (remainder_freed leg (w'.cancelled leg.side))
    (released_on leg.platform (remainder_freed leg (w'.cancelled leg.side))) w.risk w'.risk

private theorem release_unfilled_spec {leg : Leg} {cancelled : Bool} :
    wp risk_venue (release_unfilled opp leg cancelled)
      (fun _ w' => ∃ rm, w' = { w with risk := rm } ∧
        Releases opp.canonical_id (remainder_freed leg cancelled)
          (released_on leg.platform (remainder_freed leg cancelled)) w.risk rm) w := by
  unfold release_unfilled
  rw [wp_ite]
  constructor
  · rintro ⟨hcancelled, hopen, -⟩
    rw [wp_send]
    rintro _ w' rfl
    refine ⟨_, rfl, ?_⟩
    rw [remainder_freed, if_pos ⟨hcancelled, hopen⟩]
    exact .of_release_trade _ _ _ _
  · intro hnothing
    rw [wp_ret]
    refine ⟨w.risk, rfl, ?_⟩
    have hzero : remainder_freed leg cancelled = 0 := by
      unfold remainder_freed
      split
      · rename_i hopen
        have hnone : leg.quantity - leg.fill_qty = 0 := by
          by_contra hpos
          exact hnothing ⟨hopen.1, hopen.2, Nat.pos_of_ne_zero hpos⟩
        rw [hnone, Nat.cast_zero, zero_mul]
      · rfl
    rw [hzero]
    exact .zero_on _ _

private theorem cancel_open_leg_released {leg : Leg} (hw : w.cancelled leg.side = false) :
    wp risk_venue (cancel_open_leg eng arb_id opp leg)
      (fun r w' => CancelTurn opp leg r.2 w w') w := by
  unfold cancel_open_leg
  rw [wp_ite]
  constructor
  · intro _
    refine wp_bind.2 (wp_mono (dispatch_cancel_released hw) ?_)
    rintro ⟨cancelled, left⟩ w₁ ⟨hsame, rfl⟩
    refine wp_bind.2 (wp_mono release_unfilled_spec ?_)
    rintro _ w₂ ⟨rm, rfl, hreleases⟩
    refine wp_pure.2 ⟨hsame, rfl, rfl, rfl, fun s hs => Function.update_of_ne hs _ _, ?_⟩
    show Releases _ (remainder_freed leg (Function.update w.cancelled leg.side cancelled leg.side))
      _ _ _
    simpa only [Function.update_self] using hreleases
  · intro _
    refine wp_pure.2 ⟨.refl leg, rfl, rfl, rfl, fun _ _ => rfl, ?_⟩
    have hzero : remainder_freed leg (w.cancelled leg.side) = 0 := by
      simp [remainder_freed, hw]
    rw [hzero]
    exact .zero_on _ _

/-! ### Verifying and unwinding -/

/-- The verification has read the counterpart at most. -/
structure VerifyTurn (unhedged_leg counterpart : Leg) (qty : ℕ) (target : Option ℕ)
    (w w' : RiskLog) : Prop where
  kept : w' = { w with filled := w'.filled }
  filled : w'.filled unhedged_leg.side = w.filled unhedged_leg.side
  empty : w'.filled counterpart.side = 0 →
    counterpart.fill_qty = 0 ∧ ∀ t, target = some t → t = qty

/-- A counterpart without a late fill leaves the quantity as it was. -/
private theorem verify_before_unwind_released {unhedged_leg counterpart : Leg} {qty : ℕ}
    (hside : unhedged_leg.side ≠ counterpart.side)
    (hfilled : w.filled counterpart.side = counterpart.fill_qty) :
    wp risk_venue (verify_before_unwind eng arb_id opp unhedged_leg counterpart qty)
      (fun r w' => VerifyTurn unhedged_leg counterpart qty r.1 w w') w := by
  unfold verify_before_unwind
  rw [wp_ite]
  constructor
  · rintro ⟨hzero, -⟩
    have hverdict : wp risk_venue (verify_leg_dead eng counterpart)
        (fun r w' => w' = { w with filled := w'.filled } ∧
          w'.filled unhedged_leg.side = w.filled unhedged_leg.side ∧
          (w'.filled counterpart.side = 0 → r.1 ≠ .late_fill)) w := by
      refine wp_verify_leg_dead ⟨rfl, rfl, fun _ => Verdict.noConfusion⟩ fun answer w₁ hread => ?_
      cases answer with
      | error _ =>
        have heq : w₁ = w := hread
        exact heq ▸ ⟨rfl, rfl, fun _ => Verdict.noConfusion⟩
      | ok refreshed =>
        have heq : w₁ = { w with
          filled := Function.update w.filled counterpart.side refreshed.order.fill_qty } := hread
        subst heq
        refine ⟨rfl, Function.update_of_ne hside _ _, fun hempty hlate => ?_⟩
        have hnofill : refreshed.order.fill_qty = 0 := by simpa using hempty
        have hfill := verdict_of_late_fill hlate
        omega
    refine wp_bind.2 (wp_mono hverdict ?_)
    rintro ⟨verdict, held⟩ w₁ ⟨hkept, hown, hlate⟩
    cases verdict with
    | unproven =>
      refine wp_leaving_book (calls_send.2 trivial) fun _ => wp_pure.2 ⟨hkept, hown, fun _ => ?_⟩
      exact ⟨hzero, fun t ht => by cases ht⟩
    | late_fill =>
      -- a late fill is a fill of the counterpart
      have hsold : ∀ target, w₁.filled counterpart.side = 0 →
          counterpart.fill_qty = 0 ∧ ∀ t, target = some t → t = qty :=
        fun _ hempty => (hlate hempty rfl).elim
      simp only [wp_ite]
      constructor
      · intro _
        exact wp_leaving_book (calls_send.2 trivial) fun _ => wp_pure.2 ⟨hkept, hown, hsold _⟩
      · intro _
        exact wp_pure.2 ⟨hkept, hown, hsold _⟩
    | dead =>
      refine wp_pure.2 ⟨hkept, hown, fun _ => ⟨hzero, fun t ht => ?_⟩⟩
      exact (Option.some.inj ht).symm
  · intro _
    refine wp_pure.2 ⟨rfl, rfl, fun hempty => ⟨hfilled ▸ hempty, fun t ht => ?_⟩⟩
    exact (Option.some.inj ht).symm

/-- Selling all of the target gives back its cost, whether the unwind raises or not. -/
private theorem unwind_released {filled_leg : Leg} {target : ℕ} :
    wp risk_venue (unwind eng arb_id opp filled_leg target)
      (fun _ w' => w' = { w with risk := w'.risk, sold := w'.sold } ∧
        (∀ s, s ≠ filled_leg.side → w'.sold s = w.sold s) ∧
        (w'.sold filled_leg.side = w.sold filled_leg.side + target →
          Releases opp.canonical_id (target * filled_leg.fill_price)
            (released_on filled_leg.platform (target * filled_leg.fill_price)) w.risk w'.risk)) w := by
  unfold unwind
  rw [wp_ite]
  constructor
  · intro _
    rw [wp_bind, call_smart_unwind, wp_send]
    -- a sale that raised is released in full: the source gives the exposure back either way
    rintro answer w₁ ⟨n, hn, rfl⟩
    cases answer with
    | error _ =>
      rw [wp_bind, wp_send]
      rintro _ w₂ rfl
      refine wp_leaving_book (calls_send.2 trivial) fun _ => wp_pure.2 ⟨rfl, ?_, fun _ => ?_⟩
      · exact fun s hs => Function.update_of_ne hs _ _
      · exact .of_release_trade _ _ _ _
    | ok unwind_order =>
      have hn := hn unwind_order rfl
      subst hn
      simp only [wp_ite]
      constructor
      · intro _
        rw [wp_bind, wp_send]
        rintro _ w₂ rfl
        refine wp_leaving_book (calls_send.2 trivial) fun _ => ?_
        refine wp_leaving_book (calls_send.2 trivial) fun _ => ?_
        refine wp_leaving_book (reconcile_naked_leg_marks fun _ => trivial) fun _ => ?_
        refine wp_pure.2 ⟨rfl, ?_, fun hall => ?_⟩
        · exact fun s hs => Function.update_of_ne hs _ _
        · -- only when the whole target was sold is the release that of the target
          have heq : unwind_order.fill_qty = target := by
            simp only [Function.update_self] at hall
            omega
          rw [← heq]
          exact .of_release_trade _ _ _ _
      · intro hnothing
        refine wp_pure.2 ⟨rfl, fun s hs => Function.update_of_ne hs _ _, fun hall => ?_⟩
        have htarget : target = 0 := by
          simp only [Function.update_self] at hall
          omega
        rw [htarget, Nat.cast_zero, zero_mul]
        exact .zero_on _ _
  · intro _
    refine wp_pure.2 ⟨rfl, fun _ _ => rfl, fun hall => ?_⟩
    have htarget : target = 0 := by omega
    rw [htarget, Nat.cast_zero, zero_mul]
    exact .zero_on _ _

/-- The exposure of one leg has been closed as far as it goes. -/
structure CloseTurn (opp : Opportunity) (unhedged_leg counterpart : Leg) (qty : ℕ)
    (w w' : RiskLog) : Prop where
  legs : w'.legs = w.legs
  cancelled : w'.cancelled = w.cancelled
  filled : w'.filled unhedged_leg.side = w.filled unhedged_leg.side
  sold : w'.sold counterpart.side = w.sold counterpart.side
  empty : w'.filled counterpart.side = 0 → counterpart.fill_qty = 0
  releases : w'.filled counterpart.side = 0 → w'.sold unhedged_leg.side = qty →
    Releases opp.canonical_id (qty * unhedged_leg.fill_price)
      (released_on unhedged_leg.platform (qty * unhedged_leg.fill_price)) w.risk w'.risk

private theorem close_exposure_released {unhedged_leg counterpart : Leg} {qty : ℕ}
    (hside : unhedged_leg.side ≠ counterpart.side)
    (hfilled : w.filled counterpart.side = counterpart.fill_qty)
    (hsold : w.sold unhedged_leg.side = 0) :
    wp risk_venue (close_exposure eng arb_id opp unhedged_leg counterpart qty)
      (fun _ w' => CloseTurn opp unhedged_leg counterpart qty w w') w := by
  unfold close_exposure
  refine wp_bind.2 (wp_mono (verify_before_unwind_released hside hfilled) ?_)
  rintro ⟨target, notes, held⟩ w₁ hverify
  have hkept := hverify.kept
  cases target with
  | none =>
    refine wp_pure.2 ?_
    rw [hkept]
    refine ⟨rfl, rfl, hverify.filled, rfl, fun hempty => (hverify.empty hempty).1, fun _ hall => ?_⟩
    have hqty : qty = 0 := hall.symm.trans hsold
    rw [hqty, Nat.cast_zero, zero_mul]
    exact .zero_on _ _
  | some t =>
    refine wp_bind.2 (wp_mono unwind_released ?_)
    rintro _ w₂ ⟨hw₂, hothers, hreleases⟩
    refine wp_pure.2 ?_
    have hfilled₂ : w₂.filled = w₁.filled := by rw [hw₂]
    have hrisk : w₁.risk = w.risk := by rw [hkept]
    have hsold₁ : w₁.sold = w.sold := by rw [hkept]
    refine ⟨?_, ?_, ?_, ?_, ?_, ?_⟩
    · rw [hw₂, hkept]
    · rw [hw₂, hkept]
    · rw [hfilled₂, hverify.filled]
    · rw [hothers _ hside.symm, hsold₁]
    · intro hempty
      rw [hfilled₂] at hempty
      exact (hverify.empty hempty).1
    · intro hempty hall
      rw [hfilled₂] at hempty
      -- nothing was filled late, so the target is the whole quantity
      have ht : t = qty := (hverify.empty hempty).2 t rfl
      rw [ht, hrisk] at hreleases
      apply hreleases
      rw [hall, hsold₁, hsold, zero_add]

/-! ### The recovery as a whole -/

/-- With nothing on the other leg, all of a leg is unhedged. -/
private theorem unhedged_all (legs : Side → Leg) {s : Side} {qty : ℕ}
    (h : unhedged (legs .yes) (legs .no) = some (s, qty)) (hzero : (legs s.other).fill_qty = 0) :
    qty = (legs s).fill_qty := by
  obtain ⟨hlt, rfl⟩ := unhedged_eq_some legs h
  have hown := visible_fills_eq (legs s)
  have hother := visible_fills_eq (legs s.other)
  omega

/-- What the unwind step leaves: the cancels stand, and once all fills are sold their
    cost is given back. -/
structure UnwindTurn (opp : Opportunity) (leg_yes leg_no : Leg) (w w' : RiskLog) : Prop where
  legs : w'.legs = w.legs
  cancelled : w'.cancelled = w.cancelled
  releases : (∀ s, w'.sold s = w'.filled s) →
    Releases opp.canonical_id
      (leg_yes.fill_qty * leg_yes.fill_price + leg_no.fill_qty * leg_no.fill_price)
      (fun p => released_on leg_yes.platform (leg_yes.fill_qty * leg_yes.fill_price) p +
        released_on leg_no.platform (leg_no.fill_qty * leg_no.fill_price) p) w.risk w'.risk

private theorem close_unhedged_released {leg_yes leg_no : Leg} {notes : List String}
    (hyes : leg_yes.side = .yes) (hno : leg_no.side = .no)
    (hfilled : w.filled .yes = leg_yes.fill_qty ∧ w.filled .no = leg_no.fill_qty)
    (hsold : ∀ s, w.sold s = 0) :
    wp risk_venue (close_unhedged eng arb_id opp notes leg_yes leg_no)
      (fun _ w' => UnwindTurn opp leg_yes leg_no w w') w := by
  let legs : Side → Leg := fun | .yes => leg_yes | .no => leg_no
  have hside : ∀ s, (legs s).side = s := by
    intro s
    cases s with
    | yes => exact hyes
    | no => exact hno
  have hknown : ∀ s, w.filled s = (legs s).fill_qty := by
    intro s
    cases s with
    | yes => exact hfilled.1
    | no => exact hfilled.2
  refine wp_close_unhedged legs ?_ ?_
  · intro _ _ _
    refine ⟨rfl, rfl, fun hall => ?_⟩
    have hy : leg_yes.fill_qty = 0 := by rw [← hfilled.1, ← hall .yes, hsold]
    have hn : leg_no.fill_qty = 0 := by rw [← hfilled.2, ← hall .no, hsold]
    simpa [hy, hn] using Releases.none w.risk
  · intro s qty hsome
    have hne : (legs s).side ≠ (legs s.other).side := by
      rw [hside, hside]
      exact (Side.other_ne s).symm
    have hcounted : w.filled (legs s.other).side = (legs s.other).fill_qty := by
      rw [hside, hknown]
    refine wp_mono (close_exposure_released hne hcounted (hsold _)) fun _ w' hturn _ _ => ?_
    refine ⟨hturn.legs, hturn.cancelled, fun hall => ?_⟩
    -- the other leg was never sold, so it has nothing, and all of this one was unhedged
    have hempty : w'.filled (legs s.other).side = 0 := by rw [← hall, hturn.sold, hsold]
    have hzero := hturn.empty hempty
    have hqty := unhedged_all legs hsome hzero
    have hown : w'.sold (legs s).side = qty := by rw [hall, hturn.filled, hside, hknown, hqty]
    have hreleases := hturn.releases hempty hown
    rw [hqty] at hreleases
    cases s with
    | yes =>
      have hn : leg_no.fill_qty = 0 := hzero
      simpa [hn] using hreleases
    | no =>
      have hy : leg_yes.fill_qty = 0 := hzero
      simpa [hy] using hreleases

/-- **The recovery releases what the legs say**: once everything is closed, each leg has
    given back its remainder at its limit and its fill at its price, on its platform. -/
private theorem recover_spec {leg_yes leg_no : Leg} (hyes : leg_yes.side = .yes)
    (hno : leg_no.side = .no) (hcancelled : ∀ s, w.cancelled s = false)
    (hfilled : w.filled .yes = leg_yes.fill_qty ∧ w.filled .no = leg_no.fill_qty)
    (hsold : ∀ s, w.sold s = 0) :
    wp risk_venue (recover_one_leg_risk eng arb_id opp leg_yes leg_no)
      (fun _ w' => w'.legs = w.legs ∧ (Unwound leg_yes leg_no w' →
        Releases opp.canonical_id (freed leg_yes + freed leg_no)
          (fun p => released_on leg_yes.platform (freed leg_yes) p +
            released_on leg_no.platform (freed leg_no) p) w.risk w'.risk)) w := by
  unfold recover_one_leg_risk
  refine wp_leaving_book announce_exposure_leaves fun _ => ?_
  refine wp_bind.2 (wp_mono (cancel_open_leg_released (hcancelled _)) ?_)
  rintro ⟨yes_notes, left_yes⟩ w₁ hturn₁
  have hcancelled₁ : w₁.cancelled leg_no.side = false := by
    rw [hturn₁.others _ (by rw [hyes, hno]; decide), hcancelled]
  refine wp_bind.2 (wp_mono (cancel_open_leg_released hcancelled₁) ?_)
  rintro ⟨no_notes, left_no⟩ w₂ hturn₂
  have hknown : w₂.filled .yes = left_yes.fill_qty ∧ w₂.filled .no = left_no.fill_qty := by
    rw [hturn₂.filled, hturn₁.filled, hturn₁.same.fill_qty, hturn₂.same.fill_qty]
    exact hfilled
  have hunsold : ∀ s, w₂.sold s = 0 := by
    intro s
    rw [hturn₂.sold, hturn₁.sold, hsold]
  refine wp_mono (close_unhedged_released (hturn₁.same.side.trans hyes) (hturn₂.same.side.trans hno)
    hknown hunsold) fun _ w₃ hturn₃ => ⟨?_, fun hunwound => ?_⟩
  · rw [hturn₃.legs, hturn₂.legs, hturn₁.legs]
  · have hreleases := (hturn₁.releases.trans hturn₂.releases).trans
      (hturn₃.releases hunwound.sold)
    -- the cancels on record are those of the two turns
    have hc₁ : w₁.cancelled leg_yes.side = w₃.cancelled .yes := by
      rw [hturn₃.cancelled, hturn₂.others _ (by rw [hno]; decide), hyes]
    have hc₂ : w₂.cancelled leg_no.side = w₃.cancelled .no := by
      rw [hturn₃.cancelled, hno]
    rw [hc₁, hc₂, remainder_freed_of_cancelled hunwound.cancelled_yes,
      remainder_freed_of_cancelled hunwound.cancelled_no, hturn₁.same.fill_qty,
      hturn₁.same.fill_price, hturn₁.same.platform, hturn₂.same.fill_qty,
      hturn₂.same.fill_price, hturn₂.same.platform] at hreleases
    constructor
    · rw [hreleases.position]
      unfold freed
      ring_nf
    · intro p
      rw [hreleases.platform]
      unfold freed
      rw [released_on_add, released_on_add]
      ring_nf

end recovery

/-! ## Section 4: Released as booked -/

/-- The entries of the market and of both platforms are the same again. -/
def Restored (opp : Opportunity) (rm rm' : RiskManager) : Prop :=
  rm'.open_positions.amount opp.canonical_id = rm.open_positions.amount opp.canonical_id ∧
    ∀ p ∈ [opp.yes_platform, opp.no_platform],
      rm'.platform_exposures.amount p = rm.platform_exposures.amount p

/-- An entry evens out: what is freed is what was booked, or the entry was zero and
    more than was booked is freed. -/
def Evens (before booked freed : ℚ≥0) : Prop := freed = booked ∨ (before = 0 ∧ booked ≤ freed)

instance (before booked freed : ℚ≥0) : Decidable (Evens before booked freed) := by
  unfold Evens; infer_instance

/-- What is booked for the survivors is what the legs free, on the market and on each
    platform. -/
def FreedAsBooked (opp : Opportunity) (rm : RiskManager) (leg_yes leg_no : Leg) : Prop :=
  let booked := surviving_legs leg_yes leg_no
  Evens (rm.open_positions.amount opp.canonical_id) (booked.exposure opp)
      (freed leg_yes + freed leg_no) ∧
    ∀ p ∈ [opp.yes_platform, opp.no_platform],
      Evens (rm.platform_exposures.amount p)
        ((booked.allocation opp).share (booked.exposure opp) p)
        (released_on leg_yes.platform (freed leg_yes) p +
          released_on leg_no.platform (freed leg_no) p)

/-- Booking and then releasing restores an entry exactly when it evens out. -/
private theorem restored_iff {opp : Opportunity} {rm rm' : RiskManager} {pnl : ℚ}
    {leg_yes leg_no : Leg}
    (h : Releases opp.canonical_id (freed leg_yes + freed leg_no)
      (fun p => released_on leg_yes.platform (freed leg_yes) p +
        released_on leg_no.platform (freed leg_no) p)
      (rm.record_trade opp.canonical_id ((surviving_legs leg_yes leg_no).exposure opp) pnl
        ((surviving_legs leg_yes leg_no).allocation opp)) rm') :
    Restored opp rm rm' ↔ FreedAsBooked opp rm leg_yes leg_no := by
  unfold Restored FreedAsBooked Evens
  apply and_congr
  · rw [h.position, RiskManager.record_trade_position, if_pos rfl]
    exact Ledger.book_release_eq_self_iff
  · apply forall₂_congr
    intro p _
    rw [h.platform, RiskManager.record_trade_platform]
    exact Ledger.book_release_eq_self_iff

section live

variable {eng : Engine} {cfg : LiveConfig} {arb_id : String} {opp : Opportunity}
variable {α β : Type} {w : RiskLog}

/-- Asking leaves the book alone. -/
theorem wp_asking_of_risk {p : Live α} {f : α → Live β} {Q : β → RiskLog → Prop}
    (hp : p.Calls Asks) (hf : ∀ a, wp (live_risk eng) (f a) Q w) :
    wp (live_risk eng) (p >>= f) Q w := by
  refine hp.wp_bind (fun w c a w' hc hs => ?_) hf
  cases c with
  | outside c =>
    have hleaves : LeavesBook c := by
      cases c <;> first | exact hc.elim | exact trivial
    exact hleaves.keeps hs
  | _ => exact hc.elim

/-- So does raising an incident. -/
private theorem wp_incident {i : Incident} {f : Unit → Live β} {Q : β → RiskLog → Prop}
    (hf : wp (live_risk eng) (f ()) Q w) :
    wp (live_risk eng) (ask (.record_incident i) >>= f) Q w := by
  rw [wp_bind, wp_send]
  rintro _ w' rfl
  exact hf

/-- The legs are placed on their sides. -/
structure OnSides (placed : Placed) : Prop where
  primary : placed.primary.side = placed.primary_side
  secondary : placed.secondary.side = placed.primary_side.other

private theorem try_secondary_on_side {p : Leg} {side : Side} {qty : ℕ} :
    wp (live_risk eng) (try_secondary eng cfg arb_id opp p side qty)
      (fun r w' => (∀ s, r = .ok s → s.side = side) ∧ w' = w) w := by
  unfold try_secondary
  refine wp_asking_of_risk (asking inter_leg_delay_calls) fun _ => ?_
  refine wp_asking_of_risk (asking walk_secondary_calls) fun walk => ?_
  cases walk with
  | error err => exact wp_pure.2 ⟨fun s hs => (nomatch hs), rfl⟩
  | ok walked =>
    show wp _ (secondary_at cfg arb_id opp p side qty walked) _ _
    unfold secondary_at
    rw [wp_bind, call_execute_with_fallbacks, wp_send]
    rintro r w' ⟨hside, rfl⟩
    match r with
    | .error err => exact wp_pure.2 ⟨fun s hs => (nomatch hs), rfl⟩
    | .ok (some secondary_leg) =>
      refine wp_pure.2 ⟨fun s hs => ?_, rfl⟩
      cases hs
      exact hside _ rfl
    | .ok none =>
      refine wp_pure.2 ⟨fun s hs => ?_, rfl⟩
      cases hs
      rfl

private theorem place_secondary_on_sides {p : Leg} {side : Side} {qty : ℕ}
    (hp : p.side = side.other) :
    wp (live_risk eng) (place_secondary eng cfg arb_id opp side p qty)
      (fun placed w' => OnSides placed ∧ w' = w) w := by
  have hother : side.other.other = side := by cases side <;> rfl
  unfold place_secondary
  rw [wp_ite]
  constructor
  · intro _
    exact wp_pure.2 ⟨⟨hp, hother.symm⟩, rfl⟩
  · intro _
    have hsecond : wp (live_risk eng)
        (secondary_or_placeholder eng cfg arb_id opp p side (min p.fill_qty qty))
        (fun r w' => r.1.side = side ∧ w' = w) w := by
      unfold secondary_or_placeholder
      refine wp_bind.2 (wp_mono try_secondary_on_side ?_)
      rintro r w' ⟨hside, rfl⟩
      cases r with
      | ok s => exact wp_pure.2 ⟨hside s rfl, rfl⟩
      | error err => exact wp_incident (wp_pure.2 ⟨rfl, rfl⟩)
    refine wp_bind.2 (wp_mono hsecond ?_)
    rintro ⟨s, raised⟩ w' ⟨hside, rfl⟩
    -- the report changes no leg
    have hreport : wp (live_risk eng) (report_soft_naked eng arb_id opp p s side)
        (fun _ w₁ => w₁ = w') w' := by
      unfold report_soft_naked
      rw [wp_ite]
      refine ⟨fun _ => wp_incident ?_, fun _ => wp_pure.2 rfl⟩
      rw [wp_ite]
      refine ⟨fun _ => ?_, fun _ => wp_pure.2 rfl⟩
      rw [wp_bind, wp_send]
      rintro _ w₁ rfl
      exact wp_pure.2 rfl
    refine wp_bind.2 (wp_mono hreport ?_)
    rintro _ w₁ rfl
    exact wp_pure.2 ⟨⟨hp, hside.trans hother.symm⟩, rfl⟩

/-- Placing the legs leaves the book alone. -/
private theorem execute_legs_on_sides :
    wp (live_risk eng) (execute_legs eng cfg arb_id opp)
      (fun r w' => (∀ placed, r = .ok (some placed) → OnSides placed) ∧ w' = w) w := by
  unfold execute_legs
  refine wp_asking_of_risk (asking balance_gate_calls) fun short => ?_
  cases short with
  | some platform =>
    exact wp_incident (wp_pure.2 ⟨fun placed h => (nomatch h), rfl⟩)
  | none =>
    rw [wp_ite]
    constructor
    · intro _
      refine wp_pure.2 ⟨fun placed h => ?_, rfl⟩
      cases h
      exact ⟨rfl, rfl⟩
    · intro _
      unfold place_legs
      refine wp_asking_of_risk (asking depth_gate_calls) fun depth => ?_
      match depth with
      | .error err => exact wp_pure.2 ⟨fun placed h => (nomatch h), rfl⟩
      | .ok none => exact wp_pure.2 ⟨fun placed h => (nomatch h), rfl⟩
      | .ok (some effective_qty) =>
        refine wp_asking_of_risk (asking walk_primary_calls) fun walk => ?_
        match walk with
        | .error err => exact wp_pure.2 ⟨fun placed h => (nomatch h), rfl⟩
        | .ok none => exact wp_pure.2 ⟨fun placed h => (nomatch h), rfl⟩
        | .ok (some price) =>
          rw [wp_bind, place_primary, call_place_order_for_leg, wp_send]
          rintro r w' ⟨hside, rfl⟩
          cases r with
          | error err => exact wp_pure.2 ⟨fun placed h => (nomatch h), rfl⟩
          | ok primary_leg =>
            -- the secondary goes opposite to the primary, and the other way round
            have hprimary : primary_leg.side = (primary_side cfg opp).other.other := by
              rw [hside _ rfl]
              cases primary_side cfg opp <;> rfl
            refine wp_bind.2 (wp_mono (place_secondary_on_sides hprimary) ?_)
            rintro placed w₁ ⟨hsides, rfl⟩
            refine wp_pure.2 ⟨fun placed' h => ?_, rfl⟩
            cases h
            exact hsides

/-- The two legs by side. -/
private theorem OnSides.legs {placed : Placed} (h : OnSides placed) :
    placed.leg_yes.side = .yes ∧ placed.leg_no.side = .no := by
  have hprimary := h.primary
  have hsecondary := h.secondary
  unfold Placed.leg_yes Placed.leg_no
  cases hside : placed.primary_side with
  | yes =>
    rw [hside] at hprimary hsecondary
    exact ⟨hprimary, hsecondary⟩
  | no =>
    rw [hside] at hprimary hsecondary
    exact ⟨hsecondary, hprimary⟩

/-- The book of an execution at its end, for the legs its recovery was entered with. -/
def SettledBook (opp : Opportunity) (rm : RiskManager) (w : RiskLog) : Prop :=
  ∀ leg_yes leg_no, w.legs = some (leg_yes, leg_no) → Unwound leg_yes leg_no w →
    (Restored opp rm w.risk ↔ FreedAsBooked opp rm leg_yes leg_no)

private theorem settle_of_risk {rm : RiskManager} {leg_yes leg_no : Leg}
    (hyes : leg_yes.side = .yes) (hno : leg_no.side = .no) :
    wp (live_risk eng) (settle eng arb_id opp leg_yes leg_no)
      (fun _ w' => SettledBook opp rm w') (.start rm) := by
  have hrecovers : (classify leg_yes leg_no).2 = true →
      (classify leg_yes leg_no).1 = .recovering := classify_recovering
  unfold settle
  generalize classify leg_yes leg_no = outcome at hrecovers ⊢
  obtain ⟨status, needs_recovery⟩ := outcome
  rw [wp_bind, wp_send]
  rintro _ w₁ rfl
  cases needs_recovery with
  | false =>
    -- the recovery is not entered, whatever is booked
    have hbook : ∀ pnl b, wp (live_risk eng) (book_execution opp pnl b)
        (fun _ w' => w'.legs = none) (.start rm) := by
      intro pnl b
      cases b with
      | none => exact wp_ret.2 rfl
      | some b =>
        rw [book_execution, wp_send]
        rintro _ w' rfl
        rfl
    refine wp_bind.2 (wp_mono (hbook _ _) fun _ w₂ hlegs => ?_)
    rw [recover_if_needed, if_neg Bool.false_ne_true]
    refine wp_bind.2 (wp_ret.2 ?_)
    rw [wp_bind, wp_send]
    rintro _ w₃ rfl
    refine wp_asking_of_risk persist_arb_calls fun _ => wp_pure.2 ?_
    intro leg_yes leg_no hsome
    rw [hlegs] at hsome
    cases hsome
  | true =>
    have hstatus : status = .recovering := hrecovers rfl
    rw [hstatus, booking, book_execution, wp_bind, wp_send]
    rintro _ w₂ rfl
    rw [recover_if_needed, if_pos rfl, wp_bind, call_recover_one_leg_risk, wp_send]
    intro recovered w₃ hrun
    obtain ⟨hlegs, hreleases⟩ :=
      recover_spec hyes hno (fun _ => rfl) ⟨rfl, rfl⟩ (fun _ => rfl) _ _ hrun
    rw [wp_bind, wp_send]
    rintro _ w₄ rfl
    refine wp_asking_of_risk persist_arb_calls fun _ => wp_pure.2 ?_
    intro leg_yes' leg_no' hsome hunwound
    have heq : leg_yes = leg_yes' ∧ leg_no = leg_no' := by
      rw [hlegs] at hsome
      simpa using hsome
    obtain ⟨rfl, rfl⟩ := heq
    -- the profit of the unwind goes to the daily counters only
    have hunwound₃ : Unwound leg_yes leg_no w₃ :=
      ⟨hunwound.sold, hunwound.cancelled_yes, hunwound.cancelled_no⟩
    have hrestored : Restored opp rm w₃.risk ↔ FreedAsBooked opp rm leg_yes leg_no :=
      restored_iff (hreleases hunwound₃)
    exact hrestored

/-- **Exposure is released as it was booked exactly if the legs add up to it**: in every
    execution whose recovery closes everything, the entries of the market and of both
    platforms are restored if and only if what the legs free evens out what was booked. -/
theorem exposure_restored_iff (eng : Engine) (cfg : LiveConfig) (arb_id : String)
    (opp : Opportunity) (rm : RiskManager) (r : Except String (Option ArbExecution))
    (w : RiskLog) (leg_yes leg_no : Leg)
    (hrun : Exec (live_risk eng) (live_execution eng cfg arb_id opp) (.start rm) r w)
    (hlegs : w.legs = some (leg_yes, leg_no)) (hunwound : Unwound leg_yes leg_no w) :
    Restored opp rm w.risk ↔ FreedAsBooked opp rm leg_yes leg_no := by
  have hspec : wp (live_risk eng) (live_execution eng cfg arb_id opp)
      (fun _ w' => SettledBook opp rm w') (.start rm) := by
    have hnone : SettledBook opp rm (.start rm) := fun _ _ h => nomatch h
    unfold live_execution
    refine wp_bind.2 (wp_mono execute_legs_on_sides ?_)
    rintro r w₁ ⟨hsides, rfl⟩
    match r with
    | .error err => exact wp_pure.2 hnone
    | .ok none => exact wp_pure.2 hnone
    | .ok (some placed) =>
      have hside := (hsides placed rfl).legs
      refine wp_bind.2 (wp_mono (settle_of_risk hside.1 hside.2) fun execution w₂ hbook => ?_)
      cases placed.secondary_exception with
      | some err => exact wp_pure.2 hbook
      | none => exact wp_pure.2 hbook
  exact hspec r w hrun leg_yes leg_no hlegs hunwound

end live

/-! ### Ten contracts bought and sold back -/

/-- The book after the primary was booked at its quote and released at its cost. -/
def book_sold_back (price : ℚ≥0) : RiskManager :=
  ((RiskManager.fresh 1).record_trade "mkt-1" ten_across.yes_exposure 0
    (.single "kalshi")).release_trade "mkt-1" ((10 : ℕ) * price) 0 (.single "kalshi")

/-- The log while the recovery of that primary runs. -/
def selling_back (rm : RiskManager) (price : ℚ≥0) (sold : Side → ℕ) : RiskLog where
  risk := rm
  legs := some (bought_at price, rejected_no)
  cancelled := fun _ => false
  filled := fun s => match s with
    | .yes => 10
    | .no => 0
  sold := sold

/-- All ten contracts of the YES leg. -/
def ten_sold : Side → ℕ := Function.update (fun _ => 0) .yes 10

/-- The log when all is sold. -/
def sold_back_log (price : ℚ≥0) : RiskLog :=
  selling_back
    { book_sold_back price with
      daily_pnl := (book_sold_back price).daily_pnl + sold_back_pnl price } price ten_sold

/-- The recovery sells the primary back at its cost. -/
private theorem sold_back_recovery_run (price : ℚ≥0) (rm : RiskManager) :
    ∃ r, SoldBack price r ∧ Exec risk_venue
      (recover_one_leg_risk (kalshi_engine true) "ARB-000001" ten_across (bought_at price)
        rejected_no) (selling_back rm price fun _ => 0) r
      (selling_back (rm.release_trade "mkt-1" ((10 : ℕ) * price) 0 (.single "kalshi")) price ten_sold) := by
  have hsold : risk_venue.serve (selling_back rm price fun _ => 0)
      (.smart_unwind "ARB-000001" (bought_at price) 10) (.ok (sold_back price))
      (selling_back rm price ten_sold) := by
    refine ⟨10, fun order ho => ?_, rfl⟩
    cases ho
    rfl
  have hrelease : risk_venue.serve (selling_back rm price ten_sold)
      (.release_trade "mkt-1" ((10 : ℕ) * price) (.single "kalshi")) ()
      (selling_back (rm.release_trade "mkt-1" ((10 : ℕ) * price) 0 (.single "kalshi")) price ten_sold) :=
    rfl
  exact sold_back_recovery false (fun _ _ => rfl) (fun _ => rfl) hsold hrelease (.ret _ _)

/-- The whole execution. -/
private theorem sold_back_run (price : ℚ≥0) :
    ∃ r, Exec (live_risk (kalshi_engine true))
      (live_execution (kalshi_engine true) kalshi_first_config "ARB-000001" ten_across)
      (.start (.fresh 1)) r (sold_back_log price) := by
  let booked := (RiskManager.fresh 1).record_trade "mkt-1" ten_across.yes_exposure 0 (.single "kalshi")
  have hplace : (live_risk (kalshi_engine true)).serve (.start (.fresh 1))
      (.place_order_for_leg "kalshi" ten_across_primary true (some ⟨ten_across, some (1 / 5)⟩))
      (.ok (bought_at price)) (.start (.fresh 1)) := by
    refine ⟨fun leg hleg => ?_, rfl⟩
    cases hleg
    rfl
  have hchain : ∀ leg skip, leg.side = .no → (live_risk (kalshi_engine true)).serve
      (.start (.fresh 1)) (.execute_with_fallbacks leg skip) (.ok (some rejected_no))
      (.start (.fresh 1)) := by
    intro leg skip hside
    refine ⟨fun o ho => ?_, rfl⟩
    cases ho
    exact hside.symm
  have hbook : (live_risk (kalshi_engine true)).serve (.start (.fresh 1))
      (.outside (.record_trade "mkt-1" ten_across.yes_exposure 0 (.single "kalshi"))) ()
      (.start booked) := rfl
  have hhalt : (live_risk (kalshi_engine true)).serve (selling_back (book_sold_back price) price ten_sold)
      (.outside (.maybe_halt_on_daily_loss (sold_back_pnl price))) () (sold_back_log price) := rfl
  exact sold_back_execution false (fun _ => rfl) rfl rfl hplace hchain (fun _ => rfl) hbook
    (sold_back_recovery_run price booked) hhalt fun _ => .ret _ _

/-- It closes everything. -/
private theorem sold_back_unwound (price : ℚ≥0) :
    Unwound (bought_at price) rejected_no (sold_back_log price) := by
  refine ⟨fun s => ?_, fun h => ?_, fun h => ?_⟩
  · cases s <;> rfl
  · exact absurd h.1 (by simp [bought_at, ten_filled, Order.synthetic, OrderStatus.mayStillFill])
  · exact absurd h.1 (by decide)

/-- Ten contracts bought and sold back at their quote: the book is as before. -/
theorem exposure_restored_iff_at_quote :
    Restored ten_across (.fresh 1) (sold_back_log (2 / 5)).risk ↔
      FreedAsBooked ten_across (.fresh 1) (bought_at (2 / 5)) rejected_no := by
  obtain ⟨r, hrun⟩ := sold_back_run (2 / 5)
  exact exposure_restored_iff _ _ _ _ _ r _ _ _ hrun rfl (sold_back_unwound _)

/-- Ten contracts filled a cent below their quote: ten cents stay booked. -/
theorem price_improvement_leaves_residue :
    ¬ ∀ (eng : Engine) (cfg : LiveConfig) (arb_id : String) (opp : Opportunity) (rm : RiskManager)
        (r : Except String (Option ArbExecution)) (w : RiskLog) (leg_yes leg_no : Leg),
      Exec (live_risk eng) (live_execution eng cfg arb_id opp) (.start rm) r w →
      w.legs = some (leg_yes, leg_no) → Unwound leg_yes leg_no w → Restored opp rm w.risk := by
  intro h
  obtain ⟨r, hrun⟩ := sold_back_run (39 / 100)
  have hrestored := h _ _ _ _ _ r _ _ _ hrun rfl (sold_back_unwound _)
  exact absurd hrestored.1 (by decide +kernel)

end Execution
