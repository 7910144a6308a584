import Mathlib.Tactic.Linarith
import Arbiter.Execution.Closing

/-! # Profit Booked and Earned

  An execution books the quoted edge of its matched contracts when both legs are done,
  and the profit of an unwind when one is not. The three places that hold its profit,
  the row, the daily counter and the split, are written from that one number; whether
  it is what the fills earned depends on the quote.

  ## Contents

  - Section 1: the books and the fills during an execution.
  - Section 2: what the fills earned, and the split of the rows.
  - Section 3: what the recovery reports.
  - Section 4: what the execution books, and when it is what was earned.
-/

namespace Execution

open Effect Scanner

/-! ## Section 1: Books and fills -/

/-- The books, and what became of the contracts. -/
structure PnlLog where
  store : Store
  /-- `record_arb` was written. -/
  recorded : Bool
  risk : RiskManager
  /-- The legs of the execution, YES first. -/
  legs : Option (Leg × Leg)
  /-- Contracts of the leg known to be filled. -/
  filled : Side → ℕ
  /-- The price they were filled at. -/
  paid : Side → ℚ≥0
  /-- Contracts of the leg sold back. -/
  sold : Side → ℕ
  /-- Proceeds less cost of everything sold back. -/
  unwound : ℚ
  /-- The part of it an unwind that raised did not report. -/
  unreported : ℚ

/-- Before the execution. -/
def PnlLog.start (store : Store) (rm : RiskManager) : PnlLog where
  store := store
  recorded := false
  risk := rm
  legs := none
  filled := fun _ => 0
  paid := fun _ => 0
  sold := fun _ => 0
  unwound := 0
  unreported := 0

/-- One value for each side. -/
def both {α : Type} (yes no : α) : Side → α
  | .yes => yes
  | .no => no

/-- The log after `n` contracts of `leg` were sold for `proceeds`. -/
def PnlLog.sell (w : PnlLog) (leg : Leg) (n : ℕ) (proceeds : ℚ) : PnlLog :=
  { w with
    sold := Function.update w.sold leg.side (w.sold leg.side + n)
    unwound := w.unwound + (proceeds - n * leg.fill_price) }

/-- Every call may be answered in any way. An unwind order reports what was sold and at
    which price; an unwind that raises may have sold any number for any amount. -/
def pnl_venue : Env Call Answer PnlLog where
  serve := fun w c a w' =>
    match c, a with
    | .append_execution execution, _ =>
        w' = { w with
          legs := some (execution.leg_yes, execution.leg_no)
          filled := both execution.leg_yes.fill_qty execution.leg_no.fill_qty
          paid := both execution.leg_yes.fill_price execution.leg_no.fill_price }
    | .record_trade canonical_id exposure pnl alloc, _ =>
        w' = { w with risk := w.risk.record_trade canonical_id exposure pnl alloc }
    | .release_trade canonical_id exposure alloc, _ =>
        w' = { w with risk := w.risk.release_trade canonical_id exposure 0 alloc }
    | .maybe_halt_on_daily_loss pnl, _ =>
        w' = { w with risk := { w.risk with daily_pnl := w.risk.daily_pnl + pnl } }
    | .get_order _ leg, .ok r =>
        w' = { w with
          filled := Function.update w.filled leg.side r.order.fill_qty
          paid := Function.update w.paid leg.side r.order.fill_price }
    | .smart_unwind _ leg _, .ok order =>
        w' = w.sell leg order.fill_qty (order.fill_qty * order.fill_price)
    | .smart_unwind _ leg _, .error _ =>
        ∃ n proceeds, w' = { w.sell leg n proceeds with
          unreported := w.unreported + (proceeds - n * leg.fill_price) }
    | .upsert_order order id client_order_id, a =>
        written w a { w with store :=
          (w.store.upsert_order order.columns (some id) client_order_id).getD w.store } w'
    | .mark_naked_leg_reconciled id unwind_pnl note, a =>
        written w a { w with store := w.store.mark_naked_leg_reconciled id unwind_pnl note } w'
    | .record_arb execution, a =>
        written w a { w with store := w.store.record_arb execution, recorded := true } w'
    | _, _ => w' = w

/-- `_live_execution` over those books. Placing the legs may write any rows; the recovery
    is a run of its program. -/
def live_pnl (eng : Engine) : Env Proc Outcomes PnlLog where
  serve := fun w p r w' =>
    match p, r with
    | .outside c, a => pnl_venue.serve w c a w'
    | .place_order_for_leg .., _ => ∃ store, w' = { w with store := store }
    | .execute_with_fallbacks .., _ => ∃ store, w' = { w with store := store }
    | .recover_one_leg_risk arb_id opp leg_yes leg_no, r =>
        Exec pnl_venue (recover_one_leg_risk eng arb_id opp leg_yes leg_no) w r w'

/-! ## Section 2: What the fills earned -/

/-- The pairs that are held: filled on both sides and not sold back. -/
def PnlLog.matched (w : PnlLog) : ℕ :=
  min (w.filled .yes - w.sold .yes) (w.filled .no - w.sold .no)

/-- The fee of the matched contracts of one side, at the price they were filled at. -/
def PnlLog.fees (w : PnlLog) (opp : Opportunity) (side : Side) : ℚ :=
  compute_fee (opp.platform side) (w.paid side) w.matched (opp.fee_rate side)

/-- What the matched contracts earn: a dollar each, less cost and fees. -/
def PnlLog.matched_profit (w : PnlLog) (opp : Opportunity) : ℚ :=
  w.matched * (1 - w.paid .yes - w.paid .no) - w.fees opp .yes - w.fees opp .no

/-- What the execution earned. -/
def PnlLog.economics (w : PnlLog) (opp : Opportunity) : ℚ := w.matched_profit opp + w.unwound

/-- The rows of all other arbs. -/
def Store.without (s : Store) (arb_id : String) : Store := { s with arbs := s.arbs.erase arb_id }

/-- What the two sums of `realized_pnl_split` add up to. -/
def Store.split_total (s : Store) : ℚ :=
  s.profit (fun row => row.status ∈ settled_arb_statuses) +
    s.profit (fun row => row.status ∉ settled_arb_statuses)

/-- The row of the arb holds `pnl`, and the split counts it once. -/
def RowHolds (s : Store) (arb_id : String) (pnl : ℚ) : Prop :=
  (∃ row, s.arb arb_id = some row ∧ row.realized_pnl = pnl) ∧
    s.split_total = (s.without arb_id).split_total + pnl

/-- The daily counter, the row if it is written, and the split all hold `pnl`. -/
def Booked (rm : RiskManager) (arb_id : String) (pnl : ℚ) (w : PnlLog) : Prop :=
  w.risk.daily_pnl = rm.daily_pnl + pnl ∧ (w.recorded = true → RowHolds w.store arb_id pnl)

/-- Each row is in exactly one of the two sums. -/
theorem split_total_eq (s : Store) :
    s.split_total = (s.arbs.entries.map fun row => row.2.profit).sum := by
  unfold Store.split_total Store.profit
  induction s.arbs.entries with
  | nil => simp
  | cons row rows ih =>
    by_cases hsettled : row.2.status ∈ settled_arb_statuses
    · simp [hsettled] at ih ⊢
      linarith
    · simp [hsettled] at ih ⊢
      linarith

/-- The split over a written row. -/
theorem split_total_insert (s : Store) (arb_id : String) (row : ArbRow) :
    ({ s with arbs := s.arbs.insert arb_id row } : Store).split_total =
      (({ s with arbs := s.arbs.insert arb_id row } : Store).without arb_id).split_total +
        row.profit := by
  have herase : ((s.arbs.insert arb_id row).erase arb_id).entries =
      s.arbs.entries.kerase arb_id := by
    show (⟨arb_id, row⟩ :: s.arbs.entries.kerase arb_id : List _).kerase arb_id = _
    exact List.kerase_cons_eq rfl
  rw [split_total_eq, split_total_eq]
  unfold Store.without
  rw [herase, AList.entries_insert, List.map_cons, List.sum_cons, add_comm]

/-- What the split reads off a recorded execution, where the booked edge and the profit of
    an unwind exclude each other. -/
theorem recorded_profit {execution : ArbExecution} {edge pnl : ℚ} {row : Option ArbRow}
    (hunwind : execution.unwind_pnl = pnl) (hrealized : execution.realized_pnl = edge + pnl)
    (hone : edge = 0 ∨ pnl = 0) : (ArbRow.recorded execution row).profit = edge + pnl := by
  have hrow : (ArbRow.recorded execution row).realized_pnl = edge + pnl ∧
      (ArbRow.recorded execution row).unwind_pnl = pnl := by
    cases row with
    | none => exact ⟨hrealized, hunwind⟩
    | some row => exact ⟨hrealized, hunwind⟩
  unfold ArbRow.profit
  rw [hrow.1, hrow.2]
  split
  · rfl
  · rename_i hzero
    have hsum : edge + pnl = 0 := by simpa using hzero
    obtain h | h := hone <;> linarith

/-- `record_arb` puts the profit where the row and the split read it. -/
theorem rowHolds_record_arb (s : Store) {execution : ArbExecution} {edge pnl : ℚ}
    (hunwind : execution.unwind_pnl = pnl) (hrealized : execution.realized_pnl = edge + pnl)
    (hone : edge = 0 ∨ pnl = 0) : RowHolds (s.record_arb execution) execution.arb_id (edge + pnl) := by
  refine ⟨⟨_, record_arb_arb execution, ?_⟩, ?_⟩
  · cases s.arb execution.arb_id with
    | none => exact hrealized
    | some row => exact hrealized
  · have hsplit := split_total_insert s execution.arb_id
      (.recorded execution (s.arb execution.arb_id))
    rw [recorded_profit hunwind hrealized hone] at hsplit
    rw [split_total_eq, split_total_eq] at hsplit ⊢
    exact hsplit

/-! ## Section 3: The recovery -/

/-- What an unwind reported so far. -/
def PnlLog.reported (w : PnlLog) : ℚ := w.unwound - w.unreported

/-- The log of an execution while it recovers. -/
structure Recovering (rm : RiskManager) (leg_yes leg_no : Leg) (edge : ℚ) (w : PnlLog) : Prop where
  daily : w.risk.daily_pnl = rm.daily_pnl + edge
  legs : w.legs = some (leg_yes, leg_no)
  recorded : w.recorded = false

section recovery

variable {eng : Engine} {arb_id : String} {opp : Opportunity} {w : PnlLog}
variable {rm : RiskManager} {leg_yes leg_no : Leg} {edge : ℚ}

/-- No call of a recovery books or records. -/
theorem Recovering.serve {c : Call} {a : Answer c} {w' : PnlLog}
    (hw : Recovering rm leg_yes leg_no edge w) (hc : Recovers c)
    (hs : pnl_venue.serve w c a w') : Recovering rm leg_yes leg_no edge w' := by
  obtain ⟨hdaily, hlegs, hrecorded⟩ := hw
  cases c with
  -- the release moves exposure only, with a profit of zero
  | release_trade canonical_id exposure alloc =>
    rw [show w' = _ from hs]
    refine ⟨?_, hlegs, hrecorded⟩
    show w.risk.daily_pnl + 0 = _
    rw [add_zero, hdaily]
  | get_order platform leg =>
    cases a with
    | ok r =>
      rw [show w' = _ from hs]
      exact ⟨hdaily, hlegs, hrecorded⟩
    | error err =>
      rw [show w' = w from hs]
      exact ⟨hdaily, hlegs, hrecorded⟩
  | smart_unwind id leg qty =>
    cases a with
    | ok order =>
      rw [show w' = _ from hs]
      exact ⟨hdaily, hlegs, hrecorded⟩
    | error err =>
      -- the unwind may have sold some contracts before it raised; nothing of that is reported
      obtain ⟨n, proceeds, rfl⟩ := hs
      exact ⟨hdaily, hlegs, hrecorded⟩
  | upsert_order order id client_order_id =>
    obtain rfl | ⟨-, rfl⟩ := hs
    · exact ⟨hdaily, hlegs, hrecorded⟩
    · exact ⟨hdaily, hlegs, hrecorded⟩
  | mark_naked_leg_reconciled id pnl note =>
    obtain rfl | ⟨-, rfl⟩ := hs
    · exact ⟨hdaily, hlegs, hrecorded⟩
    · exact ⟨hdaily, hlegs, hrecorded⟩
  | record_incident | handle_one_leg_exposure | cancel_order | handle_db_failure
  | auto_resolve_recovery_incidents =>
    rw [show w' = w from hs]
    exact ⟨hdaily, hlegs, hrecorded⟩
  | _ => exact hc.elim

/-- Only an unwind changes what is reported. -/
def NoSale : Call → Prop
  | .smart_unwind .. => False
  | .append_execution _ => False
  | _ => True

theorem reported_serve {c : Call} {a : Answer c} {w' : PnlLog} {q : ℚ} (hc : NoSale c)
    (hs : pnl_venue.serve w c a w') (hw : w.reported = q) : w'.reported = q := by
  cases c with
  | smart_unwind => exact hc.elim
  | append_execution => exact hc.elim
  | get_order platform leg =>
    cases a with
    | ok r =>
      rw [show w' = _ from hs]
      exact hw
    | error err => rwa [show w' = w from hs]
  | upsert_order | mark_naked_leg_reconciled | record_arb =>
    obtain rfl | ⟨-, rfl⟩ := hs
    · exact hw
    · exact hw
  | record_trade | release_trade | maybe_halt_on_daily_loss =>
    rw [show w' = _ from hs]
    exact hw
  | _ => rwa [show w' = w from hs]

theorem Prepares.noSale {c : Call} (hc : Prepares c) : NoSale c := by
  cases c <;> first | exact hc | trivial

/-- A program of such calls goes first: the report is as it was. -/
theorem wp_noSale {α β : Type} {p : Exe α} {f : α → Exe β} {Q : β → PnlLog → Prop} {q : ℚ}
    (hp : p.Calls NoSale) (hw : w.reported = q)
    (hf : ∀ a w', w'.reported = q → wp pnl_venue (f a) Q w') : wp pnl_venue (p >>= f) Q w := by
  have hkept := hp.keeps (E := pnl_venue) (fun _ _ _ _ hc hs h => reported_serve hc hs h) hw
  exact wp_bind.2 (wp_mono hkept fun a w' h => hf a w' h)

/-- The profit an unwind returns is what it reported. -/
private theorem unwind_reports {filled_leg : Leg} {target : ℕ} {q : ℚ} (hw : w.reported = q) :
    wp pnl_venue (unwind eng arb_id opp filled_leg target)
      (fun r w' => w'.reported = q + r.2) w := by
  unfold unwind
  rw [wp_ite]
  constructor
  · intro _
    refine wp_bind.2 (wp_send.2 fun answer w₁ hs => ?_)
    -- a sale that raises may have sold: its profit is booked as unreported
    cases answer with
    | error err =>
      obtain ⟨n, proceeds, rfl⟩ := hs
      have hq : ({ w.sell filled_leg n proceeds with
          unreported := w.unreported + (proceeds - n * filled_leg.fill_price) } : PnlLog).reported =
          q := by
        rw [← hw]
        unfold PnlLog.reported PnlLog.sell
        ring
      refine wp_noSale (calls_send.2 trivial) hq fun _ w₂ h₂ => ?_
      refine wp_noSale (calls_send.2 trivial) h₂ fun _ w₃ h₃ => wp_pure.2 ?_
      rw [h₃, add_zero]
    | ok order =>
      have hq : w₁.reported = q + order.fill_qty * (order.fill_price - filled_leg.fill_price) := by
        rw [show w₁ = _ from hs, ← hw]
        unfold PnlLog.reported PnlLog.sell
        ring
      simp only [wp_ite]
      constructor
      · intro _
        refine wp_noSale (calls_send.2 trivial) hq fun _ w₂ h₂ => ?_
        refine wp_noSale (calls_send.2 trivial) h₂ fun _ w₃ h₃ => ?_
        refine wp_noSale (calls_send.2 trivial) h₃ fun _ w₄ h₄ => ?_
        exact wp_noSale (reconcile_naked_leg_marks fun _ => trivial) h₄ fun _ w₅ h₅ => wp_pure.2 h₅
      · intro hnone
        have hzero : order.fill_qty = 0 := by omega
        refine wp_pure.2 ?_
        rw [hq, hzero, Nat.cast_zero, zero_mul]
  · intro _
    exact wp_pure.2 (by rw [hw, add_zero])

private theorem close_exposure_reports {unhedged_leg counterpart : Leg} {qty : ℕ} {q : ℚ}
    (hw : w.reported = q) :
    wp pnl_venue (close_exposure eng arb_id opp unhedged_leg counterpart qty)
      (fun r w' => w'.reported = q + r.2.1) w := by
  unfold close_exposure
  refine wp_noSale (verify_before_unwind_prepares.mono fun _ => Prepares.noSale) hw ?_
  rintro ⟨target, notes, left⟩ w₁ h₁
  cases target with
  | none => exact wp_pure.2 (by rw [h₁, add_zero])
  | some t => exact wp_bind.2 (wp_mono (unwind_reports h₁) fun _ _ h => wp_pure.2 h)

/-- **A recovery returns the profit it reported.** -/
theorem recover_reports {q : ℚ} (hw : w.reported = q) :
    wp pnl_venue (recover_one_leg_risk eng arb_id opp leg_yes leg_no)
      (fun r w' => w'.reported = q + r.unwind_pnl) w := by
  unfold recover_one_leg_risk
  refine wp_noSale (announce_exposure_prepares.mono fun _ => Prepares.noSale) hw fun _ w₁ h₁ => ?_
  refine wp_noSale (cancel_open_leg_prepares.mono fun _ => Prepares.noSale) h₁ ?_
  rintro ⟨yes_notes, left_yes⟩ w₂ h₂
  refine wp_noSale (cancel_open_leg_prepares.mono fun _ => Prepares.noSale) h₂ ?_
  rintro ⟨no_notes, left_no⟩ w₃ h₃
  refine wp_close_unhedged (fun | .yes => left_yes | .no => left_no) ?_ ?_
  · intro _ out hzero
    rw [h₃, hzero, add_zero]
  · intro s qty _
    refine wp_mono (close_exposure_reports h₃) fun r w₄ h₄ out hpnl => ?_
    rw [h₄, hpnl]

end recovery

/-! ## Section 4: The execution -/

/-- What is booked for the matched contracts: the quoted edge, when both legs are done. -/
def booked_edge (opp : Opportunity) (leg_yes leg_no : Leg) : ℚ :=
  if (classify leg_yes leg_no).1 = .filled ∨ (classify leg_yes leg_no).1 = .submitted then
    opp.net_edge * min leg_yes.fill_qty leg_no.fill_qty
  else 0

/-- The log of an execution at its end. -/
structure Settled (opp : Opportunity) (arb_id : String) (rm : RiskManager) (leg_yes leg_no : Leg)
    (w : PnlLog) : Prop where
  booked : Booked rm arb_id (booked_edge opp leg_yes leg_no + w.reported) w
  /-- Where no recovery ran, the fills are those of the legs, and nothing was sold. -/
  kept : (classify leg_yes leg_no).2 = false →
    w.filled = both leg_yes.fill_qty leg_no.fill_qty ∧ (∀ s, w.sold s = 0) ∧
      w.unwound = 0 ∧ w.unreported = 0

/-- The quoted edge is what the matched contracts earned; where it is not booked, they
    and the sales nobody reported earned nothing. -/
def EdgeRealized (opp : Opportunity) (leg_yes leg_no : Leg) (w : PnlLog) : Prop :=
  if (classify leg_yes leg_no).1 = .filled ∨ (classify leg_yes leg_no).1 = .submitted then
    opp.net_edge * w.matched = w.matched_profit opp
  else w.matched_profit opp + w.unreported = 0

/-- An execution that books an edge needs no recovery. -/
theorem no_recovery_of_done {leg_yes leg_no : Leg}
    (h : (classify leg_yes leg_no).1 = .filled ∨ (classify leg_yes leg_no).1 = .submitted) :
    (classify leg_yes leg_no).2 = false := by
  by_contra hneeds
  have hrecovering := classify_recovering (by simpa using hneeds)
  rw [hrecovering] at h
  exact absurd h (by decide)

theorem Settled.iff {opp : Opportunity} {arb_id : String} {rm : RiskManager}
    {leg_yes leg_no : Leg} {w : PnlLog} (h : Settled opp arb_id rm leg_yes leg_no w) :
    Booked rm arb_id (w.economics opp) w ↔ EdgeRealized opp leg_yes leg_no w := by
  -- what is booked is the edge and the reported unwind: compare that sum with the economics
  have hpnl : Booked rm arb_id (w.economics opp) w ↔
      booked_edge opp leg_yes leg_no + w.reported = w.economics opp := by
    constructor
    · intro hbooked
      have hdaily := h.booked.1.symm.trans hbooked.1
      linarith
    · intro heq
      rw [← heq]
      exact h.booked
  rw [hpnl]
  unfold EdgeRealized booked_edge
  split
  · rename_i hdone
    obtain ⟨hfilled, hsold, hunwound, hunreported⟩ := h.kept (no_recovery_of_done hdone)
    have hmatched : w.matched = min leg_yes.fill_qty leg_no.fill_qty := by
      unfold PnlLog.matched
      rw [hfilled, hsold, hsold]
      rfl
    rw [hmatched]
    unfold PnlLog.economics PnlLog.reported
    rw [hunwound, hunreported]
    push_cast
    constructor
    · intro heq
      linarith
    · intro heq
      linarith
  · unfold PnlLog.economics PnlLog.reported
    constructor
    · intro heq
      linarith
    · intro heq
      linarith

section live

variable {eng : Engine} {cfg : LiveConfig} {arb_id : String} {opp : Opportunity}
variable {rm : RiskManager} {leg_yes leg_no : Leg} {w : PnlLog}

/-- The last write. -/
private theorem persist_arb_books {execution : ArbExecution} {edge pnl : ℚ}
    (hid : execution.arb_id = arb_id) (hunwind : execution.unwind_pnl = pnl)
    (hrealized : execution.realized_pnl = edge + pnl) (hone : edge = 0 ∨ pnl = 0)
    (hdaily : w.risk.daily_pnl = rm.daily_pnl + (edge + pnl)) (hrecorded : w.recorded = false) :
    wp (live_pnl eng) (persist_arb eng opp execution)
      (fun _ w' => w' = { w with store := w'.store, recorded := w'.recorded } ∧
        Booked rm arb_id (edge + pnl) w') w := by
  have hunwritten : Booked rm arb_id (edge + pnl) w :=
    ⟨hdaily, fun h => absurd h (by simp [hrecorded])⟩
  unfold persist_arb
  rw [wp_ite]
  constructor
  · intro _
    have hwritten : wp (live_pnl eng) (ask (.record_arb execution))
        (fun _ w' => w' = { w with store := w'.store, recorded := w'.recorded } ∧
          Booked rm arb_id (edge + pnl) w') w := by
      refine wp_send.2 fun answer w' hs => ?_
      -- the row is written with both parts of the profit, one of which is zero, or not at all
      obtain rfl | ⟨-, rfl⟩ := hs
      · subst hid
        exact ⟨rfl, hdaily, fun _ => rowHolds_record_arb w.store hunwind hrealized hone⟩
      · exact ⟨rfl, hunwritten⟩
    refine wp_bind.2 (wp_mono hwritten fun answer w₁ h₁ => ?_)
    cases answer with
    | ok _ => exact wp_pure.2 h₁
    | error err =>
      refine wp_send.2 fun _ w₂ hs => ?_
      rw [show w₂ = w₁ from hs]
      exact h₁
  · intro _
    exact wp_pure.2 ⟨rfl, hunwritten⟩

/-- Nothing has been booked or sold yet. -/
structure Unbooked (rm : RiskManager) (w : PnlLog) : Prop where
  daily : w.risk.daily_pnl = rm.daily_pnl
  recorded : w.recorded = false
  legs : w.legs = none
  sold : ∀ s, w.sold s = 0
  unwound : w.unwound = 0
  unreported : w.unreported = 0

/-- Booking adds the edge to the daily counter, and nothing else. -/
private theorem book_execution_daily {booked : Option RiskManager.Booked} {edge : ℚ}
    (hedge : booked = none → edge = 0) :
    wp (live_pnl eng) (book_execution opp edge booked)
      (fun _ w' => w' = { w with risk := w'.risk } ∧
        w'.risk.daily_pnl = w.risk.daily_pnl + edge) w := by
  cases booked with
  | none => exact wp_ret.2 ⟨rfl, by rw [hedge rfl, add_zero]⟩
  | some b =>
    refine wp_send.2 fun _ w' hs => ?_
    rw [show w' = _ from hs]
    exact ⟨rfl, rfl⟩

/-- Nothing is booked only where there is no edge to book. -/
private theorem booking_none {status : ExecStatus} {edge : ℚ}
    (h : booking leg_yes leg_no status = none) :
    (if status = .filled ∨ status = .submitted then edge else 0) = 0 := by
  cases status <;> simp_all [booking]

private theorem settle_books (hw : Unbooked rm w) :
    wp (live_pnl eng) (settle eng arb_id opp leg_yes leg_no)
      (fun _ w' => w'.legs = some (leg_yes, leg_no) ∧ Settled opp arb_id rm leg_yes leg_no w') w := by
  have hedge : ∀ status needs_recovery, classify leg_yes leg_no = (status, needs_recovery) →
      booked_edge opp leg_yes leg_no = if status = .filled ∨ status = .submitted then
        opp.net_edge * min leg_yes.fill_qty leg_no.fill_qty else 0 := by
    intro status needs_recovery hclassify
    unfold booked_edge
    rw [hclassify]
  unfold settle
  generalize hclassify : classify leg_yes leg_no = outcome
  obtain ⟨status, needs_recovery⟩ := outcome
  have hedge := hedge status needs_recovery hclassify
  -- a recovering execution books no edge
  have hnone : needs_recovery = true → booked_edge opp leg_yes leg_no = 0 := by
    intro hneeds
    have hstatus := @classify_recovering leg_yes leg_no
    rw [hclassify] at hstatus
    have hrecovering : status = .recovering := hstatus hneeds
    rw [hedge, hrecovering]
    exact if_neg (by decide)
  refine wp_bind.2 (wp_send.2 fun _ w₁ hs => ?_)
  obtain rfl : w₁ = { w with
    legs := some (leg_yes, leg_no), filled := both leg_yes.fill_qty leg_no.fill_qty
    paid := both leg_yes.fill_price leg_no.fill_price } := hs
  refine wp_bind.2 (wp_mono (book_execution_daily booking_none) ?_)
  rintro _ w₂ ⟨hw₂, hdaily⟩
  have hdaily₂ : w₂.risk.daily_pnl = rm.daily_pnl + booked_edge opp leg_yes leg_no := by
    rw [hdaily, ← hw.daily, hedge]
  have hlegs₂ : w₂.legs = some (leg_yes, leg_no) := by rw [hw₂]
  have hrecorded₂ : w₂.recorded = false := by rw [hw₂]; exact hw.recorded
  have hreported₂ : w₂.reported = 0 := by
    rw [hw₂]
    show w.unwound - w.unreported = 0
    rw [hw.unwound, hw.unreported, sub_zero]
  rw [← hedge]
  cases needs_recovery with
  | false =>
    rw [recover_if_needed, if_neg Bool.false_ne_true]
    refine wp_bind.2 (wp_ret.2 (wp_bind.2 (wp_send.2 fun _ w₃ hs => ?_)))
    obtain rfl : w₃ = { w₂ with
      risk := { w₂.risk with daily_pnl := w₂.risk.daily_pnl + 0 } } := hs
    have hdaily₃ : w₂.risk.daily_pnl + 0 =
        rm.daily_pnl + (booked_edge opp leg_yes leg_no + 0) := by rw [hdaily₂]; ring
    refine wp_bind.2 (wp_mono (persist_arb_books rfl rfl rfl (.inr rfl) hdaily₃ hrecorded₂) ?_)
    rintro _ w₄ ⟨hw₄, hbooked⟩
    have hreported₄ : w₄.reported = 0 := by rw [hw₄]; exact hreported₂
    refine wp_pure.2 ⟨by rw [hw₄]; exact hlegs₂, ?_, fun _ => ?_⟩
    · rw [hreported₄]
      exact hbooked
    · rw [hw₄, hw₂]
      exact ⟨rfl, hw.sold, hw.unwound, hw.unreported⟩
  | true =>
    rw [recover_if_needed, if_pos rfl, wp_bind, call_recover_one_leg_risk, wp_send]
    intro recovered w₃ hrun
    have hreported₃ := recover_reports hreported₂ _ _ hrun
    have hrecovering₃ : Recovering rm leg_yes leg_no (booked_edge opp leg_yes leg_no) w₃ :=
      recover_one_leg_risk_recovers.keeps (fun _ _ _ _ hc hs h => h.serve hc hs)
        ⟨hdaily₂, hlegs₂, hrecorded₂⟩ _ _ hrun
    refine wp_bind.2 (wp_send.2 fun _ w₄ hs => ?_)
    obtain rfl : w₄ = { w₃ with
      risk := { w₃.risk with daily_pnl := w₃.risk.daily_pnl + recovered.unwind_pnl } } := hs
    have hdaily₄ : w₃.risk.daily_pnl + recovered.unwind_pnl =
        rm.daily_pnl + (booked_edge opp leg_yes leg_no + recovered.unwind_pnl) := by
      rw [hrecovering₃.daily]; ring
    refine wp_bind.2 (wp_mono (persist_arb_books rfl rfl rfl (.inl (hnone rfl)) hdaily₄
      hrecovering₃.recorded) ?_)
    rintro _ w₅ ⟨hw₅, hbooked⟩
    have hreported₅ : w₅.reported = recovered.unwind_pnl := by
      rw [hw₅]
      show w₃.reported = _
      rw [hreported₃, zero_add]
    refine wp_pure.2 ⟨by rw [hw₅]; exact hrecovering₃.legs, ?_, fun h => ?_⟩
    · rw [hreported₅]
      exact hbooked
    · rw [hclassify] at h
      exact absurd h (by simp)

/-- Placing the legs books nothing. -/
private theorem execute_legs_unbooked (hw : Unbooked rm w) :
    wp (live_pnl eng) (execute_legs eng cfg arb_id opp) (fun _ => Unbooked rm) w := by
  refine execute_legs_calls.keeps (fun w c a w' hc hs hw => ?_) hw
  obtain ⟨hdaily, hrecorded, hlegs, hsold, hunwound, hunreported⟩ := hw
  cases c with
  | outside c =>
    cases c with
    | record_incident | handle_one_leg_exposure | balance | check_depth | best_executable_price
    | sleep =>
      rw [show w' = w from hs]
      exact ⟨hdaily, hrecorded, hlegs, hsold, hunwound, hunreported⟩
    | _ => exact hc.elim
  | place_order_for_leg | execute_with_fallbacks =>
    obtain ⟨store, rfl⟩ := hs
    exact ⟨hdaily, hrecorded, hlegs, hsold, hunwound, hunreported⟩
  | recover_one_leg_risk => exact hc.elim

end live

/-! ### Ten contracts filled on both sides -/

/-- The NO leg of `ten_across`, filled at its quote. -/
def ten_filled_no : Leg :=
  { Order.synthetic "0x9" "polymarket" "0x1" "mkt-1" .no (2 / 5) 10 .filled "" with
    fill_qty := 10, fill_price := 2 / 5 }

/-- The edge of `ten_across` after both fees. -/
def quoted_edge : ℚ := 1734 / 10000

/-- The log of `ten_across` with its YES leg filled at `price`, before it is settled. -/
def both_filled_log (price : ℚ≥0) : PnlLog :=
  { PnlLog.start ⟨∅, ∅⟩ (.fresh 1) with
    risk := (RiskManager.fresh 1).record_trade "mkt-1" (across_at quoted_edge).exposure
      (quoted_edge * min 10 10) (RiskManager.Booked.both.allocation (across_at quoted_edge))
    legs := some (bought_at price, ten_filled_no)
    filled := both 10 10
    paid := both price (2 / 5) }

/-- And when it is. -/
def both_filled_end (price : ℚ≥0) : PnlLog :=
  { both_filled_log price with
    risk := { (both_filled_log price).risk with
      daily_pnl := (both_filled_log price).risk.daily_pnl + 0 } }

/-- Both legs fill, and there is nothing to recover. -/
private theorem both_filled_run (price : ℚ≥0) :
    ∃ r, Exec (live_pnl (trading_engine false)) (live_execution (trading_engine false)
      kalshi_first_config "ARB-000001" (across_at quoted_edge)) (.start ⟨∅, ∅⟩ (.fresh 1)) r
      (both_filled_end price) := by
  have hplace : (live_pnl (trading_engine false)).serve (.start ⟨∅, ∅⟩ (.fresh 1))
      (.place_order_for_leg "kalshi" ten_across_primary true
        (some ⟨across_at quoted_edge, some quoted_edge⟩))
      (.ok (bought_at price)) (.start ⟨∅, ∅⟩ (.fresh 1)) := ⟨⟨∅, ∅⟩, rfl⟩
  have hchain : ∀ leg skip, (live_pnl (trading_engine false)).serve (.start ⟨∅, ∅⟩ (.fresh 1))
      (.execute_with_fallbacks leg skip) (.ok (some ten_filled_no))
      (.start ⟨∅, ∅⟩ (.fresh 1)) := fun _ _ => ⟨⟨∅, ∅⟩, rfl⟩
  have hsecond : Exec (live_pnl (trading_engine false)) (place_secondary (trading_engine false)
      kalshi_first_config "ARB-000001" (across_at quoted_edge) .no (bought_at price) 10)
      (.start ⟨∅, ∅⟩ (.fresh 1))
      { primary_side := .yes, primary := bought_at price, secondary := ten_filled_no
        secondary_exception := none } (.start ⟨∅, ∅⟩ (.fresh 1)) :=
    .call (hchain _ _) (.ret _ _)
  have hlegs := ten_across_run (trading_engine false) rfl quoted_edge (E := live_pnl (trading_engine false))
    (fun _ => rfl) rfl rfl hplace hsecond
  have hsettled : ∃ execution, Exec (live_pnl (trading_engine false)) (settle (trading_engine false)
      "ARB-000001" (across_at quoted_edge) (bought_at price) ten_filled_no)
      (.start ⟨∅, ∅⟩ (.fresh 1)) execution (both_filled_end price) := by
    -- the execution is appended before its profit is booked
    let appended : PnlLog := { both_filled_log price with risk := .fresh 1 }
    have happend : ∀ e : ArbExecution, e.leg_yes = bought_at price → e.leg_no = ten_filled_no →
        (live_pnl (trading_engine false)).serve (.start ⟨∅, ∅⟩ (.fresh 1))
        (.outside (.append_execution e)) () appended := by
      intro e hyes hno
      show appended = _
      rw [hyes, hno]
      rfl
    have hbook : (live_pnl (trading_engine false)).serve appended
        (.outside (.record_trade "mkt-1" (across_at quoted_edge).exposure (quoted_edge * min 10 10)
          (RiskManager.Booked.both.allocation (across_at quoted_edge)))) ()
        (both_filled_log price) := rfl
    have hhalt : (live_pnl (trading_engine false)).serve (both_filled_log price)
        (.outside (.maybe_halt_on_daily_loss 0)) () (both_filled_end price) := rfl
    exact ⟨_, .call (happend _ rfl rfl) (.call hbook (.call hhalt (.ret _ _)))⟩
  obtain ⟨execution, hsettled⟩ := hsettled
  exact ⟨_, exec_bind.2 ⟨_, _, hlegs, exec_bind.2 ⟨_, _, hsettled, .ret _ _⟩⟩⟩

end Execution
