import Arbiter.Execution.Live
import Arbiter.Execution.Store

/-! # Closed Arbs

  A complete unwind closes the row of its arb: `mark_naked_leg_reconciled` runs inside
  the recovery. The execution that entered the recovery was classified as recovering
  before, and writes that status over the row when it is done.

  ## Contents

  - Section 1: the tables during an execution.
  - Section 2: the recovery writes nothing after the mark.
  - Section 3: the execution does, and when the row stays closed.
-/

namespace Execution

open Effect

/-! ## Section 1: The tables during an execution -/

/-- The store, and what became of one arb's row. -/
structure RowLog where
  store : Store
  /-- The profit of a mark that found the row and no open order. -/
  closing : Option ℚ
  /-- A write after it left the row open again, or with another profit. -/
  undone : Bool
  /-- `record_arb` was written. -/
  recorded : Bool

/-- Before the execution. -/
def RowLog.start (store : Store) : RowLog where
  store := store
  closing := none
  undone := false
  recorded := false

/-- The row is over, with this profit of the unwind. -/
def ClosedWith (pnl : ℚ) (row : Option ArbRow) : Prop :=
  ∃ r, row = some r ∧ r.status ∈ terminal_arb_statuses ∧ r.unwind_pnl = pnl

instance (pnl : ℚ) (row : Option ArbRow) : Decidable (ClosedWith pnl row) :=
  match row with
  | none => isFalse fun ⟨_, h, _⟩ => nomatch h
  | some r => decidable_of_iff (r.status ∈ terminal_arb_statuses ∧ r.unwind_pnl = pnl)
      ⟨fun h => ⟨r, rfl, h⟩, fun ⟨_, h, hr⟩ => by cases h; exact hr⟩

/-- The log after a write that leaves the tables as `store`. -/
def RowLog.wrote (w : RowLog) (arb_id : String) (store : Store) : RowLog :=
  { w with
    store := store
    undone := w.undone || w.closing.any fun pnl => !decide (ClosedWith pnl (store.arb arb_id)) }

/-- The mark found the row of the arb and no open order of it. -/
def RowLog.marked (w : RowLog) (arb_id : String) (pnl : ℚ) : Option ℚ :=
  if (w.store.arb arb_id).isSome ∧ w.store.has_open_order arb_id = false then some pnl
  else w.closing

/-- A write that is answered took effect; one that raises may have. -/
def written {W : Type} (w : W) (answer : Except String Unit) (after w' : W) : Prop :=
  w' = after ∨ (answer ≠ .ok () ∧ w' = w)

/-- The writes of the store, and every other call answered in any way. -/
def row_env (arb_id : String) : Env Call Answer RowLog where
  serve := fun w c a w' =>
    match c, a with
    | .upsert_order order id client_order_id, a =>
        written w a (w.wrote arb_id
          ((w.store.upsert_order order.columns (some id) client_order_id).getD w.store)) w'
    | .record_arb_stub_with_leg id canonical_id first_leg stub client_order_id, a =>
        written w a (w.wrote arb_id (w.store.record_arb_stub_with_leg id canonical_id
          first_leg.columns stub.net_edge client_order_id)) w'
    | .mark_naked_leg_reconciled id unwind_pnl note, a =>
        written w a
          { w.wrote arb_id (w.store.mark_naked_leg_reconciled id unwind_pnl note) with
            closing := if id = arb_id then w.marked arb_id unwind_pnl else w.closing } w'
    | .record_arb execution, a =>
        written w a { w.wrote arb_id (w.store.record_arb execution) with recorded := true } w'
    | _, _ => w' = w

/-- `_live_execution` over those tables. Placing the legs writes stubs and orders, but
    closes nothing; the recovery is a run of its program. -/
def live_rows (eng : Engine) (arb_id : String) : Env Proc Outcomes RowLog where
  serve := fun w p r w' =>
    match p, r with
    | .outside c, a => (row_env arb_id).serve w c a w'
    | .place_order_for_leg .., _ => ∃ store, w' = w.wrote arb_id store
    | .execute_with_fallbacks .., _ => ∃ store, w' = w.wrote arb_id store
    | .recover_one_leg_risk id opp leg_yes leg_no, r =>
        Exec (row_env arb_id) (recover_one_leg_risk eng id opp leg_yes leg_no) w r w'

/-! ## Section 2: The recovery -/

/-- Nothing has been closed yet. -/
structure Untouched (w : RowLog) : Prop where
  closing : w.closing = none
  undone : w.undone = false
  recorded : w.recorded = false

theorem Untouched.wrote {w : RowLog} (hw : Untouched w) (arb_id : String) (store : Store) :
    Untouched (w.wrote arb_id store) := by
  refine ⟨hw.closing, ?_, hw.recorded⟩
  show (w.undone || w.closing.any _) = false
  rw [hw.undone, hw.closing]
  rfl

/-- The calls that neither close the row nor record the execution. -/
def BeforeMark : Call → Prop
  | .mark_naked_leg_reconciled .. => False
  | .record_arb _ => False
  | _ => True

theorem Untouched.serve {w w' : RowLog} {arb_id : String} {c : Call} {a : Answer c}
    (hw : Untouched w) (hc : BeforeMark c) (hs : (row_env arb_id).serve w c a w') :
    Untouched w' := by
  cases c with
  | mark_naked_leg_reconciled => exact hc.elim
  | record_arb => exact hc.elim
  | upsert_order =>
    obtain rfl | ⟨-, rfl⟩ := hs
    · exact hw.wrote arb_id _
    · exact hw
  | record_arb_stub_with_leg =>
    obtain rfl | ⟨-, rfl⟩ := hs
    · exact hw.wrote arb_id _
    · exact hw
  | _ =>
    rw [show w' = w from hs]
    exact hw

section recovery

variable {eng : Engine} {arb_id : String} {opp : Opportunity} {w : RowLog}

/-- Programs of such calls leave the row untouched. -/
theorem untouched_by {α : Type} {p : Exe α} (hp : p.Calls BeforeMark) (hw : Untouched w) :
    wp (row_env arb_id) p (fun _ => Untouched) w :=
  hp.keeps (fun _ _ _ _ hc hs h => h.serve hc hs) hw

theorem Prepares.beforeMark {c : Call} (hc : Prepares c) : BeforeMark c := by
  cases c <;> first | exact hc | trivial

theorem untouched_preparing {α : Type} {p : Exe α} (hp : p.Calls Prepares) (hw : Untouched w) :
    wp (row_env arb_id) p (fun _ => Untouched) w :=
  untouched_by (hp.mono fun _ => Prepares.beforeMark) hw

/-- Nothing was undone, and the execution is not recorded. -/
def Unrecorded (w : RowLog) : Prop := w.undone = false ∧ w.recorded = false

theorem Untouched.unrecorded (hw : Untouched w) : Unrecorded w := ⟨hw.undone, hw.recorded⟩

/-- The mark itself undoes nothing. -/
private theorem reconcile_unrecorded {id : String} {filled_leg order : Leg} {target : ℕ} {pnl : ℚ}
    (hw : Untouched w) :
    wp (row_env arb_id) (reconcile_naked_leg eng id filled_leg order target pnl)
      (fun _ => Unrecorded) w := by
  unfold reconcile_naked_leg
  rw [wp_ite]
  constructor
  · intro _
    refine wp_bind.2 (wp_send.2 fun answer w' hs => wp_pure.2 ?_)
    obtain rfl | ⟨-, rfl⟩ := hs
    · exact (hw.wrote arb_id _).unrecorded
    · exact hw.unrecorded
  · intro _
    exact wp_pure.2 hw.unrecorded

private theorem unwind_unrecorded {id : String} {filled_leg : Leg} {target : ℕ}
    (hw : Untouched w) :
    wp (row_env arb_id) (unwind eng id opp filled_leg target) (fun _ => Unrecorded) w := by
  -- every call before the mark leaves the row alone, and the mark is the last one
  have hbefore : ∀ {c : Call} {a : Answer c} {w w' : RowLog}, BeforeMark c → Untouched w →
      (row_env arb_id).serve w c a w' → Untouched w' := fun hc h hs => h.serve hc hs
  unfold unwind
  rw [wp_ite]
  constructor
  · intro _
    refine wp_bind.2 (wp_send.2 fun answer w₁ hs => ?_)
    have h₁ := hbefore (c := .smart_unwind ..) trivial hw hs
    cases answer with
    | error _ =>
      refine wp_bind.2 (wp_send.2 fun _ w₂ hs => wp_bind.2 (wp_send.2 fun _ w₃ hs' => wp_pure.2 ?_))
      have h₂ := hbefore (c := .release_trade ..) trivial h₁ hs
      exact (hbefore (c := .record_incident _) trivial h₂ hs').unrecorded
    | ok order =>
      simp only [wp_ite]
      constructor
      · intro _
        refine wp_bind.2 (wp_send.2 fun _ w₂ hs => ?_)
        have h₂ := hbefore (c := .release_trade ..) trivial h₁ hs
        refine wp_bind.2 (wp_send.2 fun _ w₃ hs => ?_)
        have h₃ := hbefore (c := .record_incident _) trivial h₂ hs
        refine wp_bind.2 (wp_send.2 fun _ w₄ hs => ?_)
        have h₄ := hbefore (c := .auto_resolve_recovery_incidents ..) trivial h₃ hs
        exact wp_bind.2 (wp_mono (reconcile_unrecorded h₄) fun _ _ h => wp_pure.2 h)
      · intro _
        exact wp_pure.2 h₁.unrecorded
  · intro _
    exact wp_pure.2 hw.unrecorded

private theorem close_exposure_unrecorded {id : String} {unhedged_leg counterpart : Leg} {qty : ℕ}
    (hw : Untouched w) :
    wp (row_env arb_id) (close_exposure eng id opp unhedged_leg counterpart qty)
      (fun _ => Unrecorded) w := by
  unfold close_exposure
  refine wp_bind.2 (wp_mono (untouched_preparing verify_before_unwind_prepares hw) ?_)
  rintro ⟨target, notes, held⟩ w₁ hw₁
  cases target with
  | none => exact wp_pure.2 hw₁.unrecorded
  | some t => exact wp_bind.2 (wp_mono (unwind_unrecorded hw₁) fun _ _ h => wp_pure.2 h)

/-- A recovery may close the row, and writes nothing to it afterwards. -/
theorem recover_unrecorded {id : String} {leg_yes leg_no : Leg} (hw : Untouched w) :
    wp (row_env arb_id) (recover_one_leg_risk eng id opp leg_yes leg_no)
      (fun _ => Unrecorded) w := by
  unfold recover_one_leg_risk
  refine wp_bind.2 (wp_mono (untouched_preparing announce_exposure_prepares hw) fun _ w₁ h₁ => ?_)
  refine wp_bind.2 (wp_mono (untouched_preparing cancel_open_leg_prepares h₁) ?_)
  rintro ⟨yes_notes, left_yes⟩ w₂ h₂
  refine wp_bind.2 (wp_mono (untouched_preparing cancel_open_leg_prepares h₂) ?_)
  rintro ⟨no_notes, left_no⟩ w₃ h₃
  refine wp_close_unhedged (fun s => Side.casesOn s left_yes left_no) ?_ ?_
  · intro _ _ _
    exact h₃.unrecorded
  · intro s qty _
    exact wp_mono (close_exposure_unrecorded h₃) fun _ _ h _ _ => h

end recovery

/-! ## Section 3: The execution -/

/-- The row is left as the mark closed it, unless the execution is recorded over it. -/
def ClosedUnlessRecorded (w : RowLog) : Prop :=
  w.undone = false ↔ ¬ (w.closing.isSome = true ∧ w.recorded = true)

theorem Unrecorded.closed {w : RowLog} (hw : Unrecorded w) : ClosedUnlessRecorded w := by
  unfold ClosedUnlessRecorded
  simp [hw.1, hw.2]

section live

variable {eng : Engine} {cfg : LiveConfig} {arb_id : String} {opp : Opportunity} {w : RowLog}

/-- A recovering execution does not leave a closed row. -/
theorem recorded_not_closed {execution : ArbExecution} {pnl : ℚ} {row : Option ArbRow}
    (hstatus : execution.status = .recovering) :
    ¬ ClosedWith pnl (some (.recorded execution row)) := by
  rintro ⟨r, hr, hterminal, -⟩
  have hopen : r.status = "recovering" := by
    cases hr
    cases row with
    | none => exact congrArg ExecStatus.value hstatus
    | some row => exact congrArg ExecStatus.value hstatus
  rw [hopen] at hterminal
  exact absurd hterminal (by decide)

/-- The last write of an execution whose recovery has run. -/
private theorem persist_recovered {execution : ArbExecution} (hid : execution.arb_id = arb_id)
    (hstatus : execution.status = .recovering) (hw : Unrecorded w) :
    wp (live_rows eng arb_id) (persist_arb eng opp execution) (fun _ => ClosedUnlessRecorded) w := by
  unfold persist_arb
  rw [wp_ite]
  constructor
  · intro _
    have hwritten : wp (live_rows eng arb_id) (ask (.record_arb execution))
        (fun _ => ClosedUnlessRecorded) w := by
      refine wp_send.2 fun answer w' hs => ?_
      obtain rfl | ⟨-, rfl⟩ := hs
      · show (w.undone || w.closing.any fun pnl => !decide (ClosedWith pnl _)) = false ↔ _
        rw [hw.1]
        cases hclosing : w.closing with
        | none => simp [RowLog.wrote, hclosing]
        | some pnl =>
          subst hid
          simp [RowLog.wrote, hclosing, recorded_not_closed hstatus]
      · exact hw.closed
    refine wp_bind.2 (wp_mono hwritten fun answer w₁ h₁ => ?_)
    cases answer with
    | ok _ => exact wp_pure.2 h₁
    | error err =>
      refine wp_send.2 fun _ w₂ hs => ?_
      rw [show w₂ = w₁ from hs]
      exact h₁
  · intro _
    exact wp_pure.2 hw.closed

/-- The last write of an execution that needed no recovery. -/
private theorem persist_untouched {execution : ArbExecution} (hw : Untouched w) :
    wp (live_rows eng arb_id) (persist_arb eng opp execution) (fun _ => ClosedUnlessRecorded) w := by
  have hclosed : ∀ {w' : RowLog}, w'.closing = none → w'.undone = false →
      ClosedUnlessRecorded w' := by
    intro w' hclosing hundone
    unfold ClosedUnlessRecorded
    simp [hclosing, hundone]
  unfold persist_arb
  rw [wp_ite]
  constructor
  · intro _
    refine wp_bind.2 (wp_send.2 fun answer w₁ hs => ?_)
    have h₁ : w₁.closing = none ∧ w₁.undone = false := by
      obtain rfl | ⟨-, rfl⟩ := hs
      · have hwrote := hw.wrote arb_id (w.store.record_arb execution)
        exact ⟨hwrote.closing, hwrote.undone⟩
      · exact ⟨hw.closing, hw.undone⟩
    cases answer with
    | ok _ => exact wp_pure.2 (hclosed h₁.1 h₁.2)
    | error err =>
      refine wp_send.2 fun _ w₂ hs => ?_
      rw [show w₂ = w₁ from hs]
      exact hclosed h₁.1 h₁.2
  · intro _
    exact wp_pure.2 (hclosed hw.closing hw.undone)

/-- A call to the outside before the recovery. -/
private theorem outside_untouched {c : Call} {a : Answer c} {w' : RowLog} (hc : BeforeMark c)
    (hw : Untouched w) (hs : (live_rows eng arb_id).serve w (.outside c) a w') : Untouched w' :=
  hw.serve hc hs

private theorem settle_closed {leg_yes leg_no : Leg} (hw : Untouched w) :
    wp (live_rows eng arb_id) (settle eng arb_id opp leg_yes leg_no)
      (fun _ => ClosedUnlessRecorded) w := by
  have hbook : ∀ pnl b w, Untouched w →
      wp (live_rows eng arb_id) (book_execution opp pnl b) (fun _ => Untouched) w := by
    intro pnl b w hw
    cases b with
    | none => exact wp_ret.2 hw
    | some b => exact wp_send.2 fun _ w' hs => outside_untouched (c := .record_trade ..) trivial hw hs
  have hrecovers : (classify leg_yes leg_no).2 = true →
      (classify leg_yes leg_no).1 = .recovering := classify_recovering
  unfold settle
  generalize classify leg_yes leg_no = outcome at hrecovers ⊢
  obtain ⟨status, needs_recovery⟩ := outcome
  refine wp_bind.2 (wp_send.2 fun _ w₁ hs => ?_)
  have h₁ := outside_untouched (c := .append_execution _) trivial hw hs
  refine wp_bind.2 (wp_mono (hbook _ _ _ h₁) fun _ w₂ h₂ => ?_)
  cases needs_recovery with
  | false =>
    rw [recover_if_needed, if_neg Bool.false_ne_true]
    refine wp_bind.2 (wp_ret.2 (wp_bind.2 (wp_send.2 fun _ w₃ hs => ?_)))
    have h₃ := outside_untouched (c := .maybe_halt_on_daily_loss _) trivial h₂ hs
    exact wp_bind.2 (wp_mono (persist_untouched h₃) fun _ _ h => wp_pure.2 h)
  | true =>
    -- the record after a recovery carries the status from before it
    have hstatus : status = .recovering := hrecovers rfl
    rw [recover_if_needed, if_pos rfl, wp_bind, call_recover_one_leg_risk, wp_send]
    intro recovered w₃ hrun
    have h₃ : Unrecorded w₃ := recover_unrecorded h₂ _ _ hrun
    refine wp_bind.2 (wp_send.2 fun _ w₄ hs => ?_)
    rw [show w₄ = w₃ from hs]
    exact wp_bind.2 (wp_mono (persist_recovered rfl hstatus h₃) fun _ _ h => wp_pure.2 h)

/-- Placing the legs leaves the row open. -/
private theorem execute_legs_untouched (hw : Untouched w) :
    wp (live_rows eng arb_id) (execute_legs eng cfg arb_id opp) (fun _ => Untouched) w := by
  refine execute_legs_calls.keeps (fun w c a w' hc hs hw => ?_) hw
  cases c with
  | outside c =>
    have hbefore : BeforeMark c := by
      cases c with
      | mark_naked_leg_reconciled => exact hc
      | record_arb => exact hc
      | _ => trivial
    exact outside_untouched hbefore hw hs
  | place_order_for_leg =>
    obtain ⟨store, rfl⟩ := hs
    exact hw.wrote arb_id store
  | execute_with_fallbacks =>
    obtain ⟨store, rfl⟩ := hs
    exact hw.wrote arb_id store
  | recover_one_leg_risk => exact hc.elim

/-- **A closed arb stays closed unless the execution is recorded over it**: in every
    execution, no write after the mark opens the row again or changes its closing profit,
    if and only if the mark closed nothing or `record_arb` was not written. -/
theorem closed_stays_closed_iff (eng : Engine) (cfg : LiveConfig) (arb_id : String)
    (opp : Opportunity) (store : Store) (r : Except String (Option ArbExecution)) (w : RowLog)
    (hrun : Exec (live_rows eng arb_id) (live_execution eng cfg arb_id opp) (.start store) r w) :
    w.undone = false ↔ ¬ (w.closing.isSome = true ∧ w.recorded = true) := by
  have hstart : Untouched (.start store) := ⟨rfl, rfl, rfl⟩
  have hspec : wp (live_rows eng arb_id) (live_execution eng cfg arb_id opp)
      (fun _ => ClosedUnlessRecorded) (.start store) := by
    unfold live_execution
    refine wp_bind.2 (wp_mono (execute_legs_untouched hstart) fun legs w₁ h₁ => ?_)
    match legs with
    | .error err => exact wp_pure.2 h₁.unrecorded.closed
    | .ok none => exact wp_pure.2 h₁.unrecorded.closed
    | .ok (some placed) =>
      refine wp_bind.2 (wp_mono (settle_closed h₁) fun execution w₂ h₂ => ?_)
      cases placed.secondary_exception with
      | some err => exact wp_pure.2 h₂
      | none => exact wp_pure.2 h₂
  exact hspec r w hrun

end live

/-! ### Ten contracts sold back -/

/-- The stub of the arb and its filled primary. -/
def stub_store : Store :=
  (Store.mk ∅ ∅).record_arb_stub_with_leg "ARB-000001" "mkt-1" ten_filled.columns (some (1 / 5)) none

/-- The note of the mark. -/
def sold_back_note : String :=
  "auto-unwind closed " ++ toString (sold_back (2 / 5)).fill_qty ++ "/" ++ toString 10 ++ " " ++
    (bought_at (2 / 5)).side.text ++ " on " ++ (bought_at (2 / 5)).platform ++ " (buy=" ++
    Decimal.fixed 4 (bought_at (2 / 5)).fill_price ++ " sell=" ++
    Decimal.fixed 4 (sold_back (2 / 5)).fill_price ++ ")"

/-- The tables once the mark is written. -/
def after_mark : RowLog :=
  let w := (RowLog.start (Store.mk ∅ ∅)).wrote "ARB-000001" stub_store
  { w.wrote "ARB-000001" (w.store.mark_naked_leg_reconciled "ARB-000001" (sold_back_pnl (2 / 5))
      sold_back_note) with
    closing := w.marked "ARB-000001" (sold_back_pnl (2 / 5)) }

/-- The execution up to its last write. -/
private theorem sold_back_rows {w : RowLog}
    (hpersist : ∀ notes, Exec (live_rows (trading_engine true) "ARB-000001")
      (persist_arb (trading_engine true) ten_across (sold_back_record (2 / 5) notes))
      after_mark () w) :
    ∃ r, Exec (live_rows (trading_engine true) "ARB-000001")
      (live_execution (trading_engine true) kalshi_first_config "ARB-000001" ten_across)
      (.start ⟨∅, ∅⟩) r w := by
  let placed := (RowLog.start ⟨∅, ∅⟩).wrote "ARB-000001" stub_store
  have hplace : (live_rows (trading_engine true) "ARB-000001").serve (.start ⟨∅, ∅⟩)
      (.place_order_for_leg "kalshi" ten_across_primary true (some ⟨ten_across, some (1 / 5)⟩))
      (.ok (bought_at (2 / 5))) placed := ⟨stub_store, rfl⟩
  have hmark : Exec (row_env "ARB-000001") (reconcile_naked_leg (trading_engine true) "ARB-000001"
      (bought_at (2 / 5)) (sold_back (2 / 5)) 10 (sold_back_pnl (2 / 5))) placed () after_mark := by
    have hfull : nearlyFull (sold_back (2 / 5)) 10 := by decide +kernel
    have hserve : (row_env "ARB-000001").serve placed
        (.mark_naked_leg_reconciled "ARB-000001" (sold_back_pnl (2 / 5)) sold_back_note) (.ok ())
        after_mark := .inl rfl
    unfold reconcile_naked_leg
    rw [if_pos ⟨rfl, hfull⟩]
    exact .call hserve (.ret _ _)
  have hsold : (row_env "ARB-000001").serve placed
      (.smart_unwind "ARB-000001" (bought_at (2 / 5)) 10) (.ok (sold_back (2 / 5))) placed := rfl
  have hrecover := sold_back_recovery true (fun _ _ => rfl) (fun _ => rfl) hsold rfl hmark
  exact sold_back_execution true (fun _ => rfl) rfl rfl hplace (fun _ _ _ => ⟨stub_store, rfl⟩)
    (fun _ => rfl) rfl hrecover rfl hpersist

/-- The tables after the last write. -/
def after_record : RowLog :=
  { after_mark.wrote "ARB-000001" (after_mark.store.record_arb (sold_back_record (2 / 5) [])) with
    recorded := true }

/-- The row stays closed when the last write fails. -/
theorem closed_stays_closed_iff_unrecorded :
    after_mark.undone = false ↔
      ¬ (after_mark.closing.isSome = true ∧ after_mark.recorded = true) := by
  have hpersist : ∀ notes, Exec (live_rows (trading_engine true) "ARB-000001")
      (persist_arb (trading_engine true) ten_across (sold_back_record (2 / 5) notes))
      after_mark () after_mark := by
    intro notes
    have hserve : (live_rows (trading_engine true) "ARB-000001").serve after_mark
        (.outside (.record_arb (sold_back_record (2 / 5) notes))) (.error "connection lost")
        after_mark := .inr ⟨(fun h => nomatch h), rfl⟩
    exact .call hserve (.call rfl (.ret _ _))
  obtain ⟨r, hrun⟩ := sold_back_rows hpersist
  exact closed_stays_closed_iff _ _ _ _ _ r _ hrun

/-- Ten contracts bought and sold back in full: the recovery closes the arb, and the
    execution writes it back to recovering. -/
theorem recovered_arb_is_reopened :
    ¬ ∀ (eng : Engine) (cfg : LiveConfig) (arb_id : String) (opp : Opportunity) (store : Store)
        (r : Except String (Option ArbExecution)) (w : RowLog),
      Exec (live_rows eng arb_id) (live_execution eng cfg arb_id opp) (.start store) r w →
      w.undone = false := by
  intro hclaim
  have hpersist : ∀ notes, Exec (live_rows (trading_engine true) "ARB-000001")
      (persist_arb (trading_engine true) ten_across (sold_back_record (2 / 5) notes))
      after_mark () after_record := by
    intro notes
    have hserve : (live_rows (trading_engine true) "ARB-000001").serve after_mark
        (.outside (.record_arb (sold_back_record (2 / 5) notes))) (.ok ()) after_record := .inl rfl
    exact .call hserve (.ret _ _)
  obtain ⟨r, hrun⟩ := sold_back_rows hpersist
  have hundone := hclaim _ _ _ _ _ r _ hrun
  exact absurd hundone (by decide +kernel)

end Execution
