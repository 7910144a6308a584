import Arbiter.Framework.Crash
import Arbiter.Execution.Live
import Arbiter.Execution.Sends
import Arbiter.Execution.Store
import Arbiter.Reconcile.Desk

/-! # Orders on Record

  Every order a venue accepts should be in the store, under the id the venue gave it, before
  the engine waits for anything else: then a restart finds what may still be working.

  ## Contents

  - Section 1: the execution and its recovery, down to the calls that are awaited.
  - Section 2: the venues and the store.
  - Section 3: when an order is on record, and what keeps it so.
  - Section 4: placing a leg.
  - Section 5: the whole execution.
-/

namespace Execution

open Effect Reconcile

/-! ## Section 1: The execution, call by call -/

/-- `_smart_unwind` in the place of the call, and every other call as it is. -/
def with_smart_unwind (eng : Engine) : (c : Call) → Exe (Answer c)
  | .smart_unwind arb_id filled_leg qty => smart_unwind eng arb_id filled_leg qty
  | c => .send c

/-- The program of each step of `_live_execution`. -/
def step_program (eng : Engine) : (c : Proc) → Exe (Outcomes c)
  | .outside c => .send c
  | .place_order_for_leg platform req use_ioc stub =>
      place_order_for_leg eng platform req use_ioc stub none
  | .execute_with_fallbacks leg skip_initial_attempt =>
      execute_with_fallbacks eng leg skip_initial_attempt
  | .recover_one_leg_risk arb_id opp leg_yes leg_no =>
      (recover_one_leg_risk eng arb_id opp leg_yes leg_no).handle (with_smart_unwind eng)

/-- `_live_execution` with its recovery, as one program. -/
def whole_execution (eng : Engine) (cfg : LiveConfig) (arb_id : String) (opp : Opportunity) :
    Exe (Except String (Option ArbExecution)) :=
  (live_execution eng cfg arb_id opp).handle (step_program eng)

/-! ## Section 2: The venues and the store -/

/-- What the venues have of this execution, and the store. -/
structure Books where
  /-- The orders that were accepted, by the ids of the venues. -/
  accepted : List String
  /-- Those that may still fill. -/
  working : List String
  store : Store

/-- Nothing is accepted yet. -/
def Books.start (store : Store) : Books := ⟨[], [], store⟩

/-- The venue takes the order, under this id. -/
def Books.accept (w : Books) (order_id : String) (works : Bool) : Books :=
  { w with
    accepted := order_id :: w.accepted
    working := if works then order_id :: w.working else w.working }

/-- An order is sent: the venue takes it or not, whatever becomes of the answer. An answer
    names the order by the id of the venue. -/
def Books.Sent (w : Books) (answered : Option Leg) (w' : Books) : Prop :=
  w' = w ∨ ∃ order_id works, w' = w.accept order_id works ∧
    ∀ order, answered = some order → order.order_id = order_id

/-- Time passes: orders cease to work. -/
def Books.Drift (w w' : Books) : Prop :=
  w'.accepted = w.accepted ∧ w'.working ⊆ w.working ∧ w'.store = w.store

/-- The venues and the store behind the calls of the engine. -/
def books_of_record : Env Call Answer Books where
  serve := fun w c a w' => ∃ w₁, w.Drift w₁ ∧
    match c, a with
    | .place_fok .., a => w₁.Sent a.toOption w'
    | .place_ioc .., a => w₁.Sent a.toOption w'
    | .place_resting_sell .., a => w₁.Sent a.toOption w'
    | .place_unwind_sell .., a => w₁.Sent a.toOption w'
    | .upsert_order order arb_id client_order_id, .ok _ =>
        some w'.store = w₁.store.upsert_order order.columns (some arb_id) client_order_id ∧
          w' = { w₁ with store := w'.store }
    | .record_arb_stub_with_leg arb_id canonical_id first_leg stub client_order_id, .ok _ =>
        w' = { w₁ with
          store := w₁.store.record_arb_stub_with_leg arb_id canonical_id first_leg.columns
            stub.net_edge client_order_id }
    | .record_arb execution, .ok _ => w' = { w₁ with store := w₁.store.record_arb execution }
    | .mark_naked_leg_reconciled arb_id unwind_pnl note, .ok _ =>
        w' = { w₁ with store := w₁.store.mark_naked_leg_reconciled arb_id unwind_pnl note }
    | _, _ => w' = w₁

/-! ## Section 3: On record -/

/-- The order has a row. -/
def Books.recorded (w : Books) (order_id : String) : Prop := (w.store.order order_id).isSome

/-- The order has a row that `list_non_terminal_orders` selects. -/
def Books.listed (w : Books) (order_id : String) : Prop :=
  ∃ row, w.store.order order_id = some row ∧ non_terminal_row order_id row

/-- The call writes the first row of an order: it is not the call that loses it. -/
def Call.writes : Call → String → Prop
  | .upsert_order order _ _, order_id => order.order_id = order_id
  | .record_arb_stub_with_leg _ _ first_leg _ _, order_id => first_leg.order_id = order_id
  | _, _ => False

/-- Cut off at the call, the engine leaves every accepted order on record, and a restart lists
    those that may still fill. -/
def OnRecord (w : Books) (c : Call) : Prop :=
  (∀ order_id ∈ w.accepted, ¬ c.writes order_id → w.recorded order_id) ∧
    ∀ order_id ∈ w.working, ¬ c.writes order_id → ∀ orders, NonTerminal w.store orders →
      ∃ order ∈ orders, order.order_id = order_id

/-- All are on record. -/
structure Books.Kept (w : Books) : Prop where
  recorded : ∀ order_id ∈ w.accepted, w.recorded order_id
  listed : ∀ order_id ∈ w.working, w.listed order_id

/-- A row is not ended while its order may still fill. -/
def Books.EndsNone (w : Books) (order : Leg) : Prop :=
  order.order_id ∈ w.working → order.status.mayStillFill

/-- The write of an order that is not on record goes through. -/
def Books.Writes (w : Books) (order : Leg) (written : Except String Unit) : Prop :=
  written = .ok () ∨ (order.order_id ∈ w.accepted → w.recorded order.order_id) ∧
    (order.order_id ∈ w.working → w.listed order.order_id)

/-- An order is sent for a leg. One that is accepted is answered, under an id that is no
    placeholder's, and is not polled first. -/
def Books.Answered (eng : Engine) (platform : String) (w : Books)
    (answer : Except PlaceFailure Leg) (w' : Books) : Prop :=
  w'.accepted = w.accepted ∨
    ∃ order, answer = .ok order ∧
      (∀ suffix ∈ synthetic_placeholder_order_suffixes,
        Text.ends_with suffix order.order_id = false) ∧
      (order.status = .submitted →
        ∀ adapter, eng.adapters platform = some adapter → ¬ pollable eng adapter platform order)

/-- The steps that keep the orders on record. -/
def KeepsRecord (eng : Engine) (w : Books) (c : Call) (a : Answer c) (w' : Books) : Prop :=
  match c, a with
  | .place_fok platform _, a => w.Answered eng platform a w'
  | .place_ioc platform _, a => w.Answered eng platform a w'
  -- a sell of the recovery is never written
  | .place_resting_sell .., _ => w'.accepted = w.accepted
  | .place_unwind_sell .., _ => w'.accepted = w.accepted
  | .upsert_order order _ _, a => w.Writes order a ∧ w.EndsNone order
  | .record_arb_stub_with_leg _ _ first_leg _ _, a => w.Writes first_leg a ∧ w.EndsNone first_leg
  | .record_arb execution, _ => w.EndsNone execution.leg_yes ∧ w.EndsNone execution.leg_no
  | _, _ => True

/-- All but one are on record; its id is not a placeholder's. -/
structure Books.KeptBut (w : Books) (pending : String) : Prop where
  recorded : ∀ order_id ∈ w.accepted, order_id ≠ pending → w.recorded order_id
  listed : ∀ order_id ∈ w.working, order_id ≠ pending → w.listed order_id
  genuine : pending ∈ w.working → ∀ suffix ∈ synthetic_placeholder_order_suffixes,
    Text.ends_with suffix pending = false

section kept

variable {w w₁ w' : Books} {order_id : String} {c : Call}

theorem Books.Kept.but (h : w.Kept) (order_id : String) : w.KeptBut order_id where
  recorded := fun id hid _ => h.recorded id hid
  listed := fun id hid _ => h.listed id hid
  genuine := fun hid => by
    obtain ⟨row, -, hrow⟩ := h.listed order_id hid
    exact hrow.2

theorem Books.Kept.drift (h : w.Kept) (hd : w.Drift w') : w'.Kept := by
  obtain ⟨haccepted, hworking, hstore⟩ := hd
  refine ⟨fun id hid => ?_, fun id hid => ?_⟩
  · unfold Books.recorded
    rw [hstore]
    exact h.recorded id (haccepted ▸ hid)
  · unfold Books.listed
    rw [hstore]
    exact h.listed id (hworking hid)

theorem Books.KeptBut.drift (h : w.KeptBut order_id) (hd : w.Drift w') : w'.KeptBut order_id := by
  obtain ⟨haccepted, hworking, hstore⟩ := hd
  refine ⟨fun id hid hne => ?_, fun id hid hne => ?_, fun hid => h.genuine (hworking hid)⟩
  · unfold Books.recorded
    rw [hstore]
    exact h.recorded id (haccepted ▸ hid) hne
  · unfold Books.listed
    rw [hstore]
    exact h.listed id (hworking hid) hne

/-- The orders of the store are what counts. -/
theorem Books.Kept.congr {store : Store} (h : w.Kept) (hsame : store.orders = w.store.orders) :
    Books.Kept { w with store := store } := by
  have horder (id : String) : store.order id = w.store.order id := by
    rw [Store.order, hsame, Store.order]
  refine ⟨fun id hid => ?_, fun id hid => ?_⟩
  · unfold Books.recorded
    rw [horder]
    exact h.recorded id hid
  · unfold Books.listed
    rw [horder]
    exact h.listed id hid

/-- The write of an order puts it on record, and the others stay. -/
theorem Books.KeptBut.upsert {order : Leg} (h : w.KeptBut order.order_id) (hends : w.EndsNone order)
    (arb_id : String) (client_order_id : Option String) :
    Books.Kept { w with
      store := w.store.upsert_order_on_conn order.columns arb_id client_order_id } := by
  have hhere : ∃ row, (w.store.upsert_order_on_conn order.columns arb_id client_order_id).order
      order.order_id = some row ∧ row.status = order.status := by
    refine ⟨_, AList.lookup_insert _, ?_⟩
    cases w.store.order order.columns.order_id <;> rfl
  obtain ⟨row, hrow, hstatus⟩ := hhere
  constructor
  · intro id hid
    by_cases heq : id = order.order_id
    · subst heq
      exact Option.isSome_iff_exists.mpr ⟨row, hrow⟩
    · have hkept := h.recorded id hid heq
      unfold Books.recorded at hkept ⊢
      rwa [upsert_order_on_conn_order_ne heq]
  · intro id hid
    by_cases heq : id = order.order_id
    · subst heq
      exact ⟨row, hrow, hstatus ▸ hends hid, h.genuine hid⟩
    · obtain ⟨row, hrow, hlisted⟩ := h.listed id hid heq
      refine ⟨row, ?_, hlisted⟩
      rwa [upsert_order_on_conn_order_ne heq]

theorem Books.KeptBut.on_record (h : w.KeptBut order_id) (hwrites : c.writes order_id) :
    OnRecord w c := by
  refine ⟨fun id hid hnot => h.recorded id hid ?_, fun id hid hnot orders horders => ?_⟩
  · rintro rfl
    exact hnot hwrites
  · have hne : id ≠ order_id := by
      rintro rfl
      exact hnot hwrites
    obtain ⟨row, hrow, hlisted⟩ := h.listed id hid hne
    exact ⟨row.to_order id, (mem_non_terminal horders _).mpr ⟨id, row, hrow, hlisted, rfl⟩, rfl⟩

theorem Books.Kept.on_record (h : w.Kept) (c : Call) : OnRecord w c := by
  refine ⟨fun id hid _ => h.recorded id hid, fun id hid _ orders horders => ?_⟩
  obtain ⟨row, hrow, hlisted⟩ := h.listed id hid
  exact ⟨row.to_order id, (mem_non_terminal horders _).mpr ⟨id, row, hrow, hlisted, rfl⟩, rfl⟩

/-- The write of an arb with its two legs. -/
theorem Books.Kept.record_arb {execution : ArbExecution} (h : w.Kept)
    (hyes : w.EndsNone execution.leg_yes) (hno : w.EndsNone execution.leg_no) :
    Books.Kept { w with store := w.store.record_arb execution } := by
  have harb : Books.Kept { w with
      store := { w.store with
        arbs := w.store.arbs.insert execution.arb_id
          (.recorded execution (w.store.arb execution.arb_id)) } } := h.congr rfl
  exact (((harb.but _).upsert hyes _ _).but _).upsert hno _ _

theorem Books.KeptBut.record_arb_stub_with_leg {first_leg : Leg} (h : w.KeptBut first_leg.order_id)
    (hends : w.EndsNone first_leg) (arb_id canonical_id : String) (net_edge : Option ℚ)
    (client_order_id : Option String) :
    Books.Kept { w with
      store := w.store.record_arb_stub_with_leg arb_id canonical_id first_leg.columns net_edge
        client_order_id } := by
  unfold Store.record_arb_stub_with_leg
  dsimp only
  split
  · have hstub : Books.KeptBut { w with
        store := { w.store with
          arbs := w.store.arbs.insert arb_id (.stub canonical_id net_edge) } }
        first_leg.order_id := ⟨h.recorded, h.listed, h.genuine⟩
    exact hstub.upsert hends _ _
  · exact h.upsert hends _ _

end kept

/-- The calls that send no order for a leg. -/
def PlacesNone : Call → Prop
  | .place_fok .. => False
  | .place_ioc .. => False
  | _ => True

section calls

variable {eng : Engine} {w w' : Books}

/-- The environment of this claim: the steps that keep the orders on record. -/
abbrev keeping (eng : Engine) : Env Call Answer Books := books_of_record.guard (KeepsRecord eng)

theorem Books.Sent.none {answered : Option Leg} {w₁ : Books} (hd : w.Drift w₁)
    (hsent : w₁.Sent answered w') (hnone : w'.accepted = w.accepted) : w' = w₁ := by
  obtain heq | ⟨id, works, rfl, -⟩ := hsent
  · exact heq
  · exfalso
    have hlength := congrArg List.length hnone
    simp [Books.accept, hd.1] at hlength

/-- A call that sends no order for a leg keeps the orders on record. -/
theorem places_none_keeps {c : Call} {a : Answer c} (hnone : PlacesNone c)
    (hs : (keeping eng).serve w c a w') (hw : w.Kept) : w'.Kept := by
  obtain ⟨hok, w₁, hd, hs⟩ := hs
  have hw₁ := hw.drift hd
  have hends {order : Leg} (h : w.EndsNone order) : w₁.EndsNone order := fun hid => h (hd.2.1 hid)
  -- a write that fails leaves the store, and one that succeeds ends no order that was placed
  cases c with
  | place_fok => exact hnone.elim
  | place_ioc => exact hnone.elim
  | place_resting_sell =>
      rw [Books.Sent.none hd hs hok]
      exact hw₁
  | place_unwind_sell =>
      rw [Books.Sent.none hd hs hok]
      exact hw₁
  | upsert_order order arb_id client_order_id =>
      cases a with
      | error err =>
          obtain rfl : w' = w₁ := hs
          exact hw₁
      | ok _ =>
          obtain ⟨hstore, heq⟩ := hs
          obtain ⟨written, -, hwritten⟩ := Option.map_eq_some_iff.mp hstore.symm
          rw [heq, ← hwritten]
          exact (hw₁.but _).upsert (hends hok.2) _ _
  | record_arb_stub_with_leg arb_id canonical_id first_leg stub client_order_id =>
      cases a with
      | error err =>
          obtain rfl : w' = w₁ := hs
          exact hw₁
      | ok _ =>
          obtain rfl : w' = _ := hs
          exact (hw₁.but _).record_arb_stub_with_leg (hends hok.2) _ _ _ _
  | record_arb execution =>
      cases a with
      | error err =>
          obtain rfl : w' = w₁ := hs
          exact hw₁
      | ok _ =>
          obtain rfl : w' = _ := hs
          exact hw₁.record_arb (hends hok.1) (hends hok.2)
  | mark_naked_leg_reconciled arb_id unwind_pnl note =>
      cases a with
      | error err =>
          obtain rfl : w' = w₁ := hs
          exact hw₁
      | ok _ =>
          obtain rfl : w' = _ := hs
          refine hw₁.congr ?_
          unfold Store.mark_naked_leg_reconciled
          split <;> rfl
  | _ =>
      obtain rfl : w' = w₁ := hs
      exact hw₁

/-- So does a program of such calls. -/
theorem places_none_program {α : Type} {p : Exe α} (hp : p.Calls PlacesNone) :
    Keeps (keeping eng) OnRecord Books.Kept p :=
  hp.keeps_all (fun _ c _ hw => hw.on_record c) fun _ _ _ _ hc hs hw => places_none_keeps hc hs hw

/-- Programs that place nothing are quiet. -/
theorem places_none_of_sends {c : Call} (h : Sends (fun _ _ => False) c) : PlacesNone c := by
  cases c <;> first | exact h | trivial

end calls

/-! ## Section 4: Placing a leg -/

section place

variable {eng : Engine} {platform : String} {adapter : Adapter} {w w' : Books}

/-- What the placement leaves: all on record, or all but the order it answers. -/
def Books.Placed (eng : Engine) (platform : String) (answer : Except PlaceFailure Leg)
    (w : Books) : Prop :=
  w.Kept ∨ ∃ order, answer = .ok order ∧ w.KeptBut order.order_id ∧
    (order.status = .submitted →
      ∀ adapter, eng.adapters platform = some adapter → ¬ pollable eng adapter platform order)

theorem Books.Kept.sent {answer : Except PlaceFailure Leg} {w₁ : Books} (hw : w.Kept)
    (hd : w.Drift w₁) (hsent : w₁.Sent answer.toOption w')
    (hok : w.Answered eng platform answer w') : w'.Placed eng platform answer := by
  have hw₁ := hw.drift hd
  obtain hnone | ⟨order, rfl, hgenuine, hpolled⟩ := hok
  · rw [Books.Sent.none hd hsent hnone]
    exact .inl hw₁
  · obtain rfl | ⟨order_id, works, rfl, hid⟩ := hsent
    · exact .inl hw₁
    · obtain rfl := hid order rfl
      refine .inr ⟨order, rfl, ?_, hpolled⟩
      refine ⟨fun id hmem hne => ?_, fun id hmem hne => ?_, fun _ => hgenuine⟩
      · exact hw₁.recorded id ((List.mem_cons.mp hmem).resolve_left hne)
      · refine hw₁.listed id ?_
        cases works with
        | true => exact (List.mem_cons.mp hmem).resolve_left hne
        | false => exact hmem

theorem place_safe {req : OrderRequest} {use_ioc : Bool} (hw : w.Kept) :
    Safe (keeping eng) OnRecord (fun answer w' => w'.Placed eng platform answer)
      (place adapter platform req use_ioc) w := by
  unfold place
  rw [safe_ite]
  constructor
  · intro _
    exact Safe.send (hw.on_record _) fun answer w' ⟨hok, w₁, hd, hsent⟩ => hw.sent hd hsent hok
  · intro _
    exact Safe.send (hw.on_record _) fun answer w' ⟨hok, w₁, hd, hsent⟩ => hw.sent hd hsent hok

/-- A write that failed left the order on record. -/
theorem Books.KeptBut.failed {order : Leg} {err : String} (h : w.KeptBut order.order_id)
    (hfailed : w.Writes order (.error err)) : w.Kept := by
  obtain hok | ⟨hrecorded, hlisted⟩ := hfailed
  · cases hok
  · constructor
    · intro id hid
      by_cases heq : id = order.order_id
      · subst heq
        exact hrecorded hid
      · exact h.recorded id hid heq
    · intro id hid
      by_cases heq : id = order.order_id
      · subst heq
        exact hlisted hid
      · exact h.listed id hid heq

/-- The write of the order that is pending, with the arb row or without. -/
theorem persist_leg_safe {db_arb_id canonical_id : String} {order : Leg} {stub : Option Stub}
    (hstore : eng.has_store = true) (hw : w.KeptBut order.order_id) :
    Safe (keeping eng) OnRecord (fun _ => Books.Kept)
      (persist_leg eng db_arb_id canonical_id order stub) w := by
  have hescalate (op err : String) :
      Keeps (keeping eng) OnRecord Books.Kept (handle_db_failure op db_arb_id canonical_id err) :=
    places_none_program (calls_send.2 trivial)
  unfold persist_leg
  rw [safe_ite]
  refine ⟨fun _ => ?_, fun hno => absurd hstore hno⟩
  -- with the arb row or without: the order is on record, or the write has failed
  cases stub with
  | some stub =>
      have hwrite : Safe (keeping eng) OnRecord (fun _ => Books.Kept)
          (record_arb_stub_with_leg db_arb_id canonical_id order stub
            order.external_client_order_id) w := by
        refine Safe.send (hw.on_record rfl) fun answer w' hs => ?_
        obtain ⟨⟨hwrites, hends⟩, w₁, hd, hs⟩ := hs
        cases answer with
        | ok _ =>
            obtain rfl : w' = _ := hs
            exact (hw.drift hd).record_arb_stub_with_leg (fun hid => hends (hd.2.1 hid)) _ _ _ _
        | error err =>
            obtain rfl : w' = w₁ := hs
            exact (hw.failed hwrites).drift hd
      refine hwrite.bind fun answer w' hkept => ?_
      cases answer with
      | ok _ => exact hkept
      | error err => exact hescalate _ _ w' hkept
  | none =>
      have hwrite : Safe (keeping eng) OnRecord (fun _ => Books.Kept)
          (upsert_order order db_arb_id order.external_client_order_id) w := by
        refine Safe.send (hw.on_record rfl) fun answer w' hs => ?_
        obtain ⟨⟨hwrites, hends⟩, w₁, hd, hs⟩ := hs
        cases answer with
        | ok _ =>
            obtain ⟨hwritten, heq⟩ := hs
            obtain ⟨written, -, hwritten⟩ := Option.map_eq_some_iff.mp hwritten.symm
            rw [heq, ← hwritten]
            exact (hw.drift hd).upsert (fun hid => hends (hd.2.1 hid)) _ _
        | error err =>
            obtain rfl : w' = w₁ := hs
            exact (hw.failed hwrites).drift hd
      refine hwrite.bind fun answer w' hkept => ?_
      cases answer with
      | ok _ => exact hkept
      | error err => exact hescalate _ _ w' hkept

/-- An order that is not polled is written next. -/
theorem poll_and_persist_safe {db_arb_id canonical_id : String} {order : Leg}
    {stub : Option Stub} (hstore : eng.has_store = true) (hw : w.KeptBut order.order_id)
    (hpolled : order.status = .submitted → ¬ pollable eng adapter platform order) :
    Safe (keeping eng) OnRecord (fun _ => Books.Kept)
      (poll_and_persist eng adapter platform db_arb_id canonical_id stub order) w := by
  have hwritten : Safe (keeping eng) OnRecord (fun _ => Books.Kept)
      (persist_leg eng db_arb_id canonical_id order stub >>= fun _ => pure order) w :=
    (persist_leg_safe hstore hw).bind fun _ w' hkept => hkept
  unfold poll_and_persist
  simp only [safe_ite]
  constructor
  · intro hsubmitted
    unfold poll_submitted_to_terminal
    rw [if_neg (hpolled hsubmitted)]
    exact hwritten
  · intro _
    exact hwritten

/-- Placing a leg keeps the orders on record. -/
theorem place_order_for_leg_keeps {req : OrderRequest} {use_ioc : Bool} {stub : Option Stub}
    {persist_arb_id : Option String} (hstore : eng.has_store = true) :
    Keeps (keeping eng) OnRecord Books.Kept
      (place_order_for_leg eng platform req use_ioc stub persist_arb_id) := by
  unfold place_order_for_leg
  cases hadapter : eng.adapters platform with
  | none => exact .ret _
  | some adapter =>
      refine Keeps.bind (places_none_program (calls_send.2 trivial)) fun blocked => ?_
      rw [keeps_ite]
      refine ⟨fun _ => .ret _, fun _ w hw => ?_⟩
      -- with nothing pending, what follows places none
      have hnone (order : Leg) : Keeps (keeping eng) OnRecord Books.Kept
          (poll_and_persist eng adapter platform
            ((persist_arb_id.filter (· ≠ "")).getD req.arb_id) req.canonical_id stub order) :=
        places_none_program (poll_and_persist_calls.mono fun _ => places_none_of_sends)
      refine (place_safe hw).bind fun answer w' hplaced => ?_
      match answer with
      | .error (.raised err) =>
          obtain hkept | ⟨order, horder, -⟩ := hplaced
          · exact hkept
          · cases horder
      | .error .timeout =>
          obtain hkept | ⟨order, horder, -⟩ := hplaced
          · have hsearched : Keeps (keeping eng) OnRecord Books.Kept
                (timeout_recovery eng platform req) :=
              places_none_program (timeout_recovery_calls.mono fun _ => places_none_of_sends)
            exact (hsearched.bind fun order => (hnone order).bind fun _ => .ret _) w' hkept
          · cases horder
      | .ok order =>
          obtain hkept | ⟨placed, horder, hpending, hpolled⟩ := hplaced
          · exact ((hnone order).bind fun _ => .ret _) w' hkept
          · obtain rfl := Except.ok.inj horder
            exact (poll_and_persist_safe hstore hpending fun h => hpolled h adapter hadapter).bind
              fun _ w'' hkept => hkept

end place

/-! ## Section 5: The whole execution -/

section execution

variable {eng : Engine} {cfg : LiveConfig} {arb_id : String} {opp : Opportunity}

theorem requote_keeps {leg : SecondaryLeg} {left : ℕ} {order : Option Leg} {notes : List String}
    (hstore : eng.has_store = true) :
    Keeps (keeping eng) OnRecord Books.Kept (requote eng leg left order notes) := by
  induction left generalizing order notes with
  | zero => exact .ret _
  | succ left ih =>
      have hdelay : Keeps (keeping eng) OnRecord Books.Kept (requote_delay eng) := by
        rw [requote_delay, keeps_ite]
        exact ⟨fun _ => places_none_program (calls_send.2 trivial), fun _ => .ret _⟩
      unfold requote
      refine hdelay.bind fun _ => ?_
      refine Keeps.bind (places_none_program (calls_send.2 trivial)) fun walk => ?_
      cases walk with
      | error _ => exact ih
      | ok book =>
          simp only [keeps_ite]
          refine ⟨fun _ => ih, fun _ => ⟨fun _ => ih, fun _ => ?_⟩⟩
          refine (place_order_for_leg_keeps hstore).bind fun placed => ?_
          cases placed with
          | error err => exact .ret _
          | ok retry =>
              simp only [keeps_ite]
              exact ⟨fun _ => .ret _, fun _ => ⟨fun _ => .ret _, fun _ => ih⟩⟩

theorem retry_chain_keeps {leg : SecondaryLeg} {skip : Bool} {order : Option Leg}
    (hstore : eng.has_store = true) :
    Keeps (keeping eng) OnRecord Books.Kept (retry_chain eng leg skip order) := by
  unfold retry_chain
  refine (requote_keeps hstore).bind fun requoted => ?_
  match requoted with
  | .error err => exact .ret _
  | .ok (.inl done) => exact .ret _
  | .ok (.inr (order, notes)) =>
      simp only [keeps_ite]
      refine ⟨fun _ => .ret _, fun _ => ?_⟩
      refine (place_order_for_leg_keeps hstore).bind fun placed => ?_
      cases placed with
      | error err => exact .ret _
      | ok order3 =>
          simp only [keeps_ite]
          exact ⟨fun _ => .ret _, fun _ => .ret _⟩

/-- Every attempt of the chain keeps the orders on record. -/
theorem execute_with_fallbacks_keeps {leg : SecondaryLeg} {skip_initial_attempt : Bool}
    (hstore : eng.has_store = true) :
    Keeps (keeping eng) OnRecord Books.Kept
      (execute_with_fallbacks eng leg skip_initial_attempt) := by
  unfold execute_with_fallbacks
  rw [keeps_ite]
  refine ⟨fun _ => retry_chain_keeps hstore, fun _ => ?_⟩
  refine (place_order_for_leg_keeps hstore).bind fun placed => ?_
  cases placed with
  | error err => exact .ret _
  | ok order =>
      simp only [keeps_ite]
      exact ⟨fun _ => .ret _, fun _ => ⟨fun _ => .ret _, fun _ => retry_chain_keeps hstore⟩⟩

theorem poll_resting_places_none {platform : String} {qty n : ℕ} {resting : Leg} :
    (poll_resting platform qty n resting).Calls PlacesNone := by
  induction n generalizing resting with
  | zero => exact calls_ret _
  | succ n ih =>
      unfold poll_resting
      apply Prog.Calls.bind (calls_send.2 trivial)
      intro _
      apply Prog.Calls.bind (calls_send.2 trivial)
      intro read
      cases read with
      | error _ => exact ih
      | ok updated =>
          simp only [calls_ite]
          exact ⟨fun _ => calls_pure _, fun _ => ⟨fun _ => calls_pure _, fun _ => ih⟩⟩

theorem cancel_and_market_sell_places_none {filled_leg resting : Leg} {qty : ℕ} :
    (cancel_and_market_sell arb_id filled_leg qty resting).Calls PlacesNone := by
  have hsell (rest : Leg) : (sell_remainder arb_id filled_leg qty rest).Calls PlacesNone := by
    unfold sell_remainder
    rw [calls_ite]
    refine ⟨fun _ => calls_pure _, fun _ => .bind (calls_send.2 trivial) fun sold => ?_⟩
    cases sold with
    | error err => exact calls_pure _
    | ok market_order =>
        simp only [calls_ite]
        exact ⟨fun _ => calls_pure _, fun _ => calls_pure _⟩
  apply Prog.Calls.bind (calls_send.2 trivial)
  intro _
  apply Prog.Calls.bind (calls_send.2 trivial)
  intro read
  cases read with
  | error _ => exact hsell resting
  | ok r => exact hsell r.order

/-- An unwind sends its sells, and no order for a leg. -/
theorem smart_unwind_places_none {filled_leg : Leg} {qty : ℕ} :
    (smart_unwind eng arb_id filled_leg qty).Calls PlacesNone := by
  have hsell : (market_sell arb_id filled_leg qty).Calls PlacesNone := calls_send.2 trivial
  unfold smart_unwind
  dsimp only
  cases eng.adapters filled_leg.platform with
  | none => exact calls_pure _
  | some adapter =>
      simp only [calls_ite]
      refine ⟨fun _ => hsell, fun _ => .bind (calls_send.2 trivial) fun placed => ?_⟩
      cases placed with
      | error _ => exact hsell
      | ok resting =>
          simp only [calls_ite]
          refine ⟨fun _ => hsell, fun _ => ⟨fun _ => calls_pure _, fun _ => ?_⟩⟩
          refine poll_resting_places_none.bind fun polled => ?_
          cases polled with
          | inl filled => exact calls_pure _
          | inr rest => exact cancel_and_market_sell_places_none

/-- The steps of `_live_execution` that send no order by themselves. -/
def StepPlacesNone : Proc → Prop
  | .outside c => PlacesNone c
  | _ => True

theorem Places.places_none {c : Proc} (h : Places c) : StepPlacesNone c := by
  cases c with
  | outside c => cases c <;> first | exact h | trivial
  | _ => trivial

theorem Asks.places_none {c : Proc} (h : Asks c) : StepPlacesNone c := by
  cases c with
  | outside c => cases c <;> first | exact h | trivial
  | _ => trivial

theorem settle_places_none {leg_yes leg_no : Leg} :
    (settle eng arb_id opp leg_yes leg_no).Calls StepPlacesNone := by
  have hbook (pnl : ℚ) (b : Option RiskManager.Booked) :
      (book_execution opp pnl b).Calls StepPlacesNone := by
    cases b with
    | none => exact calls_ret _
    | some b => exact calls_send.2 trivial
  have hrecover (needs_recovery : Bool) :
      (recover_if_needed needs_recovery arb_id opp leg_yes leg_no).Calls StepPlacesNone := by
    unfold recover_if_needed
    rw [calls_ite]
    exact ⟨fun _ => calls_send.2 trivial, fun _ => calls_ret _⟩
  unfold settle
  apply Prog.Calls.bind (calls_send.2 trivial)
  intro _
  apply Prog.Calls.bind (hbook _ _)
  intro _
  apply Prog.Calls.bind (hrecover _)
  intro recovered
  apply Prog.Calls.bind (calls_send.2 trivial)
  intro _
  exact (persist_arb_calls.mono fun _ => Asks.places_none).bind fun _ => calls_pure _

theorem live_execution_places_none : (live_execution eng cfg arb_id opp).Calls StepPlacesNone := by
  unfold live_execution
  refine (execute_legs_calls.mono fun _ => Places.places_none).bind fun legs => ?_
  match legs with
  | .error err => exact calls_pure _
  | .ok none => exact calls_pure _
  | .ok (some placed) =>
      refine settle_places_none.bind fun execution => ?_
      cases placed.secondary_exception with
      | none => exact calls_pure _
      | some err => exact calls_pure _

/-- Every step keeps the orders on record. -/
theorem step_program_keeps (hstore : eng.has_store = true) {c : Proc} (hc : StepPlacesNone c) :
    Keeps (keeping eng) OnRecord Books.Kept (step_program eng c) := by
  cases c with
  | outside c => exact places_none_program (calls_send.2 hc)
  | place_order_for_leg platform req use_ioc stub => exact place_order_for_leg_keeps hstore
  | execute_with_fallbacks leg skip_initial_attempt => exact execute_with_fallbacks_keeps hstore
  | recover_one_leg_risk arb_id opp leg_yes leg_no =>
      refine Keeps.handle recover_one_leg_risk_recovers fun c hc => ?_
      cases c with
      | smart_unwind arb_id filled_leg qty => exact places_none_program smart_unwind_places_none
      | _ => first | exact hc.elim | exact places_none_program (calls_send.2 trivial)

/-- Wherever an execution or its recovery is cut off, every accepted order is on record and a
    restart lists those that may still fill, in every run whose steps keep the record. -/
theorem orders_on_record (eng : Engine) (hstore : eng.has_store = true) (cfg : LiveConfig)
    (arb_id : String) (opp : Opportunity) (store : Store) :
    (∀ c w, Stops (keeping eng) (whole_execution eng cfg arb_id opp) (.start store) c w →
      OnRecord w c) ∧
    ∀ r w, Exec (keeping eng) (whole_execution eng cfg arb_id opp) (.start store) r w →
      w.Kept := by
  have hkeeps : Keeps (keeping eng) OnRecord Books.Kept (whole_execution eng cfg arb_id opp) :=
    Keeps.handle live_execution_places_none fun c hc => step_program_keeps hstore hc
  have hsafe := hkeeps (.start store) ⟨by simp [Books.start], by simp [Books.start]⟩
  exact ⟨fun c w hstop => hsafe.stops hstop, hsafe.ends⟩

end execution

/-! ### A resting sell -/

/-- The resting sell of `ten_filled`, on the book. -/
def resting_sell : Leg :=
  Order.synthetic "9f2" "kalshi" "KX-1" "mkt-1" .yes (2 / 5) 10 .submitted ""

/-- Kalshi fills the primary and takes the resting sell; every write goes through. -/
def kalshi_takes : Oracle Call Answer Books := fun w c =>
  match c with
  | .place_fok .. | .place_ioc .. => (.ok ten_filled, w.accept "9f1" false)
  | .place_resting_sell .. => (.ok resting_sell, w.accept "9f2" true)
  | .place_unwind_sell .. | .get_order .. | .cancel_order .. => (.error "", w)
  | .list_open_orders_by_client_id .. | .upsert_order .. => (.error "", w)
  | .mark_naked_leg_reconciled .. | .handle_one_leg_exposure .. | .record_arb _ => (.error "", w)
  | .smart_unwind .. => (.error "", w)
  | .best_executable_price .. => (.ok (false, 0), w)
  | .check_depth .. => (.ok (true, 2 / 5), w)
  | .balance _ => (none, w)
  | .db_write_failed => (false, w)
  | .record_arb_stub_with_leg arb_id canonical_id first_leg stub client_order_id =>
      (.ok (), { w with
        store := w.store.record_arb_stub_with_leg arb_id canonical_id first_leg.columns
          stub.net_edge client_order_id })
  | .rounds_left _ => (0, w)
  | .handle_db_failure .. | .record_incident _ | .auto_resolve_recovery_incidents .. => ((), w)
  | .append_execution _ | .maybe_halt_on_daily_loss _ | .record_trade .. => ((), w)
  | .release_trade .. | .sleep _ => ((), w)

theorem Books.Drift.refl (w : Books) : w.Drift w := ⟨rfl, List.Subset.refl _, rfl⟩

theorem kalshi_takes_serves (w : Books) (c : Call) :
    books_of_record.serve w c (kalshi_takes w c).1 (kalshi_takes w c).2 := by
  refine ⟨w, .refl w, ?_⟩
  have hprimary : w.Sent (some ten_filled) (w.accept "9f1" false) :=
    .inr ⟨_, _, rfl, fun order horder => by cases horder; rfl⟩
  have hsell : w.Sent (some resting_sell) (w.accept "9f2" true) :=
    .inr ⟨_, _, rfl, fun order horder => by cases horder; rfl⟩
  cases c <;> first | exact hprimary | exact hsell | exact .inl rfl | rfl

/-- `ten_across` on that venue, with a store. -/
def ten_across_execution : Exe (Except String (Option ArbExecution)) :=
  whole_execution (trading_engine true) kalshi_first_config "ARB-000001" ten_across

/-- The calls up to the write of the primary keep the record. -/
def before_the_sell (w : Books) (c : Call) : Bool :=
  match c with
  | .balance _ | .check_depth .. | .best_executable_price .. | .db_write_failed => true
  | .place_ioc .. => true
  | .record_arb_stub_with_leg _ _ first_leg _ _ => first_leg.order_id ∉ w.working
  | _ => false

theorem before_the_sell_keeps (w : Books) (c : Call) (h : before_the_sell w c = true) :
    (keeping (trading_engine true)).serve w c (kalshi_takes w c).1 (kalshi_takes w c).2 := by
  refine ⟨?_, kalshi_takes_serves w c⟩
  cases c with
  | place_ioc platform req =>
      exact .inr ⟨ten_filled, rfl, by decide +kernel, fun hsubmitted => by cases hsubmitted⟩
  | record_arb_stub_with_leg arb_id canonical_id first_leg stub client_order_id =>
      have hdone : first_leg.order_id ∉ w.working := of_decide_eq_true h
      exact ⟨.inl rfl, fun hworking => absurd hworking hdone⟩
  | _ => trivial

/-- The primary is on record when its execution is appended. -/
theorem orders_on_record_ten_across :
    (∀ c w, Stops (keeping (trading_engine true)) ten_across_execution (.start ⟨∅, ∅⟩) c w →
      OnRecord w c) ∧
    (∀ r w, Exec (keeping (trading_engine true)) ten_across_execution (.start ⟨∅, ∅⟩) r w →
      w.Kept) ∧
    ∃ c w, Stops (keeping (trading_engine true)) ten_across_execution (.start ⟨∅, ∅⟩) c w ∧
      w.accepted = ["9f1"] ∧ w.recorded "9f1" := by
  obtain ⟨hstops, hends⟩ := orders_on_record (trading_engine true) rfl kalshi_first_config
    "ARB-000001" ten_across ⟨∅, ∅⟩
  refine ⟨hstops, hends, ?_⟩
  have hstop : ((play_stops kalshi_takes 7 ten_across_execution (.start ⟨∅, ∅⟩)).any fun at_ =>
      at_.2.accepted = ["9f1"] ∧ (at_.2.store.order "9f1").isSome) = true := by decide +kernel
  obtain ⟨⟨c, w⟩, hplay, hw⟩ := Option.any_eq_true _ _ |>.mp hstop
  obtain ⟨haccepted, hrecorded⟩ := of_decide_eq_true hw
  exact ⟨c, w, stops_of_play before_the_sell_keeps (by decide +kernel) hplay, haccepted, hrecorded⟩

/-- Cut off at the cancel of the resting sell, the engine leaves that sell without a row: a
    restart does not list it, though it may still fill. -/
theorem resting_sell_off_record :
    ∃ c w, Stops books_of_record ten_across_execution (.start ⟨∅, ∅⟩) c w ∧
      "9f2" ∈ w.accepted ∧ "9f2" ∈ w.working ∧ w.store.order "9f2" = none ∧
      ¬ OnRecord w c := by
  have hstop : ((play_stops kalshi_takes 11 ten_across_execution (.start ⟨∅, ∅⟩)).any fun at_ =>
      "9f2" ∈ at_.2.accepted ∧ "9f2" ∈ at_.2.working ∧
        (at_.2.store.order "9f2" = none ∧ at_.1 matches .cancel_order ..)) = true := by
    decide +kernel
  obtain ⟨⟨c, w⟩, hplay, hw⟩ := Option.any_eq_true _ _ |>.mp hstop
  obtain ⟨haccepted, hworking, hrow, hcancel⟩ := of_decide_eq_true hw
  have hserves : ∀ w c, (fun _ _ => true : Books → Call → Bool) w c = true →
      books_of_record.serve w c (kalshi_takes w c).1 (kalshi_takes w c).2 :=
    fun w c _ => kalshi_takes_serves w c
  refine ⟨c, w, stops_of_play hserves (by decide +kernel) hplay, haccepted, hworking, hrow,
    fun h => ?_⟩
  have hrecorded : w.recorded "9f2" := h.1 "9f2" haccepted (by cases c <;> simp_all [Call.writes])
  rw [Books.recorded, hrow] at hrecorded
  cases hrecorded

end Execution
