import Arbiter.Framework.Prog
import Arbiter.Execution.Store

/-! # The Desk of the Reconcilers

  Two loops repair the store from what the venues say: one at startup, over the orders
  that are not over, one every few minutes, over the arbs that hang. Both read the
  store, look orders up through the adapters and write back.

  An adapter may write into the order it is given. A lookup therefore says two things:
  how that order stands afterwards, and what was returned.
-/

namespace Reconcile

open Effect Execution

/-! ## Section 1: Order ids -/

/-- `SYNTHETIC_PLACEHOLDER_ORDER_SUFFIXES`. -/
def synthetic_placeholder_order_suffixes : List String :=
  ["-SKIPPED", "-EDGE-LOST", "-UNPROFITABLE", "-EXCEPTION", "-NOADAPTER", "-DBFAIL"]

/-- `is_synthetic_placeholder_order_id`: a local placeholder, never a venue order. -/
def is_synthetic_placeholder_order_id (order_id : String) : Bool :=
  let text := (Text.strip order_id).toUpper
  synthetic_placeholder_order_suffixes.any fun suffix => Text.ends_with suffix text

/-- The error a placeholder is ended with. -/
def placeholder_error (error : String) : String :=
  (if error = "" then "" else error ++ "; ") ++
    "local synthetic placeholder; never submitted to venue"

/-! ## Section 2: Lookups -/

/-- The columns of an order a lookup may change. -/
structure Report where
  status : OrderStatus
  fill_price : ℚ≥0
  fill_qty : ℚ
  error : String
  deriving DecidableEq

/-- The order as reported. -/
def Report.on (r : Report) (order : Order ℚ) : Order ℚ :=
  { order with
    status := r.status
    fill_price := r.fill_price
    fill_qty := r.fill_qty
    error := r.error }

/-- The row as reported. -/
def Report.row (r : Report) (row : OrderRow) : OrderRow :=
  { row with
    status := r.status
    fill_price := r.fill_price
    fill_qty := r.fill_qty
    error := r.error }

/-- How `get_order` ends. -/
structure Lookup where
  /-- The order it was given, as it stands afterwards. -/
  held : Report
  /-- `none` is the order it was given, `some` a new one. -/
  returned : Except String (Option Report)

/-- What the returned order says. -/
def Lookup.fresh (lookup : Lookup) (new : Option Report) : Report := new.getD lookup.held

/-- The venue has no record of the order. -/
def not_found (status : OrderStatus) (error : String) : Prop :=
  status = .failed ∧ Text.occurs "not found" error.toLower

instance (status : OrderStatus) (error : String) : Decidable (not_found status error) := by
  unfold not_found; infer_instance

/-! ## Section 3: Calls -/

/-- A row of `execution_arbs` that is not over, with its legs. -/
structure StuckArb where
  arb_id : String
  status : String
  legs : List (String × OrderRow)

/-- What the reconcilers ask for. -/
inductive Call
  | list_non_terminal_orders
  | list_stuck_arbs
  | get_order (platform : String) (order : Order ℚ)
  | upsert_order (order : Order ℚ) (arb_id : String)
  /-- `_persist_outcome`. -/
  | persist_outcome (arb_id new_status note_line note : String)
  /-- `int(time.time())`. -/
  | now

/-- What each call answers. -/
@[reducible] def Answer : Call → Type
  | .list_non_terminal_orders => Except String (List (Order ℚ))
  | .list_stuck_arbs => Except String (List StuckArb)
  | .get_order .. => Lookup
  | .upsert_order .. => Except String Unit
  | .persist_outcome .. => Except String Unit
  | .now => ℕ

/-- Programs of the reconcilers. -/
abbrev Rec := Prog Call Answer

abbrev get_order (platform : String) (order : Order ℚ) : Rec Lookup :=
  .send (Call.get_order platform order)

abbrev upsert_order (order : Order ℚ) (arb_id : String) : Rec (Except String Unit) :=
  .send (Call.upsert_order order arb_id)

/-! ## Section 4: The tables behind the calls -/

/-- The rows `list_non_terminal_orders` selects. -/
def non_terminal_row (order_id : String) (row : OrderRow) : Prop :=
  row.status.mayStillFill ∧
    ∀ suffix ∈ synthetic_placeholder_order_suffixes, Text.ends_with suffix order_id = false

instance (order_id : String) (row : OrderRow) : Decidable (non_terminal_row order_id row) := by
  unfold non_terminal_row; infer_instance

/-- The orders selected, in any order. -/
def NonTerminal (s : Store) (orders : List (Order ℚ)) : Prop :=
  orders.Perm ((s.orders.entries.filter fun e => non_terminal_row e.1 e.2).map
    fun e => e.2.to_order e.1)

/-- The rows of an arb's legs. -/
def legs_of (s : Store) (arb_id : String) : List (String × OrderRow) :=
  (s.orders.entries.filter fun e => e.2.arb_id = arb_id).map fun e => (e.1, e.2)

/-- The arbs that are not over and old enough, each with its legs, in any order. -/
structure Stuck (old : String → Prop) (s : Store) (stuck : List StuckArb) : Prop where
  nodup : (stuck.map (·.arb_id)).Nodup
  listed : ∀ arb ∈ stuck, old arb.arb_id ∧ arb.status ∉ terminal_arb_statuses ∧
    ∃ row, s.arb arb.arb_id = some row ∧ row.status = arb.status
  legs : ∀ arb ∈ stuck, arb.legs.Perm (legs_of s arb.arb_id)
  complete : ∀ id row, s.arb id = some row → row.status ∉ terminal_arb_statuses → old id →
    id ∈ stuck.map (·.arb_id)

/-- The row `_persist_outcome` leaves: the notes never grow past 64 KB, and a note that
    ends them already is not repeated. -/
def outcome_row (row : ArbRow) (new_status note_line note : String) : ArbRow :=
  let appended := Text.right (row.recovery_notes ++ "\n" ++ note_line) 65536
  if new_status ≠ "" then
    { row with
      status := new_status
      recovery_notes := if row.recovery_notes = "" then note_line else appended }
  else
    { row with
      recovery_notes :=
        if row.recovery_notes = "" then note_line
        else if Text.right row.recovery_notes note.length = note then row.recovery_notes
        else appended }

/-- `_persist_outcome`. -/
def persisted_outcome (s : Store) (arb_id new_status note_line note : String) : Store :=
  match s.arb arb_id with
  | none => s
  | some row => { s with arbs := s.arbs.insert arb_id (outcome_row row new_status note_line note) }

/-- The database refuses some writes: orders by id, outcomes by arb. -/
structure Refusals where
  order : String → Option String
  outcome : String → Option String

/-- Every write goes through. -/
def no_refusals : Refusals := ⟨fun _ => none, fun _ => none⟩

/-- The store behind the calls: `venue` answers the lookups, by order id. -/
def desk (venue : String → Lookup) (old : String → Prop) (refused : Refusals) :
    Env Call Answer Store where
  serve := fun s c answer s' =>
    match c with
    | .list_non_terminal_orders =>
        s' = s ∧ match answer with
          | .ok orders => NonTerminal s orders
          | .error _ => True
    | .list_stuck_arbs =>
        s' = s ∧ match answer with
          | .ok stuck => Stuck old s stuck
          | .error _ => True
    | .get_order _ order => s' = s ∧ answer = venue order.order_id
    | .upsert_order order arb_id =>
        match refused.order order.order_id, s.upsert_order order (some arb_id) none with
        | none, some written => answer = .ok () ∧ s' = written
        | none, none =>
            s' = s ∧ answer = .error ("upsert_order requires arb_id (could not derive from " ++
              "order_id='" ++ order.order_id ++ "')")
        | some err, _ => answer = .error err ∧ s' = s
    | .persist_outcome arb_id new_status note_line note =>
        match refused.outcome arb_id with
        | none => answer = .ok () ∧ s' = persisted_outcome s arb_id new_status note_line note
        | some err => answer = .error err ∧ s' = s
    | .now => s' = s

/-- Only the row of `order_id` changes, and it becomes `row`. -/
def Rewrites (order_id : String) (row : OrderRow) (s s' : Store) : Prop :=
  s'.order order_id = some row ∧ ∀ id, id ≠ order_id → s'.order id = s.order id

/-! ## Section 5: Small lemmas -/

section lemmas

variable {venue : String → Lookup} {old : String → Prop} {refused : Refusals} {s s' : Store}

@[simp] theorem to_order_order_id (order_id : String) (row : OrderRow) :
    (row.to_order order_id).order_id = order_id := rfl

/-- The desk has an answer to everything. -/
theorem desk_serves (s : Store) (c : Call) :
    ∃ answer s', (desk venue old refused).serve s c answer s' := by
  cases c with
  | list_non_terminal_orders => exact ⟨.error "", s, rfl, trivial⟩
  | list_stuck_arbs => exact ⟨.error "", s, rfl, trivial⟩
  | get_order platform order => exact ⟨_, s, rfl, rfl⟩
  | upsert_order order arb_id =>
    simp only [desk]
    cases refused.order order.order_id with
    | some err => exact ⟨_, s, rfl, rfl⟩
    | none =>
      cases s.upsert_order order (some arb_id) none with
      | none => exact ⟨_, s, rfl, rfl⟩
      | some written => exact ⟨_, written, rfl, rfl⟩
  | persist_outcome arb_id new_status note_line note =>
    simp only [desk]
    cases refused.outcome arb_id with
    | none => exact ⟨_, _, rfl, rfl⟩
    | some err => exact ⟨_, s, rfl, rfl⟩
  | now => exact ⟨0, s, rfl⟩

/-- The write of an order, that the database takes or refuses. -/
theorem wp_upsert_order {order : Order ℚ} {arb_id : String}
    {Q : Except String Unit → Store → Prop}
    (hok : ∀ id, refused.order order.order_id = none → written_arb_id order (some arb_id) = some id →
      Q (.ok ()) (s.upsert_order_on_conn order id none))
    (herr : ∀ err, refused.order order.order_id ≠ none ∨ written_arb_id order (some arb_id) = none →
      Q (.error err) s) :
    wp (desk venue old refused) (upsert_order order arb_id) Q s := by
  refine wp_send.2 fun answer s' hs => ?_
  change (match refused.order order.order_id, s.upsert_order order (some arb_id) none with
    | none, some written => answer = .ok () ∧ s' = written
    | none, none => s' = s ∧ answer = .error _
    | some err, _ => answer = .error err ∧ s' = s) at hs
  unfold Store.upsert_order at hs
  cases hrefused : refused.order order.order_id with
  | some err =>
    rw [hrefused] at hs
    rw [hs.1, hs.2]
    exact herr err (.inl (by simp [hrefused]))
  | none =>
    rw [hrefused] at hs
    cases hid : written_arb_id order (some arb_id) with
    | none =>
      rw [hid] at hs
      obtain ⟨rfl, rfl⟩ := hs
      exact herr _ (.inr hid)
    | some id =>
      rw [hid] at hs
      obtain ⟨rfl, rfl⟩ := hs
      exact hok id hrefused hid

theorem Rewrites.refl {order_id : String} {row : OrderRow} (h : s.order order_id = some row) :
    Rewrites order_id row s s :=
  ⟨h, fun _ _ => rfl⟩

theorem mem_non_terminal {orders : List (Order ℚ)} (h : NonTerminal s orders)
    (order : Order ℚ) :
    order ∈ orders ↔ ∃ id row, s.order id = some row ∧ non_terminal_row id row ∧
      row.to_order id = order := by
  rw [h.mem_iff, List.mem_map]
  constructor
  · rintro ⟨⟨id, row⟩, hmem, rfl⟩
    obtain ⟨hentry, hlisted⟩ := List.mem_filter.1 hmem
    exact ⟨id, row, AList.mem_lookup_iff.2 hentry, of_decide_eq_true hlisted, rfl⟩
  · rintro ⟨id, row, hrow, hlisted, rfl⟩
    have hentry : (⟨id, row⟩ : Sigma fun _ : String => OrderRow) ∈ s.orders.entries :=
      AList.mem_lookup_iff.1 hrow
    exact ⟨⟨id, row⟩, List.mem_filter.2 ⟨hentry, decide_eq_true hlisted⟩, rfl⟩

/-- Every order is listed once. -/
theorem nodup_non_terminal {orders : List (Order ℚ)} (h : NonTerminal s orders) :
    (orders.map (·.order_id)).Nodup := by
  have hids : (orders.map (·.order_id)).Perm
      ((s.orders.entries.filter fun e => non_terminal_row e.1 e.2).map (·.1)) := by
    have hmap := List.Perm.map (·.order_id) h
    rw [List.map_map] at hmap
    exact hmap
  apply hids.nodup_iff.2
  have hkeys : (s.orders.entries.map (·.1)).Nodup := s.orders.nodupKeys
  exact hkeys.sublist (List.filter_sublist.map _)

theorem mem_legs_of {arb_id id : String} {row : OrderRow} :
    (id, row) ∈ legs_of s arb_id ↔ s.order id = some row ∧ row.arb_id = arb_id := by
  have hentry : s.order id = some row ↔
      (⟨id, row⟩ : Sigma fun _ : String => OrderRow) ∈ s.orders.entries := AList.mem_lookup_iff
  unfold legs_of
  rw [List.mem_map, hentry]
  constructor
  · rintro ⟨e, hmem, heq⟩
    obtain ⟨hmem, harb⟩ := List.mem_filter.1 hmem
    obtain ⟨rfl, rfl⟩ := Prod.mk.inj heq
    exact ⟨hmem, of_decide_eq_true harb⟩
  · rintro ⟨hmem, harb⟩
    exact ⟨⟨id, row⟩, List.mem_filter.2 ⟨hmem, decide_eq_true harb⟩, rfl⟩

theorem nodup_legs_of (arb_id : String) : ((legs_of s arb_id).map (·.1)).Nodup := by
  have hkeys : (s.orders.entries.map (·.1)).Nodup := s.orders.nodupKeys
  unfold legs_of
  rw [List.map_map]
  exact hkeys.sublist (List.filter_sublist.map _)

@[simp] theorem persisted_outcome_order (arb_id new_status note_line note id : String) :
    (persisted_outcome s arb_id new_status note_line note).order id = s.order id := by
  unfold persisted_outcome
  split <;> rfl

end lemmas

end Reconcile
