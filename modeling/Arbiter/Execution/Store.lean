import Mathlib.Data.List.AList
import Mathlib.Data.Rat.Floor
import Arbiter.Framework.Decimal
import Arbiter.Framework.Text
import Arbiter.Execution.Opportunity

/-! # The Execution Store

  `ExecutionStore`: the tables `execution_arbs` and `execution_orders`, and the writes
  the engine and its recoveries make. A statement either takes effect as a whole or
  not at all.

  The timestamp columns and the JSON of the opportunity are left out; no statement
  reads them back. Numbers are kept as they are written.
-/

namespace Execution

/-! ## Section 1: Tables -/

/-- A row of `execution_arbs`, under its `arb_id`. -/
structure ArbRow where
  canonical_id : String
  status : String
  net_edge : Option ℚ
  realized_pnl : ℚ
  unwind_pnl : ℚ
  is_simulation : Bool
  recovery_notes : String
  deriving DecidableEq

/-- A row of `execution_orders`, under its `order_id`. -/
structure OrderRow where
  arb_id : String
  client_order_id : Option String
  platform : String
  market_id : String
  canonical_id : String
  side : Side
  price : ℚ≥0
  quantity : ℚ
  status : OrderStatus
  fill_price : ℚ≥0
  fill_qty : ℚ
  error : String
  deriving DecidableEq

/-- Both tables, by primary key. -/
structure Store where
  arbs : AList fun _ : String => ArbRow
  orders : AList fun _ : String => OrderRow

/-- The row of an arb. -/
def Store.arb (s : Store) (arb_id : String) : Option ArbRow := s.arbs.lookup arb_id

/-- The row of an order. -/
def Store.order (s : Store) (order_id : String) : Option OrderRow := s.orders.lookup order_id

/-- A leg with its contracts as the columns hold them. -/
def Order.columns (leg : Leg) : Order ℚ :=
  { leg with quantity := leg.quantity, fill_qty := leg.fill_qty }

/-! ## Section 2: Orders -/

/-- `store._derive_arb_id`: the `ARB-NNNNNN` an order id starts with. -/
def derive_arb_id (order_id : String) : Option String :=
  match order_id.splitOn "-" with
  | "ARB" :: number :: _ => some ("ARB-" ++ number)
  | _ => none

/-- The row an order is inserted as. -/
def OrderRow.inserted (order : Order ℚ) (arb_id : String) (client_order_id : Option String) :
    OrderRow where
  arb_id := arb_id
  client_order_id := client_order_id
  platform := order.platform
  market_id := order.market_id
  canonical_id := order.canonical_id
  side := order.side
  price := order.price
  quantity := order.quantity
  status := order.status
  fill_price := order.fill_price
  fill_qty := order.fill_qty
  error := order.error

/-- The columns a later write of the order sets. -/
def OrderRow.updated (row : OrderRow) (order : Order ℚ) : OrderRow :=
  { row with
    status := order.status
    fill_price := order.fill_price
    fill_qty := order.fill_qty
    error := order.error }

/-- `_upsert_order_on_conn`, once it has an `arb_id`. -/
def Store.upsert_order_on_conn (s : Store) (order : Order ℚ) (arb_id : String)
    (client_order_id : Option String) : Store :=
  { s with
    orders := s.orders.insert order.order_id
      (match s.order order.order_id with
       | none => .inserted order arb_id client_order_id
       | some row => row.updated order) }

/-- The `arb_id` that is written: the one given, else the one of the order id. -/
def written_arb_id (order : Order ℚ) (arb_id : Option String) : Option String :=
  match arb_id.filter (· ≠ "") with
  | some given => some given
  | none => derive_arb_id order.order_id

/-- `upsert_order`: nothing is written when there is no `arb_id` to be had. -/
def Store.upsert_order (s : Store) (order : Order ℚ) (arb_id : Option String)
    (client_order_id : Option String) : Option Store :=
  (written_arb_id order arb_id).map fun id => s.upsert_order_on_conn order id client_order_id

/-- `_row_to_order`. -/
def OrderRow.to_order (order_id : String) (row : OrderRow) : Order ℚ where
  order_id := order_id
  platform := row.platform
  market_id := row.market_id
  canonical_id := row.canonical_id
  side := row.side
  price := row.price
  quantity := ⌊row.quantity⌋
  status := row.status
  fill_price := row.fill_price
  fill_qty := row.fill_qty
  error := row.error
  external_client_order_id := none
  idempotency_ambiguous := false

/-! ## Section 3: Arbs -/

/-- The row a stub is inserted as. -/
def ArbRow.stub (canonical_id : String) (net_edge : Option ℚ) : ArbRow where
  canonical_id := canonical_id
  status := "pending"
  net_edge := net_edge
  realized_pnl := 0
  unwind_pnl := 0
  is_simulation := false
  recovery_notes := ""

/-- `record_arb_stub_with_leg`: a row that is there is left alone. -/
def Store.record_arb_stub_with_leg (s : Store) (arb_id canonical_id : String)
    (first_leg : Order ℚ) (net_edge : Option ℚ) (client_order_id : Option String) : Store :=
  let s := match s.arb arb_id with
    | none => { s with arbs := s.arbs.insert arb_id (.stub canonical_id net_edge) }
    | some _ => s
  s.upsert_order_on_conn first_leg arb_id client_order_id

/-- The row `record_arb` leaves over what was there. -/
def ArbRow.recorded (execution : ArbExecution) : Option ArbRow → ArbRow
  | none =>
      { canonical_id := execution.opportunity.canonical_id
        status := execution.status.value
        net_edge := some execution.opportunity.net_edge
        realized_pnl := execution.realized_pnl
        unwind_pnl := execution.unwind_pnl
        is_simulation := execution.status = .simulated
        recovery_notes := "" }
  | some row =>
      { row with
        status := execution.status.value
        realized_pnl := execution.realized_pnl
        unwind_pnl := execution.unwind_pnl }

/-- `record_arb`: the arb and both legs, in one transaction. -/
def Store.record_arb (s : Store) (execution : ArbExecution) : Store :=
  let s := { s with
    arbs := s.arbs.insert execution.arb_id (.recorded execution (s.arb execution.arb_id)) }
  let s := s.upsert_order_on_conn execution.leg_yes.columns execution.arb_id none
  s.upsert_order_on_conn execution.leg_no.columns execution.arb_id none

/-- `NAKED_LEG_RECONCILED_SENTINEL`. -/
def naked_leg_reconciled_sentinel : String := "[naked-leg-reconciled]"

/-- An order of the arb is still `pending`, `submitted` or `partial`. -/
def Store.has_open_order (s : Store) (arb_id : String) : Bool :=
  s.orders.entries.any fun row => decide (row.2.arb_id = arb_id ∧ row.2.status.mayStillFill)

/-- The notes with the sentinel in them. -/
def reconciled_notes (recovery_notes note : String) : String :=
  if recovery_notes = "" then naked_leg_reconciled_sentinel ++ " " ++ note
  else if Text.occurs naked_leg_reconciled_sentinel recovery_notes then recovery_notes
  else recovery_notes ++ "\n" ++ naked_leg_reconciled_sentinel ++ " " ++ note

/-- `mark_naked_leg_reconciled`: closes the arb unless one of its orders is open. -/
def Store.mark_naked_leg_reconciled (s : Store) (arb_id : String) (unwind_pnl : ℚ)
    (note : String) : Store :=
  match s.arb arb_id with
  | none => s
  | some row =>
      { s with
        arbs := s.arbs.insert arb_id
          { row with
            unwind_pnl := unwind_pnl
            status := if s.has_open_order arb_id then row.status else "closed"
            recovery_notes := reconciled_notes row.recovery_notes note } }

/-- The statuses of an arb that is over. -/
def terminal_arb_statuses : List String := ["filled", "failed", "simulated", "cancelled", "closed"]

/-- The profit `realized_pnl_split` reads off a row: an unwind is in `realized_pnl`
    already where the engine recorded it. -/
def ArbRow.profit (row : ArbRow) : ℚ :=
  if row.realized_pnl ≠ 0 then row.realized_pnl else row.unwind_pnl

/-- The statuses under which `realized_pnl_split` counts a profit as settled. -/
def settled_arb_statuses : List String := ["closed", "failed", "simulated", "cancelled"]

/-- The sum of the profits of the rows that meet `counted`. -/
def Store.profit (s : Store) (counted : ArbRow → Bool) : ℚ :=
  ((s.arbs.entries.filter fun row => counted row.2).map fun row => row.2.profit).sum

/-- `realized_pnl_split`: settled cash, and the edge booked by open arbs. -/
def Store.realized_pnl_split (s : Store) : ℚ × ℚ :=
  (Decimal.round_to 2 (s.profit fun row => row.status ∈ settled_arb_statuses),
    Decimal.round_to 2 (s.profit fun row => row.status ∉ settled_arb_statuses))

/-! ## Section 4: Small lemmas -/

section lemmas

variable {s : Store} {order : Order ℚ} {arb_id id : String} {client_order_id : Option String}

theorem derive_arb_id_empty : derive_arb_id "" = none := by
  have hsplit : "".splitOn "-" = [""] := by
    unfold String.splitOn String.splitOnAux
    rfl
  unfold derive_arb_id
  rw [hsplit]
  rfl

/-- An `arb_id` that is given is the one written. -/
theorem written_arb_id_given (order : Order ℚ) (h : arb_id ≠ "") :
    written_arb_id order (some arb_id) = some arb_id := by
  have hkept : (some arb_id).filter (· ≠ "") = some arb_id := by simp [h]
  unfold written_arb_id
  rw [hkept]

theorem written_arb_id_derived (order : Order ℚ) :
    written_arb_id order (some "") = derive_arb_id order.order_id := by
  rfl

theorem upsert_order_on_conn_order {row : OrderRow} (h : s.order order.order_id = some row) :
    (s.upsert_order_on_conn order arb_id client_order_id).order order.order_id =
      some (row.updated order) := by
  show AList.lookup _ (AList.insert _ _ _) = _
  rw [AList.lookup_insert, h]

theorem upsert_order_on_conn_order_ne (h : id ≠ order.order_id) :
    (s.upsert_order_on_conn order arb_id client_order_id).order id = s.order id := by
  show AList.lookup _ (AList.insert _ _ _) = _
  rw [AList.lookup_insert_ne h]
  rfl

@[simp] theorem record_arb_arb (execution : ArbExecution) :
    (s.record_arb execution).arb execution.arb_id =
      some (.recorded execution (s.arb execution.arb_id)) := by
  show AList.lookup _ (AList.insert _ _ _) = _
  rw [AList.lookup_insert]

end lemmas

end Execution
