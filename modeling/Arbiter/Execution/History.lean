import Arbiter.Framework.Query
import Arbiter.Execution.Store
import Arbiter.Scanner.Opportunity

/-! # The Execution History

  `load_execution_history`: the executions of the dashboard, read back from the tables.
  The opportunity is kept as the dictionary `to_dict` made when the arb was first
  written. The legs are told apart by their side, or by a `YES` or `NO` in the order id,
  and the row that was submitted last stands for the leg.
-/

namespace Execution

open Scanner (ArbitrageOpportunity)

/-! ## Section 1: The opportunity that is kept -/

/-- The numbers an execution is judged by. -/
structure Economics where
  yes_price : ℚ≥0
  yes_fee : ℚ
  no_price : ℚ≥0
  no_fee : ℚ
  gross_edge : ℚ
  total_fees : ℚ
  net_edge : ℚ
  net_edge_cents : ℚ
  suggested_qty : ℕ
  max_profit_usd : ℚ
  deriving DecidableEq

/-- The economics of an opportunity. -/
def economics (opp : ArbitrageOpportunity) : Economics where
  yes_price := opp.yes_price
  yes_fee := opp.yes_fee
  no_price := opp.no_price
  no_fee := opp.no_fee
  gross_edge := opp.gross_edge
  total_fees := opp.total_fees
  net_edge := opp.net_edge
  net_edge_cents := opp.net_edge_cents
  suggested_qty := opp.suggested_qty
  max_profit_usd := opp.max_profit_usd

/-- The decimals `to_dict` keeps. -/
def Economics.rounded (x : Economics) : Economics where
  yes_price := (Decimal.round_to 4 x.yes_price).toNNRat
  yes_fee := Decimal.round_to 4 x.yes_fee
  no_price := (Decimal.round_to 4 x.no_price).toNNRat
  no_fee := Decimal.round_to 4 x.no_fee
  gross_edge := Decimal.round_to 4 x.gross_edge
  total_fees := Decimal.round_to 4 x.total_fees
  net_edge := Decimal.round_to 4 x.net_edge
  net_edge_cents := Decimal.round_to 2 x.net_edge_cents
  suggested_qty := x.suggested_qty
  max_profit_usd := Decimal.round_to 2 x.max_profit_usd

/-- What is read back of `opportunity_json`, when it is not `null`. -/
structure OpportunityDict where
  canonical_id : String
  description : String
  yes_platform : String
  yes_market_id : String
  no_platform : String
  no_market_id : String
  numbers : Economics
  timestamp : ℚ
  status : OppStatus
  mapping_status : String
  deriving DecidableEq

/-- `to_dict`. -/
def to_dict (opp : ArbitrageOpportunity) : OpportunityDict where
  canonical_id := opp.canonical_id
  description := opp.description
  yes_platform := opp.yes_platform
  yes_market_id := opp.yes_market_id
  no_platform := opp.no_platform
  no_market_id := opp.no_market_id
  numbers := (economics opp).rounded
  timestamp := opp.timestamp
  status := opp.status
  mapping_status := opp.mapping_status

/-- The defaults of the reading, for a payload that is `null`. -/
def OpportunityDict.empty (canonical_id : String) : OpportunityDict where
  canonical_id := canonical_id
  description := ""
  yes_platform := ""
  yes_market_id := ""
  no_platform := ""
  no_market_id := ""
  numbers := ⟨0, 0, 0, 0, 0, 0, 0, 0, 0, 0⟩
  timestamp := 0
  status := .candidate
  mapping_status := "candidate"

/-- `ArbitrageOpportunity(...)` of a payload: what is not read has its default. -/
def OpportunityDict.to_opportunity (data : OpportunityDict) : ArbitrageOpportunity where
  canonical_id := data.canonical_id
  description := data.description
  yes_platform := data.yes_platform
  yes_price := data.numbers.yes_price
  yes_fee := data.numbers.yes_fee
  yes_market_id := data.yes_market_id
  no_platform := data.no_platform
  no_price := data.numbers.no_price
  no_fee := data.numbers.no_fee
  no_market_id := data.no_market_id
  gross_edge := data.numbers.gross_edge
  total_fees := data.numbers.total_fees
  net_edge := data.numbers.net_edge
  net_edge_cents := data.numbers.net_edge_cents
  suggested_qty := data.numbers.suggested_qty
  max_profit_usd := data.numbers.max_profit_usd
  timestamp := data.timestamp
  confidence := 0
  status := data.status
  persistence_count := 1
  quote_age_seconds := 0
  min_available_liquidity := 0
  mapping_status := data.mapping_status
  mapping_score := 0
  requires_manual := false
  yes_fee_rate := some 0
  no_fee_rate := some 0
  yes_quote_age_seconds := 0
  no_quote_age_seconds := 0

theorem economics_to_opportunity (data : OpportunityDict) :
    economics data.to_opportunity = data.numbers := by
  rfl

/-- An execution, with its opportunity as the scanner made it. -/
structure ScannedExecution where
  execution : ArbExecution
  scanned : ArbitrageOpportunity
  opportunity_eq : execution.opportunity = scanned.to_engine

/-- The leg on a side. -/
def ScannedExecution.leg (e : ScannedExecution) : Side → Leg
  | .yes => e.execution.leg_yes
  | .no => e.execution.leg_no

/-! ## Section 2: The tables -/

/-- The tables, with the columns that are read back here. The entries under keys that have
    no row are never read. -/
structure History where
  store : Store
  /-- By arb id; `none` is `null`. -/
  opportunity_json : String → Option OpportunityDict
  created_at : String → ℚ
  /-- By order id. -/
  submitted_at : String → ℚ

namespace History

/-- `_upsert_order_on_conn` at the time `now`. -/
def upsert_order_on_conn (h : History) (now : ℚ) (order : Order ℚ) (arb_id : String)
    (client_order_id : Option String) : History :=
  { h with
    store := h.store.upsert_order_on_conn order arb_id client_order_id
    submitted_at :=
      match h.store.order order.order_id with
      | none => Function.update h.submitted_at order.order_id now
      | some _ => h.submitted_at }

/-- The columns that are set when a row of `execution_arbs` is inserted, and only then. -/
def insert_arb (h : History) (now : ℚ) (arb_id : String) (data : Option OpportunityDict) :
    History :=
  match h.store.arb arb_id with
  | none =>
      { h with
        opportunity_json := Function.update h.opportunity_json arb_id data
        created_at := Function.update h.created_at arb_id now }
  | some _ => h

/-- `record_arb` at the time `now`, which is one for the whole transaction. -/
def record_arb (h : History) (now : ℚ) (e : ScannedExecution) : History :=
  let arb_id := e.execution.arb_id
  let kept := h.insert_arb now arb_id (some (to_dict e.scanned))
  let arbs := h.store.arbs.insert arb_id (.recorded e.execution (h.store.arb arb_id))
  let h := { kept with store := { h.store with arbs } }
  let h := h.upsert_order_on_conn now e.execution.leg_yes.columns arb_id none
  h.upsert_order_on_conn now e.execution.leg_no.columns arb_id none

/-- The store sees the write it knows. -/
theorem record_arb_store (h : History) (now : ℚ) (e : ScannedExecution) :
    (h.record_arb now e).store = h.store.record_arb e.execution := by
  rfl

/-! ## Section 3: Reading back -/

/-- The rows of `execution_arbs`, with their keys. -/
def arb_rows (h : History) : List (String × ArbRow) :=
  h.store.arbs.entries.map fun row => (row.1, row.2)

/-- The rows of `execution_orders` of some arbs, with their keys. -/
def order_rows (h : History) (arb_ids : List String) : List (String × OrderRow) :=
  (h.store.orders.entries.map fun row => (row.1, row.2)).filter fun row => row.2.arb_id ∈ arb_ids

/-- `arbs` answers the first query: the newest arbs first, `limit` of them. -/
def AnswersArbs (h : History) (limit : Option ℕ) (arbs : List (String × ArbRow)) : Prop :=
  ∃ answer, Query.Answers (fun arb => OrderDual.toDual (h.created_at arb.1)) h.arb_rows answer ∧
    arbs = match limit with
      | none => answer
      | some n => answer.take n

/-- `orders` answers the second query: the orders of these arbs, the oldest first. -/
def AnswersOrders (h : History) (arbs : List (String × ArbRow))
    (orders : List (String × OrderRow)) : Prop :=
  Query.Answers (fun order => h.submitted_at order.1) (h.order_rows (arbs.map Prod.fst)) orders

end History

/-- The leg a row is taken for. -/
def leg_side (order_id : String) (side : Side) : Option Side :=
  if side = .yes ∨ Text.occurs "YES" order_id.toUpper then some .yes
  else if side = .no ∨ Text.occurs "NO" order_id.toUpper then some .no
  else none

/-- A leg of a loaded execution: of a row, or made up for want of one. -/
inductive LoadedLeg
  | of_row (order : Order ℚ)
  | placeholder (order : Order ℚ)

/-- `ArbExecution`, as loaded. -/
structure LoadedExecution where
  arb_id : String
  opportunity : ArbitrageOpportunity
  leg_yes : LoadedLeg
  leg_no : LoadedLeg
  status : String
  realized_pnl : ℚ
  unwind_pnl : ℚ
  timestamp : ℚ

/-- The leg on a side. -/
def LoadedExecution.leg (x : LoadedExecution) : Side → LoadedLeg
  | .yes => x.leg_yes
  | .no => x.leg_no

/-- The rows of the loop, the last one of a side winning: `leg_yes` and `leg_no`. -/
def read_legs (rows : List (String × OrderRow)) : Option (Order ℚ) × Option (Order ℚ) :=
  rows.foldl
    (fun legs row =>
      match leg_side row.1 row.2.side with
      | some .yes => (some (row.2.to_order row.1), legs.2)
      | some .no => (legs.1, some (row.2.to_order row.1))
      | none => legs)
    (none, none)

/-- The order made up for a leg that has no row: filled when the arb is. -/
def placeholder_order (arb_id status : String) (opp : ArbitrageOpportunity) (side : Side) :
    Order ℚ where
  order_id := arb_id ++ "-" ++ side.upper
  platform := match side with
    | .yes => opp.yes_platform
    | .no => opp.no_platform
  market_id := match side with
    | .yes => opp.yes_market_id
    | .no => opp.no_market_id
  canonical_id := opp.canonical_id
  side := side
  price := match side with
    | .yes => opp.yes_price
    | .no => opp.no_price
  quantity := opp.suggested_qty
  status := if status ∈ ["filled", "simulated"] then .filled else .pending
  fill_price := match side with
    | .yes => opp.yes_price
    | .no => opp.no_price
  fill_qty := if status ∈ ["filled", "simulated"] then opp.suggested_qty else 0
  error := ""
  external_client_order_id := none
  idempotency_ambiguous := false

/-- The leg that was read, else the placeholder. -/
def loaded_leg (placeholder : Order ℚ) : Option (Order ℚ) → LoadedLeg
  | some order => .of_row order
  | none => .placeholder placeholder

/-- The opportunity that is rebuilt for an arb. -/
def History.opportunity (h : History) (arb : String × ArbRow) : ArbitrageOpportunity :=
  ((h.opportunity_json arb.1).getD (.empty arb.2.canonical_id)).to_opportunity

/-- One turn of the loop over the arbs. -/
def History.load_arb (h : History) (orders : List (String × OrderRow)) (arb : String × ArbRow) :
    LoadedExecution :=
  let opp := h.opportunity arb
  let legs := read_legs (orders.filter fun row => row.2.arb_id = arb.1)
  { arb_id := arb.1
    opportunity := opp
    leg_yes := loaded_leg (placeholder_order arb.1 arb.2.status opp .yes) legs.1
    leg_no := loaded_leg (placeholder_order arb.1 arb.2.status opp .no) legs.2
    status := if arb.2.status = "" then "unknown" else arb.2.status
    realized_pnl := arb.2.realized_pnl
    unwind_pnl := arb.2.unwind_pnl
    timestamp := h.created_at arb.1 }

/-- `load_execution_history`, given what the queries answered: the oldest arb first. -/
def History.load_execution_history (h : History) (arbs : List (String × ArbRow))
    (orders : List (String × OrderRow)) : List LoadedExecution :=
  arbs.reverse.map (h.load_arb orders)

/-! ## Section 4: Round trips -/

/-- The order says what was recorded of the leg. -/
structure SameLeg (leg : Leg) (order : Order ℚ) : Prop where
  order_id : order.order_id = leg.order_id
  platform : order.platform = leg.platform
  side : order.side = leg.side
  price : order.price = leg.price
  quantity : order.quantity = leg.quantity
  status : order.status = leg.status
  fill_price : order.fill_price = leg.fill_price
  fill_qty : order.fill_qty = leg.fill_qty

/-- The loaded execution is the one recorded, and its legs were read from rows. -/
structure RoundTrips (e : ScannedExecution) (x : LoadedExecution) : Prop where
  arb_id : x.arb_id = e.execution.arb_id
  status : x.status = e.execution.status.value
  realized_pnl : x.realized_pnl = e.execution.realized_pnl
  unwind_pnl : x.unwind_pnl = e.execution.unwind_pnl
  economics : economics x.opportunity = economics e.scanned
  legs : ∀ side, ∃ order, x.leg side = .of_row order ∧ SameLeg (e.leg side) order

/-- The execution comes back, whatever the queries answer that has its arb. -/
def History.ReadsBack (h : History) (now : ℚ) (e : ScannedExecution) : Prop :=
  ∀ limit arbs orders, (h.record_arb now e).AnswersArbs limit arbs →
    (h.record_arb now e).AnswersOrders arbs orders →
    e.execution.arb_id ∈ arbs.map Prod.fst →
    ∃ x ∈ (h.record_arb now e).load_execution_history arbs orders, RoundTrips e x

/-- A row that is under the order id of a leg already is of the same order. -/
structure SameOrder (arb_id : String) (leg : Leg) (row : OrderRow) : Prop where
  arb_id : row.arb_id = arb_id
  platform : row.platform = leg.platform
  side : row.side = leg.side
  price : row.price = leg.price
  quantity : (⌊row.quantity⌋ : ℚ) = leg.quantity

namespace History

/-- When the row of a leg was submitted, one not there being submitted `now`. -/
def leg_submitted_at (h : History) (now : ℚ) (leg : Leg) : ℚ :=
  match h.store.order leg.order_id with
  | none => now
  | some _ => h.submitted_at leg.order_id

/-- The numbers kept under the arb: those that were there, else the rounded ones. -/
def kept_numbers (h : History) (e : ScannedExecution) : Economics :=
  match h.store.arb e.execution.arb_id with
  | none => (economics e.scanned).rounded
  | some _ => ((h.opportunity_json e.execution.arb_id).getD (.empty "")).numbers

/-- What tells an execution apart before it is recorded: the numbers are the ones that are
    kept, each leg is taken for its own side, and no other order of the arb that is taken
    for that side was submitted as late. -/
structure Identified (h : History) (now : ℚ) (e : ScannedExecution) : Prop where
  numbers : h.kept_numbers e = economics e.scanned
  two_orders : (e.leg .yes).order_id ≠ (e.leg .no).order_id
  same_order : ∀ side row, h.store.order (e.leg side).order_id = some row →
    SameOrder e.execution.arb_id (e.leg side) row
  own_side : ∀ side, leg_side (e.leg side).order_id (e.leg side).side = some side
  latest : ∀ side order_id row, h.store.order order_id = some row →
    row.arb_id = e.execution.arb_id → order_id ≠ (e.leg side).order_id →
    leg_side order_id row.side = some side →
    h.submitted_at order_id < h.leg_submitted_at now (e.leg side)

end History

/-! ### The rows that are read -/

/-- The row is taken for the leg on `side`. -/
def read_as (side : Side) (row : String × OrderRow) : Bool :=
  leg_side row.1 row.2.side = some side

/-- The last row of a side stands for its leg. -/
theorem read_legs_eq (rows : List (String × OrderRow)) :
    read_legs rows =
      ((Query.last (read_as .yes) rows).map fun row => row.2.to_order row.1,
        (Query.last (read_as .no) rows).map fun row => row.2.to_order row.1) := by
  induction rows using List.reverseRecOn with
  | nil => rfl
  | append_singleton rows row ih =>
    unfold read_legs at ih ⊢
    rw [List.foldl_append, ih, Query.last_concat, Query.last_concat]
    simp only [List.foldl_cons, List.foldl_nil, read_as]
    have hsides : ∀ side : Option Side, side = none ∨ side = some .yes ∨ side = some .no := by
      rintro (- | _ | _) <;> simp
    obtain hside | hside | hside := hsides (leg_side row.1 row.2.side) <;> simp [hside]

namespace History

/-- A row is listed under its key. -/
theorem mem_rows {α : Type} {t : AList fun _ : String => α} {row : String × α} :
    row ∈ t.entries.map (fun entry => (entry.1, entry.2)) ↔ t.lookup row.1 = some row.2 := by
  rw [← Option.mem_def, AList.mem_lookup_iff, List.mem_map]
  constructor
  · rintro ⟨entry, hentry, rfl⟩
    exact hentry
  · exact fun hentry => ⟨_, hentry, rfl⟩

theorem mem_order_rows {h : History} {arb_ids : List String} {row : String × OrderRow} :
    row ∈ h.order_rows arb_ids ↔ h.store.order row.1 = some row.2 ∧ row.2.arb_id ∈ arb_ids := by
  unfold order_rows Store.order
  rw [List.mem_filter, decide_eq_true_iff]
  exact and_congr_left fun _ => mem_rows

theorem mem_arb_rows {h : History} {arb : String × ArbRow} :
    arb ∈ h.arb_rows ↔ h.store.arb arb.1 = some arb.2 :=
  mem_rows

/-- An arb that is answered is in the table. -/
theorem AnswersArbs.mem {h : History} {limit : Option ℕ} {arbs : List (String × ArbRow)}
    (hanswer : h.AnswersArbs limit arbs) {arb : String × ArbRow} (harb : arb ∈ arbs) :
    h.store.arb arb.1 = some arb.2 := by
  obtain ⟨answer, ⟨hperm, -⟩, rfl⟩ := hanswer
  have hmem : arb ∈ answer := by
    cases limit with
    | none => exact harb
    | some n => exact List.mem_of_mem_take harb
  exact mem_arb_rows.mp (hperm.mem_iff.mp hmem)

/-- The leg a side is loaded with. -/
theorem load_arb_leg (h : History) (orders : List (String × OrderRow)) (arb : String × ArbRow)
    (side : Side) :
    (h.load_arb orders arb).leg side =
      loaded_leg (placeholder_order arb.1 arb.2.status (h.opportunity arb) side)
        ((Query.last (fun row => read_as side row && decide (row.2.arb_id = arb.1)) orders).map
          fun row => row.2.to_order row.1) := by
  cases side with
  | yes => simp only [load_arb, LoadedExecution.leg, read_legs_eq, Query.last_filter]
  | no => simp only [load_arb, LoadedExecution.leg, read_legs_eq, Query.last_filter]

/-! ### The rows that are written -/

section written

variable {h : History} {now : ℚ} {e : ScannedExecution}

/-- The row a leg leaves. -/
def leg_row (h : History) (arb_id : String) (leg : Leg) : OrderRow :=
  match h.store.order leg.order_id with
  | none => .inserted leg.columns arb_id none
  | some row => row.updated leg.columns

theorem upsert_order (h : History) (order : Order ℚ) (arb_id order_id : String) :
    (h.upsert_order_on_conn now order arb_id none).store.order order_id =
      if order_id = order.order_id then
        some (match h.store.order order.order_id with
          | none => .inserted order arb_id none
          | some row => row.updated order)
      else h.store.order order_id := by
  show AList.lookup _ (AList.insert _ _ _) = _
  by_cases heq : order_id = order.order_id
  · rw [if_pos heq, heq]
    exact AList.lookup_insert _
  · rw [if_neg heq]
    exact AList.lookup_insert_ne heq

theorem upsert_submitted_at (h : History) (order : Order ℚ) (arb_id order_id : String) :
    (h.upsert_order_on_conn now order arb_id none).submitted_at order_id =
      if order_id = order.order_id ∧ h.store.order order_id = none then now
      else h.submitted_at order_id := by
  unfold upsert_order_on_conn
  by_cases heq : order_id = order.order_id
  · subst heq
    cases h.store.order order.order_id <;> simp
  · cases h.store.order order.order_id <;> simp [heq]

/-- The tables between the write of the arb and those of its legs. -/
def with_arb (h : History) (now : ℚ) (e : ScannedExecution) : History :=
  { h.insert_arb now e.execution.arb_id (some (to_dict e.scanned)) with
    store :=
      { h.store with
        arbs := h.store.arbs.insert e.execution.arb_id
          (.recorded e.execution (h.store.arb e.execution.arb_id)) } }

theorem record_arb_eq (h : History) (now : ℚ) (e : ScannedExecution) :
    h.record_arb now e =
      ((h.with_arb now e).upsert_order_on_conn now (e.leg .yes).columns e.execution.arb_id
        none).upsert_order_on_conn now (e.leg .no).columns e.execution.arb_id none := by
  rfl

theorem with_arb_order (order_id : String) :
    (h.with_arb now e).store.order order_id = h.store.order order_id := by
  rfl

theorem with_arb_submitted_at : (h.with_arb now e).submitted_at = h.submitted_at := by
  unfold with_arb insert_arb
  cases h.store.arb e.execution.arb_id <;> rfl

@[simp] theorem columns_order_id (leg : Leg) : (Order.columns leg).order_id = leg.order_id := rfl

/-- Rows of other orders stay. -/
theorem record_order_other {order_id : String} (hother : ∀ side, order_id ≠ (e.leg side).order_id) :
    (h.record_arb now e).store.order order_id = h.store.order order_id := by
  rw [record_arb_eq, upsert_order, columns_order_id, if_neg (hother .no), upsert_order,
    columns_order_id, if_neg (hother .yes), with_arb_order]

/-- The legs leave their rows. -/
theorem record_order_leg (htwo : (e.leg .yes).order_id ≠ (e.leg .no).order_id) (side : Side) :
    (h.record_arb now e).store.order (e.leg side).order_id =
      some (h.leg_row e.execution.arb_id (e.leg side)) := by
  rw [record_arb_eq, upsert_order, columns_order_id]
  cases side with
  | yes =>
    rw [if_neg htwo, upsert_order, columns_order_id, if_pos rfl]
    rfl
  | no =>
    rw [if_pos rfl, upsert_order, columns_order_id, if_neg htwo.symm]
    rfl

/-- A row that was there keeps its time. -/
theorem record_submitted_at_row {order_id : String} {row : OrderRow}
    (hrow : h.store.order order_id = some row) :
    (h.record_arb now e).submitted_at order_id = h.submitted_at order_id := by
  have hthere : ((h.with_arb now e).upsert_order_on_conn now (e.leg .yes).columns
      e.execution.arb_id none).store.order order_id ≠ none := by
    rw [upsert_order, with_arb_order order_id, hrow]
    split <;> simp
  rw [record_arb_eq, upsert_submitted_at, if_neg fun hboth => hthere hboth.2, upsert_submitted_at,
    with_arb_order, hrow, with_arb_submitted_at, if_neg fun hboth => nomatch hboth.2]

/-- The time of a leg's row. -/
theorem record_submitted_at_leg (side : Side) :
    (h.record_arb now e).submitted_at (e.leg side).order_id =
      h.leg_submitted_at now (e.leg side) := by
  unfold leg_submitted_at
  split
  · next hnone =>
    have hyes : (h.with_arb now e).store.order (e.leg side).order_id = none := hnone
    rw [record_arb_eq, upsert_submitted_at, upsert_submitted_at]
    cases side with
    | yes => simp [hyes]
    | no =>
      by_cases hsame : (e.leg .no).order_id = (e.leg .yes).order_id
      · simp [upsert_order, hsame, hsame ▸ hyes]
      · simp [hyes, upsert_order, hsame]
  · next hrow => exact record_submitted_at_row hrow

/-! ### The leg that is read -/

/-- The row of the leg is read for it: it is the arb's, is taken for the leg's side, says
    what was recorded, and was submitted after every other row taken for the side. -/
structure OnTop (h : History) (arb_id : String) (side : Side) (leg : Leg) (row : OrderRow) :
    Prop where
  there : h.store.order leg.order_id = some row
  of_arb : row.arb_id = arb_id
  own_side : leg_side leg.order_id row.side = some side
  same : SameLeg leg (row.to_order leg.order_id)
  latest : ∀ order_id other, h.store.order order_id = some other → other.arb_id = arb_id →
    order_id ≠ leg.order_id → leg_side order_id other.side = some side →
    h.submitted_at order_id < h.submitted_at leg.order_id

/-- The leg is the last row of every answer exactly where its row is on top. -/
theorem last_in_every_answer_iff_on_top {g : History} {arb_id : String} {arb_ids : List String}
    (hmem : arb_id ∈ arb_ids) {side : Side} {leg : Leg} {row : OrderRow}
    (hrow : g.store.order leg.order_id = some row) (harb : row.arb_id = arb_id)
    (hsame : SameLeg leg (row.to_order leg.order_id)) :
    (∀ orders, Query.Answers (fun order => g.submitted_at order.1) (g.order_rows arb_ids) orders →
      Query.last (fun row => read_as side row && decide (row.2.arb_id = arb_id)) orders =
        some (leg.order_id, row)) ↔
      g.OnTop arb_id side leg row := by
  rw [Query.last_in_every_answer_iff (mem_order_rows.mpr ⟨hrow, harb ▸ hmem⟩)]
  constructor
  · rintro ⟨hmeets, hlatest⟩
    have hreads : leg_side leg.order_id row.side = some side := by
      simpa [read_as] using (Bool.and_eq_true_iff.mp hmeets).1
    refine ⟨hrow, harb, hreads, hsame, fun order_id other hother harb' hne hside => ?_⟩
    refine hlatest (order_id, other) (mem_order_rows.mpr ⟨hother, harb' ▸ hmem⟩) ?_ ?_
    · simp [read_as, hside, harb']
    · exact fun heq => hne (congrArg Prod.fst heq)
  · intro htop
    refine ⟨by simp [read_as, htop.own_side, harb], fun other hother hmeets hne => ?_⟩
    obtain ⟨hreads, harb'⟩ := Bool.and_eq_true_iff.mp hmeets
    have hother' := (mem_order_rows.mp hother).1
    refine htop.latest other.1 other.2 hother' (of_decide_eq_true harb') (fun heq => hne ?_)
      (of_decide_eq_true hreads)
    rw [heq, hrow, Option.some_inj] at hother'
    exact Prod.ext heq hother'.symm

/-- What a leg is loaded from, in one answer. -/
theorem last_of_loaded {g : History} {arb : String × ArbRow} {arb_ids : List String}
    {orders : List (String × OrderRow)} {side : Side} {leg : Leg} {order : Order ℚ}
    (hanswer : Query.Answers (fun order => g.submitted_at order.1) (g.order_rows arb_ids) orders)
    (hleg : (g.load_arb orders arb).leg side = .of_row order) (hsame : SameLeg leg order) :
    ∃ row, g.store.order leg.order_id = some row ∧ row.arb_id = arb.1 ∧
      SameLeg leg (row.to_order leg.order_id) ∧
      Query.last (fun row => read_as side row && decide (row.2.arb_id = arb.1)) orders =
        some (leg.order_id, row) := by
  rw [load_arb_leg] at hleg
  cases hlast : Query.last (fun row => read_as side row && decide (row.2.arb_id = arb.1))
      orders with
  | none => rw [hlast] at hleg; cases hleg
  | some row =>
    rw [hlast] at hleg
    injection hleg with horder
    subst horder
    obtain ⟨hmem, hmeets⟩ := Query.last_mem hlast
    have hsame : SameLeg leg (row.2.to_order row.1) := hsame
    have hid : row.1 = leg.order_id := hsame.order_id
    have harb := of_decide_eq_true (Bool.and_eq_true_iff.mp hmeets).2
    have hrow := (mem_order_rows.mp (hanswer.1.mem_iff.mp hmem)).1
    rw [hid] at hrow hsame
    exact ⟨row.2, hrow, harb, hsame, by rw [← hid]⟩

theorem recorded_status (execution : ArbExecution) (arb : Option ArbRow) :
    (ArbRow.recorded execution arb).status = execution.status.value := by
  cases arb <;> rfl

theorem recorded_status_ne_empty (execution : ArbExecution) (arb : Option ArbRow) :
    (ArbRow.recorded execution arb).status ≠ "" := by
  rw [recorded_status]
  cases execution.status <;> simp [ExecStatus.value]

theorem recorded_realized_pnl (execution : ArbExecution) (arb : Option ArbRow) :
    (ArbRow.recorded execution arb).realized_pnl = execution.realized_pnl := by
  cases arb <;> rfl

theorem recorded_unwind_pnl (execution : ArbExecution) (arb : Option ArbRow) :
    (ArbRow.recorded execution arb).unwind_pnl = execution.unwind_pnl := by
  cases arb <;> rfl

/-- The numbers of the opportunity that is rebuilt. -/
theorem economics_opportunity (row : ArbRow) :
    economics ((h.record_arb now e).opportunity (e.execution.arb_id, row)) =
      h.kept_numbers e := by
  have hkept : (h.record_arb now e).opportunity_json =
      (h.with_arb now e).opportunity_json := by rfl
  unfold opportunity kept_numbers
  rw [economics_to_opportunity, hkept]
  unfold with_arb insert_arb
  cases h.store.arb e.execution.arb_id with
  | none => simp [to_dict]
  | some _ => cases h.opportunity_json e.execution.arb_id <;> rfl

/-- An execution comes back where its numbers are kept and the rows of its legs are on top. -/
theorem reads_back_iff_on_top :
    h.ReadsBack now e ↔
      h.kept_numbers e = economics e.scanned ∧
        ∀ side, ∃ row, (h.record_arb now e).OnTop e.execution.arb_id side (e.leg side) row := by
  set g := h.record_arb now e with hg
  have harb : g.store.arb e.execution.arb_id =
      some (.recorded e.execution (h.store.arb e.execution.arb_id)) := record_arb_arb e.execution
  constructor
  · intro hback
    obtain ⟨arbs, harbs⟩ :=
      Query.exists_answers (fun arb => OrderDual.toDual (g.created_at arb.1)) g.arb_rows
    have hanswer : g.AnswersArbs none arbs := ⟨arbs, harbs, rfl⟩
    have hlisted : e.execution.arb_id ∈ arbs.map Prod.fst :=
      List.mem_map.mpr
        ⟨(e.execution.arb_id, _), harbs.1.mem_iff.mpr (mem_arb_rows.mpr harb), rfl⟩
    -- what comes back was loaded from the row of the arb
    have hloaded : ∀ orders, g.AnswersOrders arbs orders →
        ∃ row, RoundTrips e (g.load_arb orders (e.execution.arb_id, row)) := by
      intro orders horders
      obtain ⟨x, hx, htrip⟩ := hback none arbs orders hanswer horders hlisted
      obtain ⟨arb, -, rfl⟩ := List.mem_map.mp hx
      obtain ⟨id, row⟩ := arb
      obtain rfl : id = e.execution.arb_id := htrip.arb_id
      exact ⟨row, htrip⟩
    have hlast : ∀ side orders, g.AnswersOrders arbs orders →
        ∃ row, g.store.order (e.leg side).order_id = some row ∧
          row.arb_id = e.execution.arb_id ∧
          SameLeg (e.leg side) (row.to_order (e.leg side).order_id) ∧
          Query.last (fun row => read_as side row && decide (row.2.arb_id = e.execution.arb_id))
            orders = some ((e.leg side).order_id, row) := by
      intro side orders horders
      obtain ⟨row, htrip⟩ := hloaded orders horders
      obtain ⟨order, hleg, hsame⟩ := htrip.legs side
      exact last_of_loaded horders hleg hsame
    obtain ⟨orders, horders⟩ := Query.exists_answers (fun order => g.submitted_at order.1)
      (g.order_rows (arbs.map Prod.fst))
    refine ⟨?_, fun side => ?_⟩
    · obtain ⟨row, htrip⟩ := hloaded orders horders
      exact (economics_opportunity row).symm.trans htrip.economics
    · obtain ⟨row, hrow, hof, hsame, -⟩ := hlast side orders horders
      refine ⟨row, (last_in_every_answer_iff_on_top hlisted hrow hof hsame).mp ?_⟩
      intro orders' horders'
      obtain ⟨row', hrow', -, -, hlast'⟩ := hlast side orders' horders'
      rw [hlast', Option.some_inj.mp (hrow'.symm.trans hrow)]
  · rintro ⟨hnumbers, htop⟩ limit arbs orders harbs horders hlisted
    obtain ⟨⟨id, arb⟩, hmem, rfl⟩ := List.mem_map.mp hlisted
    have hrecorded : arb = .recorded e.execution (h.store.arb e.execution.arb_id) :=
      Option.some_inj.mp ((harbs.mem hmem).symm.trans harb)
    subst hrecorded
    refine ⟨_, List.mem_map.mpr ⟨_, List.mem_reverse.mpr hmem, rfl⟩, rfl, ?_, ?_, ?_, ?_, ?_⟩
    · exact (if_neg (recorded_status_ne_empty _ _)).trans (recorded_status _ _)
    · exact recorded_realized_pnl _ _
    · exact recorded_unwind_pnl _ _
    · exact (economics_opportunity _).trans hnumbers
    · intro side
      obtain ⟨row, hrow⟩ := htop side
      have hlast := (last_in_every_answer_iff_on_top hlisted hrow.there hrow.of_arb hrow.same).mpr
        hrow orders horders
      refine ⟨row.to_order (e.leg side).order_id, ?_, hrow.same⟩
      rw [load_arb_leg, hlast]
      rfl

/-! ### What puts a row on top -/

/-- The row of a leg says what was recorded where a row that was there is of the same
    order. -/
theorem leg_row_same_iff {arb_id : String} {leg : Leg} :
    (h.leg_row arb_id leg).arb_id = arb_id ∧
        SameLeg leg ((h.leg_row arb_id leg).to_order leg.order_id) ↔
      ∀ row, h.store.order leg.order_id = some row → SameOrder arb_id leg row := by
  unfold leg_row
  cases hrow : h.store.order leg.order_id with
  | none =>
    refine ⟨fun _ _ hnone => (nomatch hnone), fun _ => ⟨rfl, ?_⟩⟩
    exact ⟨rfl, rfl, rfl, rfl, by simp [OrderRow.to_order, OrderRow.inserted, Order.columns],
      rfl, rfl, rfl⟩
  | some row =>
    constructor
    · rintro ⟨harb, hsame⟩ _ ⟨⟩
      exact ⟨harb, hsame.platform, hsame.side, hsame.price, hsame.quantity⟩
    · intro hall
      obtain ⟨harb, hplatform, hside, hprice, hquantity⟩ := hall row rfl
      exact ⟨harb, rfl, hplatform, hside, hprice, hquantity, rfl, rfl, rfl⟩

/-- The rows of the legs are on top exactly where the execution is told apart. -/
theorem on_top_iff :
    (∀ side, ∃ row, (h.record_arb now e).OnTop e.execution.arb_id side (e.leg side) row) ↔
      (e.leg .yes).order_id ≠ (e.leg .no).order_id ∧
        (∀ side row, h.store.order (e.leg side).order_id = some row →
          SameOrder e.execution.arb_id (e.leg side) row) ∧
        (∀ side, leg_side (e.leg side).order_id (e.leg side).side = some side) ∧
        ∀ side order_id row, h.store.order order_id = some row →
          row.arb_id = e.execution.arb_id → order_id ≠ (e.leg side).order_id →
          leg_side order_id row.side = some side →
          h.submitted_at order_id < h.leg_submitted_at now (e.leg side) := by
  constructor
  · intro htop
    have htwo : (e.leg .yes).order_id ≠ (e.leg .no).order_id := by
      -- one row is taken for one side only
      intro hone
      obtain ⟨row, hyes⟩ := htop .yes
      obtain ⟨row', hno⟩ := htop .no
      obtain rfl : row = row' := Option.some_inj.mp (hyes.there.symm.trans (hone ▸ hno.there))
      exact absurd (hyes.own_side.symm.trans (hone ▸ hno.own_side)) (by decide)
    have hlegs : ∀ side, (h.record_arb now e).OnTop e.execution.arb_id side (e.leg side)
        (h.leg_row e.execution.arb_id (e.leg side)) := by
      intro side
      obtain ⟨row, hrow⟩ := htop side
      obtain rfl := Option.some_inj.mp (hrow.there.symm.trans (record_order_leg htwo side))
      exact hrow
    have hsame : ∀ side row, h.store.order (e.leg side).order_id = some row →
        SameOrder e.execution.arb_id (e.leg side) row := fun side =>
      leg_row_same_iff.mp ⟨(hlegs side).of_arb, (hlegs side).same⟩
    have hside : ∀ side, leg_side (e.leg side).order_id (e.leg side).side = some side := by
      intro side
      have hrow : (h.leg_row e.execution.arb_id (e.leg side)).side = (e.leg side).side :=
        (hlegs side).same.side
      exact hrow ▸ (hlegs side).own_side
    refine ⟨htwo, hsame, hside, fun side order_id row hrow harb hne hreads => ?_⟩
    have hkept : (h.record_arb now e).submitted_at order_id = h.submitted_at order_id :=
      record_submitted_at_row hrow
    rw [← record_submitted_at_leg, ← hkept]
    refine (hlegs side).latest order_id row ?_ harb hne hreads
    rw [record_order_other fun other heq => ?_, hrow]
    subst heq
    rw [(hsame other row hrow).side, hside other, Option.some_inj] at hreads
    exact hne (by rw [hreads])
  · rintro ⟨htwo, hsame, hside, hlatest⟩ side
    have hrow : ∀ side, (h.leg_row e.execution.arb_id (e.leg side)).arb_id = e.execution.arb_id ∧
        SameLeg (e.leg side)
          ((h.leg_row e.execution.arb_id (e.leg side)).to_order (e.leg side).order_id) :=
      fun side => leg_row_same_iff.mpr (hsame side)
    have hreads : ∀ side, leg_side (e.leg side).order_id
        (h.leg_row e.execution.arb_id (e.leg side)).side = some side := by
      intro side
      have hown : (h.leg_row e.execution.arb_id (e.leg side)).side = (e.leg side).side :=
        (hrow side).2.side
      rw [hown, hside side]
    refine ⟨_, record_order_leg htwo side, (hrow side).1, hreads side, (hrow side).2, ?_⟩
    intro order_id other hother harb hne htaken
    by_cases hleg : ∃ s, order_id = (e.leg s).order_id
    · -- the row of the other leg is taken for that leg
      obtain ⟨s, rfl⟩ := hleg
      rw [record_order_leg htwo s, Option.some_inj] at hother
      rw [← hother, hreads s, Option.some_inj] at htaken
      exact absurd (by rw [htaken]) hne
    · rw [record_order_other (not_exists.mp hleg)] at hother
      rw [record_submitted_at_leg, record_submitted_at_row hother]
      exact hlatest side order_id other hother harb hne htaken

end written

end History

/-! ## Section 5: The history -/

/-- Whatever attempts were written before, an execution comes back from the history
    exactly where its numbers are the ones that are kept, each leg is taken for its own
    side, and no other order of the arb that is taken for that side was submitted as
    late. -/
theorem history_reads_back_iff (h : History) (now : ℚ) (e : ScannedExecution) :
    h.ReadsBack now e ↔ h.Identified now e := by
  rw [History.reads_back_iff_on_top, History.on_top_iff]
  constructor
  · rintro ⟨hnumbers, htwo, hsame, hside, hlatest⟩
    exact ⟨hnumbers, htwo, hsame, hside, hlatest⟩
  · intro hid
    exact ⟨hid.numbers, hid.two_orders, hid.same_order, hid.own_side, hid.latest⟩

/-- Ten pairs at 40 and 50 cents. -/
def ten_pairs : ArbitrageOpportunity where
  canonical_id := "HOUSE"
  description := ""
  yes_platform := "kalshi"
  yes_price := 2 / 5
  yes_fee := 1 / 50
  yes_market_id := "HOUSE-K"
  no_platform := "polymarket_us"
  no_price := 1 / 2
  no_fee := 1 / 100
  no_market_id := "house-p"
  gross_edge := 1 / 10
  total_fees := 3 / 100
  net_edge := 7 / 100
  net_edge_cents := 7
  suggested_qty := 10
  max_profit_usd := 7 / 10
  timestamp := 0
  confidence := 1
  status := .tradable
  persistence_count := 1
  quote_age_seconds := 0
  min_available_liquidity := 10
  mapping_status := "confirmed"
  mapping_score := 1
  requires_manual := false
  yes_fee_rate := some 0
  no_fee_rate := some 0
  yes_quote_age_seconds := 0
  no_quote_age_seconds := 0

/-- A leg of theirs, filled under the venue's order id. -/
def filled_pair_leg (side : Side) (platform market_id order_id : String) (price : ℚ≥0) : Leg where
  order_id := order_id
  platform := platform
  market_id := market_id
  canonical_id := "HOUSE"
  side := side
  price := price
  quantity := 10
  status := .filled
  fill_price := price
  fill_qty := 10
  error := ""
  external_client_order_id := none
  idempotency_ambiguous := false

/-- Both legs filled, the NO leg under the id the venue gave it. -/
def ten_pairs_filled (no_order_id : String) : ScannedExecution where
  execution :=
    { arb_id := "ARB-000007"
      opportunity := ten_pairs.to_engine
      leg_yes := filled_pair_leg .yes "kalshi" "HOUSE-K" "1c0f2a" (2 / 5)
      leg_no := filled_pair_leg .no "polymarket_us" "house-p" no_order_id (1 / 2)
      status := .filled
      realized_pnl := 7 / 10
      unwind_pnl := 0
      notes := [] }
  scanned := ten_pairs
  opportunity_eq := rfl

/-- Tables without a row. -/
def History.empty : History := ⟨⟨∅, ∅⟩, fun _ => none, fun _ => 0, fun _ => 0⟩

/-- A NO leg whose order id has a `YES` in it is taken for the YES leg, and a NO leg is made
    up. Under another id the execution comes back. -/
theorem venue_id_taken_for_yes :
    ¬ History.empty.ReadsBack 100 (ten_pairs_filled "9q2kYES7m") ∧
      History.empty.ReadsBack 100 (ten_pairs_filled "9q2k7m") := by
  constructor
  · intro hback
    have hside := (History.on_top_iff.mp (History.reads_back_iff_on_top.mp hback).2).2.2.1 .no
    exact absurd hside (by decide +kernel)
  · have hempty (order_id : String) (row : OrderRow) :
        History.empty.store.order order_id ≠ some row := by
      simp [History.empty, Store.order]
    refine History.reads_back_iff_on_top.mpr ⟨by decide +kernel, History.on_top_iff.mpr ?_⟩
    refine ⟨by decide +kernel, fun _ row hrow => absurd hrow (hempty _ row), ?_,
      fun _ _ row hrow => absurd hrow (hempty _ row)⟩
    intro side
    cases side <;> decide +kernel

end Execution
