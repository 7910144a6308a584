import Arbiter.Framework.Ledger
import Arbiter.Framework.System
import Arbiter.Execution.HalfRecorded
import Arbiter.Reconcile.StuckTrades
import Arbiter.Stranded.Cycle

/-! # Paired Inventory

  `paired_inventory_by_market`: what the filled orders of filled arbs hold on each market. The
  netting takes all of it for hedged. It asks for the status of the arb only: so what it says
  is right as long as no write leaves an arb `filled` whose sides have filled differently.

  ## Contents

  - Section 1: the query.
  - Section 2: what is hedged.
  - Section 3: the writes, and what each one touches.
  - Section 4: runs.
-/

namespace Stranded

open Execution Reconcile

/-! ## Section 1: The query -/

/-- The arb is there, and `filled`. -/
def arb_filled (s : Store) (arb_id : String) : Bool :=
  (s.arb arb_id).any fun arb => arb.status = "filled"

/-- The order is `filled`, with contracts. -/
def paired_order (row : OrderRow) : Bool := row.status = .filled && 0 < row.fill_qty

/-- The order is on the market and side. -/
def of_market (platform market_id : String) (side : Side) (row : OrderRow) : Bool :=
  row.platform = platform && row.market_id = market_id && row.side = side

/-- `paired_inventory_by_market`: zero for a market that is not listed. -/
def paired_inventory_by_market (s : Store) : Inventory := fun platform market_id side =>
  ((s.orders.entries.filter fun order =>
    of_market platform market_id side order.2 && paired_order order.2 &&
      arb_filled s order.2.arb_id).map (·.2.fill_qty)).sum

/-! ## Section 2: What is hedged -/

/-- The contracts of the filled orders on a side. -/
def paired_fill (side : Side) (legs : List (String × OrderRow)) : ℚ :=
  ((legs.filter fun leg => leg.2.side = side && paired_order leg.2).map (·.2.fill_qty)).sum

/-- The contracts of all orders on a side, whatever their status. -/
def total_fill (side : Side) (legs : List (String × OrderRow)) : ℚ :=
  ((legs.filter fun leg => leg.2.side = side && 0 < leg.2.fill_qty).map (·.2.fill_qty)).sum

/-- The contracts that are hedged: each pays with one of the other side. -/
def hedged_fill (legs : List (String × OrderRow)) : ℚ :=
  min (total_fill .yes legs) (total_fill .no legs)

/-- The ids of the filled arbs. -/
def filled_arbs (s : Store) : List String := s.arbs.keys.filter (arb_filled s)

/-- What the filled arbs with an order on a market and side have hedged. -/
def hedged_by_market (s : Store) : Inventory := fun platform market_id side =>
  (((filled_arbs s).filter fun arb_id =>
    (s.legs arb_id).any fun leg => of_market platform market_id side leg.2).map
      fun arb_id => hedged_fill (s.legs arb_id)).sum

/-- The filled orders on each side hold what the other side holds at most. -/
def Hedged (legs : List (String × OrderRow)) : Prop :=
  ∀ side, paired_fill side legs ≤ total_fill side.other legs

instance (legs : List (String × OrderRow)) : Decidable (Hedged legs) :=
  decidable_of_iff (paired_fill .yes legs ≤ total_fill .no legs ∧
    paired_fill .no legs ≤ total_fill .yes legs)
    ⟨fun h side => by cases side; exacts [h.1, h.2], fun h => ⟨h .yes, h .no⟩⟩

section hedged

variable {s : Store} {platform market_id : String} {side : Side} {arb_id : String}
  {legs : List (String × OrderRow)}

/-- Fewer rows of positive fills hold fewer contracts. -/
theorem sum_fill_le {p q : String × OrderRow → Bool} (hpq : ∀ leg, p leg = true → q leg = true)
    (hpos : ∀ leg, q leg = true → 0 < leg.2.fill_qty) :
    ((legs.filter p).map (·.2.fill_qty)).sum ≤ ((legs.filter q).map (·.2.fill_qty)).sum := by
  refine ((List.monotone_filter_right legs hpq).map _).sum_le_sum fun x hx => ?_
  obtain ⟨leg, hleg, rfl⟩ := List.mem_map.mp hx
  exact (hpos leg (List.mem_filter.mp hleg).2).le

/-- The filled orders of a side are among its orders. -/
theorem paired_fill_le (side : Side) (legs : List (String × OrderRow)) :
    paired_fill side legs ≤ total_fill side legs := by
  refine sum_fill_le (fun leg h => ?_) fun leg h => ?_ <;>
    simp only [paired_order, Bool.and_eq_true, decide_eq_true_eq] at h ⊢
  · exact ⟨h.1, h.2.2⟩
  · exact h.2

theorem total_fill_nonneg (side : Side) (legs : List (String × OrderRow)) :
    0 ≤ total_fill side legs := by
  refine List.sum_nonneg fun x hx => ?_
  obtain ⟨leg, hleg, rfl⟩ := List.mem_map.mp hx
  have h := (List.mem_filter.mp hleg).2
  simp only [Bool.and_eq_true, decide_eq_true_eq] at h
  exact h.2.le

theorem hedged_fill_nonneg (legs : List (String × OrderRow)) : 0 ≤ hedged_fill legs :=
  le_min (total_fill_nonneg .yes legs) (total_fill_nonneg .no legs)

/-- What a hedged arb has filled on a side is hedged. -/
theorem Hedged.paired_fill_le_hedged (h : Hedged legs) (side : Side) :
    paired_fill side legs ≤ hedged_fill legs := by
  cases side with
  | yes => exact le_min (paired_fill_le .yes legs) (h .yes)
  | no => exact le_min (h .no) (paired_fill_le .no legs)

/-- What an arb has filled on a market and side. -/
def market_fill (platform market_id : String) (side : Side) (legs : List (String × OrderRow)) :
    ℚ :=
  ((legs.filter fun leg => of_market platform market_id side leg.2 && paired_order leg.2).map
    (·.2.fill_qty)).sum

theorem market_fill_le (platform market_id : String) (side : Side)
    (legs : List (String × OrderRow)) :
    market_fill platform market_id side legs ≤ paired_fill side legs := by
  refine sum_fill_le (fun leg h => ?_) fun leg h => ?_ <;>
    simp only [of_market, paired_order, Bool.and_eq_true, decide_eq_true_eq] at h ⊢
  · exact ⟨h.1.2, h.2⟩
  · exact h.2.2

/-- An arb with no order on a market and side has filled none there. -/
theorem market_fill_of_none
    (h : (legs.any fun leg => of_market platform market_id side leg.2) = false) :
    market_fill platform market_id side legs = 0 := by
  have hnone : (legs.filter fun leg =>
      of_market platform market_id side leg.2 && paired_order leg.2) = [] := by
    rw [List.filter_eq_nil_iff]
    intro leg hleg hon
    rw [List.any_eq_false] at h
    simp only [Bool.and_eq_true] at hon
    exact h leg hleg hon.1
  rw [market_fill, hnone, List.map_nil, List.sum_nil]

theorem mem_filled_arbs : arb_id ∈ filled_arbs s ↔ arb_filled s arb_id = true := by
  unfold filled_arbs
  rw [List.mem_filter, and_iff_right_iff_imp]
  intro h
  obtain ⟨arb, harb, -⟩ := Option.any_eq_true _ _ |>.mp h
  exact AList.lookup_isSome.mp (Option.isSome_iff_exists.mpr ⟨arb, harb⟩)

theorem filled_arbs_nodup (s : Store) : (filled_arbs s).Nodup :=
  s.arbs.keys_nodup.filter _

/-- What the query says is the sum over the filled arbs. -/
theorem paired_inventory_eq (s : Store) (platform market_id : String) (side : Side) :
    paired_inventory_by_market s platform market_id side =
      ((filled_arbs s).map fun arb_id =>
        market_fill platform market_id side (s.legs arb_id)).sum := by
  have hkeys : ∀ order ∈ s.orders.entries.filter fun order =>
      of_market platform market_id side order.2 && paired_order order.2 &&
        arb_filled s order.2.arb_id, order.2.arb_id ∈ filled_arbs s := by
    intro order horder
    have h := (List.mem_filter.mp horder).2
    simp only [Bool.and_eq_true] at h
    exact mem_filled_arbs.mpr h.2
  unfold paired_inventory_by_market
  rw [Ledger.sum_by_key (filled_arbs_nodup s) (fun order => order.2.arb_id) _ hkeys]
  refine congrArg List.sum (List.map_congr_left fun arb_id harb => ?_)
  have hfilled := mem_filled_arbs.mp harb
  unfold market_fill Store.legs
  rw [List.filter_filter, List.filter_map, List.filter_filter, List.map_map]
  refine congrArg List.sum (congrArg (List.map _) (List.filter_congr fun order _ => ?_))
  by_cases h : order.2.arb_id = arb_id <;> simp [h, hfilled]

/-- Where the filled arbs are hedged, the query says what is hedged at most. -/
theorem paired_inventory_le (h : ∀ arb_id, arb_filled s arb_id = true → Hedged (s.legs arb_id))
    (platform market_id : String) (side : Side) :
    paired_inventory_by_market s platform market_id side ≤
      hedged_by_market s platform market_id side := by
  rw [paired_inventory_eq]
  unfold hedged_by_market
  have hterms (arb_ids : List String) (hfilled : ∀ id ∈ arb_ids, arb_filled s id = true) :
      (arb_ids.map fun id => market_fill platform market_id side (s.legs id)).sum ≤
        ((arb_ids.filter fun id =>
          (s.legs id).any fun leg => of_market platform market_id side leg.2).map
            fun id => hedged_fill (s.legs id)).sum := by
    induction arb_ids with
    | nil => simp
    | cons id rest ih =>
        have hrest := ih fun id hid => hfilled id (List.mem_cons_of_mem _ hid)
        rw [List.map_cons, List.sum_cons, List.filter_cons]
        split_ifs with hany
        · rw [List.map_cons, List.sum_cons]
          have hid := (h id (hfilled id List.mem_cons_self)).paired_fill_le_hedged side
          exact add_le_add ((market_fill_le _ _ side _).trans hid) hrest
        · rw [market_fill_of_none (Bool.not_eq_true _ ▸ hany), zero_add]
          exact hrest
  exact hterms (filled_arbs s) fun id hid => mem_filled_arbs.mp hid

theorem hedged_by_market_nonneg (s : Store) (platform market_id : String) (side : Side) :
    0 ≤ hedged_by_market s platform market_id side := by
  refine List.sum_nonneg fun x hx => ?_
  obtain ⟨id, -, rfl⟩ := List.mem_map.mp hx
  exact hedged_fill_nonneg _

theorem paired_inventory_nonneg (s : Store) (platform market_id : String) (side : Side) :
    0 ≤ paired_inventory_by_market s platform market_id side := by
  refine List.sum_nonneg fun x hx => ?_
  obtain ⟨order, horder, rfl⟩ := List.mem_map.mp hx
  have h := (List.mem_filter.mp horder).2
  simp only [paired_order, Bool.and_eq_true, decide_eq_true_eq] at h
  exact h.1.2.2.le

/-- The netting covers what the inventory holds on the side of the lot at most: on ForecastEx
    both sides are longs. -/
def nettable (pos : StrandedPosition) (inventory : Inventory) : ℚ :=
  let platform := pos.platform.toLower
  if platform = "forecastex" then
    inventory platform pos.market_id .yes + inventory platform pos.market_id .no
  else inventory platform pos.market_id (if 0 < pos.qty then .yes else .no)

theorem covered_qty_le (pos : StrandedPosition) {inventory : Inventory}
    (hnonneg : ∀ platform market_id side, 0 ≤ inventory platform market_id side) :
    covered_qty pos inventory ≤ nettable pos inventory := by
  have hyes := hnonneg pos.platform.toLower pos.market_id .yes
  have hno := hnonneg pos.platform.toLower pos.market_id .no
  unfold covered_qty nettable
  dsimp only
  by_cases hzero : pos.qty = 0
  · rw [if_pos hzero, hzero]
    split_ifs
    · exact add_nonneg hyes hno
    all_goals exact hnonneg _ _ _
  · rw [if_neg hzero]
    split_ifs with hplatform hlong hnet hpos hpos
    · exact min_le_right _ _
    · exact add_nonneg hyes hno
    · exact hyes
    · exact hno
    · refine (min_le_right _ _).trans ?_
      have hlong : 0 < inventory pos.platform.toLower pos.market_id .yes -
          inventory pos.platform.toLower pos.market_id .no := by tauto
      rw [abs_of_pos hlong]
      linarith
    · refine (min_le_right _ _).trans ?_
      have hshort : ¬ 0 < inventory pos.platform.toLower pos.market_id .yes -
          inventory pos.platform.toLower pos.market_id .no := by tauto
      rw [abs_of_nonpos (not_lt.mp hshort)]
      linarith

theorem nettable_mono (pos : StrandedPosition) {inventory inventory' : Inventory}
    (h : ∀ platform market_id side,
      inventory platform market_id side ≤ inventory' platform market_id side) :
    nettable pos inventory ≤ nettable pos inventory' := by
  unfold nettable
  dsimp only
  split_ifs
  · exact add_le_add (h _ _ _) (h _ _ _)
  all_goals exact h _ _ _

end hedged

/-! ## Section 3: The writes -/

/-- The writes of the engine and of the recoveries to the two tables. -/
inductive Write where
  | upsert_order (order : Order ℚ) (arb_id client_order_id : Option String)
  | record_arb_stub (arb_id canonical_id : String) (net_edge : Option ℚ)
  | record_arb_stub_with_leg (arb_id canonical_id : String) (first_leg : Order ℚ)
      (net_edge : Option ℚ) (client_order_id : Option String)
  | record_arb (execution : ArbExecution)
  | mark_naked_leg_reconciled (arb_id : String) (unwind_pnl : ℚ) (note : String)
  | mark_no_exposure_half_recorded_arbs_failed (arb_ids : List String)
  /-- `_persist_outcome` of the stuck trades. -/
  | persist_outcome (arb_id new_status note_line note : String)
  /-- `_close_phantom_record`, with its line for the notes. -/
  | close_phantom_record (arb_id note_line : String)

/-- `record_arb_stub`: a row that is there is left alone. -/
def record_arb_stub (s : Store) (arb_id canonical_id : String) (net_edge : Option ℚ) : Store :=
  match s.arb arb_id with
  | none => { s with arbs := s.arbs.insert arb_id (.stub canonical_id net_edge) }
  | some _ => s

/-- The update of the row of an arb, where there is one. -/
def update_arb (s : Store) (arb_id : String) (update : ArbRow → ArbRow) : Store :=
  match s.arb arb_id with
  | none => s
  | some row => { s with arbs := s.arbs.insert arb_id (update row) }

/-- The note of `mark_no_exposure_half_recorded_arbs_failed`. -/
def no_exposure_note : String :=
  "Auto-closed on startup: half-recorded arb had zero persisted orders and zero filled notional."

/-- The row of an arb without orders. -/
def no_exposure_row (orders : ℕ) (row : ArbRow) : ArbRow :=
  if row.status ∉ ["filled", "failed", "simulated", "recovering", "closed"] ∧ orders = 0 then
    { row with
      status := "failed"
      recovery_notes :=
        if row.recovery_notes = "" then no_exposure_note
        else row.recovery_notes ++ "\n" ++ no_exposure_note }
  else row

/-- The row of a phantom. -/
def phantom_row (note_line : String) (row : ArbRow) : ArbRow :=
  if row.status ∉ terminal_arb_statuses then
    { row with
      status := "closed"
      recovery_notes := Text.right (row.recovery_notes ++ "\n" ++ note_line) 65536 }
  else row

/-- The store after a write. An order without an `arb_id` to be had raises. -/
def Write.run (s : Store) : Write → Store
  | .upsert_order order arb_id client_order_id =>
      (s.upsert_order order arb_id client_order_id).getD s
  | .record_arb_stub arb_id canonical_id net_edge =>
      Stranded.record_arb_stub s arb_id canonical_id net_edge
  | .record_arb_stub_with_leg arb_id canonical_id first_leg net_edge client_order_id =>
      s.record_arb_stub_with_leg arb_id canonical_id first_leg net_edge client_order_id
  | .record_arb execution => s.record_arb execution
  | .mark_naked_leg_reconciled arb_id unwind_pnl note =>
      s.mark_naked_leg_reconciled arb_id unwind_pnl note
  | .mark_no_exposure_half_recorded_arbs_failed arb_ids =>
      arb_ids.foldl (fun s arb_id =>
        update_arb s arb_id (no_exposure_row (s.legs arb_id).length)) s
  | .persist_outcome arb_id new_status note_line note =>
      persisted_outcome s arb_id new_status note_line note
  | .close_phantom_record arb_id note_line => update_arb s arb_id (phantom_row note_line)

/-- The arb under which the row of an order is, or will be: a later write does not move it. -/
def arb_of (s : Store) (order : Order ℚ) (arb_id : String) : String :=
  match s.order order.order_id with
  | none => arb_id
  | some row => row.arb_id

/-- The arbs that a write can make `filled`, and those whose orders it writes. -/
def Write.touched (s : Store) : Write → List String
  | .upsert_order order arb_id _ => ((written_arb_id order arb_id).map (arb_of s order)).toList
  | .record_arb_stub_with_leg arb_id _ first_leg _ _ => [arb_of s first_leg arb_id]
  | .record_arb execution =>
      [execution.arb_id, arb_of s execution.leg_yes.columns execution.arb_id,
        arb_of s execution.leg_no.columns execution.arb_id]
  | .persist_outcome arb_id new_status _ _ => if new_status = "filled" then [arb_id] else []
  | _ => []

/-- The orders of an arb and whether it is `filled` are left alone; or it is no longer. -/
structure Untouched (s s' : Store) (arb_id : String) : Prop where
  legs : s'.legs arb_id = s.legs arb_id
  filled : arb_filled s' arb_id = true → arb_filled s arb_id = true

section writes

variable {s s' : Store} {arb_id id : String} {order : Order ℚ}

theorem Untouched.refl (s : Store) (arb_id : String) : Untouched s s arb_id := ⟨rfl, id⟩

theorem Untouched.trans {s'' : Store} (h : Untouched s s' arb_id) (h' : Untouched s' s'' arb_id) :
    Untouched s s'' arb_id :=
  ⟨h'.legs.trans h.legs, fun hfilled => h.filled (h'.filled hfilled)⟩

/-- Dropping an entry that a filter drops changes nothing. -/
theorem filter_kerase {β : String → Type} {p : Sigma β → Bool} {key : String}
    {entries : List (Sigma β)} (h : ∀ b, entries.dlookup key = some b → p ⟨key, b⟩ = false) :
    (entries.kerase key).filter p = entries.filter p := by
  induction entries with
  | nil => rfl
  | cons e rest ih =>
      by_cases heq : key = e.1
      · subst heq
        rw [List.kerase_cons_eq rfl, List.filter_cons_of_neg]
        simp [h e.2 (List.dlookup_cons_eq _ _ _)]
      · rw [List.dlookup_cons_ne _ _ heq] at h
        rw [List.kerase_cons_ne heq, List.filter_cons, List.filter_cons, ih h]

/-- The write of an order touches the arb of its row. -/
theorem upsert_untouched {client_order_id : Option String} (h : id ≠ arb_of s order arb_id) :
    Untouched s (s.upsert_order_on_conn order arb_id client_order_id) id := by
  refine ⟨?_, fun hfilled => hfilled⟩
  -- the row that is written is under another arb, before and after
  unfold Store.legs Store.upsert_order_on_conn
  dsimp only
  rw [AList.entries_insert, List.filter_cons_of_neg, filter_kerase]
  · intro row hrow
    have hbefore : s.order order.order_id = some row := hrow
    rw [arb_of, hbefore] at h
    exact decide_eq_false fun heq => h heq.symm
  · cases hbefore : s.order order.order_id with
    | none =>
        rw [arb_of, hbefore] at h
        simp [OrderRow.inserted, Ne.symm h]
    | some row =>
        rw [arb_of, hbefore] at h
        simp [OrderRow.updated, Ne.symm h]

/-- The write of the row of an arb touches no orders. -/
theorem insert_arb_untouched {row : ArbRow}
    (h : row.status = "filled" → arb_filled s arb_id = true) (id : String) :
    Untouched s { s with arbs := s.arbs.insert arb_id row } id := by
  refine ⟨rfl, fun hfilled => ?_⟩
  by_cases heq : id = arb_id
  · subst heq
    refine h ?_
    simpa [arb_filled, Store.arb] using hfilled
  · simpa [arb_filled, Store.arb, AList.lookup_insert_ne heq] using hfilled

theorem insert_arb_untouched_ne {row : ArbRow} (h : id ≠ arb_id) :
    Untouched s { s with arbs := s.arbs.insert arb_id row } id := by
  refine ⟨rfl, fun hfilled => ?_⟩
  simpa [arb_filled, Store.arb, AList.lookup_insert_ne h] using hfilled

theorem update_arb_untouched {update : ArbRow → ArbRow}
    (h : ∀ row, (update row).status = "filled" → row.status = "filled") (id : String) :
    Untouched s (update_arb s arb_id update) id := by
  unfold update_arb
  split
  · exact .refl s id
  · next row hrow =>
      refine insert_arb_untouched (fun hfilled => ?_) id
      simp [arb_filled, hrow, h row hfilled]

/-- A row without orders does not become `filled`. -/
theorem no_exposure_row_filled {orders : ℕ} {row : ArbRow}
    (h : (no_exposure_row orders row).status = "filled") : row.status = "filled" := by
  unfold no_exposure_row at h
  split at h
  · simp at h
  · exact h

/-- Nor does that of a phantom. -/
theorem phantom_row_filled {note_line : String} {row : ArbRow}
    (h : (phantom_row note_line row).status = "filled") : row.status = "filled" := by
  unfold phantom_row at h
  split at h
  · simp at h
  · exact h

/-- Nor a row whose outcome is another. -/
theorem outcome_row_filled {new_status note_line note : String} {row : ArbRow}
    (hnew : new_status ≠ "filled")
    (h : (outcome_row row new_status note_line note).status = "filled") :
    row.status = "filled" := by
  unfold outcome_row at h
  dsimp only at h
  split at h
  · exact absurd h hnew
  · exact h

/-- The second leg of an arb is written under its own arb or under that of the first. -/
theorem arb_of_upsert {other : Order ℚ} {client_order_id : Option String} :
    arb_of (s.upsert_order_on_conn order arb_id client_order_id) other arb_id =
        arb_of s other arb_id ∨
      arb_of (s.upsert_order_on_conn order arb_id client_order_id) other arb_id =
        arb_of s order arb_id := by
  by_cases heq : other.order_id = order.order_id
  · right
    unfold arb_of
    rw [heq]
    have hwritten : (s.upsert_order_on_conn order arb_id client_order_id).order order.order_id =
        some (match s.order order.order_id with
          | none => .inserted order arb_id client_order_id
          | some row => row.updated order) := AList.lookup_insert _
    rw [hwritten]
    cases s.order order.order_id <;> rfl
  · left
    unfold arb_of
    rw [upsert_order_on_conn_order_ne heq]

/-- A write touches no other arb. -/
theorem Write.untouched (w : Write) (h : id ∉ w.touched s) : Untouched s (w.run s) id := by
  cases w with
  | upsert_order order arb_id client_order_id =>
      change Untouched s ((s.upsert_order order arb_id client_order_id).getD s) id
      unfold Store.upsert_order
      cases hid : written_arb_id order arb_id with
      | none => exact .refl s id
      | some written =>
          refine upsert_untouched ?_
          simpa [Write.touched, hid] using h
  | record_arb_stub arb_id canonical_id net_edge =>
      change Untouched s (Stranded.record_arb_stub s arb_id canonical_id net_edge) id
      unfold Stranded.record_arb_stub
      split
      · exact insert_arb_untouched (fun hfilled => by simp [ArbRow.stub] at hfilled) id
      · exact .refl s id
  | record_arb_stub_with_leg arb_id canonical_id first_leg net_edge client_order_id =>
      have hleg : id ≠ arb_of s first_leg arb_id := by simpa [Write.touched] using h
      change Untouched s
        (s.record_arb_stub_with_leg arb_id canonical_id first_leg net_edge client_order_id) id
      unfold Store.record_arb_stub_with_leg
      dsimp only
      split
      · exact (insert_arb_untouched (fun hfilled => by simp [ArbRow.stub] at hfilled) id).trans
          (upsert_untouched hleg)
      · exact upsert_untouched hleg
  | record_arb execution =>
      simp only [Write.touched, List.mem_cons, List.not_mem_nil, or_false, not_or] at h
      obtain ⟨harb, hyes, hno⟩ := h
      -- the row of the arb is written first; it does not move the orders
      let s₁ : Store := { s with
        arbs := s.arbs.insert execution.arb_id (.recorded execution (s.arb execution.arb_id)) }
      let s₂ := s₁.upsert_order_on_conn execution.leg_yes.columns execution.arb_id none
      have h₁ : Untouched s s₁ id := insert_arb_untouched_ne harb
      have h₂ : Untouched s₁ s₂ id := upsert_untouched hyes
      refine (h₁.trans h₂).trans (upsert_untouched ?_)
      have hmoved : arb_of s₂ execution.leg_no.columns execution.arb_id =
            arb_of s₁ execution.leg_no.columns execution.arb_id ∨
          arb_of s₂ execution.leg_no.columns execution.arb_id =
            arb_of s₁ execution.leg_yes.columns execution.arb_id := arb_of_upsert
      obtain heq | heq := hmoved <;> rw [heq]
      · exact hno
      · exact hyes
  | mark_naked_leg_reconciled arb_id unwind_pnl note =>
      change Untouched s (s.mark_naked_leg_reconciled arb_id unwind_pnl note) id
      unfold Store.mark_naked_leg_reconciled
      split
      · exact .refl s id
      · next row hrow =>
          refine insert_arb_untouched (fun hfilled => ?_) id
          dsimp only at hfilled
          split at hfilled
          · simp [arb_filled, hrow, hfilled]
          · simp at hfilled
  | mark_no_exposure_half_recorded_arbs_failed arb_ids =>
      unfold Write.run
      dsimp only
      induction arb_ids generalizing s with
      | nil => exact .refl s id
      | cons arb_id rest ih =>
          exact (update_arb_untouched (fun row => no_exposure_row_filled) id).trans
            (ih (by simp [Write.touched]))
  | persist_outcome arb_id new_status note_line note =>
      change Untouched s (persisted_outcome s arb_id new_status note_line note) id
      unfold persisted_outcome
      split
      · exact .refl s id
      · next row hrow =>
          by_cases hnew : new_status = "filled"
          · refine insert_arb_untouched_ne ?_
            simpa [Write.touched, hnew] using h
          · refine insert_arb_untouched (fun hfilled => ?_) id
            simp [arb_filled, hrow, outcome_row_filled hnew hfilled]
  | close_phantom_record arb_id note_line =>
      exact update_arb_untouched (fun row => phantom_row_filled) id

end writes

/-! ## Section 4: Runs -/

/-- The tables, empty at first, and the writes. -/
def store_writes : LTS.System Store Write where
  init s := s = ⟨∅, ∅⟩
  step s w s' := s' = w.run s

/-- No arb that the write touches is `filled` afterwards with sides that filled differently:
    the filled orders on a side hold what all orders on the other hold at most. -/
def Write.hedges (s : Store) (w : Write) : Prop :=
  ∀ arb_id ∈ w.touched s, arb_filled (w.run s) arb_id = true → Hedged ((w.run s).legs arb_id)

instance (s : Store) (w : Write) : Decidable (w.hedges s) := by
  unfold Write.hedges; infer_instance

/-- A filled order on each side: they are hedged exactly if they hold the same. -/
theorem hedged_pair_iff {yes no : String × OrderRow} (hyes : yes.2.side = .yes)
    (hno : no.2.side = .no) (hfilled : ∀ leg ∈ [yes, no], paired_order leg.2 = true) :
    Hedged [yes, no] ↔ yes.2.fill_qty = no.2.fill_qty := by
  have hpyes := hfilled yes (by simp)
  have hpno := hfilled no (by simp)
  have hqyes : 0 < yes.2.fill_qty := by
    simp only [paired_order, Bool.and_eq_true, decide_eq_true_eq] at hpyes
    exact hpyes.2
  have hqno : 0 < no.2.fill_qty := by
    simp only [paired_order, Bool.and_eq_true, decide_eq_true_eq] at hpno
    exact hpno.2
  have hpaired (side : Side) : paired_fill side [yes, no] = total_fill side [yes, no] := by
    cases side <;> simp [paired_fill, total_fill, hyes, hno, hpyes, hpno, hqyes, hqno]
  have htotal : total_fill .yes [yes, no] = yes.2.fill_qty ∧
      total_fill .no [yes, no] = no.2.fill_qty := by
    constructor <;> simp [total_fill, hyes, hno, hqyes, hqno]
  constructor
  · intro h
    have hy := h .yes
    have hn := h .no
    rw [hpaired] at hy hn
    simp only [Side.other, htotal.1, htotal.2] at hy hn
    exact le_antisymm hy hn
  · intro heq side
    rw [hpaired]
    cases side <;> simp [Side.other, htotal.1, htotal.2, heq]

/-- Where every write hedges, the filled arbs are hedged. -/
theorem filled_arbs_hedged : LTS.Invariant (store_writes.restrict Write.hedges) fun s =>
    ∀ arb_id, arb_filled s arb_id = true → Hedged (s.legs arb_id) := by
  refine LTS.Invariant.of_step ?_ ?_
  · rintro s rfl arb_id hfilled
    simp [arb_filled, Store.arb] at hfilled
  · rintro s w s' hs ⟨hhedges, rfl⟩ arb_id hfilled
    by_cases htouched : arb_id ∈ w.touched s
    · exact hhedges arb_id htouched hfilled
    · have huntouched := w.untouched htouched
      rw [huntouched.legs]
      exact hs arb_id (huntouched.filled hfilled)

/-- In every run whose writes hedge the arbs they touch, the query says for each market and side
    what the filled arbs there have hedged at most, and the netting covers no more of a lot. -/
theorem paired_inventory_hedged {s : Store}
    (hreach : LTS.Reachable (store_writes.restrict Write.hedges) s) :
    (∀ platform market_id side,
      paired_inventory_by_market s platform market_id side ≤
        hedged_by_market s platform market_id side) ∧
      ∀ pos, covered_qty pos (paired_inventory_by_market s) ≤
        nettable pos (hedged_by_market s) := by
  have hle := paired_inventory_le (filled_arbs_hedged s hreach)
  exact ⟨hle, fun pos =>
    (covered_qty_le pos (paired_inventory_nonneg s)).trans (nettable_mono pos hle)⟩

/-! ### Ten against seven -/

/-- A leg of ten contracts on its venue. -/
def ten_leg (side : Side) (status : OrderStatus) (fill_qty : ℚ) : Order ℚ where
  order_id := match side with | .yes => "K-1" | .no => "P-1"
  platform := match side with | .yes => "kalshi" | .no => "polymarket"
  market_id := match side with | .yes => "KXFED" | .no => "fed"
  canonical_id := "FED"
  side := side
  price := 1 / 2
  quantity := 10
  status := status
  fill_price := 1 / 2
  fill_qty := fill_qty
  error := ""
  external_client_order_id := none
  idempotency_ambiguous := false

/-- The legs as the venues report them after a restart. -/
def reported_legs (no_fill : ℚ) : List (Order ℚ) :=
  [ten_leg .yes .filled 10, ten_leg .no .filled no_fill]

/-- Both legs are sent and not polled; then the recovery hears that both are filled. -/
def recovered_pair (no_fill : ℚ) : List Write :=
  [.record_arb_stub_with_leg "ARB-000001" "FED" (ten_leg .yes .submitted 0) none none,
    .upsert_order (ten_leg .no .submitted 0) (some "ARB-000001") none,
    .upsert_order (ten_leg .yes .filled 10) (some "ARB-000001") none,
    .upsert_order (ten_leg .no .filled no_fill) (some "ARB-000001") none,
    .persist_outcome "ARB-000001" (derive_arb_status_from_legs (reported_legs no_fill))
      "[0] checked" "checked"]

/-- The store after some writes. -/
def written (ws : List Write) : Store := ws.foldl Write.run ⟨∅, ∅⟩

/-- Each write hedges where it is made. -/
def all_hedge (s : Store) : List Write → Bool
  | [] => true
  | w :: ws => w.hedges s && all_hedge (w.run s) ws

theorem reachable_run {s : Store} (hs : LTS.Reachable store_writes s) (ws : List Write) :
    LTS.Reachable store_writes (ws.foldl Write.run s) := by
  induction ws generalizing s with
  | nil => exact hs
  | cons w ws ih => exact ih (.step (l := w) hs rfl)

theorem reachable_of_all_hedge {s : Store} {ws : List Write}
    (hs : LTS.Reachable (store_writes.restrict Write.hedges) s) (h : all_hedge s ws = true) :
    LTS.Reachable (store_writes.restrict Write.hedges) (ws.foldl Write.run s) := by
  induction ws generalizing s with
  | nil => exact hs
  | cons w ws ih =>
      simp only [all_hedge, Bool.and_eq_true, decide_eq_true_eq] at h
      exact ih (.step (l := w) hs ⟨h.1, rfl⟩) h.2

/-- A lot of ten contracts on Kalshi. -/
def ten_lot : StrandedPosition where
  platform := "kalshi"
  market_id := "KXFED"
  side := .yes
  qty := 10
  cost_basis_usd := 5
  mtm_usd := 5
  unrealized_usd := 0
  best_bid := 1 / 2
  best_ask := 1 / 2
  title := "FED"
  first_seen_ts := 0
  expiry_ts := none
  mitigation_decision := none
  paired_qty := 0

theorem paired_inventory_hedged_ten :
    (∀ platform market_id side,
      paired_inventory_by_market (written (recovered_pair 10)) platform market_id side ≤
        hedged_by_market (written (recovered_pair 10)) platform market_id side) ∧
      ∀ pos, covered_qty pos (paired_inventory_by_market (written (recovered_pair 10))) ≤
        nettable pos (hedged_by_market (written (recovered_pair 10))) :=
  paired_inventory_hedged (reachable_of_all_hedge (.init rfl) (by decide +kernel))

/-- Ten contracts against seven: the arb is `filled`, and all ten are netted out. -/
theorem unequal_fills_netted :
    LTS.Reachable store_writes (written (recovered_pair 7)) ∧
      derive_arb_status_from_legs (reported_legs 7) = "filled" ∧
      paired_inventory_by_market (written (recovered_pair 7)) "kalshi" "KXFED" .yes = 10 ∧
      hedged_by_market (written (recovered_pair 7)) "kalshi" "KXFED" .yes = 7 ∧
      covered_qty ten_lot (paired_inventory_by_market (written (recovered_pair 7))) = 10 :=
  ⟨reachable_run (.init rfl) (recovered_pair 7), by decide +kernel, by decide +kernel,
    by decide +kernel, by decide +kernel⟩

end Stranded
