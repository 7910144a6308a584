import Arbiter.Reconcile.Desk

/-! # Reconciliation at Restart

  `reconcile_non_terminal_orders` asks the venues about every order the store has
  `pending`, `submitted` or `partial`, and writes what it learns. It writes where the
  returned status differs from the status of the order it asked about; an adapter that
  answers by writing into that very order makes the two the same.

  The run theorem says what becomes of every row, except where an answer hides that way.
-/

namespace Reconcile

open Effect Execution

/-! ## Section 1: The loop -/

/-- `recovery._derive_arb_id`. -/
def reconciled_arb_id (order_id : String) : String := (derive_arb_id order_id).getD order_id

/-- What is made of a lookup: the order is returned when it is orphaned. A write that
    fails is only logged. -/
def reconcile_lookup (arb_id : String) (order : Order ℚ) (lookup : Lookup) :
    Rec (Option (Order ℚ)) :=
  let order := lookup.held.on order
  match lookup.returned with
  | .error exc => do
      let order := { order with status := .failed, error := "orphaned on restart: " ++ exc }
      let _ ← upsert_order order arb_id
      return some order
  | .ok new => do
      let fresh := (lookup.fresh new).on order
      -- an order that the venue does not know is orphaned, whatever is made of it
      if not_found fresh.status fresh.error then
        let _ ← upsert_order fresh arb_id
        return some fresh
      else if fresh.status ≠ order.status then
        let _ ← upsert_order fresh arb_id
        return none
      else return none

/-- One order; returned when it is orphaned. -/
def reconcile_order (adapters : String → Bool) (order : Order ℚ) : Rec (Option (Order ℚ)) := do
  let arb_id := reconciled_arb_id order.order_id
  if is_synthetic_placeholder_order_id order.order_id then
    let _ ← upsert_order
      { order with status := .aborted, error := placeholder_error order.error } arb_id
    return none
  else if adapters order.platform = false then return none
  else
    let lookup ← get_order order.platform order
    reconcile_lookup arb_id order lookup

/-- Every order in turn; the orphaned ones are returned. -/
def reconcile_orders (adapters : String → Bool) : List (Order ℚ) → Rec (List (Order ℚ))
  | [] => return []
  | order :: rest => do
      let orphan ← reconcile_order adapters order
      let orphaned ← reconcile_orders adapters rest
      return orphan.toList ++ orphaned

/-- `reconcile_non_terminal_orders`; the error is its `RecoveryInitError`. -/
def reconcile_non_terminal_orders (adapters : String → Bool) :
    Rec (Except String (List (Order ℚ))) := do
  match ← Prog.send Call.list_non_terminal_orders with
  | .error exc =>
      return .error ("failed to enumerate non-terminal orders during recovery: " ++ exc)
  | .ok orders =>
      let orphaned ← reconcile_orders adapters orders
      return .ok orphaned

/-! ## Section 2: What becomes of a row -/

/-- The writes of this order go through. -/
def Refusals.accepts (refused : Refusals) (order_id : String) : Prop :=
  refused.order order_id = none ∧ order_id ≠ ""

instance (refused : Refusals) (order_id : String) : Decidable (refused.accepts order_id) := by
  unfold Refusals.accepts; infer_instance

/-- What is written of an order that was looked up, if anything. -/
def answer_written (lookup : Lookup) : Option Report :=
  match lookup.returned with
  | .error exc =>
      some { lookup.held with status := .failed, error := "orphaned on restart: " ++ exc }
  | .ok new =>
      if not_found (lookup.fresh new).status (lookup.fresh new).error ∨
          (lookup.fresh new).status ≠ lookup.held.status then some (lookup.fresh new)
      else none

/-- What is written of an order, if anything. -/
def reconciled (adapters : String → Bool) (venue : String → Lookup) (order_id : String)
    (row : OrderRow) : Option Report :=
  if is_synthetic_placeholder_order_id order_id then
    some ⟨.aborted, row.fill_price, row.fill_qty, placeholder_error row.error⟩
  else if adapters row.platform = false then none
  else answer_written (venue order_id)

/-- The row once it is written, where the database accepts that. -/
def written_row (refused : Refusals) (order_id : String) (row : OrderRow) :
    Option Report → OrderRow
  | none => row
  | some r => if refused.accepts order_id then r.row row else row

section run

variable {adapters : String → Bool} {venue : String → Lookup} {old : String → Prop}
  {refused : Refusals} {s : Store} {order_id : String} {row : OrderRow}

theorem reconciled_arb_id_ne (h : order_id ≠ "") : reconciled_arb_id order_id ≠ "" := by
  unfold reconciled_arb_id derive_arb_id
  split
  · intro hempty
    have hlength := congrArg String.length hempty
    simp at hlength
  · exact h

theorem reconciled_arb_id_written (order : Order ℚ) (h : order.order_id = order_id) :
    written_arb_id order (some (reconciled_arb_id order_id)) = none ↔ order_id = "" := by
  constructor
  · intro hnone
    by_contra hid
    rw [written_arb_id_given order (reconciled_arb_id_ne hid)] at hnone
    exact absurd hnone (by simp)
  · intro hempty
    have hderived : reconciled_arb_id order_id = "" := by
      unfold reconciled_arb_id
      rw [hempty, derive_arb_id_empty]
      rfl
    rw [hderived, written_arb_id_derived, h, hempty, derive_arb_id_empty]

/-- A write of a listed order. -/
theorem upsert_order_rewrites (r : Report) (h : s.order order_id = some row) :
    wp (desk venue old refused)
      (upsert_order (r.on (row.to_order order_id)) (reconciled_arb_id order_id))
      (fun _ s' => Rewrites order_id (written_row refused order_id row (some r)) s s') s := by
  have hnone : written_arb_id (r.on (row.to_order order_id))
      (some (reconciled_arb_id order_id)) = none ↔ order_id = "" :=
    reconciled_arb_id_written _ rfl
  unfold written_row
  apply wp_upsert_order
  · intro id hrefused hid
    have haccepts : refused.accepts order_id :=
      ⟨hrefused, fun hempty => by rw [hnone.2 hempty] at hid; cases hid⟩
    simp only [if_pos haccepts]
    exact ⟨upsert_order_on_conn_order h, fun id hid => upsert_order_on_conn_order_ne hid⟩
  · intro err hrefused
    have hno : ¬ refused.accepts order_id := by
      intro haccepts
      rcases hrefused with hrefused | hid
      · exact hrefused haccepts.1
      · exact haccepts.2 (hnone.1 hid)
    simp only [if_neg hno]
    exact .refl h

theorem reconcile_lookup_rewrites (lookup : Lookup) (h : s.order order_id = some row) :
    wp (desk venue old refused)
      (reconcile_lookup (reconciled_arb_id order_id) (row.to_order order_id) lookup)
      (fun _ s' => Rewrites order_id
        (written_row refused order_id row (answer_written lookup)) s s') s := by
  unfold reconcile_lookup answer_written
  cases lookup.returned with
  -- A lookup that raised orphans the order, which is written as FAILED.
  | error exc =>
    refine wp_bind.2 (wp_mono (upsert_order_rewrites
      { lookup.held with status := .failed, error := "orphaned on restart: " ++ exc } h) ?_)
    intro _ s' hs
    exact wp_pure.2 hs
  | ok new =>
    dsimp only
    rw [wp_ite]
    constructor
    · intro hgone
      have hgone' : not_found (lookup.fresh new).status (lookup.fresh new).error := hgone
      rw [if_pos (.inl hgone')]
      refine wp_bind.2 (wp_mono (upsert_order_rewrites (lookup.fresh new) h) ?_)
      intro _ s' hs
      exact wp_pure.2 hs
    · intro hgone
      have hgone' : ¬ not_found (lookup.fresh new).status (lookup.fresh new).error := hgone
      rw [wp_ite]
      constructor
      · intro hchanged
        have hchanged' : (lookup.fresh new).status ≠ lookup.held.status := hchanged
        rw [if_pos (.inr hchanged')]
        refine wp_bind.2 (wp_mono (upsert_order_rewrites (lookup.fresh new) h) ?_)
        intro _ s' hs
        exact wp_pure.2 hs
      · intro hchanged
        have hchanged' : ¬ (lookup.fresh new).status ≠ lookup.held.status := hchanged
        rw [if_neg (not_or.2 ⟨hgone', hchanged'⟩)]
        exact wp_pure.2 (.refl h)

/-- Only the row of the order that is reconciled changes. -/
theorem reconcile_order_rewrites (h : s.order order_id = some row) :
    wp (desk venue old refused) (reconcile_order adapters (row.to_order order_id))
      (fun _ s' => Rewrites order_id
        (written_row refused order_id row (reconciled adapters venue order_id row)) s s') s := by
  unfold reconcile_order reconciled
  by_cases hplaceholder : is_synthetic_placeholder_order_id order_id
  · have hplaceholder' : is_synthetic_placeholder_order_id (row.to_order order_id).order_id :=
      hplaceholder
    rw [if_pos hplaceholder, if_pos hplaceholder']
    refine wp_bind.2 (wp_mono (upsert_order_rewrites
      ⟨.aborted, row.fill_price, row.fill_qty, placeholder_error row.error⟩ h) ?_)
    intro _ s' hs
    exact wp_pure.2 hs
  · have hplaceholder' : ¬ is_synthetic_placeholder_order_id (row.to_order order_id).order_id :=
      hplaceholder
    rw [if_neg hplaceholder, if_neg hplaceholder']
    -- Without an adapter nothing is asked and the row stays.
    by_cases hadapter : adapters row.platform = false
    · have hadapter' : adapters (row.to_order order_id).platform = false := hadapter
      rw [if_pos hadapter, if_pos hadapter']
      exact wp_pure.2 (.refl h)
    · have hadapter' : ¬ adapters (row.to_order order_id).platform = false := hadapter
      rw [if_neg hadapter, if_neg hadapter']
      refine wp_bind.2 (wp_send.2 fun lookup s' hs => ?_)
      obtain ⟨rfl, rfl⟩ := hs
      exact reconcile_lookup_rewrites (venue order_id) h

/-- The row of an order afterwards, in a run that reconciles it. -/
def reconciled_row (adapters : String → Bool) (venue : String → Lookup) (refused : Refusals)
    (order_id : String) (row : OrderRow) : OrderRow :=
  written_row refused order_id row (reconciled adapters venue order_id row)

/-- The orders of the list are reconciled once each, all other rows stay. -/
theorem reconcile_orders_rewrites (orders : List (Order ℚ))
    (hnodup : (orders.map (·.order_id)).Nodup)
    (hrows : ∀ order ∈ orders, ∃ id row, s.order id = some row ∧ row.to_order id = order) :
    wp (desk venue old refused) (reconcile_orders adapters orders) (fun _ s' => ∀ id,
      s'.order id = if id ∈ orders.map (·.order_id)
        then (s.order id).map (reconciled_row adapters venue refused id) else s.order id) s := by
  induction orders generalizing s with
  | nil =>
    unfold reconcile_orders
    refine wp_pure.2 fun id => ?_
    simp
  | cons order rest ih =>
    rw [List.map_cons, List.nodup_cons] at hnodup
    obtain ⟨order_id, row, hrow, rfl⟩ := hrows order List.mem_cons_self
    rw [to_order_order_id] at hnodup
    unfold reconcile_orders
    refine wp_bind.2 (wp_mono (reconcile_order_rewrites hrow) ?_)
    rintro orphan s₁ ⟨hwritten, hothers⟩
    -- the rows of the rest are still as they were listed
    have hrest : ∀ order ∈ rest, ∃ id row, s₁.order id = some row ∧ row.to_order id = order := by
      intro order hmem
      obtain ⟨id, row', hrow', rfl⟩ := hrows order (List.mem_cons_of_mem _ hmem)
      have hne : id ≠ order_id := by
        rintro rfl
        exact hnodup.1 (List.mem_map.2 ⟨_, hmem, rfl⟩)
      exact ⟨id, row', (hothers id hne).trans hrow', rfl⟩
    refine wp_bind.2 (wp_mono (ih hnodup.2 hrest) ?_)
    intro orphaned s₂ hs₂
    refine wp_pure.2 fun id => ?_
    rw [hs₂ id, List.map_cons, to_order_order_id]
    -- The head is reconciled now and, being listed once, not again.
    by_cases hid : id = order_id
    · subst hid
      rw [if_neg hnodup.1, if_pos List.mem_cons_self, hwritten, hrow]
      rfl
    · rw [hothers id hid]
      simp only [List.mem_cons, hid, false_or]

/-- What a reconciliation leaves of the store, row by row. -/
theorem reconcile_non_terminal_orders_rewrites :
    wp (desk venue old refused) (reconcile_non_terminal_orders adapters) (fun result s' =>
      match result with
      | .error _ => s' = s
      | .ok _ => ∀ id, s'.order id = (s.order id).map fun row =>
          if non_terminal_row id row then reconciled_row adapters venue refused id row else row)
      s := by
  unfold reconcile_non_terminal_orders
  refine wp_bind.2 (wp_send.2 fun answer s₁ hs => ?_)
  cases answer with
  | error exc =>
    obtain ⟨rfl, -⟩ := hs
    exact wp_pure.2 rfl
  | ok orders =>
    obtain ⟨rfl, hlisted⟩ : s₁ = s ∧ NonTerminal s orders := hs
    have hmem := mem_non_terminal hlisted
    have hrows : ∀ order ∈ orders, ∃ id row, s₁.order id = some row ∧ row.to_order id = order := by
      intro order h
      obtain ⟨id, row, hrow, -, rfl⟩ := (hmem order).1 h
      exact ⟨id, row, hrow, rfl⟩
    refine wp_bind.2 (wp_mono
      (reconcile_orders_rewrites orders (nodup_non_terminal hlisted) hrows) ?_)
    intro orphaned s₂ hs₂
    refine wp_pure.2 fun id => ?_
    -- An order is on the list just where its row is non-terminal.
    have hids : id ∈ orders.map (·.order_id) ↔ ∃ row, s₁.order id = some row ∧
        non_terminal_row id row := by
      rw [List.mem_map]
      constructor
      · rintro ⟨order, h, rfl⟩
        obtain ⟨id, row, hrow, hrow', rfl⟩ := (hmem order).1 h
        exact ⟨row, hrow, hrow'⟩
      · rintro ⟨row, hrow, hrow'⟩
        exact ⟨row.to_order id, (hmem _).2 ⟨id, row, hrow, hrow', rfl⟩, rfl⟩
    rw [hs₂ id]
    cases hrow : s₁.order id with
    | none =>
      split <;> rfl
    | some row =>
      by_cases hlisted' : non_terminal_row id row
      · rw [if_pos (hids.2 ⟨row, hrow, hlisted'⟩)]
        simp only [Option.map_some, if_pos hlisted']
      · have hno : id ∉ orders.map (·.order_id) := by
          rw [hids, hrow]
          rintro ⟨_, ⟨⟩, h⟩
          exact hlisted' h
        rw [if_neg hno]
        simp only [Option.map_some, if_neg hlisted']

end run

/-! ## Section 3: The truth of the venues -/

/-- A reconciliation looks the order up and can write what it learns. -/
structure LookedUp (adapters : String → Bool) (refused : Refusals) (order_id : String)
    (row : OrderRow) : Prop where
  listed : non_terminal_row order_id row
  real : is_synthetic_placeholder_order_id order_id = false
  adapter : adapters row.platform = true
  accepts : refused.accepts order_id

/-- `fresh` is the answer on an order of this row, told from the order that was asked
    about: its status was left alone, or the answer is that there is no such order. -/
def Answers (lookup : Lookup) (row : OrderRow) (fresh : Report) : Prop :=
  (∃ new, lookup.returned = .ok new ∧ fresh = lookup.fresh new) ∧
    (lookup.held.status = row.status ∨ not_found fresh.status fresh.error)

/-- What becomes of a row in a reconciliation. -/
structure Reconciled (adapters : String → Bool) (venue : String → Lookup) (refused : Refusals)
    (order_id : String) (row row' : OrderRow) : Prop where
  /-- A definitive terminal answer is stored. -/
  definitive : ∀ fresh, LookedUp adapters refused order_id row →
    Answers (venue order_id) row fresh → ¬ fresh.status.mayStillFill →
      row'.status = fresh.status ∧ row'.fill_qty = fresh.fill_qty
  /-- So is any other answer with a status of its own. -/
  changed : ∀ fresh, LookedUp adapters refused order_id row →
    Answers (venue order_id) row fresh → fresh.status ≠ row.status →
      row'.status = fresh.status ∧ row'.fill_qty = fresh.fill_qty
  /-- An order whose lookup raises is orphaned, with the fill it had. -/
  raised : ∀ exc, LookedUp adapters refused order_id row →
    (venue order_id).returned = .error exc →
      row'.status = .failed ∧ row'.error = "orphaned on restart: " ++ exc ∧
        row'.fill_qty = (venue order_id).held.fill_qty
  /-- A placeholder the listing lets through is ended, with the fill it had. -/
  placeholder : non_terminal_row order_id row → refused.accepts order_id →
    is_synthetic_placeholder_order_id order_id = true →
      row'.status = .aborted ∧ row'.fill_qty = row.fill_qty
  /-- The rows of all other orders stay. -/
  same : ∀ fresh, LookedUp adapters refused order_id row →
    Answers (venue order_id) row fresh → fresh.status = row.status → row' = row
  unlisted : ¬ non_terminal_row order_id row → row' = row
  refused : ¬ refused.accepts order_id → row' = row
  unasked : is_synthetic_placeholder_order_id order_id = false → adapters row.platform = false →
    row' = row

section truth

variable {adapters : String → Bool} {venue : String → Lookup} {refused : Refusals}
  {order_id : String} {row : OrderRow} {fresh : Report}

theorem reconciled_row_looked_up (h : LookedUp adapters refused order_id row) :
    reconciled_row adapters venue refused order_id row =
      match answer_written (venue order_id) with
      | none => row
      | some r => r.row row := by
  have hadapter : ¬ adapters row.platform = false := by simp [h.adapter]
  unfold reconciled_row reconciled
  rw [if_neg (by simp [h.real]), if_neg hadapter]
  unfold written_row
  simp only [if_pos h.accepts]

theorem answer_written_changed {lookup : Lookup} (h : Answers lookup row fresh)
    (hchanged : fresh.status ≠ row.status) : answer_written lookup = some fresh := by
  obtain ⟨⟨new, hreturned, rfl⟩, htold⟩ := h
  have hwritten : not_found (lookup.fresh new).status (lookup.fresh new).error ∨
      (lookup.fresh new).status ≠ lookup.held.status := by
    rcases htold with hheld | hgone
    · right
      rw [hheld]
      exact hchanged
    · exact .inl hgone
  unfold answer_written
  rw [hreturned]
  exact if_pos hwritten

theorem answer_written_same {lookup : Lookup} (h : Answers lookup row fresh)
    (hsame : fresh.status = row.status) (hlive : row.status.mayStillFill) :
    answer_written lookup = none := by
  obtain ⟨⟨new, hreturned, rfl⟩, htold⟩ := h
  -- A live status is not that of an order the venue does not know.
  have hthere : ¬ not_found (lookup.fresh new).status (lookup.fresh new).error := by
    intro hgone
    rw [← hsame, hgone.1] at hlive
    revert hlive
    decide
  have hheld : lookup.held.status = row.status := htold.resolve_right hthere
  unfold answer_written
  rw [hreturned]
  apply if_neg
  rw [not_or, hheld, not_not]
  exact ⟨hthere, hsame⟩

/-- A listed row is reconciled with what its venue says. -/
theorem reconciled_row_spec (hlisted : non_terminal_row order_id row) :
    Reconciled adapters venue refused order_id row
      (reconciled_row adapters venue refused order_id row) where
  definitive := by
    intro fresh hasked hanswers hover
    -- a listed row is not terminal, so a terminal answer is a change
    have hchanged : fresh.status ≠ row.status := by
      rintro heq
      exact hover (heq ▸ hlisted.1)
    rw [reconciled_row_looked_up hasked, answer_written_changed hanswers hchanged]
    exact ⟨rfl, rfl⟩
  changed := by
    intro fresh hasked hanswers hchanged
    rw [reconciled_row_looked_up hasked, answer_written_changed hanswers hchanged]
    exact ⟨rfl, rfl⟩
  raised := by
    intro exc hasked hraised
    rw [reconciled_row_looked_up hasked]
    unfold answer_written
    rw [hraised]
    exact ⟨rfl, rfl, rfl⟩
  placeholder := by
    intro _ haccepts hplaceholder
    unfold reconciled_row reconciled
    rw [if_pos hplaceholder]
    unfold written_row
    simp only [if_pos haccepts]
    exact ⟨rfl, rfl⟩
  same := by
    intro fresh hasked hanswers hsame
    rw [reconciled_row_looked_up hasked, answer_written_same hanswers hsame hlisted.1]
  unlisted := fun h => absurd hlisted h
  refused := by
    intro hrefused
    unfold reconciled_row written_row
    split
    · rfl
    · exact if_neg hrefused
  unasked := by
    intro hreal hadapter
    unfold reconciled_row reconciled
    rw [if_neg (by simp [hreal]), if_pos hadapter]
    rfl

end truth

/-- After a reconciliation every order with a definitive terminal answer is stored with
    that status and fill. The other rows are as they were, but for answers with another
    status that is not final, lookups that raised and placeholders. -/
theorem restart_persists_truth (adapters : String → Bool) (venue : String → Lookup)
    (old : String → Prop) (refused : Refusals) {s s' : Store} {orphaned : List (Order ℚ)}
    (hrun : Exec (desk venue old refused) (reconcile_non_terminal_orders adapters) s
      (.ok orphaned) s') (order_id : String) :
    (s.order order_id = none → s'.order order_id = none) ∧
      ∀ row, s.order order_id = some row → ∃ row', s'.order order_id = some row' ∧
        Reconciled adapters venue refused order_id row row' := by
  have hrows := reconcile_non_terminal_orders_rewrites _ _ hrun order_id
  constructor
  · intro hnone
    rw [hrows, hnone]
    rfl
  · intro row hrow
    rw [hrow, Option.map_some] at hrows
    refine ⟨_, hrows, ?_⟩
    by_cases hlisted : non_terminal_row order_id row
    · rw [if_pos hlisted]
      exact reconciled_row_spec hlisted
    · rw [if_neg hlisted]
      exact {
        definitive := fun _ h => absurd h.listed hlisted
        changed := fun _ h => absurd h.listed hlisted
        raised := fun _ h => absurd h.listed hlisted
        placeholder := fun h => absurd h hlisted
        same := fun _ h => absurd h.listed hlisted
        unlisted := fun _ => rfl
        refused := fun _ => rfl
        unasked := fun _ _ => rfl }

/-! ### One order at restart -/

/-- Ten contracts asked for, none filled. -/
def resting_row : OrderRow where
  arb_id := "ARB-000001"
  client_order_id := none
  platform := "kalshi"
  market_id := "K"
  canonical_id := "C"
  side := .yes
  price := 1 / 2
  quantity := 10
  status := .submitted
  fill_price := 0
  fill_qty := 0
  error := ""

/-- The one order of the store. -/
def one_order : Store where
  arbs := ∅
  orders := ⟨[⟨"k-1", resting_row⟩], List.nodupKeys_singleton _⟩

/-- The order as it was given, untouched. -/
def untouched : Report := ⟨.submitted, 0, 0, ""⟩

/-- The venue filled the order. -/
def filled_ten : Report := ⟨.filled, 1 / 2, 10, ""⟩

/-- The one order is reconciled, whatever the lookup says. -/
theorem one_order_run (venue : String → Lookup) : ∃ (orphaned : List (Order ℚ)) (s' : Store),
    Exec (desk venue (fun _ => False) no_refusals) (reconcile_non_terminal_orders fun _ => true)
      one_order (.ok orphaned) s' := by
  have hlisted : NonTerminal one_order [resting_row.to_order "k-1"] := by
    have hrow : non_terminal_row "k-1" resting_row := by decide +kernel
    have hfilter : (one_order.orders.entries.filter fun e => non_terminal_row e.1 e.2) =
        [⟨"k-1", resting_row⟩] := List.filter_cons_of_pos (decide_eq_true hrow)
    unfold NonTerminal
    rw [hfilter]
    rfl
  have hlist : Exec (desk venue (fun _ => False) no_refusals)
      (.send Call.list_non_terminal_orders) one_order (.ok [resting_row.to_order "k-1"])
      one_order := .call ⟨rfl, hlisted⟩ (.ret _ _)
  obtain ⟨orphaned, s', horders⟩ := Exec.total desk_serves
    (reconcile_orders (fun _ => true) [resting_row.to_order "k-1"]) one_order
  exact ⟨orphaned, s', exec_bind.2 ⟨_, _, hlist, exec_bind.2 ⟨_, _, horders, .ret _ _⟩⟩⟩

theorem one_order_looked_up : LookedUp (fun _ => true) no_refusals "k-1" resting_row where
  listed := by decide +kernel
  real := by decide +kernel
  adapter := rfl
  accepts := ⟨rfl, by decide⟩

/-- The fill of a resting order, answered with a new order, is stored. -/
theorem restart_persists_truth_filled : ∃ (orphaned : List (Order ℚ)) (s' : Store)
    (row' : OrderRow),
    Exec (desk (fun _ => ⟨untouched, .ok (some filled_ten)⟩) (fun _ => False) no_refusals)
      (reconcile_non_terminal_orders fun _ => true) one_order (.ok orphaned) s' ∧
    s'.order "k-1" = some row' ∧ row'.status = .filled ∧ row'.fill_qty = 10 := by
  obtain ⟨orphaned, s', hrun⟩ := one_order_run fun _ => ⟨untouched, .ok (some filled_ten)⟩
  have htruth := restart_persists_truth _ _ _ _ hrun "k-1"
  obtain ⟨row', hrow', hreconciled⟩ := htruth.2 resting_row rfl
  have hanswers : Answers ⟨untouched, .ok (some filled_ten)⟩ resting_row filled_ten :=
    ⟨⟨_, rfl, rfl⟩, .inl rfl⟩
  have hstored := hreconciled.definitive _ one_order_looked_up hanswers (by decide)
  exact ⟨orphaned, s', row', hrun, hrow', hstored⟩

/-- A venue that could not be reached gave no answer at all, and the resting order is
    stored as failed. -/
theorem unreachable_venue_rewrites : ∃ (orphaned : List (Order ℚ)) (s' : Store)
    (row' : OrderRow),
    Exec (desk (fun _ => ⟨untouched, .error "connection reset"⟩) (fun _ => False) no_refusals)
      (reconcile_non_terminal_orders fun _ => true) one_order (.ok orphaned) s' ∧
    one_order.order "k-1" = some resting_row ∧ s'.order "k-1" = some row' ∧
    row'.status = .failed ∧ row' ≠ resting_row := by
  obtain ⟨orphaned, s', hrun⟩ := one_order_run fun _ => ⟨untouched, .error "connection reset"⟩
  have hrows := reconcile_non_terminal_orders_rewrites _ _ hrun "k-1"
  have hrow : one_order.order "k-1" = some resting_row := rfl
  rw [hrow, Option.map_some, if_pos one_order_looked_up.listed,
    reconciled_row_looked_up one_order_looked_up] at hrows
  refine ⟨orphaned, s', _, hrun, hrow, hrows, rfl, ?_⟩
  intro hsame
  exact absurd (congrArg OrderRow.status hsame) (by decide)

end Reconcile
