import Arbiter.Execution.Calls

/-! # Placing one Leg

  `_place_order_for_leg` sends one order and comes back with what is known of it.
  A local timeout is followed by a search for the order by its client id; an order
  that is accepted but not matched is polled until it is terminal, and cancelled
  when it is not in time.
-/

namespace Execution

open Effect

/-! ## Section 1: Post-submit poll -/

/-- `_poll_timeout_for_platform`. -/
def poll_timeout_for_platform (eng : Engine) (platform : String) : ℚ :=
  if platform.toLower = "forecastex" then eng.submit_poll_timeout_forecastex_s
  else eng.submit_poll_timeout_s

/-- The poll loop, with `delay` before the next read. Ends with a terminal order
    (`inl`), or with the freshest reading (`inr`). -/
def poll_rounds (platform : String) (interval : ℚ) : ℚ → ℕ → Leg → Exe (Leg ⊕ Leg)
  | _, 0, current => .ret (.inr current)
  | delay, n + 1, current => do
      sleep delay
      match ← get_order platform current with
      | .error _ => poll_rounds platform interval interval n current
      | .ok updated =>
          if updated.order.status.terminal then return .inl updated.order
          else poll_rounds platform interval interval n updated.order

/-- The answer of a cancel; one that raises did not cancel. -/
def cancelled_ok : Except String Bool → Bool
  | .ok answer => answer
  | .error _ => false

/-- An order that is not over, or whose cancel failed, may still be live. A fill is
    proof enough. -/
def mark_ambiguous (cancel_ok : Bool) (current : Leg) : Leg :=
  if (¬ current.status.terminal ∨ cancel_ok = false) ∧ current.status ≠ .filled then
    { current with idempotency_ambiguous := true }
  else current

@[simp] theorem mark_ambiguous_status (cancel_ok : Bool) (o : Leg) :
    (mark_ambiguous cancel_ok o).status = o.status := by
  unfold mark_ambiguous; split <;> rfl

@[simp] theorem mark_ambiguous_fill_qty (cancel_ok : Bool) (o : Leg) :
    (mark_ambiguous cancel_ok o).fill_qty = o.fill_qty := by
  unfold mark_ambiguous; split <;> rfl

theorem mark_ambiguous_keeps {cancel_ok : Bool} {o : Leg} (h : o.idempotency_ambiguous) :
    (mark_ambiguous cancel_ok o).idempotency_ambiguous := by
  unfold mark_ambiguous
  split
  · rfl
  · exact h

theorem mark_ambiguous_flags {cancel_ok : Bool} {o : Leg}
    (h : ¬ o.status.terminal ∨ cancel_ok = false) (hfilled : o.status ≠ .filled) :
    (mark_ambiguous cancel_ok o).idempotency_ambiguous := by
  unfold mark_ambiguous
  rw [if_pos ⟨h, hfilled⟩]

/-- The end of a poll that ran out of time: cancel, and read once more. -/
def cancel_and_recheck (platform : String) (current : Leg) : Exe Leg := do
  let answer ← cancel_order platform current
  let cancel_ok := cancelled_ok answer
  match ← get_order platform current with
  | .error _ => return mark_ambiguous cancel_ok current
  | .ok refreshed => return mark_ambiguous cancel_ok refreshed.order

/-- The order can be polled: there is time, and the adapter reads orders. -/
def pollable (eng : Engine) (adapter : Adapter) (platform : String) (order : Leg) : Prop :=
  0 < poll_timeout_for_platform eng (if order.platform = "" then platform else order.platform) ∧
    adapter.has_get_order ∧ adapter.async_get_order

instance (eng : Engine) (adapter : Adapter) (platform : String) (order : Leg) :
    Decidable (pollable eng adapter platform order) := by
  unfold pollable; infer_instance

/-- `_poll_submitted_to_terminal`. -/
def poll_submitted_to_terminal (eng : Engine) (adapter : Adapter) (platform : String)
    (order : Leg) : Exe Leg := do
  if pollable eng adapter platform order then
    let interval := if eng.submit_poll_interval_s ≤ 0 then 1 / 2 else eng.submit_poll_interval_s
    let first_poll_s := max 0 (min eng.submit_first_poll_s interval)
    let rounds ← rounds_left
      (poll_timeout_for_platform eng (if order.platform = "" then platform else order.platform))
    match ← poll_rounds platform interval first_poll_s rounds order with
    | .inl terminal => return terminal
    | .inr current => cancel_and_recheck platform current
  else return order

/-! ## Section 2: Timeout recovery -/

/-- Cancel each order found; whether any cancel went through. -/
def cancel_each (platform : String) : List Leg → Exe Bool
  | [] => .ret false
  | real :: rest => do
      let answer ← cancel_order platform real
      let later ← cancel_each platform rest
      return cancelled_ok answer || later

/-- What is kept of a placement that timed out, given the orders found for it. -/
def timed_out_order (partial_order : Leg) (found_count : ℕ) (cancelled_any : Bool) : Leg :=
  if cancelled_any then
    { partial_order with
      status := .cancelled
      error := partial_order.error ++ "; cancelled " ++ toString found_count ++
        " orphaned order(s) found by client_order_id prefix" }
  else if 0 < found_count then
    { partial_order with
      status := .failed
      error := partial_order.error ++ "; found " ++ toString found_count ++
        " orphaned order(s) but cancel failed - manual reconciliation required" }
  else
    { partial_order with
      status := .failed
      error := partial_order.error ++ "; no matching open order found" ++
        " - platform may have rejected or never received" ++
        " - retry blocked: idempotency unproven" }

@[simp] theorem timed_out_order_fill_qty (o : Leg) (n : ℕ) (c : Bool) :
    (timed_out_order o n c).fill_qty = o.fill_qty := by
  unfold timed_out_order; split <;> [rfl; split <;> rfl]

@[simp] theorem timed_out_order_flag (o : Leg) (n : ℕ) (c : Bool) :
    (timed_out_order o n c).idempotency_ambiguous = o.idempotency_ambiguous := by
  unfold timed_out_order; split <;> [rfl; split <;> rfl]

/-- A placement that timed out ends cancelled or failed. -/
theorem timed_out_order_status (o : Leg) (n : ℕ) (c : Bool) :
    (timed_out_order o n c).status = .cancelled ∨ (timed_out_order o n c).status = .failed := by
  unfold timed_out_order
  split
  · exact .inl rfl
  · split <;> exact .inr rfl

theorem timed_out_order_not_submitted (o : Leg) (n : ℕ) (c : Bool) :
    (timed_out_order o n c).status ≠ .submitted := by
  intro hs
  rcases timed_out_order_status o n c with h | h <;> simp [hs] at h

/-- EXEC-05: look for the timed-out order by its client id and cancel what is found.
    Every way out is ambiguous. -/
def timeout_recovery (eng : Engine) (platform : String) (req : OrderRequest) : Exe Leg := do
  let partial_order : Leg :=
    { Order.synthetic (req.arb_id ++ "-" ++ req.side.upper ++ "-" ++ platform.toUpper) platform
        req.market_id req.canonical_id req.side req.price req.qty .pending
        ("local timeout after " ++ eng.execution_timeout_text ++ "s") with
      idempotency_ambiguous := true }
  let found ← list_open_orders_by_client_id platform (req.arb_id ++ "-" ++ req.side.upper ++ "-")
  let open_orders := match found with
    | .ok orders => orders
    | .error _ => []
  let partial_order :=
    { partial_order with
      external_client_order_id :=
        open_orders.findSome? fun real => real.external_client_order_id.filter (· ≠ "") }
  let cancelled_any ← cancel_each platform open_orders
  return timed_out_order partial_order open_orders.length cancelled_any

/-! ## Section 3: Placing a leg -/

/-- The row of an order, in one write with its arb row when a stub is given. A
    failed write is escalated, not raised. -/
def persist_leg (eng : Engine) (db_arb_id canonical_id : String) (order : Leg)
    (atomic_arb_stub : Option Stub) : Exe Unit := do
  if eng.has_store then
    match atomic_arb_stub with
    | some stub =>
        match ← record_arb_stub_with_leg db_arb_id canonical_id order stub
          order.external_client_order_id with
        | .ok _ => return ()
        | .error err => handle_db_failure "record_arb_stub_with_leg" db_arb_id canonical_id err
    | none =>
        match ← upsert_order order db_arb_id order.external_client_order_id with
        | .ok _ => return ()
        | .error err => handle_db_failure "upsert_order" db_arb_id canonical_id err
  else return ()

/-- `place_ioc` where it is asked for and a coroutine, else `place_fok`. -/
def place (adapter : Adapter) (platform : String) (req : OrderRequest) (use_ioc : Bool) :
    Exe (Except PlaceFailure Leg) :=
  if use_ioc ∧ adapter.async_place_ioc then place_ioc platform req else place_fok platform req

/-- Poll if need be, then persist. -/
def poll_and_persist (eng : Engine) (adapter : Adapter) (platform db_arb_id canonical_id : String)
    (atomic_arb_stub : Option Stub) (order : Leg) : Exe Leg := do
  let order ←
    if order.status = .submitted then poll_submitted_to_terminal eng adapter platform order
    else .ret order
  persist_leg eng db_arb_id canonical_id order atomic_arb_stub
  return order

/-- `_place_order_for_leg`. An adapter that raises anything but a timeout is not
    caught here. -/
def place_order_for_leg (eng : Engine) (platform : String) (req : OrderRequest) (use_ioc : Bool)
    (atomic_arb_stub : Option Stub) (persist_arb_id : Option String) :
    Exe (Except String Leg) := do
  let db_arb_id := (persist_arb_id.filter (· ≠ "")).getD req.arb_id
  match eng.adapters platform with
  | none =>
      return .ok (Order.synthetic (req.arb_id ++ "-" ++ req.side.upper ++ "-NOADAPTER") platform
        req.market_id req.canonical_id req.side req.price req.qty .failed
        ("No adapter configured for platform: " ++ platform))
  | some adapter =>
      -- C4.2: no orders without an audit trail
      if ← db_write_failed then
        return .ok (Order.synthetic (req.arb_id ++ "-" ++ req.side.upper ++ "-DBFAIL") platform
          req.market_id req.canonical_id req.side req.price req.qty .aborted
          "DB write previously failed -- execution blocked by safety gate")
      else
        match ← place adapter platform req use_ioc with
        | .error (.raised err) => return .error err
        | .error .timeout =>
            let order ← timeout_recovery eng platform req
            let order ← poll_and_persist eng adapter platform db_arb_id req.canonical_id
              atomic_arb_stub order
            return .ok order
        | .ok order =>
            let order ← poll_and_persist eng adapter platform db_arb_id req.canonical_id
              atomic_arb_stub order
            return .ok order

end Execution
