import Arbiter.Execution.Fallbacks

/-! # What Placing a Leg Sends

  Placing a leg and running the secondary chain make calls of one kind: orders, and
  the reads, cancels and writes that go with them. Which orders the chain can send
  does not depend on what it is answered.

  ## Contents

  - `Sends`: the calls of a program that sends only certain orders.
  - `Rung`: the orders of the chain, one per rung.
  - `place_order_for_leg_calls`, `execute_with_fallbacks_calls`: the two programs
    send those orders and no others.
-/

namespace Execution

open Effect

/-! ### Calls -/

/-- The calls of a program that sends orders as `sends` allows, and otherwise reads,
    cancels, waits and writes rows. -/
def Sends (sends : String → OrderRequest → Prop) : Call → Prop
  | .place_fok platform req => sends platform req
  | .place_ioc platform req => sends platform req
  | .get_order .. => True
  | .cancel_order .. => True
  | .list_open_orders_by_client_id .. => True
  | .best_executable_price .. => True
  | .db_write_failed => True
  | .upsert_order .. => True
  | .record_arb_stub_with_leg .. => True
  | .handle_db_failure .. => True
  | .sleep _ => True
  | .rounds_left _ => True
  | _ => False

/-- The orders of the chain, one per rung: the first attempt unless it is skipped, a
    requote for each attempt, and the last rung. -/
inductive Rung (eng : Engine) (leg : SecondaryLeg) (skip_initial_attempt : Bool) :
    OrderRequest → Prop
  | initial (hfirst : skip_initial_attempt = false) :
      Rung eng leg skip_initial_attempt (leg.request leg.arb_id leg.initial_price)
  | requote (attempt : ℕ) (hle : attempt ≤ eng.secondary_requote_attempts) (hpos : 0 < attempt) :
      Rung eng leg skip_initial_attempt
        (leg.request (leg.arb_id ++ "-RQ" ++ toString attempt)
          (leg.ceiling (attempt = eng.secondary_requote_attempts)))
  | last : Rung eng leg skip_initial_attempt (leg.request leg.last_id leg.max_affordable_price)

/-- A rung asks for the leg's quantity on the leg's side. -/
theorem Rung.of_leg {eng : Engine} {leg : SecondaryLeg} {skip_initial_attempt : Bool}
    {req : OrderRequest} (h : Rung eng leg skip_initial_attempt req) :
    req.qty = leg.qty ∧ req.side = leg.side := by
  cases h <;> exact ⟨rfl, rfl⟩

section calls

variable {eng : Engine} {platform : String} {sends : String → OrderRequest → Prop}

private theorem poll_rounds_calls {interval delay : ℚ} {n : ℕ} {current : Leg} :
    (poll_rounds platform interval delay n current).Calls (Sends sends) := by
  induction n generalizing delay current with
  | zero => exact calls_ret _
  | succ n ih =>
    unfold poll_rounds
    apply Prog.Calls.bind (calls_send.2 trivial)
    intro _
    apply Prog.Calls.bind (calls_send.2 trivial)
    intro answer
    cases answer with
    | error _ => exact ih
    | ok updated =>
      rw [calls_ite]
      exact ⟨fun _ => calls_pure _, fun _ => ih⟩

private theorem poll_submitted_to_terminal_calls {adapter : Adapter} {order : Leg} :
    (poll_submitted_to_terminal eng adapter platform order).Calls (Sends sends) := by
  unfold poll_submitted_to_terminal
  rw [calls_ite]
  refine ⟨fun _ => ?_, fun _ => calls_pure _⟩
  apply Prog.Calls.bind (calls_send.2 trivial)
  intro rounds
  apply Prog.Calls.bind poll_rounds_calls
  intro polled
  cases polled with
  | inl terminal => exact calls_pure _
  | inr current =>
    apply Prog.Calls.bind (calls_send.2 trivial)
    intro answer
    apply Prog.Calls.bind (calls_send.2 trivial)
    intro read
    cases read <;> exact calls_pure _

private theorem cancel_each_calls {found : List Leg} :
    (cancel_each platform found).Calls (Sends sends) := by
  induction found with
  | nil => exact calls_ret _
  | cons real rest ih =>
    apply Prog.Calls.bind (calls_send.2 trivial)
    intro answer
    exact ih.bind fun later => calls_pure _

theorem timeout_recovery_calls {req : OrderRequest} :
    (timeout_recovery eng platform req).Calls (Sends sends) := by
  apply Prog.Calls.bind (calls_send.2 trivial)
  intro found
  exact cancel_each_calls.bind fun cancelled_any => calls_pure _

theorem persist_leg_calls {db_arb_id canonical_id : String} {order : Leg}
    {stub : Option Stub} :
    (persist_leg eng db_arb_id canonical_id order stub).Calls (Sends sends) := by
  unfold persist_leg
  rw [calls_ite]
  refine ⟨fun _ => ?_, fun _ => calls_pure _⟩
  cases stub with
  | some stub =>
    apply Prog.Calls.bind (calls_send.2 trivial)
    intro answer
    cases answer with
    | ok _ => exact calls_pure _
    | error err => exact calls_send.2 trivial
  | none =>
    apply Prog.Calls.bind (calls_send.2 trivial)
    intro answer
    cases answer with
    | ok _ => exact calls_pure _
    | error err => exact calls_send.2 trivial

theorem poll_and_persist_calls {adapter : Adapter} {db_arb_id canonical_id : String}
    {stub : Option Stub} {order : Leg} :
    (poll_and_persist eng adapter platform db_arb_id canonical_id stub order).Calls
      (Sends sends) := by
  have hpersist : ∀ order : Leg,
      (persist_leg eng db_arb_id canonical_id order stub >>= fun _ => pure order).Calls
        (Sends sends) :=
    fun order => persist_leg_calls.bind fun _ => calls_pure order
  unfold poll_and_persist
  simp only [calls_ite]
  constructor
  · intro _
    exact poll_submitted_to_terminal_calls.bind hpersist
  · intro _
    exact hpersist order

/-- Placing a leg sends that order and no other. -/
theorem place_order_for_leg_calls {req : OrderRequest} {use_ioc : Bool} {stub : Option Stub}
    {persist_arb_id : Option String} (hreq : sends platform req) :
    (place_order_for_leg eng platform req use_ioc stub persist_arb_id).Calls (Sends sends) := by
  unfold place_order_for_leg
  cases eng.adapters platform with
  | none => exact calls_pure _
  | some adapter =>
    apply Prog.Calls.bind (calls_send.2 trivial)
    intro blocked
    rw [calls_ite]
    refine ⟨fun _ => calls_pure _, fun _ => ?_⟩
    apply Prog.Calls.bind
    · show (place adapter platform req use_ioc).Calls (Sends sends)
      rw [place, calls_ite]
      exact ⟨fun _ => calls_send.2 hreq, fun _ => calls_send.2 hreq⟩
    · intro answer
      match answer with
      | .error (.raised err) => exact calls_pure _
      | .error .timeout =>
        exact timeout_recovery_calls.bind fun order =>
          poll_and_persist_calls.bind fun order => calls_pure _
      | .ok order => exact poll_and_persist_calls.bind fun order => calls_pure _

variable {leg : SecondaryLeg} {skip_initial_attempt : Bool}

private theorem requote_calls {left : ℕ} {order : Option Leg} {notes : List String}
    (hleft : left ≤ eng.secondary_requote_attempts)
    (hsends : ∀ req, Rung eng leg skip_initial_attempt req → sends leg.platform req) :
    (requote eng leg left order notes).Calls (Sends sends) := by
  induction left generalizing order notes with
  | zero => exact calls_ret _
  | succ left ih =>
    have hrest : ∀ order notes, (requote eng leg left order notes).Calls (Sends sends) :=
      fun _ _ => ih (by omega)
    -- the attempt is the final one exactly when none is left after it
    have hrung : sends leg.platform (leg.request
        (leg.arb_id ++ "-RQ" ++ toString (eng.secondary_requote_attempts - left))
        (leg.ceiling (left = 0))) := by
      have hfinal : (eng.secondary_requote_attempts - left = eng.secondary_requote_attempts) ↔
          left = 0 := by omega
      have hsent := hsends _ (.requote (eng.secondary_requote_attempts - left) (by omega) (by omega))
      simpa only [hfinal] using hsent
    unfold requote
    apply Prog.Calls.bind
    · rw [requote_delay, calls_ite]
      exact ⟨fun _ => calls_send.2 trivial, fun _ => calls_ret _⟩
    intro _
    apply Prog.Calls.bind (calls_send.2 trivial)
    intro walk
    cases walk with
    | error _ => exact hrest _ _
    | ok book =>
      simp only [calls_ite]
      refine ⟨fun _ => hrest _ _, fun _ => ⟨fun _ => hrest _ _, fun _ => ?_⟩⟩
      apply Prog.Calls.bind (place_order_for_leg_calls hrung)
      intro placed
      cases placed with
      | error err => exact calls_pure _
      | ok retry =>
        simp only [calls_ite]
        exact ⟨fun _ => calls_pure _, fun _ => ⟨fun _ => calls_pure _, fun _ => hrest _ _⟩⟩

private theorem retry_chain_calls {skip : Bool} {order : Option Leg}
    (hsends : ∀ req, Rung eng leg skip_initial_attempt req → sends leg.platform req) :
    (retry_chain eng leg skip order).Calls (Sends sends) := by
  unfold retry_chain
  apply Prog.Calls.bind (requote_calls (by split <;> split <;> omega) hsends)
  intro requoted
  match requoted with
  | .error err => exact calls_pure _
  | .ok (.inl done) => exact calls_pure _
  | .ok (.inr (order, notes)) =>
    simp only [calls_ite]
    refine ⟨fun _ => calls_pure _, fun _ => ?_⟩
    apply Prog.Calls.bind (place_order_for_leg_calls (hsends _ .last))
    intro placed
    cases placed with
    | error err => exact calls_pure _
    | ok order3 =>
      simp only [calls_ite]
      exact ⟨fun _ => calls_pure _, fun _ => calls_pure _⟩

/-- The secondary chain sends its rungs and no other orders. -/
theorem execute_with_fallbacks_calls
    (hsends : ∀ req, Rung eng leg skip_initial_attempt req → sends leg.platform req) :
    (execute_with_fallbacks eng leg skip_initial_attempt).Calls (Sends sends) := by
  unfold execute_with_fallbacks
  rw [calls_ite]
  refine ⟨fun _ => retry_chain_calls hsends, fun hfirst => ?_⟩
  apply Prog.Calls.bind (place_order_for_leg_calls (hsends _ (.initial (by simpa using hfirst))))
  intro placed
  cases placed with
  | error err => exact calls_pure _
  | ok order =>
    simp only [calls_ite]
    exact ⟨fun _ => calls_pure _,
      fun _ => ⟨fun _ => calls_pure _, fun _ => retry_chain_calls hsends⟩⟩

end calls

end Execution
