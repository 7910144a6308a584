import Mathlib.Algebra.Order.Field.Rat
import Arbiter.Framework.Instances

/-! # Orders

  The engine's view of one order at one venue, and the statuses it branches on.

  Quantities are left abstract: the engine declares them as whole contracts
  (`Order ℕ`), the venue adapters fill the same record with parsed numbers.
  Timestamps are left out, nothing in the modelled code reads them.
-/

namespace Execution

/-! ### Statuses -/

/-- `OrderStatus`: what is known about an order. -/
inductive OrderStatus
  | pending
  | submitted
  | filled
  | partialFill
  | cancelled
  | failed
  | aborted
  | simulated
  deriving DecidableEq

namespace OrderStatus

/-- The status text, as stored and as quoted in error trails. -/
def value : OrderStatus → String
  | pending => "pending"
  | submitted => "submitted"
  | filled => "filled"
  | partialFill => "partial"
  | cancelled => "cancelled"
  | failed => "failed"
  | aborted => "aborted"
  | simulated => "simulated"

/-- `terminal_failed`: the order is over and its status reports no position. -/
def terminalFailed (s : OrderStatus) : Prop := s = failed ∨ s = cancelled ∨ s = aborted

/-- `surviving_statuses`: the order holds a position, or may still get one. -/
def surviving (s : OrderStatus) : Prop := s = filled ∨ s = partialFill ∨ s = submitted

/-- The statuses under which the order may still fill at the venue. -/
def mayStillFill (s : OrderStatus) : Prop := s = submitted ∨ s = pending ∨ s = partialFill

/-- `terminal_statuses` of the post-submit poll: the poll stops on these. -/
def terminal (s : OrderStatus) : Prop :=
  s = filled ∨ s = partialFill ∨ s = cancelled ∨ s = failed ∨ s = aborted

instance (s : OrderStatus) : Decidable s.terminalFailed := by
  unfold terminalFailed; infer_instance

instance (s : OrderStatus) : Decidable s.surviving := by
  unfold surviving; infer_instance

instance (s : OrderStatus) : Decidable s.mayStillFill := by
  unfold mayStillFill; infer_instance

instance (s : OrderStatus) : Decidable s.terminal := by
  unfold terminal; infer_instance

end OrderStatus

/-! ### Orders -/

/-- The two legs of an arb. -/
inductive Side
  | yes
  | no
  deriving DecidableEq

/-- `side`, as the adapters and the notes spell it. -/
def Side.text : Side → String
  | .yes => "yes"
  | .no => "no"

/-- `side.upper()`, as order ids spell it. -/
def Side.upper : Side → String
  | .yes => "YES"
  | .no => "NO"

/-- The leg on the other side. -/
def Side.other : Side → Side
  | .yes => .no
  | .no => .yes

/-- `Order`: one leg at one venue, with quantities in `Q`. -/
structure Order (Q : Type) where
  order_id : String
  platform : String
  market_id : String
  canonical_id : String
  side : Side
  /-- Limit price. -/
  price : ℚ≥0
  /-- Contracts asked for. -/
  quantity : Q
  status : OrderStatus
  fill_price : ℚ≥0
  /-- Contracts reported filled. -/
  fill_qty : Q
  error : String
  /-- The engine-chosen idempotency key, when the venue has one. -/
  external_client_order_id : Option String
  /-- The engine could not prove what became of this order. -/
  idempotency_ambiguous : Bool
  deriving DecidableEq

/-- A leg as the engine handles it: whole contracts. -/
abbrev Leg := Order ℕ

/-- An order the engine makes up itself, with nothing filled. -/
def Order.synthetic (order_id platform market_id canonical_id : String) (side : Side)
    (price : ℚ≥0) (qty : ℕ) (status : OrderStatus) (error : String) : Leg :=
  { order_id, platform, market_id, canonical_id, side, price, quantity := qty, status
    fill_price := 0, fill_qty := 0, error
    external_client_order_id := none, idempotency_ambiguous := false }

end Execution
