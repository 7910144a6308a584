import Arbiter.Adapters.Kalshi
import Arbiter.Execution.Calls

/-! # Orders at their Venue

  What is true of an order at its venue, next to what the engine is told of it. The two
  come apart: an answer may be made up by the adapter, where the venue gave none.
-/

namespace Execution

/-! ## Section 1: The order at the venue -/

/-- What is true of an order. -/
structure VenueOrder where
  /-- It cannot fill any more: it is filled in full, cancelled or was never placed. -/
  ended : Bool
  /-- Contracts filled so far. -/
  filled : ℕ

/-- An order goes on filling until it is over. -/
structure VenueOrder.Moves (v v' : VenueOrder) : Prop where
  still : v.ended = true → v' = v
  fills : v.filled ≤ v'.filled

theorem VenueOrder.Moves.refl (v : VenueOrder) : v.Moves v := ⟨fun _ => rfl, Nat.le_refl _⟩

/-! ## Section 2: Answers of the adapters -/

/-- An answer of `get_order`, and whether the venue said it. Kalshi's adapter is as it is
    implemented; another adapter may answer anything. -/
def AnswersOn (platform : String) (leg : Leg) (answer : Except String Reading) (said : Bool) :
    Prop :=
  platform = "kalshi" → ∃ (authenticated : Bool) (response : Except String (Kalshi.Response ℕ)),
    answer = .ok ⟨Kalshi.get_order authenticated response leg, true⟩ ∧
    said = Kalshi.reported authenticated response

/-- The venue itself said that the order is over, with its final count. -/
structure FinalReport (v : VenueOrder) (said : Bool) (reading : Leg) : Prop where
  said : said = true
  ended : v.ended = true
  count : reading.fill_qty = v.filled

end Execution
