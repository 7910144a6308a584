import Arbiter.Adapters.Forecastex

/-! # ForecastEx Acknowledgements and Polls

  The broker's format is parsed twice: by `_order_from_response`, when an order is
  acknowledged, and by `get_order`. The two count alike, but for an acknowledgement that is
  FILLED: where no count comes with it the whole order counts as filled, and where a zero is
  spelled out it counts as cancelled.

  Of the counts the acknowledgement does not read `cum_fill`; nothing is stated of one that
  has no other count.
-/

namespace Forecastex

open Execution

/-! ## Section 1: The counts -/

/-- The keys of a count that both parsers read. -/
def count_keys : List String := ["filled_quantity", "filledQuantity", "cumQty"]

/-- The quantity reported under any key of `get_order`. -/
def reported (payload : Json ℚ) : ℚ := polled_fill payload 0

/-- Only `cum_fill` reports a quantity. -/
def CumFillAlone (payload : Json ℚ) : Prop :=
  (∀ key ∈ count_keys, (payload.get key).truthy = false) ∧
    (payload.get "cum_fill").truthy = true

/-- Of keys under which nothing counts as true, the default is taken. -/
theorem first_eq_default {payload default : Json ℚ} {keys : List String}
    (h : ∀ key ∈ keys, (payload.get key).truthy = false) :
    payload.first keys default = default := by
  induction keys with
  | nil => rfl
  | cons key keys ih =>
    have hkey : (payload.get key).truthy = false := h key List.mem_cons_self
    rw [Json.first, Json.orElse, hkey]
    exact ih fun other hother => h other (List.mem_cons_of_mem _ hother)

/-- Where some key counts as true, keys that come later do not matter. -/
theorem first_append_of_truthy {payload default default' : Json ℚ} {keys later : List String}
    (h : ∃ key ∈ keys, (payload.get key).truthy = true) :
    payload.first (keys ++ later) default = payload.first keys default' := by
  induction keys with
  | nil =>
    obtain ⟨key, hkey, -⟩ := h
    cases hkey
  | cons key keys ih =>
    rw [List.cons_append, Json.first, Json.first, Json.orElse, Json.orElse]
    cases hkey : (payload.get key).truthy with
    | true => rfl
    | false =>
      refine ih ?_
      obtain ⟨other, hother, htrue⟩ := h
      rcases List.mem_cons.mp hother with rfl | hother
      · rw [hkey] at htrue
        cases htrue
      · exact ⟨other, hother, htrue⟩

/-- Both parsers find the same count, unless it is under `cum_fill` alone. -/
theorem ack_fill_eq {payload : Json ℚ} (h : ¬ CumFillAlone payload) :
    ack_fill payload = ((payload.first (count_keys ++ ["cum_fill"]) (.num 0)).float).getD 0 := by
  by_cases hcounted : ∃ key ∈ count_keys, (payload.get key).truthy = true
  · rw [first_append_of_truthy hcounted]
    rfl
  · have hnone : ∀ key ∈ count_keys, (payload.get key).truthy = false := by
      intro key hkey
      cases htrue : (payload.get key).truthy with
      | true => exact absurd ⟨key, hkey, htrue⟩ hcounted
      | false => rfl
    have hcum : (payload.get "cum_fill").truthy = false := by
      cases htrue : (payload.get "cum_fill").truthy with
      | true => exact absurd ⟨hnone, htrue⟩ h
      | false => rfl
    have hall : ∀ key ∈ count_keys ++ ["cum_fill"], (payload.get key).truthy = false := by
      intro key hkey
      rcases List.mem_append.mp hkey with hkey | hkey
      · exact hnone key hkey
      · rw [List.mem_singleton.mp hkey]
        exact hcum
    have hack : payload.first count_keys (.num 0) = .num 0 := first_eq_default hnone
    rw [first_eq_default hall]
    show ((payload.first count_keys (.num 0)).float).getD 0 = _
    rw [hack]

/-- What is reported is the whole part of the count. -/
theorem reported_eq {payload : Json ℚ} (h : ¬ CumFillAlone payload) :
    reported payload = int (ack_fill payload) := by
  rw [ack_fill_eq h]
  unfold reported polled_fill
  dsimp only
  split_ifs with hzero
  · show 0 = ((int (((payload.first (count_keys ++ ["cum_fill"]) (.num 0)).float).getD 0) : ℤ) : ℚ)
    rw [show ((payload.first (count_keys ++ ["cum_fill"]) (.num 0)).float).getD 0 = 0 from hzero]
    rfl
  · rfl

/-- Without any key of a count there is none. -/
theorem ack_fill_of_not_has_fill {payload : Json ℚ} (h : has_fill payload = false) :
    ack_fill payload = 0 := by
  have hnone : ∀ key ∈ count_keys, (payload.get key).truthy = false := by
    intro key hkey
    have hmissing : payload.get? key = none := by
      cases hget : payload.get? key with
      | none => rfl
      | some value =>
        have hlisted : key ∈ ["filled_qty", "filledQty", "filled_quantity", "filledQuantity",
            "cumQty", "cum_fill"] := by
          have hall : ∀ k ∈ count_keys, k ∈ ["filled_qty", "filledQty", "filled_quantity",
              "filledQuantity", "cumQty", "cum_fill"] := by decide
          exact hall key hkey
        have hfill : has_fill payload = true :=
          List.any_eq_true.mpr ⟨key, hlisted, by rw [hget]; rfl⟩
        rw [h] at hfill
        cases hfill
    rw [Json.get, Json.getD, hmissing]
    rfl
  show ((payload.first count_keys (.num 0)).float).getD 0 = 0
  rw [first_eq_default hnone]
  rfl

/-! ## Section 2: The two parsers -/

section parsers

variable (spelled : Json ℚ → String)

/-- The status an acknowledgement maps to. -/
def ack_status (ack : Json ℚ) : OrderStatus := map_status (ack_word spelled ack).toUpper .submitted

/-- FILLED, and no key of a count: a full fill. -/
def Uncounted (ack : Json ℚ) : Prop := ack_status spelled ack = .filled ∧ has_fill ack = false

/-- FILLED, and the count is zero: a kill. -/
def Killed (ack : Json ℚ) : Prop :=
  ack_status spelled ack = .filled ∧ has_fill ack = true ∧ ack_fill ack = 0

/-- There is a status, and the words that the two parsers take for it mean the same. -/
def OneStatus (ack : Json ℚ) : Prop :=
  (status_word spelled ack).toUpper ≠ "" ∧
    map_status (status_word spelled ack).toUpper .submitted = ack_status spelled ack

instance (ack : Json ℚ) : Decidable (Uncounted spelled ack) := inferInstanceAs (Decidable (_ ∧ _))

instance (ack : Json ℚ) : Decidable (Killed spelled ack) := inferInstanceAs (Decidable (_ ∧ _))

/-- An order that was sent, of which nothing is known yet. -/
def awaiting (req : OrderRequest) (price : ℚ≥0) (broker_order_id : String) : Order ℚ :=
  { order_id := broker_order_id, platform := "forecastex"
    market_id := req.market_id, canonical_id := req.canonical_id, side := req.side
    price, quantity := req.qty, status := .submitted, fill_price := 0, fill_qty := 0
    error := "", external_client_order_id := none, idempotency_ambiguous := false }

variable {spelled} {req : OrderRequest} {price : ℚ≥0} {broker_order_id : String} {ack : Json ℚ}

/-- The fill of an acknowledgement. -/
theorem order_from_response_fill :
    (order_from_response spelled req price broker_order_id ack).fill_qty =
      if Uncounted spelled ack then (req.qty : ℚ) else int (ack_fill ack) := by
  unfold order_from_response
  dsimp only
  by_cases hcount : Uncounted spelled ack
  · rw [if_pos hcount]
    have hmissing : ¬ has_fill ack = true := by
      rw [hcount.2]
      exact Bool.false_ne_true
    exact if_pos ⟨⟨hcount.1, ack_fill_of_not_has_fill hcount.2⟩, hmissing⟩
  · rw [if_neg hcount]
    exact if_neg fun h => hcount ⟨h.1.1, Bool.eq_false_iff.mpr h.2⟩

/-- The status of an acknowledgement. -/
theorem order_from_response_status :
    (order_from_response spelled req price broker_order_id ack).status =
      if Killed spelled ack then .cancelled else ack_status spelled ack := by
  unfold order_from_response
  dsimp only
  by_cases hkilled : Killed spelled ack
  · rw [if_pos hkilled]
    exact if_pos ⟨⟨hkilled.1, hkilled.2.2⟩, hkilled.2.1⟩
  · rw [if_neg hkilled]
    exact if_neg fun h => hkilled ⟨h.1.1, h.2, h.1.2⟩

/-- An acknowledgement is an object. -/
theorem acknowledgement_is_obj (response : Json ℚ) : (acknowledgement response).is_obj = true := by
  have hunwrapped (key : String) {payload : Json ℚ} (h : payload.is_obj = true) :
      (unwrapped key payload).is_obj = true := by
    unfold unwrapped
    split
    · split_ifs with hfirst
      · exact hfirst
      · exact h
    · exact h
  refine hunwrapped _ (hunwrapped _ ?_)
  split_ifs with hobj
  · exact hobj
  · rfl

/-- What has a status is not empty. -/
theorem truthy_of_status (hobj : ack.is_obj = true)
    (hword : (status_word spelled ack).toUpper ≠ "") : ack.truthy = true := by
  cases ack with
  | obj fields =>
    cases fields with
    | nil =>
      have hblank : (status_word spelled (.obj [])).toUpper = "" := by
        show "".toUpper = ""
        decide +kernel
      exact absurd hblank hword
    | cons field fields => rfl
  | null => cases hobj
  | bool b => cases hobj
  | num q => cases hobj
  | str s reads => cases hobj
  | arr items => cases hobj

/-- What a poll makes of an order, where it answers with a status. -/
theorem get_order_awaiting (hid : looks_like_synthetic_id broker_order_id = false)
    (hobj : ack.is_obj = true) (hword : (status_word spelled ack).toUpper ≠ "") :
    (get_order spelled (.ok ack) false (awaiting req price broker_order_id)).status =
        map_status (status_word spelled ack).toUpper .submitted ∧
      (get_order spelled (.ok ack) false (awaiting req price broker_order_id)).fill_qty =
        reported ack := by
  have hentry : entry ack = ack := by
    cases ack <;> first | rfl | cases hobj
  have hread : (ack.is_obj && ack.truthy) = true := by
    rw [hobj, truthy_of_status hobj hword]
    rfl
  unfold get_order
  rw [show (awaiting req price broker_order_id).order_id = broker_order_id from rfl, hid]
  dsimp only
  rw [hentry, hread]
  simp only [if_true, Bool.false_eq_true, if_false]
  rw [if_neg hword]
  exact ⟨rfl, rfl⟩

/-- An acknowledgement fills what it reports, but for a FILLED one without a count, which is a
    full fill. A poll that gets the same payload reads the same status and the same fill, but
    that it takes no missing count for a full fill and no zero for a kill. -/
theorem acknowledgement_counts (spelled : Json ℚ → String) (req : OrderRequest) (price : ℚ≥0)
    (broker_order_id : String) (response : Json ℚ)
    (hcounted : ¬ CumFillAlone (acknowledgement response)) :
    let ack := acknowledgement response
    let order := order_from_response spelled req price broker_order_id ack
    let polled := get_order spelled (.ok ack) false (awaiting req price broker_order_id)
    order.fill_qty = (if Uncounted spelled ack then (req.qty : ℚ) else reported ack) ∧
      (looks_like_synthetic_id broker_order_id = false → OneStatus spelled ack →
        order.status = (if Killed spelled ack then .cancelled else polled.status) ∧
        order.fill_qty = (if Uncounted spelled ack then (req.qty : ℚ) else polled.fill_qty)) := by
  intro ack order polled
  have hfill : order.fill_qty = if Uncounted spelled ack then (req.qty : ℚ) else reported ack := by
    rw [reported_eq hcounted]
    exact order_from_response_fill
  refine ⟨hfill, ?_⟩
  intro hid hstatus
  obtain ⟨hpolled, hpolled_fill⟩ : polled.status = _ ∧ polled.fill_qty = _ :=
    get_order_awaiting hid (acknowledgement_is_obj response) hstatus.1
  rw [hpolled, hpolled_fill, hstatus.2]
  exact ⟨order_from_response_status, hfill⟩

end parsers

/-- Ten contracts at forty cents. -/
def ten_yes : OrderRequest where
  arb_id := "ARB-000001"
  market_id := "801"
  canonical_id := "FED"
  side := .yes
  price := 2 / 5
  qty := 10

/-- A FILLED one that counts seven of ten. -/
theorem acknowledgement_counts_seven :
    (order_from_response (fun _ => "") ten_yes (2 / 5) "249901299"
        (acknowledgement (.obj [("order_status", .str "Filled" none), ("cumQty", .num 7)]))).fill_qty =
      7 := by
  have hcounted : ¬ CumFillAlone
      (acknowledgement (.obj [("order_status", .str "Filled" none), ("cumQty", .num 7)])) := by
    rintro ⟨-, hcum⟩
    revert hcum
    decide
  have hfill := (acknowledgement_counts (fun _ => "") ten_yes (2 / 5) "249901299"
    (.obj [("order_status", .str "Filled" none), ("cumQty", .num 7)]) hcounted).1
  refine hfill.trans ?_
  decide +kernel

/-- A FILLED one without a count fills all ten, though none is reported. -/
theorem missing_count_fills :
    ¬ ∀ (spelled : Json ℚ → String) (req : OrderRequest) (price : ℚ≥0) (broker_order_id : String)
      (response : Json ℚ), (order_from_response spelled req price broker_order_id
        (acknowledgement response)).fill_qty = reported (acknowledgement response) := by
  intro h
  have hbare := h (fun _ => "") ten_yes (2 / 5) "249901299"
    (.obj [("order_status", .str "Filled" none)])
  revert hbare
  decide +kernel

end Forecastex
