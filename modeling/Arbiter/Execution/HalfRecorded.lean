import Mathlib.Data.List.Sort
import Arbiter.Execution.Store

/-! # Half-Recorded Arbs

  `list_half_recorded_arbs`: the arbs whose legs leave exposure that is not booked. The
  query counts the rows of an arb that are filled and those that are not. A side may have
  a row for each attempt, and a row may be filled in part or cancelled after a fill: so the
  counts tell whether the sides differ only where the rows agree with the totals.
-/

namespace Execution

/-! ## Section 1: The query -/

namespace OrderRow

/-- `zero_qty_filled_leg`: a fill of ForecastEx whose quantity was not stored. -/
def zero_qty_filled_leg (row : OrderRow) : Bool :=
  row.platform = "forecastex" && row.status = .filled && row.fill_qty = 0 && 0 < row.quantity

/-- `effective_fill_qty`. -/
def effective_fill_qty (row : OrderRow) : ℚ :=
  if (row.status = .filled ∨ row.status = .simulated) ∧ 0 < row.fill_qty then row.fill_qty
  else if row.zero_qty_filled_leg then row.quantity
  else 0

/-- The row is counted as filled. -/
def counted (row : OrderRow) : Bool := 0 < row.effective_fill_qty

/-- The price its fill is valued at. -/
def value_price (row : OrderRow) : ℚ := if 0 < row.fill_price then row.fill_price else row.price

end OrderRow

/-- The orders of an arb, with their ids. -/
def Store.legs (s : Store) (arb_id : String) : List (String × OrderRow) :=
  (s.orders.entries.filter fun row => row.2.arb_id = arb_id).map fun row => (row.1, row.2)

/-- A row of the answer. -/
structure HalfRecordedArb where
  arb_id : String
  canonical_id : String
  status : String
  created_at : ℤ
  leg_count : ℕ
  filled_leg_count : ℕ
  unfilled_leg_count : ℕ
  zero_qty_filled_leg_count : ℕ
  filled_notional : ℚ
  leg_order_ids : List String

/-- The notes carry the sentinel. -/
def ArbRow.reconciled (arb : ArbRow) : Bool :=
  Text.occurs naked_leg_reconciled_sentinel arb.recovery_notes

/-- `HAVING`: a stub with fewer than two legs, or legs of both kinds and no sentinel. -/
def half_recorded (arb : ArbRow) (legs : List (String × OrderRow)) : Bool :=
  (legs.length < 2 && arb.status ∉ ["filled", "failed", "simulated", "recovering", "closed"]) ||
    (1 ≤ legs.countP (·.2.counted) && 1 ≤ legs.countP (!·.2.counted) && !arb.reconciled)

section query

-- the times of the rows, by their ids
variable (created_at submitted_at : String → ℤ)

/-- The answer for an arb. -/
def HalfRecordedArb.of (arb_id : String) (arb : ArbRow) (legs : List (String × OrderRow)) :
    HalfRecordedArb where
  arb_id := arb_id
  canonical_id := arb.canonical_id
  status := arb.status
  created_at := created_at arb_id
  leg_count := legs.length
  filled_leg_count := legs.countP (·.2.counted)
  -- the outer join has one row, without an order, for an arb that has none
  unfilled_leg_count := if legs = [] then 1 else legs.countP (!·.2.counted)
  zero_qty_filled_leg_count := legs.countP (·.2.zero_qty_filled_leg)
  filled_notional := (legs.map fun leg =>
    if leg.2.counted then leg.2.effective_fill_qty * leg.2.value_price else 0).sum
  leg_order_ids :=
    (legs.mergeSort fun a b => submitted_at a.1 ≤ submitted_at b.1).map (·.1)

/-- `list_half_recorded_arbs`. -/
def Store.list_half_recorded_arbs (s : Store) : List HalfRecordedArb :=
  ((s.arbs.entries.filter fun arb => half_recorded arb.2 (s.legs arb.1)).map fun arb =>
    HalfRecordedArb.of created_at submitted_at arb.1 arb.2 (s.legs arb.1)).mergeSort
      fun a b => a.created_at ≤ b.created_at

end query

/-! ## Section 2: What it lists -/

/-- The contracts a row has filled, whatever its status. -/
def OrderRow.filled_contracts (row : OrderRow) : ℚ :=
  if row.zero_qty_filled_leg then row.quantity else row.fill_qty

/-- The contracts filled on a side. -/
def filled_total (side : Side) (legs : List (String × OrderRow)) : ℚ :=
  ((legs.filter fun leg => leg.2.side = side).map (·.2.filled_contracts)).sum

/-- The sides have filled the same. -/
def Balanced (legs : List (String × OrderRow)) : Prop :=
  filled_total .yes legs = filled_total .no legs

/-- The rows are all counted as filled, or none is. -/
def Uniform (legs : List (String × OrderRow)) : Prop :=
  (∀ leg ∈ legs, leg.2.counted = true) ∨ ∀ leg ∈ legs, leg.2.counted = false

/-- Rows of one kind have equal totals, and rows of both kinds do not. -/
def CountsTell (legs : List (String × OrderRow)) : Prop := Uniform legs ↔ Balanced legs

variable {created_at submitted_at : String → ℤ} {s : Store} {arb_id : String} {arb : ArbRow}

theorem listed_iff :
    arb_id ∈ (s.list_half_recorded_arbs created_at submitted_at).map (·.arb_id) ↔
      ∃ arb, s.arb arb_id = some arb ∧ half_recorded arb (s.legs arb_id) = true := by
  have hperm : arb_id ∈ (s.list_half_recorded_arbs created_at submitted_at).map (·.arb_id) ↔
      ∃ entry ∈ s.arbs.entries, half_recorded entry.2 (s.legs entry.1) = true ∧
        entry.1 = arb_id := by
    simp [Store.list_half_recorded_arbs, HalfRecordedArb.of, List.mem_mergeSort]
  rw [hperm]
  constructor
  · rintro ⟨⟨id, arb⟩, hentry, hhalf, rfl⟩
    exact ⟨arb, AList.mem_lookup_iff.mpr hentry, hhalf⟩
  · rintro ⟨arb, harb, hhalf⟩
    exact ⟨⟨arb_id, arb⟩, AList.mem_lookup_iff.mp harb, hhalf, rfl⟩

/-- With two legs or more and no sentinel, an arb is listed for rows of both kinds. -/
theorem half_recorded_iff {legs : List (String × OrderRow)} (hlegs : 2 ≤ legs.length)
    (hopen : arb.reconciled = false) : half_recorded arb legs = true ↔ ¬ Uniform legs := by
  have hstub : decide (legs.length < 2) = false := decide_eq_false (by omega)
  have hfilled : 1 ≤ legs.countP (·.2.counted) ↔ ¬ ∀ leg ∈ legs, leg.2.counted = false := by
    rw [Nat.one_le_iff_ne_zero, ← Nat.pos_iff_ne_zero, List.countP_pos_iff]
    simp
  have hunfilled : 1 ≤ legs.countP (!·.2.counted) ↔ ¬ ∀ leg ∈ legs, leg.2.counted = true := by
    rw [Nat.one_le_iff_ne_zero, ← Nat.pos_iff_ne_zero, List.countP_pos_iff]
    simp
  rw [half_recorded, hstub, hopen]
  simp only [Bool.false_and, Bool.false_or, Bool.not_false, Bool.and_true, Bool.and_eq_true,
    decide_eq_true_eq, hfilled, hunfilled, Uniform]
  tauto

/-- Among the arbs with two legs or more and no sentinel, those listed are those whose sides
    have filled differently, exactly if the counts tell for each of them. -/
theorem half_recorded_exact :
    (∀ arb_id arb, s.arb arb_id = some arb → 2 ≤ (s.legs arb_id).length →
      arb.reconciled = false →
        (arb_id ∈ (s.list_half_recorded_arbs created_at submitted_at).map (·.arb_id) ↔
          filled_total .yes (s.legs arb_id) ≠ filled_total .no (s.legs arb_id))) ↔
    ∀ arb_id arb, s.arb arb_id = some arb → 2 ≤ (s.legs arb_id).length →
      arb.reconciled = false → CountsTell (s.legs arb_id) := by
  refine forall_congr' fun arb_id => forall_congr' fun arb => forall_congr' fun harb =>
    forall_congr' fun hlegs => forall_congr' fun hopen => ?_
  have hlisted : arb_id ∈ (s.list_half_recorded_arbs created_at submitted_at).map (·.arb_id) ↔
      ¬ Uniform (s.legs arb_id) := by
    rw [listed_iff, harb]
    simp [half_recorded_iff hlegs hopen]
  rw [hlisted, CountsTell, Balanced]
  exact not_iff_not

/-- The counts tell of one leg a side, with no fill on a row that is not counted, unless both
    are counted and differ. -/
theorem counts_tell_of_two {yes no : String × OrderRow} (hyes : yes.2.side = .yes)
    (hno : no.2.side = .no)
    (hfills : ∀ leg ∈ [yes, no], leg.2.filled_contracts = leg.2.effective_fill_qty)
    (hnonneg : ∀ leg ∈ [yes, no], 0 ≤ leg.2.effective_fill_qty) :
    CountsTell [yes, no] ↔ (yes.2.counted = true → no.2.counted = true →
      yes.2.effective_fill_qty = no.2.effective_fill_qty) := by
  have htotals : Balanced [yes, no] ↔ yes.2.effective_fill_qty = no.2.effective_fill_qty := by
    simp [Balanced, filled_total, hyes, hno, hfills yes (by simp), hfills no (by simp)]
  have hfy := hnonneg yes (by simp)
  have hfn := hnonneg no (by simp)
  rw [CountsTell, htotals]
  simp only [Uniform, List.forall_mem_cons, List.not_mem_nil, false_imp_iff, implies_true,
    and_true, OrderRow.counted, decide_eq_true_eq, decide_eq_false_iff_not, not_lt]
  constructor
  · intro h hy hn
    exact h.mp (.inl ⟨hy, hn⟩)
  · intro h
    constructor
    · rintro (⟨hy, hn⟩ | ⟨hy, hn⟩)
      · exact h hy hn
      · exact (le_antisymm hy hfy).trans (le_antisymm hn hfn).symm
    · intro heq
      by_cases hy : 0 < yes.2.effective_fill_qty
      · exact .inl ⟨hy, heq ▸ hy⟩
      · exact .inr ⟨not_lt.mp hy, heq ▸ not_lt.mp hy⟩

/-- A leg that is filled. -/
def filled_leg (side : Side) (fill_qty : ℚ) : OrderRow where
  arb_id := "ARB-000001"
  client_order_id := none
  platform := "kalshi"
  market_id := "KX"
  canonical_id := "FED"
  side := side
  price := 1 / 2
  quantity := 10
  status := .filled
  fill_price := 1 / 2
  fill_qty := fill_qty
  error := ""

/-- A failed arb that filled ten contracts of `YES` and six of `NO`. -/
def uneven_store : Store where
  arbs := AList.insert "ARB-000001" { ArbRow.stub "FED" none with status := "failed" } ∅
  orders := AList.insert "ARB-000001-NO" (filled_leg .no 6)
    (AList.insert "ARB-000001-YES" (filled_leg .yes 10) ∅)

/-- Both rows are filled, and the arb is not listed. -/
theorem uneven_fills_not_listed :
    2 ≤ (uneven_store.legs "ARB-000001").length ∧
      (uneven_store.arb "ARB-000001").any (!·.reconciled) = true ∧
      filled_total .yes (uneven_store.legs "ARB-000001") ≠
        filled_total .no (uneven_store.legs "ARB-000001") ∧
      uneven_store.list_half_recorded_arbs (fun _ => 0) (fun _ => 0) = [] := by
  refine ⟨by decide +kernel, by decide +kernel, by decide +kernel, ?_⟩
  decide +kernel

end Execution
