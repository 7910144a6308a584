import Mathlib.Algebra.Order.Monoid.Canonical.Defs
import Arbiter.Execution.Opportunity

/-! # Classification of the Two Legs

  The status step of `_live_execution`: given the two legs as placed, decide the
  status of the execution and whether recovery runs.

  The classification looks at statuses in a fixed order and at fill counts only
  in places, so there are three kinds of pairs it does not route as its comments
  promise; `routes_exposure_iff` shows these are all.
-/

namespace Execution

variable {Q : Type} [LinearOrder Q] [AddCommMonoid Q]

/-! ### Model -/

/-- `_is_survivor`: the leg holds a position or may still get one. A FILLED leg
    with zero contracts is no exposure. -/
def isSurvivor (leg : Order Q) : Prop :=
  leg.status.surviving ∧ (leg.status = .filled → 0 < leg.fill_qty)

instance (leg : Order Q) : Decidable (isSurvivor leg) := by
  unfold isSurvivor; infer_instance

/-- One leg confirmed FILLED while the other is accepted but not filled up. -/
def softNaked (done resting : Order Q) : Prop :=
  done.status = .filled ∧ (resting.status = .submitted ∨ resting.status = .pending) ∧
    resting.fill_qty < resting.quantity

instance (done resting : Order Q) : Decidable (softNaked done resting) := by
  unfold softNaked; infer_instance

/-- The classification: the status of the execution and `needs_recovery`. -/
def classify (leg_yes leg_no : Order Q) : ExecStatus × Bool :=
  if leg_yes.status.terminalFailed ∨ leg_no.status.terminalFailed then
    if isSurvivor leg_yes ∨ isSurvivor leg_no then (.recovering, true)
    else (.failed, false)
  else if leg_yes.status = .partialFill ∨ leg_no.status = .partialFill then
    (.recovering, true)
  else if leg_yes.status = .filled ∧ leg_no.status = .filled then
    (.filled, false)
  else if softNaked leg_yes leg_no ∨ softNaked leg_no leg_yes then
    (.recovering, true)
  else (.submitted, false)

/-! ### What the classification is for -/

/-- Exposure is routed: unequal fills and legs that may still fill go to
    recovery, `filled` means a matched pair, `failed` means nothing was bought. -/
structure RoutesExposure (leg_yes leg_no : Order Q) : Prop where
  recovers : leg_yes.fill_qty ≠ leg_no.fill_qty ∨
      leg_yes.status.mayStillFill ∨ leg_no.status.mayStillFill →
    classify leg_yes leg_no = (.recovering, true)
  filled_paired : (classify leg_yes leg_no).1 = .filled →
    leg_yes.fill_qty = leg_no.fill_qty ∧ 0 < leg_yes.fill_qty
  failed_empty : (classify leg_yes leg_no).1 = .failed →
    leg_yes.fill_qty = 0 ∧ leg_no.fill_qty = 0

/-! ### The three kinds of pairs that are not routed -/

/-- A dead leg, nothing that counts as a survivor, and yet contracts on a leg
    (a CANCELLED order that had fills) or a leg still PENDING. -/
def HiddenBehindDead (leg_yes leg_no : Order Q) : Prop :=
  (leg_yes.status.terminalFailed ∨ leg_no.status.terminalFailed) ∧
    ¬ isSurvivor leg_yes ∧ ¬ isSurvivor leg_no ∧
    (leg_yes.status = .pending ∨ leg_no.status = .pending ∨
      0 < leg_yes.fill_qty ∨ 0 < leg_no.fill_qty)

/-- Two FILLED legs that are not a matched pair of a positive quantity. -/
def FilledUnpaired (leg_yes leg_no : Order Q) : Prop :=
  leg_yes.status = .filled ∧ leg_no.status = .filled ∧
    (leg_yes.fill_qty ≠ leg_no.fill_qty ∨ leg_yes.fill_qty = 0)

/-- No dead, PARTIAL or doubly FILLED pair, not soft-naked either, and yet a leg
    that may still fill or unequal fills: two resting legs are the plain case. -/
def RestingUnpaired (leg_yes leg_no : Order Q) : Prop :=
  (∀ leg ∈ [leg_yes, leg_no], ¬ leg.status.terminalFailed ∧ leg.status ≠ .partialFill) ∧
    ¬ (leg_yes.status = .filled ∧ leg_no.status = .filled) ∧
    ¬ softNaked leg_yes leg_no ∧ ¬ softNaked leg_no leg_yes ∧
    (leg_yes.fill_qty ≠ leg_no.fill_qty ∨
      leg_yes.status.mayStillFill ∨ leg_no.status.mayStillFill)

/-! ### One lemma per outcome -/

/-- The outcome when a leg is dead. -/
theorem classify_of_dead {leg_yes leg_no : Order Q}
    (hdead : leg_yes.status.terminalFailed ∨ leg_no.status.terminalFailed) :
    classify leg_yes leg_no =
      if isSurvivor leg_yes ∨ isSurvivor leg_no then (.recovering, true)
      else (.failed, false) := by
  rw [classify, if_pos hdead]

/-- The outcome when no leg is dead and one is PARTIAL. -/
theorem classify_of_partialFill {leg_yes leg_no : Order Q}
    (hdead : ¬ (leg_yes.status.terminalFailed ∨ leg_no.status.terminalFailed))
    (hpart : leg_yes.status = .partialFill ∨ leg_no.status = .partialFill) :
    classify leg_yes leg_no = (.recovering, true) := by
  rw [classify, if_neg hdead, if_pos hpart]

/-- The outcome of two FILLED legs. -/
theorem classify_of_filled {leg_yes leg_no : Order Q}
    (hfilled : leg_yes.status = .filled ∧ leg_no.status = .filled) :
    classify leg_yes leg_no = (.filled, false) := by
  obtain ⟨hy, hn⟩ := hfilled
  simp [classify, OrderStatus.terminalFailed, hy, hn]

/-- The outcome of every other pair. -/
theorem classify_of_resting {leg_yes leg_no : Order Q}
    (hdead : ¬ (leg_yes.status.terminalFailed ∨ leg_no.status.terminalFailed))
    (hpart : ¬ (leg_yes.status = .partialFill ∨ leg_no.status = .partialFill))
    (hfilled : ¬ (leg_yes.status = .filled ∧ leg_no.status = .filled)) :
    classify leg_yes leg_no =
      if softNaked leg_yes leg_no ∨ softNaked leg_no leg_yes then (.recovering, true)
      else (.submitted, false) := by
  rw [classify, if_neg hdead, if_neg hpart, if_neg hfilled]

/-- A pair sent to recovery is routed, whatever its legs are. -/
theorem RoutesExposure.of_recovering {leg_yes leg_no : Order Q}
    (h : classify leg_yes leg_no = (.recovering, true)) : RoutesExposure leg_yes leg_no := by
  refine ⟨fun _ => h, ?_, ?_⟩
  · intro hf
    rw [h] at hf
    cases hf
  · intro hf
    rw [h] at hf
    cases hf

/-! ### Exactness -/

/-- A dead leg that neither survives nor is pending cannot still fill. -/
private theorem not_mayStillFill_of_not_survivor {leg : Order Q}
    (hs : ¬ isSurvivor leg) (hp : leg.status ≠ .pending) : ¬ leg.status.mayStillFill := by
  rintro (h | h | h)
  · exact hs ⟨by simp [OrderStatus.surviving, h], by simp [h]⟩
  · exact hp h
  · exact hs ⟨by simp [OrderStatus.surviving, h], by simp [h]⟩

/-- Every other pair: routed when soft-naked, or when nothing is open or unequal. -/
private theorem routes_of_resting {leg_yes leg_no : Order Q}
    (hdead : ¬ (leg_yes.status.terminalFailed ∨ leg_no.status.terminalFailed))
    (hpart : ¬ (leg_yes.status = .partialFill ∨ leg_no.status = .partialFill))
    (hfilled : ¬ (leg_yes.status = .filled ∧ leg_no.status = .filled)) :
    RoutesExposure leg_yes leg_no ↔ ¬ RestingUnpaired leg_yes leg_no := by
  have hcl := classify_of_resting hdead hpart hfilled
  by_cases hsoft : softNaked leg_yes leg_no ∨ softNaked leg_no leg_yes
  · rw [if_pos hsoft] at hcl
    refine ⟨fun _ hrest => ?_, fun _ => .of_recovering hcl⟩
    exact hsoft.elim hrest.2.2.1 hrest.2.2.2.1
  · rw [if_neg hsoft] at hcl
    constructor
    · intro hr hrest
      have := hr.recovers hrest.2.2.2.2
      simp [hcl] at this
    · intro hrest
      refine ⟨fun hopen => ?_, ?_, ?_⟩
      · rw [not_or] at hdead hpart hsoft
        refine absurd ⟨?_, hfilled, hsoft.1, hsoft.2, hopen⟩ hrest
        simp [hdead.1, hdead.2, hpart.1, hpart.2]
      · intro h
        simp [hcl] at h
      · intro h
        simp [hcl] at h

section canonical

variable [CanonicallyOrderedAdd Q]

/-- With a dead leg: routed unless something is hidden behind it. -/
private theorem routes_of_dead {leg_yes leg_no : Order Q}
    (hdead : leg_yes.status.terminalFailed ∨ leg_no.status.terminalFailed) :
    RoutesExposure leg_yes leg_no ↔ ¬ HiddenBehindDead leg_yes leg_no := by
  by_cases hsurv : isSurvivor leg_yes ∨ isSurvivor leg_no
  · have hrec : classify leg_yes leg_no = (.recovering, true) := by
      rw [classify_of_dead hdead, if_pos hsurv]
    refine ⟨fun _ hhid => ?_, fun _ => .of_recovering hrec⟩
    exact hsurv.elim hhid.2.1 hhid.2.2.1
  · have hcl : classify leg_yes leg_no = (.failed, false) := by
      rw [classify_of_dead hdead, if_neg hsurv]
    rw [not_or] at hsurv
    constructor
    · rintro hr ⟨-, -, -, h⟩
      have hempty := hr.failed_empty (by rw [hcl])
      -- a pending leg may still fill, a positive fill contradicts `failed`
      rcases h with h | h | h | h
      · have := hr.recovers (.inr (.inl (.inr (.inl h))))
        simp [hcl] at this
      · have := hr.recovers (.inr (.inr (.inr (.inl h))))
        simp [hcl] at this
      · exact h.ne' hempty.1
      · exact h.ne' hempty.2
    · intro hhid
      have hclean : leg_yes.status ≠ .pending ∧ leg_no.status ≠ .pending ∧
          leg_yes.fill_qty = 0 ∧ leg_no.fill_qty = 0 := by
        refine ⟨?_, ?_, ?_, ?_⟩
        · exact fun h => hhid ⟨hdead, hsurv.1, hsurv.2, .inl h⟩
        · exact fun h => hhid ⟨hdead, hsurv.1, hsurv.2, .inr (.inl h)⟩
        · by_contra h
          exact hhid ⟨hdead, hsurv.1, hsurv.2, .inr (.inr (.inl (pos_iff_ne_zero.2 h)))⟩
        · by_contra h
          exact hhid ⟨hdead, hsurv.1, hsurv.2, .inr (.inr (.inr (pos_iff_ne_zero.2 h)))⟩
      obtain ⟨hpy, hpn, hfy, hfn⟩ := hclean
      refine ⟨?_, ?_, fun _ => ⟨hfy, hfn⟩⟩
      · rintro (h | h | h)
        · exact absurd (hfy.trans hfn.symm) h
        · exact absurd h (not_mayStillFill_of_not_survivor hsurv.1 hpy)
        · exact absurd h (not_mayStillFill_of_not_survivor hsurv.2 hpn)
      · intro h
        simp [hcl] at h

/-- Two FILLED legs: routed when they are a matched pair. -/
private theorem routes_of_filled {leg_yes leg_no : Order Q}
    (hfilled : leg_yes.status = .filled ∧ leg_no.status = .filled) :
    RoutesExposure leg_yes leg_no ↔ ¬ FilledUnpaired leg_yes leg_no := by
  have hcl := classify_of_filled hfilled
  constructor
  · rintro hr ⟨-, -, h⟩
    obtain ⟨heq, hpos⟩ := hr.filled_paired (by rw [hcl])
    rcases h with h | h
    · exact h heq
    · exact hpos.ne' h
  · intro h
    have heq : leg_yes.fill_qty = leg_no.fill_qty := by
      by_contra hne
      exact h ⟨hfilled.1, hfilled.2, .inl hne⟩
    have hpos : 0 < leg_yes.fill_qty := by
      refine pos_iff_ne_zero.2 fun h0 => ?_
      exact h ⟨hfilled.1, hfilled.2, .inr h0⟩
    refine ⟨?_, fun _ => ⟨heq, hpos⟩, ?_⟩
    · rintro (hne | hm | hm)
      · exact absurd heq hne
      · simp [OrderStatus.mayStillFill, hfilled.1] at hm
      · simp [OrderStatus.mayStillFill, hfilled.2] at hm
    · intro hf
      simp [hcl] at hf

/-- **Exactness of the classification**: a pair of legs is routed as its comments
    promise unless it is of one of the three kinds, for every pair of legs. -/
theorem routes_exposure_iff (leg_yes leg_no : Order Q) :
    RoutesExposure leg_yes leg_no ↔
      ¬ HiddenBehindDead leg_yes leg_no ∧ ¬ FilledUnpaired leg_yes leg_no ∧
        ¬ RestingUnpaired leg_yes leg_no := by
  -- the branches of the classification; in each, at most one of the kinds is possible
  by_cases hdead : leg_yes.status.terminalFailed ∨ leg_no.status.terminalFailed
  · have hnf : ¬ FilledUnpaired leg_yes leg_no := by
      rintro ⟨hy, hn, -⟩
      simp [OrderStatus.terminalFailed, hy, hn] at hdead
    have hnr : ¬ RestingUnpaired leg_yes leg_no := by
      rintro ⟨hall, -⟩
      simp only [List.forall_mem_cons] at hall
      exact hdead.elim hall.1.1 hall.2.1.1
    rw [routes_of_dead hdead]
    simp [hnf, hnr]
  · have hnh : ¬ HiddenBehindDead leg_yes leg_no := fun h => hdead h.1
    by_cases hpart : leg_yes.status = .partialFill ∨ leg_no.status = .partialFill
    · have hnf : ¬ FilledUnpaired leg_yes leg_no := by
        rintro ⟨hy, hn, -⟩
        simp [hy, hn] at hpart
      have hnr : ¬ RestingUnpaired leg_yes leg_no := by
        rintro ⟨hall, -⟩
        simp only [List.forall_mem_cons] at hall
        exact hpart.elim hall.1.2 hall.2.1.2
      simp [hnh, hnf, hnr, RoutesExposure.of_recovering (classify_of_partialFill hdead hpart)]
    · by_cases hfilled : leg_yes.status = .filled ∧ leg_no.status = .filled
      · have hnr : ¬ RestingUnpaired leg_yes leg_no := fun h => h.2.1 hfilled
        rw [routes_of_filled hfilled]
        simp [hnh, hnr]
      · have hnf : ¬ FilledUnpaired leg_yes leg_no := fun h => hfilled ⟨h.1, h.2.1⟩
        rw [routes_of_resting hdead hpart hfilled]
        simp [hnh, hnf]

/-- The routing theorem at a full YES fill against a dead NO leg. -/
theorem routes_exposure_full_against_failed :
    RoutesExposure
      { Order.synthetic "9f1" "kalshi" "KX-1" "mkt-1" .yes (2/5) 10 .filled "" with
        fill_qty := 10 }
      (Order.synthetic "9f2" "polymarket" "0x1" "mkt-1" .no (1/2) 10 .failed "rejected") := by
  refine (routes_exposure_iff _ _).2 ⟨fun h => h.2.1 ?_, fun h => ?_, fun h => ?_⟩
  · exact ⟨.inl rfl, fun _ => by decide⟩
  · exact absurd h.2.1 (by decide)
  · exact absurd h.1 (by decide)

end canonical

/-- A CANCELLED leg that had filled 5 of its 10 contracts, against a FAILED leg,
    is classified `failed` with no recovery. -/
theorem cancelled_with_fills_not_routed :
    ¬ ∀ leg_yes leg_no : Leg, leg_yes.fill_qty ≤ leg_yes.quantity →
      leg_no.fill_qty ≤ leg_no.quantity → RoutesExposure leg_yes leg_no := by
  intro h
  have hr := h
    { Order.synthetic "9f1" "kalshi" "KX-1" "mkt-1" .yes (2/5) 10 .cancelled "" with
      fill_qty := 5 }
    (Order.synthetic "9f2" "polymarket" "0x1" "mkt-1" .no (1/2) 10 .failed "rejected")
    (by decide) (by decide)
  exact absurd (hr.recovers (.inl (by decide))) (by decide)

end Execution
