import Mathlib.Algebra.Order.Field.Basic
import Mathlib.Data.List.Count
import Mathlib.Tactic.Linarith
import Mathlib.Tactic.Ring
import Arbiter.Framework.Instances

/-! # Token Buckets

  A bucket fills at a steady rate, up to its capacity, and gives one token for each grant.
  Nobody fills it as time passes: whoever uses it first works out what came in since the
  last refill. It may be emptied at any moment, which moves no refill.

  Whatever the order of these uses, the grants of an interval are no more than what the
  bucket held at its start and what came in since.

  ## Contents

  - `Bucket` with `refill`, `take` and `drain`.
  - `Bucket.Bounds`: the bucket and the grants so far; every use keeps it.
-/

namespace TokenBucket

variable {K : Type*} [Field K] [LinearOrder K]

/-- What is in the bucket, as of the last refill. -/
@[ext] structure Bucket (K : Type*) where
  tokens : K
  last_refill : K

/-- What came in since the last refill, as far as there is room. -/
def Bucket.refill (b : Bucket K) (capacity rate now : K) : Bucket K where
  tokens := min capacity (b.tokens + (now - b.last_refill) * rate)
  last_refill := now

/-- One token less. -/
def Bucket.take (b : Bucket K) : Bucket K := { b with tokens := b.tokens - 1 }

/-- Nothing left. -/
def Bucket.drain (b : Bucket K) : Bucket K := { b with tokens := min b.tokens 0 }

omit [Field K] in
/-- How many of the moments lie in an interval. -/
def within (times : List K) (start stop : K) : ℕ := times.countP (fun t => start ≤ t ∧ t ≤ stop)

/-- How many of the moments lie in no interval that ended before. -/
def since (times : List K) (start : K) : ℕ := times.countP (start ≤ ·)

section counting

variable {times : List K} {start stop t : K}

omit [Field K]

theorem within_le_since : within times start stop ≤ since times start :=
  List.countP_mono_left fun t _ h => by
    simp only [decide_eq_true_eq] at h ⊢
    exact h.1

theorem since_eq_zero (h : ∀ t ∈ times, t < start) : since times start = 0 := by
  rw [since, List.countP_eq_zero]
  intro t ht hle
  exact absurd (h t ht) (not_lt.mpr (of_decide_eq_true hle))

theorem since_cons (h : start ≤ t) : since (t :: times) start = since times start + 1 :=
  List.countP_cons_of_pos (by simpa using h)

theorem within_cons (h : start ≤ t ∧ t ≤ stop) :
    within (t :: times) start stop = within times start stop + 1 :=
  List.countP_cons_of_pos (by simpa using h)

theorem within_cons_of_not (h : ¬ (start ≤ t ∧ t ≤ stop)) :
    within (t :: times) start stop = within times start stop :=
  List.countP_cons_of_neg (by simpa using h)

end counting

/-- The bucket and the grants so far. What is left of it and what was granted since any
    moment are no more than a full bucket and what came in since. -/
structure Bucket.Bounds (b : Bucket K) (capacity rate : K) (grants : List K) : Prop where
  nonneg : 0 ≤ b.tokens
  le : b.tokens ≤ capacity
  past : ∀ t ∈ grants, t ≤ b.last_refill
  left : ∀ start ≤ b.last_refill,
    since grants start + b.tokens ≤ capacity + (b.last_refill - start) * rate
  spent : ∀ start stop, start ≤ stop →
    (within grants start stop : K) ≤ capacity + (stop - start) * rate

namespace Bucket.Bounds

variable [IsStrictOrderedRing K] {b : Bucket K} {capacity rate now : K} {grants : List K}

/-- A full bucket, before the first grant. -/
theorem full (hcapacity : 0 ≤ capacity) (hrate : 0 ≤ rate) :
    (Bucket.mk capacity now).Bounds capacity rate [] where
  nonneg := hcapacity
  le := le_rfl
  past := by simp
  left := by
    intro start hstart
    have hin : 0 ≤ (now - start) * rate := mul_nonneg (sub_nonneg.mpr hstart) hrate
    simpa [since] using hin
  spent := by
    intro start stop hle
    have hin : 0 ≤ (stop - start) * rate := mul_nonneg (sub_nonneg.mpr hle) hrate
    simp only [within, List.countP_nil, Nat.cast_zero]
    linarith

theorem refill (h : b.Bounds capacity rate grants) (hrate : 0 ≤ rate)
    (hnow : b.last_refill ≤ now) : (b.refill capacity rate now).Bounds capacity rate grants where
  nonneg := by
    have hin : 0 ≤ (now - b.last_refill) * rate := mul_nonneg (sub_nonneg.mpr hnow) hrate
    exact le_min (h.nonneg.trans h.le) (add_nonneg h.nonneg hin)
  le := min_le_left _ _
  past t ht := (h.past t ht).trans hnow
  left := by
    intro start hstart
    show (since grants start : K) + min capacity (b.tokens + (now - b.last_refill) * rate) ≤
      capacity + (now - start) * rate
    rcases le_or_gt start b.last_refill with hle | hlt
    · -- what was left then, and what came in since
      have hleft := h.left start hle
      have hmin := min_le_right capacity (b.tokens + (now - b.last_refill) * rate)
      have hsplit : (now - start) * rate =
          (now - b.last_refill) * rate + (b.last_refill - start) * rate := by ring
      linarith
    · -- nothing was granted since
      have hnone : since grants start = 0 := since_eq_zero fun t ht => (h.past t ht).trans_lt hlt
      have hmin := min_le_left capacity (b.tokens + (now - b.last_refill) * rate)
      have hin : 0 ≤ (now - start) * rate := mul_nonneg (sub_nonneg.mpr hstart) hrate
      rw [hnone, Nat.cast_zero]
      linarith
  spent := h.spent

/-- A grant, at the moment of the refill. -/
theorem take (h : b.Bounds capacity rate grants) (hrate : 0 ≤ rate) (htokens : 1 ≤ b.tokens) :
    b.take.Bounds capacity rate (b.last_refill :: grants) where
  nonneg := sub_nonneg.mpr htokens
  le := by
    have hle := h.le
    show b.tokens - 1 ≤ capacity
    linarith
  past t ht := by
    rcases List.mem_cons.mp ht with rfl | ht
    · exact le_rfl
    · exact h.past t ht
  left := by
    intro start hstart
    replace hstart : start ≤ b.last_refill := hstart
    have hleft := h.left start hstart
    show (since (b.last_refill :: grants) start : K) + (b.tokens - 1) ≤
      capacity + (b.last_refill - start) * rate
    rw [since_cons hstart, Nat.cast_add, Nat.cast_one]
    linarith
  spent := by
    intro start stop hle
    by_cases hin : start ≤ b.last_refill ∧ b.last_refill ≤ stop
    · -- what is granted in the interval was granted since its start
      have hleft := h.left start hin.1
      have hcount : (within grants start stop : K) ≤ since grants start :=
        Nat.cast_le.mpr within_le_since
      have hrest : (b.last_refill - start) * rate ≤ (stop - start) * rate :=
        mul_le_mul_of_nonneg_right (by linarith [hin.2]) hrate
      rw [within_cons hin, Nat.cast_add, Nat.cast_one]
      linarith
    · rw [within_cons_of_not hin]
      exact h.spent start stop hle

theorem drain (h : b.Bounds capacity rate grants) :
    b.drain.Bounds capacity rate grants where
  nonneg := le_min h.nonneg le_rfl
  le := (min_le_left _ _).trans h.le
  past := h.past
  left := by
    intro start hstart
    have hleft := h.left start hstart
    have hmin := min_le_left b.tokens 0
    show (since grants start : K) + min b.tokens 0 ≤ capacity + (b.last_refill - start) * rate
    linarith
  spent := h.spent

end Bucket.Bounds

end TokenBucket
