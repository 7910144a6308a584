import Mathlib.Data.List.DropRight
import Mathlib.Order.Lattice

/-! # Sliding Windows

  A bounded queue of moments, oldest first. A new moment is put at its end, where the oldest
  ones make room for it, and those before a cutoff are dropped from its front, as far as the
  first that is not. If time does not go back, the queue holds the latest of the moments since
  the last cutoff, so that what is left after a further one can be counted in the moments
  themselves.

  ## Contents

  - `push`, `prune`: the two operations.
  - `Holds`: the queue holds what there is to hold; both operations keep it.
  - `Holds.length_prune`: what is counted after a cutoff.
-/

namespace Window

variable {α : Type*} [LinearOrder α]

/-- `t` at the end of the queue, which has room for `m` moments. -/
def push (m : ℕ) (l : List α) (t : α) : List α := (l ++ [t]).rtake m

/-- The queue without what is before the cutoff at its front. -/
def prune (cutoff : α) (l : List α) : List α := l.dropWhile (· < cutoff)

variable {m : ℕ} {times l : List α} {cutoff low t : α}

omit [LinearOrder α] in
theorem length_push : (push m l t).length = min m (l.length + 1) := by
  rw [push, List.rtake_eq_reverse_take_reverse]
  simp

theorem length_prune_le : (prune cutoff l).length ≤ l.length :=
  (List.dropWhile_sublist _).length_le

/-! ### Moments in order -/

/-- In order, all that is before the cutoff is at the front. -/
theorem prune_eq_filter (hsorted : l.Pairwise (· ≤ ·)) :
    prune cutoff l = l.filter (cutoff ≤ ·) := by
  unfold prune
  induction l with
  | nil => rfl
  | cons s l ih =>
    obtain ⟨hle, hsorted⟩ := List.pairwise_cons.mp hsorted
    by_cases hs : s < cutoff
    · rw [List.dropWhile_cons_of_pos (by simpa using hs), ih hsorted,
        List.filter_cons_of_neg (by simpa using hs)]
    · have hall : ∀ r ∈ s :: l, cutoff ≤ r := by
        intro r hr
        rcases List.mem_cons.mp hr with rfl | hr
        · exact not_lt.mp hs
        · exact (not_lt.mp hs).trans (hle r hr)
      rw [List.dropWhile_cons_of_neg (by simpa using hs),
        List.filter_eq_self.mpr fun r hr => decide_eq_true (hall r hr)]

/-- From the latest on, the first that is before the cutoff is followed by such only. -/
private theorem filter_take (hsorted : l.Pairwise (· ≥ ·)) :
    (l.take m).filter (cutoff ≤ ·) = (l.filter (cutoff ≤ ·)).take m := by
  induction l generalizing m with
  | nil => simp
  | cons s l ih =>
    obtain ⟨hge, hsorted⟩ := List.pairwise_cons.mp hsorted
    cases m with
    | zero => simp
    | succ m =>
      by_cases hs : cutoff ≤ s
      · rw [List.take_succ_cons, List.filter_cons_of_pos (by simpa using hs),
          List.filter_cons_of_pos (by simpa using hs), List.take_succ_cons, ih hsorted]
      · have hnone : l.filter (cutoff ≤ ·) = [] := by
          rw [List.filter_eq_nil_iff]
          intro r hr hle
          exact hs ((of_decide_eq_true hle).trans (hge r hr))
        have hfewer : (l.take m).filter (cutoff ≤ ·) = [] := by
          rw [ih hsorted, hnone, List.take_nil]
        rw [List.take_succ_cons, List.filter_cons_of_neg (by simpa using hs),
          List.filter_cons_of_neg (by simpa using hs), hfewer, hnone, List.take_nil]

/-- Of the latest moments, those since the cutoff are the latest of those since the cutoff. -/
theorem filter_rtake (hsorted : l.Pairwise (· ≤ ·)) :
    (l.rtake m).filter (cutoff ≤ ·) = (l.filter (cutoff ≤ ·)).rtake m := by
  rw [List.rtake_eq_reverse_take_reverse, List.rtake_eq_reverse_take_reverse,
    List.filter_reverse, filter_take (List.pairwise_reverse.mpr hsorted), List.filter_reverse]

omit [LinearOrder α] in
/-- Room is made for one moment after another as for the last of them. -/
theorem rtake_rtake_append : (l.rtake m ++ [t]).rtake m = (l ++ [t]).rtake m := by
  simp only [List.rtake_eq_reverse_take_reverse, List.reverse_append, List.reverse_reverse,
    List.reverse_singleton, List.singleton_append]
  cases m with
  | zero => rfl
  | succ m => rw [List.take_succ_cons, List.take_succ_cons, List.take_take, min_eq_left (by omega)]

/-! ### What the queue holds -/

/-- The queue holds the latest of the moments since some cutoff, not after `low`. -/
structure Holds (m : ℕ) (times : List α) (low : α) (l : List α) : Prop where
  sorted : times.Pairwise (· ≤ ·)
  latest : ∃ since ≤ low, l = (times.filter (since ≤ ·)).rtake m

theorem Holds.nil : Holds m [] low ([] : List α) := ⟨.nil, low, le_rfl, by simp⟩

/-- Time passes. -/
theorem Holds.mono (h : Holds m times low l) {low' : α} (hle : low ≤ low') :
    Holds m times low' l := by
  obtain ⟨since, hsince, heq⟩ := h.latest
  exact ⟨h.sorted, since, hsince.trans hle, heq⟩

theorem Holds.push (h : Holds m times low l) (hlast : ∀ s ∈ times, s ≤ t) (hlow : low ≤ t) :
    Holds m (times ++ [t]) low (push m l t) := by
  obtain ⟨since, hsince, rfl⟩ := h.latest
  refine ⟨?_, since, hsince, ?_⟩
  · rw [List.pairwise_append]
    refine ⟨h.sorted, List.pairwise_singleton _ _, fun s hs r hr => ?_⟩
    rw [List.mem_singleton.mp hr]
    exact hlast s hs
  · have hkept : [t].filter (since ≤ ·) = [t] := by simpa using hsince.trans hlow
    rw [List.filter_append, hkept, Window.push, rtake_rtake_append]

/-- After a cutoff the queue holds the latest of the moments since that one. -/
theorem Holds.prune_eq (h : Holds m times low l) (hlow : low ≤ cutoff) :
    prune cutoff l = (times.filter (cutoff ≤ ·)).rtake m := by
  obtain ⟨since, hsince, rfl⟩ := h.latest
  have hsorted : (times.filter (since ≤ ·)).Pairwise (· ≤ ·) := h.sorted.filter _
  have hrtake : ((times.filter (since ≤ ·)).rtake m).Pairwise (· ≤ ·) :=
    hsorted.sublist (List.drop_sublist _ _)
  have hboth : ∀ s ∈ times, (decide (cutoff ≤ s) && decide (since ≤ s)) = decide (cutoff ≤ s) := by
    intro s _
    by_cases hs : cutoff ≤ s
    · simp [hs, hsince.trans (hlow.trans hs)]
    · simp [hs]
  rw [prune_eq_filter hrtake, filter_rtake hsorted, List.filter_filter,
    List.filter_congr hboth]

theorem Holds.prune (h : Holds m times low l) (hlow : low ≤ cutoff) :
    Holds m times cutoff (prune cutoff l) :=
  ⟨h.sorted, cutoff, le_rfl, h.prune_eq hlow⟩

/-- **What is counted**: the moments since the cutoff, as far as there was room for them. -/
theorem Holds.length_prune (h : Holds m times low l) (hlow : low ≤ cutoff) :
    (Window.prune cutoff l).length = min m (times.countP (cutoff ≤ ·)) := by
  rw [h.prune_eq hlow, List.rtake_eq_reverse_take_reverse, List.length_reverse,
    List.length_take, List.length_reverse, List.countP_eq_length_filter]

end Window
