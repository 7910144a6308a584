import Mathlib.Data.List.Perm.Basic

/-! # Greedy Selection

  A list is gone through once; what clashes with an element kept before is passed over.
  What is kept has no clashes, and nothing passed over could be added. Over a list in some
  order, each element is passed over for one that comes before it.

  ## Contents

  - `keep`, `pass`: what is kept, what is passed over; together they are the list.
  - `keep_apart`: what is kept has no clashes.
  - `pass_dominated`: what is passed over clashes with a kept element before it.
-/

namespace Greedy

universe u

variable {α : Type u} (clash : α → α → Prop) [DecidableRel clash]

/-- What is kept of a list, next to what was kept before. -/
def keep (kept : List α) : List α → List α
  | [] => []
  | a :: l => if ∃ b ∈ kept, clash b a then keep kept l else a :: keep (kept ++ [a]) l

/-- What is passed over. -/
def pass (kept : List α) : List α → List α
  | [] => []
  | a :: l => if ∃ b ∈ kept, clash b a then a :: pass kept l else pass (kept ++ [a]) l

variable {clash} {kept l : List α} {a : α}

@[simp] theorem keep_nil : keep clash kept [] = [] := rfl

@[simp] theorem pass_nil : pass clash kept [] = [] := rfl

theorem keep_of_clash (h : ∃ b ∈ kept, clash b a) :
    keep clash kept (a :: l) = keep clash kept l := if_pos h

theorem keep_of_not (h : ¬ ∃ b ∈ kept, clash b a) :
    keep clash kept (a :: l) = a :: keep clash (kept ++ [a]) l := if_neg h

theorem pass_of_clash (h : ∃ b ∈ kept, clash b a) :
    pass clash kept (a :: l) = a :: pass clash kept l := if_pos h

theorem pass_of_not (h : ¬ ∃ b ∈ kept, clash b a) :
    pass clash kept (a :: l) = pass clash (kept ++ [a]) l := if_neg h

/-- Every element is kept or passed over, as often as it is in the list. -/
theorem keep_append_pass (kept l : List α) :
    (keep clash kept l ++ pass clash kept l).Perm l := by
  induction l generalizing kept with
  | nil => exact .refl _
  | cons a l ih =>
    by_cases h : ∃ b ∈ kept, clash b a
    · rw [keep_of_clash h, pass_of_clash h]
      exact List.perm_middle.trans ((ih kept).cons a)
    · rw [keep_of_not h, pass_of_not h, List.cons_append]
      exact (ih (kept ++ [a])).cons a

/-- What is kept has no clashes. -/
theorem keep_apart (h : kept.Pairwise fun b c => ¬ clash b c) :
    (kept ++ keep clash kept l).Pairwise fun b c => ¬ clash b c := by
  induction l generalizing kept with
  | nil => simpa using h
  | cons a l ih =>
    by_cases hclash : ∃ b ∈ kept, clash b a
    · rw [keep_of_clash hclash]
      exact ih h
    · have hnone : ∀ b ∈ kept, ¬ clash b a := fun b hb hba => hclash ⟨b, hb, hba⟩
      have hmore : (kept ++ [a]).Pairwise fun b c => ¬ clash b c := by
        rw [List.pairwise_append]
        refine ⟨h, List.pairwise_singleton _ _, ?_⟩
        intro b hb c hc
        rw [List.mem_singleton.mp hc]
        exact hnone b hb
      rw [keep_of_not hclash]
      have hall := ih hmore
      rwa [List.append_assoc, List.singleton_append] at hall

/-- An element is passed over for a kept one that comes before it. -/
theorem pass_dominated {r : α → α → Prop} (h : (kept ++ l).Pairwise r)
    (ha : a ∈ pass clash kept l) : ∃ b ∈ kept ++ keep clash kept l, clash b a ∧ r b a := by
  induction l generalizing kept with
  | nil => cases ha
  | cons c l ih =>
    have hrest : (kept ++ l).Pairwise r :=
      h.sublist ((List.sublist_cons_self c l).append_left kept)
    by_cases hclash : ∃ b ∈ kept, clash b c
    · rw [pass_of_clash hclash] at ha
      rw [keep_of_clash hclash]
      rcases List.mem_cons.mp ha with rfl | ha
      · obtain ⟨b, hb, hba⟩ := hclash
        have hbefore : r b a := (List.pairwise_append.mp h).2.2 b hb a List.mem_cons_self
        exact ⟨b, List.mem_append_left _ hb, hba, hbefore⟩
      · exact ih hrest ha
    · rw [pass_of_not hclash] at ha
      rw [keep_of_not hclash]
      have hmoved : (kept ++ [c] ++ l).Pairwise r := by
        rwa [List.append_assoc, List.singleton_append]
      obtain ⟨b, hb, hdom⟩ := ih hmoved ha
      rw [List.append_assoc, List.singleton_append] at hb
      exact ⟨b, hb, hdom⟩

end Greedy
