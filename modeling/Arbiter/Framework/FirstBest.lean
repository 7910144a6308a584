import Mathlib.Data.List.MinMax

/-! # The First Best of a List

  A list is gone through once and the best so far is kept, the earlier one in a tie. What is
  kept in the end, said by what comes before it and what comes after.
-/

namespace FirstBest

universe u v w

variable {α : Type u} {β : Type v} {γ : Type w} [LinearOrder γ] {f : β → γ} {g : α → Option β}

/-- The element of the list that yields the first best value. -/
structure Position (f : β → γ) (g : α → Option β) (l : List α) (a : α) (b : β) : Prop where
  yields : g a = some b
  first : ∃ before after, l = before ++ a :: after ∧
    (∀ a' ∈ before, ∀ b', g a' = some b' → f b' < f b) ∧
    ∀ a' ∈ after, ∀ b', g a' = some b' → f b' ≤ f b

theorem Position.mem {l : List α} {a : α} {b : β} (h : Position f g l a b) : a ∈ l := by
  obtain ⟨before, after, rfl, -⟩ := h.first
  exact List.mem_append_right _ List.mem_cons_self

/-- Nothing the list yields is better. -/
theorem Position.le {l : List α} {a a' : α} {b b' : β} (h : Position f g l a b) (ha' : a' ∈ l)
    (hb' : g a' = some b') : f b' ≤ f b := by
  obtain ⟨before, after, rfl, hbefore, hafter⟩ := h.first
  rcases List.mem_append.mp ha' with hmem | hmem
  · exact (hbefore a' hmem b' hb').le
  · rcases List.mem_cons.mp hmem with rfl | hmem
    · rw [h.yields] at hb'
      exact (Option.some.inj hb' ▸ le_rfl)
    · exact hafter a' hmem b' hb'

/-- The first best of a list: better than all before it, and as good as all after it. -/
theorem argmax_eq_some_iff {m : List β} {b : β} :
    m.argmax f = some b ↔ ∃ before after, m = before ++ b :: after ∧
      (∀ b' ∈ before, f b' < f b) ∧ ∀ b' ∈ after, f b' ≤ f b := by
  constructor
  · intro h
    induction m with
    | nil => cases h
    | cons c m ih =>
      rw [List.argmax_cons] at h
      cases hrest : m.argmax f with
      | none =>
        rw [hrest] at h
        obtain rfl := Option.some.inj h
        rw [List.argmax_eq_none.mp hrest]
        exact ⟨[], [], rfl, by simp, by simp⟩
      | some d =>
        rw [hrest] at h
        dsimp only at h
        by_cases hlt : f c < f d
        · -- the best of the rest is better than the head
          rw [if_pos hlt] at h
          obtain rfl := Option.some.inj h
          obtain ⟨before, after, rfl, hbefore, hafter⟩ := ih hrest
          refine ⟨c :: before, after, rfl, fun b' hb' => ?_, hafter⟩
          rcases List.mem_cons.mp hb' with rfl | hb'
          · exact hlt
          · exact hbefore b' hb'
        · rw [if_neg hlt] at h
          obtain rfl := Option.some.inj h
          refine ⟨[], m, rfl, by simp, fun b' hb' => ?_⟩
          exact (List.le_of_mem_argmax hb' hrest).trans (not_lt.mp hlt)
  · rintro ⟨before, after, rfl, hbefore, hafter⟩
    induction before with
    | nil =>
      rw [List.nil_append, List.argmax_cons]
      cases hrest : after.argmax f with
      | none => rfl
      | some d => exact if_neg (not_lt.mpr (hafter d (List.argmax_mem hrest)))
    | cons c before ih =>
      rw [List.cons_append, List.argmax_cons,
        ih fun b' hb' => hbefore b' (List.mem_cons_of_mem _ hb')]
      exact if_pos (hbefore c List.mem_cons_self)

/-- The first best of what a list yields is yielded at such a position. -/
theorem argmax_filterMap_iff {l : List α} {b : β} :
    (l.filterMap g).argmax f = some b ↔ ∃ a, Position f g l a b := by
  rw [argmax_eq_some_iff]
  constructor
  · rintro ⟨before, after, heq, hbefore, hafter⟩
    obtain ⟨l₁, l₂, rfl, rfl, hrest⟩ := List.filterMap_eq_append_iff.mp heq
    obtain ⟨l₃, a, l₄, rfl, hnone, hyields, rfl⟩ := List.filterMap_eq_cons_iff.mp hrest
    refine ⟨a, hyields, l₁ ++ l₃, l₄, by simp, fun a' ha' b' hb' => ?_, fun a' ha' b' hb' => ?_⟩
    · rcases List.mem_append.mp ha' with ha' | ha'
      · exact hbefore b' (List.mem_filterMap.mpr ⟨a', ha', hb'⟩)
      · rw [hnone a' ha'] at hb'
        cases hb'
    · exact hafter b' (List.mem_filterMap.mpr ⟨a', ha', hb'⟩)
  · rintro ⟨a, hyields, before, after, rfl, hbefore, hafter⟩
    refine ⟨before.filterMap g, after.filterMap g, ?_, fun b' hb' => ?_, fun b' hb' => ?_⟩
    · rw [List.filterMap_append, List.filterMap_cons_some hyields]
    · obtain ⟨a', ha', hyields'⟩ := List.mem_filterMap.mp hb'
      exact hbefore a' ha' b' hyields'
    · obtain ⟨a', ha', hyields'⟩ := List.mem_filterMap.mp hb'
      exact hafter a' ha' b' hyields'

end FirstBest
