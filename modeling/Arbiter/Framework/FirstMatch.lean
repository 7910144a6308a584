import Mathlib.Algebra.BigOperators.Group.List.Basic

/-! # Updating the First Match

  Records kept in a list are updated in place: find the first that matches and
  replace it. What that does to a later search, to a list of keys and to a sum.
-/

namespace FirstMatch

universe u v

variable {α : Type u} {β : Type v}

/-- Replace the first element that satisfies `p` by its image under `f`. -/
def update (p : α → Bool) (f : α → α) : List α → List α
  | [] => []
  | a :: l => if p a then f a :: l else a :: update p f l

theorem update_cons (p : α → Bool) (f : α → α) (a : α) (l : List α) :
    update p f (a :: l) = if p a then f a :: l else a :: update p f l := rfl

/-- Searching by a key the update keeps, in the part it does not touch. -/
theorem find?_update_of_disjoint {p q : α → Bool} {f : α → α} (hq : ∀ a, q (f a) = q a)
    (hpq : ∀ a, p a = true → q a = false) (l : List α) :
    (update p f l).find? q = l.find? q := by
  induction l with
  | nil => rfl
  | cons a l ih =>
    rw [update_cons]
    split
    case isTrue hp => simp [hq a, hpq a hp]
    case isFalse hp => simp only [List.find?_cons, ih]

/-- Searching for the updated element. -/
theorem find?_update_self {p : α → Bool} {f : α → α} (hp : ∀ a, p (f a) = p a) (l : List α) :
    (update p f l).find? p = (l.find? p).map f := by
  induction l with
  | nil => rfl
  | cons a l ih =>
    rw [update_cons]
    split
    case isTrue h => simp [hp a, h]
    case isFalse h => simp [h, ih]

/-- Searching for an element that replaced the first match. -/
theorem find?_update_const {p : α → Bool} {a b : α} {l : List α} (hp : p a = true)
    (hb : l.find? p = some b) : (update p (fun _ => a) l).find? p = some a := by
  induction l with
  | nil => simp at hb
  | cons c l ih =>
    rw [update_cons]
    split
    case isTrue hc => simp [hp]
    case isFalse hc =>
      rw [List.find?_cons_of_neg hc] at hb ⊢
      exact ih hb

/-- The elements after an update are old ones and images of old ones. -/
theorem mem_update {p : α → Bool} {f : α → α} {l : List α} {a : α} (ha : a ∈ update p f l) :
    a ∈ l ∨ ∃ b ∈ l, a = f b := by
  induction l with
  | nil => cases ha
  | cons b l ih =>
    rw [update_cons] at ha
    split at ha
    case isTrue hp =>
      rcases List.mem_cons.1 ha with heq | hmem
      · exact .inr ⟨b, List.mem_cons_self, heq⟩
      · exact .inl (List.mem_cons_of_mem b hmem)
    case isFalse hp =>
      rcases List.mem_cons.1 ha with heq | hmem
      · exact .inl (heq ▸ List.mem_cons_self)
      · rcases ih hmem with hold | ⟨c, hc, heq⟩
        · exact .inl (List.mem_cons_of_mem b hold)
        · exact .inr ⟨c, List.mem_cons_of_mem b hc, heq⟩

/-- An element that does not match stays. -/
theorem mem_update_of_not {p : α → Bool} {f : α → α} {l : List α} {a : α} (ha : a ∈ l)
    (hp : p a = false) : a ∈ update p f l := by
  induction l with
  | nil => cases ha
  | cons b l ih =>
    rw [update_cons]
    split
    case isTrue hb =>
      rcases List.mem_cons.1 ha with rfl | hmem
      · exact absurd (hp.symm.trans hb) (by decide)
      · exact List.mem_cons_of_mem _ hmem
    case isFalse hb =>
      rcases List.mem_cons.1 ha with rfl | hmem
      · exact List.mem_cons_self
      · exact List.mem_cons_of_mem _ (ih hmem)

/-- A sum over the records changes by what the updated record changes. -/
theorem sum_map_update [AddCommMonoid β] (g : α → β) {p : α → Bool} {f : α → α} {l : List α}
    {a : α} (ha : l.find? p = some a) :
    ((update p f l).map g).sum + g a = (l.map g).sum + g (f a) := by
  induction l with
  | nil => simp at ha
  | cons b l ih =>
    rw [update_cons]
    split
    case isTrue h =>
      simp only [List.find?_cons, h, Option.some.injEq] at ha
      subst ha
      simp only [List.map_cons, List.sum_cons]
      ac_rfl
    case isFalse h =>
      have hb : p b = false := by simpa using h
      rw [List.find?_cons, hb] at ha
      have := ih ha
      simp only [List.map_cons, List.sum_cons, add_assoc, this]

end FirstMatch
