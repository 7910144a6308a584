import Mathlib.Data.List.Basic

/-! # Paging

  A listing that is answered page by page. Whoever asks shows a token, which stands for what
  is left of the listing; a page is some items, and the token of what is left after them.

  ## Contents

  - `Source`, `Source.Pages`: what a token stands for, and the pages that may be answered.
  - `Source.Pages.collected`: what was collected, with what is left, is the listing.
  - `by_offset`: tokens that count items.
  - `page_collected`, `last_collected`: tokens that count pages.
-/

universe u v

namespace Paging

/-- What is left of a listing when a token is shown. -/
structure Source (T : Type u) (α : Type v) where
  rest : T → List α

variable {T : Type u} {α : Type v}

/-- What is left, where there is another token. -/
def Source.left (s : Source T α) : Option T → List α
  | none => []
  | some t => s.rest t

/-- The items, and what is left after them, are what the token stands for. -/
def Source.Pages (s : Source T α) (t : T) (items : List α) (next : Option T) : Prop :=
  s.rest t = items ++ s.left next

/-- Another page. -/
theorem Source.Pages.collected {s : Source T α} {all got items : List α} {t : T} {next : Option T}
    (h : s.Pages t items next) (hgot : got ++ s.rest t = all) :
    (got ++ items) ++ s.left next = all := by
  have hpage : s.rest t = items ++ s.left next := h
  rw [List.append_assoc, ← hpage, hgot]

/-! ### Offsets -/

/-- The token is the number of items that were listed. -/
def by_offset (l : List α) : Source ℕ α := ⟨fun offset => l.drop offset⟩

/-- A page has some of the items that are left, from the first on. -/
theorem offset_pages {l items : List α} {offset : ℕ} (h : items <+: l.drop offset) :
    (by_offset l).Pages offset items (some (offset + items.length)) := by
  obtain ⟨rest, hrest⟩ := h
  show l.drop offset = items ++ l.drop (offset + items.length)
  rw [← List.drop_drop, ← hrest, List.drop_left]

/-! ### Cursors -/

/-- The page after one, if there is another. -/
def cursor_after (pages : List (List α)) (k : ℕ) : Option ℕ :=
  if k + 1 < pages.length then some (k + 1) else none

theorem page_collected (pages : List (List α)) (k : ℕ) :
    (pages.take (k + 1)).flatten = (pages.take k).flatten ++ pages[k]?.getD [] := by
  rw [List.take_add_one, List.flatten_append]
  cases pages[k]? <;> simp

/-- Without a page after it, a page is the last that is collected. -/
theorem last_collected {pages : List (List α)} {k most : ℕ} (h : cursor_after pages k = none)
    (hmost : k + 1 ≤ most) : pages.take (k + 1) = pages.take most := by
  have hlast : pages.length ≤ k + 1 := by
    by_contra hmore
    simp [cursor_after, show k + 1 < pages.length by omega] at h
  rw [List.take_of_length_le hlast, List.take_of_length_le (Nat.le_trans hlast hmost)]

end Paging
