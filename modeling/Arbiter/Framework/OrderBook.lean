import Mathlib.Algebra.Order.BigOperators.Group.List
import Mathlib.Data.List.Sort
import Mathlib.Order.Bounds.Basic

/-! # Order Books

  One side of a book is a list of levels, each a price at which something is offered and how
  much of it. To buy an amount the levels are gone through from the cheapest on, until what has
  been passed is enough; the price of the last of them is the least at which, or below which, as
  much is offered. In what order the levels came does not matter.
-/

namespace OrderBook

universe u v w

/-! ## Sorting by a key -/

section sorting

variable {α : Type u} {P : Type v} [LinearOrder P]

/-- No greater a key. -/
def ByKey (key : α → P) (a b : α) : Prop := key a ≤ key b

instance (key : α → P) : DecidableRel (ByKey key) := fun a b =>
  inferInstanceAs (Decidable (key a ≤ key b))

instance (key : α → P) : Std.Total (ByKey key) := ⟨fun a b => le_total (key a) (key b)⟩

instance (key : α → P) : IsTrans α (ByKey key) := ⟨fun _ _ _ hab hbc => le_trans hab hbc⟩

/-- The list in the order of a key, equal ones as they came. -/
def sorted_on (key : α → P) (l : List α) : List α := l.insertionSort (ByKey key)

theorem pairwise_sorted_on (key : α → P) (l : List α) :
    (sorted_on key l).Pairwise fun a b => key a ≤ key b :=
  List.pairwise_insertionSort (ByKey key) l

theorem sorted_on_perm (key : α → P) (l : List α) : (sorted_on key l).Perm l :=
  List.perm_insertionSort (ByKey key) l

end sorting

/-! ## Levels -/

/-- So much is offered at a price. -/
structure Level (P : Type v) (S : Type w) where
  price : P
  size : S

section prices

variable {P : Type v} {S : Type w} {levels levels' : List (Level P S)} {p : P}

/-- The prices at which something is offered. -/
def prices (levels : List (Level P S)) : Set P := {p | ∃ level ∈ levels, level.price = p}

theorem prices_perm (h : levels.Perm levels') : prices levels = prices levels' := by
  ext p
  constructor
  · rintro ⟨level, hmem, hprice⟩
    exact ⟨level, h.mem_iff.mp hmem, hprice⟩
  · rintro ⟨level, hmem, hprice⟩
    exact ⟨level, h.mem_iff.mpr hmem, hprice⟩

variable [LinearOrder P]

/-- The levels of a side, from the cheapest on. -/
structure FromCheapest (levels sorted : List (Level P S)) : Prop where
  perm : sorted.Perm levels
  ordered : sorted.Pairwise fun a b => a.price ≤ b.price

theorem from_cheapest_sorted_on (levels : List (Level P S)) :
    FromCheapest levels (sorted_on Level.price levels) :=
  ⟨sorted_on_perm _ _, pairwise_sorted_on _ _⟩

/-- The first has the lowest price. -/
theorem FromCheapest.head_isLeast {level : Level P S} {rest : List (Level P S)}
    (h : FromCheapest levels (level :: rest)) : IsLeast (prices levels) level.price := by
  rw [← prices_perm h.perm]
  have hhead := (List.pairwise_cons.mp h.ordered).1
  refine ⟨⟨level, List.mem_cons_self, rfl⟩, ?_⟩
  rintro q ⟨l, hl, rfl⟩
  rcases List.mem_cons.mp hl with rfl | hl
  · exact le_rfl
  · exact hhead l hl

/-- The last has the highest. -/
theorem FromCheapest.last_isGreatest {level : Level P S} {sorted : List (Level P S)}
    (h : FromCheapest levels sorted) (hlast : sorted.getLast? = some level) :
    IsGreatest (prices levels) level.price := by
  rw [← prices_perm h.perm]
  obtain ⟨before, rfl⟩ := List.getLast?_eq_some_iff.mp hlast
  have hbefore := (List.pairwise_append.mp h.ordered).2.2
  refine ⟨⟨level, by simp, rfl⟩, ?_⟩
  rintro q ⟨l, hl, rfl⟩
  rcases List.mem_append.mp hl with hl | hl
  · exact hbefore l hl level List.mem_cons_self
  · rw [List.mem_singleton.mp hl]

end prices

section book

variable {P : Type v} {S : Type w} [AddCommMonoid S] {levels levels' : List (Level P S)}

/-- All that is offered. -/
def total (levels : List (Level P S)) : S := (levels.map Level.size).sum

theorem total_perm (h : levels.Perm levels') : total levels = total levels' :=
  (h.map Level.size).sum_eq

theorem total_nonneg [LinearOrder S] [IsOrderedAddMonoid S]
    (hsize : ∀ level ∈ levels, 0 ≤ level.size) : 0 ≤ total levels := by
  apply List.sum_nonneg
  intro size hmem
  obtain ⟨level, hlevel, rfl⟩ := List.mem_map.mp hmem
  exact hsize level hlevel

variable [LinearOrder P]

/-- What is offered at a price or below it. -/
def offered (levels : List (Level P S)) (p : P) : S :=
  total (levels.filter fun level => level.price ≤ p)

theorem offered_perm (h : levels.Perm levels') (p : P) : offered levels p = offered levels' p :=
  total_perm (h.filter _)

variable [LinearOrder S]

/-- The prices at which, or below which, as much is offered as is needed. -/
def enough (levels : List (Level P S)) (needed : S) : Set P :=
  {p | p ∈ prices levels ∧ needed ≤ offered levels p}

theorem enough_perm (h : levels.Perm levels') (needed : S) :
    enough levels needed = enough levels' needed := by
  unfold enough
  simp only [prices_perm h, offered_perm h]

/-- The more is needed, the fewer prices will do. -/
theorem enough_antitone {needed needed' : S} (hle : needed ≤ needed') :
    enough levels needed' ⊆ enough levels needed :=
  fun _ h => ⟨h.1, hle.trans h.2⟩

/-! ## The walk -/

/-- The price of the level at which what has been passed is enough. -/
def walk (needed : S) : S → List (Level P S) → Option P
  | _, [] => none
  | cumulative, level :: rest =>
      if needed ≤ cumulative + level.size then some level.price
      else walk needed (cumulative + level.size) rest

variable [IsOrderedAddMonoid S] {needed cumulative : S} {p : P}

theorem offered_nonneg (hsize : ∀ level ∈ levels, 0 ≤ level.size) (p : P) :
    0 ≤ offered levels p :=
  total_nonneg fun level hlevel => hsize level (List.mem_of_mem_filter hlevel)

omit [LinearOrder P] in
/-- The walk comes to an end without enough exactly where there is not enough in all. -/
theorem walk_eq_none_iff (hsize : ∀ level ∈ levels, 0 ≤ level.size)
    (hneeded : cumulative < needed) :
    walk needed cumulative levels = none ↔ cumulative + total levels < needed := by
  induction levels generalizing cumulative with
  | nil => simpa [walk, total] using hneeded
  | cons level rest ih =>
    have hrest : ∀ level ∈ rest, 0 ≤ level.size := fun l hl => hsize l (List.mem_cons_of_mem _ hl)
    have htotal : cumulative + total (level :: rest) = cumulative + level.size + total rest := by
      rw [total, List.map_cons, List.sum_cons, ← add_assoc]
      rfl
    rw [walk, htotal]
    by_cases hreach : needed ≤ cumulative + level.size
    · rw [if_pos hreach]
      have hle := hreach.trans (le_add_of_nonneg_right (total_nonneg hrest))
      exact iff_of_false nofun (not_lt.mpr hle)
    · rw [if_neg hreach]
      exact ih hrest (not_le.mp hreach)

/-- Of levels in the order of their prices the walk ends at the least price with enough. -/
theorem walk_isLeast (hsorted : levels.Pairwise fun a b => a.price ≤ b.price)
    (hsize : ∀ level ∈ levels, 0 ≤ level.size) (h : walk needed cumulative levels = some p) :
    IsLeast {q | q ∈ prices levels ∧ needed ≤ cumulative + offered levels q} p := by
  induction levels generalizing cumulative with
  | nil => cases h
  | cons level rest ih =>
    have hrest : ∀ level ∈ rest, 0 ≤ level.size := fun l hl => hsize l (List.mem_cons_of_mem _ hl)
    obtain ⟨hhead, hsorted⟩ := List.pairwise_cons.mp hsorted
    have hoffered {q : P} (hq : level.price ≤ q) :
        cumulative + offered (level :: rest) q = cumulative + level.size + offered rest q := by
      rw [offered, List.filter_cons_of_pos (by simpa using hq), total, List.map_cons,
        List.sum_cons, ← add_assoc]
      rfl
    have hcheapest {q : P} (hq : q ∈ prices (level :: rest)) : level.price ≤ q := by
      obtain ⟨l, hl, rfl⟩ := hq
      rcases List.mem_cons.mp hl with rfl | hl
      · exact le_rfl
      · exact hhead l hl
    rw [walk] at h
    by_cases hreach : needed ≤ cumulative + level.size
    · -- the cheapest is enough
      rw [if_pos hreach, Option.some.injEq] at h
      obtain rfl := h
      refine ⟨⟨⟨level, List.mem_cons_self, rfl⟩, ?_⟩, fun q hq => hcheapest hq.1⟩
      rw [hoffered le_rfl]
      exact hreach.trans (le_add_of_nonneg_right (offered_nonneg hrest _))
    · rw [if_neg hreach] at h
      obtain ⟨⟨hmem, henough⟩, hleast⟩ := ih hsorted hrest h
      have hp : p ∈ prices (level :: rest) := by
        obtain ⟨l, hl, hprice⟩ := hmem
        exact ⟨l, List.mem_cons_of_mem _ hl, hprice⟩
      refine ⟨⟨hp, ?_⟩, ?_⟩
      · rw [hoffered (hcheapest hp)]
        exact henough
      · rintro q ⟨⟨l, hl, rfl⟩, hq⟩
        have hle := hcheapest ⟨l, hl, rfl⟩
        rw [hoffered hle] at hq
        rcases List.mem_cons.mp hl with rfl | hl
        · -- what is offered at that price by other levels is of the rest
          have hsome : rest.filter (fun l' => l'.price ≤ l.price) ≠ [] := by
            intro hnone
            rw [offered, hnone, total, List.map_nil, List.sum_nil, add_zero] at hq
            exact hreach hq
          obtain ⟨l', hl'⟩ := List.exists_mem_of_ne_nil _ hsome
          obtain ⟨hl', hprice⟩ := List.mem_filter.mp hl'
          have hsame : l'.price = l.price :=
            le_antisymm (by simpa using hprice) (hhead l' hl')
          exact hleast ⟨⟨l', hl', hsame⟩, hq⟩
        · exact hleast ⟨⟨l, hl, rfl⟩, hq⟩

/-! ## From the cheapest on -/

namespace FromCheapest

variable {sorted : List (Level P S)} (h : FromCheapest levels sorted)

include h

omit [IsOrderedAddMonoid S] in
theorem size_nonneg (hsize : ∀ level ∈ levels, 0 ≤ level.size) :
    ∀ level ∈ sorted, 0 ≤ level.size :=
  fun level hlevel => hsize level (h.perm.mem_iff.mp hlevel)

/-- The walk finds a price exactly where enough is offered in all. -/
theorem walk_isSome_iff (hsize : ∀ level ∈ levels, 0 ≤ level.size) (hneeded : 0 < needed) :
    (walk needed 0 sorted).isSome = true ↔ needed ≤ total levels := by
  rw [Option.isSome_iff_ne_none, ne_eq, walk_eq_none_iff (h.size_nonneg hsize) hneeded, zero_add,
    not_lt, total_perm h.perm]

/-- It is the least price with enough. -/
theorem walk_isLeast_enough (hsize : ∀ level ∈ levels, 0 ≤ level.size)
    (hwalk : walk needed 0 sorted = some p) : IsLeast (enough levels needed) p := by
  have hleast := walk_isLeast h.ordered (h.size_nonneg hsize) hwalk
  simp only [zero_add] at hleast
  rw [← enough_perm h.perm]
  exact hleast

/-- More does not come cheaper, where what cannot be had in full is given the last price. -/
theorem walk_mono {needed' : S} (hsize : ∀ level ∈ levels, 0 ≤ level.size) (hneeded : 0 < needed)
    (hle : needed ≤ needed') (default : P) :
    (walk needed 0 sorted).getD ((sorted.getLast?.map Level.price).getD default) ≤
      (walk needed' 0 sorted).getD ((sorted.getLast?.map Level.price).getD default) := by
  cases hwalk' : walk needed' 0 sorted with
  | some p' =>
    have henough : needed ≤ total levels :=
      hle.trans ((h.walk_isSome_iff hsize (hneeded.trans_le hle)).mp (by rw [hwalk']; rfl))
    obtain ⟨p, hwalk⟩ := Option.isSome_iff_exists.mp ((h.walk_isSome_iff hsize hneeded).mpr henough)
    rw [hwalk]
    have hmem := enough_antitone hle (h.walk_isLeast_enough hsize hwalk').1
    exact (h.walk_isLeast_enough hsize hwalk).2 hmem
  | none =>
    cases hwalk : walk needed 0 sorted with
    | none => exact le_rfl
    | some p =>
      -- a price of some level is no higher than that of the last
      have hprice := (h.walk_isLeast_enough hsize hwalk).1.1
      have hne : sorted ≠ [] := by
        rintro rfl
        obtain ⟨level, hlevel, -⟩ := hprice
        exact List.not_mem_nil (h.perm.mem_iff.mpr hlevel)
      rw [List.getLast?_eq_some_getLast hne]
      exact (h.last_isGreatest (List.getLast?_eq_some_getLast hne)).2 hprice

end FromCheapest

end book

end OrderBook
