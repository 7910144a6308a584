import Mathlib.Algebra.Order.BigOperators.Group.List
import Mathlib.Data.List.Induction
import Arbiter.Framework.Table

/-! # The Latest Row of Each Key

  A table that is filled row by row keeps the latest row of each key. A sum over the table
  is the sum over the rows exactly where every row that was written over weighs nothing.

  ## Contents

  - `sum_put`: what an upsert does to a sum.
  - `fill`: the table of the rows, one put after another.
  - `sum_fill_eq_iff`: when nothing is lost in it.
-/

universe u v w

namespace Table

variable {α : Type u} {κ : Type v} {key : α → κ} [DecidableEq κ] {V : Type w}

/-! ### Upserts -/

theorem put_rows_cons_of_ne {rows : List α} {a r : α} (h : key a ≠ key r) :
    put_rows key (a :: rows) r = a :: put_rows key rows r := by
  unfold put_rows
  by_cases hex : ∃ s ∈ rows, key s = key r
  · rw [if_pos hex, if_pos (hex.imp fun s hs => ⟨List.mem_cons_of_mem _ hs.1, hs.2⟩)]
    simp [h]
  · rw [if_neg hex, if_neg]
    · rfl
    · rintro ⟨s, hs, hkey⟩
      rcases List.mem_cons.mp hs with rfl | hs
      · exact h hkey
      · exact hex ⟨s, hs, hkey⟩

theorem put_rows_cons_of_eq {rows : List α} {a r : α} (hnodup : ((a :: rows).map key).Nodup)
    (h : key a = key r) : put_rows key (a :: rows) r = r :: rows := by
  have hnew : ∀ s ∈ rows, key s ≠ key r := fun s hs hkey =>
    (List.nodup_cons.mp hnodup).1 (List.mem_map.mpr ⟨s, hs, hkey.trans h.symm⟩)
  have hrest : (rows.map fun s => if key s = key r then r else s) = rows :=
    (List.map_congr_left fun s hs => if_neg (hnew s hs)).trans (List.map_id rows)
  rw [put_rows, if_pos ⟨a, List.mem_cons_self, h⟩, List.map_cons, if_pos h, hrest]

section sums

variable [AddCommMonoid V] {weight : α → V}

theorem sum_put_rows {rows : List α} (hnodup : (rows.map key).Nodup) (r : α) :
    ((put_rows key rows r).map weight).sum +
        ((rows.find? (key · = key r)).map weight).getD 0 =
      (rows.map weight).sum + weight r := by
  induction rows with
  | nil => simp [put_rows]
  | cons a rows ih =>
    by_cases h : key a = key r
    · rw [put_rows_cons_of_eq hnodup h, List.find?_cons_of_pos (by simpa using h)]
      simp only [List.map_cons, List.sum_cons, Option.map_some, Option.getD_some]
      ac_rfl
    · rw [put_rows_cons_of_ne h, List.find?_cons_of_neg (by simpa using h), List.map_cons,
        List.map_cons, List.sum_cons, List.sum_cons, add_assoc, ih (List.nodup_cons.mp hnodup).2,
        add_assoc]

/-- An upsert takes the row it writes over from a sum, and adds the new one. -/
theorem sum_put (t : Table α key) (r : α) :
    ((t.put r).rows.map weight).sum + ((t.find (key r)).map weight).getD 0 =
      (t.rows.map weight).sum + weight r :=
  sum_put_rows t.nodup r

end sums

/-! ### Filling -/

variable (key) in
/-- The rows, one put after another. -/
def fill (rows : List α) : Table α key := rows.foldl put empty

variable {rows : List α}

theorem fill_append (r : α) : fill key (rows ++ [r]) = (fill key rows).put r := by
  rw [fill, List.foldl_append]
  rfl

/-- The row with a key is the latest. -/
theorem find_fill_append (r : α) (k : κ) :
    (fill key (rows ++ [r])).find k = if key r = k then some r else (fill key rows).find k := by
  rw [fill_append, find_put]

/-- No row is made up. -/
theorem mem_of_find_fill {k : κ} {r : α} (h : (fill key rows).find k = some r) : r ∈ rows := by
  induction rows using List.reverseRecOn with
  | nil => cases h
  | append_singleton rows s ih =>
    rw [find_fill_append] at h
    split at h
    · rw [Option.some.inj h]
      simp
    · exact List.mem_append_left _ (ih h)

/-- Every key of a row has one. -/
theorem exists_find_fill {r : α} (h : r ∈ rows) : ∃ s, (fill key rows).find (key r) = some s := by
  induction rows using List.reverseRecOn with
  | nil => simp at h
  | append_singleton rows s ih =>
    rw [find_fill_append]
    by_cases hkey : key s = key r
    · exact ⟨s, if_pos hkey⟩
    · rw [if_neg hkey]
      rcases List.mem_append.mp h with h | h
      · exact ih h
      · rw [List.mem_singleton.mp h] at hkey
        exact absurd rfl hkey

section sums

variable [AddCommMonoid V] {weight : α → V}

variable (key) (weight) in
/-- Every row that is written over weighs nothing. -/
def NothingLost (rows : List α) : Prop :=
  rows.Pairwise fun r r' => key r = key r' → weight r = 0

omit [DecidableEq κ] in
theorem nothingLost_append {r : α} :
    NothingLost key weight (rows ++ [r]) ↔
      NothingLost key weight rows ∧ ∀ s ∈ rows, key s = key r → weight s = 0 := by
  simp [NothingLost, List.pairwise_append]

variable (weight) in
/-- What the table has under a key. -/
def weight_at (t : Table α key) (k : κ) : V := ((t.find k).map weight).getD 0

/-- Where nothing is lost, the rows with a key add up to what the table has under it. -/
theorem NothingLost.sum_filter (h : NothingLost key weight rows) (k : κ) :
    ((rows.filter (key · = k)).map weight).sum = weight_at weight (fill key rows) k := by
  induction rows using List.reverseRecOn with
  | nil => rfl
  | append_singleton rows r ih =>
    obtain ⟨hrows, hover⟩ := nothingLost_append.mp h
    rw [weight_at, find_fill_append, List.filter_append]
    by_cases hkey : key r = k
    · -- the new row writes over rows that weigh nothing
      have hnone : ((rows.filter (key · = k)).map weight).sum = 0 := by
        refine List.sum_eq_zero fun x hx => ?_
        obtain ⟨s, hs, rfl⟩ := List.mem_map.mp hx
        obtain ⟨hs, hsk⟩ := List.mem_filter.mp hs
        exact hover s hs ((of_decide_eq_true hsk).trans hkey.symm)
      rw [if_pos hkey, List.map_append, List.sum_append, hnone, zero_add,
        List.filter_cons_of_pos (by simpa using hkey)]
      simp
    · rw [if_neg hkey, List.filter_cons_of_neg (by simpa using hkey), List.filter_nil,
        List.append_nil, ih hrows, weight_at]

variable [PartialOrder V] [CanonicallyOrderedAdd V] [IsOrderedAddMonoid V]

/-- Where nothing is lost and the table has nothing under a key, no row with it has weight. -/
theorem NothingLost.eq_zero (h : NothingLost key weight rows) {k : κ}
    (hzero : weight_at weight (fill key rows) k = 0) {r : α} (hr : r ∈ rows) (hkey : key r = k) :
    weight r = 0 := by
  have hsum := h.sum_filter k
  rw [hzero] at hsum
  have hmem : weight r ∈ (rows.filter (key · = k)).map weight :=
    List.mem_map_of_mem (List.mem_filter.mpr ⟨hr, by simpa using hkey⟩)
  exact (List.sum_eq_zero_iff.mp hsum) _ hmem

theorem sum_fill_le : ((fill key rows).rows.map weight).sum ≤ (rows.map weight).sum := by
  induction rows using List.reverseRecOn with
  | nil => exact le_rfl
  | append_singleton rows r ih =>
    have hput : (((fill key rows).put r).rows.map weight).sum +
        (((fill key rows).find (key r)).map weight).getD 0 =
          ((fill key rows).rows.map weight).sum + weight r := sum_put (fill key rows) r
    rw [fill_append, List.map_append, List.sum_append, List.map_singleton, List.sum_singleton]
    calc (((fill key rows).put r).rows.map weight).sum
        ≤ (((fill key rows).put r).rows.map weight).sum +
            (((fill key rows).find (key r)).map weight).getD 0 := le_self_add
      _ = ((fill key rows).rows.map weight).sum + weight r := hput
      _ ≤ (rows.map weight).sum + weight r := by
          rw [add_comm _ (weight r), add_comm _ (weight r)]
          exact add_le_add_right ih _

variable [IsCancelAdd V]

/-- **Nothing is lost** exactly where the table adds up to the rows. -/
theorem sum_fill_eq_iff :
    (rows.map weight).sum = ((fill key rows).rows.map weight).sum ↔
      NothingLost key weight rows := by
  induction rows using List.reverseRecOn with
  | nil => exact ⟨fun _ => .nil, fun _ => rfl⟩
  | append_singleton rows r ih =>
    have hput : (((fill key rows).put r).rows.map weight).sum +
        weight_at weight (fill key rows) (key r) =
          ((fill key rows).rows.map weight).sum + weight r := sum_put (fill key rows) r
    rw [nothingLost_append, fill_append, List.map_append, List.sum_append, List.map_singleton,
      List.sum_singleton]
    constructor
    · intro hsum
      -- what the new row was written over is lacking, and whatever was lacking before
      have hlack : (rows.map weight).sum + weight_at weight (fill key rows) (key r) =
          ((fill key rows).rows.map weight).sum := by
        apply add_right_cancel (b := weight r)
        rw [← hput, ← hsum]
        ac_rfl
      have hle : (rows.map weight).sum + weight_at weight (fill key rows) (key r) ≤
          (rows.map weight).sum := hlack.trans_le sum_fill_le
      have hsame := le_antisymm hle le_self_add
      have hzero : weight_at weight (fill key rows) (key r) = 0 := by
        apply add_left_cancel (a := (rows.map weight).sum)
        rw [hsame, add_zero]
      -- so nothing was lacking before, nor is it now
      rw [hzero, add_zero] at hlack
      have hlost := ih.mp hlack
      exact ⟨hlost, fun s hs hkey => hlost.eq_zero hzero hs hkey⟩
    · rintro ⟨hlost, hover⟩
      have hzero : weight_at weight (fill key rows) (key r) = 0 := by
        rw [← hlost.sum_filter]
        refine List.sum_eq_zero fun x hx => ?_
        obtain ⟨s, hs, rfl⟩ := List.mem_map.mp hx
        obtain ⟨hs, hkey⟩ := List.mem_filter.mp hs
        exact hover s hs (of_decide_eq_true hkey)
      rw [hzero, add_zero] at hput
      rw [hput, ih.mpr hlost]

end sums

end Table
