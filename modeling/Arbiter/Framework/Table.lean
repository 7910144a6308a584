import Mathlib.Data.List.Nodup

/-! # Keyed Tables

  A table is a list of rows with distinct keys. What its statements do is stated by what
  `find` gives afterwards.

  ## Contents

  - `Table`, `find`: rows, and the row with a key.
  - `put`, `modify`, `erase`, `keep`: an upsert, an update of all rows, deletions.
  - `Ordered`: a query's answer in some order of the rows it selects.
-/

universe u v

/-- Rows with distinct keys. -/
structure Table (α : Type u) {κ : Type v} (key : α → κ) where
  rows : List α
  nodup : (rows.map key).Nodup

namespace Table

variable {α : Type u} {κ : Type v} {key : α → κ}

/-! ### Rows by key -/

/-- No rows. -/
def empty : Table α key := ⟨[], List.nodup_nil⟩

section find

variable [DecidableEq κ]

/-- The row with a key. -/
def find (t : Table α key) (k : κ) : Option α := t.rows.find? (key · = k)

theorem find_key {t : Table α key} {k : κ} {r : α} (h : t.find k = some r) : key r = k := by
  simpa using List.find?_some h

theorem mem_of_find {t : Table α key} {k : κ} {r : α} (h : t.find k = some r) : r ∈ t.rows :=
  List.mem_of_find?_eq_some h

/-- A row is the one with its key. -/
theorem find_of_mem {t : Table α key} {r : α} (h : r ∈ t.rows) : t.find (key r) = some r := by
  cases hfind : t.find (key r) with
  | none => exact absurd (List.find?_eq_none.mp hfind r h) (by simp)
  | some s =>
      have hkey : key s = key r := find_key hfind
      rw [List.inj_on_of_nodup_map t.nodup (mem_of_find hfind) h hkey]

@[simp] theorem find_empty (k : κ) : (empty : Table α key).find k = none := rfl

/-! ### Statements -/

variable (key) in
/-- The rows, with `r` in the place of the row with its key, or at the end. -/
def put_rows (rows : List α) (r : α) : List α :=
  if ∃ s ∈ rows, key s = key r then rows.map fun s => if key s = key r then r else s
  else rows ++ [r]

theorem put_rows_nodup {rows : List α} (h : (rows.map key).Nodup) (r : α) :
    ((put_rows key rows r).map key).Nodup := by
  unfold put_rows
  split_ifs with hex
  · have hsame : (rows.map fun s => if key s = key r then r else s).map key = rows.map key := by
      rw [List.map_map]
      refine List.map_congr_left fun s _ => ?_
      by_cases hs : key s = key r <;> simp [hs]
    rwa [hsame]
  · rw [List.map_append, List.nodup_append]
    refine ⟨h, by simp, ?_⟩
    rintro k hk k' hk' rfl
    obtain ⟨s, hs, rfl⟩ := List.mem_map.mp hk
    exact hex ⟨s, hs, by simpa using hk'⟩

/-- `INSERT … ON CONFLICT DO UPDATE`. -/
def put (t : Table α key) (r : α) : Table α key :=
  ⟨put_rows key t.rows r, put_rows_nodup t.nodup r⟩

/-- `UPDATE`: every row becomes `f` of it, with the same key. -/
def modify (t : Table α key) (f : α → α) (hf : ∀ r, key (f r) = key r) : Table α key :=
  ⟨t.rows.map f, by
    rw [List.map_map, show key ∘ f = key from funext hf]
    exact t.nodup⟩

/-- `DELETE` of the row with a key. -/
def erase (t : Table α key) (k : κ) : Table α key :=
  ⟨t.rows.filter (key · ≠ k), t.nodup.sublist (List.filter_sublist.map key)⟩

omit [DecidableEq κ] in
/-- The rows that meet `p`. -/
def keep (t : Table α key) (p : α → Bool) : Table α key :=
  ⟨t.rows.filter p, t.nodup.sublist (List.filter_sublist.map key)⟩

omit [DecidableEq κ] in
@[simp] theorem mem_keep {t : Table α key} {p : α → Bool} {r : α} :
    r ∈ (t.keep p).rows ↔ r ∈ t.rows ∧ p r = true :=
  List.mem_filter

omit [DecidableEq κ] in
@[simp] theorem mem_modify {t : Table α key} {f : α → α} {hf : ∀ r, key (f r) = key r} {s : α} :
    s ∈ (t.modify f hf).rows ↔ ∃ r ∈ t.rows, f r = s :=
  List.mem_map

theorem mem_put {t : Table α key} {r s : α} :
    s ∈ (t.put r).rows ↔ s = r ∨ s ∈ t.rows ∧ key s ≠ key r := by
  rw [put]
  unfold put_rows
  split_ifs with hex
  · simp only [List.mem_map]
    constructor
    · rintro ⟨s', hs', rfl⟩
      by_cases hkey : key s' = key r
      · exact .inl (if_pos hkey)
      · rw [if_neg hkey]
        exact .inr ⟨hs', hkey⟩
    · rintro (rfl | ⟨hs, hkey⟩)
      · obtain ⟨s', hs', hkey⟩ := hex
        exact ⟨s', hs', if_pos hkey⟩
      · exact ⟨s, hs, if_neg hkey⟩
  · simp only [List.mem_append, List.mem_singleton]
    constructor
    · rintro (hs | rfl)
      · exact .inr ⟨hs, fun hkey => hex ⟨s, hs, hkey⟩⟩
      · exact .inl rfl
    · rintro (rfl | ⟨hs, -⟩)
      · exact .inr rfl
      · exact .inl hs

theorem find_put (t : Table α key) (r : α) (k : κ) :
    (t.put r).find k = if key r = k then some r else t.find k := by
  by_cases hkey : key r = k
  · subst hkey
    rw [if_pos rfl]
    exact find_of_mem (mem_put.mpr (.inl rfl))
  · rw [if_neg hkey]
    cases hfind : t.find k with
    | none =>
        refine List.find?_eq_none.mpr fun s hs hk => ?_
        simp only [decide_eq_true_eq] at hk
        obtain rfl | ⟨hs, -⟩ := mem_put.mp hs
        · exact hkey hk
        · exact absurd (List.find?_eq_none.mp hfind s hs) (by simpa using hk)
    | some s =>
        have hs := find_key hfind
        rw [← hs]
        exact find_of_mem (mem_put.mpr (.inr ⟨mem_of_find hfind, by rw [hs]; exact Ne.symm hkey⟩))

@[simp] theorem find_put_self (t : Table α key) (r : α) : (t.put r).find (key r) = some r := by
  rw [find_put, if_pos rfl]

theorem find_put_of_ne (t : Table α key) {r : α} {k : κ} (h : key r ≠ k) :
    (t.put r).find k = t.find k := by
  rw [find_put, if_neg h]

@[simp] theorem find_modify (t : Table α key) (f : α → α) (hf : ∀ r, key (f r) = key r) (k : κ) :
    (t.modify f hf).find k = (t.find k).map f := by
  simp only [find, modify, List.find?_map, Function.comp_def, hf]

theorem find_erase (t : Table α key) (k k' : κ) :
    (t.erase k).find k' = if k' = k then none else t.find k' := by
  unfold find erase
  by_cases h : k' = k
  · subst h
    rw [if_pos rfl, List.find?_eq_none]
    intro s hs
    simpa using (List.mem_filter.mp hs).2
  · rw [if_neg h, List.find?_filter]
    congr 1
    funext s
    by_cases hs : key s = k' <;> simp [hs, h]

end find

/-! ### Queries -/

/-- `answer` lists the rows that meet `p`, in an order in which none that has to come later
    comes before another. -/
def Ordered (t : Table α key) (p : α → Bool) (before : α → α → Prop) (answer : List α) : Prop :=
  answer.Perm (t.rows.filter p) ∧ answer.Pairwise fun r s => ¬ before s r

theorem Ordered.mem_iff {t : Table α key} {p : α → Bool} {before : α → α → Prop}
    {answer : List α} (h : t.Ordered p before answer) {r : α} :
    r ∈ answer ↔ r ∈ t.rows ∧ p r = true := by
  rw [h.1.mem_iff, List.mem_filter]

/-- The first row is preceded by none. -/
theorem Ordered.not_before_head {t : Table α key} {p : α → Bool} {before : α → α → Prop}
    {r : α} {answer : List α} (h : t.Ordered p before (r :: answer))
    (hirrefl : ∀ s, ¬ before s s) {s : α} (hs : s ∈ t.rows) (hp : p s = true) :
    ¬ before s r := by
  have hmem : s ∈ r :: answer := h.mem_iff.mpr ⟨hs, hp⟩
  obtain rfl | hmem := List.mem_cons.mp hmem
  · exact hirrefl s
  · exact (List.pairwise_cons.mp h.2).1 s hmem

end Table
