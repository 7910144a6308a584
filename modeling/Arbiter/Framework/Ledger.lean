import Mathlib.Algebra.BigOperators.Group.List.Basic
import Mathlib.Algebra.Order.Monoid.Canonical.Defs
import Mathlib.Algebra.Order.Sub.Basic
import Mathlib.Data.List.AList

/-! # Ledgers

  A dictionary from keys to amounts, where a missing key stands for zero.
  Crediting adds to an entry, debiting subtracts what is there at most and drops
  an entry that falls to zero. Each operation has a lemma for the entry it
  touches, for the entries it does not touch and for the total.
-/

universe u v

/-- A dictionary of amounts. -/
abbrev Ledger (K : Type u) (V : Type v) := AList fun _ : K => V

namespace Ledger

variable {K : Type u} {V : Type v} [DecidableEq K] [AddCommMonoid V]

/-! ### Operations -/

/-- The amount under a key, zero when there is none. -/
def amount (l : Ledger K V) (k : K) : V := (l.lookup k).getD 0

/-- The sum of all amounts. -/
def total (l : Ledger K V) : V := (l.entries.map Sigma.snd).sum

/-- Add `v` to the amount under `k`. -/
def credit (l : Ledger K V) (k : K) (v : V) : Ledger K V := l.insert k (amount l k + v)

/-- Take `v`, or what there is, from the amount under `k`. -/
def debit [LinearOrder V] [Sub V] (l : Ledger K V) (k : K) (v : V) : Ledger K V :=
  let remaining := amount l k - v
  if 0 < remaining then l.insert k remaining else l.erase k

/-! ### Amounts -/

@[simp] theorem amount_empty (k : K) : amount (∅ : Ledger K V) k = 0 := by
  simp [amount]

@[simp] theorem amount_insert_self (l : Ledger K V) (k : K) (v : V) :
    amount (l.insert k v) k = v := by
  simp [amount]

theorem amount_insert_ne (l : Ledger K V) {k k' : K} (v : V) (h : k' ≠ k) :
    amount (l.insert k v) k' = amount l k' := by
  simp [amount, AList.lookup_insert_ne h]

@[simp] theorem amount_credit_self (l : Ledger K V) (k : K) (v : V) :
    amount (credit l k v) k = amount l k + v := by
  simp [credit]

theorem amount_credit_ne (l : Ledger K V) {k k' : K} (v : V) (h : k' ≠ k) :
    amount (credit l k v) k' = amount l k' := by
  simp [credit, amount_insert_ne l _ h]

/-- Crediting, as one equation over all keys. -/
theorem amount_credit (l : Ledger K V) (k k' : K) (v : V) :
    (l.credit k v).amount k' = l.amount k' + if k' = k then v else 0 := by
  by_cases h : k' = k
  · subst h
    simp
  · simp [amount_credit_ne l v h, h]

theorem amount_debit_ne [LinearOrder V] [Sub V] (l : Ledger K V) {k k' : K} (v : V)
    (h : k' ≠ k) : amount (debit l k v) k' = amount l k' := by
  simp only [debit]
  split
  · exact amount_insert_ne l _ h
  · simp [amount, AList.lookup_erase_ne h]

/-! ### Totals -/

omit [DecidableEq K] in
@[simp] theorem total_empty : total (∅ : Ledger K V) = 0 := by
  simp [total]

/-- Dropping a key takes its amount off a list of entries without duplicate keys. -/
private theorem sum_kerase (k : K) (es : List (Sigma fun _ : K => V)) :
    ((es.kerase k).map Sigma.snd).sum + (es.dlookup k).getD 0 = (es.map Sigma.snd).sum := by
  induction es with
  | nil => simp
  | cons e es ih =>
    by_cases h : e.1 = k
    · obtain ⟨k', v⟩ := e
      cases h
      simp [List.kerase_cons_eq, add_comm]
    · have hk : k ≠ e.1 := fun h' => h h'.symm
      rw [List.kerase_cons_ne hk, List.dlookup_cons_ne _ _ hk]
      simp [← ih, add_assoc]

/-- The total without a key, and the amount under it. -/
theorem total_erase_add (l : Ledger K V) (k : K) : total (l.erase k) + amount l k = total l :=
  sum_kerase k l.entries

theorem total_insert (l : Ledger K V) (k : K) (v : V) :
    total (l.insert k v) = v + total (l.erase k) := by
  rw [total, AList.entries_insert, List.map_cons, List.sum_cons]
  rfl

/-- Crediting adds to the total. -/
@[simp] theorem total_credit (l : Ledger K V) (k : K) (v : V) :
    total (credit l k v) = total l + v := by
  rw [credit, total_insert, ← total_erase_add l k]
  ac_rfl

/-! ### Debits of ordered amounts -/

section ordered

variable [LinearOrder V] [Sub V] [CanonicallyOrderedAdd V]

@[simp] theorem amount_debit_self (l : Ledger K V) (k : K) (v : V) :
    amount (debit l k v) k = amount l k - v := by
  simp only [debit]
  split
  case isTrue h => exact amount_insert_self l k _
  case isFalse h =>
    have h0 : amount l k - v = 0 := nonpos_iff_eq_zero.1 (not_lt.1 h)
    rw [h0]
    simp [amount]

variable [OrderedSub V]

variable [IsOrderedAddMonoid V]

/-- Debiting never raises the total. -/
theorem total_debit_le (l : Ledger K V) (k : K) (v : V) : total (debit l k v) ≤ total l := by
  rw [← total_erase_add l k, debit]
  split
  · rw [total_insert, add_comm]
    gcongr
    exact tsub_le_self
  · exact le_self_add

end ordered

/-! ### Booking and releasing -/

/-- An amount booked with `b` and released by `r` is what it was before exactly if `r`
    is `b`, or if there was nothing and `r` covers `b`. -/
theorem book_release_eq_self_iff [LinearOrder V] [Sub V] [CanonicallyOrderedAdd V]
    [OrderedSub V] [IsOrderedCancelAddMonoid V] {x b r : V} :
    x + b - r = x ↔ r = b ∨ (x = 0 ∧ b ≤ r) := by
  rcases le_total r (x + b) with hle | hle
  · have hiff : x + b - r = x ↔ r = b := by
      rw [tsub_eq_iff_eq_add_of_le hle, add_right_inj]
      exact eq_comm
    rw [hiff]
    constructor
    · exact .inl
    · rintro (heq | ⟨hzero, hcovers⟩)
      · exact heq
      · rw [hzero, zero_add] at hle
        exact le_antisymm hle hcovers
  · rw [tsub_eq_zero_of_le hle]
    constructor
    · intro hzero
      right
      rw [← hzero, zero_add] at hle
      exact ⟨hzero.symm, hle⟩
    · rintro (heq | ⟨hzero, -⟩)
      · -- `x + b ≤ b` leaves nothing for `x`
        rw [heq] at hle
        have hx : x ≤ 0 := le_of_add_le_add_right (hle.trans_eq (zero_add b).symm)
        exact (nonpos_iff_eq_zero.1 hx).symm
      · exact hzero.symm

/-! ### Grouping -/

/-- A value at one key, summed over distinct keys. -/
theorem sum_single {ks : List K} (hnodup : ks.Nodup) {k : K} (hk : k ∈ ks) (v : V) :
    (ks.map fun k' => if k = k' then v else 0).sum = v := by
  induction ks with
  | nil => simp at hk
  | cons k' ks ih =>
    obtain ⟨hnew, hnodup⟩ := List.nodup_cons.mp hnodup
    rw [List.map_cons, List.sum_cons]
    by_cases heq : k = k'
    · have hrest : (ks.map fun k' => if k = k' then v else 0) = ks.map fun _ => 0 :=
        List.map_congr_left fun k'' hk'' => if_neg fun h => hnew ((heq.symm.trans h) ▸ hk'')
      rw [if_pos heq, hrest, List.map_const', List.sum_replicate, nsmul_zero, add_zero]
    · rw [if_neg heq, zero_add, ih hnodup ((List.mem_cons.mp hk).resolve_left heq)]

/-- A sum over rows is the sum, over the keys, of the sums over the rows with a key. -/
theorem sum_by_key {α : Type*} {ks : List K} (hnodup : ks.Nodup) (key : α → K) (w : α → V)
    {rows : List α} (hrows : ∀ r ∈ rows, key r ∈ ks) :
    (rows.map w).sum =
      (ks.map fun k => ((rows.filter (key · = k)).map w).sum).sum := by
  induction rows with
  | nil => simp
  | cons r rows ih =>
    have hsplit (k : K) : (((r :: rows).filter (key · = k)).map w).sum =
        (if key r = k then w r else 0) + ((rows.filter (key · = k)).map w).sum := by
      by_cases h : key r = k <;> simp [h]
    simp only [hsplit, List.sum_map_add]
    rw [sum_single hnodup (hrows r List.mem_cons_self), List.map_cons, List.sum_cons,
      ih fun r' hr' => hrows r' (List.mem_cons_of_mem _ hr')]

end Ledger
