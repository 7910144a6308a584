import Mathlib.Data.Prod.Lex
import Mathlib.Data.List.Sort

/-! # Ordered Answers

  A query with an order answers its rows sorted by a key. Rows with one key may come in
  any order, so what a reader takes from the answer is certain only where the keys
  decide it.
-/

namespace Query

universe u v

variable {α : Type u} {T : Type v} [LinearOrder T]

/-- `answer` lists `rows`, the lower keys first. -/
def Answers (t : α → T) (rows answer : List α) : Prop :=
  answer.Perm rows ∧ answer.Pairwise fun a b => t a ≤ t b

/-- The last row that meets `p`. -/
def last (p : α → Bool) (answer : List α) : Option α := (answer.filter p).getLast?

/-- A query has an answer. -/
theorem exists_answers (t : α → T) (rows : List α) : ∃ answer, Answers t rows answer := by
  refine ⟨rows.mergeSort fun a b => decide (t a ≤ t b), List.mergeSort_perm _ _, ?_⟩
  have hsorted : (rows.mergeSort fun a b => decide (t a ≤ t b)).Pairwise
      fun a b => decide (t a ≤ t b) = true := by
    refine List.pairwise_mergeSort ?_ ?_ rows
    · exact fun a b c hab hbc =>
        decide_eq_true ((of_decide_eq_true hab).trans (of_decide_eq_true hbc))
    · exact fun a b => by simpa using le_total (t a) (t b)
  exact hsorted.imp fun h => of_decide_eq_true h

theorem last_mem {p : α → Bool} {answer : List α} {a : α} (h : last p answer = some a) :
    a ∈ answer ∧ p a = true :=
  List.mem_filter.mp (List.mem_of_getLast? h)

@[simp] theorem last_nil (p : α → Bool) : last p [] = none := rfl

/-- A row at the end is the last one, if it meets `p`. -/
theorem last_concat (p : α → Bool) (answer : List α) (a : α) :
    last p (answer ++ [a]) = if p a then some a else last p answer := by
  unfold last
  rw [List.filter_append]
  split
  · next hp => simp [hp]
  · next hp => simp [hp]

/-- Rows may be left out before. -/
theorem last_filter (p q : α → Bool) (answer : List α) :
    last p (answer.filter q) = last (fun a => p a && q a) answer := by
  rw [last, List.filter_filter, last]

/-- The other rows that meet `p` stand before the last one. -/
theorem last_after {R : α → α → Prop} {p : α → Bool} {answer : List α} {a b : α}
    (hsorted : answer.Pairwise R) (h : last p answer = some a) (hb : b ∈ answer)
    (hp : p b = true) (hne : b ≠ a) : R b a := by
  obtain ⟨init, hinit⟩ := List.getLast?_eq_some_iff.mp h
  have hpairwise : (init ++ [a]).Pairwise R := hinit ▸ hsorted.filter p
  have hmem : b ∈ init ++ [a] := hinit ▸ List.mem_filter.mpr ⟨hb, hp⟩
  have hbefore : b ∈ init := by simpa [hne] using hmem
  exact (List.pairwise_append.mp hpairwise).2.2 b hbefore a (List.mem_singleton_self a)

/-- A row is the last one in every answer exactly where its key is above those of the
    other rows that meet `p`. -/
theorem last_in_every_answer_iff {t : α → T} {p : α → Bool} {rows : List α}
    {a : α} (ha : a ∈ rows) :
    (∀ answer, Answers t rows answer → last p answer = some a) ↔
      p a = true ∧ ∀ b ∈ rows, p b = true → b ≠ a → t b < t a := by
  classical
  constructor
  · intro h
    refine ⟨?_, fun b hb hpb hne => ?_⟩
    · obtain ⟨answer, hanswer⟩ := exists_answers t rows
      exact (last_mem (h answer hanswer)).2
    · -- among equal keys, this answer lists `b` at the end
      obtain ⟨answer, hperm, hsorted⟩ := exists_answers (fun r => toLex (t r, decide (r = b))) rows
      have hanswer : Answers t rows answer := by
        refine ⟨hperm, hsorted.imp fun {r s} hle => ?_⟩
        obtain hlt | ⟨heq, -⟩ := Prod.Lex.le_iff.mp hle
        · exact hlt.le
        · exact heq.le
      have hbefore := last_after hsorted (h answer hanswer) (hperm.mem_iff.mpr hb) hpb hne
      obtain hlt | ⟨-, hlast⟩ := Prod.Lex.le_iff.mp hbefore
      · exact hlt
      · simp only [hne.symm, decide_true, decide_false] at hlast
        exact absurd (show true ≤ false from hlast) (by decide)
  · rintro ⟨hpa, hlatest⟩ answer ⟨hperm, hsorted⟩
    have hne : answer.filter p ≠ [] :=
      List.ne_nil_of_mem (List.mem_filter.mpr ⟨hperm.mem_iff.mpr ha, hpa⟩)
    obtain ⟨c, hc⟩ : ∃ c, last p answer = some c :=
      Option.ne_none_iff_exists'.mp (mt List.getLast?_eq_none_iff.mp hne)
    obtain ⟨hmem, hpc⟩ := last_mem hc
    by_cases hca : c = a
    · rw [← hca]
      exact hc
    · have hlt := hlatest c (hperm.mem_iff.mp hmem) hpc hca
      have hle := last_after hsorted hc (hperm.mem_iff.mpr ha) hpa (Ne.symm hca)
      exact absurd hle (not_le.mpr hlt)

/-- A row that few rows come before or tie with is among the first ones of any answer. -/
theorem mem_take_of_few {t : α → T} {rows answer : List α} {a : α} {n : ℕ}
    (hanswer : Answers t rows answer) (ha : a ∈ rows)
    (hfew : (rows.filter fun b => t b ≤ t a).length ≤ n) : a ∈ answer.take n := by
  obtain ⟨hperm, hsorted⟩ := hanswer
  have hmem : a ∈ answer.take n ++ answer.drop n := by
    rw [List.take_append_drop]
    exact hperm.mem_iff.mpr ha
  obtain htake | hdrop := List.mem_append.mp hmem
  · exact htake
  · -- otherwise the first `n` rows and `a` itself are too many
    have hbefore : ∀ b ∈ answer.take n, t b ≤ t a := by
      rw [← List.take_append_drop n answer] at hsorted
      exact fun b hb => (List.pairwise_append.mp hsorted).2.2 b hb a hdrop
    have hlength : (answer.take n).length = n := by
      have hlong : answer.drop n ≠ [] := List.ne_nil_of_mem hdrop
      rw [ne_eq, List.drop_eq_nil_iff, not_le] at hlong
      exact List.length_take_of_le hlong.le
    have hsplit : (answer.filter fun b => t b ≤ t a) =
        answer.take n ++ (answer.drop n).filter fun b => t b ≤ t a := by
      conv_lhs => rw [← List.take_append_drop n answer]
      rw [List.filter_append]
      congr 1
      exact List.filter_eq_self.mpr fun b hb => decide_eq_true (hbefore b hb)
    have hself : 0 < ((answer.drop n).filter fun b => t b ≤ t a).length :=
      List.length_pos_of_mem (List.mem_filter.mpr ⟨hdrop, decide_eq_true le_rfl⟩)
    have hcount := (hperm.filter fun b => t b ≤ t a).length_eq
    rw [hsplit, List.length_append, hlength] at hcount
    omega

end Query
