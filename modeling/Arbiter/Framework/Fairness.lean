import Mathlib.Data.Nat.Find
import Arbiter.Framework.Prog
import Arbiter.Framework.System

/-! # Fair Runs

  Infinite runs of a system, and the rule by which something comes about in them: a
  kind of step that is wanted until then, is taken sooner or later, and brings the
  goal nearer each time, while no other step takes it further away.

  ## Contents

  - `Run`, `Run.Fair`: infinite runs, and weak fairness to a kind of step.
  - `Run.comes_about`: the rule, over a well-founded rank.
  - `Eased`, `eased_wf`: the rank of a program that somebody runs or has run.
-/

namespace LTS

universe u v w

variable {σ : Type u} {ι : Type v} {sys : System σ ι}

/-! ### Runs -/

/-- An infinite run, from anywhere. -/
structure Run (sys : System σ ι) where
  state : ℕ → σ
  label : ℕ → ι
  step : ∀ n, sys.step (state n) (label n) (state (n + 1))

/-- Weak fairness: steps of a kind that stay wanted are taken. -/
def Run.Fair (r : Run sys) (wanted : σ → Prop) (kind : ι → Prop) : Prop :=
  ∀ n, (∀ m, n ≤ m → wanted (r.state m)) → ∃ m, n ≤ m ∧ kind (r.label m)

/-! ### Progress -/

section progress

variable {T : Type w} {nearer : T → T → Prop} {wanted goal : σ → Prop} {kind : ι → Prop}
  {waits : T → σ → Prop}

/-- Until a step of the kind is taken, the rank stays or the goal is reached. -/
private theorem Run.waits_until (r : Run sys)
    (hother : ∀ t s l s', waits t s → sys.step s l s' → ¬ kind l → goal s' ∨ waits t s')
    {t : T} {n : ℕ} (hn : waits t (r.state n)) :
    ∀ k, (∀ m, n ≤ m → m < n + k → ¬ kind (r.label m)) →
      (∃ m, n ≤ m ∧ goal (r.state m)) ∨ waits t (r.state (n + k)) := by
  intro k
  induction k with
  | zero => exact fun _ => .inr hn
  | succ k ih =>
    intro hnone
    have hbefore : ∀ m, n ≤ m → m < n + k → ¬ kind (r.label m) := by
      intro m hle hlt
      exact hnone m hle (by omega)
    rcases ih hbefore with hgoal | hwaits
    · exact .inl hgoal
    · have hlast := hnone (n + k) (by omega) (by omega)
      rcases hother t _ _ _ hwaits (r.step (n + k)) hlast with hgoal | hstill
      · exact .inl ⟨n + k + 1, by omega, hgoal⟩
      · exact .inr hstill

/-- The rule. -/
theorem Run.comes_about (r : Run sys) (hwf : WellFounded nearer) (hfair : r.Fair wanted kind)
    (hwanted : ∀ t s, waits t s → wanted s)
    (hother : ∀ t s l s', waits t s → sys.step s l s' → ¬ kind l → goal s' ∨ waits t s')
    (hkind : ∀ t s l s', waits t s → sys.step s l s' → kind l →
      goal s' ∨ ∃ t', nearer t' t ∧ waits t' s')
    {t : T} {n : ℕ} (hn : waits t (r.state n)) : ∃ m, n ≤ m ∧ goal (r.state m) := by
  induction t using hwf.induction generalizing n with
  | _ t ih =>
    by_cases hgoal : ∃ m, n ≤ m ∧ goal (r.state m)
    · exact hgoal
    · have huntil := r.waits_until hother hn
      -- some step of the kind is taken: otherwise it stays wanted for good
      have htaken : ∃ m, n ≤ m ∧ kind (r.label m) := by
        by_contra hnone
        have hnever : ∀ m, n ≤ m → ¬ kind (r.label m) := fun m hle hk => hnone ⟨m, hle, hk⟩
        apply hnone
        apply hfair n
        intro m hle
        obtain ⟨k, rfl⟩ := Nat.exists_eq_add_of_le hle
        rcases huntil k (fun m' hle' _ => hnever m' hle') with h | hwaits
        · exact absurd h hgoal
        · exact hwanted t _ hwaits
      classical
      -- the first one brings the goal nearer
      obtain ⟨k, hk⟩ : ∃ k, kind (r.label (n + k)) := by
        obtain ⟨m, hle, hm⟩ := htaken
        obtain ⟨k, rfl⟩ := Nat.exists_eq_add_of_le hle
        exact ⟨k, hm⟩
      have hex : ∃ k, kind (r.label (n + k)) := ⟨k, hk⟩
      have hfirst : ∀ m, n ≤ m → m < n + Nat.find hex → ¬ kind (r.label m) := by
        intro m hle hlt hm
        obtain ⟨j, rfl⟩ := Nat.exists_eq_add_of_le hle
        exact Nat.find_min hex (by omega) hm
      rcases huntil (Nat.find hex) hfirst with h | hwaits
      · exact h
      · rcases hkind t _ _ _ hwaits (r.step _) (Nat.find_spec hex) with h | ⟨t', hnear, hwaits'⟩
        · exact ⟨n + Nat.find hex + 1, by omega, h⟩
        · obtain ⟨m, hle, hm⟩ := ih t' hnear hwaits'
          exact ⟨m, by omega, hm⟩

end progress

/-! ### Programs as ranks -/

section eased

open Effect

universe x

variable {C : Type u} {A : C → Type v} {α : Type x}

/-- One call fewer to make, or nobody left who makes any. -/
inductive Eased : Option (Prog C A α) → Option (Prog C A α) → Prop
  | answer (c : C) (k : A c → Prog C A α) (a : A c) : Eased (some (k a)) (some (.call c k))
  | release (p : Prog C A α) : Eased none (some p)

theorem eased_wf : WellFounded (Eased : Option (Prog C A α) → Option (Prog C A α) → Prop) := by
  have hnone : Acc Eased (none : Option (Prog C A α)) := ⟨_, fun _ h => nomatch h⟩
  have hsome : ∀ p : Prog C A α, Acc Eased (some p) := by
    intro p
    induction p with
    | ret a =>
      constructor
      intro _ h
      cases h with
      | release => exact hnone
    | call c k ih =>
      constructor
      intro _ h
      cases h with
      | answer c k a => exact ih a
      | release => exact hnone
  constructor
  intro holder
  cases holder with
  | none => exact hnone
  | some p => exact hsome p

end eased

end LTS
