import Mathlib.Order.Nat
import Arbiter.Framework.Prog

/-! # Budgets

  What the calls of a program can cost in all, whatever they are answered. A program
  within a budget stays within what is left of it after each call, so the amount spent
  so far and the budget of the rest add up to no more than at the start.
-/

namespace Effect

universe u v w x

variable {C : Type u} {A : C → Type v} {α β : Type w} {cost : C → ℕ}

/-- The calls of `p`, each at its cost, cost at most `n` in all. -/
def Prog.Within (cost : C → ℕ) : Prog C A α → ℕ → Prop
  | .ret _, _ => True
  | .call c k, n => cost c ≤ n ∧ ∀ a, (k a).Within cost (n - cost c)

@[simp] theorem within_ret (a : α) (n : ℕ) : (Prog.ret a : Prog C A α).Within cost n :=
  trivial

@[simp] theorem within_pure (a : α) (n : ℕ) : (pure a : Prog C A α).Within cost n :=
  trivial

@[simp] theorem within_send {c : C} {n : ℕ} :
    (Prog.send c : Prog C A (A c)).Within cost n ↔ cost c ≤ n := by
  simp [Prog.send, Prog.Within]

@[simp] theorem within_ite {c : Prop} [Decidable c] {p q : Prog C A α} {n : ℕ} :
    (if c then p else q).Within cost n ↔ (c → p.Within cost n) ∧ (¬ c → q.Within cost n) := by
  by_cases hc : c <;> simp [hc]

/-- A larger budget does as well. -/
theorem Prog.Within.mono {p : Prog C A α} {m n : ℕ} (hp : p.Within cost m) (hle : m ≤ n) :
    p.Within cost n := by
  induction p generalizing m n with
  | ret a => trivial
  | call c k ih =>
    refine ⟨hp.1.trans hle, fun a => ih a (hp.2 a) ?_⟩
    omega

/-- Budgets of a sequence add up. -/
theorem Prog.Within.bind {p : Prog C A α} {f : α → Prog C A β} {m n : ℕ} (hp : p.Within cost m)
    (hf : ∀ a, (f a).Within cost n) : (p >>= f).Within cost (m + n) := by
  induction p generalizing m with
  | ret a => exact (hf a).mono (by omega)
  | call c k ih =>
    refine ⟨hp.1.trans (by omega), fun a => ?_⟩
    have hrest := ih a (hp.2 a)
    have hle := hp.1
    rw [show m + n - cost c = m - cost c + n by omega]
    exact hrest

/-- Calls that cost nothing, then the rest. -/
theorem Prog.Within.free_bind {p : Prog C A α} {f : α → Prog C A β} {n : ℕ}
    (hp : p.Within cost 0) (hf : ∀ a, (f a).Within cost n) : (p >>= f).Within cost n := by
  simpa using hp.bind hf

/-- One call, then the rest on what is left. -/
theorem Prog.Within.call {A : C → Type w} {c : C} {f : A c → Prog C A β} {m n : ℕ} (hcost : cost c + m = n)
    (hf : ∀ a, (f a).Within cost m) : (Prog.send c >>= f).Within cost n := by
  show cost c ≤ n ∧ ∀ a, (f a).Within cost (n - cost c)
  refine ⟨by omega, fun a => (hf a).mono ?_⟩
  omega

end Effect
