import Arbiter.Framework.Prog
import Arbiter.Framework.System

/-! # Cooperative Tasks

  A task of a single-threaded event loop: a program that the other tasks interrupt only
  while it waits for an answer. A call that does not suspend is answered with nobody in
  between; what a suspending call does to the world it does when it is made, and others
  act while its caller waits.

  ## Contents

  - `Task`, `cooperative`: the states and the interleaved steps.
  - `Yields`: what a task keeps whatever the others do while it waits, with a rule per
    former.
  - `cooperative_invariant`: the rule for every reachable state.
-/

namespace Effect

open LTS

universe u v w x

variable {C : Type u} {A : C → Type v} {W : Type x} {α β : Type w}

/-! ### States and steps -/

/-- A world, the rest of the task's program if it runs, and whether it waits. -/
structure Task (C : Type u) (A : C → Type v) (W : Type x) (α : Type w) where
  world : W
  running : Option (Prog C A α)
  waiting : Bool

/-- What can happen next. -/
inductive Turn
  /-- The task begins. -/
  | enter
  /-- Its next call is made. -/
  | call
  /-- The event loop gives it control again. -/
  | resume
  /-- It is done, and leaves its result in the world. -/
  | leave
  /-- Another task acts. -/
  | other

/-- The interleavings of one task, run again and again, with the steps `others` take
    while it waits or does not run. -/
def cooperative (E : Env C A W) (suspends : C → Bool) (body : W → Prog C A α)
    (store : α → W → W) (others : W → W → Prop) (start : W → Prop) :
    System (Task C A W α) Turn where
  init := fun s => start s.world ∧ s.running = none ∧ s.waiting = false
  step := fun s turn s' =>
    match turn with
    | .enter => s.running = none ∧ s' = ⟨s.world, some (body s.world), false⟩
    | .call => s.waiting = false ∧ ∃ c k a, s.running = some (.call c k) ∧
        E.serve s.world c a s'.world ∧ s'.running = some (k a) ∧ s'.waiting = suspends c
    | .resume => s.waiting = true ∧ s' = { s with waiting := false }
    | .leave => s.waiting = false ∧ ∃ a, s.running = some (.ret a) ∧
        s' = ⟨store a s.world, none, false⟩
    | .other => (s.running = none ∨ s.waiting = true) ∧ others s.world s'.world ∧
        s'.running = s.running ∧ s'.waiting = s.waiting

/-- A task may run to its end with nobody in between. -/
theorem Reachable.runs {E : Env C A W} {suspends : C → Bool} {body : W → Prog C A α}
    {store : α → W → W} {others : W → W → Prop} {start : W → Prop} {p : Prog C A α} {w w' : W}
    {a : α} (hr : Reachable (cooperative E suspends body store others start) ⟨w, some p, false⟩)
    (h : Exec E p w a w') :
    Reachable (cooperative E suspends body store others start) ⟨store a w', none, false⟩ := by
  induction h with
  | ret a w => exact hr.step (l := .leave) ⟨rfl, a, rfl, rfl⟩
  | @call c k w w₁ w₂ a b hs _ ih =>
    have hcalled : Reachable (cooperative E suspends body store others start)
        ⟨w₁, some (k a), suspends c⟩ := hr.step (l := .call) ⟨rfl, c, k, a, rfl, hs, rfl, rfl⟩
    apply ih
    by_cases hc : suspends c = true
    · rw [hc] at hcalled
      exact hcalled.step (l := .resume) ⟨rfl, rfl⟩
    · rwa [Bool.eq_false_iff.2 hc] at hcalled

/-! ### What a task keeps -/

/-- From `w` on, with `rely` while the task waits: every world it makes satisfies `J`, and
    the result and the last one satisfy `Q`. -/
def Yields (E : Env C A W) (suspends : C → Bool) (rely : W → W → Prop) (J : W → Prop)
    (Q : α → W → Prop) : Prog C A α → W → Prop
  | .ret a, w => Q a w
  | .call c k, w => ∀ a w₁, E.serve w c a w₁ → J w₁ ∧
      (suspends c = false → Yields E suspends rely J Q (k a) w₁) ∧
      (suspends c = true → ∀ w₂, rely w₁ w₂ → Yields E suspends rely J Q (k a) w₂)

section rules

variable {E : Env C A W} {suspends : C → Bool} {rely : W → W → Prop} {J : W → Prop}
         {Q : α → W → Prop}

@[simp] theorem yields_ret {a : α} {w : W} :
    Yields E suspends rely J Q (.ret a) w ↔ Q a w := Iff.rfl

@[simp] theorem yields_pure {a : α} {w : W} :
    Yields E suspends rely J Q (pure a) w ↔ Q a w := Iff.rfl

@[simp] theorem yields_ite {c : Prop} [Decidable c] {p q : Prog C A α} {w : W} :
    Yields E suspends rely J Q (if c then p else q) w ↔
      (c → Yields E suspends rely J Q p w) ∧ (¬ c → Yields E suspends rely J Q q w) := by
  by_cases hc : c <;> simp [hc]

/-- Sequencing. -/
theorem Yields.bind {p : Prog C A α} {f : α → Prog C A β} {R : β → W → Prop} {w : W}
    (hp : Yields E suspends rely J Q p w)
    (hf : ∀ a w', Q a w' → Yields E suspends rely J R (f a) w') :
    Yields E suspends rely J R (p >>= f) w := by
  induction p generalizing w with
  | ret a => exact hf a w hp
  | call c k ih =>
    intro a w₁ hs
    obtain ⟨hJ, hsync, hwait⟩ := hp a w₁ hs
    exact ⟨hJ, fun hc => ih a (hsync hc), fun hc w₂ hr => ih a (hwait hc w₂ hr)⟩

/-- A call that does not suspend. -/
theorem yields_sync {c : C} {Q : A c → W → Prop} {w : W} (hc : suspends c = false)
    (h : ∀ a w₁, E.serve w c a w₁ → J w₁ ∧ Q a w₁) :
    Yields E suspends rely J Q (Prog.send c) w := by
  intro a w₁ hs
  obtain ⟨hJ, hQ⟩ := h a w₁ hs
  refine ⟨hJ, fun _ => hQ, fun hsuspends => ?_⟩
  rw [hc] at hsuspends
  exact absurd hsuspends (by decide)

/-- A program whose calls keep `J`, and so do the others. -/
theorem Prog.Calls.yields {ok : C → Prop} {p : Prog C A α} {w : W} (hp : p.Calls ok) (hw : J w)
    (hrely : ∀ w w', J w → rely w w' → J w')
    (hkeep : ∀ w c a w', ok c → J w → E.serve w c a w' → J w') :
    Yields E suspends rely J (fun _ => J) p w := by
  induction p generalizing w with
  | ret a => exact hw
  | call c k ih =>
    intro a w₁ hs
    have hJ := hkeep w c a w₁ hp.1 hw hs
    exact ⟨hJ, fun _ => ih a (hp.2 a) hJ, fun _ w₂ hr => ih a (hp.2 a) (hrely w₁ w₂ hJ hr)⟩

/-! ### Invariants -/

/-- What the others keep, and the task yields from any world in which it may begin, holds
    in every reachable state. -/
theorem cooperative_invariant {body : W → Prog C A α} {store : α → W → W}
    {others : W → W → Prop} {start : W → Prop} (hrefl : ∀ w, rely w w)
    (hothers : ∀ w₁ w₂ w₃, others w₁ w₂ → rely w₂ w₃ → rely w₁ w₃)
    (hstart : ∀ w, start w → J w) (hkept : ∀ w w', J w → others w w' → J w')
    (hbody : ∀ w, J w → Yields E suspends rely J (fun a w' => J (store a w')) (body w) w) :
    Invariant (cooperative E suspends body store others start) (fun s => J s.world) := by
  -- while the task waits, its rest yields from any world the others may lead to
  have hinv : Invariant (cooperative E suspends body store others start) (fun s =>
      J s.world ∧ ∀ p, s.running = some p → if s.waiting then
          ∀ w, rely s.world w → Yields E suspends rely J (fun a w' => J (store a w')) p w
        else Yields E suspends rely J (fun a w' => J (store a w')) p s.world) := by
    apply Invariant.of_step
    · rintro ⟨w, running, waiting⟩ ⟨hw, hnone, -⟩
      refine ⟨hstart w hw, fun p hp => ?_⟩
      rw [hnone] at hp
      exact absurd hp (by simp)
    · rintro ⟨w, running, waiting⟩ turn ⟨w', running', waiting'⟩ ⟨hJ, hs⟩ hstep
      cases turn with
      | enter =>
        obtain ⟨-, heq⟩ := hstep
        cases heq
        refine ⟨hJ, fun p hp => ?_⟩
        cases hp
        exact hbody w hJ
      | call =>
        obtain ⟨hawake, c, k, a, hp, hserve, hp', hsuspends⟩ := hstep
        have hyields := hs _ hp
        simp only at hawake hsuspends hp' hserve
        rw [if_neg (by simp [hawake])] at hyields
        obtain ⟨hJ', hsync, hwait⟩ := hyields a w' hserve
        refine ⟨hJ', fun p hp => ?_⟩
        simp only at hp
        rw [hp'] at hp
        cases hp
        rw [hsuspends]
        by_cases hc : suspends c = true
        · rw [if_pos hc]
          exact hwait hc
        · rw [if_neg hc]
          exact hsync (by simpa using hc)
      | resume =>
        obtain ⟨hwaits, heq⟩ := hstep
        cases heq
        refine ⟨hJ, fun p hp => ?_⟩
        have hyields := hs p hp
        simp only at hwaits
        rw [if_pos hwaits] at hyields
        exact hyields w (hrefl w)
      | leave =>
        obtain ⟨hawake, a, hp, heq⟩ := hstep
        cases heq
        have hyields := hs _ hp
        simp only at hawake
        rw [if_neg (by simp [hawake])] at hyields
        exact ⟨hyields, fun p hp => absurd hp (by simp)⟩
      | other =>
        obtain ⟨hfree, ho, hp', hwaiting⟩ := hstep
        simp only at ho hp' hwaiting hfree
        subst hp' hwaiting
        refine ⟨hkept w w' hJ ho, fun p hp => ?_⟩
        have hyields := hs p hp
        simp only at hp
        have hwaits : waiting' = true := hfree.resolve_left (by simp [hp])
        simp only [hwaits, if_true] at hyields ⊢
        exact fun w₂ hr => hyields w₂ (hothers w w' w₂ ho hr)
  intro s hr
  exact (hinv s hr).1

end rules

end Effect
