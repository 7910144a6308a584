import Mathlib.Data.Nat.Notation
import Arbiter.Framework.Prog

/-! # Runs that Stop

  A run that is cut off stops at a call: the call was made, and its answer is not waited for.
  What has to hold wherever a run may be cut off is told with the call it is cut off at.

  ## Contents

  - `Stops`: the runs of a program that stop at a call.
  - `Env.guard`: an environment with only some of its steps.
  - `Safe`: a condition at every call, with one rule per program former.
  - `play_stops`: a stop against a deterministic oracle, to exhibit one.
-/

namespace Effect

open Prog

universe u v w x y

variable {C : Type u} {A : C → Type v} {W : Type x} {α : Type w}

/-- `Stops E p w c w'`: a run of `p` from `w` comes to the call `c` in `w'`. -/
inductive Stops (E : Env C A W) : Prog C A α → W → C → W → Prop
  | here {c : C} {k : A c → Prog C A α} {w : W} : Stops E (.call c k) w c w
  | later {c c' : C} {k : A c → Prog C A α} {w w' w'' : W} {a : A c}
      (hs : E.serve w c a w') (hk : Stops E (k a) w' c' w'') : Stops E (.call c k) w c' w''

/-- `E`, with only the steps that meet `ok`: the call, its answer, and what it did. -/
def Env.guard (E : Env C A W) (ok : W → (c : C) → A c → W → Prop) : Env C A W where
  serve := fun w c a w' => ok w c a w' ∧ E.serve w c a w'

/-! ### A condition at every call -/

/-- From `w` on, every call is made where `I` holds, and every run ends in `Q`. -/
def Safe (E : Env C A W) (I : W → C → Prop) (Q : α → W → Prop) : Prog C A α → W → Prop
  | .ret a, w => Q a w
  | .call c k, w => I w c ∧ ∀ a w', E.serve w c a w' → Safe E I Q (k a) w'

variable {E : Env C A W} {I : W → C → Prop} {J : W → Prop}

/-- Wherever a run stops, the condition holds. -/
theorem Safe.stops {Q : α → W → Prop} {p : Prog C A α} {w w' : W} {c : C}
    (h : Safe E I Q p w) (hstop : Stops E p w c w') : I w' c := by
  induction hstop with
  | here => exact h.1
  | later hs _ ih => exact ih (h.2 _ _ hs)

/-- Where it does not, it ends as it should. -/
theorem Safe.ends {Q : α → W → Prop} {p : Prog C A α} {w : W} (h : Safe E I Q p w) :
    wp E p Q w := by
  intro a w' hrun
  induction hrun with
  | ret a w => exact h
  | call hs _ ih => exact ih (h.2 _ _ hs)

/-- What holds anyway holds at every call. -/
theorem Safe.given {P : Prop} (hP : P) {Q : α → W → Prop} {p : Prog C A α} {w : W}
    (h : Safe E I Q p w) : Safe E (fun w c => I w c ∧ P) Q p w := by
  induction p generalizing w with
  | ret a => exact h
  | call c k ih => exact ⟨⟨h.1, hP⟩, fun a w' hs => ih a (h.2 a w' hs)⟩

theorem Safe.bind {β : Type y} {Q : α → W → Prop} {R : β → W → Prop} {p : Prog C A α}
    {f : α → Prog C A β} {w : W} (hp : Safe E I Q p w)
    (hf : ∀ a w', Q a w' → Safe E I R (f a) w') : Safe E I R (p.bind f) w := by
  induction p generalizing w with
  | ret a => exact hf a w hp
  | call c k ih => exact ⟨hp.1, fun a w' hs => ih a (hp.2 a w' hs)⟩

theorem Safe.send {c : C} {Q : A c → W → Prop} {w : W} (hc : I w c)
    (hQ : ∀ a w', E.serve w c a w' → Q a w') : Safe E I Q (send c) w :=
  ⟨hc, hQ⟩

@[simp] theorem safe_ite {Q : α → W → Prop} {cond : Prop} [Decidable cond] {p q : Prog C A α}
    {w : W} : Safe E I Q (if cond then p else q) w ↔
      (cond → Safe E I Q p w) ∧ (¬ cond → Safe E I Q q w) := by
  by_cases h : cond <;> simp [h]

/-! ### What every part keeps -/

/-- The program may start wherever `J` holds, and leaves `J`. -/
def Keeps (E : Env C A W) (I : W → C → Prop) (J : W → Prop) (p : Prog C A α) : Prop :=
  ∀ w, J w → Safe E I (fun _ => J) p w

theorem Keeps.ret (a : α) : Keeps E I J (.ret a : Prog C A α) := fun _ hw => hw

theorem Keeps.bind {β : Type y} {p : Prog C A α} {f : α → Prog C A β} (hp : Keeps E I J p)
    (hf : ∀ a, Keeps E I J (f a)) : Keeps E I J (p.bind f) :=
  fun w hw => (hp w hw).bind fun a w' hw' => hf a w' hw'

@[simp] theorem keeps_ite {cond : Prop} [Decidable cond] {p q : Prog C A α} :
    Keeps E I J (if cond then p else q) ↔
      (cond → Keeps E I J p) ∧ (¬ cond → Keeps E I J q) := by
  by_cases h : cond <;> simp [h]

/-- A program whose calls are allowed and keep `J`. -/
theorem Prog.Calls.keeps_all {ok : C → Prop} {p : Prog C A α} (hp : p.Calls ok)
    (hI : ∀ w c, ok c → J w → I w c) (hkeep : ∀ w c a w', ok c → E.serve w c a w' → J w → J w') :
    Keeps E I J p := by
  induction p with
  | ret a => exact .ret a
  | call c k ih =>
      intro w hw
      exact ⟨hI w c hp.1 hw, fun a w' hs => ih a (hp.2 a) w' (hkeep w c a w' hp.1 hs hw)⟩

/-- A program whose calls are implemented by programs that keep `J`. -/
theorem Keeps.handle {D : Type u} {B : D → Type v} {I : W → D → Prop} {E : Env D B W}
    {ok : C → Prop} {h : (c : C) → Prog D B (A c)} {p : Prog C A α} (hp : p.Calls ok)
    (hh : ∀ c, ok c → Keeps E I J (h c)) : Keeps E I J (p.handle h) := by
  induction p with
  | ret a => exact .ret a
  | call c k ih => exact (hh c hp.1).bind fun a => ih a (hp.2 a)

/-! ### Stops of a deterministic run -/

/-- Where the run against an oracle is after `n` answers, if it makes another call. -/
def play_stops (o : Oracle C A W) : ℕ → Prog C A α → W → Option (C × W)
  | _, .ret _, _ => none
  | 0, .call c _, w => some (c, w)
  | n + 1, .call c k, w => play_stops o n (k (o w c).1) (o w c).2

/-- Where the calls up to there pass a test, that the environment allows. -/
def play_passes_until (o : Oracle C A W) (test : W → C → Bool) :
    ℕ → Prog C A α → W → Bool
  | _, .ret _, _ => true
  | 0, .call .., _ => true
  | n + 1, .call c k, w => test w c && play_passes_until o test n (k (o w c).1) (o w c).2

theorem stops_of_play {o : Oracle C A W} {test : W → C → Bool}
    (ho : ∀ w c, test w c = true → E.serve w c (o w c).1 (o w c).2) {n : ℕ} {p : Prog C A α}
    {w w' : W} {c : C} (hpass : play_passes_until o test n p w = true)
    (hstop : play_stops o n p w = some (c, w')) : Stops E p w c w' := by
  induction n generalizing p w with
  | zero =>
      cases p with
      | ret a => cases hstop
      | call c₀ k =>
          obtain ⟨rfl, rfl⟩ := Prod.mk.inj (Option.some.inj hstop)
          exact .here
  | succ n ih =>
      cases p with
      | ret a => cases hstop
      | call c₀ k =>
          simp only [play_passes_until, Bool.and_eq_true] at hpass
          exact .later (ho w c₀ hpass.1) (ih hpass.2 hstop)

end Effect
