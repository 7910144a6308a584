import Mathlib.Logic.Basic

/-! # Programs with External Calls

  A program is a tree of external calls: `ret a` returns, `call c k` sends `c`
  to the environment and continues with the answer. The environment is a
  relation, so an answer may be anything the relation allows.

  ## Contents

  - `Prog`: programs over a signature of calls, a monad.
  - `Env`, `Exec`: environments over a world, and the runs of a program in one.
  - `wp`: the runs' weakest precondition, with one rule per program former.
  - `Prog.Calls`: which calls a program can make, and what it keeps by that.
  - `Env.logged`: an environment that also records every call and its answer.
  - `Env.lift`: the environment whose answers are the runs of a lower program.
  - `play`: runs against a deterministic oracle, to exhibit concrete runs.
-/

namespace Effect

universe u v w x

/-! ### Programs -/

/-- Programs over calls `C`, where call `c` is answered by a value of `A c`. -/
inductive Prog (C : Type u) (A : C → Type v) (α : Type w) : Type (max u v w)
  | ret (a : α) : Prog C A α
  | call (c : C) (k : A c → Prog C A α) : Prog C A α

namespace Prog

variable {C : Type u} {A : C → Type v} {α β : Type w}

/-- Sequencing: run `p`, then `f` on what it returned. -/
def bind {α : Type w} {β : Type x} (p : Prog C A α) (f : α → Prog C A β) : Prog C A β :=
  match p with
  | ret a => f a
  | call c k => call c fun a => (k a).bind f

instance : Monad (Prog C A) where
  pure := ret
  bind := bind

/-- A single call, returning its answer. -/
def send (c : C) : Prog C A (A c) := call c ret

@[simp] theorem pure_eq (a : α) : (pure a : Prog C A α) = ret a := rfl

@[simp] theorem ret_bind (a : α) (f : α → Prog C A β) : (ret a >>= f) = f a := rfl

@[simp] theorem call_bind (c : C) (k : A c → Prog C A α) (f : α → Prog C A β) :
    (call c k >>= f) = call c fun a => k a >>= f := rfl

end Prog

open Prog

/-! ### Environments and runs -/

/-- An environment over a world `W`: how a call may be answered in a world, and
    the world afterwards. -/
structure Env (C : Type u) (A : C → Type v) (W : Type x) where
  /-- `serve w c a w'`: in `w`, call `c` may be answered `a`, leaving `w'`. -/
  serve : W → (c : C) → A c → W → Prop

variable {C : Type u} {A : C → Type v} {W : Type x} {α β : Type w}

/-- `Exec E p w a w'`: a run of `p` in `E` from `w` that returns `a` in `w'`. -/
inductive Exec (E : Env C A W) : Prog C A α → W → α → W → Prop
  | ret (a : α) (w : W) : Exec E (.ret a) w a w
  | call {c : C} {k : A c → Prog C A α} {w w' w'' : W} {a : A c} {b : α}
      (hs : E.serve w c a w') (hk : Exec E (k a) w' b w'') : Exec E (.call c k) w b w''

@[simp] theorem exec_ret {E : Env C A W} {a b : α} {w w' : W} :
    Exec E (.ret a) w b w' ↔ b = a ∧ w' = w := by
  constructor
  · intro h
    cases h
    exact ⟨rfl, rfl⟩
  · rintro ⟨rfl, rfl⟩
    exact .ret b w'

@[simp] theorem exec_call {E : Env C A W} {c : C} {k : A c → Prog C A α} {w w'' : W} {b : α} :
    Exec E (.call c k) w b w'' ↔ ∃ a w', E.serve w c a w' ∧ Exec E (k a) w' b w'' := by
  constructor
  · intro h
    cases h with
    | call hs hk => exact ⟨_, _, hs, hk⟩
  · rintro ⟨a, w', hs, hk⟩
    exact .call hs hk

theorem exec_bind {E : Env C A W} {p : Prog C A α} {f : α → Prog C A β} {w w'' : W} {b : β} :
    Exec E (p >>= f) w b w'' ↔ ∃ a w', Exec E p w a w' ∧ Exec E (f a) w' b w'' := by
  induction p generalizing w with
  | ret a =>
    simp only [ret_bind, exec_ret]
    constructor
    · intro h
      exact ⟨a, w, ⟨rfl, rfl⟩, h⟩
    · rintro ⟨_, _, ⟨rfl, rfl⟩, h⟩
      exact h
  | call c k ih =>
    simp only [call_bind, exec_call, ih]
    constructor
    · rintro ⟨a, w', hs, b', w₂, hk, hf⟩
      exact ⟨b', w₂, ⟨a, w', hs, hk⟩, hf⟩
    · rintro ⟨b', w₂, ⟨a, w', hs, hk⟩, hf⟩
      exact ⟨a, w', hs, b', w₂, hk, hf⟩

/-- One call, then the rest. -/
theorem Exec.send {A : C → Type w} {E : Env C A W} {c : C} {f : A c → Prog C A β} {w w' w'' : W}
    {a : A c} {b : β} (hs : E.serve w c a w') (hf : Exec E (f a) w' b w'') :
    Exec E (Prog.send c >>= f) w b w'' :=
  .call hs hf

/-- Where every call is answered, every program has a run. -/
theorem Exec.total {E : Env C A W} (hserve : ∀ w c, ∃ a w', E.serve w c a w') (p : Prog C A α)
    (w : W) : ∃ a w', Exec E p w a w' := by
  induction p generalizing w with
  | ret a => exact ⟨a, w, .ret a w⟩
  | call c k ih =>
    obtain ⟨a, w', hs⟩ := hserve w c
    obtain ⟨b, w'', hk⟩ := ih a w'
    exact ⟨b, w'', .call hs hk⟩

/-- What every call keeps, every run keeps. -/
theorem Exec.keeps {E : Env C A W} {J : W → Prop} {p : Prog C A α} {w w' : W} {a : α}
    (hkeep : ∀ w c a w', E.serve w c a w' → J w → J w') (h : Exec E p w a w') (hw : J w) :
    J w' := by
  induction h with
  | ret a w => exact hw
  | call hs _ ih => exact ih (hkeep _ _ _ _ hs hw)

/-! ### Weakest preconditions -/

/-- Every run of `p` from `w` ends in a result and a world that satisfy `Q`. -/
def wp (E : Env C A W) (p : Prog C A α) (Q : α → W → Prop) (w : W) : Prop :=
  ∀ a w', Exec E p w a w' → Q a w'

@[simp] theorem wp_ret {E : Env C A W} {a : α} {Q : α → W → Prop} {w : W} :
    wp E (.ret a) Q w ↔ Q a w := by
  simp [wp]

@[simp] theorem wp_pure {E : Env C A W} {a : α} {Q : α → W → Prop} {w : W} :
    wp E (pure a) Q w ↔ Q a w :=
  wp_ret

@[simp] theorem wp_call {E : Env C A W} {c : C} {k : A c → Prog C A α} {Q : α → W → Prop}
    {w : W} :
    wp E (.call c k) Q w ↔ ∀ a w', E.serve w c a w' → wp E (k a) Q w' := by
  simp only [wp, exec_call]
  constructor
  · intro h a w' hs b w'' hk
    exact h b w'' ⟨a, w', hs, hk⟩
  · rintro h b w'' ⟨a, w', hs, hk⟩
    exact h a w' hs b w'' hk

@[simp] theorem wp_send {E : Env C A W} {c : C} {Q : A c → W → Prop} {w : W} :
    wp E (send c) Q w ↔ ∀ a w', E.serve w c a w' → Q a w' := by
  simp [send]

@[simp] theorem wp_bind {E : Env C A W} {p : Prog C A α} {f : α → Prog C A β}
    {Q : β → W → Prop} {w : W} :
    wp E (p >>= f) Q w ↔ wp E p (fun a => wp E (f a) Q) w := by
  simp only [wp, exec_bind]
  constructor
  · intro h a w' hp b w'' hf
    exact h b w'' ⟨a, w', hp, hf⟩
  · rintro h b w'' ⟨a, w', hp, hf⟩
    exact h a w' hp b w'' hf

/-- The rule of consequence. -/
theorem wp_mono {E : Env C A W} {p : Prog C A α} {Q Q' : α → W → Prop} {w : W}
    (h : wp E p Q w) (hQ : ∀ a w', Q a w' → Q' a w') : wp E p Q' w :=
  fun a w' hr => hQ a w' (h a w' hr)

@[simp] theorem wp_ite {E : Env C A W} {c : Prop} [Decidable c] {p q : Prog C A α}
    {Q : α → W → Prop} {w : W} :
    wp E (if c then p else q) Q w ↔ (c → wp E p Q w) ∧ (¬ c → wp E q Q w) := by
  by_cases hc : c <;> simp [hc]

/-! ### Calls a program makes -/

/-- Every call `p` can make meets `ok`, whatever the calls before it are answered. -/
def Prog.Calls (ok : C → Prop) : Prog C A α → Prop
  | .ret _ => True
  | .call c k => ok c ∧ ∀ a, (k a).Calls ok

@[simp] theorem calls_ret {ok : C → Prop} (a : α) : (Prog.ret a : Prog C A α).Calls ok :=
  trivial

@[simp] theorem calls_pure {ok : C → Prop} (a : α) : (pure a : Prog C A α).Calls ok :=
  trivial

@[simp] theorem calls_send {ok : C → Prop} {c : C} :
    (send c : Prog C A (A c)).Calls ok ↔ ok c := by
  simp [send, Prog.Calls]

@[simp] theorem calls_ite {ok : C → Prop} {c : Prop} [Decidable c] {p q : Prog C A α} :
    (if c then p else q).Calls ok ↔ (c → p.Calls ok) ∧ (¬ c → q.Calls ok) := by
  by_cases hc : c <;> simp [hc]

theorem Prog.Calls.bind {ok : C → Prop} {p : Prog C A α} {f : α → Prog C A β}
    (hp : p.Calls ok) (hf : ∀ a, (f a).Calls ok) : (p >>= f).Calls ok := by
  induction p with
  | ret a => exact hf a
  | call c k ih => exact ⟨hp.1, fun a => ih a (hp.2 a)⟩

/-- What every allowed call keeps, a program of allowed calls keeps. -/
theorem Prog.Calls.keeps {E : Env C A W} {ok : C → Prop} {J : W → Prop} {p : Prog C A α}
    (hp : p.Calls ok) (hkeep : ∀ w c a w', ok c → E.serve w c a w' → J w → J w') {w : W}
    (hw : J w) : wp E p (fun _ => J) w := by
  induction p generalizing w with
  | ret a => exact wp_ret.2 hw
  | call c k ih =>
    rw [wp_call]
    intro a w' hs
    exact ih a (hp.2 a) (hkeep w c a w' hp.1 hs hw)

theorem Prog.Calls.mono {ok ok' : C → Prop} {p : Prog C A α} (hp : p.Calls ok)
    (h : ∀ c, ok c → ok' c) : p.Calls ok' := by
  induction p with
  | ret a => exact calls_ret a
  | call c k ih => exact ⟨h c hp.1, fun a => ih a (hp.2 a)⟩

/-- A program whose calls leave the world alone may go first. -/
theorem Prog.Calls.wp_bind {E : Env C A W} {ok : C → Prop} {p : Prog C A α}
    {f : α → Prog C A β} {Q : β → W → Prop} {w : W} (hp : p.Calls ok)
    (hstill : ∀ w c a w', ok c → E.serve w c a w' → w' = w) (hf : ∀ a, wp E (f a) Q w) :
    wp E (p >>= f) Q w := by
  have hkept : wp E p (fun _ w' => w' = w) w :=
    hp.keeps (fun w₁ c a w₂ hc hs h => (hstill w₁ c a w₂ hc hs).trans h) rfl
  refine Effect.wp_bind.2 (wp_mono hkept fun a w' h => ?_)
  rw [h]
  exact hf a

/-! ### Restricted environments -/

/-- `E` with only the calls that meet `ok` where they are made, with the answer they
    get: the runs of a program here are its runs in `E` whose calls all meet `ok`. -/
def Env.restrict (E : Env C A W) (ok : W → (c : C) → A c → Prop) : Env C A W where
  serve := fun w c a w' => ok w c a ∧ E.serve w c a w'

/-- A condition that always holds restricts nothing. -/
theorem Env.restrict_true (E : Env C A W) : (E.restrict fun _ _ _ => True) = E := by
  simp only [Env.restrict, true_and]

theorem Exec.of_restrict {E : Env C A W} {ok : W → (c : C) → A c → Prop} {p : Prog C A α}
    {w w' : W} {a : α} (h : Exec (E.restrict ok) p w a w') : Exec E p w a w' := by
  induction h with
  | ret a w => exact .ret a w
  | call hs _ ih => exact .call hs.2 ih

/-! ### Recording environments -/

/-- One call together with its answer. -/
structure Event (C : Type u) (A : C → Type v) where
  /-- What was asked. -/
  asked : C
  /-- What came back. -/
  answer : A asked

/-- `E`, with every call and its answer put on a log, newest first. -/
def Env.logged (E : Env C A W) : Env C A (W × List (Event C A)) where
  serve := fun w c a w' => E.serve w.1 c a w'.1 ∧ w'.2 = ⟨c, a⟩ :: w.2

/-! ### Layers -/

/-- Replace every call by the program that implements it. -/
def Prog.handle {D : Type u} {B : D → Type v} (h : (c : C) → Prog D B (A c)) :
    Prog C A α → Prog D B α
  | .ret a => .ret a
  | .call c k => (h c).bind fun a => (k a).handle h

/-- The environment in which a call is answered by a run of its implementation. -/
def Env.lift {D : Type u} {B : D → Type v} (E : Env D B W) (h : (c : C) → Prog D B (A c)) :
    Env C A W where
  serve := fun w c a w' => Exec E (h c) w a w'

/-! ### Deterministic runs -/

/-- An oracle answers every call in every world. -/
abbrev Oracle (C : Type u) (A : C → Type v) (W : Type x) := W → (c : C) → A c × W

/-- Run a program against an oracle. -/
def play (o : Oracle C A W) : Prog C A α → W → α × W
  | .ret a, w => (a, w)
  | .call c k, w => play o (k (o w c).1) (o w c).2

/-- An oracle that answers as the environment allows plays a run of it. -/
theorem exec_play {E : Env C A W} {o : Oracle C A W}
    (ho : ∀ w c, E.serve w c (o w c).1 (o w c).2) (p : Prog C A α) (w : W) :
    Exec E p w (play o p w).1 (play o p w).2 := by
  induction p generalizing w with
  | ret a => exact .ret a w
  | call c k ih => exact .call (ho w c) (ih _ _)

/-- What a play returns depends on the answers alone. -/
theorem play_answers (reply : (c : C) → A c) {after : W → C → W} {p : Prog C A α} {w : W} :
    (play (fun w c => (reply c, after w c)) p w).1 =
      (play (fun _ c => (reply c, ())) p ()).1 := by
  induction p generalizing w with
  | ret a => rfl
  | call c k ih => exact ih _

/-- The calls `p` makes against an oracle all pass a test, where they are made. -/
def play_passes (o : Oracle C A W) (test : W → C → Bool) : Prog C A α → W → Bool
  | .ret _, _ => true
  | .call c k, w => test w c && play_passes o test (k (o w c).1) (o w c).2

/-- Where the test implies a restriction, the play is a run under it. -/
theorem exec_play_restrict {E : Env C A W} {o : Oracle C A W}
    {ok : W → (c : C) → A c → Prop} {test : W → C → Bool}
    (ho : ∀ w c, E.serve w c (o w c).1 (o w c).2)
    (htest : ∀ w c, test w c = true → ok w c (o w c).1) {p : Prog C A α} {w : W}
    (hp : play_passes o test p w = true) :
    Exec (E.restrict ok) p w (play o p w).1 (play o p w).2 := by
  induction p generalizing w with
  | ret a => exact .ret a w
  | call c k ih =>
    simp only [play_passes, Bool.and_eq_true] at hp
    exact .call ⟨htest w c hp.1, ho w c⟩ (ih _ hp.2)

end Effect
