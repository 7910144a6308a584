import Arbiter.Framework.Prog
import Arbiter.Framework.System

/-! # Monitors

  A lock that one program holds at a time, over a world that others may change
  between any two of the holder's calls. Programs that wait for the lock have done
  nothing yet, so the world and the holder are the whole state.

  ## Contents

  - `Locked`, `monitor`: the states and the interleaved steps.
  - `Env.amid`: the holder's environment, with the others acting between its calls.
  - `Guards`: what a holder keeps whatever the others do, with a rule per former.
  - `monitor_invariant`: the rule for every reachable state.
-/

namespace Effect

open LTS

universe u v w x

variable {C : Type u} {A : C → Type v} {W : Type x} {α β : Type w}

/-! ### States and steps -/

/-- A world and the rest of the program that holds the lock, if one does. -/
structure Locked (C : Type u) (A : C → Type v) (W : Type x) (α : Type w) where
  world : W
  holder : Option (Prog C A α)

/-- What can happen next. -/
inductive Move (ι : Type*)
  /-- A request takes the free lock. -/
  | enter (request : ι)
  /-- The holder's next call is answered. -/
  | answer
  /-- The holder is done and releases the lock. -/
  | leave
  /-- Somebody else acts. -/
  | other

/-- The interleavings of requests `ι`, served one at a time by their programs, with
    the steps `others` takes at any moment. -/
def monitor {ι : Type*} (E : Env C A W) (body : ι → Prog C A α) (others : W → W → Prop)
    (start : W → Prop) : System (Locked C A W α) (Move ι) where
  init := fun s => start s.world ∧ s.holder = none
  step := fun s m s' =>
    match m with
    | .enter request => s.holder = none ∧ s' = { s with holder := some (body request) }
    | .answer => ∃ c k a, s.holder = some (.call c k) ∧ E.serve s.world c a s'.world ∧
        s'.holder = some (k a)
    | .leave => ∃ a, s.holder = some (.ret a) ∧ s' = { s with holder := none }
    | .other => others s.world s'.world ∧ s'.holder = s.holder

/-- A holder may run to its end with nobody in between. -/
theorem Reachable.finish {ι : Type*} {E : Env C A W} {body : ι → Prog C A α}
    {others : W → W → Prop} {start : W → Prop} {p : Prog C A α} {w w' : W} {a : α}
    (hr : Reachable (monitor E body others start) ⟨w, some p⟩) (h : Exec E p w a w') :
    Reachable (monitor E body others start) ⟨w', none⟩ := by
  induction h with
  | ret a w => exact hr.step (l := .leave) ⟨a, rfl, rfl⟩
  | call hs _ ih => exact ih (hr.step (l := .answer) ⟨_, _, _, rfl, hs, rfl⟩)

/-- A request may be served with nobody in between. -/
theorem Reachable.request {ι : Type*} {E : Env C A W} {body : ι → Prog C A α}
    {others : W → W → Prop} {start : W → Prop} {w w' : W} {a : α} (request : ι)
    (hr : Reachable (monitor E body others start) ⟨w, none⟩)
    (h : Exec E (body request) w a w') :
    Reachable (monitor E body others start) ⟨w', none⟩ :=
  Reachable.finish (hr.step (l := .enter request) ⟨rfl, rfl⟩) h

/-- `E`, with `rely` before every call. -/
def Env.amid (E : Env C A W) (rely : W → W → Prop) : Env C A W where
  serve := fun w c a w' => ∃ w₁, rely w w₁ ∧ E.serve w₁ c a w'

/-! ### What a holder guards -/

/-- From `w` on, with `rely` between any two calls: every world satisfies `J`, and the
    result and the last one satisfy `Q`. -/
def Guards (E : Env C A W) (rely : W → W → Prop) (J : W → Prop) (Q : α → W → Prop) :
    Prog C A α → W → Prop
  | .ret a, w => ∀ w₁, rely w w₁ → J w₁ ∧ Q a w₁
  | .call c k, w => ∀ w₁, rely w w₁ → J w₁ ∧ ∀ a w', E.serve w₁ c a w' → Guards E rely J Q (k a) w'

variable {E : Env C A W} {rely : W → W → Prop} {J : W → Prop} {Q Q' : α → W → Prop}

/-- A guarded world satisfies `J`. -/
theorem Guards.here (hrefl : ∀ w, rely w w) {p : Prog C A α} {w : W}
    (h : Guards E rely J Q p w) : J w := by
  cases p with
  | ret a => exact (h w (hrefl w)).1
  | call c k => exact (h w (hrefl w)).1

/-- What others do does not unguard a world. -/
theorem Guards.meanwhile (htrans : ∀ w₁ w₂ w₃, rely w₁ w₂ → rely w₂ w₃ → rely w₁ w₃)
    {p : Prog C A α} {w w' : W} (h : Guards E rely J Q p w) (hr : rely w w') :
    Guards E rely J Q p w' := by
  cases p with
  | ret a => exact fun w₁ hr₁ => h w₁ (htrans _ _ _ hr hr₁)
  | call c k => exact fun w₁ hr₁ => h w₁ (htrans _ _ _ hr hr₁)

/-- A call from a world where `K` holds, which the others keep. -/
theorem guards_call_of {K : W → Prop} {c : C} {k : A c → Prog C A α} {w : W} (hw : K w)
    (hrely : ∀ w w', K w → rely w w' → K w') (hJ : ∀ w, K w → J w)
    (h : ∀ w₁ a w', K w₁ → E.serve w₁ c a w' → Guards E rely J Q (k a) w') :
    Guards E rely J Q (.call c k) w := by
  intro w₁ hr
  have hk := hrely w w₁ hw hr
  exact ⟨hJ w₁ hk, fun a w' hs => h w₁ a w' hk hs⟩

/-- A program whose calls, and the others, keep `K`. -/
theorem Prog.Calls.guards {ok : C → Prop} {K : W → Prop} {p : Prog C A α} {w : W}
    (hp : p.Calls ok) (hw : K w) (hrely : ∀ w w', K w → rely w w' → K w')
    (hJ : ∀ w, K w → J w) (hkeep : ∀ w c a w', ok c → K w → E.serve w c a w' → K w') :
    Guards E rely J (fun _ => K) p w := by
  induction p generalizing w with
  | ret a =>
    intro w₁ hr
    have hk := hrely w w₁ hw hr
    exact ⟨hJ w₁ hk, hk⟩
  | call c k ih =>
    intro w₁ hr
    have hk := hrely w w₁ hw hr
    exact ⟨hJ w₁ hk, fun a w' hs => ih a (hp.2 a) (hkeep w₁ c a w' hp.1 hk hs)⟩

/-- Sequencing. -/
theorem Guards.bind {p : Prog C A α} {f : α → Prog C A β} {R : β → W → Prop} {w : W}
    (hp : Guards E rely J Q p w) (hrefl : ∀ w, rely w w)
    (hf : ∀ a w', J w' → Q a w' → Guards E rely J R (f a) w') :
    Guards E rely J R (p >>= f) w := by
  induction p generalizing w with
  | ret a =>
    have hret := hp w (hrefl w)
    exact hf a w hret.1 hret.2
  | call c k ih =>
    intro w₁ hr
    obtain ⟨hj, hk⟩ := hp w₁ hr
    exact ⟨hj, fun a w' hs => ih a (hk a w' hs)⟩

/-! ### Invariants of a monitor -/

/-- If every body guards `J` from a quiet world and leaves a quiet one, `J` holds in
    every reachable state, and every state with a free lock is quiet. -/
theorem monitor_invariant {ι : Type*} {body : ι → Prog C A α} {others : W → W → Prop}
    {start quiet : W → Prop} (hrefl : ∀ w, rely w w)
    (htrans : ∀ w₁ w₂ w₃, rely w₁ w₂ → rely w₂ w₃ → rely w₁ w₃)
    (hothers : ∀ w w', others w w' → rely w w') (hstart : ∀ w, start w → quiet w)
    (hquiet : ∀ w, quiet w → J w) (hkept : ∀ w w', quiet w → others w w' → quiet w')
    (hbody : ∀ request w, quiet w → Guards E rely J (fun _ => quiet) (body request) w) :
    Invariant (monitor E body others start)
      (fun s => J s.world ∧ (s.holder = none → quiet s.world)) := by
  -- while a request holds the lock, what is left of it is guarded; else the state is quiet
  have hinv : Invariant (monitor E body others start) (fun s =>
      match s.holder with
      | none => quiet s.world
      | some p => Guards E rely J (fun _ => quiet) p s.world) := by
    apply Invariant.of_step
    · rintro ⟨w, holder⟩ ⟨hw, rfl⟩
      exact hstart w hw
    · rintro ⟨w, holder⟩ m ⟨w', holder'⟩ hs hstep
      cases m with
      | enter request =>
        obtain ⟨rfl, heq⟩ := hstep
        cases heq
        exact hbody request w hs
      -- the holder goes on from the answer: one step of its guard
      | answer =>
        obtain ⟨c, k, a, rfl, hserve, rfl⟩ := hstep
        exact (hs w (hrefl w)).2 a w' hserve
      | leave =>
        obtain ⟨a, rfl, heq⟩ := hstep
        cases heq
        exact (hs w (hrefl w)).2
      -- the others may move at any time, in or out of the lock
      | other =>
        obtain ⟨ho, heq⟩ := hstep
        cases heq
        cases holder with
        | none => exact hkept w w' hs ho
        | some p => exact hs.meanwhile htrans (hothers w w' ho)
  rintro ⟨w, holder⟩ hr
  have hs := hinv _ hr
  cases holder with
  | none => exact ⟨hquiet w hs, fun _ => hs⟩
  | some p => exact ⟨hs.here hrefl, fun h => nomatch h⟩

end Effect
