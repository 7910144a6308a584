import Mathlib.Logic.Relation

/-! # Labelled Transition Systems

  States, labelled steps and reachability, with the two rules every safety
  argument of the development goes through:

  - `Invariant.of_step`: a predicate that holds initially and is kept by every
    step holds in every reachable state.
  - `System.restrict`: the same system with only the steps that meet a side
    condition, for results of the form "in every run whose steps all meet …".
-/

namespace LTS

universe u v

/-! ### Systems -/

/-- A labelled transition system: initial states and labelled steps. -/
structure System (σ : Type u) (ι : Type v) where
  /-- Initial states. -/
  init : σ → Prop
  /-- `step s l s'`: label `l` leads from `s` to `s'`. -/
  step : σ → ι → σ → Prop

variable {σ : Type u} {ι : Type v}

/-- States reachable from an initial state by any sequence of steps. -/
inductive Reachable (sys : System σ ι) : σ → Prop
  | init {s : σ} (h : sys.init s) : Reachable sys s
  | step {s s' : σ} {l : ι} (hr : Reachable sys s) (hs : sys.step s l s') :
      Reachable sys s'

/-- `P` holds in every reachable state. -/
def Invariant (sys : System σ ι) (P : σ → Prop) : Prop :=
  ∀ s, Reachable sys s → P s

/-- Induction over runs, packaged: initial states satisfy `P`, every step keeps it. -/
theorem Invariant.of_step {sys : System σ ι} {P : σ → Prop}
    (hinit : ∀ s, sys.init s → P s)
    (hstep : ∀ s l s', P s → sys.step s l s' → P s') :
    Invariant sys P := by
  intro s hr
  induction hr with
  | init h => exact hinit _ h
  | step _ hs ih => exact hstep _ _ _ ih hs

/-! ### Runs with their labels -/

/-- `Steps sys s ls s'`: the labels `ls`, in order, lead from `s` to `s'`. -/
inductive Steps (sys : System σ ι) : σ → List ι → σ → Prop
  | nil (s : σ) : Steps sys s [] s
  | cons {s s' s'' : σ} {l : ι} {ls : List ι}
      (hs : sys.step s l s') (hr : Steps sys s' ls s'') : Steps sys s (l :: ls) s''

/-! ### Restriction to the steps that meet a condition -/

/-- The system with only the steps whose source state and label meet `ok`. -/
def System.restrict (sys : System σ ι) (ok : σ → ι → Prop) : System σ ι where
  init := sys.init
  step := fun s l s' => ok s l ∧ sys.step s l s'

/-- A run whose steps all meet the condition is a run. -/
theorem Reachable.of_restrict {sys : System σ ι} {ok : σ → ι → Prop} {s : σ}
    (hr : Reachable (sys.restrict ok) s) : Reachable sys s := by
  induction hr with
  | init h => exact .init h
  | step _ hs ih => exact .step ih hs.2

end LTS
