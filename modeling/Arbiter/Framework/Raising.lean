import Arbiter.Framework.Prog

/-! # Programs that May Raise

  A program with results in `Option`: `none` where it raised, which ends what it is part
  of, unless it was attempted.

  ## Contents

  - `Raising`: a monad; `lift`, `attempt`, `raise`.
  - `Raising.Ends`, `Raising.wp`, `Raising.Calls`: its runs, their weakest precondition, and
    the calls it makes, with one rule per former and one for a loop over a list.
-/

namespace Effect

universe u v w x

/-- A program that may raise. -/
def Raising (C : Type u) (A : C → Type v) (α : Type w) : Type (max u v w) :=
  Prog C A (Option α)

namespace Raising

variable {C : Type u} {A : C → Type v} {α β : Type w}

/-- Sequencing: what raises ends the sequence. -/
def bind (p : Raising C A α) (f : α → Raising C A β) : Raising C A β :=
  Prog.bind p fun result =>
    match result with
    | some a => f a
    | none => Prog.ret none

instance : Monad (Raising C A) where
  pure a := Prog.ret (some a)
  bind := bind

/-- A program that does not raise. -/
def lift (p : Prog C A α) : Raising C A α := Prog.bind p fun a => Prog.ret (some a)

/-- `try`: whether `p` raised is its result. -/
def attempt (p : Raising C A α) : Raising C A (Option α) :=
  Prog.bind p fun result => Prog.ret (some result)

/-- It raises. -/
def raise : Raising C A α := Prog.ret none

end Raising

/-! ### Rules -/

section rules

variable {C : Type u} {A : C → Type v} {W : Type x} {α β : Type w}

/-- A run that ends with `result`. -/
abbrev Raising.Ends (E : Env C A W) (p : Raising C A α) (w : W) (result : Option α) (w' : W) :
    Prop :=
  Exec E p w result w'

/-- Every run of `p` from `w` ends in a result and a world that satisfy `Q`. -/
abbrev Raising.wp (E : Env C A W) (p : Raising C A α) (Q : Option α → W → Prop) (w : W) : Prop :=
  Effect.wp E p Q w

/-- Every call `p` can make meets `ok`. -/
abbrev Raising.Calls (ok : C → Prop) (p : Raising C A α) : Prop := Prog.Calls ok p

namespace Raising

/-! #### Runs -/

section ends

variable {E : Env C A W} {w w' : W}

@[simp] theorem ends_pure {a : α} {result : Option α} :
    Ends E (pure a) w result w' ↔ result = some a ∧ w' = w :=
  exec_ret

@[simp] theorem ends_raise {result : Option α} :
    Ends E (raise : Raising C A α) w result w' ↔ result = none ∧ w' = w :=
  exec_ret

/-- A sequence ends where its second part ends, or where its first part raises. -/
theorem ends_bind {p : Raising C A α} {f : α → Raising C A β} {result : Option β} :
    Ends E (p >>= f) w result w' ↔
      (∃ a w₁, Ends E p w (some a) w₁ ∧ Ends E (f a) w₁ result w') ∨
        (result = none ∧ Ends E p w none w') := by
  refine (exec_bind (p := p)).trans ⟨?_, ?_⟩
  · rintro ⟨_ | a, w₁, hp, hf⟩
    · obtain ⟨rfl, rfl⟩ := exec_ret.1 hf
      exact .inr ⟨rfl, hp⟩
    · exact .inl ⟨a, w₁, hp, hf⟩
  · rintro (⟨a, w₁, hp, hf⟩ | ⟨rfl, hp⟩)
    · exact ⟨some a, w₁, hp, hf⟩
    · exact ⟨none, w', hp, exec_ret.2 ⟨rfl, rfl⟩⟩

@[simp] theorem ends_attempt {p : Raising C A α} {result : Option (Option α)} :
    Ends E p.attempt w result w' ↔ ∃ tried, result = some tried ∧ Ends E p w tried w' := by
  refine (exec_bind (p := p)).trans ⟨?_, ?_⟩
  · rintro ⟨tried, w₁, hp, hf⟩
    obtain ⟨rfl, rfl⟩ := exec_ret.1 hf
    exact ⟨tried, rfl, hp⟩
  · rintro ⟨tried, rfl, hp⟩
    exact ⟨tried, w', hp, exec_ret.2 ⟨rfl, rfl⟩⟩

@[simp] theorem ends_lift {p : Prog C A α} {result : Option α} :
    Ends E (lift p) w result w' ↔ ∃ a, result = some a ∧ Exec E p w a w' := by
  refine (exec_bind (p := p)).trans ⟨?_, ?_⟩
  · rintro ⟨a, w₁, hp, hf⟩
    obtain ⟨rfl, rfl⟩ := exec_ret.1 hf
    exact ⟨a, rfl, hp⟩
  · rintro ⟨a, rfl, hp⟩
    exact ⟨a, w', hp, exec_ret.2 ⟨rfl, rfl⟩⟩

/-! #### Loops that can come through -/

section loops

variable {f : β → α → Raising C A β} (hreturns : ∀ b a w, ∃ b' w', Ends E (f b a) w (some b') w')

include hreturns

/-- A loop can come through where its body can. -/
theorem ends_foldlM (l : List α) (b : β) (w : W) :
    ∃ b' w', Ends E (l.foldlM f b) w (some b') w' := by
  induction l generalizing b w with
  | nil => exact ⟨b, w, ends_pure.2 ⟨rfl, rfl⟩⟩
  | cons a l ih =>
    obtain ⟨b₁, w₁, hhead⟩ := hreturns b a w
    obtain ⟨b', w', hrest⟩ := ih b₁ w₁
    rw [List.foldlM_cons]
    exact ⟨b', w', ends_bind.2 (.inl ⟨b₁, w₁, hhead, hrest⟩)⟩

/-- What the body can reach for one item, and keeps for those after it, a loop can reach. -/
theorem ends_foldlM_reaches {P : W → Prop} {l₁ l₂ : List α} {a : α}
    (hreach : ∀ b w, ∃ b' w', Ends E (f b a) w (some b') w' ∧ P w')
    (hkeep : ∀ b, ∀ x ∈ l₂, ∀ w result w', P w → Ends E (f b x) w result w' → P w')
    (b : β) (w : W) :
    ∃ b' w', Ends E ((l₁ ++ a :: l₂).foldlM f b) w (some b') w' ∧ P w' := by
  have hafter : ∀ b w, P w → ∃ b' w', Ends E (l₂.foldlM f b) w (some b') w' ∧ P w' := by
    induction l₂ with
    | nil => exact fun b w hP => ⟨b, w, ends_pure.2 ⟨rfl, rfl⟩, hP⟩
    | cons x l₂ ih =>
      intro b w hP
      obtain ⟨b₁, w₁, hhead⟩ := hreturns b x w
      obtain ⟨b', w', hrest, hP'⟩ := ih (fun b y hy => hkeep b y (List.mem_cons_of_mem _ hy)) b₁ w₁
        (hkeep b x (List.mem_cons_self ..) w _ w₁ hP hhead)
      rw [List.foldlM_cons]
      exact ⟨b', w', ends_bind.2 (.inl ⟨b₁, w₁, hhead, hrest⟩), hP'⟩
  induction l₁ generalizing b w with
  | nil =>
    obtain ⟨b₁, w₁, hitem, hP⟩ := hreach b w
    obtain ⟨b', w', hrest, hP'⟩ := hafter b₁ w₁ hP
    rw [List.nil_append, List.foldlM_cons]
    exact ⟨b', w', ends_bind.2 (.inl ⟨b₁, w₁, hitem, hrest⟩), hP'⟩
  | cons x l₁ ih =>
    obtain ⟨b₁, w₁, hhead⟩ := hreturns b x w
    obtain ⟨b', w', hrest, hP'⟩ := ih b₁ w₁
    rw [List.cons_append, List.foldlM_cons]
    exact ⟨b', w', ends_bind.2 (.inl ⟨b₁, w₁, hhead, hrest⟩), hP'⟩

end loops

end ends

/-! #### Weakest preconditions -/

section wp

variable {E : Env C A W} {w : W}

@[simp] theorem wp_pure {a : α} {Q : Option α → W → Prop} :
    wp E (pure a) Q w ↔ Q (some a) w :=
  wp_ret

@[simp] theorem wp_raise {Q : Option α → W → Prop} :
    wp E (raise : Raising C A α) Q w ↔ Q none w :=
  wp_ret

/-- Sequencing: `f` starts where `p` returns, and `p` may raise. -/
theorem wp_bind {p : Raising C A α} {f : α → Raising C A β} {Q : Option β → W → Prop} :
    wp E (p >>= f) Q w ↔
      wp E p (fun result w' => (∀ a, result = some a → wp E (f a) Q w') ∧
        (result = none → Q none w')) w := by
  refine (Effect.wp_bind (p := p)).trans ⟨fun h => wp_mono h ?_, fun h => wp_mono h ?_⟩
  · rintro (_ | a) w' hw
    · exact ⟨by simp, fun _ => wp_ret.1 hw⟩
    · refine ⟨?_, by simp⟩
      intro b hb
      cases hb
      exact hw
  · rintro (_ | a) w' ⟨hsome, hnone⟩
    · exact wp_ret.2 (hnone rfl)
    · exact hsome a rfl

@[simp] theorem wp_attempt {p : Raising C A α} {Q : Option (Option α) → W → Prop} :
    wp E p.attempt Q w ↔ wp E p (fun result => Q (some result)) w := by
  refine (Effect.wp_bind (p := p)).trans ⟨fun h => wp_mono h ?_, fun h => wp_mono h ?_⟩
  · intro result w' hw
    exact wp_ret.1 hw
  · intro result w' hw
    exact wp_ret.2 hw

@[simp] theorem wp_lift {p : Prog C A α} {Q : Option α → W → Prop} :
    wp E (lift p) Q w ↔ Effect.wp E p (fun a => Q (some a)) w := by
  refine (Effect.wp_bind (p := p)).trans ⟨fun h => wp_mono h ?_, fun h => wp_mono h ?_⟩
  · intro a w' hw
    exact wp_ret.1 hw
  · intro a w' hw
    exact wp_ret.2 hw

/-- What `p` keeps whether or not it raises, and `f` keeps after it. -/
theorem wp_bind_keeps {J : W → Prop} {p : Raising C A α} {f : α → Raising C A β}
    (hp : wp E p (fun _ => J) w) (hf : ∀ a w', J w' → wp E (f a) (fun _ => J) w') :
    wp E (p >>= f) (fun _ => J) w :=
  wp_bind.2 (wp_mono hp fun _ _ hJ => ⟨fun a _ => hf a _ hJ, fun _ => hJ⟩)

/-- A program keeps what it keeps, whatever is made of its answer. -/
theorem wp_map_keeps {J : W → Prop} {p : Raising C A α} {g : α → β}
    (hp : wp E p (fun _ => J) w) : wp E (p >>= fun a => pure (g a)) (fun _ => J) w :=
  wp_bind_keeps hp fun _ _ hJ => wp_pure.2 hJ

/-- The invariant of a loop. -/
theorem wp_foldlM {J : W → Prop} {f : β → α → Raising C A β} {l : List α}
    (hf : ∀ b, ∀ a ∈ l, ∀ w, J w → wp E (f b a) (fun _ => J) w) (b : β) (hw : J w) :
    wp E (l.foldlM f b) (fun _ => J) w := by
  induction l generalizing b w with
  | nil =>
    rw [List.foldlM_nil, wp_pure]
    exact hw
  | cons a l ih =>
    rw [List.foldlM_cons]
    refine wp_bind_keeps (hf b a (by simp) w hw) fun b' w' hJ => ?_
    exact ih (fun b a ha => hf b a (by simp [ha])) b' hJ

/-- The same where the body does not raise. -/
theorem wp_foldlM_returns {J : W → Prop} {f : β → α → Raising C A β} {l : List α}
    (hf : ∀ b, ∀ a ∈ l, ∀ w, J w → wp E (f b a) (fun result w' => result ≠ none ∧ J w') w)
    (b : β) (hw : J w) : wp E (l.foldlM f b) (fun result w' => result ≠ none ∧ J w') w := by
  induction l generalizing b w with
  | nil =>
    rw [List.foldlM_nil, wp_pure]
    exact ⟨by simp, hw⟩
  | cons a l ih =>
    rw [List.foldlM_cons]
    refine wp_bind.2 (wp_mono (hf b a (by simp) w hw) fun result w' h => ⟨fun b' _ => ?_, ?_⟩)
    · exact ih (fun b a ha => hf b a (by simp [ha])) b' h.2
    · exact fun hnone => absurd hnone h.1

end wp

/-! #### Calls -/

section calls

variable {ok : C → Prop}

@[simp] theorem calls_pure (a : α) : Calls ok (pure a : Raising C A α) :=
  trivial

@[simp] theorem calls_raise : Calls ok (raise : Raising C A α) :=
  trivial

theorem calls_ite {c : Prop} [Decidable c] {p q : Raising C A α} :
    Calls ok (if c then p else q) ↔ (c → Calls ok p) ∧ (¬ c → Calls ok q) :=
  Effect.calls_ite

theorem Calls.bind {p : Raising C A α} {f : α → Raising C A β} (hp : Calls ok p)
    (hf : ∀ a, Calls ok (f a)) : Calls ok (p >>= f) := by
  refine Prog.Calls.bind hp ?_
  rintro (_ | a)
  · exact calls_ret none
  · exact hf a

theorem Calls.attempt {p : Raising C A α} (hp : Calls ok p) : Calls ok p.attempt :=
  Prog.Calls.bind hp fun result => calls_ret (some result)

theorem Calls.lift {p : Prog C A α} (hp : p.Calls ok) : Calls ok (Raising.lift p) :=
  Prog.Calls.bind hp fun a => calls_ret (some a)

theorem Calls.foldlM {f : β → α → Raising C A β} {l : List α}
    (hf : ∀ b, ∀ a ∈ l, Calls ok (f b a)) (b : β) : Calls ok (l.foldlM f b) := by
  induction l generalizing b with
  | nil => exact calls_pure b
  | cons a l ih =>
    rw [List.foldlM_cons]
    exact Calls.bind (hf b a (by simp)) fun b' => ih (fun b a ha => hf b a (by simp [ha])) b'

end calls

end Raising

end rules

end Effect
