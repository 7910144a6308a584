import Mathlib.Order.Nat
import Arbiter.Framework.Crash

/-! # Sending Again

  A program that sends something again as long as it is refused: a bounded number of times,
  and not once it was taken, whatever happens in between.

  ## Contents

  - `Prog.Resends`: the property, with a rule per former.
  - `Prog.Resends.safe`: what a log shows wherever the run is cut off, and at its end.
-/

namespace Effect

universe u v w x

section resends

variable {C : Type u} {A : C → Type v} {α β : Type w} (sends : C → Bool)
         (refused : (c : C) → A c → Bool)

/-- The program sends at most `left` times more, and not once it was taken; `Q` holds of
    whether it was, and of the result. -/
def Prog.Resends (Q : Bool → α → Prop) : ℕ → Bool → Prog C A α → Prop
  | _, taken, .ret a => Q taken a
  | left, taken, .call c k => (sends c = true → taken = false ∧ 0 < left) ∧
      ∀ a, Prog.Resends Q (if sends c then left - 1 else left)
        (taken || (sends c && !refused c a)) (k a)

variable {sends refused} {Q R : Bool → α → Prop} {left : ℕ} {taken : Bool}

/-- Nothing is sent before the rest. -/
theorem Prog.Resends.after_quiet {p : Prog C A α} {f : α → Prog C A β} {Q : Bool → β → Prop}
    (h : p.Calls fun c => sends c = false) (hf : ∀ a, (f a).Resends sends refused Q left taken) :
    (p >>= f).Resends sends refused Q left taken := by
  induction p with
  | ret a => exact hf a
  | call c k ih =>
    refine ⟨fun hc => absurd hc (by simp [h.1]), fun a => ?_⟩
    have hrest := ih a (h.2 a)
    show Prog.Resends sends refused Q _ _ (k a >>= f)
    simpa [h.1] using hrest

/-- What is sent next. -/
theorem Prog.Resends.send {A : C → Type w} {refused : (c : C) → A c → Bool} {c : C}
    {f : A c → Prog C A β} {Q : Bool → β → Prop} (hc : sends c = true)
    (hf : ∀ a, (f a).Resends sends refused Q left (!refused c a)) :
    (Prog.send c >>= f).Resends sends refused Q (left + 1) false := by
  refine ⟨fun _ => ⟨rfl, Nat.succ_pos left⟩, fun a => ?_⟩
  have hrest := hf a
  show Prog.Resends sends refused Q _ _ (f a)
  simpa [hc] using hrest

/-- What is on a log of what was sent, newest first. -/
def sent_of (sends : C → Bool) (log : List (Event C A)) : List (Event C A) :=
  log.filter fun e => sends e.asked

/-- Whether something on it was taken. -/
def taken_of (sends : C → Bool) (refused : (c : C) → A c → Bool) (log : List (Event C A)) : Bool :=
  (sent_of sends log).any fun e => !refused e.asked e.answer

/-- The log has no more than is allowed, and all but the newest was refused. -/
structure OnceTaken (sends : C → Bool) (refused : (c : C) → A c → Bool) (most : ℕ)
    (log : List (Event C A)) : Prop where
  length : (sent_of sends log).length ≤ most
  refused : ∀ e ∈ (sent_of sends log).tail, refused e.asked e.answer = true

theorem refused_of_not_taken {log : List (Event C A)} (h : taken_of sends refused log = false) :
    ∀ e ∈ sent_of sends log, refused e.asked e.answer = true := by
  simpa [taken_of] using h

/-- Wherever a run is cut off, the log is in order; where it ends, `Q` holds as well. -/
theorem Prog.Resends.safe {W : Type x} {E : Env C A W} {p : Prog C A α} {w : W}
    {log : List (Event C A)} {most : ℕ} (h : p.Resends sends refused Q left taken)
    (hleft : (sent_of sends log).length + left ≤ most) (honce : OnceTaken sends refused most log)
    (htaken : taken_of sends refused log = taken) :
    Safe E.logged (fun s c => OnceTaken sends refused most s.2 ∧
        (sends c = true → taken_of sends refused s.2 = false ∧
          (sent_of sends s.2).length < most))
      (fun a s => OnceTaken sends refused most s.2 ∧ Q (taken_of sends refused s.2) a) p
      (w, log) := by
  induction p generalizing left taken w log with
  | ret a =>
    have hQ : Q taken a := h
    exact ⟨honce, htaken ▸ hQ⟩
  | call c k ih =>
    constructor
    · refine ⟨honce, fun hc => ⟨htaken.trans (h.1 hc).1, ?_⟩⟩
      have hpos := (h.1 hc).2
      show (sent_of sends log).length < most
      omega
    · intro a s hs
      obtain ⟨w₁, log₁⟩ := s
      obtain ⟨-, hlog⟩ := hs
      change log₁ = ⟨c, a⟩ :: log at hlog
      subst hlog
      have hrest := h.2 a
      cases hc : sends c with
      | false =>
        have hsame : sent_of sends (⟨c, a⟩ :: log) = sent_of sends log := by
          simp [sent_of, hc]
        simp only [hc, Bool.false_and, Bool.or_false, Bool.false_eq_true, if_false] at hrest
        apply ih a hrest
        · rw [hsame]
          exact hleft
        · exact ⟨hsame ▸ honce.length, hsame ▸ honce.refused⟩
        · rw [taken_of, hsame]
          exact htaken
      | true =>
        obtain ⟨hnot, hpos⟩ := h.1 hc
        have hsent : sent_of sends (⟨c, a⟩ :: log) = ⟨c, a⟩ :: sent_of sends log := by
          simp [sent_of, hc]
        simp only [hc, Bool.true_and, if_true] at hrest
        apply ih a hrest
        · rw [hsent, List.length_cons]
          omega
        · constructor
          · rw [hsent, List.length_cons]
            omega
          · rw [hsent, List.tail_cons]
            exact refused_of_not_taken (htaken.trans hnot)
        · rw [taken_of, hsent, List.any_cons, ← htaken, Bool.or_comm]
          rfl

end resends

end Effect
