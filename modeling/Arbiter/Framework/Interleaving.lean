import Arbiter.Framework.Raising
import Arbiter.Framework.System

/-! # Interleaved Jobs

  Programs over one world that take turns call by call: between any two calls of a job the
  others may make any of theirs. A job has a note of where it is, which its calls advance.

  A guard that a call puts up holds as long as no job does what is not allowed. What a job
  will do depends on what it was answered before: so when the guard goes up, the jobs in
  flight have to be such that from then on they do only what is allowed.

  ## Contents

  - `Job`, `Crew`, `interleaved`: the states and the steps.
  - `Prog.Given`: a program makes only allowed calls, given certain answers; a rule per
    former.
  - `guarded`: the rule for every reachable state.
  - `Crew.play`: a step against an oracle, to exhibit runs.
-/

namespace Effect

open LTS

universe u v w x y

/-! ### States and steps -/

/-- A job: its note, and the rest of its program. -/
structure Job (C : Type u) (A : C → Type v) (N : Type y) where
  note : N
  rest : Prog C A (Option Unit)

/-- The world and the jobs, in the order in which they began. -/
structure Crew (C : Type u) (A : C → Type v) (W : Type x) (N : Type y) where
  world : W
  jobs : List (Job C A N)

/-- What can happen next. -/
inductive Turning (ι : Type w)
  /-- A job begins. -/
  | start (l : ι)
  /-- The next call of a job is made. -/
  | call (i : Nat)

variable {C : Type u} {A : C → Type v} {W : Type x} {N : Type y} {ι : Type w}

/-- The call a job makes next. -/
def Job.next (job : Job C A N) : Option C :=
  match job.rest with
  | .call c _ => some c
  | .ret _ => none

/-- The interleavings of jobs; what a call does may depend on the note of its job. -/
def interleaved (E : N → Env C A W) (advance : N → C → N) (job : ι → Job C A N)
    (start : W → Prop) : System (Crew C A W N) (Turning ι) where
  init := fun s => start s.world ∧ s.jobs = []
  step := fun s move s' =>
    match move with
    | .start l => s' = { s with jobs := s.jobs ++ [job l] }
    | .call i => ∃ n c k a, s.jobs[i]? = some ⟨n, .call c k⟩ ∧
        (E n).serve s.world c a s'.world ∧ s'.jobs = s.jobs.set i ⟨advance n c, k a⟩

/-! ### What a program does, given certain answers -/

section given

variable {α β : Type w} {advance : N → C → N} {ok : N → C → Prop} {given : (c : C) → A c → Prop}

/-- Begun with the note `n`, every call `p` makes meets `ok`, and what it returns meets `Q`,
    as long as its answers meet `given`. -/
def Prog.Given (advance : N → C → N) (ok : N → C → Prop) (given : (c : C) → A c → Prop)
    (Q : N → α → Prop) : N → Prog C A α → Prop
  | n, .ret a => Q n a
  | n, .call c k => ok n c ∧ ∀ a, given c a → Prog.Given advance ok given Q (advance n c) (k a)

theorem Prog.Given.mono {Q Q' : N → α → Prop} {n : N} {p : Prog C A α}
    (h : p.Given advance ok given Q n) (hQ : ∀ n a, Q n a → Q' n a) :
    p.Given advance ok given Q' n := by
  induction p generalizing n with
  | ret a => exact hQ n a h
  | call c k ih => exact ⟨h.1, fun a ha => ih a (h.2 a ha)⟩

theorem Prog.Given.bind {Q : N → β → Prop} {n : N} {p : Prog C A α} {f : α → Prog C A β}
    (h : p.Given advance ok given (fun n a => (f a).Given advance ok given Q n) n) :
    (p >>= f).Given advance ok given Q n := by
  induction p generalizing n with
  | ret a => exact h
  | call c k ih => exact ⟨h.1, fun a ha => ih a (h.2 a ha)⟩

/-- A single call. -/
theorem Prog.Given.send {A : C → Type w} {given : (c : C) → A c → Prop} {n : N} {c : C}
    {Q : N → A c → Prop} (hc : ok n c) (hQ : ∀ a, given c a → Q (advance n c) a) :
    (Prog.send c).Given advance ok given Q n :=
  ⟨hc, hQ⟩

/-- The same of a program that may raise. -/
abbrev Raising.Given (advance : N → C → N) (ok : N → C → Prop) (given : (c : C) → A c → Prop)
    (Q : N → Option α → Prop) (n : N) (p : Raising C A α) : Prop :=
  Prog.Given advance ok given Q n p

namespace Raising

/-- A sequence of programs that may raise. -/
theorem given_bind {Q : N → Option β → Prop} {n : N} {p : Raising C A α}
    {f : α → Raising C A β}
    (h : Given advance ok given (fun n result =>
      (∀ a, result = some a → Given advance ok given Q n (f a)) ∧
        (result = none → Q n none)) n p) :
    Given advance ok given Q n (p >>= f) := by
  refine Prog.Given.bind (p := p) (h.mono ?_)
  rintro n (_ | a) ⟨hsome, hnone⟩
  · exact hnone rfl
  · exact hsome a rfl

theorem given_lift {Q : N → Option α → Prop} {n : N} {p : Prog C A α}
    (h : Prog.Given advance ok given (fun n a => Q n (some a)) n p) :
    Given advance ok given Q n (lift p) :=
  Prog.Given.bind (p := p) h

theorem given_attempt {Q : N → Option (Option α) → Prop} {n : N} {p : Raising C A α}
    (h : Given advance ok given (fun n result => Q n (some result)) n p) :
    Given advance ok given Q n p.attempt :=
  Prog.Given.bind (p := p) h

/-- The invariant of a loop. -/
theorem given_foldlM {I : N → Prop} {f : β → α → Raising C A β} {l : List α}
    (hf : ∀ b, ∀ a ∈ l, ∀ n, I n → Given advance ok given (fun n _ => I n) n (f b a))
    {n : N} (b : β) (hn : I n) : Given advance ok given (fun n _ => I n) n (l.foldlM f b) := by
  induction l generalizing b n with
  | nil => exact hn
  | cons a l ih =>
    rw [List.foldlM_cons]
    refine given_bind ((hf b a (by simp) n hn).mono fun n' result hn' => ⟨fun b' _ => ?_, ?_⟩)
    · exact ih (fun b a ha => hf b a (by simp [ha])) b' hn'
    · exact fun _ => hn'

end Raising

end given

/-! ### Guards -/

section guards

variable {E : N → Env C A W} {advance : N → C → N} {job : ι → Job C A N} {start : W → Prop}
         {ok : N → C → Prop} {given : (c : C) → A c → Prop}

/-- From now on the job makes only allowed calls, given the answers. -/
def Job.Quiet (advance : N → C → N) (ok : N → C → Prop) (given : (c : C) → A c → Prop)
    (job : Job C A N) : Prop :=
  job.rest.Given advance ok given (fun _ _ => True) job.note

/-- A guard in the world: while it is up `J` holds, as long as only allowed calls are made,
    and the answers are as given. Every job begins quiet. If at the calls that put the guard
    up all jobs are quiet, `J` holds in every state in which the guard is up. -/
theorem guarded (up J : W → Prop) (raises : W → C → Prop) (hstart : ∀ w, start w → ¬ up w)
    (hjob : ∀ l, (job l).Quiet advance ok given)
    (hkeep : ∀ n w c a w', (E n).serve w c a w' → up w → J w → ok n c →
      given c a ∧ (up w' → J w'))
    (hraise : ∀ n w c a w', (E n).serve w c a w' → ¬ up w → up w' →
      raises w c ∧ given c a ∧ J w') {s : Crew C A W N}
    (hr : Reachable ((interleaved E advance job start).restrict fun s move =>
      ∀ i, move = .call i → (∃ j c, s.jobs[i]? = some j ∧ j.next = some c ∧ raises s.world c) →
        ∀ j ∈ s.jobs, j.Quiet advance ok given) s) (hup : up s.world) : J s.world := by
  suffices hinv : up s.world → J s.world ∧ ∀ j ∈ s.jobs, j.Quiet advance ok given from
    (hinv hup).1
  clear hup
  induction hr with
  | init h => exact fun hup => absurd hup (hstart _ h.1)
  | @step s s' move _ hs ih =>
    obtain ⟨hquiet, hs⟩ := hs
    intro hup
    cases move with
    | start l =>
      cases hs
      obtain ⟨hJ, hjobs⟩ := ih hup
      refine ⟨hJ, fun j hj => ?_⟩
      obtain hj | hj := List.mem_append.mp hj
      · exact hjobs j hj
      · rw [List.mem_singleton.mp hj]
        exact hjob l
    | call i =>
      obtain ⟨n, c, k, a, hi, hserve, hset⟩ := hs
      have hmem : (⟨n, .call c k⟩ : Job C A N) ∈ s.jobs := List.mem_of_getElem? hi
      -- the guard was up and stays up, or this call puts it up
      obtain ⟨hjobs, hgiven, hJ⟩ : (∀ j ∈ s.jobs, j.Quiet advance ok given) ∧ given c a ∧
          J s'.world := by
        by_cases hbefore : up s.world
        · obtain ⟨hJ, hjobs⟩ := ih hbefore
          have hkept := hkeep n _ c a _ hserve hbefore hJ (hjobs _ hmem).1
          exact ⟨hjobs, hkept.1, hkept.2 hup⟩
        · obtain ⟨hraises, hgiven, hJ⟩ := hraise n _ c a _ hserve hbefore hup
          exact ⟨hquiet i rfl ⟨_, c, hi, rfl, hraises⟩, hgiven, hJ⟩
      refine ⟨hJ, fun j hj => ?_⟩
      rw [hset] at hj
      obtain hj | rfl := List.mem_or_eq_of_mem_set hj
      · exact hjobs j hj
      · exact (hjobs _ hmem).2 a hgiven

end guards

/-! ### Deterministic steps -/

/-- The next call of a job, made against an oracle. -/
def Crew.play (o : N → Oracle C A W) (advance : N → C → N) (i : Nat) (s : Crew C A W N) :
    Crew C A W N :=
  match s.jobs[i]? with
  | some ⟨n, .call c k⟩ =>
      ⟨(o n s.world c).2, s.jobs.set i ⟨advance n c, k (o n s.world c).1⟩⟩
  | _ => s

theorem Crew.play_steps {E : N → Env C A W} {advance : N → C → N} {job : ι → Job C A N}
    {start : W → Prop} {o : N → Oracle C A W}
    (ho : ∀ n w c, (E n).serve w c (o n w c).1 (o n w c).2) {i : Nat} {s : Crew C A W N}
    (hi : (s.jobs[i]?.bind Job.next).isSome = true) :
    (interleaved E advance job start).step s (.call i) (s.play o advance i) := by
  cases hjob : s.jobs[i]? with
  | none => simp [hjob] at hi
  | some job =>
    obtain ⟨n, rest⟩ := job
    cases rest with
    | ret a => simp [hjob, Job.next] at hi
    | call c k =>
      refine ⟨n, c, k, (o n s.world c).1, hjob, ?_, ?_⟩
      · simp only [Crew.play, hjob]
        exact ho n s.world c
      · simp only [Crew.play, hjob]

end Effect
