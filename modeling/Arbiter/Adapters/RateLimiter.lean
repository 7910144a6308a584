import Arbiter.Framework.System
import Arbiter.Framework.TokenBucket
import Arbiter.Framework.Truncate

/-! # The Rate Limiter

  Every call to a venue first acquires a token of the venue's rate limiter. The bucket is
  filled by whoever looks at it, a venue that answers 429 has it emptied for a penalty, and
  a caller that finds no token sleeps and looks again, at any later moment and in any order
  with the others.

  The main result bounds what is acquired in every interval, whoever acquires it.

  ## Contents

  - Section 1: the limiter and its calls.
  - Section 2: runs of callers, penalties and readings.
-/

namespace RateLimiter

open LTS TokenBucket

/-! ## Section 1: The limiter -/

/-- `max_requests` for each window of `window_seconds`. -/
structure Limits where
  max_requests : ℕ
  window_seconds : ℚ
  window_pos : 0 < window_seconds

/-- The tokens of a second. -/
def Limits.rate (l : Limits) : ℚ := l.max_requests / l.window_seconds

theorem Limits.rate_nonneg (l : Limits) : 0 ≤ l.rate :=
  div_nonneg (Nat.cast_nonneg _) l.window_pos.le

/-- `RateLimiter`: its bucket, the penalty, and what it reports. -/
structure State where
  bucket : Bucket ℚ
  penalty_until : ℚ
  penalty_count : ℕ
  total_wait_time : ℚ
  last_wait_seconds : ℚ
  last_penalty_reason : String
  total_acquires : ℕ

/-- `__post_init__`: a full bucket. -/
def State.new (l : Limits) (now : ℚ) : State where
  bucket := ⟨l.max_requests, now⟩
  penalty_until := 0
  penalty_count := 0
  total_wait_time := 0
  last_wait_seconds := 0
  last_penalty_reason := ""
  total_acquires := 0

/-- `_refill`. -/
def State.refill (s : State) (l : Limits) (now : ℚ) : State :=
  { s with bucket := s.bucket.refill l.max_requests l.rate now }

/-- `available_tokens`: how many there are, and the limiter. -/
def State.available_tokens (s : State) (l : Limits) (now : ℚ) : ℤ × State :=
  let s := s.refill l now
  (Truncate.whole s.bucket.tokens, s)

/-- `remaining_penalty_seconds`. -/
def State.remaining_penalty_seconds (s : State) (now : ℚ) : ℚ := max (s.penalty_until - now) 0

/-- A wait goes into the report. -/
def State.waits (s : State) (wait : ℚ) : State :=
  { s with last_wait_seconds := wait, total_wait_time := s.total_wait_time + wait }

/-- A token is taken. -/
def State.takes (s : State) : State :=
  { s with bucket := s.bucket.take, total_acquires := s.total_acquires + 1 }

/-- What a round of `acquire` comes to. Without any requests in a window, the wait for the
    next token is a division by zero. -/
inductive Round where
  | acquired
  | sleeps (wait : ℚ)
  | raised
  deriving DecidableEq

/-- One round of `acquire`, up to its sleep: the penalty is looked up first, then the bucket
    is filled. -/
def State.acquire (s : State) (l : Limits) (checked refilled : ℚ) : Round × State :=
  let wait := s.remaining_penalty_seconds checked
  if 0 < wait then (.sleeps wait, s.waits wait)
  else
    let s := s.refill l refilled
    if 1 ≤ s.bucket.tokens then (.acquired, s.takes)
    else if l.max_requests = 0 then (.raised, s)
    else
      let wait := l.window_seconds / l.max_requests
      (.sleeps wait, s.waits wait)

/-- `penalize`: the delay, and the limiter. -/
def State.penalize (s : State) (delay_seconds : ℚ) (reason : String) (now : ℚ) : ℚ × State :=
  let delay_seconds := max delay_seconds 0
  if delay_seconds ≤ 0 then (0, s)
  else
    (delay_seconds,
      { s with
        penalty_until := max s.penalty_until (now + delay_seconds)
        penalty_count := s.penalty_count + 1
        last_penalty_reason := reason
        bucket := s.bucket.drain })

/-- `apply_retry_after`, with what `_parse_retry_after` made of the header. -/
def State.apply_retry_after (s : State) (retry_after : Option ℚ) (fallback_delay : ℚ)
    (reason : String) (now : ℚ) : ℚ × State :=
  s.penalize (retry_after.getD (max fallback_delay 0)) reason now

section calls

variable {l : Limits} {s : State} {checked refilled delay now : ℚ} {reason : String}

/-- **What a round can do**: a token is taken where no penalty is on, or the bucket is
    filled, or left as it is. The penalty stays. -/
theorem acquire_cases :
    (s.acquire l checked refilled).2.penalty_until = s.penalty_until ∧
      ((s.acquire l checked refilled).1 = .acquired ∧ s.penalty_until ≤ checked ∧
          1 ≤ (s.refill l refilled).bucket.tokens ∧
          (s.acquire l checked refilled).2.bucket = (s.refill l refilled).bucket.take ∨
        (s.acquire l checked refilled).1 ≠ .acquired ∧
          ((s.acquire l checked refilled).2.bucket = s.bucket ∨
            (s.acquire l checked refilled).2.bucket = (s.refill l refilled).bucket)) := by
  by_cases hwait : 0 < s.remaining_penalty_seconds checked
  · have hround : s.acquire l checked refilled =
        (.sleeps (s.remaining_penalty_seconds checked),
          s.waits (s.remaining_penalty_seconds checked)) := if_pos hwait
    rw [hround]
    exact ⟨rfl, .inr ⟨by simp, .inl rfl⟩⟩
  · have hover : s.penalty_until - checked ≤ 0 := (le_max_left _ _).trans (not_lt.mp hwait)
    by_cases htokens : 1 ≤ (s.refill l refilled).bucket.tokens
    · have hround : s.acquire l checked refilled = (.acquired, (s.refill l refilled).takes) :=
        (if_neg hwait).trans (if_pos htokens)
      rw [hround]
      exact ⟨rfl, .inl ⟨rfl, sub_nonpos.mp hover, htokens, rfl⟩⟩
    · have hround : s.acquire l checked refilled =
          if l.max_requests = 0 then (.raised, s.refill l refilled)
          else (.sleeps (l.window_seconds / l.max_requests),
            (s.refill l refilled).waits (l.window_seconds / l.max_requests)) :=
        (if_neg hwait).trans (if_neg htokens)
      rw [hround]
      split
      · exact ⟨rfl, .inr ⟨by simp, .inr rfl⟩⟩
      · exact ⟨rfl, .inr ⟨by simp, .inr rfl⟩⟩

/-- A penalty empties the bucket, and is on for its delay at least. -/
theorem penalize_cases :
    delay ≤ 0 ∧ s.penalize delay reason now = (0, s) ∨
      0 < delay ∧ (s.penalize delay reason now).2.bucket = s.bucket.drain ∧
        (s.penalize delay reason now).2.penalty_until = max s.penalty_until (now + delay) := by
  unfold State.penalize
  rcases le_or_gt delay 0 with hle | hlt
  · rw [max_eq_right hle]
    exact .inl ⟨hle, if_pos le_rfl⟩
  · rw [max_eq_left hlt.le]
    dsimp only
    rw [if_neg (not_le.mpr hlt)]
    exact .inr ⟨hlt, rfl, rfl⟩

end calls

/-! ## Section 2: Runs -/

variable (Caller : Type)

/-- The calls. A caller that sleeps makes its next round when it wakes up, one that acquired
    its token with its next call. -/
inductive Call where
  | acquire (caller : Caller) (checked refilled : ℚ)
  | penalize (delay_seconds : ℚ) (reason : String) (now : ℚ)
  | apply_retry_after (retry_after : Option ℚ) (fallback_delay : ℚ) (reason : String) (now : ℚ)
  | available_tokens (now : ℚ)

/-- What became of the calls: a token acquired, a penalty imposed. -/
inductive Event where
  | acquired (caller : Caller) (now : ℚ)
  | penalized (now ends : ℚ)

variable {Caller}

/-- The moments at which tokens were acquired. -/
def Event.acquired_at : Event Caller → Option ℚ
  | .acquired _ now => some now
  | .penalized _ _ => none

/-- A token is not acquired while a penalty is on that was imposed before. -/
def Event.After : Event Caller → Event Caller → Prop
  | .acquired _ now, .penalized _ ends => ends ≤ now
  | _, _ => True

variable (Caller) in
/-- The limiter, the clock, and what happened, the latest first. -/
structure Run where
  limiter : State
  now : ℚ
  history : List (Event Caller)

/-- The moments of the run at which tokens were acquired. -/
def Run.grants (r : Run Caller) : List ℚ := r.history.filterMap Event.acquired_at

/-- How many tokens were acquired in an interval. -/
def Run.acquired (r : Run Caller) (start stop : ℚ) : ℕ := within r.grants start stop

/-- A round of `acquire`. -/
def Run.acquire (r : Run Caller) (l : Limits) (caller : Caller) (checked refilled : ℚ) :
    Run Caller where
  limiter := (r.limiter.acquire l checked refilled).2
  now := refilled
  history :=
    match (r.limiter.acquire l checked refilled).1 with
    | .acquired => .acquired caller refilled :: r.history
    | _ => r.history

/-- A penalty. -/
def Run.penalize (r : Run Caller) (delay_seconds : ℚ) (reason : String) (now : ℚ) :
    Run Caller where
  limiter := (r.limiter.penalize delay_seconds reason now).2
  now := now
  history :=
    if 0 < delay_seconds then .penalized now (now + delay_seconds) :: r.history else r.history

/-- Calls in any order, on a clock that does not go back. -/
def system (l : Limits) (Caller : Type) : System (Run Caller) (Call Caller) where
  init := fun r => ∃ now, r = ⟨State.new l now, now, []⟩
  step := fun r c r' =>
    match c with
    | .acquire caller checked refilled =>
        r.now ≤ checked ∧ checked ≤ refilled ∧ r' = r.acquire l caller checked refilled
    | .penalize delay_seconds reason now =>
        r.now ≤ now ∧ r' = r.penalize delay_seconds reason now
    | .apply_retry_after retry_after fallback_delay reason now =>
        r.now ≤ now ∧
          r' = r.penalize (retry_after.getD (max fallback_delay 0)) reason now
    | .available_tokens now =>
        r.now ≤ now ∧ r' = { r with limiter := (r.limiter.available_tokens l now).2, now := now }

section runs

variable {l : Limits} {r r' : Run Caller} {c : Call Caller}

/-- What every call keeps: the bucket within its bounds, as of a moment that has come, every
    penalty on for its time, and no token acquired in one. -/
structure Kept (l : Limits) (r : Run Caller) : Prop where
  bounds : r.limiter.bucket.Bounds l.max_requests l.rate r.grants
  clock : r.limiter.bucket.last_refill ≤ r.now
  imposed : ∀ now ends, .penalized now ends ∈ r.history → ends ≤ r.limiter.penalty_until
  after : r.history.Pairwise Event.After

theorem Kept.start (now : ℚ) : Kept l (⟨State.new l now, now, []⟩ : Run Caller) where
  bounds := .full (Nat.cast_nonneg _) l.rate_nonneg
  clock := le_rfl
  imposed := by simp
  after := .nil

/-- The bucket is filled. -/
theorem Kept.refill (h : Kept l r) {now : ℚ} (hnow : r.now ≤ now) :
    ((r.limiter.refill l now).bucket).Bounds l.max_requests l.rate r.grants :=
  h.bounds.refill l.rate_nonneg (h.clock.trans hnow)

theorem Kept.available_tokens (h : Kept l r) {now : ℚ} (hnow : r.now ≤ now) :
    Kept l { r with limiter := (r.limiter.available_tokens l now).2, now := now } where
  bounds := h.refill hnow
  clock := le_rfl
  imposed := h.imposed
  after := h.after

/-- A round that acquires nothing leaves the history. -/
theorem acquire_history_of_ne {caller : Caller} {checked refilled : ℚ}
    (hround : (r.limiter.acquire l checked refilled).1 ≠ .acquired) :
    (r.acquire l caller checked refilled).history = r.history := by
  unfold Run.acquire
  split
  · next heq => exact absurd heq hround
  · rfl

theorem Kept.acquire (h : Kept l r) {caller : Caller} {checked refilled : ℚ}
    (hchecked : r.now ≤ checked) (hrefilled : checked ≤ refilled) :
    Kept l (r.acquire l caller checked refilled) := by
  have hnow := hchecked.trans hrefilled
  obtain ⟨hpenalty, ⟨hround, hover, htokens, hbucket⟩ | ⟨hround, hbucket⟩⟩ :=
    @acquire_cases l r.limiter checked refilled
  -- a token is acquired: one grant more, and no penalty that was imposed is still on
  · have hhistory : (r.acquire l caller checked refilled).history =
        .acquired caller refilled :: r.history := by
      unfold Run.acquire
      rw [hround]
    refine ⟨?_, ?_, ?_, ?_⟩
    · show ((r.limiter.acquire l checked refilled).2.bucket).Bounds _ _
        ((r.acquire l caller checked refilled).history.filterMap Event.acquired_at)
      rw [hbucket, hhistory]
      exact (h.refill hnow).take l.rate_nonneg htokens
    · show (r.limiter.acquire l checked refilled).2.bucket.last_refill ≤ refilled
      rw [hbucket]
      exact le_rfl
    · intro now ends hmem
      rw [hhistory] at hmem
      show ends ≤ (r.limiter.acquire l checked refilled).2.penalty_until
      rw [hpenalty]
      exact h.imposed now ends ((List.mem_cons.mp hmem).resolve_left (by simp))
    · rw [hhistory]
      refine List.pairwise_cons.mpr ⟨fun e he => ?_, h.after⟩
      cases e with
      | acquired _ _ => trivial
      | penalized now ends => exact ((h.imposed now ends he).trans hover).trans hrefilled
  -- none is: the bucket is at most filled
  · have hhistory : (r.acquire l caller checked refilled).history = r.history :=
      acquire_history_of_ne hround
    have hgrants : (r.acquire l caller checked refilled).grants = r.grants :=
      congrArg (List.filterMap _) hhistory
    refine ⟨?_, ?_, ?_, ?_⟩
    · rw [hgrants]
      show ((r.limiter.acquire l checked refilled).2.bucket).Bounds _ _ _
      rcases hbucket with hbucket | hbucket
      · rw [hbucket]
        exact h.bounds
      · rw [hbucket]
        exact h.refill hnow
    · show (r.limiter.acquire l checked refilled).2.bucket.last_refill ≤ refilled
      rcases hbucket with hbucket | hbucket
      · rw [hbucket]
        exact h.clock.trans hnow
      · rw [hbucket]
        exact le_rfl
    · intro now ends hmem
      rw [hhistory] at hmem
      show ends ≤ (r.limiter.acquire l checked refilled).2.penalty_until
      rw [hpenalty]
      exact h.imposed now ends hmem
    · rw [hhistory]
      exact h.after

theorem Kept.penalize (h : Kept l r) {delay now : ℚ} {reason : String} (hnow : r.now ≤ now) :
    Kept l (r.penalize delay reason now) := by
  rcases @penalize_cases r.limiter delay now reason with
    ⟨hnone, hpenalty⟩ | ⟨hdelay, hbucket, huntil⟩
  · -- a delay that is not positive is no penalty
    have heq : r.penalize delay reason now = { r with now := now } := by
      unfold Run.penalize
      rw [hpenalty, if_neg (not_lt.mpr hnone)]
    rw [heq]
    exact ⟨h.bounds, h.clock.trans hnow, h.imposed, h.after⟩
  · have hhistory : (r.penalize delay reason now).history =
        .penalized now (now + delay) :: r.history := if_pos hdelay
    refine ⟨?_, ?_, ?_, ?_⟩
    · show ((r.limiter.penalize delay reason now).2.bucket).Bounds _ _
        ((r.penalize delay reason now).history.filterMap Event.acquired_at)
      rw [hbucket, hhistory]
      exact h.bounds.drain
    · show (r.limiter.penalize delay reason now).2.bucket.last_refill ≤ now
      rw [hbucket]
      exact h.clock.trans hnow
    · intro imposed ends hmem
      rw [hhistory] at hmem
      show ends ≤ (r.limiter.penalize delay reason now).2.penalty_until
      rw [huntil]
      -- a new penalty cuts none short that is on
      rcases List.mem_cons.mp hmem with heq | hmem
      · cases heq
        exact le_max_right _ _
      · exact (h.imposed imposed ends hmem).trans (le_max_left _ _)
    · rw [hhistory]
      exact List.pairwise_cons.mpr ⟨fun _ _ => trivial, h.after⟩

theorem Kept.step (h : Kept l r) (hstep : (system l Caller).step r c r') : Kept l r' := by
  cases c with
  | acquire caller checked refilled =>
    obtain ⟨hchecked, hrefilled, rfl⟩ := hstep
    exact h.acquire hchecked hrefilled
  | penalize delay reason now =>
    obtain ⟨hnow, rfl⟩ := hstep
    exact h.penalize hnow
  | apply_retry_after retry_after fallback reason now =>
    obtain ⟨hnow, rfl⟩ := hstep
    exact h.penalize hnow
  | available_tokens now =>
    obtain ⟨hnow, rfl⟩ := hstep
    exact h.available_tokens hnow

theorem kept : Invariant (system l Caller) (Kept l) := by
  refine Invariant.of_step ?_ fun r c r' h hstep => h.step hstep
  rintro r ⟨now, rfl⟩
  exact .start now

/-- In every run, the tokens acquired in an interval are no more than a window's requests and
    what the interval brings in, none is acquired in a penalty, and there are never more
    tokens than requests in a window. -/
theorem every_interval_bounded (hr : Reachable (system l Caller) r) :
    (∀ start d, 0 ≤ d → (r.acquired start (start + d) : ℚ) ≤
        l.max_requests + d * (l.max_requests / l.window_seconds)) ∧
      r.history.Pairwise Event.After ∧ r.limiter.bucket.tokens ≤ l.max_requests := by
  have hkept := kept r hr
  refine ⟨fun start d hd => ?_, hkept.after, hkept.bounds.le⟩
  have hspent := hkept.bounds.spent start (start + d) (by linarith)
  rw [add_sub_cancel_left] at hspent
  exact hspent

end runs

/-- One request a second. -/
def one_a_second : Limits := ⟨1, 1, by norm_num⟩

/-- The limiter is new. -/
def start : Run Bool := ⟨State.new one_a_second 0, 0, []⟩

/-- Two callers ask at once, after one second there is a penalty of two, and the second
    caller is the first to wake up from it. -/
def penalized_run : Run Bool :=
  (((start.acquire one_a_second true 0 0).acquire one_a_second false 0 0).penalize 2
    "rate_limited" 1).acquire one_a_second false 3 3

theorem penalized_run_reached : Reachable (system one_a_second Bool) penalized_run := by
  have hstart : Reachable (system one_a_second Bool) start := .init ⟨0, rfl⟩
  have hfirst := hstart.step
    (show (system one_a_second Bool).step _ (.acquire true 0 0) _ from ⟨le_rfl, le_rfl, rfl⟩)
  have hsecond := hfirst.step
    (show (system one_a_second Bool).step _ (.acquire false 0 0) _ from ⟨le_rfl, le_rfl, rfl⟩)
  have hpenalty := hsecond.step
    (show (system one_a_second Bool).step _ (.penalize 2 "rate_limited" 1) _ from
      ⟨zero_le_one, rfl⟩)
  exact hpenalty.step
    (show (system one_a_second Bool).step _ (.acquire false 3 3) _ from
      ⟨show (1 : ℚ) ≤ 3 by norm_num, le_rfl, rfl⟩)

theorem every_interval_bounded_penalized :
    penalized_run.acquired 0 3 = 2 ∧ (penalized_run.acquired 0 (0 + 3) : ℚ) ≤ 1 + 3 * (1 / 1) ∧
      penalized_run.limiter.bucket.tokens ≤ 1 := by
  have hbounded := every_interval_bounded penalized_run_reached
  refine ⟨by decide +kernel, ?_, by simpa [one_a_second] using hbounded.2.2⟩
  simpa [one_a_second] using hbounded.1 0 3 (by norm_num)

end RateLimiter
