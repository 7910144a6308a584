import Mathlib.Algebra.Order.Ring.Rat
import Mathlib.Data.List.Basic
import Mathlib.Tactic.Linarith
import Arbiter.Framework.System

/-! # The Circuit Breaker

  A venue that keeps failing is left alone for a while: the breaker of its calls opens,
  rejects them until `recovery_timeout` is over, and then lets some through to see whether
  they succeed. Whoever was let through records what became of it, at any later moment and
  in whatever state the breaker is by then.

  ## Contents

  - Section 1: the breaker and its calls.
  - Section 2: runs, with what was recorded and let through.
  - Section 3: what every call keeps.
  - Section 4: the runs that follow the protocol, and two that do not.
-/

namespace CircuitBreaker

open LTS

/-! ## Section 1: The breaker -/

inductive CircuitState where
  | closed
  | opened
  | half_open
  deriving DecidableEq

/-- What a breaker is built with. -/
structure Settings where
  failure_threshold : ℕ
  recovery_timeout : ℚ
  half_open_max : ℕ

/-- The defaults of `CircuitBreaker`. -/
def Settings.default : Settings where
  failure_threshold := 5
  recovery_timeout := 30
  half_open_max := 2

/-- `CircuitBreaker`. -/
structure Breaker where
  state : CircuitState
  failure_count : ℕ
  last_failure_time : ℚ
  half_open_attempts : ℕ
  success_count : ℕ
  total_calls : ℕ

/-- A new breaker is closed. -/
def Breaker.new : Breaker := ⟨.closed, 0, 0, 0, 0, 0⟩

/-- The property `state`, which may leave the breaker half open. -/
def Breaker.read_state (b : Breaker) (cfg : Settings) (now : ℚ) : Breaker :=
  if b.state = .opened ∧ cfg.recovery_timeout ≤ now - b.last_failure_time then
    { b with state := .half_open, half_open_attempts := 0 }
  else b

/-- `can_execute`: the answer, and the breaker. -/
def Breaker.can_execute (b : Breaker) (cfg : Settings) (now : ℚ) : Bool × Breaker :=
  let b := b.read_state cfg now
  (b.state != .opened, b)

/-- `record_success`. -/
def Breaker.record_success (b : Breaker) (cfg : Settings) : Breaker :=
  let b := { b with total_calls := b.total_calls + 1, success_count := b.success_count + 1 }
  match b.state with
  | .half_open =>
      let b := { b with half_open_attempts := b.half_open_attempts + 1 }
      if cfg.half_open_max ≤ b.half_open_attempts then
        { b with state := .closed, failure_count := 0 }
      else b
  -- a success takes one failure from the count, and not all of them
  | .closed => { b with failure_count := b.failure_count - 1 }
  | .opened => b

/-- `record_failure`. -/
def Breaker.record_failure (b : Breaker) (cfg : Settings) (now : ℚ) : Breaker :=
  let b :=
    { b with
      total_calls := b.total_calls + 1
      failure_count := b.failure_count + 1
      last_failure_time := now }
  if b.state = .half_open then { b with state := .opened }
  else if cfg.failure_threshold ≤ b.failure_count then { b with state := .opened }
  else b

/-! ## Section 2: Runs -/

/-- The calls. `retry_with_backoff` asks once, and records the result of every attempt. -/
inductive Call where
  | can_execute (now : ℚ)
  | record_success (now : ℚ)
  | record_failure (now : ℚ)

/-- When the call is made. -/
def Call.now : Call → ℚ
  | .can_execute now => now
  | .record_success now => now
  | .record_failure now => now

/-- The breaker, the clock, and what happened: the results recorded, the latest first, when
    it opened last, and of the half-open period how many calls were let through and which
    results were recorded. -/
structure Run where
  breaker : Breaker
  now : ℚ
  results : List Bool
  opened_at : Option ℚ
  admitted : ℕ
  period : List Bool

/-- Nothing has happened. -/
def Run.start (now : ℚ) : Run := ⟨.new, now, [], none, 0, []⟩

/-- Somebody asks. The period begins with the first call that is let through. -/
def Run.can_execute (r : Run) (cfg : Settings) (now : ℚ) : Run :=
  let b := (r.breaker.can_execute cfg now).2
  { r with
    breaker := b
    now := now
    admitted :=
      if b.state = .half_open then (if r.breaker.state = .half_open then r.admitted + 1 else 1)
      else r.admitted
    period := if b.state = .half_open ∧ r.breaker.state ≠ .half_open then [] else r.period }

/-- A result goes to the results of the period while the breaker is half open. -/
def Run.with_result (r : Run) (ok : Bool) : List Bool :=
  if r.breaker.state = .half_open then ok :: r.period else r.period

/-- A success is recorded. -/
def Run.record_success (r : Run) (cfg : Settings) (now : ℚ) : Run :=
  { r with
    breaker := r.breaker.record_success cfg
    now := now
    results := true :: r.results
    period := r.with_result true }

/-- A failure is recorded. -/
def Run.record_failure (r : Run) (cfg : Settings) (now : ℚ) : Run :=
  let b := r.breaker.record_failure cfg now
  { r with
    breaker := b
    now := now
    results := false :: r.results
    opened_at := if b.state = .opened ∧ r.breaker.state ≠ .opened then some now else r.opened_at
    period := r.with_result false }

/-- The call is made. -/
def Run.make (r : Run) (cfg : Settings) : Call → Run
  | .can_execute now => r.can_execute cfg now
  | .record_success now => r.record_success cfg now
  | .record_failure now => r.record_failure cfg now

/-- Calls in any order, on a clock that does not go back. -/
def system (cfg : Settings) : System Run Call where
  init := fun r => ∃ now, r = .start now
  step := fun r c r' => r.now ≤ c.now ∧ r' = r.make cfg c

/-- The last `n` results are failures. -/
def AllFailed (n : ℕ) (results : List Bool) : Prop := results.take n = List.replicate n false

/-- **The protocol**, of one call. -/
structure Follows (cfg : Settings) (r : Run) (c : Call) (r' : Run) : Prop where
  /-- The breaker opens on `failure_threshold` failures in a row. -/
  opens : r.breaker.state = .closed → r'.breaker.state = .opened →
    AllFailed cfg.failure_threshold r'.results
  /-- It rejects until `recovery_timeout` is over. -/
  rejects : ∀ now opened, c = .can_execute now → r.opened_at = some opened →
    now < opened + cfg.recovery_timeout → (r.breaker.can_execute cfg now).1 = false
  /-- No more than `half_open_max` calls of the period are without a result. -/
  probes : r'.breaker.state = .half_open → r'.admitted ≤ cfg.half_open_max + r'.period.length
  /-- It closes on `half_open_max` successes of the period, which has no failure. -/
  closes : r.breaker.state ≠ .closed → r'.breaker.state = .closed →
    r.breaker.state = .half_open ∧ cfg.half_open_max ≤ r'.period.count true ∧
      r'.period.count false = 0

/-- A failure after a success finds no failure left from before it, and nobody asks for a
    call of the period while `half_open_max` of them are without a result. -/
def Orderly (cfg : Settings) (r : Run) : Call → Prop
  | .can_execute now =>
      (r.breaker.state = .half_open → r.admitted < cfg.half_open_max + r.period.length) ∧
        (r.breaker.state = .opened →
          cfg.recovery_timeout ≤ now - r.breaker.last_failure_time → 0 < cfg.half_open_max)
  | .record_success _ => True
  | .record_failure _ =>
      r.breaker.state = .closed → r.results.head? = some true → r.breaker.failure_count = 0

/-! ## Section 3: What every call keeps -/

section breaker

variable {cfg : Settings} {b : Breaker} {now : ℚ}

/-- Reading the state leaves the breaker half open where the timeout is over, and as it is
    anywhere else. -/
theorem read_state_cases :
    b.state = .opened ∧ cfg.recovery_timeout ≤ now - b.last_failure_time ∧
        b.read_state cfg now = { b with state := .half_open, half_open_attempts := 0 } ∨
      (b.state = .opened → now - b.last_failure_time < cfg.recovery_timeout) ∧
        b.read_state cfg now = b := by
  unfold Breaker.read_state
  split
  · next h => exact .inl ⟨h.1, h.2, rfl⟩
  · next h => exact .inr ⟨fun hopened => not_le.mp fun hle => h ⟨hopened, hle⟩, rfl⟩

theorem record_success_state :
    (b.record_success cfg).state =
      if b.state = .half_open ∧ cfg.half_open_max ≤ b.half_open_attempts + 1 then .closed
      else b.state := by
  unfold Breaker.record_success
  cases hstate : b.state with
  | closed => simp
  | opened => simp
  | half_open =>
    by_cases hmax : cfg.half_open_max ≤ b.half_open_attempts + 1
    · simp [hmax]
    · simp [hmax]

theorem record_success_last_failure_time :
    (b.record_success cfg).last_failure_time = b.last_failure_time := by
  unfold Breaker.record_success
  cases b.state with
  | closed => rfl
  | opened => rfl
  | half_open =>
    dsimp only
    split <;> rfl

/-- The successes of a period that goes on are counted. -/
theorem record_success_attempts (hstate : (b.record_success cfg).state = .half_open) :
    (b.record_success cfg).half_open_attempts = b.half_open_attempts + 1 := by
  have hbefore : b.state = .half_open ∧ ¬ cfg.half_open_max ≤ b.half_open_attempts + 1 := by
    rw [record_success_state] at hstate
    split at hstate
    · cases hstate
    · next h => exact ⟨hstate, fun hmax => h ⟨hstate, hmax⟩⟩
  unfold Breaker.record_success
  simp [hbefore.1, hbefore.2]

theorem record_failure_state :
    (b.record_failure cfg now).state =
      if b.state = .half_open ∨ cfg.failure_threshold ≤ b.failure_count + 1 then .opened
      else b.state := by
  unfold Breaker.record_failure
  by_cases hstate : b.state = .half_open
  · simp [hstate]
  · by_cases hcount : cfg.failure_threshold ≤ b.failure_count + 1
    · simp [hstate, hcount]
    · simp [hstate, hcount]

theorem record_failure_last_failure_time :
    (b.record_failure cfg now).last_failure_time = now := by
  unfold Breaker.record_failure
  dsimp only
  split
  · rfl
  · split <;> rfl

theorem record_failure_count :
    (b.record_failure cfg now).failure_count = b.failure_count + 1 := by
  unfold Breaker.record_failure
  dsimp only
  split
  · rfl
  · split <;> rfl

/-- A failure leaves no breaker half open. -/
theorem record_failure_not_half_open : (b.record_failure cfg now).state ≠ .half_open := by
  rw [record_failure_state]
  split
  · simp
  · next h => exact fun hstate => h (.inl hstate)

end breaker

section kept

variable {cfg : Settings} {r r' : Run} {c : Call} {now : ℚ}

/-- Since it opened last, the breaker is open, or the timeout is over; and all results of
    the half-open period are successes, which it counts. -/
structure Kept (cfg : Settings) (r : Run) : Prop where
  opened : ∀ opened, r.opened_at = some opened → opened ≤ r.now ∧
    (r.breaker.state = .opened ∧ opened ≤ r.breaker.last_failure_time ∨
      opened + cfg.recovery_timeout ≤ r.now)
  period : r.breaker.state = .half_open →
    r.period = List.replicate r.breaker.half_open_attempts true

theorem Kept.start : Kept cfg (.start now) :=
  ⟨by simp [Run.start], by simp [Run.start, Breaker.new]⟩

theorem Kept.can_execute (h : Kept cfg r) (hnow : r.now ≤ now) :
    Kept cfg (r.can_execute cfg now) := by
  unfold Run.can_execute Breaker.can_execute
  rcases @read_state_cases cfg r.breaker now with
    ⟨hopened, hover, hread⟩ | ⟨-, hread⟩
  · -- the breaker is half open from now on: its timeout is over, and its period empty
    rw [hread]
    refine ⟨fun opened hat => ?_, fun _ => by simp [hopened]⟩
    obtain ⟨hpast, ⟨-, hlast⟩ | hdone⟩ := h.opened opened hat
    · exact ⟨hpast.trans hnow, .inr (show opened + cfg.recovery_timeout ≤ now by linarith)⟩
    · exact ⟨hpast.trans hnow, .inr (hdone.trans hnow)⟩
  · rw [hread]
    refine ⟨fun opened hat => ?_, fun hstate => ?_⟩
    · obtain ⟨hpast, hopen⟩ := h.opened opened hat
      exact ⟨hpast.trans hnow, hopen.imp_right fun hdone => hdone.trans hnow⟩
    · have hstate : r.breaker.state = .half_open := hstate
      simp only [hstate, ne_eq, not_true, and_false, if_false]
      exact h.period hstate

theorem Kept.record_success (h : Kept cfg r) (hnow : r.now ≤ now) :
    Kept cfg (r.record_success cfg now) := by
  refine ⟨fun opened hat => ?_, fun hstate => ?_⟩
  · obtain ⟨hpast, ⟨hopened, hlast⟩ | hdone⟩ := h.opened opened hat
    · refine ⟨hpast.trans hnow, .inl ⟨?_, ?_⟩⟩
      · show (r.breaker.record_success cfg).state = .opened
        rw [record_success_state, if_neg (by simp [hopened]), hopened]
      · show opened ≤ (r.breaker.record_success cfg).last_failure_time
        rw [record_success_last_failure_time]
        exact hlast
    · exact ⟨hpast.trans hnow, .inr (hdone.trans hnow)⟩
  · replace hstate : (r.breaker.record_success cfg).state = .half_open := hstate
    have hbefore : r.breaker.state = .half_open := by
      rw [record_success_state] at hstate
      split at hstate
      · cases hstate
      · exact hstate
    show r.with_result true =
      List.replicate (r.breaker.record_success cfg).half_open_attempts true
    rw [record_success_attempts hstate, Run.with_result, if_pos hbefore, h.period hbefore]
    rfl

theorem Kept.record_failure (h : Kept cfg r) (hnow : r.now ≤ now) :
    Kept cfg (r.record_failure cfg now) := by
  refine ⟨fun opened hat => ?_, fun hstate => absurd hstate record_failure_not_half_open⟩
  show opened ≤ now ∧ ((r.breaker.record_failure cfg now).state = .opened ∧
    opened ≤ (r.breaker.record_failure cfg now).last_failure_time ∨
      opened + cfg.recovery_timeout ≤ now)
  rw [record_failure_last_failure_time]
  replace hat : (if (r.breaker.record_failure cfg now).state = .opened ∧
      r.breaker.state ≠ .opened then some now else r.opened_at) = some opened := hat
  split at hat
  · -- it opens with this failure
    next hopens =>
    cases hat
    exact ⟨le_rfl, .inl ⟨hopens.1, le_rfl⟩⟩
  · obtain ⟨hpast, ⟨hopened, -⟩ | hdone⟩ := h.opened opened hat
    · -- an open breaker stays open, and rejects from the new failure on
      refine ⟨hpast.trans hnow, .inl ⟨?_, hpast.trans hnow⟩⟩
      rw [record_failure_state, hopened]
      split <;> rfl
    · exact ⟨hpast.trans hnow, .inr (hdone.trans hnow)⟩

theorem kept : Invariant (system cfg) (Kept cfg) := by
  refine Invariant.of_step ?_ ?_
  · rintro r ⟨now, rfl⟩
    exact .start
  · rintro r c _ h ⟨hnow, rfl⟩
    cases c with
    | can_execute now => exact h.can_execute hnow
    | record_success now => exact h.record_success hnow
    | record_failure now => exact h.record_failure hnow

/-- In every run the breaker rejects until the timeout is over. -/
theorem rejects_until_recovery (h : Kept cfg r) {opened : ℚ} (hnow : r.now ≤ now)
    (hat : r.opened_at = some opened) (hearly : now < opened + cfg.recovery_timeout) :
    (r.breaker.can_execute cfg now).1 = false := by
  obtain ⟨-, ⟨hopened, hlast⟩ | hdone⟩ := h.opened opened hat
  · have hwaits : r.breaker.read_state cfg now = r.breaker := if_neg fun hover => by
      linarith [hover.2]
    show ((r.breaker.read_state cfg now).state != .opened) = false
    rw [hwaits, hopened]
    rfl
  · exact absurd hearly (not_lt.mpr (hdone.trans hnow))

/-- In every run the breaker closes on `half_open_max` successes of a period without a
    failure. -/
theorem closes_on_successes (h : Kept cfg r) (hstep : (system cfg).step r c r')
    (hbefore : r.breaker.state ≠ .closed) (hclosed : r'.breaker.state = .closed) :
    r.breaker.state = .half_open ∧ cfg.half_open_max ≤ r'.period.count true ∧
      r'.period.count false = 0 := by
  obtain ⟨-, rfl⟩ := hstep
  cases c with
  | can_execute now =>
    replace hclosed : (r.breaker.read_state cfg now).state = .closed := hclosed
    rcases @read_state_cases cfg r.breaker now with
      ⟨-, -, hread⟩ | ⟨-, hread⟩
    · rw [hread] at hclosed
      cases hclosed
    · rw [hread] at hclosed
      exact absurd hclosed hbefore
  | record_success now =>
    replace hclosed : (r.breaker.record_success cfg).state = .closed := hclosed
    rw [record_success_state] at hclosed
    split at hclosed
    · -- the last success that was waited for; those before it are the whole period
      next hdone =>
      have hperiod : (r.record_success cfg now).period =
          List.replicate (r.breaker.half_open_attempts + 1) true := by
        show r.with_result true = _
        rw [Run.with_result, if_pos hdone.1, h.period hdone.1]
        rfl
      refine ⟨hdone.1, ?_, ?_⟩
      · show cfg.half_open_max ≤ (r.record_success cfg now).period.count true
        rw [hperiod, List.count_replicate_self]
        exact hdone.2
      · show (r.record_success cfg now).period.count false = 0
        rw [hperiod, List.count_replicate]
        rfl
    · exact absurd hclosed hbefore
  | record_failure now =>
    replace hclosed : (r.breaker.record_failure cfg now).state = .closed := hclosed
    rw [record_failure_state] at hclosed
    split at hclosed
    · cases hclosed
    · exact absurd hclosed hbefore

end kept

/-! ## Section 4: The protocol -/

section protocol

variable {cfg : Settings} {r r' : Run} {c : Call} {now : ℚ} {results : List Bool} {m n : ℕ}

theorem AllFailed.cons (h : AllFailed n results) : AllFailed (n + 1) (false :: results) :=
  congrArg (List.cons false) h

theorem AllFailed.mono (h : AllFailed n results) (hle : m ≤ n) : AllFailed m results := by
  have htake : results.take m = (results.take n).take m := by
    rw [List.take_take, min_eq_left hle]
  rw [AllFailed, htake, h, List.take_replicate, min_eq_left hle]

/-- What the calls of an orderly run keep besides: no more failures are counted than there
    were in a row, a success apart, and there is room for every call that is out. -/
structure Counted (cfg : Settings) (r : Run) : Prop where
  failures : r.breaker.state = .closed →
    r.results.head? = some true ∨ AllFailed r.breaker.failure_count r.results
  probes : r.breaker.state = .half_open → r.admitted ≤ cfg.half_open_max + r.period.length

/-- A failure counts as one more in a row. -/
theorem Counted.in_a_row (h : Counted cfg r) (horderly : Orderly cfg r (.record_failure now))
    (hclosed : r.breaker.state = .closed) :
    AllFailed (r.breaker.failure_count + 1) (false :: r.results) := by
  rcases h.failures hclosed with hsuccess | hfailed
  · rw [horderly hclosed hsuccess]
    rfl
  · exact hfailed.cons

theorem Counted.can_execute (h : Counted cfg r) (horderly : Orderly cfg r (.can_execute now)) :
    Counted cfg (r.can_execute cfg now) := by
  unfold Run.can_execute Breaker.can_execute
  rcases @read_state_cases cfg r.breaker now with
    ⟨hopened, hover, hread⟩ | ⟨-, hread⟩
  · -- the first call of a period
    rw [hread]
    refine ⟨by simp, fun _ => ?_⟩
    have hroom := horderly.2 hopened hover
    simp only [hopened, reduceCtorEq, if_true, if_false, ne_eq, not_false_eq_true, and_self,
      List.length_nil]
    omega
  · rw [hread]
    refine ⟨h.failures, fun hstate => ?_⟩
    replace hstate : r.breaker.state = .half_open := hstate
    have hroom := horderly.1 hstate
    simp only [hstate, if_true, ne_eq, not_true, and_false, if_false]
    omega

theorem Counted.record_success (h : Counted cfg r) : Counted cfg (r.record_success cfg now) := by
  refine ⟨fun _ => .inl rfl, fun hstate => ?_⟩
  replace hstate : (r.breaker.record_success cfg).state = .half_open := hstate
  have hbefore : r.breaker.state = .half_open := by
    rw [record_success_state] at hstate
    split at hstate
    · cases hstate
    · exact hstate
  have hroom := h.probes hbefore
  show r.admitted ≤ cfg.half_open_max + (r.with_result true).length
  rw [Run.with_result, if_pos hbefore, List.length_cons]
  omega

theorem Counted.record_failure (h : Counted cfg r)
    (horderly : Orderly cfg r (.record_failure now)) :
    Counted cfg (r.record_failure cfg now) := by
  refine ⟨fun hstate => .inr ?_, fun hstate => absurd hstate record_failure_not_half_open⟩
  replace hstate : (r.breaker.record_failure cfg now).state = .closed := hstate
  have hclosed : r.breaker.state = .closed := by
    rw [record_failure_state] at hstate
    split at hstate
    · cases hstate
    · exact hstate
  show AllFailed (r.breaker.record_failure cfg now).failure_count (false :: r.results)
  rw [record_failure_count]
  exact h.in_a_row horderly hclosed

theorem counted : Invariant ((system cfg).restrict (Orderly cfg)) (Counted cfg) := by
  refine Invariant.of_step ?_ ?_
  · rintro r ⟨now, rfl⟩
    exact ⟨fun _ => .inr rfl, by simp [Run.start, Breaker.new]⟩
  · rintro r c _ h ⟨horderly, -, rfl⟩
    cases c with
    | can_execute now => exact h.can_execute horderly
    | record_success now => exact h.record_success
    | record_failure now => exact h.record_failure horderly

/-- The breaker opens on failures in a row only. -/
theorem Counted.opens (h : Counted cfg r) (horderly : Orderly cfg r c)
    (hclosed : r.breaker.state = .closed) (hopened : (r.make cfg c).breaker.state = .opened) :
    AllFailed cfg.failure_threshold (r.make cfg c).results := by
  cases c with
  | can_execute now =>
    have hwaits : r.breaker.read_state cfg now = r.breaker := if_neg fun hover => by
      rw [hclosed] at hover
      cases hover.1
    replace hopened : (r.breaker.read_state cfg now).state = .opened := hopened
    rw [hwaits, hclosed] at hopened
    cases hopened
  | record_success now =>
    replace hopened : (r.breaker.record_success cfg).state = .opened := hopened
    rw [record_success_state, if_neg (by simp [hclosed]), hclosed] at hopened
    cases hopened
  | record_failure now =>
    replace hopened : (r.breaker.record_failure cfg now).state = .opened := hopened
    rw [record_failure_state, hclosed] at hopened
    split at hopened
    · next hreached =>
      have hthreshold := hreached.resolve_left (by simp)
      exact (h.in_a_row horderly hclosed).mono hthreshold
    · cases hopened

/-- In every orderly run, every call follows the protocol. -/
theorem protocol_followed (hr : Reachable ((system cfg).restrict (Orderly cfg)) r)
    (horderly : Orderly cfg r c) (hstep : (system cfg).step r c r') : Follows cfg r c r' := by
  have hkept := kept r hr.of_restrict
  have hcounted := counted r hr
  have hafter := counted r' (hr.step ⟨horderly, hstep⟩)
  refine ⟨fun hclosed hopened => ?_, ?_, hafter.probes, closes_on_successes hkept hstep⟩
  · obtain ⟨-, rfl⟩ := hstep
    exact hcounted.opens horderly hclosed hopened
  · rintro now opened rfl hat hearly
    exact rejects_until_recovery hkept hstep.1 hat hearly

end protocol

/-- One failure is enough, and one call is let through. -/
def one_strike : Settings := ⟨1, 30, 1⟩

/-- The failure opens the breaker, and the call that asks a second later is rejected. -/
theorem protocol_followed_one_strike :
    Follows one_strike ((Run.start 0).record_failure one_strike 1) (.can_execute 2)
      (((Run.start 0).record_failure one_strike 1).can_execute one_strike 2) := by
  have hstart : Reachable ((system one_strike).restrict (Orderly one_strike)) (.start 0) :=
    .init ⟨0, rfl⟩
  have hfailed : Reachable ((system one_strike).restrict (Orderly one_strike))
      ((Run.start 0).record_failure one_strike 1) :=
    hstart.step
      (show ((system one_strike).restrict (Orderly one_strike)).step _ (.record_failure 1) _ from
        ⟨fun _ _ => rfl, show (0 : ℚ) ≤ 1 by norm_num, rfl⟩)
  exact protocol_followed hfailed ⟨by simp [Run.record_failure, record_failure_state, one_strike],
    fun _ _ => Nat.one_pos⟩ ⟨show (1 : ℚ) ≤ 2 by norm_num, rfl⟩

/-! ### Two runs that do not follow it -/

section runs

variable {cfg : Settings} {ok : Run → Call → Prop} {r : Run} {calls : List Call}

/-- The calls, one after another. -/
def Run.makes (r : Run) (cfg : Settings) (calls : List Call) : Run := calls.foldl (·.make cfg) r

theorem make_now {c : Call} : (r.make cfg c).now = c.now := by
  cases c <;> rfl

/-- Calls on a clock that does not go back are a run. -/
theorem reachable_makes (hr : Reachable (system cfg) r)
    (hclock : (r.now :: calls.map Call.now).Pairwise (· ≤ ·)) :
    Reachable (system cfg) (r.makes cfg calls) := by
  induction calls generalizing r with
  | nil => exact hr
  | cons c calls ih =>
    obtain ⟨hfirst, hrest⟩ := List.pairwise_cons.mp hclock
    refine ih (hr.step ⟨hfirst c.now (by simp), rfl⟩) ?_
    rw [make_now]
    exact hrest

end runs

/-- Four failures, a success, and one more failure, a second after another. -/
def with_success : Run :=
  (Run.start 0).makes .default
    [.record_failure 1, .record_failure 2, .record_failure 3, .record_failure 4,
      .record_success 5, .record_failure 6]

/-- Five failures, and two calls when the timeout is over. -/
def two_probes : Run :=
  (Run.start 0).makes .default
    [.record_failure 1, .record_failure 2, .record_failure 3, .record_failure 4,
      .record_failure 5, .can_execute 35, .can_execute 36]

/-- The sixth failure opens the breaker with a success among the last five results, and a
    third call is let through. -/
theorem success_among_last :
    ¬ (∀ r c r', Reachable (system .default) r → (system .default).step r c r' →
        (r.breaker.state = .closed → r'.breaker.state = .opened → AllFailed 5 r'.results)) ∧
      ¬ (∀ r c r', Reachable (system .default) r → (system .default).step r c r' →
        (r'.breaker.state = .half_open → r'.admitted ≤ 2 + r'.period.length)) := by
  have hstart : Reachable (system .default) (Run.start 0) := .init ⟨0, rfl⟩
  constructor
  · intro hopens
    have hreached : Reachable (system .default) with_success :=
      reachable_makes hstart (by decide +kernel)
    have hfailed := hopens with_success (.record_failure 7) _ hreached
      ⟨by decide +kernel, rfl⟩ (by decide +kernel) (by decide +kernel)
    revert hfailed
    unfold AllFailed
    decide +kernel
  · intro hprobes
    have hreached : Reachable (system .default) two_probes :=
      reachable_makes hstart (by decide +kernel)
    have hroom := hprobes two_probes (.can_execute 37) _ hreached ⟨by decide +kernel, rfl⟩
      (by decide +kernel)
    revert hroom
    decide +kernel

end CircuitBreaker
