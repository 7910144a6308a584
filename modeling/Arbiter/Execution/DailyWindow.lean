import Mathlib.Algebra.Order.Floor.Semiring
import Mathlib.Tactic.GCongr
import Arbiter.Execution.Caps

/-! # The Daily Window

  The daily counters are started afresh by the first check of a new UTC day that gets as
  far as the limits. What is booked between midnight and that check goes to the counters
  of the day before.
-/

namespace Execution.DailyWindow

open LTS RiskManager Decimal

/-! ## Section 1: Calls -/

/-- `_utc_day`, counted from the epoch. -/
def utc_day (now : ℚ≥0) : ℕ := ⌊now / 86400⌋₊

theorem utc_day_mono {now later : ℚ≥0} (h : now ≤ later) : utc_day now ≤ utc_day later := by
  unfold utc_day
  gcongr

/-- `_maybe_halt_on_daily_loss`: books the unwind, and says why the kill switch is tripped.
    `is_armed` is `none` without a supervisor. -/
def maybe_halt_on_daily_loss (limits : RiskLimits) (rm : RiskManager) (is_armed : Option Bool)
    (unwind_pnl : ℚ) : RiskManager × Option String :=
  let rm := if unwind_pnl ≠ 0 then { rm with daily_pnl := rm.daily_pnl + unwind_pnl } else rm
  if limits.max_daily_loss < rm.daily_pnl then (rm, none)
  else
    match is_armed with
    | none => (rm, none)
    | some true => (rm, none)
    | some false =>
        (rm, some ("Daily loss limit reached: $" ++ (fixed_signed 2 rm.daily_pnl ++
          (" <= $" ++ fixed_signed 2 limits.max_daily_loss))))

/-- The calls that read or write the counters. -/
inductive Call
  | check_trade (opp : Opportunity)
  | record_trade (canonical_id : String) (exposure : ℚ≥0) (pnl : ℚ) (alloc : Allocation)
  | release_trade (canonical_id : String) (exposure : ℚ≥0) (pnl : ℚ) (alloc : Allocation)
  | maybe_halt_on_daily_loss (is_armed : Option Bool) (unwind_pnl : ℚ)

/-- The manager after a call. -/
def Call.apply (limits : RiskLimits) (rm : RiskManager) (today : ℕ) : Call → RiskManager
  | .check_trade opp => (rm.check_trade limits today opp).2
  | .record_trade canonical_id exposure pnl alloc =>
      rm.record_trade canonical_id exposure pnl alloc
  | .release_trade canonical_id exposure pnl alloc =>
      rm.release_trade canonical_id exposure pnl alloc
  | .maybe_halt_on_daily_loss is_armed unwind_pnl =>
      (DailyWindow.maybe_halt_on_daily_loss limits rm is_armed unwind_pnl).1

/-- The trades a call records. -/
def Call.trades : Call → ℕ
  | .record_trade .. => 1
  | _ => 0

/-- The profit a call books. -/
def Call.pnl : Call → ℚ
  | .check_trade _ => 0
  | .record_trade _ _ pnl _ => pnl
  | .release_trade _ _ pnl _ => pnl
  | .maybe_halt_on_daily_loss _ unwind_pnl => unwind_pnl

/-! ## Section 2: Runs -/

/-- The manager, the clock, and the calls so far, the latest first. -/
structure Run where
  risk : RiskManager
  now : ℚ≥0
  calls : List (ℚ≥0 × Call)

/-- What is booked on a day, by an amount each call has. -/
def booked_on {M : Type} [AddMonoid M] (amount : Call → M) (day : ℕ)
    (calls : List (ℚ≥0 × Call)) : M :=
  ((calls.filter fun c => utc_day c.1 = day).map fun c => amount c.2).sum

/-- The trades recorded on a day. -/
abbrev trades_on : ℕ → List (ℚ≥0 × Call) → ℕ := booked_on Call.trades

/-- The profit booked on a day. -/
abbrev pnl_on : ℕ → List (ℚ≥0 × Call) → ℚ := booked_on Call.pnl

/-- Calls in any order, the clock does not go back. -/
def risk_system (limits : RiskLimits) : System Run (ℚ≥0 × Call) where
  init := fun s => s = ⟨fresh (utc_day s.now), s.now, []⟩
  step := fun s c s' => s.now ≤ c.1 ∧
    s' = ⟨c.2.apply limits s.risk (utc_day c.1), c.1, c :: s.calls⟩

/-- What is booked is booked on the day of the window. -/
def BooksInWindow (s : Run) (c : ℚ≥0 × Call) : Prop :=
  (c.2.trades = 0 ∧ c.2.pnl = 0) ∨ utc_day c.1 = s.risk.daily_window_day

/-- A check approves only below the limits of its day. -/
def ApprovesWithinDay (limits : RiskLimits) (s : Run) : Prop :=
  ∀ now opp, s.now ≤ now → (s.risk.check_trade limits (utc_day now) opp).1 = none →
    (trades_on (utc_day now) s.calls : ℤ) < limits.max_daily_trades ∧
      limits.max_daily_loss < pnl_on (utc_day now) s.calls

/-! ## Section 3: The counters -/

section counters

variable {limits : RiskLimits} {s s' : Run} {day : ℕ} {calls : List (ℚ≥0 × Call)}

theorem booked_on_cons {M : Type} [AddMonoid M] (amount : Call → M) (c : ℚ≥0 × Call) :
    booked_on amount day (c :: calls) =
      (if utc_day c.1 = day then amount c.2 else 0) + booked_on amount day calls := by
  by_cases hday : utc_day c.1 = day
  · simp [booked_on, hday]
  · simp [booked_on, hday]

/-- A call that books nothing counts for no day. -/
theorem booked_on_cons_of_idle {M : Type} [AddMonoid M] {amount : Call → M} {c : ℚ≥0 × Call}
    (hc : amount c.2 = 0) : booked_on amount day (c :: calls) = booked_on amount day calls := by
  rw [booked_on_cons, hc, ite_self, zero_add]

/-- The counters are those of the window's day, and nothing is booked after it. -/
structure Counted (rm : RiskManager) (calls : List (ℚ≥0 × Call)) : Prop where
  trades : rm.daily_trades = trades_on rm.daily_window_day calls
  pnl : rm.daily_pnl = pnl_on rm.daily_window_day calls
  later : ∀ day, rm.daily_window_day < day → trades_on day calls = 0 ∧ pnl_on day calls = 0

/-- Rolling the window forward keeps the counters right. -/
theorem Counted.roll {rm : RiskManager} (h : Counted rm calls) {today : ℕ}
    (htoday : rm.daily_window_day ≤ today) : Counted (rm.roll_daily_window today) calls := by
  unfold roll_daily_window
  split
  · next hne =>
    have hlater := h.later today (lt_of_le_of_ne htoday (Ne.symm hne))
    exact ⟨hlater.1.symm, hlater.2.symm, fun day hday => h.later day (htoday.trans_lt hday)⟩
  · exact h

/-- A call that only adds to the counters, on the day of the window. -/
theorem Counted.book {rm rm' : RiskManager} (h : Counted rm calls) {c : ℚ≥0 × Call}
    (hday : rm'.daily_window_day = rm.daily_window_day)
    (htrades : rm'.daily_trades = rm.daily_trades + c.2.trades)
    (hpnl : rm'.daily_pnl = rm.daily_pnl + c.2.pnl)
    (hwindow : (c.2.trades = 0 ∧ c.2.pnl = 0) ∨ utc_day c.1 = rm.daily_window_day) :
    Counted rm' (c :: calls) := by
  obtain hidle | htoday := hwindow
  · refine ⟨?_, ?_, fun day hlater => ?_⟩
    · rw [htrades, hday, trades_on, booked_on_cons_of_idle hidle.1, hidle.1, h.trades, Nat.add_zero]
    · rw [hpnl, hday, pnl_on, booked_on_cons_of_idle hidle.2, hidle.2, h.pnl, add_zero]
    · rw [trades_on, pnl_on, booked_on_cons_of_idle hidle.1, booked_on_cons_of_idle hidle.2]
      exact h.later day (hday ▸ hlater)
  · refine ⟨?_, ?_, fun day hlater => ?_⟩
    · rw [htrades, hday, trades_on, booked_on_cons, if_pos htoday, h.trades, Nat.add_comm]
    · rw [hpnl, hday, pnl_on, booked_on_cons, if_pos htoday, h.pnl, add_comm]
    · have hne : utc_day c.1 ≠ day := by
        rw [htoday]
        exact (hday ▸ hlater : rm.daily_window_day < day).ne
      rw [trades_on, pnl_on, booked_on_cons, booked_on_cons, if_neg hne, if_neg hne,
        zero_add, zero_add]
      exact h.later day (hday ▸ hlater)

/-- The unwind is added, and nothing else. -/
theorem maybe_halt_fst (rm : RiskManager) (is_armed : Option Bool) (unwind_pnl : ℚ) :
    (maybe_halt_on_daily_loss limits rm is_armed unwind_pnl).1 =
      { rm with daily_pnl := rm.daily_pnl + unwind_pnl } := by
  have hbooked : (if unwind_pnl ≠ 0 then { rm with daily_pnl := rm.daily_pnl + unwind_pnl }
      else rm) = { rm with daily_pnl := rm.daily_pnl + unwind_pnl } := by
    split
    · rfl
    · next hzero => rw [not_not.mp hzero, add_zero]
  unfold maybe_halt_on_daily_loss
  dsimp only
  rw [hbooked]
  split
  · rfl
  · split <;> rfl

/-- Every call that books in the window keeps the counters right. -/
theorem Counted.step {rm : RiskManager} (h : Counted rm calls) {c : ℚ≥0 × Call}
    (hahead : rm.daily_window_day ≤ utc_day c.1)
    (hwindow : (c.2.trades = 0 ∧ c.2.pnl = 0) ∨ utc_day c.1 = rm.daily_window_day) :
    Counted (c.2.apply limits rm (utc_day c.1)) (c :: calls) := by
  obtain ⟨now, call⟩ := c
  cases call with
  | check_trade opp =>
    have hadd {rm : RiskManager} (h : Counted rm calls) :
        Counted rm ((now, .check_trade opp) :: calls) :=
      h.book rfl rfl (add_zero _).symm (.inl ⟨rfl, rfl⟩)
    show Counted (rm.check_trade limits (utc_day now) opp).2 _
    obtain hsame | hroll := check_trade_snd limits rm (utc_day now) opp
    · rw [hsame]
      exact hadd h
    · rw [hroll]
      exact hadd (h.roll hahead)
  | record_trade canonical_id exposure pnl alloc => exact h.book rfl rfl rfl hwindow
  | release_trade canonical_id exposure pnl alloc => exact h.book rfl rfl rfl hwindow
  | maybe_halt_on_daily_loss is_armed unwind_pnl =>
    show Counted (DailyWindow.maybe_halt_on_daily_loss limits rm is_armed unwind_pnl).1 _
    rw [maybe_halt_fst]
    exact h.book rfl rfl rfl hwindow

/-- The window is never ahead of the day. -/
theorem apply_window_le {rm : RiskManager} {c : ℚ≥0 × Call}
    (hahead : rm.daily_window_day ≤ utc_day c.1) :
    (c.2.apply limits rm (utc_day c.1)).daily_window_day ≤ utc_day c.1 := by
  obtain ⟨now, call⟩ := c
  cases call with
  | check_trade opp =>
    obtain hsame | hroll := check_trade_snd limits rm (utc_day now) opp
    · exact (congrArg daily_window_day hsame).trans_le hahead
    · exact ((congrArg daily_window_day hroll).trans (roll_daily_window_day _ _)).le
  | record_trade canonical_id exposure pnl alloc => exact hahead
  | release_trade canonical_id exposure pnl alloc => exact hahead
  | maybe_halt_on_daily_loss is_armed unwind_pnl =>
    exact (congrArg daily_window_day (maybe_halt_fst rm is_armed unwind_pnl)).trans_le hahead

/-- An approval is one of both limits, in the window of the day. -/
theorem approved_limits {rm : RiskManager} {today : ℕ} {opp : Opportunity}
    (h : (rm.check_trade limits today opp).1 = none) :
    ((rm.roll_daily_window today).daily_trades : ℤ) < limits.max_daily_trades ∧
      limits.max_daily_loss < (rm.roll_daily_window today).daily_pnl := by
  refine ⟨(check_trade_approved h).2.trades, ?_⟩
  by_contra hloss
  unfold check_trade at h
  dsimp only at h
  rw [if_pos (not_lt.mp hloss)] at h
  split_ifs at h

end counters

/-! ## Section 4: Whole runs -/

section runs

variable {limits : RiskLimits} {s : Run}

/-- In every run that books in the window only, a check approves only below the limits of
    its day. -/
theorem approves_within_day
    (hs : Reachable ((risk_system limits).restrict BooksInWindow) s) :
    ApprovesWithinDay limits s := by
  have hcounted : Invariant ((risk_system limits).restrict BooksInWindow) fun s =>
      Counted s.risk s.calls ∧ s.risk.daily_window_day ≤ utc_day s.now := by
    refine Invariant.of_step ?_ ?_
    · intro s hinit
      obtain ⟨hrisk, hcalls⟩ : s.risk = fresh (utc_day s.now) ∧ s.calls = [] := by
        rw [show s = _ from hinit]
        exact ⟨rfl, rfl⟩
      rw [hrisk, hcalls]
      exact ⟨⟨rfl, rfl, fun _ _ => ⟨rfl, rfl⟩⟩, le_rfl⟩
    · rintro s c _ ⟨hcounted, hahead⟩ ⟨hwindow, hnow, rfl⟩
      have hday := hahead.trans (utc_day_mono hnow)
      exact ⟨hcounted.step hday hwindow, apply_window_le hday⟩
  obtain ⟨hcounted, hahead⟩ := hcounted s hs
  intro now opp hnow happroved
  have hroll := hcounted.roll (hahead.trans (utc_day_mono hnow))
  have hday := roll_daily_window_day s.risk (utc_day now)
  have htrades := hroll.trades
  have hpnl := hroll.pnl
  rw [hday] at htrades hpnl
  rw [← htrades, ← hpnl]
  exact approved_limits happroved

end runs

/-- Limits of one trade a day. -/
def one_a_day : RiskLimits := { Caps.hundred_dollars with max_daily_trades := 1 }

/-- The process starts a second before midnight. -/
def before_midnight : Run := ⟨fresh (utc_day 86399), 86399, []⟩

/-- The calls of an execution: the check, and what it records. -/
def checked : ℚ≥0 × Call := (86399, .check_trade (Caps.sixty_dollars "m1"))

def recorded_at (now : ℚ≥0) : ℚ≥0 × Call :=
  (now, .record_trade "m1" 30 0 .market_only)

/-- The manager after the execution. -/
def after_trade (now : ℚ≥0) : Run where
  risk := (fresh (utc_day 86399)).record_trade "m1" 30 0 .market_only
  now := now
  calls := [recorded_at now, checked]

/-- The check on the day the process has started leaves the manager as it is. -/
theorem checked_apply {limits : RiskLimits}
    (happroved : ((fresh (utc_day 86399)).check_trade limits (utc_day 86399)
      (Caps.sixty_dollars "m1")).1 = none) :
    checked.2.apply limits before_midnight.risk (utc_day 86399) = fresh (utc_day 86399) := by
  have hroll : ((fresh (utc_day 86399)).check_trade limits (utc_day 86399)
      (Caps.sixty_dollars "m1")).2 = (fresh (utc_day 86399)).roll_daily_window (utc_day 86399) :=
    (check_trade_approved happroved).1
  exact hroll.trans (if_neg (not_not.mpr rfl))

/-- Before midnight, the next check sees the trade. -/
theorem approves_after_trade :
    (trades_on (utc_day 86399) (after_trade 86399).calls : ℤ) <
        Caps.hundred_dollars.max_daily_trades ∧
      Caps.hundred_dollars.max_daily_loss < pnl_on (utc_day 86399) (after_trade 86399).calls := by
  have hchecked : Reachable ((risk_system Caps.hundred_dollars).restrict BooksInWindow)
      ⟨fresh (utc_day 86399), 86399, [checked]⟩ := by
    refine .step (.init (s := before_midnight) rfl) (l := checked) ⟨.inl ⟨rfl, rfl⟩, le_rfl, ?_⟩
    exact congrArg (fun rm => (⟨rm, 86399, [checked]⟩ : Run))
      (checked_apply (by decide +kernel)).symm
  exact approves_within_day
    (.step hchecked (l := recorded_at 86399) ⟨.inr rfl, le_rfl, rfl⟩ :
      Reachable ((risk_system Caps.hundred_dollars).restrict BooksInWindow) (after_trade 86399))
    86399 (Caps.sixty_dollars "m2") le_rfl (by decide +kernel)

/-- A trade that was checked before midnight and is recorded after it is forgotten by the
    next check. -/
theorem trade_after_midnight_forgotten :
    ¬ ∀ limits s, Reachable (risk_system limits) s → ApprovesWithinDay limits s := by
  intro hholds
  have hchecked : Reachable (risk_system one_a_day)
      ⟨fresh (utc_day 86399), 86399, [checked]⟩ := by
    refine .step (.init (s := before_midnight) rfl) (l := checked) ⟨le_rfl, ?_⟩
    exact congrArg (fun rm => (⟨rm, 86399, [checked]⟩ : Run))
      (checked_apply (by decide +kernel)).symm
  have hrecorded : Reachable (risk_system one_a_day) (after_trade 86401) :=
    .step hchecked (l := recorded_at 86401) ⟨by decide +kernel, rfl⟩
  have happroves := hholds _ _ hrecorded 86402 (Caps.sixty_dollars "m2") (by decide +kernel)
    (by decide +kernel)
  exact absurd happroves.1 (by decide +kernel)

end Execution.DailyWindow
