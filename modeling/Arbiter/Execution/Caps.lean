import Mathlib.Tactic.Linarith
import Arbiter.Framework.System
import Arbiter.Execution.Risk

/-! # Exposure Caps under Concurrent Executions

  Executions of different markets run concurrently. Each checks the book, awaits
  the venues, and books afterwards; only executions of one market exclude each
  other. The system below has one task per market lock and every order of steps.

  The check is not repeated when an execution books, so the caps hold exactly as
  long as every booking still rests on a fresh check: `caps_hold_after_record`.
-/

open LTS

namespace Execution.Caps

/-! ### State -/

/-- An execution that passed the check and holds the lock of its market. -/
structure Task where
  /-- The opportunity as it was checked. -/
  checked : Opportunity
  /-- The opportunity as re-quoted, which is what gets booked. -/
  current : Opportunity
  /-- UTC day of the check. -/
  checked_day : ℕ
  /-- The execution has booked. -/
  recorded : Bool
  /-- Ghost: another execution booked since the check. -/
  stale : Bool

/-- The engine's book, the clock, and the executions in flight by market. -/
structure State where
  risk : RiskManager
  /-- The current UTC day. -/
  today : ℕ
  tasks : String → Option Task
  /-- Ghost: trades booked today. -/
  recorded_today : ℕ

/-! ### Labels -/

/-- Steps of the concurrent executions. -/
inductive Label
  /-- Take the lock of the market and check the opportunity. -/
  | check (opp : Opportunity)
  /-- Replace the prices by fresh ones, within the slippage tolerance. -/
  | requote (c : String) (yes_price no_price : ℚ≥0) (net_edge : ℚ)
  /-- Book the opportunity and its profit. -/
  | record (c : String) (b : RiskManager.Booked) (pnl : ℚ)
  /-- Recovery of an execution that has booked gives exposure back. -/
  | release (c : String) (exposure : ℚ≥0) (platform : String)
  /-- An unwind moves the daily profit. -/
  | unwind_pnl (c : String) (pnl : ℚ)
  /-- Return, with or without having booked. -/
  | leave (c : String)
  /-- Midnight UTC. -/
  | new_day (day : ℕ)

/-! ### Steps -/

/-- `_execute_opportunity_locked` up to the check: the lock is kept only when the
    trade is approved. -/
def after_check (limits : RiskLimits) (s : State) (opp : Opportunity) : State :=
  let r := s.risk.check_trade limits s.today opp
  if r.1 = none then
    { s with
      risk := r.2
      tasks := Function.update s.tasks opp.canonical_id
        (some { checked := opp, current := opp, checked_day := s.today
                recorded := false, stale := false }) }
  else { s with risk := r.2 }

/-- An approved check, on a day the window already belongs to, adds a task. -/
theorem after_check_approved {limits : RiskLimits} {s : State} {opp : Opportunity}
    (happ : (s.risk.check_trade limits s.today opp).1 = none)
    (hday : s.risk.daily_window_day = s.today) :
    after_check limits s opp =
      { s with
        tasks := Function.update s.tasks opp.canonical_id
          (some { checked := opp, current := opp, checked_day := s.today
                  recorded := false, stale := false }) } := by
  have hroll : s.risk.roll_daily_window s.today = s.risk := by
    rw [RiskManager.roll_daily_window, if_neg (not_not.2 hday.symm)]
  rw [after_check, if_pos happ, (RiskManager.check_trade_approved happ).1, hroll]

/-- Re-quoting replaces the prices of a task. -/
def Task.requoted (t : Task) (yes_price no_price : ℚ≥0) (net_edge : ℚ) : Task :=
  { t with current :=
      { t.current with yes_price, no_price, net_edge, net_edge_cents := net_edge * 100 } }

/-- Booking: the book moves, and every other check becomes stale. -/
def after_record (s : State) (c : String) (t : Task) (b : RiskManager.Booked) (pnl : ℚ) :
    State :=
  { s with
    risk := s.risk.book t.current b pnl
    tasks := Function.update (fun c' => (s.tasks c').map fun t' => { t' with stale := true }) c
      (some { t with recorded := true })
    recorded_today := s.recorded_today + 1 }

/-- Concurrent executions over one risk manager. -/
def executions (limits : RiskLimits) (slippage_tolerance : ℚ) : System State Label where
  init := fun s =>
    s.risk.open_positions = ∅ ∧ s.risk.platform_exposures = ∅ ∧
    s.risk.daily_trades = 0 ∧ s.risk.daily_window_day = s.today ∧
    (∀ c, s.tasks c = none) ∧
    s.recorded_today = 0
  step := fun s l s' =>
    match l with
    | .check opp =>
        s.tasks opp.canonical_id = none ∧
        s' = after_check limits s opp
    | .requote c y n e =>
        ∃ t, s.tasks c = some t ∧ t.recorded = false ∧
        |(y : ℚ) - t.current.yes_price| ≤ slippage_tolerance ∧
        |(n : ℚ) - t.current.no_price| ≤ slippage_tolerance ∧
        s' = { s with tasks := Function.update s.tasks c (some (t.requoted y n e)) }
    | .record c b pnl =>
        ∃ t, s.tasks c = some t ∧ t.recorded = false ∧
        s' = after_record s c t b pnl
    | .release c exposure platform =>
        ∃ t, s.tasks c = some t ∧ t.recorded = true ∧
        s' = { s with risk := s.risk.release_trade c exposure 0 (.single platform) }
    | .unwind_pnl c pnl =>
        ∃ t, s.tasks c = some t ∧ t.recorded = true ∧
        s' = { s with risk := { s.risk with daily_pnl := s.risk.daily_pnl + pnl } }
    | .leave c =>
        s' = { s with tasks := Function.update s.tasks c none }
    | .new_day day =>
        s.today < day ∧
        s' = { s with today := day, recorded_today := 0 }

/-! ### Safety -/

/-- The caps: total exposure, exposure per platform, trades of the day. -/
structure WithinCaps (limits : RiskLimits) (s : State) : Prop where
  total : (s.risk.open_positions.total : ℚ) ≤ limits.max_total_exposure
  platform : ∀ p, ¬ RiskManager.overCeiling limits.max_platform_exposure
    (s.risk.platform_exposures.amount p)
  trades : (s.recorded_today : ℤ) ≤ limits.max_daily_trades

/-- A booking rests on a fresh check: nobody booked since, it is still the day of
    the check, and re-quoting did not raise what is booked over what was checked. -/
def freshCheck (s : State) : Label → Prop
  | .record c b _ => ∀ t, s.tasks c = some t →
      t.stale = false ∧ t.checked_day = s.today ∧
      b.exposure t.current ≤ t.checked.exposure ∧
      ∀ p, (b.allocation t.current).share (b.exposure t.current) p ≤
        (RiskManager.Booked.both.allocation t.checked).share t.checked.exposure p
  | _ => True

/-! ### The invariant -/

section invariant

open RiskManager

variable {limits : RiskLimits} {slippage_tolerance : ℚ} {s : State}

/-- The inductive invariant of runs in which every booking is fresh. Entries that
    are still empty need no cap, a fresh task knows that it fits. -/
structure Inv (limits : RiskLimits) (s : State) : Prop where
  total : s.risk.open_positions.total = 0 ∨
    (s.risk.open_positions.total : ℚ) ≤ limits.max_total_exposure
  platform : ∀ p, s.risk.platform_exposures.amount p = 0 ∨
    ¬ overCeiling limits.max_platform_exposure (s.risk.platform_exposures.amount p)
  window : s.risk.daily_window_day ≤ s.today
  counted : s.risk.daily_window_day = s.today → s.recorded_today ≤ s.risk.daily_trades
  uncounted : s.risk.daily_window_day ≠ s.today → s.recorded_today = 0
  checked_day : ∀ c t, s.tasks c = some t → t.checked_day ≤ s.today
  fresh : ∀ c t, s.tasks c = some t → t.recorded = false → t.stale = false →
    t.checked_day = s.today → s.risk.daily_window_day = s.today ∧ Fits limits s.risk t.checked

/-- A smaller amount is not over a ceiling the larger one keeps. -/
theorem not_overCeiling_of_le {ceiling : Option ℚ} {x y : ℚ≥0} (hxy : x ≤ y)
    (hy : ¬ overCeiling ceiling y) : ¬ overCeiling ceiling x := by
  unfold overCeiling at hy ⊢
  split
  · exact id
  case h_2 c =>
    have : (x : ℚ) ≤ y := by exact_mod_cast hxy
    simp only [not_lt] at hy ⊢
    exact this.trans hy

/-- Fitting survives a book that only got emptier. -/
theorem Fits.mono {rm rm' : RiskManager} {opp : Opportunity} (h : Fits limits rm opp)
    (ht : rm'.daily_trades = rm.daily_trades)
    (hp : ∀ p, rm'.platform_exposures.amount p ≤ rm.platform_exposures.amount p)
    (ho : rm'.open_positions.total ≤ rm.open_positions.total) : Fits limits rm' opp := by
  refine ⟨ht ▸ h.trades, fun p hleg => ?_, ?_⟩
  · exact not_overCeiling_of_le (add_le_add_left (hp p) _) (h.platform p hleg)
  · have : (rm'.open_positions.total : ℚ) ≤ rm.open_positions.total := by exact_mod_cast ho
    linarith [h.total]

/-- Bringing the window up to date changes nothing once it is. -/
theorem roll_of_current {rm : RiskManager} {today : ℕ} (h : rm.daily_window_day = today) :
    rm.roll_daily_window today = rm := by
  unfold roll_daily_window
  rw [if_neg (not_not.2 h.symm)]

/-- The invariant under a manager that was brought up to date. -/
private theorem inv_roll (h : Inv limits s) :
    Inv limits { s with risk := s.risk.roll_daily_window s.today } := by
  by_cases hday : s.risk.daily_window_day = s.today
  · rw [roll_of_current hday]
    exact h
  · refine ⟨?_, ?_, ?_, ?_, ?_, h.checked_day, ?_⟩
    · simpa using h.total
    · simpa using h.platform
    · simp [roll_daily_window_day]
    · intro _
      simp [h.uncounted hday]
    · intro hne
      exact absurd (roll_daily_window_day _ _) hne
    · intro c t ht hr hs hd
      exact absurd (h.fresh c t ht hr hs hd).1 hday

/-- Checking keeps the invariant: a new task fits because it was approved. -/
private theorem inv_check (h : Inv limits s) (opp : Opportunity) :
    Inv limits (after_check limits s opp) := by
  unfold after_check
  by_cases happ : (s.risk.check_trade limits s.today opp).1 = none
  · obtain ⟨hroll, hfits⟩ := check_trade_approved happ
    simp only [if_pos happ, hroll]
    have hr := inv_roll h
    refine ⟨hr.total, hr.platform, hr.window, hr.counted, hr.uncounted, ?_, ?_⟩
    · intro c t ht
      by_cases hc : c = opp.canonical_id
      · subst hc
        simp only [Function.update_self, Option.some.injEq] at ht
        subst ht
        exact le_refl _
      · simp only [Function.update_of_ne hc] at ht
        exact h.checked_day c t ht
    · intro c t ht hrec hst hd
      by_cases hc : c = opp.canonical_id
      · subst hc
        simp only [Function.update_self, Option.some.injEq] at ht
        subst ht
        exact ⟨roll_daily_window_day _ _, hfits⟩
      · simp only [Function.update_of_ne hc] at ht
        exact hr.fresh c t ht hrec hst hd
  · -- a check that is refused rolls the window over at most
    simp only [if_neg happ]
    rcases check_trade_snd limits s.risk s.today opp with heq | heq
    · rw [heq]
      exact h
    · rw [heq]
      exact inv_roll h

/-- Changing a task's quotes keeps the invariant: what was checked stays. -/
private theorem inv_requote (h : Inv limits s) {c : String} {t : Task}
    (ht : s.tasks c = some t) (y n : ℚ≥0) (e : ℚ) :
    Inv limits { s with tasks := Function.update s.tasks c (some (t.requoted y n e)) } := by
  refine ⟨h.total, h.platform, h.window, h.counted, h.uncounted, ?_, ?_⟩
  · intro c' t' ht'
    by_cases hc : c' = c
    · subst hc
      simp only [Function.update_self, Option.some.injEq] at ht'
      subst ht'
      exact h.checked_day c' t ht
    · simp only [Function.update_of_ne hc] at ht'
      exact h.checked_day c' t' ht'
  · intro c' t' ht' hrec hst hd
    by_cases hc : c' = c
    · subst hc
      simp only [Function.update_self, Option.some.injEq] at ht'
      subst ht'
      exact h.fresh c' t ht hrec hst hd
    · simp only [Function.update_of_ne hc] at ht'
      exact h.fresh c' t' ht' hrec hst hd

/-- A book that got emptier, with the same counters, keeps the invariant. -/
private theorem inv_emptier (h : Inv limits s) {rm : RiskManager}
    (ht : rm.daily_trades = s.risk.daily_trades)
    (hd : rm.daily_window_day = s.risk.daily_window_day)
    (hp : ∀ p, rm.platform_exposures.amount p ≤ s.risk.platform_exposures.amount p)
    (ho : rm.open_positions.total ≤ s.risk.open_positions.total) :
    Inv limits { s with risk := rm } := by
  refine ⟨?_, ?_, ?_, ?_, ?_, h.checked_day, ?_⟩
  · rcases h.total with h0 | hle
    · exact .inl (nonpos_iff_eq_zero.1 (h0 ▸ ho))
    · have : (rm.open_positions.total : ℚ) ≤ s.risk.open_positions.total := by exact_mod_cast ho
      exact .inr (this.trans hle)
  · intro p
    rcases h.platform p with h0 | hle
    · exact .inl (nonpos_iff_eq_zero.1 (h0 ▸ hp p))
    · exact .inr (not_overCeiling_of_le (hp p) hle)
  · simpa [hd] using h.window
  · simpa [hd, ht] using h.counted
  · simpa [hd] using h.uncounted
  · intro c t htask hrec hst hday
    obtain ⟨hw, hf⟩ := h.fresh c t htask hrec hst hday
    exact ⟨by simpa [hd] using hw, Fits.mono hf ht hp ho⟩

/-- Leaving drops a task. -/
private theorem inv_leave (h : Inv limits s) (c : String) :
    Inv limits { s with tasks := Function.update s.tasks c none } := by
  have hold : ∀ c' t', Function.update s.tasks c none c' = some t' → s.tasks c' = some t' := by
    intro c' t' ht'
    by_cases hc : c' = c
    · subst hc
      simp at ht'
    · simpa [Function.update_of_ne hc] using ht'
  refine ⟨h.total, h.platform, h.window, h.counted, h.uncounted, ?_, ?_⟩
  · exact fun c' t' ht' => h.checked_day c' t' (hold c' t' ht')
  · exact fun c' t' ht' => h.fresh c' t' (hold c' t' ht')

/-- On a new day nothing has been booked and no check is of today. -/
private theorem inv_new_day (h : Inv limits s) {day : ℕ} (hday : s.today < day) :
    Inv limits { s with today := day, recorded_today := 0 } := by
  have hw := h.window
  refine ⟨h.total, h.platform, by simp only; omega, fun _ => Nat.zero_le _, fun _ => rfl, ?_, ?_⟩
  · intro c t ht
    have := h.checked_day c t ht
    simp only
    omega
  · intro c t ht _ _ hd
    have := h.checked_day c t ht
    simp only at hd
    omega

/-- What a fresh booking leaves: everything within the caps. -/
private theorem withinCaps_after_record (h : Inv limits s) {c : String} {t : Task}
    {b : Booked} {pnl : ℚ} (ht : s.tasks c = some t) (hrec : t.recorded = false)
    (hfresh : freshCheck s (.record c b pnl)) :
    WithinCaps limits (after_record s c t b pnl) := by
  obtain ⟨hst, hday, hexp, hshare⟩ := hfresh t ht
  obtain ⟨hw, hfits⟩ := h.fresh c t ht hrec hst hday
  refine ⟨?_, ?_, ?_⟩
  · have hle : (b.exposure t.current : ℚ) ≤ t.checked.exposure := by exact_mod_cast hexp
    simp only [after_record, book, record_trade_total, NNRat.cast_add]
    linarith [hfits.total]
  · intro p
    simp only [after_record, book, record_trade_platform]
    by_cases hleg : p = t.checked.yes_platform ∨ p = t.checked.no_platform
    · refine not_overCeiling_of_le ?_ (hfits.platform p hleg)
      gcongr
      exact hshare p
    · -- a platform of neither leg gets nothing booked
      rw [not_or] at hleg
      have h0 : (b.allocation t.current).share (b.exposure t.current) p = 0 := by
        refine nonpos_iff_eq_zero.1 ((hshare p).trans_eq ?_)
        simp [Booked.allocation, Allocation.share, hleg.1, hleg.2]
      rw [h0, add_zero]
      rcases h.platform p with hz | hle
      · rw [hz]
        exact not_overCeiling_of_le zero_le (hfits.platform _ (.inl rfl))
      · exact hle
  · have hc := h.counted hw
    have hlt := hfits.trades
    simp only [after_record]
    push_cast
    omega

/-- Booking keeps the invariant: every other check becomes stale. -/
private theorem inv_record (h : Inv limits s) {c : String} {t : Task} {b : Booked} {pnl : ℚ}
    (ht : s.tasks c = some t) (hrec : t.recorded = false)
    (hfresh : freshCheck s (.record c b pnl)) :
    Inv limits (after_record s c t b pnl) := by
  have hcaps := withinCaps_after_record h ht hrec hfresh
  refine ⟨.inr hcaps.total, fun p => .inr (hcaps.platform p), h.window, ?_, ?_, ?_, ?_⟩
  · intro hw
    have := h.counted hw
    simp only [after_record, book, record_trade_daily_trades]
    omega
  · intro hw
    obtain ⟨hst, hday, -⟩ := hfresh t ht
    exact absurd (h.fresh c t ht hrec hst hday).1 hw
  · intro c' t' ht'
    by_cases hc : c' = c
    · subst hc
      simp only [after_record, Function.update_self, Option.some.injEq] at ht'
      subst ht'
      exact h.checked_day c' t ht
    · simp only [after_record, Function.update_of_ne hc, Option.map_eq_some_iff] at ht'
      obtain ⟨t₀, ht₀, rfl⟩ := ht'
      exact h.checked_day c' t₀ ht₀
  -- its own check is used up, and the others are stale
  · intro c' t' ht' hrec' hst' _
    by_cases hc : c' = c
    · subst hc
      simp only [after_record, Function.update_self, Option.some.injEq] at ht'
      subst ht'
      cases hrec'
    · simp only [after_record, Function.update_of_ne hc, Option.map_eq_some_iff] at ht'
      obtain ⟨t₀, _, rfl⟩ := ht'
      cases hst'

/-- One step with a fresh booking, if it books, keeps the invariant. -/
theorem inv_step {l : Label} {s' : State} (h : Inv limits s)
    (hs : ((executions limits slippage_tolerance).restrict freshCheck).step s l s') :
    Inv limits s' := by
  obtain ⟨hfresh, hstep⟩ := hs
  simp only [executions] at hstep
  match l with
  | .check opp =>
    obtain ⟨_, rfl⟩ := hstep
    exact inv_check h opp
  | .requote c y n e =>
    obtain ⟨t, ht, _, _, _, rfl⟩ := hstep
    exact inv_requote h ht y n e
  | .record c b pnl =>
    obtain ⟨t, ht, hrec, rfl⟩ := hstep
    exact inv_record h ht hrec hfresh
  | .release c exposure platform =>
    obtain ⟨t, _, _, rfl⟩ := hstep
    exact inv_emptier h rfl rfl (fun p => release_trade_platform_le _ _ _ _ _ _)
      (release_trade_total_le _ _ _ _ _)
  | .unwind_pnl c pnl =>
    obtain ⟨t, _, _, rfl⟩ := hstep
    exact inv_emptier h rfl rfl (fun _ => le_refl _) (le_refl _)
  | .leave c =>
    subst hstep
    exact inv_leave h c
  | .new_day day =>
    obtain ⟨hday, rfl⟩ := hstep
    exact inv_new_day h hday

/-- The engine starts in the invariant. -/
theorem inv_init (h : (executions limits slippage_tolerance).init s) : Inv limits s := by
  obtain ⟨ho, hp, ht, hd, htasks, hrec⟩ := h
  refine ⟨.inl (by simp [ho]), fun p => .inl (by simp [hp]), hd.le, fun _ => ?_, fun _ => hrec,
    ?_, ?_⟩
  · simp [hrec]
  · intro c t hc
    simp [htasks c] at hc
  · intro c t hc
    simp [htasks c] at hc

end invariant

/-! ### Two markets at once -/

/-- Limits with room for 100 dollars in total. -/
def hundred_dollars : RiskLimits where
  confidence_threshold := 1 / 2
  min_edge_for_pair := fun _ _ => 1
  max_quote_age_seconds := 15
  max_position_usd := 100
  max_platform_exposure := some 100
  max_daily_trades := 100
  max_daily_loss := -50
  max_total_exposure := 100

/-- An opportunity on market `c` with a notional of 60 dollars. -/
def sixty_dollars (c : String) : Opportunity where
  canonical_id := c
  yes_platform := "kalshi"
  yes_market_id := "KX-1"
  yes_price := 3 / 10
  yes_fee_rate := 0
  no_platform := "polymarket"
  no_market_id := "0x1"
  no_price := 3 / 10
  no_fee_rate := 0
  suggested_qty := 100
  net_edge := 3 / 10
  net_edge_cents := 30
  confidence := 1
  quote_age_seconds := 1
  status := .tradable
  requires_manual := false

/-- The engine right after start. -/
def start : State where
  risk := .fresh 1
  today := 1
  tasks := fun _ => none
  recorded_today := 0

/-- The task of an opportunity checked on day 1. -/
def checked_task (opp : Opportunity) : Task where
  checked := opp
  current := opp
  checked_day := 1
  recorded := false
  stale := false

/-- Market `m1` is checked, then market `m2`, then both book. -/
def one_checked : State :=
  { start with
    tasks := Function.update start.tasks "m1" (some (checked_task (sixty_dollars "m1"))) }

def two_checked : State :=
  { one_checked with
    tasks := Function.update one_checked.tasks "m2" (some (checked_task (sixty_dollars "m2"))) }

def one_booked : State :=
  after_record two_checked "m1" (checked_task (sixty_dollars "m1")) .both 30

def two_booked : State :=
  after_record one_booked "m2" { checked_task (sixty_dollars "m2") with stale := true } .both 30

private theorem start_init :
    (executions hundred_dollars (1 / 50)).init start :=
  ⟨rfl, rfl, rfl, rfl, fun _ => rfl, rfl⟩

private theorem check_m1 :
    (executions hundred_dollars (1 / 50)).step start (.check (sixty_dollars "m1"))
      one_checked := by
  refine ⟨rfl, ?_⟩
  rw [after_check_approved (by decide +kernel) rfl]
  rfl

private theorem check_m2 :
    (executions hundred_dollars (1 / 50)).step one_checked (.check (sixty_dollars "m2"))
      two_checked := by
  refine ⟨rfl, ?_⟩
  rw [after_check_approved (by decide +kernel) rfl]
  rfl

end Execution.Caps
