import Arbiter.Framework.Decimal
import Arbiter.Framework.Ledger
import Arbiter.Execution.Opportunity

/-! # Risk Manager

  The exposure book of the engine: what is open per market and per platform, the
  daily counters, the check before a trade and the two operations that move
  exposure in and out of the book.

  Amounts are non-negative rationals; `max(x - y, 0)` of the source is their
  truncated subtraction. A platform ceiling of `none` is the infinite one.
-/

namespace Execution

open Decimal

/-! ### State and limits -/

/-- The limits a `RiskManager` is built with. -/
structure RiskLimits where
  confidence_threshold : ℚ
  /-- `min_edge_for_pair`, in cents, by the two platforms. -/
  min_edge_for_pair : String → String → ℚ
  max_quote_age_seconds : ℚ
  max_position_usd : ℚ
  /-- Per-platform ceiling, `none` when no safety config is given. -/
  max_platform_exposure : Option ℚ
  max_daily_trades : ℤ
  max_daily_loss : ℚ
  max_total_exposure : ℚ

/-- `RiskManager`: the book and the daily counters. -/
structure RiskManager where
  /-- `_open_positions`, by canonical id. -/
  open_positions : Ledger String ℚ≥0
  /-- `_platform_exposures`, by platform. -/
  platform_exposures : Ledger String ℚ≥0
  daily_pnl : ℚ
  daily_trades : ℕ
  /-- The UTC day the daily counters belong to. -/
  daily_window_day : ℕ

namespace RiskManager

/-- The book as it is built, on `day`. -/
def fresh (day : ℕ) : RiskManager where
  open_positions := ∅
  platform_exposures := ∅
  daily_pnl := 0
  daily_trades := 0
  daily_window_day := day

/-- `_roll_daily_window`: start the counters afresh on a new UTC day. -/
def roll_daily_window (rm : RiskManager) (today : ℕ) : RiskManager :=
  if today ≠ rm.daily_window_day then
    { rm with daily_window_day := today, daily_trades := 0, daily_pnl := 0 }
  else rm

/-- `x` is over the platform ceiling. -/
def overCeiling (ceiling : Option ℚ) (x : ℚ≥0) : Prop :=
  match ceiling with
  | none => False
  | some c => c < x

instance (ceiling : Option ℚ) (x : ℚ≥0) : Decidable (overCeiling ceiling x) := by
  unfold overCeiling; split <;> infer_instance

/-- `platform_add`: the notional per platform, legs on one platform added up. -/
def platform_add (opp : Opportunity) : List (String × ℚ≥0) :=
  if opp.yes_platform = opp.no_platform then
    [(opp.yes_platform, opp.yes_exposure + opp.no_exposure)]
  else [(opp.yes_platform, opp.yes_exposure), (opp.no_platform, opp.no_exposure)]

/-- The exposure part of the check: the reason to refuse, if there is one. -/
def exposure_refusal (limits : RiskLimits) (rm : RiskManager) (opp : Opportunity) :
    Option String :=
  if limits.max_position_usd < rm.open_positions.amount opp.canonical_id + opp.exposure then
    some "Per-market exposure limit exceeded"
  else
    match (platform_add opp).find? fun pa =>
        overCeiling limits.max_platform_exposure (rm.platform_exposures.amount pa.1 + pa.2) with
    | some pa => some ("Per-platform exposure limit exceeded on " ++ pa.1)
    | none =>
        if limits.max_total_exposure < rm.open_positions.total + opp.exposure then
          some "Total exposure limit exceeded"
        else none

/-- `check_trade`: the reason to refuse the trade, if any, and the manager after
    the daily window was brought up to date. -/
def check_trade (limits : RiskLimits) (rm : RiskManager) (today : ℕ) (opp : Opportunity) :
    Option String × RiskManager :=
  if opp.status ≠ .tradable ∧ opp.status ≠ .manual then
    (some ("Opportunity not ready: " ++ opp.status.value), rm)
  else if opp.confidence < limits.confidence_threshold ∧ opp.requires_manual = false then
    (some ("Low confidence: " ++ fixed_signed 2 opp.confidence), rm)
  else if opp.net_edge_cents < limits.min_edge_for_pair opp.yes_platform opp.no_platform then
    (some ("Edge too thin: " ++ fixed_signed 2 opp.net_edge_cents ++ "¢"), rm)
  else if limits.max_quote_age_seconds < opp.quote_age_seconds then
    (some ("Stale quote: " ++ fixed_signed 2 opp.quote_age_seconds ++ "s"), rm)
  else
    let rm := rm.roll_daily_window today
    if limits.max_daily_trades ≤ rm.daily_trades then (some "Daily trade limit reached", rm)
    else if rm.daily_pnl ≤ limits.max_daily_loss then (some "Daily loss limit reached", rm)
    else (exposure_refusal limits rm opp, rm)

/-! ### Moving exposure -/

/-- Where an amount is booked besides its market: on one platform in full, split
    over the platforms of the two legs, or nowhere. -/
inductive Allocation
  | market_only
  | single (platform : String)
  | split (yes_platform no_platform : String) (yes_exposure no_exposure : ℚ≥0)
  deriving DecidableEq

/-- `record_trade`: book exposure and profit, and count the trade. -/
def record_trade (rm : RiskManager) (canonical_id : String) (exposure : ℚ≥0) (pnl : ℚ)
    (alloc : Allocation) : RiskManager :=
  { rm with
    open_positions := rm.open_positions.credit canonical_id exposure
    daily_pnl := rm.daily_pnl + pnl
    daily_trades := rm.daily_trades + 1
    platform_exposures :=
      match alloc with
      | .market_only => rm.platform_exposures
      | .single p => rm.platform_exposures.credit p exposure
      | .split y n ye ne =>
          let pe := if ye ≠ 0 then rm.platform_exposures.credit y ye else rm.platform_exposures
          if ne ≠ 0 then pe.credit n ne else pe }

/-- `_decrement`: take an amount off a platform. -/
def decrement (pe : Ledger String ℚ≥0) (platform : String) (amount : ℚ≥0) : Ledger String ℚ≥0 :=
  if platform = "" ∨ amount = 0 then pe else pe.debit platform amount

/-- `release_trade`: take exposure off the book, at most what is there. -/
def release_trade (rm : RiskManager) (canonical_id : String) (exposure : ℚ≥0) (pnl : ℚ)
    (alloc : Allocation) : RiskManager :=
  { rm with
    open_positions := rm.open_positions.debit canonical_id exposure
    daily_pnl := rm.daily_pnl + pnl
    platform_exposures :=
      match alloc with
      | .market_only => rm.platform_exposures
      | .single p => decrement rm.platform_exposures p exposure
      | .split y n ye ne =>
          let pe := if ye ≠ 0 then decrement rm.platform_exposures y ye else rm.platform_exposures
          if ne ≠ 0 then decrement pe n ne else pe }

/-- Which legs an execution books: both, or the surviving one alone. -/
inductive Booked
  | both
  | yes_only
  | no_only
  deriving DecidableEq

/-- The exposure booked under the market. -/
def Booked.exposure (opp : Opportunity) : Booked → ℚ≥0
  | both => opp.exposure
  | yes_only => opp.yes_exposure
  | no_only => opp.no_exposure

/-- The platforms the exposure is booked on. -/
def Booked.allocation (opp : Opportunity) : Booked → Allocation
  | both => .split opp.yes_platform opp.no_platform opp.yes_exposure opp.no_exposure
  | yes_only => .single opp.yes_platform
  | no_only => .single opp.no_platform

/-- Book an opportunity, as `_live_execution` and `_simulate_execution` do. -/
def book (rm : RiskManager) (opp : Opportunity) (b : Booked) (pnl : ℚ) : RiskManager :=
  rm.record_trade opp.canonical_id (b.exposure opp) pnl (b.allocation opp)

/-- What an allocation puts on platform `p` of an exposure. -/
def Allocation.share (alloc : Allocation) (exposure : ℚ≥0) (p : String) : ℚ≥0 :=
  match alloc with
  | .market_only => 0
  | .single q => if p = q then exposure else 0
  | .split y n ye ne => (if p = y then ye else 0) + (if p = n then ne else 0)

/-! ### What each operation does to each entry -/

section entries

variable (rm : RiskManager) (c c' p : String) (e : ℚ≥0) (pnl : ℚ) (alloc : Allocation)

@[simp] theorem record_trade_daily_trades :
    (rm.record_trade c e pnl alloc).daily_trades = rm.daily_trades + 1 := rfl

@[simp] theorem release_trade_daily_trades :
    (rm.release_trade c e pnl alloc).daily_trades = rm.daily_trades := rfl

@[simp] theorem record_trade_day :
    (rm.record_trade c e pnl alloc).daily_window_day = rm.daily_window_day := rfl

@[simp] theorem release_trade_day :
    (rm.release_trade c e pnl alloc).daily_window_day = rm.daily_window_day := rfl

@[simp] theorem record_trade_daily_pnl :
    (rm.record_trade c e pnl alloc).daily_pnl = rm.daily_pnl + pnl := rfl

@[simp] theorem release_trade_daily_pnl :
    (rm.release_trade c e pnl alloc).daily_pnl = rm.daily_pnl + pnl := rfl

@[simp] theorem record_trade_total :
    (rm.record_trade c e pnl alloc).open_positions.total = rm.open_positions.total + e :=
  Ledger.total_credit _ _ _

theorem release_trade_total_le :
    (rm.release_trade c e pnl alloc).open_positions.total ≤ rm.open_positions.total :=
  Ledger.total_debit_le _ _ _

/-- Debiting, as one equation over all keys. -/
theorem amount_debit (l : Ledger String ℚ≥0) (k k' : String) (v : ℚ≥0) :
    (l.debit k v).amount k' = l.amount k' - if k' = k then v else 0 := by
  by_cases h : k' = k
  · subst h
    simp
  · simp [Ledger.amount_debit_ne l v h, h]

theorem record_trade_position :
    (rm.record_trade c e pnl alloc).open_positions.amount c' =
      rm.open_positions.amount c' + if c' = c then e else 0 :=
  Ledger.amount_credit _ _ _ _

theorem release_trade_position :
    (rm.release_trade c e pnl alloc).open_positions.amount c' =
      rm.open_positions.amount c' - if c' = c then e else 0 :=
  amount_debit _ _ _ _

/-- Crediting an amount that may be zero, as the split does. -/
private theorem amount_credit_if (l : Ledger String ℚ≥0) (k k' : String) (v : ℚ≥0) :
    (if v ≠ 0 then l.credit k v else l).amount k' = l.amount k' + if k' = k then v else 0 := by
  by_cases hv : v = 0
  · simp [hv]
  · rw [if_pos hv, Ledger.amount_credit]

theorem record_trade_platform :
    (rm.record_trade c e pnl alloc).platform_exposures.amount p =
      rm.platform_exposures.amount p + alloc.share e p := by
  cases alloc with
  | market_only => simp [record_trade, Allocation.share]
  | single q => exact Ledger.amount_credit _ _ _ _
  | split y n ye ne =>
    simp only [record_trade, Allocation.share]
    rw [amount_credit_if, amount_credit_if, add_assoc]

/-- `_decrement` as one equation: platform `""` is never released. -/
private theorem amount_decrement (pe : Ledger String ℚ≥0) (q p : String) (v : ℚ≥0) :
    (decrement pe q v).amount p = pe.amount p - if p = q ∧ p ≠ "" then v else 0 := by
  unfold decrement
  split
  case isTrue h =>
    rcases h with rfl | rfl
    · simp
    · simp
  case isFalse h =>
    rw [not_or] at h
    rw [amount_debit]
    by_cases hp : p = q
    · subst hp
      simp [h.1]
    · simp [hp]

private theorem amount_decrement_if (pe : Ledger String ℚ≥0) (q p : String) (v : ℚ≥0) :
    (if v ≠ 0 then decrement pe q v else pe).amount p =
      pe.amount p - if p = q ∧ p ≠ "" then v else 0 := by
  by_cases hv : v = 0
  · simp [hv]
  · rw [if_pos hv, amount_decrement]

theorem release_trade_platform :
    (rm.release_trade c e pnl alloc).platform_exposures.amount p =
      rm.platform_exposures.amount p - if p = "" then 0 else alloc.share e p := by
  cases alloc with
  | market_only => simp [release_trade, Allocation.share]
  | single q =>
    simp only [release_trade, Allocation.share]
    rw [amount_decrement]
    by_cases hp : p = "" <;> simp [hp]
  | split y n ye ne =>
    simp only [release_trade, Allocation.share]
    rw [amount_decrement_if, amount_decrement_if, tsub_tsub]
    by_cases hp : p = "" <;> simp [hp]

/-- Releasing never raises a platform's exposure. -/
theorem release_trade_platform_le :
    (rm.release_trade c e pnl alloc).platform_exposures.amount p ≤
      rm.platform_exposures.amount p := by
  rw [release_trade_platform]
  exact tsub_le_self

end entries

/-! ### What an approval says -/

/-- What the check establishes when it approves: one more trade fits under the
    daily limit, both legs under their ceilings, all of it under the total. -/
structure Fits (limits : RiskLimits) (rm : RiskManager) (opp : Opportunity) : Prop where
  trades : (rm.daily_trades : ℤ) < limits.max_daily_trades
  platform : ∀ p, p = opp.yes_platform ∨ p = opp.no_platform →
    ¬ overCeiling limits.max_platform_exposure
      (rm.platform_exposures.amount p + (Booked.both.allocation opp).share opp.exposure p)
  total : (rm.open_positions.total + opp.exposure : ℚ) ≤ limits.max_total_exposure

/-- The per-platform list holds each leg platform with its share. -/
private theorem mem_platform_add (opp : Opportunity) {p : String}
    (hp : p = opp.yes_platform ∨ p = opp.no_platform) :
    (p, (Booked.both.allocation opp).share opp.exposure p) ∈ platform_add opp := by
  simp only [Booked.allocation, Allocation.share, platform_add]
  by_cases h : opp.yes_platform = opp.no_platform
  · have hy : p = opp.yes_platform := by
      rcases hp with hp | hp
      · exact hp
      · rw [hp, h]
    simp [hy, h]
  · rcases hp with rfl | rfl
    · simp [h]
    · simp [h, Ne.symm h]

/-- When the exposure part has nothing to refuse. -/
private theorem exposure_refusal_eq_none {limits : RiskLimits} {rm : RiskManager}
    {opp : Opportunity} (h : exposure_refusal limits rm opp = none) :
    (∀ pa ∈ platform_add opp, ¬ overCeiling limits.max_platform_exposure
      (rm.platform_exposures.amount pa.1 + pa.2)) ∧
      (rm.open_positions.total + opp.exposure : ℚ) ≤ limits.max_total_exposure := by
  unfold exposure_refusal at h
  split at h
  · cases h
  split at h
  · cases h
  case h_2 hfind =>
    split at h
    · cases h
    case isFalse htotal =>
      refine ⟨fun pa hpa => ?_, not_lt.1 htotal⟩
      simpa using List.find?_eq_none.1 hfind pa hpa

theorem roll_daily_window_day (rm : RiskManager) (today : ℕ) :
    (rm.roll_daily_window today).daily_window_day = today := by
  unfold roll_daily_window
  split
  case isTrue h => rfl
  case isFalse h => exact (not_not.1 h).symm

/-- An approved trade fits, in the manager brought up to date. -/
theorem check_trade_approved {limits : RiskLimits} {rm : RiskManager} {today : ℕ}
    {opp : Opportunity} (h : (check_trade limits rm today opp).1 = none) :
    (check_trade limits rm today opp).2 = rm.roll_daily_window today ∧
      Fits limits (rm.roll_daily_window today) opp := by
  unfold check_trade at h ⊢
  split at h
  · cases h
  split at h
  · cases h
  split at h
  · cases h
  split at h
  · cases h
  dsimp only at h
  split at h
  · cases h
  split at h
  · cases h
  case isFalse h₁ h₂ h₃ h₄ htrades hloss =>
    obtain ⟨hplat, htotal⟩ := exposure_refusal_eq_none h
    refine ⟨?_, not_le.1 htrades, fun p hp => ?_, htotal⟩
    · rw [if_neg h₁, if_neg h₂, if_neg h₃, if_neg h₄]
      simp only [if_neg htrades, if_neg hloss]
    · have hmem := hplat _ (mem_platform_add opp hp)
      dsimp only at hmem
      exact hmem

/-- The check leaves the manager as it was, up to the daily window. -/
theorem check_trade_snd (limits : RiskLimits) (rm : RiskManager) (today : ℕ)
    (opp : Opportunity) :
    (check_trade limits rm today opp).2 = rm ∨
      (check_trade limits rm today opp).2 = rm.roll_daily_window today := by
  unfold check_trade
  split
  · exact .inl rfl
  split
  · exact .inl rfl
  split
  · exact .inl rfl
  split
  · exact .inl rfl
  dsimp only
  split
  · exact .inr rfl
  split <;> exact .inr rfl

@[simp] theorem roll_daily_window_open (rm : RiskManager) (today : ℕ) :
    (rm.roll_daily_window today).open_positions = rm.open_positions := by
  unfold roll_daily_window
  split <;> rfl

@[simp] theorem roll_daily_window_platforms (rm : RiskManager) (today : ℕ) :
    (rm.roll_daily_window today).platform_exposures = rm.platform_exposures := by
  unfold roll_daily_window
  split <;> rfl

end RiskManager

end Execution
