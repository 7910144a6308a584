import Mathlib.Algebra.Order.Field.Rat
import Mathlib.Tactic.Linarith
import Mathlib.Tactic.Ring
import Arbiter.Framework.Ledger
import Arbiter.Execution.Order

/-! # Profit by Platform

  `_pnl_by_platform`: the profit of each execution goes to the platform that moved the cash.
  Which one did is told by the statuses of the legs; what they have filled is not read.
-/

namespace Audit

open Execution

/-! ### Executions -/

/-- An execution, as the reconciler reads it: one of the engine's, or one of the store's. -/
structure BookedExecution where
  realized_pnl : ℚ
  yes_platform : String
  no_platform : String
  leg_yes : Order ℚ
  leg_no : Order ℚ

namespace BookedExecution

/-- Both platforms are set. -/
def Placed (e : BookedExecution) : Prop := e.yes_platform ≠ "" ∧ e.no_platform ≠ ""

/-- The leg on a side. -/
def leg (e : BookedExecution) : Side → Order ℚ
  | .yes => e.leg_yes
  | .no => e.leg_no

/-- The platform of a side. -/
def platform (e : BookedExecution) : Side → String
  | .yes => e.yes_platform
  | .no => e.no_platform

/-- The side is the only one that filled any contracts. -/
def OnlyFilled (e : BookedExecution) (side : Side) : Prop :=
  0 < (e.leg side).fill_qty ∧ (e.leg side.other).fill_qty ≤ 0

end BookedExecution

/-! ### Attribution -/

/-- One round of the loop. -/
def attribute_pnl (pnl_by_platform : Ledger String ℚ) (e : BookedExecution) : Ledger String ℚ :=
  let yes_filled : Bool := e.leg_yes.status = .filled
  let no_filled : Bool := e.leg_no.status = .filled
  if e.realized_pnl = 0 ∨ e.yes_platform = "" ∨ e.no_platform = "" then pnl_by_platform
  else if yes_filled && !no_filled then pnl_by_platform.credit e.yes_platform e.realized_pnl
  else if no_filled && !yes_filled then pnl_by_platform.credit e.no_platform e.realized_pnl
  else
    (pnl_by_platform.credit e.yes_platform (e.realized_pnl / 2)).credit e.no_platform
      (e.realized_pnl / 2)

/-- `_pnl_by_platform`. -/
def pnl_by_platform (executions : List BookedExecution) : Ledger String ℚ :=
  executions.foldl attribute_pnl ∅

/-- What an execution contributes to a platform. -/
def contribution (e : BookedExecution) (platform : String) : ℚ :=
  (attribute_pnl ∅ e).amount platform

/-- The whole profit goes to the platform of the side, and nothing to another. -/
def FollowsCash (e : BookedExecution) (side : Side) : Prop :=
  contribution e (e.platform side) = e.realized_pnl ∧
    ∀ platform, platform ≠ e.platform side → contribution e platform = 0

/-- The statuses tell the side: its leg is `FILLED`, and the other is not. -/
def StatusTells (e : BookedExecution) (side : Side) : Prop :=
  (e.leg side).status = .filled ∧ (e.leg side.other).status ≠ .filled

instance (e : BookedExecution) (side : Side) : Decidable (StatusTells e side) := by
  unfold StatusTells; infer_instance

/-! ### Sums -/

section sums

variable {e : BookedExecution} {l : Ledger String ℚ}

/-- An execution adds its contributions. -/
theorem attribute_pnl_amount (l : Ledger String ℚ) (e : BookedExecution) (platform : String) :
    (attribute_pnl l e).amount platform = l.amount platform + contribution e platform := by
  unfold contribution attribute_pnl
  dsimp only
  split_ifs <;> simp only [Ledger.amount_credit, Ledger.amount_empty] <;> ring

/-- What the loop gives a platform is what the executions contribute. -/
theorem pnl_by_platform_amount (executions : List BookedExecution) (platform : String) :
    (pnl_by_platform executions).amount platform =
      (executions.map (contribution · platform)).sum := by
  have hfold : ∀ l : Ledger String ℚ, (executions.foldl attribute_pnl l).amount platform =
      l.amount platform + (executions.map (contribution · platform)).sum := by
    induction executions with
    | nil => simp
    | cons e rest ih =>
        intro l
        rw [List.foldl_cons, ih, attribute_pnl_amount, List.map_cons, List.sum_cons, add_assoc]
  rw [pnl_by_platform, hfold, Ledger.amount_empty, zero_add]

/-- An execution on two platforms adds its profit to the total. -/
theorem attribute_pnl_total (hplaced : e.Placed) :
    (attribute_pnl l e).total = l.total + e.realized_pnl := by
  unfold attribute_pnl
  dsimp only
  split_ifs with hskip
  · obtain hzero | hyes | hno := hskip
    · rw [hzero, add_zero]
    · exact absurd hyes hplaced.1
    · exact absurd hno hplaced.2
  · rw [Ledger.total_credit]
  · rw [Ledger.total_credit]
  · rw [Ledger.total_credit, Ledger.total_credit]
    ring

/-- The values sum to the profit of the executions. -/
theorem pnl_by_platform_total {executions : List BookedExecution}
    (hplaced : ∀ e ∈ executions, e.Placed) :
    (pnl_by_platform executions).total = (executions.map (·.realized_pnl)).sum := by
  have hfold : ∀ l : Ledger String ℚ, (executions.foldl attribute_pnl l).total =
      l.total + (executions.map (·.realized_pnl)).sum := by
    induction executions with
    | nil => simp
    | cons e rest ih =>
        intro l
        rw [List.foldl_cons, ih fun e he => hplaced e (List.mem_cons_of_mem _ he),
          attribute_pnl_total (hplaced e List.mem_cons_self), List.map_cons, List.sum_cons,
          add_assoc]
  rw [pnl_by_platform, hfold, Ledger.total_empty, zero_add]

end sums

/-! ### Where the cash moved -/

section cash

variable {e : BookedExecution} {side : Side}

/-- What an execution contributes, by what the statuses tell. -/
theorem contribution_eq (hplaced : e.Placed) (platform : String) :
    contribution e platform =
      if StatusTells e .yes then if platform = e.yes_platform then e.realized_pnl else 0
      else if StatusTells e .no then if platform = e.no_platform then e.realized_pnl else 0
      else (if platform = e.yes_platform then e.realized_pnl / 2 else 0) +
        if platform = e.no_platform then e.realized_pnl / 2 else 0 := by
  unfold contribution attribute_pnl
  by_cases hzero : e.realized_pnl = 0
  · simp [hzero]
  · have hkept : ¬ (e.realized_pnl = 0 ∨ e.yes_platform = "" ∨ e.no_platform = "") := by
      simp [hzero, hplaced.1, hplaced.2]
    have hyes : (decide (e.leg_yes.status = .filled) && !decide (e.leg_no.status = .filled)) =
        true ↔ StatusTells e .yes := by
      simp [StatusTells, BookedExecution.leg, Side.other]
    have hno : (decide (e.leg_no.status = .filled) && !decide (e.leg_yes.status = .filled)) =
        true ↔ StatusTells e .no := by
      simp [StatusTells, BookedExecution.leg, Side.other]
    rw [if_neg hkept]
    simp only [hyes, hno]
    split_ifs <;> simp_all [Ledger.amount_credit]

/-- The statuses tell one side at most. -/
theorem StatusTells.unique (h : StatusTells e side) : ¬ StatusTells e side.other := by
  intro hother
  cases side with
  | yes => exact hother.2 h.1
  | no => exact hother.2 h.1

/-- What is told goes to the side. -/
theorem FollowsCash.of_tells (hplaced : e.Placed) (htells : StatusTells e side) :
    FollowsCash e side := by
  have hcontribution (platform : String) : contribution e platform =
      if platform = e.platform side then e.realized_pnl else 0 := by
    rw [contribution_eq hplaced]
    cases side with
    | yes =>
        rw [if_pos htells]
        rfl
    | no =>
        have hyes : ¬ StatusTells e .yes := htells.unique
        rw [if_neg hyes, if_pos htells]
        rfl
  exact ⟨by simp [hcontribution], fun platform hother => by simp [hcontribution, hother]⟩

/-- The other platform is this one exactly if there is one platform. -/
theorem platform_other_eq_iff :
    e.platform side.other = e.platform side ↔ e.yes_platform = e.no_platform := by
  cases side with
  | yes => exact eq_comm
  | no => exact Iff.rfl

/-- With one platform, or nothing to give, all of it goes there. -/
theorem FollowsCash.of_same (hplaced : e.Placed)
    (h : e.realized_pnl = 0 ∨ e.yes_platform = e.no_platform) : FollowsCash e side := by
  have hcontribution (platform : String) : contribution e platform =
      if platform = e.platform side then e.realized_pnl else 0 := by
    rw [contribution_eq hplaced]
    obtain hzero | hsame := h
    · simp [hzero]
    · have hplatform : e.platform side = e.yes_platform := by
        cases side with
        | yes => rfl
        | no => exact hsame.symm
      rw [hplatform, ← hsame]
      split_ifs <;> ring
  exact ⟨by simp [hcontribution], fun platform hother => by simp [hcontribution, hother]⟩

/-- All of it goes to the platform of a side exactly if there is nothing to give, there is one
    platform, or the statuses tell the side. -/
theorem followsCash_iff (hplaced : e.Placed) : FollowsCash e side ↔
    e.realized_pnl = 0 ∨ e.yes_platform = e.no_platform ∨ StatusTells e side := by
  constructor
  · rintro ⟨hwhole, -⟩
    by_contra! hnone
    obtain ⟨hzero, hsame, htells⟩ := hnone
    have hother : e.platform side ≠ e.platform side.other := fun heq =>
      hsame (platform_other_eq_iff.mp heq.symm)
    rw [contribution_eq hplaced] at hwhole
    -- the side gets a half at most
    have hhalf : e.realized_pnl / 2 ≠ e.realized_pnl := fun hhalf => hzero (by linarith)
    cases side with
    | yes =>
        rw [if_neg htells] at hwhole
        split_ifs at hwhole <;> simp_all [BookedExecution.platform, Side.other]
    | no =>
        split_ifs at hwhole <;> simp_all [BookedExecution.platform, Side.other]
  · rintro (hzero | hsame | htells)
    · exact .of_same hplaced (.inl hzero)
    · exact .of_same hplaced (.inr hsame)
    · exact .of_tells hplaced htells

end cash

/-- The values sum to the profit, and what only one leg filled goes to its platform, exactly if
    for each such execution the statuses tell that leg, unless there is one platform or no
    profit. -/
theorem attribution_follows_cash_iff (executions : List BookedExecution)
    (hplaced : ∀ e ∈ executions, e.Placed) :
    ((pnl_by_platform executions).total = (executions.map (·.realized_pnl)).sum ∧
      ∀ e ∈ executions, ∀ side, e.OnlyFilled side → FollowsCash e side) ↔
      ∀ e ∈ executions, ∀ side, e.OnlyFilled side →
        e.realized_pnl = 0 ∨ e.yes_platform = e.no_platform ∨ StatusTells e side := by
  constructor
  · rintro ⟨-, hcash⟩ e he side honly
    exact (followsCash_iff (hplaced e he)).mp (hcash e he side honly)
  · intro htells
    exact ⟨pnl_by_platform_total hplaced, fun e he side honly =>
      (followsCash_iff (hplaced e he)).mpr (htells e he side honly)⟩

/-! ### A leg cancelled with a fill -/

/-- A YES leg on Kalshi that filled five contracts before it was cancelled; the NO leg was
    never sent. The five were sold at a loss of a dollar. -/
def cancelled_with_fill : BookedExecution where
  realized_pnl := -1
  yes_platform := "kalshi"
  no_platform := "polymarket"
  leg_yes :=
    { order_id := "K-1", platform := "kalshi", market_id := "KXFED", canonical_id := "FED"
      side := .yes, price := 2 / 5, quantity := 10, status := .cancelled, fill_price := 2 / 5
      fill_qty := 5, error := "", external_client_order_id := none
      idempotency_ambiguous := false }
  leg_no :=
    { order_id := "ARB-000001-NO-EDGE-LOST", platform := "polymarket", market_id := "fed"
      canonical_id := "FED", side := .no, price := 1 / 2, quantity := 10, status := .aborted
      fill_price := 0, fill_qty := 0, error := "", external_client_order_id := none
      idempotency_ambiguous := false }

/-- The same, where the leg is still `FILLED`. -/
def filled_alone : BookedExecution :=
  { cancelled_with_fill with leg_yes := { cancelled_with_fill.leg_yes with status := .filled } }

theorem attribution_follows_cash_iff_alone :
    ((pnl_by_platform [filled_alone]).total = ([filled_alone].map (·.realized_pnl)).sum ∧
      ∀ e ∈ [filled_alone], ∀ side, e.OnlyFilled side → FollowsCash e side) ↔
      ∀ e ∈ [filled_alone], ∀ side, e.OnlyFilled side →
        e.realized_pnl = 0 ∨ e.yes_platform = e.no_platform ∨ StatusTells e side :=
  attribution_follows_cash_iff [filled_alone] fun e he => by
    obtain rfl := List.mem_singleton.mp he
    exact ⟨by decide, by decide⟩

/-- Half of the loss goes to the platform that moved no cash. -/
theorem cancelled_fill_is_split :
    cancelled_with_fill.Placed ∧ cancelled_with_fill.OnlyFilled .yes ∧
      contribution cancelled_with_fill "polymarket" = -1 / 2 ∧
      ¬ FollowsCash cancelled_with_fill .yes := by
  have hplaced : cancelled_with_fill.Placed := ⟨by decide, by decide⟩
  refine ⟨hplaced, ⟨by decide, by decide⟩, ?_, ?_⟩
  · rw [contribution_eq hplaced]
    decide +kernel
  · rw [followsCash_iff hplaced]
    decide

end Audit
