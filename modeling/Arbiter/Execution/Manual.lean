import Mathlib.Algebra.Order.BigOperators.Group.List
import Arbiter.Framework.FirstMatch
import Arbiter.Framework.System
import Arbiter.Framework.Text
import Arbiter.Execution.Risk

/-! # Manual Positions

  Opportunities that need an operator become manual positions. The operator marks
  a position entered, closed or cancelled, and each action moves the position's
  notional into the risk book or out of it.

  Closing and cancelling release the notional whether or not it was booked, so
  the book balances exactly as long as they act on positions that are entered:
  `manual_accounting_balances`.
-/

open LTS

namespace Execution.Manual

/-! ### State -/

/-- `ManualPosition.status`. -/
inductive PositionStatus
  | awaiting_entry
  | entered
  | closed
  | cancelled
  deriving DecidableEq

/-- The status text. -/
def PositionStatus.value : PositionStatus → String
  | awaiting_entry => "awaiting-entry"
  | entered => "entered"
  | closed => "closed"
  | cancelled => "cancelled"

/-- `ManualPosition`, without the texts shown to the operator. -/
structure ManualPosition where
  position_id : String
  canonical_id : String
  yes_platform : String
  no_platform : String
  quantity : ℕ
  yes_price : ℚ≥0
  no_price : ℚ≥0
  status : PositionStatus
  updated_at : ℚ
  entry_confirmed_at : ℚ
  closed_at : ℚ
  note : String

/-- The part of the engine that manual positions live in. -/
structure State where
  manual_positions : List ManualPosition
  executions : List ArbExecution
  risk : RiskManager
  /-- Ghost: the positions whose closing booked a profit, newest first. -/
  pnl_booked : List String

/-- What the operator asks for, stripped and in lower case. -/
inductive Action
  | mark_entered
  | mark_closed
  | cancel
  | unsupported (text : String)
  deriving DecidableEq

/-! ### Operations -/

/-- `_merge_note`: append a note unless it is there already. -/
def merge_note (existing note : String) : String :=
  let existing := Text.strip existing
  let note := Text.strip note
  if note = "" then existing
  else if existing = "" then note
  else if Text.occurs note existing then existing
  else existing ++ " | " ++ note

/-- The error for an action that is none of the three. -/
def unsupported_action (text : String) : String :=
  "Unsupported manual position action: " ++ if text = "" then "unknown" else text

/-- Why an action is refused, if it is. -/
def refusal : Action → PositionStatus → Option String
  | .unsupported text, _ => some (unsupported_action text)
  | .mark_entered, .closed => some "Cannot mark closed manual position as entered"
  | .mark_entered, .cancelled => some "Cannot mark cancelled manual position as entered"
  | .mark_closed, .cancelled => some "Cannot close a cancelled manual position"
  | .cancel, .closed => some "Cannot cancel a closed manual position"
  | _, _ => none

/-- The status an action leads to. -/
def Action.target : Action → PositionStatus → PositionStatus
  | .mark_entered, _ => .entered
  | .mark_closed, _ => .closed
  | .cancel, _ => .cancelled
  | .unsupported _, s => s

/-- `a or b` for times, where zero is unset. -/
def time_or (a b : ℚ) : ℚ := if a = 0 then b else a

/-- The position after an action. -/
def ManualPosition.updated (pos : ManualPosition) (action : Action) (now : ℚ) (note : String) :
    ManualPosition :=
  { pos with
    status := action.target pos.status
    updated_at := now
    entry_confirmed_at :=
      match action with
      | .mark_entered | .mark_closed => time_or pos.entry_confirmed_at now
      | _ => pos.entry_confirmed_at
    closed_at :=
      match action with
      | .mark_closed => now
      | .cancel => time_or pos.closed_at now
      | _ => pos.closed_at
    note := merge_note pos.note note }

/-- `status_map`: the status of the execution behind a position. -/
def exec_status : PositionStatus → ExecStatus
  | .awaiting_entry => .manual_pending
  | .entered => .manual_entered
  | .closed => .manual_closed
  | .cancelled => .manual_cancelled

/-- `lifecycle_note`: what is noted on the execution, once. -/
def lifecycle_note : PositionStatus → Option String
  | .awaiting_entry => none
  | .entered => some "Manual leg confirmed by operator"
  | .closed => some "Manual position closed by operator"
  | .cancelled => some "Manual position cancelled by operator"

/-- Append a note that is not there yet. -/
def add_note (notes : List String) (note : String) : List String :=
  if note ∈ notes then notes else notes ++ [note]

/-- The profit of an execution once its position is in status `status`. -/
def closing_pnl (execution : ArbExecution) (status : PositionStatus) : ℚ :=
  if status = .closed ∧ execution.realized_pnl = 0 then
    Decimal.round_to 4 (execution.opportunity.net_edge * execution.opportunity.suggested_qty)
  else execution.realized_pnl

/-- The execution after its position came to `status`. -/
def execution_after (status : PositionStatus) (note : String) (execution : ArbExecution) :
    ArbExecution :=
  let notes := match lifecycle_note status with
    | some l => add_note execution.notes l
    | none => execution.notes
  let merged := merge_note "" note
  { execution with
    status := exec_status status
    realized_pnl := closing_pnl execution status
    notes := if note ≠ "" ∧ merged ≠ "" then add_note notes merged else notes }

/-- The exposure an execution's position moves, by its new status. -/
def move_exposure (rm : RiskManager) (status : PositionStatus) (execution : ArbExecution) :
    RiskManager :=
  let opp := execution.opportunity
  let alloc := RiskManager.Booked.both.allocation opp
  match status with
  | .awaiting_entry => rm
  | .entered =>
      if execution.status ≠ .manual_entered then
        rm.record_trade opp.canonical_id opp.exposure 0 alloc
      else rm
  | .closed => rm.release_trade opp.canonical_id opp.exposure (closing_pnl execution .closed) alloc
  | .cancelled => rm.release_trade opp.canonical_id opp.exposure 0 alloc

/-- The arb id of a position: its id without the first `MANUAL-`. -/
def arb_id_of (position_id : String) : String := Text.remove_first "MANUAL-" position_id

/-- Finding an execution by the id of its position. -/
def behind (position_id : String) (execution : ArbExecution) : Bool :=
  execution.arb_id = arb_id_of position_id

/-- `_update_manual_execution`: bring the execution behind a position, and the
    book, in line with the position. Without an execution nothing moves. -/
def update_manual_execution (s : State) (pos : ManualPosition) (note : String) : State :=
  match s.executions.find? (behind pos.position_id) with
  | none => s
  | some execution =>
      { s with
        executions := FirstMatch.update (behind pos.position_id)
          (execution_after pos.status note) s.executions
        risk := move_exposure s.risk pos.status execution
        pnl_booked :=
          if pos.status = .closed then pos.position_id :: s.pnl_booked else s.pnl_booked }

/-- Finding a position by its id. -/
def named (position_id : String) (pos : ManualPosition) : Bool := pos.position_id = position_id

/-- `update_manual_position`: the updated position, if there is one of that id,
    and the state afterwards; or the error raised. -/
def update_manual_position (s : State) (position_id : String) (action : Action) (now : ℚ)
    (note : String) : Except String (Option ManualPosition × State) :=
  match action with
  | .unsupported text => .error (unsupported_action text)
  | action =>
      match s.manual_positions.find? (named position_id) with
      | none => .ok (none, s)
      | some existing =>
          match refusal action existing.status with
          | some err => .error err
          | none =>
              let updated := existing.updated action now note
              -- the first position of the id is the one that is written
              let s :=
                { s with
                  manual_positions := FirstMatch.update (named position_id)
                    (fun pos => pos.updated action now note) s.manual_positions }
              .ok (some updated, update_manual_execution s updated note)

/-! ### What the book should show -/

/-- Notional of a position. -/
def ManualPosition.notional (pos : ManualPosition) : ℚ≥0 :=
  pos.quantity * (pos.yes_price + pos.no_price)

/-- The split of a position's notional over its platforms. -/
def ManualPosition.allocation (pos : ManualPosition) : RiskManager.Allocation :=
  .split pos.yes_platform pos.no_platform (pos.quantity * pos.yes_price)
    (pos.quantity * pos.no_price)

/-- What a position contributes to market `c`: its notional while it is entered. -/
def ManualPosition.in_market (c : String) (pos : ManualPosition) : ℚ≥0 :=
  if pos.status = .entered ∧ c = pos.canonical_id then pos.notional else 0

/-- What a position contributes to platform `p`: its share while it is entered. -/
def ManualPosition.on_platform (p : String) (pos : ManualPosition) : ℚ≥0 :=
  if pos.status = .entered then pos.allocation.share pos.notional p else 0

/-- The book shows `base`, what everything else contributed, plus the notional of
    every position that is entered and neither closed nor cancelled. -/
structure Balanced (base : RiskManager) (s : State) : Prop where
  market : ∀ c, s.risk.open_positions.amount c =
    base.open_positions.amount c + (s.manual_positions.map (·.in_market c)).sum
  platform : ∀ p, p ≠ "" → s.risk.platform_exposures.amount p =
    base.platform_exposures.amount p + (s.manual_positions.map (·.on_platform p)).sum

/-! ### The system -/

/-- One operator action. -/
structure Label where
  position_id : String
  action : Action
  now : ℚ
  note : String

/-- The execution behind a position is about the same trade and in step with it. -/
structure Describes (execution : ArbExecution) (pos : ManualPosition) : Prop where
  canonical_id : execution.opportunity.canonical_id = pos.canonical_id
  yes_platform : execution.opportunity.yes_platform = pos.yes_platform
  no_platform : execution.opportunity.no_platform = pos.no_platform
  quantity : execution.opportunity.suggested_qty = pos.quantity
  yes_price : execution.opportunity.yes_price = pos.yes_price
  no_price : execution.opportunity.no_price = pos.no_price
  status : execution.status = exec_status pos.status

/-- Positions and executions as `_queue_manual_execution` makes them: the id of a
    position is `MANUAL-` and the arb id, the two describe one trade. A profit
    was booked for closed positions only. -/
structure WellFormed (s : State) : Prop where
  shaped : ∀ id pos, s.manual_positions.find? (named id) = some pos → ∃ a, id = "MANUAL-" ++ a
  described : ∀ id pos execution, s.manual_positions.find? (named id) = some pos →
    s.executions.find? (behind id) = some execution → Describes execution pos
  booked_closed : ∀ id pos, s.manual_positions.find? (named id) = some pos →
    id ∈ s.pnl_booked → pos.status = .closed
  booked_once : s.pnl_booked.Nodup

/-- One action on the state. A refused action changes nothing. -/
def act (s : State) (l : Label) : State :=
  match update_manual_position s l.position_id l.action l.now l.note with
  | .error _ => s
  | .ok (_, t) => t

/-- Manual positions under operator actions. -/
def manual_workflow (base : RiskManager) : System State Label where
  init := fun s => WellFormed s ∧ Balanced base s
  step := fun s l s' => s' = act s l

/-- Nothing is booked under the position's market and platforms. -/
def NothingBooked (rm : RiskManager) (pos : ManualPosition) : Prop :=
  rm.open_positions.amount pos.canonical_id = 0 ∧
    ∀ p, p = pos.yes_platform ∨ p = pos.no_platform → p ≠ "" → rm.platform_exposures.amount p = 0

/-- An action that is accepted enters a position, or takes back an entered one, or
    takes back nothing. Where the execution is gone, entry must not change. -/
def takesBackEntered (s : State) (l : Label) : Prop :=
  ∀ pos, s.manual_positions.find? (named l.position_id) = some pos →
    refusal l.action pos.status = none →
    if (s.executions.find? (behind l.position_id)).isSome then
      l.action = .mark_entered ∨ pos.status = .entered ∨
        (NothingBooked s.risk pos ∧ ¬ (l.action = .mark_closed ∧ pos.status = .closed))
    else (pos.status = .entered ↔ l.action = .mark_entered)

/-! ### Step by step -/

/-- The positions after an accepted action. -/
def positions_after (s : State) (l : Label) : List ManualPosition :=
  FirstMatch.update (named l.position_id) (fun pos => pos.updated l.action l.now l.note)
    s.manual_positions

/-- The state after an accepted action on position `pos`. -/
def after_action (s : State) (l : Label) (pos : ManualPosition) : State :=
  update_manual_execution { s with manual_positions := positions_after s l }
    (pos.updated l.action l.now l.note) l.note

section steps

variable {base : RiskManager} {s s' : State} {l : Label}

/-- What one action can do: nothing, or update the first position of its id and
    bring the execution behind it in line. -/
theorem act_cases (s : State) (l : Label) :
    act s l = s ∨ ∃ pos, s.manual_positions.find? (named l.position_id) = some pos ∧
      refusal l.action pos.status = none ∧ act s l = after_action s l pos := by
  simp only [act, update_manual_position]
  split
  case h_1 => exact .inl rfl
  case h_2 heq =>
    split at heq
    · cases heq
    · split at heq
      · obtain ⟨-, rfl⟩ := Prod.mk.inj (Except.ok.inj heq)
        exact .inl rfl
      case h_2 pos hfind =>
        split at heq
        · cases heq
        case h_2 href =>
          obtain ⟨-, rfl⟩ := Prod.mk.inj (Except.ok.inj heq)
          exact .inr ⟨pos, hfind, href, rfl⟩

/-- A found position has the id it was found by. -/
theorem position_id_of_find {id : String} {pos : ManualPosition}
    (h : s.manual_positions.find? (named id) = some pos) : pos.position_id = id := by
  simpa [named] using List.find?_some h

@[simp] theorem updated_position_id (pos : ManualPosition) (a : Action) (now : ℚ) (n : String) :
    (pos.updated a now n).position_id = pos.position_id := rfl

@[simp] theorem updated_status (pos : ManualPosition) (a : Action) (now : ℚ) (n : String) :
    (pos.updated a now n).status = a.target pos.status := rfl

@[simp] theorem updated_notional (pos : ManualPosition) (a : Action) (now : ℚ) (n : String) :
    (pos.updated a now n).notional = pos.notional := rfl

@[simp] theorem updated_allocation (pos : ManualPosition) (a : Action) (now : ℚ) (n : String) :
    (pos.updated a now n).allocation = pos.allocation := rfl

/-- Without an execution behind the position only the position changes. -/
theorem after_action_none {pos : ManualPosition} (hid : pos.position_id = l.position_id)
    (h : s.executions.find? (behind l.position_id) = none) :
    after_action s l pos = { s with manual_positions := positions_after s l } := by
  simp [after_action, update_manual_execution, hid, h]

/-- With one, it is brought in line and the exposure moves. -/
theorem after_action_some {pos : ManualPosition} {e : ArbExecution}
    (hid : pos.position_id = l.position_id)
    (h : s.executions.find? (behind l.position_id) = some e) :
    after_action s l pos =
      { manual_positions := positions_after s l
        executions := FirstMatch.update (behind l.position_id)
          (execution_after (l.action.target pos.status) l.note) s.executions
        risk := move_exposure s.risk (l.action.target pos.status) e
        pnl_booked :=
          if l.action.target pos.status = .closed then l.position_id :: s.pnl_booked
          else s.pnl_booked } := by
  simp [after_action, update_manual_execution, hid, h]

/-! ### Balance -/

/-- Changing one position and the book by the same contribution keeps the balance. -/
theorem Balanced.of_moves {id : String} {pos : ManualPosition} {a : Action} {now : ℚ}
    {n : String} {rm : RiskManager} {es : List ArbExecution} {bs : List String}
    (h : Balanced base s) (hfind : s.manual_positions.find? (named id) = some pos)
    (hm : ∀ c, rm.open_positions.amount c + pos.in_market c =
      s.risk.open_positions.amount c + (pos.updated a now n).in_market c)
    (hp : ∀ p, p ≠ "" → rm.platform_exposures.amount p + pos.on_platform p =
      s.risk.platform_exposures.amount p + (pos.updated a now n).on_platform p) :
    Balanced base
      { manual_positions := FirstMatch.update (named id) (fun pos => pos.updated a now n)
          s.manual_positions
        executions := es
        risk := rm
        pnl_booked := bs } := by
  refine ⟨fun c => ?_, fun p hne => ?_⟩
  · refine add_right_cancel (b := pos.in_market c) ?_
    have hsum := FirstMatch.sum_map_update (fun pos => pos.in_market c)
      (f := fun pos => pos.updated a now n) hfind
    rw [hm c, h.market c, add_assoc, add_assoc, hsum]
  · refine add_right_cancel (b := pos.on_platform p) ?_
    have hsum := FirstMatch.sum_map_update (fun pos => pos.on_platform p)
      (f := fun pos => pos.updated a now n) hfind
    rw [hp p hne, h.platform p hne, add_assoc, add_assoc, hsum]

/-- A position's contribution is part of the book. -/
theorem Balanced.in_market_le (h : Balanced base s) {id : String} {pos : ManualPosition}
    (hfind : s.manual_positions.find? (named id) = some pos) (c : String) :
    pos.in_market c ≤ s.risk.open_positions.amount c := by
  rw [h.market c]
  refine le_add_of_le_right (List.single_le_sum (fun _ _ => zero_le) _ ?_)
  exact List.mem_map_of_mem (List.mem_of_find?_eq_some hfind)

theorem Balanced.on_platform_le (h : Balanced base s) {id : String} {pos : ManualPosition}
    (hfind : s.manual_positions.find? (named id) = some pos) {p : String} (hp : p ≠ "") :
    pos.on_platform p ≤ s.risk.platform_exposures.amount p := by
  rw [h.platform p hp]
  refine le_add_of_le_right (List.single_le_sum (fun _ _ => zero_le) _ ?_)
  exact List.mem_map_of_mem (List.mem_of_find?_eq_some hfind)

/-! ### What an action moves -/

theorem Describes.exposure {e : ArbExecution} {pos : ManualPosition} (h : Describes e pos) :
    e.opportunity.exposure = pos.notional := by
  rw [Opportunity.exposure, ManualPosition.notional, h.quantity, h.yes_price, h.no_price]

theorem Describes.allocation {e : ArbExecution} {pos : ManualPosition} (h : Describes e pos) :
    RiskManager.Booked.both.allocation e.opportunity = pos.allocation := by
  simp only [RiskManager.Booked.allocation, ManualPosition.allocation, Opportunity.yes_exposure,
    Opportunity.no_exposure, h.yes_platform, h.no_platform, h.quantity, h.yes_price, h.no_price]

/-- The allocation of a position has a share on its own two platforms only. -/
theorem share_eq_zero {pos : ManualPosition} {p : String}
    (h : ¬ (p = pos.yes_platform ∨ p = pos.no_platform)) :
    pos.allocation.share pos.notional p = 0 := by
  rw [not_or] at h
  simp [ManualPosition.allocation, RiskManager.Allocation.share, h.1, h.2]

section moves

variable {rm : RiskManager} {e : ArbExecution} {pos : ManualPosition}

/-- Entering books the notional, once. -/
private theorem enter_moves (hd : Describes e pos)
    (href : refusal .mark_entered pos.status = none) (now : ℚ) (n : String) :
    (∀ c, (move_exposure rm .entered e).open_positions.amount c + pos.in_market c =
      rm.open_positions.amount c + (pos.updated .mark_entered now n).in_market c) ∧
    (∀ p, (move_exposure rm .entered e).platform_exposures.amount p + pos.on_platform p =
      rm.platform_exposures.amount p + (pos.updated .mark_entered now n).on_platform p) := by
  have hstatus := hd.status
  cases hst : pos.status with
  | awaiting_entry =>
    simp only [hst, exec_status] at hstatus
    refine ⟨fun c => ?_, fun p => ?_⟩
    · simp [move_exposure, hstatus, RiskManager.record_trade_position, ManualPosition.in_market,
        hst, Action.target, hd.exposure, hd.canonical_id]
      rfl
    · simp [move_exposure, hstatus, RiskManager.record_trade_platform, ManualPosition.on_platform,
        hst, Action.target, hd.exposure, hd.allocation]
  | entered =>
    simp only [hst, exec_status] at hstatus
    refine ⟨fun c => ?_, fun p => ?_⟩
    · simp [move_exposure, hstatus, ManualPosition.in_market, hst, Action.target]
      rfl
    · simp [move_exposure, hstatus, ManualPosition.on_platform, hst, Action.target]
  | closed => simp [hst, refusal] at href
  | cancelled => simp [hst, refusal] at href

/-- Releasing the notional of a position takes its contribution back, when it is
    entered, and takes nothing back when nothing is booked. -/
private theorem release_moves (hd : Describes e pos) (pnl : ℚ)
    (hm : ∀ c, pos.in_market c ≤ rm.open_positions.amount c)
    (hp : ∀ p, p ≠ "" → pos.on_platform p ≤ rm.platform_exposures.amount p)
    (hcase : pos.status = .entered ∨ NothingBooked rm pos) :
    (∀ c, (rm.release_trade e.opportunity.canonical_id e.opportunity.exposure pnl
        (RiskManager.Booked.both.allocation e.opportunity)).open_positions.amount c +
          pos.in_market c = rm.open_positions.amount c) ∧
    (∀ p, p ≠ "" → (rm.release_trade e.opportunity.canonical_id e.opportunity.exposure pnl
        (RiskManager.Booked.both.allocation e.opportunity)).platform_exposures.amount p +
          pos.on_platform p = rm.platform_exposures.amount p) := by
  rw [hd.exposure, hd.allocation, hd.canonical_id]
  refine ⟨fun c => ?_, fun p hne => ?_⟩
  · rw [RiskManager.release_trade_position]
    have hle := hm c
    by_cases hc : c = pos.canonical_id
    · by_cases hent : pos.status = .entered
      · simp only [ManualPosition.in_market, hent, hc, and_self, if_true] at hle ⊢
        exact tsub_add_cancel_of_le hle
      · have h0 := (hcase.resolve_left hent).1
        simp [ManualPosition.in_market, hent, hc, h0]
    · simp [ManualPosition.in_market, hc]
  -- on a platform, by the share that either leg has in it
  · rw [RiskManager.release_trade_platform, if_neg hne]
    have hle := hp p hne
    by_cases hent : pos.status = .entered
    · simp only [ManualPosition.on_platform, hent, if_true] at hle ⊢
      exact tsub_add_cancel_of_le hle
    · have h0 := (hcase.resolve_left hent).2 p
      by_cases hleg : p = pos.yes_platform ∨ p = pos.no_platform
      · simp [ManualPosition.on_platform, hent, h0 hleg hne]
      · simp [ManualPosition.on_platform, hent, share_eq_zero hleg]

end moves

/-- An accepted action that takes back what is entered keeps the balance. -/
private theorem balanced_step (hw : WellFormed s) (hb : Balanced base s)
    {pos : ManualPosition} (hfind : s.manual_positions.find? (named l.position_id) = some pos)
    (href : refusal l.action pos.status = none) (hok : takesBackEntered s l) :
    Balanced base (after_action s l pos) := by
  have hcond := hok pos hfind href
  have hid := position_id_of_find hfind
  cases hexec : s.executions.find? (behind l.position_id) with
  | none =>
    rw [after_action_none hid hexec]
    -- nothing moves, so the action must not change whether the position is entered
    simp only [hexec, Option.isSome_none, Bool.false_eq_true, if_false] at hcond
    have hsame : (l.action.target pos.status = .entered) ↔ pos.status = .entered := by
      rw [hcond]
      cases hact : l.action with
      | mark_entered => simp [Action.target]
      | mark_closed => simp [Action.target]
      | cancel => simp [Action.target]
      | unsupported t => simp [hact, refusal] at href
    refine hb.of_moves hfind (fun c => ?_) (fun p _ => ?_)
    · simp only [ManualPosition.in_market, updated_status, hsame, updated_notional]
      rfl
    · simp only [ManualPosition.on_platform, updated_status, hsame, updated_notional,
        updated_allocation]
  | some e =>
    rw [after_action_some hid hexec]
    simp only [hexec, Option.isSome_some, if_true] at hcond
    have hd := hw.described l.position_id pos e hfind hexec
    have hm := hb.in_market_le hfind
    have hp := fun p hne => hb.on_platform_le hfind (p := p) hne
    have hcase (hact : l.action ≠ .mark_entered) :
        pos.status = .entered ∨ NothingBooked s.risk pos := by
      rcases hcond with h | h | h
      · exact absurd h hact
      · exact .inl h
      · exact .inr h.1
    cases hact : l.action with
    | mark_entered =>
      rw [hact] at href
      obtain ⟨hmoves, hplat⟩ := @enter_moves s.risk e pos hd href l.now l.note
      refine hb.of_moves hfind (fun c => ?_) (fun p _ => ?_)
      · rw [hact]
        exact hmoves c
      · rw [hact]
        exact hplat p
    | mark_closed =>
      obtain ⟨hmoves, hplat⟩ := release_moves hd (closing_pnl e .closed) hm hp (hcase (by simp [hact]))
      refine hb.of_moves hfind (fun c => ?_) (fun p hne => ?_)
      · simpa [hact, Action.target, move_exposure, ManualPosition.in_market] using hmoves c
      · simpa [hact, Action.target, move_exposure, ManualPosition.on_platform] using hplat p hne
    | cancel =>
      obtain ⟨hmoves, hplat⟩ := release_moves hd 0 hm hp (hcase (by simp [hact]))
      refine hb.of_moves hfind (fun c => ?_) (fun p hne => ?_)
      · simpa [hact, Action.target, move_exposure, ManualPosition.in_market] using hmoves c
      · simpa [hact, Action.target, move_exposure, ManualPosition.on_platform] using hplat p hne
    | unsupported t => simp [hact, refusal] at href

/-! ### Well-formedness -/

/-- Different position ids of the right shape stand for different executions. -/
theorem behind_disjoint {a b : String} (hab : a ≠ b) (x : ArbExecution)
    (hx : behind ("MANUAL-" ++ a) x = true) : behind ("MANUAL-" ++ b) x = false := by
  have harb : ∀ c, arb_id_of ("MANUAL-" ++ c) = c :=
    fun c => Text.remove_first_append "MANUAL-" c (by decide)
  simp only [behind, harb, decide_eq_true_eq, decide_eq_false_iff_not] at hx ⊢
  rw [hx]
  exact hab

/-- Looking up another position after one was updated. -/
theorem find_other {id id₀ : String} (hne : id ≠ id₀) (a : Action) (now : ℚ) (n : String)
    (ps : List ManualPosition) :
    (FirstMatch.update (named id₀) (fun pos => pos.updated a now n) ps).find? (named id) =
      ps.find? (named id) := by
  have hkeep : ∀ pos, named id (pos.updated a now n) = named id pos := fun _ => rfl
  refine FirstMatch.find?_update_of_disjoint hkeep (fun pos hpos => ?_) ps
  simp only [named, decide_eq_true_eq, decide_eq_false_iff_not] at hpos ⊢
  rw [hpos]
  exact hne.symm

/-- Looking up the position that was updated. -/
theorem find_updated {id : String} {pos : ManualPosition} {ps : List ManualPosition}
    (hfind : ps.find? (named id) = some pos) (a : Action) (now : ℚ) (n : String) :
    (FirstMatch.update (named id) (fun pos => pos.updated a now n) ps).find? (named id) =
      some (pos.updated a now n) := by
  have hkeep : ∀ pos, named id (pos.updated a now n) = named id pos := fun _ => rfl
  rw [FirstMatch.find?_update_self hkeep, hfind]
  rfl

/-- The execution stays in step with its position. -/
theorem Describes.after {e : ArbExecution} {pos : ManualPosition} (h : Describes e pos)
    (a : Action) (now : ℚ) (n : String) :
    Describes (execution_after (a.target pos.status) n e) (pos.updated a now n) :=
  ⟨h.canonical_id, h.yes_platform, h.no_platform, h.quantity, h.yes_price, h.no_price, rfl⟩

/-- A closed position only accepts being closed again. -/
theorem target_of_closed {a : Action} {st : PositionStatus} (href : refusal a st = none)
    (hst : st = .closed) : a.target st = .closed := by
  subst hst
  cases a with
  | mark_entered => simp [refusal] at href
  | mark_closed => rfl
  | cancel => simp [refusal] at href
  | unsupported t => simp [refusal] at href

/-- An accepted action with an execution behind it finds no profit booked. -/
private theorem not_booked_of_accepted (hw : WellFormed s) {pos : ManualPosition}
    (hfind : s.manual_positions.find? (named l.position_id) = some pos)
    (href : refusal l.action pos.status = none) (hok : takesBackEntered s l)
    (hexec : (s.executions.find? (behind l.position_id)).isSome) : l.position_id ∉ s.pnl_booked := by
  intro hmem
  have hclosed := hw.booked_closed _ pos hfind hmem
  have hcond := hok pos hfind href
  rw [if_pos hexec, hclosed] at hcond
  have hact : l.action = .mark_closed := by
    rw [hclosed] at href
    cases hact : l.action with
    | mark_closed => rfl
    | mark_entered => simp [hact, refusal] at href
    | cancel => simp [hact, refusal] at href
    | unsupported t => simp [hact, refusal] at href
  rcases hcond with h | h | h
  · cases hact.symm.trans h
  · cases h
  · exact h.2 ⟨hact, rfl⟩

/-- An accepted action keeps positions and executions in step. -/
private theorem wellFormed_step (hw : WellFormed s) {pos : ManualPosition}
    (hfind : s.manual_positions.find? (named l.position_id) = some pos)
    (href : refusal l.action pos.status = none) (hok : takesBackEntered s l) :
    WellFormed (after_action s l pos) := by
  have hid := position_id_of_find hfind
  obtain ⟨a₀, ha₀⟩ := hw.shaped _ pos hfind
  -- the position lookup, whatever happens to the execution
  have hshaped : ∀ id pos', (positions_after s l).find? (named id) =
        some pos' → ∃ a, id = "MANUAL-" ++ a := by
    intro id pos' h
    by_cases hne : id = l.position_id
    · exact ⟨a₀, hne.trans ha₀⟩
    · rw [positions_after, find_other hne] at h
      exact hw.shaped id pos' h
  have hclosed : ∀ id pos', (positions_after s l).find? (named id) =
        some pos' → id ∈ s.pnl_booked → pos'.status = .closed := by
    intro id pos' h hmem
    by_cases hne : id = l.position_id
    · subst hne
      rw [positions_after, find_updated hfind] at h
      cases h
      exact target_of_closed href (hw.booked_closed _ pos hfind hmem)
    · rw [positions_after, find_other hne] at h
      exact hw.booked_closed id pos' h hmem
  cases hexec : s.executions.find? (behind l.position_id) with
  | none =>
    rw [after_action_none hid hexec]
    refine ⟨hshaped, fun id pos' e' h he' => ?_, hclosed, hw.booked_once⟩
    by_cases hne : id = l.position_id
    · subst hne
      rw [hexec] at he'
      cases he'
    · rw [positions_after, find_other hne] at h
      exact hw.described id pos' e' h he'
  | some e =>
    have hsome : (s.executions.find? (behind l.position_id)).isSome := by rw [hexec]; rfl
    rw [after_action_some hid hexec]
    refine ⟨hshaped, fun id pos' e' h he' => ?_, fun id pos' h hmem => ?_, ?_⟩
    · by_cases hne : id = l.position_id
      · subst hne
        rw [positions_after, find_updated hfind] at h
        have hkeep : ∀ x, behind l.position_id
            (execution_after (l.action.target pos.status) l.note x) = behind l.position_id x :=
          fun _ => rfl
        rw [FirstMatch.find?_update_self hkeep, hexec] at he'
        cases h
        cases he'
        exact (hw.described _ pos e hfind hexec).after _ _ _
      · rw [positions_after, find_other hne] at h
        obtain ⟨a, ha⟩ := hw.shaped id pos' h
        have hdisj : ∀ x, behind l.position_id x = true → behind id x = false := by
          rw [ha, ha₀]
          refine fun x hx => behind_disjoint (fun haa => hne ?_) x hx
          rw [ha, ha₀, haa]
        have hkeep : ∀ x, behind id (execution_after (l.action.target pos.status) l.note x) =
            behind id x := fun _ => rfl
        rw [FirstMatch.find?_update_of_disjoint hkeep hdisj] at he'
        exact hw.described id pos' e' h he'
    · by_cases hne : id = l.position_id
      · subst hne
        by_cases htarget : l.action.target pos.status = .closed
        · rw [positions_after, find_updated hfind] at h
          cases h
          exact htarget
        · rw [if_neg htarget] at hmem
          exact hclosed _ pos' h hmem
      · refine hclosed id pos' h ?_
        split at hmem
        · exact (List.mem_cons.1 hmem).resolve_left hne
        · exact hmem
    · split
      case isTrue =>
        exact List.nodup_cons.2
          ⟨not_booked_of_accepted hw hfind href hok hsome, hw.booked_once⟩
      case isFalse => exact hw.booked_once

/-- **Accounting of manual positions**: in every run whose actions take back only
    what is entered, the book shows the notional of exactly the entered positions,
    and no position's profit is booked twice. -/
theorem manual_accounting_balances
    (hr : Reachable ((manual_workflow base).restrict takesBackEntered) s) :
    Balanced base s ∧ s.pnl_booked.Nodup := by
  have hinv : Invariant ((manual_workflow base).restrict takesBackEntered)
      (fun s => WellFormed s ∧ Balanced base s) := by
    refine Invariant.of_step (fun s h => h) ?_
    rintro s l _ ⟨hw, hb⟩ ⟨hok, rfl⟩
    rcases act_cases s l with heq | ⟨pos, hfind, href, heq⟩
    · rw [heq]
      exact ⟨hw, hb⟩
    · rw [heq]
      exact ⟨wellFormed_step hw hfind href hok, balanced_step hw hb hfind href hok⟩
  obtain ⟨hw, hb⟩ := hinv s hr
  exact ⟨hb, hw.booked_once⟩

end steps

/-! ### One position -/

/-- An opportunity that needs an operator. -/
def manual_opportunity : Opportunity where
  canonical_id := "m1"
  yes_platform := "kalshi"
  yes_market_id := "KX-1"
  yes_price := 2 / 5
  yes_fee_rate := 0
  no_platform := "polymarket"
  no_market_id := "0x1"
  no_price := 1 / 2
  no_fee_rate := 0
  suggested_qty := 10
  net_edge := 1 / 10
  net_edge_cents := 10
  confidence := 1
  quote_age_seconds := 1
  status := .manual
  requires_manual := true

/-- The state after `_queue_manual_execution` on an empty engine. -/
def one_queued : State where
  manual_positions :=
    [{ position_id := "MANUAL-ARB-000001", canonical_id := "m1", yes_platform := "kalshi"
       no_platform := "polymarket", quantity := 10, yes_price := 2 / 5, no_price := 1 / 2
       status := .awaiting_entry, updated_at := 1, entry_confirmed_at := 0, closed_at := 0
       note := "" }]
  executions :=
    [{ arb_id := "ARB-000001", opportunity := manual_opportunity
       leg_yes := .synthetic "ARB-000001-YES-MANUAL" "kalshi" "KX-1" "m1" .yes (2 / 5) 10 .pending
         "Manual execution required"
       leg_no := .synthetic "ARB-000001-NO-MANUAL" "polymarket" "0x1" "m1" .no (1 / 2) 10 .pending
         "Manual execution required"
       status := .manual_pending, realized_pnl := 0, unwind_pnl := 0
       notes := ["Manual workflow queued"] }]
  risk := .fresh 1
  pnl_booked := []

/-- An action on that position. -/
def on_it (action : Action) : Label where
  position_id := "MANUAL-ARB-000001"
  action := action
  now := 2
  note := ""

private theorem one_queued_init : (manual_workflow (.fresh 1)).init one_queued := by
  have hid : ∀ id pos, one_queued.manual_positions.find? (named id) = some pos →
      id = "MANUAL-ARB-000001" := by
    intro id pos h
    simpa [one_queued] using (position_id_of_find h).symm.trans
      (congrArg ManualPosition.position_id (List.mem_singleton.1 (List.mem_of_find?_eq_some h)))
  refine ⟨⟨?_, ?_, ?_, List.nodup_nil⟩, ?_, ?_⟩
  · exact fun id pos h => ⟨"ARB-000001", (hid id pos h).trans (by decide)⟩
  · intro id pos e h he
    cases List.mem_singleton.1 (List.mem_of_find?_eq_some h)
    cases List.mem_singleton.1 (List.mem_of_find?_eq_some he)
    exact ⟨rfl, rfl, rfl, rfl, rfl, rfl, rfl⟩
  · intro id pos _ hmem
    cases hmem
  · intro c
    simp [one_queued, ManualPosition.in_market]
  · intro p _
    simp [one_queued, ManualPosition.on_platform]

/-- The accounting while a position is entered. -/
theorem manual_accounting_balances_entered :
    Balanced (.fresh 1) (act one_queued (on_it .mark_entered)) ∧
      (act one_queued (on_it .mark_entered)).pnl_booked.Nodup := by
  have h0 : Reachable ((manual_workflow (.fresh 1)).restrict takesBackEntered) one_queued :=
    .init one_queued_init
  refine manual_accounting_balances (h0.step (l := on_it .mark_entered) ⟨?_, rfl⟩)
  intro pos _ _
  rw [if_pos (by decide +kernel)]
  exact .inl rfl

/-- Closing a closed position books its profit a second time. -/
theorem closing_twice_books_profit_twice :
    ¬ ∀ (base : RiskManager) (s : State), Reachable (manual_workflow base) s →
      Balanced base s ∧ s.pnl_booked.Nodup := by
  intro h
  have hr : Reachable (manual_workflow (.fresh 1))
      (act (act (act one_queued (on_it .mark_entered)) (on_it .mark_closed))
        (on_it .mark_closed)) :=
    (((Reachable.init one_queued_init).step (l := on_it .mark_entered) rfl).step
      (l := on_it .mark_closed) rfl).step (l := on_it .mark_closed) rfl
  exact absurd (h (.fresh 1) _ hr).2 (by decide +kernel)

end Execution.Manual
