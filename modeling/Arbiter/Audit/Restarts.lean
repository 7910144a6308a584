import Arbiter.Audit.Deposits

/-! # Restarts of the Reconciler

  The baselines and the deposits are kept in the database. Nobody waits for a write: it is a
  task of its own, which may come late, in any order, fail, or be lost with the process. A row
  of a balance is written with what the memory holds when its task runs.

  At a start the rows are loaded. A platform with a baseline, no deposits and no events has its
  baseline booked as a first deposit.

  ## Contents

  - Section 1: memory, database and tasks.
  - Section 2: operations, and the start of a process.
  - Section 3: a baseline is booked at most once.
  - Section 4: the capital of a platform survives.
-/

namespace Audit.Restarts

open LTS

/-! ## Section 1: State -/

/-- A row of `platform_balances`. -/
structure BalanceRow where
  starting_balance : ℚ
  total_deposits : ℚ

/-- A row of `deposit_events`. -/
structure EventRow extends DepositEvent where
  /-- Ghost: the event is a baseline, booked at a start. -/
  backfilled : Bool

/-- A write that nobody waits for. -/
inductive Task
  /-- `_persist_balance` -/
  | balance (platform : String)
  /-- The write of `rebaseline`. -/
  | baseline (platform : String)
  /-- `_persist_deposit_event` -/
  | event (row : EventRow)

structure Runtime where
  memory : Reconciler
  restored_from_db : Bool
  execution_history : List BookedExecution
  pending : List Task
  balances : AList fun _ : String => BalanceRow
  events : List EventRow

namespace Runtime

/-! ## Section 2: Operations -/

/-- A task runs; the database says when an event was created. -/
def perform (s : Runtime) (created_at : ℚ) : Task → Runtime
  | .balance platform =>
      { s with
        balances := s.balances.insert platform
          ⟨s.memory.starting_balances.amount platform, s.memory.total_deposits.amount platform⟩ }
  | .baseline platform =>
      { s with
        balances := s.balances.insert platform ⟨s.memory.starting_balances.amount platform, 0⟩ }
  | .event row => { s with events := s.events ++ [{ row with timestamp := created_at }] }

/-- The tasks for what was recorded between two states of the memory. -/
def recorded (before after : Reconciler) : List Task :=
  (after.deposit_events.drop before.deposit_events.length).flatMap fun e =>
    [.event ⟨e, false⟩, .balance e.platform]

/-- The memory changes, and what it recorded is to be written. -/
def remember (s : Runtime) (memory : Reconciler) : Runtime :=
  { s with memory, pending := s.pending ++ recorded s.memory memory }

/-- `record_deposit` -/
def record_deposit (s : Runtime) (platform : String)
    (amount balance_before balance_after now : ℚ) : Runtime :=
  s.remember (s.memory.record_deposit platform amount balance_before balance_after now)

/-- `set_starting_balance` -/
def set_starting_balance (s : Runtime) (platform : String) (balance : ℚ) : Runtime :=
  { s with
    memory :=
      { s.memory with
        starting_balances := s.memory.starting_balances.insert platform balance
        recorded_pnl :=
          if platform ∈ s.memory.recorded_pnl then s.memory.recorded_pnl
          else s.memory.recorded_pnl.insert platform 0 }
    pending := s.pending ++ [.balance platform] }

/-- The report of `reconcile`. -/
def report (memory : Reconciler) (current_balances : Ledger String ℚ) (now : ℚ) : Reconciler :=
  let entries := current_balances.entries.map fun e => memory.entry now e.1 e.2
  { memory with
    reports := memory.reports ++
      [{ entries
         total_recorded_pnl := (entries.map (·.recorded_pnl)).sum
         total_discrepancy := (entries.map (·.discrepancy)).sum
         has_flags := entries.any (·.is_flagged)
         timestamp := now }]
    reconciliation_count := memory.reconciliation_count + 1
    flag_count := memory.flag_count + (entries.filter (·.is_flagged)).length }

/-- Without a restore, this is the reconcile of the reconciler. -/
theorem report_detected (memory : Reconciler) (current_balances : Ledger String ℚ)
    (executions : Option (List BookedExecution)) (clock : String → ℚ) (now : ℚ) :
    report ((memory.refresh executions).detect_deposits clock current_balances)
      current_balances now = memory.reconcile current_balances executions clock now := rfl

/-- `reconcile`: after a restore, nothing is taken for a deposit before there is a trade. -/
def reconcile (s : Runtime) (current_balances : Ledger String ℚ) (clock : String → ℚ)
    (now : ℚ) : Runtime :=
  let restored_from_db := s.restored_from_db && s.execution_history.isEmpty
  let memory := s.memory.load_execution_history s.execution_history
  let memory :=
    if restored_from_db then memory else memory.detect_deposits clock current_balances
  { s.remember (report memory current_balances now) with restored_from_db }

/-- What `sync_runtime_reconciliation` does first, on a platform: a baseline that is new, or
    that nothing was built on, is set to the balance. -/
def anchor (known : Ledger String ℚ) (s : Runtime) (platform : String) (balance : ℚ) : Runtime :=
  match known.lookup platform with
  | none => s.set_starting_balance platform balance
  | some starting =>
      if s.execution_history = [] ∧ s.memory.deposit_events = [] ∧ s.restored_from_db = false then
        if 1 / 100 < |starting - balance| then s.set_starting_balance platform balance else s
      else s

/-- `sync_runtime_reconciliation` -/
def sync (s : Runtime) (current_balances : Ledger String ℚ) (clock : String → ℚ) (now : ℚ) :
    Runtime :=
  if current_balances.entries = [] then s
  else
    let known := s.memory.starting_balances
    (current_balances.entries.foldl (fun s e => s.anchor known e.1 e.2) s).reconcile
      current_balances clock now

/-- The regular branch of `handle_add_deposit`; `balance` is the current one. -/
def add_deposit (s : Runtime) (platform : String) (amount balance now : ℚ) : Runtime :=
  s.record_deposit platform amount (balance - amount) balance now

/-- The branch of `handle_add_deposit` that resets. -/
def set_initial_capital (s : Runtime) (platform : String) (amount : ℚ) : Runtime :=
  { s with
    memory :=
      { s.memory with
        starting_balances := s.memory.starting_balances.insert platform amount
        total_deposits := s.memory.total_deposits.insert platform 0 }
    pending := s.pending ++ [.balance platform] }

/-- The first loop of `rebaseline`. -/
def rebaseline_current (ledger_pnl : Ledger String ℚ) (memory : Reconciler)
    (e : Sigma fun _ : String => ℚ) : Reconciler :=
  { memory with
    starting_balances := memory.starting_balances.insert e.1 (e.2 - ledger_pnl.amount e.1)
    recorded_pnl := memory.recorded_pnl.insert e.1 (ledger_pnl.amount e.1)
    total_deposits := memory.total_deposits.insert e.1 0 }

/-- The second loop of `rebaseline`: platforms of the ledger that have no balance. -/
def rebaseline_ledger (current_balances : Ledger String ℚ) (memory : Reconciler)
    (e : Sigma fun _ : String => ℚ) : Reconciler :=
  if e.1 ∈ current_balances then memory
  else
    { memory with
      starting_balances :=
        if e.1 ∈ memory.starting_balances then memory.starting_balances
        else memory.starting_balances.insert e.1 (-e.2)
      recorded_pnl := memory.recorded_pnl.insert e.1 e.2
      total_deposits := memory.total_deposits.insert e.1 0 }

/-- `rebaseline` -/
def rebaseline (s : Runtime) (current_balances : Ledger String ℚ) : Runtime :=
  let ledger_pnl := pnl_by_platform s.execution_history
  let memory := current_balances.entries.foldl (rebaseline_current ledger_pnl) s.memory
  let memory := ledger_pnl.entries.foldl (rebaseline_ledger current_balances) memory
  { s with
    memory := { memory with flag_count := 0, reports := [], reconciliation_count := 0 }
    pending := s.pending ++ memory.starting_balances.keys.map .baseline }

/-! ### The start of a process -/

/-- A reconciler that was just made. -/
def made (threshold : ℚ) : Reconciler where
  threshold := threshold
  starting_balances := ∅
  recorded_pnl := ∅
  total_deposits := ∅
  deposit_events := []
  reports := []
  reconciliation_count := 0
  flag_count := 0

/-- A row of `platform_balances` is loaded. -/
def load_balance (memory : Reconciler) (e : Sigma fun _ : String => BalanceRow) : Reconciler :=
  { memory with
    starting_balances := memory.starting_balances.insert e.1 e.2.starting_balance
    total_deposits := memory.total_deposits.insert e.1 e.2.total_deposits
    recorded_pnl :=
      if e.1 ∈ memory.recorded_pnl then memory.recorded_pnl
      else memory.recorded_pnl.insert e.1 0 }

/-- A round of `backfill_initial_deposits_as_events`. -/
def backfill (clock : String → ℚ) (s : Runtime) (e : Sigma fun _ : String => ℚ) : Runtime :=
  if e.2 ≤ 0 ∨ s.memory.total_deposits.amount e.1 ≠ 0 ∨
      s.memory.deposit_events.any (fun event => event.platform = e.1) then s
  else
    let event : DepositEvent := ⟨e.1, e.2, 0, e.2, clock e.1⟩
    { s with
      memory :=
        { s.memory with
          deposit_events := s.memory.deposit_events ++ [event]
          total_deposits := s.memory.total_deposits.insert e.1 e.2 }
      pending := s.pending ++ [.event ⟨event, true⟩, .balance e.1] }

/-- How far loading comes before something raises. -/
inductive Loading
  | nothing
  | balances
  | everything

/-- A new process: `load_persisted_state`. Tasks are lost with the old one. -/
def start (s : Runtime) (threshold : ℚ) (history : List BookedExecution)
    (clock : String → ℚ) : Loading → Runtime
  | .nothing => ⟨made threshold, false, history, [], s.balances, s.events⟩
  | .balances =>
      ⟨s.balances.entries.foldl load_balance (made threshold), false, history, [], s.balances,
        s.events⟩
  | .everything =>
      let memory := s.balances.entries.foldl load_balance (made threshold)
      let memory := { memory with deposit_events := s.events.map EventRow.toDepositEvent }
      let restored := !s.balances.entries.isEmpty
      let s : Runtime := ⟨memory, restored, history, [], s.balances, s.events⟩
      if restored then memory.starting_balances.entries.foldl (backfill clock) s else s

end Runtime

/-- What can happen. -/
inductive Label
  | sync (current_balances : Ledger String ℚ) (clock : String → ℚ) (now : ℚ)
  | add_deposit (platform : String) (amount balance now : ℚ)
  | set_initial_capital (platform : String) (amount : ℚ)
  | rebaseline (current_balances : Ledger String ℚ)
  | trade (e : BookedExecution)
  /-- A task runs, or fails; `before` and `after` are the others. -/
  | perform (before : List Task) (t : Task) (after : List Task) (created_at : ℚ)
  | fail (before : List Task) (t : Task) (after : List Task)
  /-- The process stops, wherever it is, and another starts. -/
  | restart (threshold : ℚ) (history : List BookedExecution) (clock : String → ℚ)
      (loading : Runtime.Loading)

/-- The reconciler and its database, in every order of operations, tasks, failures and
    restarts. -/
def runtime (init : Runtime → Prop) : System Runtime Label where
  init := init
  step s l s' :=
    match l with
    | .sync current_balances clock now => s' = s.sync current_balances clock now
    | .add_deposit platform amount balance now => s' = s.add_deposit platform amount balance now
    | .set_initial_capital platform amount => s' = s.set_initial_capital platform amount
    | .rebaseline current_balances => s' = s.rebaseline current_balances
    | .trade e => s' = { s with execution_history := s.execution_history ++ [e] }
    | .perform before t after created_at =>
        s.pending = before ++ t :: after ∧
          s' = { s with pending := before ++ after }.perform created_at t
    | .fail before t after =>
        s.pending = before ++ t :: after ∧ s' = { s with pending := before ++ after }
    | .restart threshold history clock loading => s' = s.start threshold history clock loading

/-! ## Section 3: Baselines are booked once -/

/-- The row that a task writes. -/
def Task.row : Task → Option EventRow
  | .event row => some row
  | _ => none

/-- The booked baselines of a platform. -/
def booked (platform : String) (rows : List EventRow) : ℕ :=
  (rows.filter fun row => row.backfilled && decide (row.platform = platform)).length

@[simp] theorem booked_nil (platform : String) : booked platform [] = 0 := rfl

@[simp] theorem booked_append (platform : String) (rows more : List EventRow) :
    booked platform (rows ++ more) = booked platform rows + booked platform more := by
  simp [booked]

namespace Runtime

variable {s : Runtime} {platform : String}

/-- What is booked, and what is to be booked. -/
def tally (s : Runtime) (platform : String) : ℕ :=
  booked platform s.events + booked platform (s.pending.filterMap Task.row)

theorem booked_recorded (before after : Reconciler) :
    booked platform ((recorded before after).filterMap Task.row) = 0 := by
  unfold recorded
  induction after.deposit_events.drop before.deposit_events.length with
  | nil => rfl
  | cons e rest ih => simpa [Task.row, booked] using ih

theorem tally_remember (memory : Reconciler) :
    (s.remember memory).tally platform = s.tally platform := by
  simp [remember, tally, booked_recorded]

theorem tally_set_starting_balance (other : String) (balance : ℚ) :
    (s.set_starting_balance other balance).tally platform = s.tally platform := by
  simp [set_starting_balance, tally, Task.row, List.filterMap_cons]

theorem tally_anchor (known : Ledger String ℚ) (other : String) (balance : ℚ) :
    (s.anchor known other balance).tally platform = s.tally platform := by
  unfold anchor
  split
  · exact tally_set_starting_balance other balance
  · split_ifs
    · exact tally_set_starting_balance other balance
    · rfl
    · rfl

theorem tally_sync (current_balances : Ledger String ℚ) (clock : String → ℚ) (now : ℚ) :
    (s.sync current_balances clock now).tally platform = s.tally platform := by
  have hanchored : ∀ (entries : List (Sigma fun _ : String => ℚ)) (s' : Runtime),
      (entries.foldl (fun t e => t.anchor s.memory.starting_balances e.1 e.2) s').tally platform =
        s'.tally platform := by
    intro entries
    induction entries with
    | nil => exact fun _ => rfl
    | cons e rest ih => exact fun s' => (ih _).trans (tally_anchor _ _ _)
  unfold sync
  split_ifs
  · rfl
  · exact (tally_remember _).trans (hanchored _ s)

theorem tally_rebaseline (current_balances : Ledger String ℚ) :
    (s.rebaseline current_balances).tally platform = s.tally platform := by
  have hnone : ∀ keys : List String, (keys.map Task.baseline).filterMap Task.row = [] := by
    intro keys
    induction keys with
    | nil => rfl
    | cons key rest ih => exact ih
  simp [rebaseline, tally, hnone]

theorem tally_perform {before after : List Task} {t : Task} (h : s.pending = before ++ t :: after)
    (created_at : ℚ) :
    ({ s with pending := before ++ after }.perform created_at t).tally platform =
      s.tally platform := by
  unfold tally
  rw [h]
  cases t with
  | balance other => simp [perform, Task.row, List.filterMap_cons]
  | baseline other => simp [perform, Task.row, List.filterMap_cons]
  | event row =>
    have hone : booked platform [{ row with timestamp := created_at }] =
        booked platform [row] := by
      by_cases hbooked : row.backfilled = true ∧ row.platform = platform
      · simp [booked, hbooked]
      · simp [booked, hbooked]
    have hcons : booked platform (row :: after.filterMap Task.row) =
        booked platform [row] + booked platform (after.filterMap Task.row) :=
      booked_append platform [row] _
    simp only [perform, booked_append, List.filterMap_append, List.filterMap_cons, Task.row, hone,
      hcons]
    omega

theorem tally_fail {before after : List Task} {t : Task} (h : s.pending = before ++ t :: after) :
    ({ s with pending := before ++ after } : Runtime).tally platform ≤ s.tally platform := by
  have hsub : (before ++ after).Sublist (before ++ t :: after) :=
    List.Sublist.append_left (List.sublist_cons_self t after) before
  unfold tally
  rw [h]
  have hrows := (hsub.filterMap Task.row).filter fun row : EventRow =>
    row.backfilled && decide (row.platform = platform)
  have hlen : booked platform ((before ++ after).filterMap Task.row) ≤
      booked platform ((before ++ t :: after).filterMap Task.row) := hrows.length_le
  exact Nat.add_le_add_left hlen _

/-- Where something of a platform is booked, the memory has an event of it. -/
def Noted (s : Runtime) (platform : String) : Prop :=
  s.tally platform ≠ 0 → ∃ e ∈ s.memory.deposit_events, e.platform = platform

/-- A round of the backfill books a platform that has no event. -/
theorem tally_backfill (clock : String → ℚ) (e : Sigma fun _ : String => ℚ)
    (h : s.tally platform ≤ 1) (hnoted : s.Noted platform) :
    (s.backfill clock e).tally platform ≤ 1 ∧ (s.backfill clock e).Noted platform := by
  unfold backfill
  split_ifs with hskip
  · exact ⟨h, hnoted⟩
  · simp only [not_or, Bool.not_eq_true, List.any_eq_false, decide_eq_true_eq] at hskip
    obtain ⟨-, -, hnone⟩ := hskip
    by_cases hplatform : e.1 = platform
    · have hzero : s.tally platform = 0 := by
        by_contra hbooked
        obtain ⟨event, hevent, hof⟩ := hnoted hbooked
        exact hnone event hevent (hof.trans hplatform.symm)
      constructor
      · unfold tally at hzero ⊢
        simp only [List.filterMap_append, booked_append]
        have hnew : booked platform (List.filterMap Task.row
            [.event ⟨⟨e.1, e.2, 0, e.2, clock e.1⟩, true⟩, .balance e.1]) ≤ 1 :=
          List.length_filter_le _ _
        omega
      · intro _
        exact ⟨_, List.mem_append_right _ List.mem_cons_self, hplatform⟩
    · have hnew : booked platform (List.filterMap Task.row
          [.event ⟨⟨e.1, e.2, 0, e.2, clock e.1⟩, true⟩, .balance e.1]) = 0 := by
        simp [Task.row, booked, hplatform]
      have hsame : ∀ (memory : Reconciler), ({ s with
          memory
          pending := s.pending ++ [.event ⟨⟨e.1, e.2, 0, e.2, clock e.1⟩, true⟩,
            .balance e.1] } : Runtime).tally platform = s.tally platform := by
        intro memory
        unfold tally
        simp only [List.filterMap_append, booked_append, hnew, Nat.add_zero]
      constructor
      · rw [hsame]
        exact h
      · intro hbooked
        rw [hsame] at hbooked
        obtain ⟨event, hevent, hof⟩ := hnoted hbooked
        exact ⟨event, List.mem_append_left _ hevent, hof⟩

theorem tally_backfills (clock : String → ℚ) (entries : List (Sigma fun _ : String => ℚ))
    (h : s.tally platform ≤ 1) (hnoted : s.Noted platform) :
    (entries.foldl (backfill clock) s).tally platform ≤ 1 := by
  induction entries generalizing s with
  | nil => exact h
  | cons e rest ih =>
    obtain ⟨hone, hnoted'⟩ := tally_backfill clock e h hnoted
    exact ih hone hnoted'

theorem tally_start (threshold : ℚ) (history : List BookedExecution) (clock : String → ℚ)
    (loading : Loading) (h : s.tally platform ≤ 1) :
    (s.start threshold history clock loading).tally platform ≤ 1 := by
  have hrows : booked platform s.events ≤ 1 := by
    unfold tally at h
    omega
  cases loading with
  | nothing => exact hrows
  | balances => exact hrows
  | everything =>
    unfold start
    dsimp only
    split_ifs
    · refine tally_backfills clock _ hrows fun hbooked => ?_
      have hpos : 0 < booked platform s.events := Nat.pos_of_ne_zero hbooked
      obtain ⟨row, hrow⟩ := List.exists_mem_of_length_pos hpos
      obtain ⟨hmem, hof⟩ := List.mem_filter.mp hrow
      simp only [Bool.and_eq_true, decide_eq_true_eq] at hof
      exact ⟨row.toDepositEvent, List.mem_map.mpr ⟨row, hmem, rfl⟩, hof.2⟩
    · exact hrows

end Runtime

/-- Whatever is reconciled, deposited, reset and traded, in whatever order the writes come or
    fail, and wherever processes stop: the baseline of a platform is in the database as a
    deposit at most once. -/
theorem baseline_booked_once :
    Invariant (runtime fun s => s.events = [] ∧ s.pending = []) fun s =>
      ∀ platform, booked platform s.events ≤ 1 := by
  have hinv : Invariant (runtime fun s => s.events = [] ∧ s.pending = []) fun s =>
      ∀ platform, s.tally platform ≤ 1 := by
    apply Invariant.of_step
    · intro s hs platform
      obtain ⟨hevents, hpending⟩ := hs
      simp [Runtime.tally, hevents, hpending]
    · intro s l s' h hs platform
      cases l with
      | sync current_balances clock now =>
        rw [show s' = _ from hs, Runtime.tally_sync]
        exact h platform
      | add_deposit other amount balance now =>
        rw [show s' = _ from hs, Runtime.add_deposit, Runtime.record_deposit,
          Runtime.tally_remember]
        exact h platform
      | set_initial_capital other amount =>
        rw [show s' = _ from hs]
        simpa [Runtime.set_initial_capital, Runtime.tally, Task.row, List.filterMap_cons]
          using h platform
      | rebaseline current_balances =>
        rw [show s' = _ from hs, Runtime.tally_rebaseline]
        exact h platform
      | trade e =>
        rw [show s' = _ from hs]
        exact h platform
      | perform before t after created_at =>
        rw [show s' = _ from hs.2, Runtime.tally_perform hs.1]
        exact h platform
      | fail before t after =>
        rw [show s' = _ from hs.2]
        exact (Runtime.tally_fail hs.1).trans (h platform)
      | restart threshold history clock loading =>
        rw [show s' = _ from hs]
        exact Runtime.tally_start threshold history clock loading (h platform)
  intro s hs platform
  have htally := hinv s hs platform
  unfold Runtime.tally at htally
  omega

/-! ## Section 4: Capital -/

/-- What a platform started with, less all deposits: profits are measured against it. -/
def capital (memory : Reconciler) (platform : String) : ℚ :=
  memory.starting_balances.amount platform - memory.total_deposits.amount platform

/-- The platform has an event in the database, and a row with its capital, which the memory has
    too; nothing is on its way that resets it. -/
structure Settled (platform : String) (c : ℚ) (s : Runtime) : Prop where
  known : (s.memory.starting_balances.lookup platform).isSome
  capital : capital s.memory platform = c
  noted : ∃ e ∈ s.memory.deposit_events, e.platform = platform
  row : ∃ row, s.balances.lookup platform = some row ∧
    row.starting_balance - row.total_deposits = c
  stored : ∃ e ∈ s.events, e.platform = platform
  unreset : .baseline platform ∉ s.pending

/-- No operator resets the platform, and what is loaded is loaded in full. -/
def Ordinary (platform : String) : Label → Prop
  | .set_initial_capital other _ => other ≠ platform
  | .rebaseline _ => False
  | .restart _ _ _ loading => loading = .everything
  | _ => True

section memory

variable {memory : Reconciler} {platform : String}

/-- What the memory tells of a platform that is settled. -/
structure Remembers (memory : Reconciler) (platform : String) (c : ℚ) : Prop where
  known : (memory.starting_balances.lookup platform).isSome
  capital : capital memory platform = c
  noted : ∃ e ∈ memory.deposit_events, e.platform = platform

variable {c : ℚ}

/-- A deposit moves the baseline and the deposits by the same amount. -/
theorem Remembers.record_deposit (h : Remembers memory platform c) (other : String)
    (amount balance_before balance_after now : ℚ) :
    Remembers (memory.record_deposit other amount balance_before balance_after now) platform c := by
  unfold Reconciler.record_deposit
  split_ifs
  · exact h
  · constructor
    · by_cases hother : platform = other
      · subst hother
        simp [Ledger.credit]
      · rw [Ledger.credit, AList.lookup_insert_ne hother]
        exact h.known
    · have hcapital := h.capital
      unfold Restarts.capital at hcapital ⊢
      rw [Ledger.amount_credit, Ledger.amount_credit, add_sub_add_right_eq_sub]
      exact hcapital
    · obtain ⟨e, he, hof⟩ := h.noted
      exact ⟨e, List.mem_append_left _ he, hof⟩

theorem Remembers.detect_deposits (h : Remembers memory platform c) (clock : String → ℚ)
    (entries : List (Sigma fun _ : String => ℚ)) :
    Remembers (entries.foldl (fun s e => s.detect_deposit clock e.1 e.2) memory) platform c := by
  induction entries generalizing memory with
  | nil => exact h
  | cons e rest ih =>
    apply ih
    show Remembers (memory.detect_deposit clock e.1 e.2) platform c
    rw [Reconciler.detect_deposit_eq]
    split_ifs
    · exact h.record_deposit _ _ _ _ _
    · exact h

/-- Loading sets what the row of the platform has. -/
theorem load_balances_lookup (entries : List (Sigma fun _ : String => BalanceRow))
    (hnodup : entries.NodupKeys) (memory : Reconciler) {row : BalanceRow}
    (hrow : entries.dlookup platform = some row ∨
      (entries.dlookup platform = none ∧
        memory.starting_balances.lookup platform = some row.starting_balance ∧
        memory.total_deposits.lookup platform = some row.total_deposits)) :
    (entries.foldl Runtime.load_balance memory).starting_balances.lookup platform =
        some row.starting_balance ∧
      (entries.foldl Runtime.load_balance memory).total_deposits.lookup platform =
        some row.total_deposits := by
  induction entries generalizing memory with
  | nil =>
    rcases hrow with hsome | ⟨-, hstarting, htotal⟩
    · cases hsome
    · exact ⟨hstarting, htotal⟩
  | cons e rest ih =>
    obtain ⟨hfresh, hrest⟩ := List.nodupKeys_cons.mp hnodup
    apply ih hrest
    obtain ⟨other, loaded⟩ := e
    by_cases hplatform : platform = other
    · subst hplatform
      rw [List.dlookup_cons_eq] at hrow
      rcases hrow with hsome | ⟨hnone, -⟩
      · obtain rfl := Option.some.inj hsome
        right
        refine ⟨List.dlookup_eq_none.mpr hfresh, ?_, ?_⟩
        · exact AList.lookup_insert _
        · exact AList.lookup_insert _
      · cases hnone
    · rw [List.dlookup_cons_ne _ _ hplatform] at hrow
      rcases hrow with hsome | ⟨hnone, hstarting, htotal⟩
      · exact .inl hsome
      · right
        refine ⟨hnone, ?_, ?_⟩
        · exact (AList.lookup_insert_ne hplatform).trans hstarting
        · exact (AList.lookup_insert_ne hplatform).trans htotal

end memory

namespace Settled

variable {s : Runtime} {platform : String} {c : ℚ}

theorem remembers (h : Settled platform c s) : Remembers s.memory platform c :=
  ⟨h.known, h.capital, h.noted⟩

theorem remember (h : Settled platform c s) {memory : Reconciler}
    (hmemory : Remembers memory platform c) : Settled platform c (s.remember memory) := by
  refine ⟨hmemory.known, hmemory.capital, hmemory.noted, h.row, h.stored, fun hreset => ?_⟩
  rcases List.mem_append.mp hreset with hold | hnew
  · exact h.unreset hold
  · obtain ⟨e, -, he⟩ := List.mem_flatMap.mp hnew
    simp at he

/-- The baseline of another platform. -/
theorem set_starting_balance (h : Settled platform c s) {other : String}
    (hother : platform ≠ other) (balance : ℚ) :
    Settled platform c (s.set_starting_balance other balance) := by
  constructor
  · show ((s.memory.starting_balances.insert other balance).lookup platform).isSome
    rw [AList.lookup_insert_ne hother]
    exact h.known
  · have hcapital := h.capital
    show Ledger.amount (s.memory.starting_balances.insert other balance) platform - _ = c
    rw [Ledger.amount_insert_ne _ _ hother]
    exact hcapital
  · exact h.noted
  · exact h.row
  · exact h.stored
  · intro hreset
    rcases List.mem_append.mp hreset with hold | hnew
    · exact h.unreset hold
    · simp at hnew

theorem anchor (h : Settled platform c s) {known : Ledger String ℚ}
    (hknown : (known.lookup platform).isSome) (other : String) (balance : ℚ) :
    Settled platform c (s.anchor known other balance) := by
  unfold Runtime.anchor
  split
  · next hnone =>
    have hother : platform ≠ other := by
      intro heq
      rw [heq, hnone] at hknown
      cases hknown
    exact h.set_starting_balance hother balance
  · next starting _ =>
    rw [if_neg]
    · exact h
    · intro hfresh
      obtain ⟨e, he, -⟩ := h.noted
      rw [hfresh.2.1] at he
      cases he

theorem reconcile (h : Settled platform c s) (current_balances : Ledger String ℚ)
    (clock : String → ℚ) (now : ℚ) :
    Settled platform c (s.reconcile current_balances clock now) := by
  have hloaded : Remembers (s.memory.load_execution_history s.execution_history) platform c :=
    ⟨h.known, h.capital, h.noted⟩
  have hreported : ∀ memory, Remembers memory platform c →
      Settled platform c (s.remember (Runtime.report memory current_balances now)) := by
    intro memory hmemory
    exact h.remember ⟨hmemory.known, hmemory.capital, hmemory.noted⟩
  have hfound := hreported (if (s.restored_from_db && s.execution_history.isEmpty) = true
    then s.memory.load_execution_history s.execution_history
    else (s.memory.load_execution_history s.execution_history).detect_deposits clock
      current_balances) (by
        split_ifs
        · exact hloaded
        · exact hloaded.detect_deposits clock current_balances.entries)
  exact ⟨hfound.known, hfound.capital, hfound.noted, hfound.row, hfound.stored, hfound.unreset⟩

theorem sync (h : Settled platform c s) (current_balances : Ledger String ℚ)
    (clock : String → ℚ) (now : ℚ) : Settled platform c (s.sync current_balances clock now) := by
  have hanchored : ∀ (entries : List (Sigma fun _ : String => ℚ)) (s' : Runtime),
      Settled platform c s' → Settled platform c
        (entries.foldl (fun t e => t.anchor s.memory.starting_balances e.1 e.2) s') := by
    intro entries
    induction entries with
    | nil => exact fun _ h' => h'
    | cons e rest ih => exact fun s' h' => ih _ (h'.anchor h.known e.1 e.2)
  unfold Runtime.sync
  split_ifs
  · exact h
  · exact (hanchored _ s h).reconcile current_balances clock now

theorem set_initial_capital (h : Settled platform c s) {other : String}
    (hother : other ≠ platform) (amount : ℚ) :
    Settled platform c (s.set_initial_capital other amount) := by
  constructor
  · show ((s.memory.starting_balances.insert other amount).lookup platform).isSome
    rw [AList.lookup_insert_ne (Ne.symm hother)]
    exact h.known
  · have hcapital := h.capital
    show Ledger.amount (s.memory.starting_balances.insert other amount) platform -
      Ledger.amount (s.memory.total_deposits.insert other 0) platform = c
    rw [Ledger.amount_insert_ne _ _ (Ne.symm hother), Ledger.amount_insert_ne _ _ (Ne.symm hother)]
    exact hcapital
  · exact h.noted
  · exact h.row
  · exact h.stored
  · intro hreset
    rcases List.mem_append.mp hreset with hold | hnew
    · exact h.unreset hold
    · simp at hnew

/-- A task that is not a reset writes the capital that the memory has. -/
theorem perform (h : Settled platform c s) {before after : List Task} {t : Task}
    (ht : s.pending = before ++ t :: after) (created_at : ℚ) :
    Settled platform c ({ s with pending := before ++ after }.perform created_at t) := by
  have hleft : Task.baseline platform ∉ before ++ after := by
    intro hreset
    apply h.unreset
    rw [ht]
    rcases List.mem_append.mp hreset with hbefore | hafter
    · exact List.mem_append_left _ hbefore
    · exact List.mem_append_right _ (List.mem_cons_of_mem _ hafter)
  cases t with
  | balance other =>
    refine ⟨h.known, h.capital, h.noted, ?_, h.stored, hleft⟩
    by_cases hother : platform = other
    · subst hother
      exact ⟨_, AList.lookup_insert _, h.capital⟩
    · obtain ⟨row, hrow, hcapital⟩ := h.row
      exact ⟨row, (AList.lookup_insert_ne hother).trans hrow, hcapital⟩
  | baseline other =>
    have hother : platform ≠ other := by
      intro heq
      apply h.unreset
      rw [ht, heq]
      exact List.mem_append_right _ List.mem_cons_self
    obtain ⟨row, hrow, hcapital⟩ := h.row
    exact ⟨h.known, h.capital, h.noted,
      ⟨row, (AList.lookup_insert_ne hother).trans hrow, hcapital⟩, h.stored, hleft⟩
  | event row =>
    obtain ⟨e, he, hof⟩ := h.stored
    exact ⟨h.known, h.capital, h.noted, h.row, ⟨e, List.mem_append_left _ he, hof⟩, hleft⟩

theorem fail (h : Settled platform c s) {before after : List Task} {t : Task}
    (ht : s.pending = before ++ t :: after) :
    Settled platform c { s with pending := before ++ after } := by
  refine ⟨h.known, h.capital, h.noted, h.row, h.stored, fun hreset => h.unreset ?_⟩
  rw [ht]
  rcases List.mem_append.mp hreset with hbefore | hafter
  · exact List.mem_append_left _ hbefore
  · exact List.mem_append_right _ (List.mem_cons_of_mem _ hafter)

/-- A platform that has an event is not booked again. -/
theorem backfill (h : Settled platform c s) (clock : String → ℚ)
    (e : Sigma fun _ : String => ℚ) : Settled platform c (s.backfill clock e) := by
  unfold Runtime.backfill
  split_ifs with hskip
  · exact h
  · simp only [not_or, Bool.not_eq_true, List.any_eq_false, decide_eq_true_eq] at hskip
    have hother : platform ≠ e.1 := by
      intro heq
      obtain ⟨event, hevent, hof⟩ := h.noted
      exact hskip.2.2 event hevent (hof.trans heq)
    constructor
    · exact h.known
    · have hcapital := h.capital
      show _ - Ledger.amount (s.memory.total_deposits.insert e.1 e.2) platform = c
      rw [Ledger.amount_insert_ne _ _ hother]
      exact hcapital
    · obtain ⟨event, hevent, hof⟩ := h.noted
      exact ⟨event, List.mem_append_left _ hevent, hof⟩
    · exact h.row
    · exact h.stored
    · intro hreset
      rcases List.mem_append.mp hreset with hold | hnew
      · exact h.unreset hold
      · simp at hnew

theorem start (h : Settled platform c s) (threshold : ℚ) (history : List BookedExecution)
    (clock : String → ℚ) : Settled platform c (s.start threshold history clock .everything) := by
  obtain ⟨row, hrow, hcapital⟩ := h.row
  obtain ⟨hstarting, htotal⟩ := load_balances_lookup s.balances.entries s.balances.nodupKeys
    (Runtime.made threshold) (.inl hrow)
  obtain ⟨e, he, hof⟩ := h.stored
  have hloaded : ∀ restored, Settled platform c
      ⟨{ s.balances.entries.foldl Runtime.load_balance (Runtime.made threshold) with
          deposit_events := s.events.map EventRow.toDepositEvent },
        restored, history, [], s.balances, s.events⟩ := by
    intro restored
    refine ⟨?_, ?_, ⟨e.toDepositEvent, List.mem_map.mpr ⟨e, he, rfl⟩, hof⟩, ⟨row, hrow, hcapital⟩,
      ⟨e, he, hof⟩, by simp⟩
    · show (AList.lookup platform _).isSome
      rw [hstarting]
      rfl
    · show Ledger.amount _ platform - Ledger.amount _ platform = c
      rw [Ledger.amount, Ledger.amount, hstarting, htotal]
      exact hcapital
  have hbackfilled : ∀ (entries : List (Sigma fun _ : String => ℚ)) (s' : Runtime),
      Settled platform c s' → Settled platform c (entries.foldl (Runtime.backfill clock) s') := by
    intro entries
    induction entries with
    | nil => exact fun _ h' => h'
    | cons e rest ih => exact fun s' h' => ih _ (h'.backfill clock e)
  unfold Runtime.start
  dsimp only
  split_ifs
  · exact hbackfilled _ _ (hloaded _)
  · exact hloaded _

end Settled

/-- Once a platform has an event in the database, its capital is the same in the memory and in
    the database for ever: deposits and reconciles move the baseline and the deposits alike,
    writes that are late or lost leave a row that had it, and a new process loads such a row. It
    changes only where an operator resets it, or where loading fails. -/
theorem capital_survives (platform : String) (c : ℚ) :
    Invariant ((runtime (Settled platform c)).restrict fun _ l => Ordinary platform l)
      (Settled platform c) := by
  apply Invariant.of_step
  · exact fun _ h => h
  · intro s l s' h hs
    obtain ⟨hordinary, hstep⟩ := hs
    cases l with
    | sync current_balances clock now =>
      rw [show s' = _ from hstep]
      exact h.sync current_balances clock now
    | add_deposit other amount balance now =>
      rw [show s' = _ from hstep]
      exact h.remember (h.remembers.record_deposit _ _ _ _ _)
    | set_initial_capital other amount =>
      rw [show s' = _ from hstep]
      exact h.set_initial_capital hordinary amount
    | rebaseline current_balances => exact hordinary.elim
    | trade e =>
      rw [show s' = _ from hstep]
      exact ⟨h.known, h.capital, h.noted, h.row, h.stored, h.unreset⟩
    | perform before t after created_at =>
      rw [show s' = _ from hstep.2]
      exact h.perform hstep.1 created_at
    | fail before t after =>
      rw [show s' = _ from hstep.2]
      exact h.fail hstep.1
    | restart threshold history clock loading =>
      obtain rfl : loading = .everything := hordinary
      rw [show s' = _ from hstep]
      exact h.start threshold history clock

end Audit.Restarts
