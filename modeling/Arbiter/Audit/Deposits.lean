import Arbiter.Audit.Attribution
import Arbiter.Framework.System

/-! # Deposits

  The reconciler explains a balance that the ledger does not by a deposit or a withdrawal: it
  records the event and moves the starting balance of the platform with it. An event like one
  of the last ten minutes, on the same platform and between the same balances, is taken for a
  duplicate and dropped.

  ## Contents

  - `Reconciler`: baselines, recorded profit, deposits.
  - `record_deposit`, `detect_deposits`, `reconcile`.
  - `deposits_explained`: what the events explain, and what is left.
-/

namespace Audit

/-! ### State -/

/-- A detected deposit or withdrawal. -/
structure DepositEvent where
  platform : String
  amount : ℚ
  balance_before : ℚ
  balance_after : ℚ
  timestamp : ℚ
  deriving DecidableEq

/-- The check of one platform. -/
structure ReconciliationEntry where
  platform : String
  recorded_pnl : ℚ
  platform_balance : ℚ
  starting_balance : ℚ
  expected_balance : ℚ
  discrepancy : ℚ
  is_flagged : Bool
  timestamp : ℚ

/-- The check of all platforms. -/
structure ReconciliationReport where
  entries : List ReconciliationEntry
  total_recorded_pnl : ℚ
  total_discrepancy : ℚ
  has_flags : Bool
  timestamp : ℚ

/-- A reconciler that was not restored from the database. -/
structure Reconciler where
  /-- The drift that is flagged. -/
  threshold : ℚ
  starting_balances : Ledger String ℚ
  recorded_pnl : Ledger String ℚ
  total_deposits : Ledger String ℚ
  /-- In the order of their recording. -/
  deposit_events : List DepositEvent
  reports : List ReconciliationReport
  reconciliation_count : ℕ
  flag_count : ℕ

def DEPOSIT_DETECTION_THRESHOLD : ℚ := 1

def DEPOSIT_DEDUP_WINDOW_SEC : ℚ := 600

def DEPOSIT_DEDUP_TOLERANCE : ℚ := 1 / 100

/-- The events on a platform sum to this. -/
def deposited (events : List DepositEvent) (platform : String) : ℚ :=
  ((events.filter (·.platform = platform)).map (·.amount)).sum

@[simp] theorem deposited_nil (platform : String) : deposited [] platform = 0 := rfl

theorem deposited_concat (events : List DepositEvent) (e : DepositEvent) (platform : String) :
    deposited (events ++ [e]) platform =
      deposited events platform + if platform = e.platform then e.amount else 0 := by
  unfold deposited
  by_cases h : platform = e.platform
  · simp [h]
  · have hne : ¬ e.platform = platform := fun heq => h heq.symm
    simp [h, hne]

namespace Reconciler

/-! ### Operations -/

/-- `load_execution_history`. -/
def load_execution_history (s : Reconciler) (executions : List BookedExecution) : Reconciler :=
  let zeros : Ledger String ℚ :=
    s.starting_balances.keys.foldl (fun zeros platform => zeros.insert platform 0) ∅
  { s with recorded_pnl := pnl_by_platform executions ∪ zeros }

/-- The event is on the platform, and between the balances up to a cent. -/
def Matches (prior : DepositEvent) (platform : String) (balance_before balance_after : ℚ) :
    Prop :=
  prior.platform = platform ∧
    |prior.balance_before - balance_before| ≤ DEPOSIT_DEDUP_TOLERANCE ∧
    |prior.balance_after - balance_after| ≤ DEPOSIT_DEDUP_TOLERANCE

instance (prior : DepositEvent) (platform : String) (balance_before balance_after : ℚ) :
    Decidable (Matches prior platform balance_before balance_after) := by
  unfold Matches; infer_instance

/-- The walk of `_is_duplicate_deposit`, over the events from the last one on. -/
def walk_events (platform : String) (balance_before balance_after cutoff : ℚ) :
    List DepositEvent → Bool
  | [] => false
  | prior :: earlier =>
      if prior.timestamp < cutoff then false
      else if Matches prior platform balance_before balance_after then true
      else walk_events platform balance_before balance_after cutoff earlier

/-- `_is_duplicate_deposit`. -/
def is_duplicate_deposit (s : Reconciler) (platform : String)
    (balance_before balance_after now : ℚ) : Bool :=
  walk_events platform balance_before balance_after (now - DEPOSIT_DEDUP_WINDOW_SEC)
    s.deposit_events.reverse

/-- `record_deposit`, where the clock shows `now`. -/
def record_deposit (s : Reconciler) (platform : String)
    (amount balance_before balance_after now : ℚ) : Reconciler :=
  if s.is_duplicate_deposit platform balance_before balance_after now then s
  else
    { s with
      deposit_events := s.deposit_events ++
        [{ platform, amount, balance_before, balance_after, timestamp := now }]
      total_deposits := s.total_deposits.credit platform amount
      starting_balances := s.starting_balances.credit platform amount }

/-- What the platform should hold. -/
def expected (s : Reconciler) (platform : String) : ℚ :=
  s.starting_balances.amount platform + s.recorded_pnl.amount platform

/-- One round of `_detect_deposits`; `clock` is read where an event is recorded. -/
def detect_deposit (clock : String → ℚ) (s : Reconciler) (platform : String)
    (actual_balance : ℚ) : Reconciler :=
  match s.starting_balances.lookup platform with
  | none => s
  | some starting =>
      let expected := starting + s.recorded_pnl.amount platform
      let discrepancy := actual_balance - expected
      if DEPOSIT_DETECTION_THRESHOLD ≤ |discrepancy| then
        s.record_deposit platform discrepancy expected actual_balance (clock platform)
      else s

/-- `_detect_deposits`. -/
def detect_deposits (clock : String → ℚ) (s : Reconciler) (current_balances : Ledger String ℚ) :
    Reconciler :=
  current_balances.entries.foldl (fun s entry => s.detect_deposit clock entry.1 entry.2) s

/-- The refresh before the detection: with a ledger, even an empty one. -/
def refresh (s : Reconciler) (executions : Option (List BookedExecution)) : Reconciler :=
  match executions with
  | none => s
  | some executions => s.load_execution_history executions

/-- The entry of a platform in the report. -/
def entry (s : Reconciler) (now : ℚ) (platform : String) (actual_balance : ℚ) :
    ReconciliationEntry :=
  let starting := (s.starting_balances.lookup platform).getD actual_balance
  let recorded := s.recorded_pnl.amount platform
  let expected := starting + recorded
  let discrepancy := expected - actual_balance
  { platform, recorded_pnl := recorded, platform_balance := actual_balance
    starting_balance := starting, expected_balance := expected, discrepancy
    is_flagged := s.threshold < |discrepancy|, timestamp := now }

/-- `reconcile`, with the clock where events are recorded and after. -/
def reconcile (s : Reconciler) (current_balances : Ledger String ℚ)
    (executions : Option (List BookedExecution)) (clock : String → ℚ) (now : ℚ) : Reconciler :=
  let s := (s.refresh executions).detect_deposits clock current_balances
  let entries := current_balances.entries.map fun e => s.entry now e.1 e.2
  let report : ReconciliationReport :=
    { entries
      total_recorded_pnl := (entries.map (·.recorded_pnl)).sum
      total_discrepancy := (entries.map (·.discrepancy)).sum
      has_flags := entries.any (·.is_flagged)
      timestamp := now }
  { s with
    reports := s.reports ++ [report]
    reconciliation_count := s.reconciliation_count + 1
    flag_count := s.flag_count + (entries.filter (·.is_flagged)).length }

/-- The platform has a baseline, and holds what is off by the threshold or more. -/
def Unsettled (s : Reconciler) (platform : String) (actual_balance : ℚ) : Prop :=
  (s.starting_balances.lookup platform).isSome ∧
    DEPOSIT_DETECTION_THRESHOLD ≤ |actual_balance - s.expected platform|

instance (s : Reconciler) (platform : String) (actual_balance : ℚ) :
    Decidable (s.Unsettled platform actual_balance) := by
  unfold Unsettled; infer_instance

/-! ### Duplicates -/

section duplicates

variable {s : Reconciler} {platform : String} {balance_before balance_after : ℚ}

/-- What the walk stops at matches, and is in the window. -/
theorem walk_events_found {cutoff : ℚ} {events : List DepositEvent}
    (h : walk_events platform balance_before balance_after cutoff events = true) :
    ∃ prior ∈ events, Matches prior platform balance_before balance_after ∧
      cutoff ≤ prior.timestamp := by
  induction events with
  | nil => simp [walk_events] at h
  | cons prior earlier ih =>
      unfold walk_events at h
      split_ifs at h with hold hmatch
      · exact ⟨prior, List.mem_cons_self, hmatch, not_lt.mp hold⟩
      · obtain ⟨found, hmem, hfound⟩ := ih h
        exact ⟨found, List.mem_cons_of_mem _ hmem, hfound⟩

theorem is_duplicate_deposit_found {now : ℚ}
    (h : s.is_duplicate_deposit platform balance_before balance_after now = true) :
    ∃ prior ∈ s.deposit_events, Matches prior platform balance_before balance_after ∧
      now - DEPOSIT_DEDUP_WINDOW_SEC ≤ prior.timestamp := by
  obtain ⟨prior, hmem, hprior⟩ := walk_events_found h
  exact ⟨prior, List.mem_reverse.mp hmem, hprior⟩

end duplicates

/-! ### Detection, platform by platform -/

section detection

variable {s : Reconciler} {clock : String → ℚ} {platform : String} {actual_balance : ℚ}

/-- The event that the detection records on a platform. -/
def detected (s : Reconciler) (clock : String → ℚ) (platform : String) (actual_balance : ℚ) :
    DepositEvent where
  platform := platform
  amount := actual_balance - s.expected platform
  balance_before := s.expected platform
  balance_after := actual_balance
  timestamp := clock platform

theorem amount_of_lookup {l : Ledger String ℚ} {v : ℚ} (h : l.lookup platform = some v) :
    l.amount platform = v := by
  simp [Ledger.amount, h]

/-- A round, by what is unsettled. -/
theorem detect_deposit_eq (s : Reconciler) (clock : String → ℚ) (platform : String)
    (actual_balance : ℚ) :
    s.detect_deposit clock platform actual_balance =
      if s.Unsettled platform actual_balance then
        s.record_deposit platform (actual_balance - s.expected platform) (s.expected platform)
          actual_balance (clock platform)
      else s := by
  unfold detect_deposit Unsettled
  split
  next hlookup => simp [hlookup]
  next starting hlookup =>
    have hexpected : starting + s.recorded_pnl.amount platform = s.expected platform := by
      rw [expected, amount_of_lookup hlookup]
    simp [hlookup, hexpected]

/-- What a round can do: nothing, where the platform is settled; nothing, where the event is a
    duplicate; or record the event. -/
theorem detect_deposit_cases (s : Reconciler) (clock : String → ℚ) (platform : String)
    (actual_balance : ℚ) :
    (¬ s.Unsettled platform actual_balance ∧ s.detect_deposit clock platform actual_balance = s) ∨
    (s.Unsettled platform actual_balance ∧
      s.is_duplicate_deposit platform (s.expected platform) actual_balance (clock platform) =
        true ∧
      s.detect_deposit clock platform actual_balance = s) ∨
    (s.Unsettled platform actual_balance ∧
      s.detect_deposit clock platform actual_balance =
        { s with
          deposit_events := s.deposit_events ++ [s.detected clock platform actual_balance]
          total_deposits :=
            s.total_deposits.credit platform (actual_balance - s.expected platform)
          starting_balances :=
            s.starting_balances.credit platform (actual_balance - s.expected platform) }) := by
  rw [detect_deposit_eq]
  by_cases hunsettled : s.Unsettled platform actual_balance
  · rw [if_pos hunsettled, record_deposit]
    split_ifs with hduplicate
    · exact .inr (.inl ⟨hunsettled, hduplicate, rfl⟩)
    · exact .inr (.inr ⟨hunsettled, rfl⟩)
  · exact .inl ⟨hunsettled, if_neg hunsettled⟩

/-- A round leaves the recorded profit alone. -/
@[simp] theorem detect_deposit_recorded (s : Reconciler) :
    (s.detect_deposit clock platform actual_balance).recorded_pnl = s.recorded_pnl := by
  obtain ⟨-, heq⟩ | ⟨-, -, heq⟩ | ⟨-, heq⟩ :=
    s.detect_deposit_cases clock platform actual_balance <;> rw [heq]

/-- A round leaves the baseline of another platform alone. -/
theorem detect_deposit_lookup {other : String} (h : other ≠ platform) :
    (s.detect_deposit clock platform actual_balance).starting_balances.lookup other =
      s.starting_balances.lookup other := by
  obtain ⟨-, heq⟩ | ⟨-, -, heq⟩ | ⟨-, heq⟩ :=
    s.detect_deposit_cases clock platform actual_balance <;> rw [heq]
  exact AList.lookup_insert_ne h

/-- What is unsettled is told by the baseline and the recorded profit. -/
theorem unsettled_congr {s' : Reconciler}
    (hbaseline : s'.starting_balances.lookup platform = s.starting_balances.lookup platform)
    (hrecorded : s'.recorded_pnl.amount platform = s.recorded_pnl.amount platform) :
    s'.expected platform = s.expected platform ∧
      (s'.Unsettled platform actual_balance ↔ s.Unsettled platform actual_balance) := by
  have hstarting : s'.starting_balances.amount platform = s.starting_balances.amount platform := by
    rw [Ledger.amount, hbaseline, Ledger.amount]
  have hexpected : s'.expected platform = s.expected platform := by
    rw [expected, expected, hstarting, hrecorded]
  exact ⟨hexpected, by rw [Unsettled, Unsettled, hbaseline, hexpected]⟩

/-- A round records nothing, or the event of an unsettled platform; then it is settled. -/
theorem detect_deposit_events (s : Reconciler) (clock : String → ℚ) (platform : String)
    (actual_balance : ℚ) :
    ∃ recorded,
      (s.detect_deposit clock platform actual_balance).deposit_events =
        s.deposit_events ++ recorded ∧
      ∀ e ∈ recorded, e.platform = platform ∧ s.Unsettled platform actual_balance := by
  obtain ⟨-, heq⟩ | ⟨-, -, heq⟩ | ⟨hunsettled, heq⟩ :=
    s.detect_deposit_cases clock platform actual_balance
  · exact ⟨[], by simp [heq], by simp⟩
  · exact ⟨[], by simp [heq], by simp⟩
  · refine ⟨[s.detected clock platform actual_balance], by rw [heq], fun e he => ?_⟩
    obtain rfl := List.mem_singleton.mp he
    exact ⟨rfl, hunsettled⟩

/-- What a round leaves unsettled it took for a duplicate. -/
theorem detect_deposit_unsettled
    (h : (s.detect_deposit clock platform actual_balance).Unsettled platform actual_balance) :
    s.Unsettled platform actual_balance ∧
      s.is_duplicate_deposit platform (s.expected platform) actual_balance (clock platform) =
        true := by
  obtain ⟨hsettled, heq⟩ | ⟨hunsettled, hduplicate, -⟩ | ⟨-, heq⟩ :=
    s.detect_deposit_cases clock platform actual_balance
  · rw [heq] at h
    exact absurd h hsettled
  · exact ⟨hunsettled, hduplicate⟩
  · exfalso
    obtain ⟨-, hleft⟩ := h
    rw [heq] at hleft
    have hexact : actual_balance - (s.starting_balances.amount platform +
        (actual_balance - s.expected platform) + s.recorded_pnl.amount platform) = 0 := by
      rw [expected]
      ring
    rw [expected, Ledger.amount_credit_self, hexact, abs_zero] at hleft
    exact absurd hleft (by decide +kernel)

/-- A round tells nothing about another platform. -/
theorem detect_deposit_unsettled_ne {other : String} {v : ℚ} (h : other ≠ platform) :
    (s.detect_deposit clock platform actual_balance).expected other = s.expected other ∧
      ((s.detect_deposit clock platform actual_balance).Unsettled other v ↔
        s.Unsettled other v) :=
  unsettled_congr (detect_deposit_lookup h) (by rw [detect_deposit_recorded])

end detection

/-! ### Detection over the balances -/

section balances

variable {clock : String → ℚ} {platform : String} {actual_balance : ℚ}

/-- The rounds over entries. -/
def detect_entries (clock : String → ℚ) (s : Reconciler)
    (entries : List (Sigma fun _ : String => ℚ)) : Reconciler :=
  entries.foldl (fun s entry => s.detect_deposit clock entry.1 entry.2) s

/-- The rounds over other platforms tell nothing about this one. -/
theorem detect_entries_unsettled_ne {entries : List (Sigma fun _ : String => ℚ)}
    (hother : platform ∉ entries.keys) (s : Reconciler) :
    (s.detect_entries clock entries).Unsettled platform actual_balance ↔
      s.Unsettled platform actual_balance := by
  induction entries generalizing s with
  | nil => exact Iff.rfl
  | cons entry rest ih =>
      simp only [List.keys_cons, List.mem_cons, not_or] at hother
      exact (ih hother.2 _).trans (detect_deposit_unsettled_ne hother.1).2

/-- The rounds record events of platforms that were unsettled before them. -/
theorem detect_entries_events {entries : List (Sigma fun _ : String => ℚ)}
    (hnodup : entries.NodupKeys) (s : Reconciler) :
    ∃ recorded,
      (s.detect_entries clock entries).deposit_events = s.deposit_events ++ recorded ∧
      ∀ e ∈ recorded, ∃ actual, ⟨e.platform, actual⟩ ∈ entries ∧
        s.Unsettled e.platform actual := by
  induction entries generalizing s with
  | nil => exact ⟨[], by simp [detect_entries], by simp⟩
  | cons entry rest ih =>
      rw [List.nodupKeys_cons] at hnodup
      obtain ⟨first, hfirst, hplatform⟩ := s.detect_deposit_events clock entry.1 entry.2
      obtain ⟨later, hlater, hunsettled⟩ := ih hnodup.2 (s.detect_deposit clock entry.1 entry.2)
      refine ⟨first ++ later, ?_, fun e he => ?_⟩
      · rw [← List.append_assoc, ← hfirst, ← hlater]
        rfl
      · obtain he | he := List.mem_append.mp he
        · obtain ⟨heq, hbefore⟩ := hplatform e he
          exact ⟨entry.2, by rw [heq]; exact List.mem_cons_self, by rwa [heq]⟩
        · obtain ⟨actual, hmem, hafter⟩ := hunsettled e he
          have hne : e.platform ≠ entry.1 := fun heq =>
            hnodup.1 (heq ▸ List.mem_keys_of_mem hmem)
          exact ⟨actual, List.mem_cons_of_mem _ hmem,
            (detect_deposit_unsettled_ne hne).2.mp hafter⟩

/-- What the rounds leave unsettled was so before, and is a duplicate of an event from before
    them. -/
theorem detect_entries_unsettled {entries : List (Sigma fun _ : String => ℚ)}
    (hnodup : entries.NodupKeys) (s : Reconciler) (hmem : ⟨platform, actual_balance⟩ ∈ entries)
    (h : (s.detect_entries clock entries).Unsettled platform actual_balance) :
    s.Unsettled platform actual_balance ∧
      ∃ prior ∈ s.deposit_events, Matches prior platform (s.expected platform) actual_balance ∧
        clock platform - DEPOSIT_DEDUP_WINDOW_SEC ≤ prior.timestamp := by
  induction entries generalizing s with
  | nil => simp at hmem
  | cons entry rest ih =>
      rw [List.nodupKeys_cons] at hnodup
      obtain heq | hmem := List.mem_cons.mp hmem
      · subst heq
        have hround := (detect_entries_unsettled_ne hnodup.1 _).mp h
        obtain ⟨hunsettled, hduplicate⟩ := detect_deposit_unsettled hround
        exact ⟨hunsettled, is_duplicate_deposit_found hduplicate⟩
      · have hne : platform ≠ entry.1 := fun heq => hnodup.1 (heq ▸ List.mem_keys_of_mem hmem)
        obtain ⟨hunsettled, prior, hprior, hmatch, hwindow⟩ := ih hnodup.2 _ hmem h
        obtain ⟨hexpected, hiff⟩ :
            (s.detect_deposit clock entry.1 entry.2).expected platform = s.expected platform ∧
              ((s.detect_deposit clock entry.1 entry.2).Unsettled platform actual_balance ↔
                s.Unsettled platform actual_balance) := detect_deposit_unsettled_ne hne
        rw [hexpected] at hmatch
        refine ⟨hiff.mp hunsettled, prior, ?_, hmatch, hwindow⟩
        -- what the round of another platform recorded does not match
        obtain ⟨recorded, hevents, hplatform⟩ := s.detect_deposit_events clock entry.1 entry.2
        rw [hevents] at hprior
        obtain hprior | hprior := List.mem_append.mp hprior
        · exact hprior
        · exact absurd (hmatch.1.symm.trans (hplatform prior hprior).1) hne

end balances

/-! ### One reconcile -/

section reconcile

variable {s : Reconciler} {current_balances : Ledger String ℚ}
  {executions : Option (List BookedExecution)} {clock : String → ℚ} {now : ℚ}
  {platform : String} {actual_balance : ℚ}

/-- The refresh is about the recorded profit only. -/
theorem refresh_keeps (s : Reconciler) (executions : Option (List BookedExecution)) :
    (s.refresh executions).starting_balances = s.starting_balances ∧
      (s.refresh executions).total_deposits = s.total_deposits ∧
      (s.refresh executions).deposit_events = s.deposit_events := by
  cases executions <;> exact ⟨rfl, rfl, rfl⟩

theorem zeros_amount (platforms : List String) (platform : String) :
    (platforms.foldl (fun zeros platform => zeros.insert platform 0)
      (∅ : Ledger String ℚ)).amount platform = 0 := by
  have hfold (l : Ledger String ℚ) (hl : l.amount platform = 0) :
      (platforms.foldl (fun zeros platform => zeros.insert platform 0) l).amount platform =
        0 := by
    induction platforms generalizing l with
    | nil => exact hl
    | cons p rest ih =>
        refine ih _ ?_
        by_cases h : platform = p
        · rw [h, Ledger.amount_insert_self]
        · rw [Ledger.amount_insert_ne l 0 h, hl]
  exact hfold ∅ (Ledger.amount_empty platform)

/-- With a ledger, the recorded profit of a platform is what the ledger gives it. -/
theorem load_execution_history_recorded (s : Reconciler) (executions : List BookedExecution)
    (platform : String) :
    (s.load_execution_history executions).recorded_pnl.amount platform =
      (pnl_by_platform executions).amount platform := by
  change Ledger.amount (pnl_by_platform executions ∪ _) platform = _
  by_cases hmem : platform ∈ pnl_by_platform executions
  · rw [Ledger.amount, AList.lookup_union_left hmem, Ledger.amount]
  · rw [Ledger.amount, AList.lookup_union_right hmem, ← Ledger.amount, zeros_amount,
      Ledger.amount, AList.lookup_eq_none.mpr hmem, Option.getD_none]

@[simp] theorem detect_entries_recorded (s : Reconciler)
    (entries : List (Sigma fun _ : String => ℚ)) :
    (s.detect_entries clock entries).recorded_pnl = s.recorded_pnl := by
  induction entries generalizing s with
  | nil => rfl
  | cons entry rest ih => exact (ih _).trans (detect_deposit_recorded s)

/-- A second refresh by the same ledger changes no amount. -/
theorem refresh_reconcile_recorded (s : Reconciler) (platform : String) :
    ((s.reconcile current_balances executions clock now).refresh executions).recorded_pnl.amount
      platform =
      (s.reconcile current_balances executions clock now).recorded_pnl.amount platform := by
  cases executions with
  | none => rfl
  | some executions =>
      have hrecorded :
          (s.reconcile current_balances (some executions) clock now).recorded_pnl =
            (s.load_execution_history executions).recorded_pnl :=
        detect_entries_recorded _ current_balances.entries
      rw [hrecorded]
      exact (load_execution_history_recorded _ executions platform).trans
        (load_execution_history_recorded s executions platform).symm

/-- The reconcile drops the event of the platform: it is unsettled, and an event of the window
    on it is between the same balances. -/
def Suppresses (s : Reconciler) (current_balances : Ledger String ℚ)
    (executions : Option (List BookedExecution)) (clock : String → ℚ) (platform : String) :
    Prop :=
  ∃ actual_balance, current_balances.lookup platform = some actual_balance ∧
    (s.refresh executions).Unsettled platform actual_balance ∧
    ∃ prior ∈ s.deposit_events,
      Matches prior platform ((s.refresh executions).expected platform) actual_balance ∧
        clock platform - DEPOSIT_DEDUP_WINDOW_SEC ≤ prior.timestamp

/-- What a reconcile leaves unsettled it suppressed. -/
theorem reconcile_unsettled (s : Reconciler)
    (hbalance : current_balances.lookup platform = some actual_balance)
    (h : (s.reconcile current_balances executions clock now).Unsettled platform
      actual_balance) :
    s.Suppresses current_balances executions clock platform := by
  have hmem : ⟨platform, actual_balance⟩ ∈ current_balances.entries :=
    AList.mem_lookup_iff.mp hbalance
  obtain ⟨hunsettled, prior, hprior, hmatch⟩ :=
    detect_entries_unsettled current_balances.nodupKeys (s.refresh executions) hmem h
  rw [(s.refresh_keeps executions).2.2] at hprior
  exact ⟨actual_balance, hbalance, hunsettled, prior, hprior, hmatch⟩

/-- A reconcile adds events of platforms that are unsettled after the refresh. -/
theorem reconcile_events (s : Reconciler) (current_balances : Ledger String ℚ)
    (executions : Option (List BookedExecution)) (clock : String → ℚ) (now : ℚ) :
    ∃ recorded,
      (s.reconcile current_balances executions clock now).deposit_events =
        s.deposit_events ++ recorded ∧
      ∀ e ∈ recorded, ∃ actual, current_balances.lookup e.platform = some actual ∧
        (s.refresh executions).Unsettled e.platform actual := by
  obtain ⟨recorded, hevents, hunsettled⟩ :
      ∃ recorded,
        (s.reconcile current_balances executions clock now).deposit_events =
          (s.refresh executions).deposit_events ++ recorded ∧
        ∀ e ∈ recorded, ∃ actual, Sigma.mk e.platform actual ∈ current_balances.entries ∧
          (s.refresh executions).Unsettled e.platform actual :=
    detect_entries_events current_balances.nodupKeys (s.refresh executions)
  rw [(s.refresh_keeps executions).2.2] at hevents
  refine ⟨recorded, hevents, fun e he => ?_⟩
  obtain ⟨actual, hmem, hbefore⟩ := hunsettled e he
  exact ⟨actual, AList.mem_lookup_iff.mpr hmem, hbefore⟩

/-- Repeated, it adds events of platforms for which it suppressed one. -/
theorem reconcile_repeated (s : Reconciler) (current_balances : Ledger String ℚ)
    (executions : Option (List BookedExecution)) (clock again : String → ℚ) (now later : ℚ) :
    ∃ recorded,
      ((s.reconcile current_balances executions clock now).reconcile current_balances executions
        again later).deposit_events =
        (s.reconcile current_balances executions clock now).deposit_events ++ recorded ∧
      ∀ e ∈ recorded, s.Suppresses current_balances executions clock e.platform := by
  obtain ⟨recorded, hevents, hunsettled⟩ :=
    (s.reconcile current_balances executions clock now).reconcile_events current_balances
      executions again later
  refine ⟨recorded, hevents, fun e he => ?_⟩
  obtain ⟨actual, hbalance, hafter⟩ := hunsettled e he
  have hbaseline := congrArg (AList.lookup e.platform)
    (refresh_keeps (s.reconcile current_balances executions clock now) executions).1
  have hleft := (unsettled_congr hbaseline (s.refresh_reconcile_recorded e.platform)).2.mp hafter
  exact reconcile_unsettled s hbalance hleft

end reconcile

end Reconciler

/-! ### Runs -/

/-- A call of the reconciler. -/
inductive Call where
  | record_deposit (platform : String) (amount balance_before balance_after now : ℚ)
  | reconcile (current_balances : Ledger String ℚ)
      (executions : Option (List BookedExecution)) (clock : String → ℚ) (now : ℚ)

/-- What a call makes of a reconciler. -/
def Call.run (s : Reconciler) : Call → Reconciler
  | .record_deposit platform amount balance_before balance_after now =>
      s.record_deposit platform amount balance_before balance_after now
  | .reconcile current_balances executions clock now =>
      s.reconcile current_balances executions clock now

/-- A reconciler with the initial baselines and no deposits, and its calls. -/
def reconciler_calls (initial : Ledger String ℚ) : LTS.System Reconciler Call where
  init s := s.starting_balances = initial ∧ s.total_deposits = ∅ ∧ s.deposit_events = []
  step s call s' := s' = call.run s

/-- The events explain the baselines and the totals. -/
structure Explained (initial : Ledger String ℚ) (s : Reconciler) : Prop where
  starting : ∀ platform, s.starting_balances.amount platform =
    initial.amount platform + deposited s.deposit_events platform
  total : ∀ platform, s.total_deposits.amount platform = deposited s.deposit_events platform

namespace Explained

variable {initial : Ledger String ℚ} {s : Reconciler}

theorem record_deposit (h : Explained initial s) (platform : String)
    (amount balance_before balance_after now : ℚ) :
    Explained initial (s.record_deposit platform amount balance_before balance_after now) := by
  unfold Reconciler.record_deposit
  split_ifs
  · exact h
  · constructor
    · intro p
      rw [Ledger.amount_credit, deposited_concat, h.starting p, add_assoc]
    · intro p
      rw [Ledger.amount_credit, deposited_concat, h.total p]

theorem detect_deposit (h : Explained initial s) (clock : String → ℚ) (platform : String)
    (actual_balance : ℚ) : Explained initial (s.detect_deposit clock platform actual_balance) := by
  rw [Reconciler.detect_deposit_eq]
  split_ifs
  · exact h.record_deposit _ _ _ _ _
  · exact h

theorem detect_entries (h : Explained initial s) (clock : String → ℚ)
    (entries : List (Sigma fun _ : String => ℚ)) :
    Explained initial (s.detect_entries clock entries) := by
  induction entries generalizing s with
  | nil => exact h
  | cons entry rest ih => exact ih (h.detect_deposit clock entry.1 entry.2)

theorem refresh (h : Explained initial s) (executions : Option (List BookedExecution)) :
    Explained initial (s.refresh executions) := by
  cases executions with
  | none => exact h
  | some executions => exact ⟨h.starting, h.total⟩

theorem reconcile (h : Explained initial s) (current_balances : Ledger String ℚ)
    (executions : Option (List BookedExecution)) (clock : String → ℚ) (now : ℚ) :
    Explained initial (s.reconcile current_balances executions clock now) :=
  let hdetected := (h.refresh executions).detect_entries clock current_balances.entries
  ⟨hdetected.starting, hdetected.total⟩

/-- What is explained at first stays so. -/
theorem invariant (initial : Ledger String ℚ) :
    LTS.Invariant (reconciler_calls initial) (Explained initial) := by
  refine LTS.Invariant.of_step ?_ ?_
  · rintro s ⟨hstarting, htotal, hevents⟩
    exact ⟨fun p => by rw [hstarting, hevents, deposited_nil, add_zero],
      fun p => by rw [htotal, hevents, deposited_nil, Ledger.amount_empty]⟩
  · rintro s call s' h rfl
    cases call with
    | record_deposit => exact h.record_deposit _ _ _ _ _
    | reconcile => exact h.reconcile _ _ _ _

end Explained

/-- In every reachable state the events explain the baselines and the totals. A reconcile
    settles every platform with a baseline, except where it takes the event for a duplicate; and
    repeated, it records events of such platforms only. -/
theorem deposits_explained (initial : Ledger String ℚ) {s : Reconciler}
    (hreach : LTS.Reachable (reconciler_calls initial) s) :
    Explained initial s ∧
      ∀ current_balances executions clock now,
        (∀ platform actual_balance,
          current_balances.lookup platform = some actual_balance →
          (s.reconcile current_balances executions clock now).Unsettled platform
            actual_balance →
          s.Suppresses current_balances executions clock platform) ∧
        ∀ again later, ∃ recorded,
          ((s.reconcile current_balances executions clock now).reconcile current_balances
            executions again later).deposit_events =
            (s.reconcile current_balances executions clock now).deposit_events ++ recorded ∧
          ∀ e ∈ recorded, s.Suppresses current_balances executions clock e.platform :=
  ⟨Explained.invariant initial s hreach, fun current_balances executions clock now =>
    ⟨fun _ _ => s.reconcile_unsettled,
      fun again later =>
        s.reconcile_repeated current_balances executions clock again now later⟩⟩

/-! ### A deposit made twice -/

/-- Kalshi starts with a hundred dollars. -/
def hundred : Ledger String ℚ := (∅ : Ledger String ℚ).insert "kalshi" 100

/-- The balance of Kalshi. -/
def kalshi_holds (balance : ℚ) : Ledger String ℚ := (∅ : Ledger String ℚ).insert "kalshi" balance

/-- A reconciler that has not run. -/
def not_run : Reconciler where
  threshold := 100
  starting_balances := hundred
  recorded_pnl := ∅
  total_deposits := ∅
  deposit_events := []
  reports := []
  reconciliation_count := 0
  flag_count := 0

/-- Fifty dollars are deposited, and a minute later withdrawn. -/
def withdrawn : Reconciler :=
  (not_run.reconcile (kalshi_holds 150) none (fun _ => 0) 0).reconcile (kalshi_holds 100) none
    (fun _ => 60) 60

theorem withdrawn_reachable : LTS.Reachable (reconciler_calls hundred) withdrawn :=
  .step (l := .reconcile (kalshi_holds 100) none (fun _ => 60) 60)
    (.step (l := .reconcile (kalshi_holds 150) none (fun _ => 0) 0)
      (.init ⟨rfl, rfl, rfl⟩) rfl) rfl

theorem deposits_explained_withdrawn :
    Explained hundred withdrawn ∧
      ∀ current_balances executions clock now,
        (∀ platform actual_balance,
          current_balances.lookup platform = some actual_balance →
          (withdrawn.reconcile current_balances executions clock now).Unsettled platform
            actual_balance →
          withdrawn.Suppresses current_balances executions clock platform) ∧
        ∀ again later, ∃ recorded,
          ((withdrawn.reconcile current_balances executions clock now).reconcile
            current_balances executions again later).deposit_events =
            (withdrawn.reconcile current_balances executions clock now).deposit_events ++
              recorded ∧
          ∀ e ∈ recorded, withdrawn.Suppresses current_balances executions clock e.platform :=
  deposits_explained hundred withdrawn_reachable

/-- Another minute later the fifty dollars are deposited again: the reconcile leaves Kalshi off
    by fifty, and when it is repeated after the window it records them. -/
theorem repeated_deposit_suppressed :
    LTS.Reachable (reconciler_calls hundred) withdrawn ∧
      (withdrawn.reconcile (kalshi_holds 150) none (fun _ => 120) 120).Unsettled "kalshi" 150 ∧
      ((withdrawn.reconcile (kalshi_holds 150) none (fun _ => 120)
        120).deposit_events).length = 2 ∧
      (((withdrawn.reconcile (kalshi_holds 150) none (fun _ => 120) 120).reconcile
        (kalshi_holds 150) none (fun _ => 720) 720).deposit_events).length = 3 :=
  ⟨withdrawn_reachable, by decide +kernel, by decide +kernel, by decide +kernel⟩

end Audit
