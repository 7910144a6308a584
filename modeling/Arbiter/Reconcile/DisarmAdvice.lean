import Arbiter.Execution.HalfRecorded
import Arbiter.Safety.Supervisor

/-! # When a Disarm is Recommended

  `AutoResolver.classify_kill_switch`: the reason of an arm is classified by the words in
  it, and for a benign one the operator is told that a reset is safe. Only an arm after a
  failed write is recommended on the strength of the orders that are stored; for the other
  benign arms nothing is looked up, and no fill without its hedge is ever looked for.
-/

namespace AutoResolver

open Execution Safety

/-! ## Section 1: The classification -/

/-- `_GENUINE_ARM_MARKERS`. -/
def genuine_arm_markers : List String :=
  ["loss", "threshold", "limit", "operator", "manual", "failure", "failed", "error", "panic",
    "drift", "reconciliation", "exposure", "incident"]

/-- `_BENIGN_ARM_MARKERS`. -/
def benign_arm_markers : List String := ["shutdown", "sigterm", "drain", "restart", "graceful"]

/-- `KillSwitchVerdict`. -/
inductive KillSwitchVerdict
  | not_armed
  | benign
  | genuine
  | unknown
  deriving DecidableEq

/-- `_classify_arm_reason`: what is genuine by any word is genuine. -/
def classify_arm_reason (armed_by armed_reason : String) : KillSwitchVerdict :=
  let haystack := (armed_by ++ " " ++ armed_reason).toLower
  if genuine_arm_markers.any (Text.occurs · haystack) then .genuine
  else if benign_arm_markers.any (Text.occurs · haystack) then .benign
  else .unknown

/-- `KillSwitchClassification`, and the proposals that went out with it. -/
structure KillSwitchClassification where
  verdict : KillSwitchVerdict
  armed_reason : String
  armed_by : String
  recommend_manual_disarm : Bool
  blocking_reasons : List String
  /-- `_propose_disarm`: who armed, and why. The message says that a reset is safe. -/
  proposed : List (String × String) := []
  deriving DecidableEq

/-- What the caller hands in. -/
structure Preconditions where
  credentials_ok : Bool := true
  price_feeds_flowing : Bool := true
  active_loss_event : Bool := false

/-- The reasons a recommendation is held back for. -/
def Preconditions.blocking (p : Preconditions) : List String :=
  (if p.credentials_ok then [] else ["credentials check failed"]) ++
    (if p.price_feeds_flowing then [] else ["price feeds are not flowing"]) ++
    (if p.active_loss_event then ["an active loss event is in progress"] else [])

/-- The database: what is stored, and how it answers. -/
structure Database where
  store : Store
  /-- The store has a pool. -/
  pool : Bool := true
  /-- `connect` gives it one. -/
  connects : Bool := true
  /-- `SELECT 1` comes back with a 1. -/
  answers : Bool := true
  /-- The count of the orders comes back. -/
  counts : Bool := true

/-- `_db_is_healthy_now`. -/
def Database.is_healthy_now (db : Database) : Bool := (db.pool || db.connects) && db.answers

/-- The orders that are not at an end. -/
def open_orders (store : Store) : ℕ :=
  store.orders.entries.countP fun row => row.2.status.value ∈ ["pending", "submitted", "partial"]

/-- `_has_any_open_positions`: what cannot be counted counts as open. -/
def Database.has_any_open_positions (db : Database) : Bool :=
  if db.pool || db.connects then
    if db.counts then 0 < open_orders db.store else true
  else true

/-- The verdict after the probe: a failed write is benign once the database is back and no
    order is open. -/
def probed_verdict (db : Database) (armed_by armed_reason : String) : KillSwitchVerdict :=
  let verdict := classify_arm_reason armed_by armed_reason
  if verdict = .genuine ∧ armed_by = "execution_engine:db_failure" then
    let no_exposure := db.is_healthy_now && !db.has_any_open_positions
    if db.is_healthy_now && no_exposure then .benign else verdict
  else verdict

/-- `classify_kill_switch`. -/
def classify_kill_switch (supervisor : Option SafetyState) (p : Preconditions) (db : Database) :
    KillSwitchClassification :=
  match supervisor.filter (·.armed) with
  | none => ⟨.not_armed, "", "", false, [], []⟩
  | some state =>
      let armed_by := state.armed_by.getD ""
      let verdict := probed_verdict db armed_by state.armed_reason
      let recommend := verdict = .benign && p.blocking.isEmpty
      { verdict
        armed_reason := state.armed_reason
        armed_by
        recommend_manual_disarm := recommend
        blocking_reasons := p.blocking
        proposed := if recommend then [(armed_by, state.armed_reason)] else [] }

/-! ## Section 2: What is recommended -/

/-- No stored order may still fill. -/
def NothingOpen (store : Store) : Prop :=
  ∀ row ∈ store.orders.entries, ¬ row.2.status.mayStillFill

/-- The fills of every recorded arb are hedged. -/
def AllHedged (store : Store) : Prop :=
  ∀ arb_id arb, store.arb arb_id = some arb → Balanced (store.legs arb_id)

theorem open_orders_eq_zero_iff (store : Store) : open_orders store = 0 ↔ NothingOpen store := by
  unfold open_orders NothingOpen
  rw [List.countP_eq_zero]
  refine forall₂_congr fun row _ => not_congr ?_
  cases row.2.status <;> decide

theorem has_any_open_positions_iff (db : Database) (hhealthy : db.is_healthy_now = true) :
    db.has_any_open_positions = false ↔ db.counts = true ∧ NothingOpen db.store := by
  have hpool : (db.pool || db.connects) = true := (Bool.and_eq_true_iff.mp hhealthy).1
  unfold Database.has_any_open_positions
  rw [hpool, ← open_orders_eq_zero_iff]
  cases db.counts <;> simp

/-- A failed write is genuine, whatever else the reason says. -/
theorem db_failure_genuine (armed_reason : String) :
    classify_arm_reason "execution_engine:db_failure" armed_reason = .genuine := by
  have hfailure : Text.occurs "failure"
      ("execution_engine:db_failure" ++ " " ++ armed_reason).toLower = true := by
    have hword : "failure".toList <:+: "execution_engine:db_failure".toList.map Char.toLower := by
      decide +kernel
    rw [Text.occurs_iff, Text.toList_toLower, String.append_assoc,
      String.toList_append, List.map_append]
    exact hword.trans (List.prefix_append _ _).isInfix
  have hmarked : (genuine_arm_markers.any fun marker => Text.occurs marker
      ("execution_engine:db_failure" ++ " " ++ armed_reason).toLower) = true :=
    List.any_eq_true.mpr ⟨"failure", by decide, hfailure⟩
  exact if_pos hmarked

/-- The verdict is benign by the words of the reason, or for a failed write after which the
    database is back and no order is open. -/
theorem probed_verdict_benign_iff (db : Database) (armed_by armed_reason : String) :
    probed_verdict db armed_by armed_reason = .benign ↔
      classify_arm_reason armed_by armed_reason = .benign ∨
        (armed_by = "execution_engine:db_failure" ∧ db.is_healthy_now = true ∧
          db.counts = true ∧ NothingOpen db.store) := by
  unfold probed_verdict
  dsimp only
  by_cases hfailed : armed_by = "execution_engine:db_failure"
  · subst hfailed
    rw [db_failure_genuine]
    by_cases hhealthy : db.is_healthy_now = true
    · simp [hhealthy, has_any_open_positions_iff db hhealthy]
    · simp [hhealthy]
  · simp [hfailed]

/-- The three preconditions hold. -/
def Preconditions.Pass (p : Preconditions) : Prop :=
  p.credentials_ok = true ∧ p.price_feeds_flowing = true ∧ p.active_loss_event = false

theorem blocking_isEmpty_iff (p : Preconditions) : p.blocking.isEmpty = true ↔ p.Pass := by
  unfold Preconditions.blocking Preconditions.Pass
  cases p.credentials_ok <;> cases p.price_feeds_flowing <;> cases p.active_loss_event <;> simp

theorem recommend_of_armed {state : SafetyState} {p : Preconditions} {db : Database}
    (harmed : state.armed = true) :
    (classify_kill_switch (some state) p db).recommend_manual_disarm =
      (decide (probed_verdict db (state.armed_by.getD "") state.armed_reason = .benign) &&
        p.blocking.isEmpty) := by
  unfold classify_kill_switch
  rw [show (some state).filter (·.armed) = some state from if_pos harmed]

/-- When a disarm is recommended. -/
theorem recommend_iff (supervisor : Option SafetyState) (p : Preconditions) (db : Database) :
    (classify_kill_switch supervisor p db).recommend_manual_disarm = true ↔
      ∃ state, supervisor = some state ∧ state.armed = true ∧ p.Pass ∧
        (classify_arm_reason (state.armed_by.getD "") state.armed_reason = .benign ∨
          (state.armed_by = some "execution_engine:db_failure" ∧ db.is_healthy_now = true ∧
            db.counts = true ∧ NothingOpen db.store)) := by
  cases supervisor with
  | none => simp [classify_kill_switch]
  | some state =>
    by_cases harmed : state.armed = true
    · have hby : state.armed_by.getD "" = "execution_engine:db_failure" ↔
          state.armed_by = some "execution_engine:db_failure" := by
        cases state.armed_by <;> simp
      rw [recommend_of_armed harmed, Bool.and_eq_true, decide_eq_true_eq,
        probed_verdict_benign_iff, blocking_isEmpty_iff, hby]
      simp [harmed, and_comm]
    · simp [classify_kill_switch, Option.filter, harmed]

/-- Over every reason, every stored content and all preconditions: a disarm is recommended
    over no exposure, exactly where a reason that reads as benign meets none in the store,
    and a failed write that has healed meets no fill without its hedge. -/
theorem disarm_safe_iff (supervisor : Option SafetyState) (p : Preconditions) (db : Database) :
    ((classify_kill_switch supervisor p db).recommend_manual_disarm = true →
        NothingOpen db.store ∧ AllHedged db.store) ↔
      ∀ state, supervisor = some state → state.armed = true → p.Pass →
        (classify_arm_reason (state.armed_by.getD "") state.armed_reason = .benign →
          NothingOpen db.store ∧ AllHedged db.store) ∧
        (state.armed_by = some "execution_engine:db_failure" → db.is_healthy_now = true →
          db.counts = true → NothingOpen db.store → AllHedged db.store) := by
  rw [recommend_iff]
  constructor
  · intro hsafe state hstate harmed hpass
    constructor
    · intro hbenign
      exact hsafe ⟨state, hstate, harmed, hpass, .inl hbenign⟩
    · intro hfailed hhealthy hcounts hopen
      exact (hsafe ⟨state, hstate, harmed, hpass, .inr ⟨hfailed, hhealthy, hcounts, hopen⟩⟩).2
  · rintro hsafe ⟨state, hstate, harmed, hpass, hbenign | ⟨hfailed, hhealthy, hcounts, hopen⟩⟩
    · exact (hsafe state hstate harmed hpass).1 hbenign
    · exact ⟨hopen, (hsafe state hstate harmed hpass).2 hfailed hhealthy hcounts hopen⟩

/-! ## Section 3: A restart with an order in flight -/

/-- Armed by the shutdown of the last process. -/
def armed_by_shutdown : SafetyState :=
  { SafetyState.initial with
    armed := true, armed_by := some "system:shutdown", armed_reason := "graceful drain" }

/-- One order of ten contracts that Kalshi has taken. -/
def resting_store : Store where
  arbs := AList.insert "ARB-000001" (ArbRow.stub "FED" none) ∅
  orders := AList.insert "ARB-000001-YES" { filled_leg .yes 0 with status := .submitted } ∅

/-- The order may still fill, and the operator is told that a reset is safe. -/
theorem recommended_over_open_order :
    (classify_kill_switch (some armed_by_shutdown) {} { store := resting_store }).proposed =
        [("system:shutdown", "graceful drain")] ∧
      (classify_kill_switch (some armed_by_shutdown) {}
        { store := resting_store }).recommend_manual_disarm = true ∧
      ¬ NothingOpen resting_store := by
  refine ⟨by decide +kernel, by decide +kernel, ?_⟩
  rw [← open_orders_eq_zero_iff]
  decide +kernel

end AutoResolver
