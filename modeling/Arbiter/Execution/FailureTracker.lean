import Arbiter.Framework.Window
import Arbiter.Execution.AutoExecutor
import Arbiter.Execution.Live

/-! # The Failure Tracker

  The failure tracker is told of every execution the engine publishes, and blocks an
  opportunity whose legs keep failing. A failure is kept under the market, the side and the
  five cents that the price of the leg lies in; the executor asks with the quotes.

  ## Contents

  - Section 1: the tracker, and the executor's check.
  - Section 2: what recording an execution leaves.
  - Section 3: what asking leaves, and when it is answered with a reason to skip.
-/

namespace FailureTracker

open Execution (ArbExecution Side Leg Opportunity)

/-! ## Section 1: The tracker -/

/-- `_price_bucket_cents`. -/
def price_bucket_cents (bucket_size : ℤ) (price : ℚ≥0) : ℤ :=
  let bucket := max bucket_size 1
  let cents : ℤ := Decimal.round_half_even (price * 100)
  cents / bucket * bucket

/-- `FailureTrackerConfig`. -/
structure FailureTrackerConfig where
  window_seconds : ℚ
  backoff_threshold : ℤ
  backoff_seconds : ℚ
  bucket_size_cents : ℤ
  max_samples_per_key : ℕ

/-- The defaults. -/
def FailureTrackerConfig.default : FailureTrackerConfig where
  window_seconds := 3600
  backoff_threshold := 3
  backoff_seconds := 1800
  bucket_size_cents := 5
  max_samples_per_key := 64

/-- `FailureKey`: market, side and bucket. -/
abbrev FailureKey := String × Side × ℤ

/-- The bucket of a price. -/
def FailureTrackerConfig.bucket (cfg : FailureTrackerConfig) (price : ℚ≥0) : ℤ :=
  price_bucket_cents cfg.bucket_size_cents price

/-- The key of a price on one side of a market. -/
def FailureTrackerConfig.key (cfg : FailureTrackerConfig) (canonical_id : String) (side : Side)
    (price : ℚ≥0) : FailureKey :=
  (canonical_id, side, cfg.bucket price)

/-- `_history` and `_backoff_until`. -/
structure State where
  history : FailureKey → Option (List ℚ)
  backoff_until : FailureKey → Option ℚ

/-- Nothing recorded. -/
def State.new : State := ⟨fun _ => none, fun _ => none⟩

/-- `_failures_in_window`: what it leaves of the history, and counts. -/
def failures_in_window (cfg : FailureTrackerConfig) (history : List ℚ) (now : ℚ) : List ℚ :=
  Window.prune (now - cfg.window_seconds) history

/-- `_record_failure`. -/
def State.record_failure (s : State) (cfg : FailureTrackerConfig) (canonical_id : String)
    (side : Side) (price : ℚ≥0) (ts : ℚ) : State :=
  let key := cfg.key canonical_id side price
  let history := Window.push cfg.max_samples_per_key ((s.history key).getD []) ts
  let history := failures_in_window cfg history ts
  { history := Function.update s.history key (some history)
    backoff_until :=
      if cfg.backoff_threshold ≤ history.length then
        Function.update s.backoff_until key (some (ts + cfg.backoff_seconds))
      else s.backoff_until }

/-- One leg of a failed execution: recorded where it is over and holds no position. -/
def State.record_leg (s : State) (cfg : FailureTrackerConfig) (canonical_id : String) (side : Side)
    (leg : Leg) (now : ℚ) : State :=
  if leg.status.terminalFailed then s.record_failure cfg canonical_id side leg.price now else s

/-- `record_execution`. -/
def State.record_execution (s : State) (cfg : FailureTrackerConfig) (execution : ArbExecution)
    (now : ℚ) : State :=
  if execution.status = .failed ∨ execution.status = .recovering then
    if execution.opportunity.canonical_id = "" then s
    else
      let s := s.record_leg cfg execution.opportunity.canonical_id .yes execution.leg_yes now
      s.record_leg cfg execution.opportunity.canonical_id .no execution.leg_no now
  else s

/-- The live check of `should_skip`: the reason to skip, if there is one, and the tracker. -/
def State.check_live (s : State) (cfg : FailureTrackerConfig) (key : FailureKey) (now : ℚ) :
    Option String × State :=
  match s.history key with
  | none => (none, s)
  | some history =>
      let history := failures_in_window cfg history now
      let s := { s with history := Function.update s.history key (some history) }
      if cfg.backoff_threshold ≤ history.length then
        (some ("failure-pattern backoff: " ++ toString history.length ++ " failures in trailing " ++
            toString (Truncate.whole (cfg.window_seconds / 60)) ++ "m"),
          { s with
            backoff_until :=
              Function.update s.backoff_until key (some (now + cfg.backoff_seconds)) })
      else (none, s)

/-- A cool-off that is over is forgotten. -/
def State.cooled_off (s : State) (key : FailureKey) : State :=
  { s with backoff_until := Function.update s.backoff_until key none }

/-- `should_skip`: the reason to skip, if there is one, and the tracker. -/
def State.should_skip (s : State) (cfg : FailureTrackerConfig) (canonical_id : String) (side : Side)
    (price : ℚ≥0) (now : ℚ) : Option String × State :=
  if canonical_id = "" then (none, s)
  else
    let key := cfg.key canonical_id side price
    match s.backoff_until key with
    | none => s.check_live cfg key now
    | some blocked_until =>
        if blocked_until ≤ now then
          (s.cooled_off key).check_live cfg key now
        else
          (some ("failure-pattern backoff active (" ++
              toString (Truncate.whole (blocked_until - now)) ++ "s remaining; " ++
              toString cfg.backoff_threshold ++ "+ failures in last " ++
              toString (Truncate.whole (cfg.window_seconds / 60)) ++ "m)"), s)

/-- The executor's check of an opportunity, the YES side first: the reason to skip it, if
    there is one, and the tracker. Each side is asked at its own moment. -/
def State.failure_pattern (s : State) (cfg : FailureTrackerConfig) (canonical_id : String)
    (price : Side → ℚ≥0) (now : Side → ℚ) : Option String × State :=
  match s.should_skip cfg canonical_id .yes (price .yes) (now .yes) with
  | (some reason, s) => (some ("yes: " ++ reason), s)
  | (none, s) =>
      match s.should_skip cfg canonical_id .no (price .no) (now .no) with
      | (some reason, s) => (some ("no: " ++ reason), s)
      | (none, s) => (none, s)

/-- The opportunity is blocked. -/
def State.blocks (s : State) (cfg : FailureTrackerConfig) (opp : Opportunity) (now : Side → ℚ) :
    Prop :=
  (s.failure_pattern cfg opp.canonical_id opp.price now).1.isSome = true

section blocks

variable {cfg : FailureTrackerConfig} {s : State} {canonical_id : String} {price : Side → ℚ≥0}
         {now : Side → ℚ}

/-- The NO side is asked about where YES is not to be skipped. -/
theorem failure_pattern_isSome_iff :
    (s.failure_pattern cfg canonical_id price now).1.isSome = true ↔
      (s.should_skip cfg canonical_id .yes (price .yes) (now .yes)).1.isSome = true ∨
        (s.should_skip cfg canonical_id .yes (price .yes) (now .yes)).1 = none ∧
          ((s.should_skip cfg canonical_id .yes (price .yes) (now .yes)).2.should_skip cfg
            canonical_id .no (price .no) (now .no)).1.isSome = true := by
  unfold State.failure_pattern
  generalize s.should_skip cfg canonical_id .yes (price .yes) (now .yes) = yes
  obtain ⟨reason, s'⟩ := yes
  cases reason with
  | some reason => simp
  | none =>
    generalize hno : s'.should_skip cfg canonical_id .no (price .no) (now .no) = no
    obtain ⟨reason, s''⟩ := no
    cases reason with
    | some reason => simp [hno]
    | none => simp [hno]

/-- What a consideration of the executor is told by the tracker. -/
def Told (cfg : FailureTrackerConfig) (s : State) (now : Side → ℚ)
    (c : AutoExecutor.Consideration) : Prop :=
  let yes := s.should_skip cfg c.opp.canonical_id .yes c.opp.yes_price (now .yes)
  c.should_skip .yes c.opp.yes_price = yes.1.isSome ∧
    (yes.1 = none → c.should_skip .no c.opp.no_price =
      (yes.2.should_skip cfg c.opp.canonical_id .no c.opp.no_price (now .no)).1.isSome)

/-- The executor leaves an opportunity alone that is blocked. -/
theorem blocked_not_considered {acfg : AutoExecutor.AutoExecutorConfig} {a : AutoExecutor.State}
    {c : AutoExecutor.Consideration} (htold : Told cfg s now c)
    (hblocks : s.blocks cfg c.opp.to_engine now) :
    AutoExecutor.consider_opportunity acfg a c = a := by
  obtain ⟨hyes, hno⟩ := htold
  have hskip : c.should_skip .yes c.opp.yes_price = true ∨
      c.should_skip .no c.opp.no_price = true := by
    rcases failure_pattern_isSome_iff.mp hblocks with h | ⟨hnone, h⟩
    · exact .inl (hyes.trans h)
    · exact .inr ((hno hnone).trans h)
  rw [AutoExecutor.consider_opportunity, if_neg]
  rintro ⟨-, -, -, -, -, -, hyes, hno, -⟩
  rcases hskip with h | h
  · rw [h] at hyes
    cases hyes
  · rw [h] at hno
    cases hno

end blocks

/-! ## Section 2: Recording -/

/-- The two legs by side. -/
def by_side (leg_yes leg_no : Leg) : Side → Leg
  | .yes => leg_yes
  | .no => leg_no

/-- An execution is recorded under a key. -/
def Records (cfg : FailureTrackerConfig) (key : FailureKey) (execution : ArbExecution) : Prop :=
  (execution.status = .failed ∨ execution.status = .recovering) ∧
    execution.opportunity.canonical_id ≠ "" ∧ key.1 = execution.opportunity.canonical_id ∧
    (by_side execution.leg_yes execution.leg_no key.2.1).status.terminalFailed ∧
    key.2.2 = cfg.bucket (by_side execution.leg_yes execution.leg_no key.2.1).price

instance (cfg : FailureTrackerConfig) (key : FailureKey) (execution : ArbExecution) :
    Decidable (Records cfg key execution) :=
  inferInstanceAs (Decidable (_ ∧ _ ∧ _ ∧ _ ∧ _))

section recording

variable {cfg : FailureTrackerConfig} {s : State} {canonical_id : String} {side : Side}
         {price : ℚ≥0} {key : FailureKey} {now : ℚ}

/-- The history with one more failure. -/
def State.with_failure (s : State) (cfg : FailureTrackerConfig) (key : FailureKey) (ts : ℚ) :
    List ℚ :=
  failures_in_window cfg (Window.push cfg.max_samples_per_key ((s.history key).getD []) ts) ts

theorem record_leg_history {leg : Leg} :
    (s.record_leg cfg canonical_id side leg now).history key =
      if leg.status.terminalFailed ∧ key = cfg.key canonical_id side leg.price then
        some (s.with_failure cfg key now)
      else s.history key := by
  unfold State.record_leg
  by_cases hdead : leg.status.terminalFailed
  · rw [if_pos hdead]
    by_cases hkey : key = cfg.key canonical_id side leg.price
    · rw [if_pos ⟨hdead, hkey⟩, hkey]
      exact Function.update_self _ _ _
    · rw [if_neg fun h => hkey h.2]
      exact Function.update_of_ne hkey _ _
  · rw [if_neg hdead, if_neg fun h => hdead h.1]

/-- A cool-off was there before, or the threshold is reached. -/
theorem record_leg_armed {leg : Leg}
    (harmed : (s.record_leg cfg canonical_id side leg now).backoff_until key ≠ none) :
    s.backoff_until key ≠ none ∨
      (leg.status.terminalFailed ∧ key = cfg.key canonical_id side leg.price) ∧
        cfg.backoff_threshold ≤ (s.with_failure cfg key now).length := by
  unfold State.record_leg at harmed
  split at harmed
  · next hdead =>
    change (if _ then _ else _ : FailureKey → Option ℚ) key ≠ none at harmed
    split at harmed
    · next hcount =>
      by_cases hkey : key = cfg.key canonical_id side leg.price
      · rw [hkey]
        exact .inr ⟨⟨hdead, rfl⟩, hcount⟩
      · rw [Function.update_of_ne hkey] at harmed
        exact .inl harmed
    · exact .inl harmed
  · exact .inl harmed

/-- A leg of the other side is kept elsewhere. -/
theorem key_ne_of_side (hside : key.2.1 ≠ side) : key ≠ cfg.key canonical_id side price := by
  intro h
  rw [h] at hside
  exact hside rfl

/-- The leg that is recorded under a key, of a failed execution. -/
theorem records_iff {execution : ArbExecution}
    (hfailed : execution.status = .failed ∨ execution.status = .recovering)
    (hid : execution.opportunity.canonical_id ≠ "") :
    Records cfg key execution ↔
      (by_side execution.leg_yes execution.leg_no key.2.1).status.terminalFailed ∧
        key = cfg.key execution.opportunity.canonical_id key.2.1
          (by_side execution.leg_yes execution.leg_no key.2.1).price := by
  unfold Records FailureTrackerConfig.key
  constructor
  · rintro ⟨-, -, hmarket, hdead, hbucket⟩
    exact ⟨hdead, Prod.ext hmarket (Prod.ext rfl hbucket)⟩
  · rintro ⟨hdead, hkey⟩
    exact ⟨hfailed, hid, congrArg Prod.fst hkey, hdead, congrArg (fun k => k.2.2) hkey⟩

/-- The execution is one more failure under the keys it is recorded under. -/
theorem record_execution_history {execution : ArbExecution} :
    (s.record_execution cfg execution now).history key =
      if Records cfg key execution then some (s.with_failure cfg key now) else s.history key := by
  unfold State.record_execution
  by_cases hfailed : execution.status = .failed ∨ execution.status = .recovering
  · rw [if_pos hfailed]
    by_cases hid : execution.opportunity.canonical_id = ""
    · rw [if_pos hid, if_neg fun h => h.2.1 hid]
    · rw [if_neg hid, if_congr (records_iff hfailed hid) rfl rfl]
      -- the leg of the other side is recorded elsewhere
      cases hside : key.2.1 with
      | yes =>
        have hno : key.2.1 ≠ Side.no := by simp [hside]
        rw [record_leg_history, if_neg fun h => key_ne_of_side hno h.2, record_leg_history]
        rfl
      | no =>
        have hyes : key.2.1 ≠ Side.yes := by simp [hside]
        have hsame : (s.record_leg cfg execution.opportunity.canonical_id .yes execution.leg_yes
            now).history key = s.history key := by
          rw [record_leg_history, if_neg fun h => key_ne_of_side hyes h.2]
        rw [record_leg_history, State.with_failure, hsame]
        rfl
  · rw [if_neg hfailed, if_neg fun h => hfailed h.1]

/-- Only a key that is recorded under gets a cool-off, once the threshold is reached. -/
theorem record_execution_armed {execution : ArbExecution}
    (harmed : (s.record_execution cfg execution now).backoff_until key ≠ none) :
    s.backoff_until key ≠ none ∨
      Records cfg key execution ∧ cfg.backoff_threshold ≤ (s.with_failure cfg key now).length := by
  unfold State.record_execution at harmed
  by_cases hfailed : execution.status = .failed ∨ execution.status = .recovering
  · rw [if_pos hfailed] at harmed
    by_cases hid : execution.opportunity.canonical_id = ""
    · rw [if_pos hid] at harmed
      exact .inl harmed
    · rw [if_neg hid] at harmed
      rw [records_iff hfailed hid]
      rcases record_leg_armed harmed with hbefore | ⟨⟨hdead, hkey⟩, hcount⟩
      · rcases record_leg_armed hbefore with hbefore | ⟨⟨hdead, hkey⟩, hcount⟩
        · exact .inl hbefore
        · rw [hkey] at hcount ⊢
          exact .inr ⟨⟨hdead, rfl⟩, hcount⟩
      · -- YES is recorded first, which leaves the history of NO as it is
        have hyes : key.2.1 ≠ Side.yes := by simp [hkey, FailureTrackerConfig.key]
        have hsame : (s.record_leg cfg execution.opportunity.canonical_id .yes execution.leg_yes
            now).history key = s.history key := by
          rw [record_leg_history, if_neg fun h => key_ne_of_side hyes h.2]
        rw [State.with_failure, hsame] at hcount
        rw [State.with_failure]
        rw [hkey] at hcount ⊢
        exact .inr ⟨⟨hdead, rfl⟩, hcount⟩
  · rw [if_neg hfailed] at harmed
    exact .inl harmed

end recording

/-! ## Section 3: Asking -/

/-- What asking about one key leaves: every history as it was or pruned, and no cool-off but
    those there were, and those of a threshold that is reached. -/
structure Asked (cfg : FailureTrackerConfig) (now : ℚ) (s s' : State) : Prop where
  history : ∀ key, s'.history key = s.history key ∨
    ∃ history, s.history key = some history ∧
      s'.history key = some (failures_in_window cfg history now)
  armed : ∀ key, s'.backoff_until key ≠ none → s.backoff_until key ≠ none ∨
    ∃ history, s.history key = some history ∧
      cfg.backoff_threshold ≤ (failures_in_window cfg history now).length

section asking

variable {cfg : FailureTrackerConfig} {s : State} {canonical_id : String} {side : Side}
         {price : ℚ≥0} {key : FailureKey} {now : ℚ}

theorem Asked.refl : Asked cfg now s s := ⟨fun _ => .inl rfl, fun _ h => .inl h⟩

theorem check_live_asked : Asked cfg now s (s.check_live cfg key now).2 := by
  unfold State.check_live
  cases hhistory : s.history key with
  | none => exact .refl
  | some history =>
    have hpruned (other : FailureKey) :
        Function.update s.history key (some (failures_in_window cfg history now)) other =
            s.history other ∨
          ∃ h, s.history other = some h ∧
            Function.update s.history key (some (failures_in_window cfg history now)) other =
              some (failures_in_window cfg h now) := by
      by_cases hother : other = key
      · rw [hother, Function.update_self]
        exact .inr ⟨history, hhistory, rfl⟩
      · exact .inl (Function.update_of_ne hother _ _)
    dsimp only
    split
    · next hcount =>
      refine ⟨hpruned, fun other harmed => ?_⟩
      by_cases hother : other = key
      · rw [hother]
        exact .inr ⟨history, hhistory, hcount⟩
      · change Function.update s.backoff_until key _ other ≠ none at harmed
        rw [Function.update_of_ne hother] at harmed
        exact .inl harmed
    · exact ⟨hpruned, fun _ h => .inl h⟩

theorem should_skip_asked : Asked cfg now s (s.should_skip cfg canonical_id side price now).2 := by
  unfold State.should_skip
  split
  · exact .refl
  · dsimp only
    split
    · exact check_live_asked
    · split
      · -- the cool-off that is over goes first
        have hchecked : Asked cfg now (s.cooled_off (cfg.key canonical_id side price))
            ((s.cooled_off (cfg.key canonical_id side price)).check_live cfg
              (cfg.key canonical_id side price) now).2 := check_live_asked
        refine ⟨hchecked.history, fun key harmed => (hchecked.armed key harmed).imp_left ?_⟩
        intro hbefore hnone
        apply hbefore
        by_cases hkey : key = cfg.key canonical_id side price
        · rw [hkey]
          exact Function.update_self _ _ _
        · rw [← hnone]
          exact Function.update_of_ne hkey _ _
      · exact .refl

/-- A reason to skip is a cool-off, or enough failures in the window. -/
theorem of_should_skip (h : (s.should_skip cfg canonical_id side price now).1.isSome = true) :
    s.backoff_until (cfg.key canonical_id side price) ≠ none ∨
      ∃ history, s.history (cfg.key canonical_id side price) = some history ∧
        cfg.backoff_threshold ≤ (failures_in_window cfg history now).length := by
  by_cases hnone : s.backoff_until (cfg.key canonical_id side price) = none
  · right
    unfold State.should_skip at h
    split at h
    · cases h
    · simp only [hnone, State.check_live] at h
      cases hhistory : s.history (cfg.key canonical_id side price) with
      | none =>
        rw [hhistory] at h
        cases h
      | some history =>
        rw [hhistory] at h
        dsimp only at h
        split at h
        · next hcount => exact ⟨history, rfl, hcount⟩
        · cases h
  · exact .inl hnone

/-- Enough failures in the window are a reason to skip, whether or not a cool-off is on. -/
theorem should_skip_of_count {history : List ℚ} (hid : canonical_id ≠ "")
    (hhistory : s.history (cfg.key canonical_id side price) = some history)
    (hcount : cfg.backoff_threshold ≤ (failures_in_window cfg history now).length) :
    (s.should_skip cfg canonical_id side price now).1.isSome = true := by
  have hlive (s' : State) (h : s'.history = s.history) :
      (s'.check_live cfg (cfg.key canonical_id side price) now).1.isSome = true := by
    unfold State.check_live
    rw [h, hhistory]
    dsimp only
    rw [if_pos hcount]
    rfl
  unfold State.should_skip
  rw [if_neg hid]
  dsimp only
  split
  · exact hlive s rfl
  · split
    · exact hlive _ rfl
    · rfl

end asking

end FailureTracker
