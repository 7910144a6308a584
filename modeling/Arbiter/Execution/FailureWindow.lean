import Arbiter.Execution.FailureTracker

/-! # The Window and the Cool-off of a Key

  The failure tracker prunes the history of a key with every look at it, keeps a bounded
  number of failures, and forgets a cool-off that is over to start the next. Its answers are
  told by the failures themselves all the same: how many of them lay in the window, at the
  moment it is asked or a cool-off before.

  ## Contents

  - Section 1: sequences of failures and questions.
  - Section 2: one key at a time.
  - Section 3: what a key keeps.
  - Section 4: what the answers say.
-/

namespace FailureTracker

open Execution (ArbExecution Side Leg)

/-! ## Section 1: Sequences -/

/-- A failure that is recorded, or a question. `record_execution` records no failure of an
    execution without a market. -/
inductive Event where
  | failure (canonical_id : String) (named : canonical_id ≠ "") (side : Side) (price : ℚ≥0)
      (time : ℚ)
  | query (canonical_id : String) (side : Side) (price : ℚ≥0) (time : ℚ)

/-- When it happens. -/
def Event.time : Event → ℚ
  | .failure _ _ _ _ time => time
  | .query _ _ _ time => time

/-- The key it is about. -/
def Event.key (cfg : FailureTrackerConfig) : Event → FailureKey
  | .failure canonical_id _ side price _ => cfg.key canonical_id side price
  | .query canonical_id side price _ => cfg.key canonical_id side price

/-- What it leaves of the tracker. -/
def State.apply (cfg : FailureTrackerConfig) (s : State) : Event → State
  | .failure canonical_id _ side price time => s.record_failure cfg canonical_id side price time
  | .query canonical_id side price time => (s.should_skip cfg canonical_id side price time).2

/-- The tracker after a sequence. -/
def replay (cfg : FailureTrackerConfig) (events : List Event) : State :=
  events.foldl (State.apply cfg) .new

/-- The moment of a failure of the key. -/
def Event.failed_at (cfg : FailureTrackerConfig) (key : FailureKey) (e : Event) : Option ℚ :=
  match e with
  | .failure _ _ _ _ time => if e.key cfg = key then some time else none
  | .query _ _ _ _ => none

/-- The moments of the failures of a key, the first one first. -/
def failures (cfg : FailureTrackerConfig) (key : FailureKey) (events : List Event) : List ℚ :=
  events.filterMap (Event.failed_at cfg key)

/-- The threshold is reached at a moment: so many failures lie in the window before it. -/
def Reached (cfg : FailureTrackerConfig) (times : List ℚ) (now : ℚ) : Prop :=
  cfg.backoff_threshold ≤ times.countP fun t => now - cfg.window_seconds ≤ t ∧ t ≤ now

/-- An execution is recorded as such a sequence. -/
theorem record_execution_events (cfg : FailureTrackerConfig) (s : State) (execution : ArbExecution)
    (now : ℚ) : ∃ events : List Event, (∀ e ∈ events, e.time = now) ∧
      s.record_execution cfg execution now = events.foldl (State.apply cfg) s := by
  unfold State.record_execution
  by_cases hfailed : execution.status = .failed ∨ execution.status = .recovering
  · rw [if_pos hfailed]
    by_cases hid : execution.opportunity.canonical_id = ""
    · rw [if_pos hid]
      exact ⟨[], by simp, rfl⟩
    · have hleg (side : Side) (leg : Leg) (s : State) : ∃ events : List Event,
          (∀ e ∈ events, e.time = now) ∧
            s.record_leg cfg execution.opportunity.canonical_id side leg now =
              events.foldl (State.apply cfg) s := by
        unfold State.record_leg
        by_cases hdead : leg.status.terminalFailed
        · rw [if_pos hdead]
          exact ⟨[.failure _ hid side leg.price now], by simp [Event.time], rfl⟩
        · rw [if_neg hdead]
          exact ⟨[], by simp, rfl⟩
      rw [if_neg hid]
      obtain ⟨yes, hyes, heq⟩ := hleg .yes execution.leg_yes s
      obtain ⟨no, hno, heq'⟩ := hleg .no execution.leg_no (yes.foldl (State.apply cfg) s)
      refine ⟨yes ++ no, ?_, ?_⟩
      · intro e he
        exact (List.mem_append.mp he).elim (hyes e) (hno e)
      · dsimp only
        rw [heq, heq', List.foldl_append]
  · rw [if_neg hfailed]
    exact ⟨[], by simp, rfl⟩

/-! ## Section 2: One key -/

/-- What the tracker has of a key. -/
def State.at_key (s : State) (key : FailureKey) : Option (List ℚ) × Option ℚ :=
  (s.history key, s.backoff_until key)

section one_key

variable {cfg : FailureTrackerConfig} {s s' : State} {canonical_id : String} {side : Side}
         {price : ℚ≥0} {key : FailureKey} {now : ℚ}

/-- A failure is put into the window of its key, and starts a cool-off where that reaches the
    threshold. -/
theorem record_failure_at_key :
    (s.record_failure cfg canonical_id side price now).at_key key =
      if key = cfg.key canonical_id side price then
        (some (s.with_failure cfg key now),
          if cfg.backoff_threshold ≤ (s.with_failure cfg key now).length then
            some (now + cfg.backoff_seconds)
          else s.backoff_until key)
      else s.at_key key := by
  by_cases hkey : key = cfg.key canonical_id side price
  · rw [if_pos hkey, hkey]
    refine Prod.ext (Function.update_self _ _ _) ?_
    show (if _ then _ else _ : FailureKey → Option ℚ) _ = _
    unfold State.with_failure
    split
    · exact Function.update_self _ _ _
    · rfl
  · rw [if_neg hkey]
    refine Prod.ext (Function.update_of_ne hkey _ _) ?_
    show (if _ then _ else _ : FailureKey → Option ℚ) _ = _
    split
    · exact Function.update_of_ne hkey _ _
    · rfl

/-- A cool-off that is on. -/
def State.Cooling (s : State) (key : FailureKey) (now : ℚ) : Prop :=
  ∃ blocked_until, s.backoff_until key = some blocked_until ∧ now < blocked_until

/-- The failures of a key that are in the window. -/
def State.Full (s : State) (cfg : FailureTrackerConfig) (key : FailureKey) (now : ℚ) : Prop :=
  ∃ history, s.history key = some history ∧
    cfg.backoff_threshold ≤ (failures_in_window cfg history now).length

/-- The live check, with no cool-off on. -/
theorem check_live_cases (hcool : s.backoff_until key = none) :
    (s.Full cfg key now ∧ (s.check_live cfg key now).1.isSome = true ∧
        (s.check_live cfg key now).2.at_key key =
          ((s.history key).map fun h => failures_in_window cfg h now,
            some (now + cfg.backoff_seconds))) ∨
      ¬ s.Full cfg key now ∧ (s.check_live cfg key now).1 = none ∧
        (s.check_live cfg key now).2.at_key key =
          ((s.history key).map fun h => failures_in_window cfg h now, none) := by
  unfold State.check_live
  cases hhistory : s.history key with
  | none =>
    refine .inr ⟨?_, rfl, Prod.ext hhistory hcool⟩
    rintro ⟨history, heq, -⟩
    rw [hhistory] at heq
    cases heq
  | some history =>
    dsimp only
    by_cases hcount : cfg.backoff_threshold ≤ (failures_in_window cfg history now).length
    · rw [if_pos hcount]
      exact .inl ⟨⟨history, hhistory, hcount⟩, rfl,
        Prod.ext (Function.update_self _ _ _) (Function.update_self _ _ _)⟩
    · rw [if_neg hcount]
      refine .inr ⟨?_, rfl, Prod.ext (Function.update_self _ _ _) hcool⟩
      rintro ⟨history', heq, hcount'⟩
      rw [hhistory] at heq
      cases heq
      exact hcount hcount'

/-- **What a question can do**, of a key that names a market: in a cool-off it leaves the
    tracker as it is, and out of one it prunes the window, and starts a cool-off where it is
    full. -/
theorem should_skip_cases (hid : canonical_id ≠ "") (hkey : key = cfg.key canonical_id side price) :
    (s.Cooling key now ∧ (s.should_skip cfg canonical_id side price now).1.isSome = true ∧
        (s.should_skip cfg canonical_id side price now).2 = s) ∨
      (¬ s.Cooling key now ∧ s.Full cfg key now ∧
        (s.should_skip cfg canonical_id side price now).1.isSome = true ∧
        (s.should_skip cfg canonical_id side price now).2.at_key key =
          ((s.history key).map fun h => failures_in_window cfg h now,
            some (now + cfg.backoff_seconds))) ∨
      ¬ s.Cooling key now ∧ ¬ s.Full cfg key now ∧
        (s.should_skip cfg canonical_id side price now).1 = none ∧
        (s.should_skip cfg canonical_id side price now).2.at_key key =
          ((s.history key).map fun h => failures_in_window cfg h now, none) := by
  subst hkey
  unfold State.should_skip
  rw [if_neg hid]
  dsimp only
  cases hcool : s.backoff_until (cfg.key canonical_id side price) with
  | none =>
    have hoff : ¬ s.Cooling (cfg.key canonical_id side price) now := by
      rintro ⟨blocked_until, heq, -⟩
      rw [hcool] at heq
      cases heq
    rcases @check_live_cases cfg s _ now hcool with h | h
    · exact .inr (.inl ⟨hoff, h⟩)
    · exact .inr (.inr ⟨hoff, h⟩)
  | some blocked_until =>
    dsimp only
    by_cases hover : blocked_until ≤ now
    · have hoff : ¬ s.Cooling (cfg.key canonical_id side price) now := by
        rintro ⟨blocked_until', heq, hon⟩
        rw [hcool] at heq
        cases heq
        exact absurd hover (not_le.mpr hon)
      have hcooled : (s.cooled_off (cfg.key canonical_id side price)).backoff_until
          (cfg.key canonical_id side price) = none := Function.update_self _ _ _
      rw [if_pos hover]
      rcases @check_live_cases cfg _ _ now hcooled with h | h
      · exact .inr (.inl ⟨hoff, h⟩)
      · exact .inr (.inr ⟨hoff, h⟩)
    · rw [if_neg hover]
      exact .inl ⟨⟨blocked_until, hcool, not_le.mp hover⟩, rfl, rfl⟩

/-- The live check reads and writes its own key. -/
theorem check_live_congr (h : s.at_key key = s'.at_key key) :
    (s.check_live cfg key now).1 = (s'.check_live cfg key now).1 ∧
      (s.check_live cfg key now).2.at_key key = (s'.check_live cfg key now).2.at_key key := by
  have hhistory : s.history key = s'.history key := congrArg Prod.fst h
  have hcool : s.backoff_until key = s'.backoff_until key := congrArg Prod.snd h
  unfold State.check_live
  rw [← hhistory]
  cases s.history key with
  | none => exact ⟨rfl, h⟩
  | some history =>
    dsimp only
    split
    · exact ⟨rfl, by simp [State.at_key]⟩
    · exact ⟨rfl, by simp [State.at_key, hcool]⟩

/-- So does a question. -/
theorem should_skip_congr (hkey : key = cfg.key canonical_id side price)
    (h : s.at_key key = s'.at_key key) :
    (s.should_skip cfg canonical_id side price now).1 =
        (s'.should_skip cfg canonical_id side price now).1 ∧
      (s.should_skip cfg canonical_id side price now).2.at_key key =
        (s'.should_skip cfg canonical_id side price now).2.at_key key := by
  subst hkey
  have hhistory : s.history (cfg.key canonical_id side price) =
      s'.history (cfg.key canonical_id side price) := congrArg Prod.fst h
  have hcool : s.backoff_until (cfg.key canonical_id side price) =
      s'.backoff_until (cfg.key canonical_id side price) := congrArg Prod.snd h
  unfold State.should_skip
  split
  · exact ⟨rfl, h⟩
  · dsimp only
    rw [← hcool]
    cases s.backoff_until (cfg.key canonical_id side price) with
    | none => exact check_live_congr h
    | some blocked_until =>
      dsimp only
      split
      · exact check_live_congr (by simp [State.at_key, State.cooled_off, hhistory])
      · exact ⟨rfl, h⟩

theorem check_live_other {other : FailureKey} (hother : other ≠ key) :
    (s.check_live cfg key now).2.at_key other = s.at_key other := by
  unfold State.check_live
  cases s.history key with
  | none => rfl
  | some history =>
    dsimp only
    split
    · exact Prod.ext (Function.update_of_ne hother _ _) (Function.update_of_ne hother _ _)
    · exact Prod.ext (Function.update_of_ne hother _ _) rfl

theorem should_skip_other (hother : key ≠ cfg.key canonical_id side price) :
    (s.should_skip cfg canonical_id side price now).2.at_key key = s.at_key key := by
  unfold State.should_skip
  split
  · rfl
  · dsimp only
    split
    · exact check_live_other hother
    · split
      · rw [check_live_other hother]
        exact Prod.ext rfl (Function.update_of_ne hother _ _)
      · rfl

/-- **Other keys never matter**: an event leaves every key but its own. -/
theorem apply_other {e : Event} (hother : e.key cfg ≠ key) :
    (s.apply cfg e).at_key key = s.at_key key := by
  cases e with
  | failure canonical_id named side price time =>
    exact record_failure_at_key.trans (if_neg hother.symm)
  | query canonical_id side price time => exact should_skip_other hother.symm

/-- What it leaves of its own key is told by what there was of it. -/
theorem apply_congr {e : Event} (hkey : e.key cfg = key) (h : s.at_key key = s'.at_key key) :
    (s.apply cfg e).at_key key = (s'.apply cfg e).at_key key := by
  cases e with
  | failure canonical_id named side price time =>
    have hhistory : s.history key = s'.history key := congrArg Prod.fst h
    have hcool : s.backoff_until key = s'.backoff_until key := congrArg Prod.snd h
    have hkey : key = cfg.key canonical_id side price := hkey.symm
    show (s.record_failure cfg canonical_id side price time).at_key key =
      (s'.record_failure cfg canonical_id side price time).at_key key
    rw [record_failure_at_key, record_failure_at_key, if_pos hkey, if_pos hkey,
      State.with_failure, State.with_failure, hhistory, hcool]
  | query canonical_id side price time => exact (should_skip_congr hkey.symm h).2

end one_key

section own_events

variable {cfg : FailureTrackerConfig} {key : FailureKey} {events : List Event}

theorem replay_append (e : Event) :
    replay cfg (events ++ [e]) = (replay cfg events).apply cfg e := by
  rw [replay, List.foldl_append]
  rfl

/-- A key is told by its own events. -/
theorem replay_own_events :
    (replay cfg events).at_key key =
      (replay cfg (events.filter fun e => e.key cfg = key)).at_key key := by
  -- the last event is applied to what the others have left
  induction events using List.reverseRecOn with
  | nil => rfl
  | append_singleton events e ih =>
    rw [replay_append, List.filter_append]
    by_cases hkey : e.key cfg = key
    · rw [List.filter_cons_of_pos (by simpa using hkey), List.filter_nil, replay_append]
      exact apply_congr hkey ih
    · rw [List.filter_cons_of_neg (by simpa using hkey), List.filter_nil, List.append_nil,
        apply_other hkey, ih]

end own_events

/-! ## Section 3: What a key keeps -/

section tracks

variable {cfg : FailureTrackerConfig} {times history : List ℚ} {now t u : ℚ}

theorem Reached.append (h : Reached cfg times u) : Reached cfg (times ++ [t]) u := by
  have hle := (List.sublist_append_left times [t]).countP_le
    (p := fun s => decide (u - cfg.window_seconds ≤ s ∧ s ≤ u))
  unfold Reached at h ⊢
  omega

/-- A later failure does not count. -/
theorem Reached.of_append (h : Reached cfg (times ++ [t]) u) (hlater : u < t) :
    Reached cfg times u := by
  unfold Reached at h ⊢
  rw [List.countP_append, List.countP_cons_of_neg (by simp [not_le.mpr hlater])] at h
  simpa using h

/-- Before now, the failures in the window are those that are not before it. -/
theorem reached_iff_of_past (hpast : ∀ s ∈ times, s ≤ now) :
    Reached cfg times now ↔
      cfg.backoff_threshold ≤ times.countP (now - cfg.window_seconds ≤ ·) := by
  unfold Reached
  rw [List.countP_congr fun s hs => ?_]
  simp [hpast s hs]

/-- The history of a key holds its failures, as far as they are of use: with a window that
    ends before it begins, none is. -/
structure Holds (cfg : FailureTrackerConfig) (times : List ℚ) (now : ℚ) (history : List ℚ) :
    Prop where
  past : ∀ s ∈ times, s ≤ now
  kept : ∀ s ∈ history, s ≤ now
  window : 0 ≤ cfg.window_seconds → ∃ low ≤ now - cfg.window_seconds,
    Window.Holds cfg.max_samples_per_key times low history

theorem Holds.nil : Holds cfg [] now [] :=
  ⟨by simp, by simp, fun _ => ⟨_, le_rfl, .nil⟩⟩

/-- Time passes. -/
theorem Holds.mono (h : Holds cfg times now history) (hnow : now ≤ t) :
    Holds cfg times t history where
  past s hs := (h.past s hs).trans hnow
  kept s hs := (h.kept s hs).trans hnow
  window hwindow := by
    obtain ⟨low, hlow, hholds⟩ := h.window hwindow
    exact ⟨low, hlow.trans (sub_le_sub_right hnow _), hholds⟩

theorem Holds.push (h : Holds cfg times now history) (hnow : now ≤ t) :
    Holds cfg (times ++ [t]) t (Window.push cfg.max_samples_per_key history t) where
  past s hs := by
    rcases List.mem_append.mp hs with hs | hs
    · exact (h.past s hs).trans hnow
    · exact (List.mem_singleton.mp hs).le
  kept s hs := by
    rcases List.mem_append.mp (List.mem_of_mem_drop hs) with hs | hs
    · exact (h.kept s hs).trans hnow
    · exact (List.mem_singleton.mp hs).le
  window hwindow := by
    obtain ⟨low, hlow, hholds⟩ := h.window hwindow
    have hlow' : low ≤ t - cfg.window_seconds := hlow.trans (sub_le_sub_right hnow _)
    exact ⟨low, hlow', hholds.push (fun s hs => (h.past s hs).trans hnow)
      (hlow'.trans (sub_le_self _ hwindow))⟩

theorem Holds.prune (h : Holds cfg times now history) :
    Holds cfg times now (failures_in_window cfg history now) where
  past := h.past
  kept s hs := h.kept s ((List.dropWhile_sublist _).subset hs)
  window hwindow := by
    obtain ⟨low, hlow, hholds⟩ := h.window hwindow
    exact ⟨_, le_rfl, hholds.prune hlow⟩

/-- **What is counted**: the threshold is found reached exactly when it is, if there is room
    for so many failures. -/
theorem Holds.reached_iff (h : Holds cfg times now history)
    (hroom : cfg.backoff_threshold ≤ cfg.max_samples_per_key) :
    cfg.backoff_threshold ≤ (failures_in_window cfg history now).length ↔
      Reached cfg times now := by
  rw [reached_iff_of_past h.past]
  by_cases hwindow : 0 ≤ cfg.window_seconds
  · obtain ⟨low, hlow, hholds⟩ := h.window hwindow
    rw [failures_in_window, hholds.length_prune hlow]
    omega
  · -- every failure is before a window that begins in the future
    have hfuture (s : ℚ) (hs : s ≤ now) : s < now - cfg.window_seconds := by linarith
    have hpruned : failures_in_window cfg history now = [] := by
      rw [failures_in_window, Window.prune, List.dropWhile_eq_nil_iff]
      intro s hs
      simpa using hfuture s (h.kept s hs)
    have hnone : times.countP (now - cfg.window_seconds ≤ ·) = 0 := by
      rw [List.countP_eq_zero]
      intro s hs hle
      exact absurd (hfuture s (h.past s hs)) (not_lt.mpr (of_decide_eq_true hle))
    rw [hpruned, hnone, List.length_nil]

/-- What a key keeps: its failures, and a cool-off for the latest moment the threshold was
    reached at, of a failure at least. -/
structure Tracks (cfg : FailureTrackerConfig) (times : List ℚ) (now : ℚ)
    (kept : Option (List ℚ) × Option ℚ) : Prop where
  holds : Holds cfg times now (kept.1.getD [])
  armed : ∀ u ∈ times, Reached cfg times u → u + cfg.backoff_seconds ≤ now ∨
    ∃ blocked_until, kept.2 = some blocked_until ∧ u + cfg.backoff_seconds ≤ blocked_until
  cause : ∀ blocked_until, kept.2 = some blocked_until →
    ∃ u ≤ now, blocked_until = u + cfg.backoff_seconds ∧ Reached cfg times u

theorem Tracks.start : Tracks cfg [] now (none, none) where
  holds := .nil
  armed := by simp
  cause := by simp

variable {kept : Option (List ℚ) × Option ℚ}

/-- Time passes. -/
theorem Tracks.mono (h : Tracks cfg times now kept) (hnow : now ≤ t) : Tracks cfg times t kept where
  holds := h.holds.mono hnow
  armed u hu hreached := (h.armed u hu hreached).imp_left fun hover => hover.trans hnow
  cause blocked_until hcool := by
    obtain ⟨u, hu, heq, hreached⟩ := h.cause blocked_until hcool
    exact ⟨u, hu.trans hnow, heq, hreached⟩

variable {s : State} {key : FailureKey}

/-- One more failure of the key. -/
theorem Tracks.failure (h : Tracks cfg times now (s.at_key key)) (hnow : now ≤ t)
    (hroom : cfg.backoff_threshold ≤ cfg.max_samples_per_key) :
    Tracks cfg (times ++ [t]) t (some (s.with_failure cfg key t),
      if cfg.backoff_threshold ≤ (s.with_failure cfg key t).length then
        some (t + cfg.backoff_seconds)
      else s.backoff_until key) := by
  have hholds := h.holds.push hnow
  have hcount : cfg.backoff_threshold ≤ (s.with_failure cfg key t).length ↔
      Reached cfg (times ++ [t]) t := hholds.reached_iff hroom
  refine ⟨hholds.prune, fun u hu hreached => ?_, fun blocked_until hcool => ?_⟩
  · have hpast := hholds.past u hu
    by_cases hnew : Reached cfg (times ++ [t]) t
    · -- the new cool-off ends last
      exact .inr ⟨_, if_pos (hcount.mpr hnew), by linarith⟩
    · have hearlier : u < t := lt_of_le_of_ne hpast fun heq => hnew (heq ▸ hreached)
      have hu : u ∈ times := by
        rcases List.mem_append.mp hu with hu | hu
        · exact hu
        · exact absurd (List.mem_singleton.mp hu) hearlier.ne
      rw [if_neg fun h => hnew (hcount.mp h)]
      exact (h.armed u hu (hreached.of_append hearlier)).imp_left fun hover => hover.trans hnow
  · replace hcool : (if cfg.backoff_threshold ≤ (s.with_failure cfg key t).length then
      some (t + cfg.backoff_seconds) else s.backoff_until key) = some blocked_until := hcool
    split at hcool
    · next hfull => exact ⟨t, le_rfl, (Option.some.inj hcool).symm, hcount.mp hfull⟩
    · obtain ⟨u, hu, heq, hreached⟩ := h.cause blocked_until hcool
      exact ⟨u, hu.trans hnow, heq, hreached.append⟩

/-- The window of a key is full when the threshold is reached. -/
theorem Tracks.full_iff (h : Tracks cfg times now (s.at_key key)) (hnow : now ≤ t)
    (hthreshold : 1 ≤ cfg.backoff_threshold)
    (hroom : cfg.backoff_threshold ≤ cfg.max_samples_per_key) :
    s.Full cfg key t ↔ Reached cfg times t := by
  have hcount := (h.mono hnow).holds.reached_iff hroom
  unfold State.at_key at hcount
  cases hhistory : s.history key with
  | none =>
    rw [hhistory, Option.getD_none] at hcount
    rw [← hcount]
    constructor
    · rintro ⟨history, heq, -⟩
      rw [hhistory] at heq
      cases heq
    · intro hzero
      have hempty : (failures_in_window cfg [] t).length = 0 := rfl
      rw [hempty] at hzero
      omega
  | some history =>
    rw [hhistory, Option.getD_some] at hcount
    rw [← hcount]
    constructor
    · rintro ⟨history', heq, hfull⟩
      rw [hhistory] at heq
      cases heq
      exact hfull
    · intro hfull
      exact ⟨history, hhistory, hfull⟩

/-- The history after a look at it. -/
theorem Tracks.looked (h : Tracks cfg times now (s.at_key key)) (hnow : now ≤ t) :
    Holds cfg times t (((s.history key).map fun h => failures_in_window cfg h t).getD []) := by
  have hpruned := (h.mono hnow).holds.prune
  unfold State.at_key at hpruned
  cases hhistory : s.history key with
  | none =>
    rw [hhistory] at hpruned
    exact hpruned
  | some history =>
    rw [hhistory] at hpruned
    exact hpruned

variable {canonical_id : String} {side : Side} {price : ℚ≥0}

/-- A question about the key. -/
theorem Tracks.query (h : Tracks cfg times now (s.at_key key)) (hnow : now ≤ t)
    (hthreshold : 1 ≤ cfg.backoff_threshold)
    (hroom : cfg.backoff_threshold ≤ cfg.max_samples_per_key)
    (hkey : key = cfg.key canonical_id side price) :
    Tracks cfg times t ((s.should_skip cfg canonical_id side price t).2.at_key key) := by
  by_cases hid : canonical_id = ""
  · have hleft : (s.should_skip cfg canonical_id side price t).2 = s := by
      unfold State.should_skip
      rw [if_pos hid]
    rw [hleft]
    exact h.mono hnow
  · rcases @should_skip_cases cfg s canonical_id side price key t hid hkey with
      ⟨-, -, hleft⟩ | ⟨-, hfull, -, hleft⟩ | ⟨hoff, -, -, hleft⟩
    · rw [hleft]
      exact h.mono hnow
    · -- the question starts a cool-off, which ends after those of all failures
      rw [hleft]
      refine ⟨h.looked hnow, fun u hu _ => .inr ⟨_, rfl, ?_⟩, fun blocked_until hcool => ?_⟩
      · have hpast := (h.mono hnow).holds.past u hu
        linarith
      · exact ⟨t, le_rfl, (Option.some.inj hcool).symm,
          (h.full_iff hnow hthreshold hroom).mp hfull⟩
    · rw [hleft]
      refine ⟨h.looked hnow, fun u hu hreached => .inl ?_, fun _ hcool => by cases hcool⟩
      -- a cool-off that is not on is over
      rcases h.armed u hu hreached with hover | ⟨blocked_until, hcool, hle⟩
      · exact hover.trans hnow
      · exact hle.trans (not_lt.mp fun hon => hoff ⟨blocked_until, hcool, hon⟩)

end tracks

/-! ## Section 4: The answers -/

section answers

variable {cfg : FailureTrackerConfig} {key : FailureKey} {events : List Event} {now : ℚ}

theorem failures_append (e : Event) :
    failures cfg key (events ++ [e]) =
      failures cfg key events ++ (e.failed_at cfg key).toList := by
  rw [failures, List.filterMap_append, ← failures, List.filterMap_cons, List.filterMap_nil]
  cases e.failed_at cfg key <;> rfl

/-- What one event leaves of a key. -/
theorem Tracks.apply {s : State} {times : List ℚ} (h : Tracks cfg times now (s.at_key key))
    {e : Event} (hnow : now ≤ e.time) (hthreshold : 1 ≤ cfg.backoff_threshold)
    (hroom : cfg.backoff_threshold ≤ cfg.max_samples_per_key) :
    Tracks cfg (times ++ (e.failed_at cfg key).toList) e.time ((s.apply cfg e).at_key key) := by
  by_cases hkey : e.key cfg = key
  · cases e with
    | failure canonical_id named side price time =>
      have hfailed : (Event.failure canonical_id named side price time).failed_at cfg key =
          some time := if_pos hkey
      rw [hfailed]
      have hkey : key = cfg.key canonical_id side price := hkey.symm
      show Tracks cfg (times ++ [time]) time
        ((s.record_failure cfg canonical_id side price time).at_key key)
      rw [record_failure_at_key, if_pos hkey]
      exact h.failure hnow hroom
    | query canonical_id side price time =>
      rw [Event.failed_at, Option.toList_none, List.append_nil]
      exact h.query hnow hthreshold hroom hkey.symm
  · have hother : e.failed_at cfg key = none := by
      cases e with
      | failure canonical_id named side price time => exact if_neg hkey
      | query canonical_id side price time => rfl
    rw [hother, Option.toList_none, List.append_nil, apply_other hkey]
    exact h.mono hnow

/-- In every sequence whose times do not go back, every key is tracked. -/
theorem replay_tracks (hthreshold : 1 ≤ cfg.backoff_threshold)
    (hroom : cfg.backoff_threshold ≤ cfg.max_samples_per_key)
    (hordered : (events.map Event.time).Pairwise (· ≤ ·)) (hnow : ∀ e ∈ events, e.time ≤ now) :
    Tracks cfg (failures cfg key events) now ((replay cfg events).at_key key) := by
  induction events using List.reverseRecOn generalizing now with
  | nil => exact .start
  | append_singleton events e ih =>
    rw [List.map_append, List.pairwise_append] at hordered
    obtain ⟨hordered, -, hlast⟩ := hordered
    have hbefore : ∀ e' ∈ events, e'.time ≤ e.time := fun e' he' =>
      hlast _ (List.mem_map_of_mem he') _ (by simp)
    rw [failures_append, replay_append]
    exact ((ih hordered hbefore).apply le_rfl hthreshold hroom).mono (hnow e (by simp))

/-- The answer to a question about a key that is tracked: yes where the threshold is reached,
    or was at a failure whose cool-off is on, and only where it is reached, or was at some
    moment less than a cool-off ago. -/
theorem Tracks.answer {s : State} {times : List ℚ} (h : Tracks cfg times now (s.at_key key))
    (hthreshold : 1 ≤ cfg.backoff_threshold)
    (hroom : cfg.backoff_threshold ≤ cfg.max_samples_per_key) {canonical_id : String} {side : Side}
    {price : ℚ≥0} (hid : canonical_id ≠ "") (hkey : key = cfg.key canonical_id side price) :
    (Reached cfg times now ∨ (∃ u ∈ times, now < u + cfg.backoff_seconds ∧ Reached cfg times u) →
        (s.should_skip cfg canonical_id side price now).1.isSome = true) ∧
      ((s.should_skip cfg canonical_id side price now).1.isSome = true →
        ∃ u, (now - cfg.backoff_seconds < u ∧ u ≤ now ∨ u = now) ∧ Reached cfg times u) := by
  have hfull := h.full_iff le_rfl hthreshold hroom
  rcases @should_skip_cases cfg s canonical_id side price key now hid hkey with
    ⟨⟨blocked_until, hcool, hon⟩, hskip, -⟩ | ⟨-, hyes, hskip, -⟩ | ⟨hoff, hno, hskip, -⟩
  · -- a cool-off that is on has begun less than a cool-off ago
    refine ⟨fun _ => hskip, fun _ => ?_⟩
    obtain ⟨u, hu, rfl, hreached⟩ := h.cause blocked_until hcool
    exact ⟨u, .inl ⟨by linarith, hu⟩, hreached⟩
  · exact ⟨fun _ => hskip, fun _ => ⟨now, .inr rfl, hfull.mp hyes⟩⟩
  · -- neither is it on, nor is the window full: nothing could be the reason
    refine ⟨fun hwhy => ?_, fun hsome => ?_⟩
    · rcases hwhy with hreached | ⟨u, hu, hcooling, hreached⟩
      · exact absurd (hfull.mpr hreached) hno
      · rcases h.armed u hu hreached with hover | ⟨blocked_until, hcool, hle⟩
        · exact absurd hcooling (not_lt.mpr hover)
        · exact absurd ⟨blocked_until, hcool, hcooling.trans_le hle⟩ hoff
    · rw [hskip] at hsome
      cases hsome

/-- A key without a market is never asked about in earnest, and nothing fails under it. -/
theorem failures_unnamed {side : Side} {price : ℚ≥0} :
    failures cfg (cfg.key "" side price) events = [] := by
  unfold failures
  rw [List.filterMap_eq_nil_iff]
  rintro (⟨canonical_id, named, side', price', time⟩ | ⟨_, _, _, _⟩) -
  · exact if_neg fun h => named (congrArg Prod.fst h)
  · rfl

/-- In every sequence whose times do not go back, a question is answered with a reason to skip
    if the threshold is reached for its key, or was at a failure whose cool-off is on, and only
    if it is reached, or was less than a cool-off ago; and the events of other keys have no part
    in it. -/
theorem window_and_backoff (hthreshold : 1 ≤ cfg.backoff_threshold)
    (hroom : cfg.backoff_threshold ≤ cfg.max_samples_per_key)
    (hordered : (events.map Event.time).Pairwise (· ≤ ·)) (hnow : ∀ e ∈ events, e.time ≤ now)
    (canonical_id : String) (side : Side) (price : ℚ≥0)
    (hkey : key = cfg.key canonical_id side price) :
    (Reached cfg (failures cfg key events) now ∨
        (∃ u ∈ failures cfg key events, now < u + cfg.backoff_seconds ∧
          Reached cfg (failures cfg key events) u) →
      ((replay cfg events).should_skip cfg canonical_id side price now).1.isSome = true) ∧
    (((replay cfg events).should_skip cfg canonical_id side price now).1.isSome = true →
      ∃ u, (now - cfg.backoff_seconds < u ∧ u ≤ now ∨ u = now) ∧
        Reached cfg (failures cfg key events) u) ∧
    ((replay cfg events).should_skip cfg canonical_id side price now).1 =
      ((replay cfg (events.filter fun e => e.key cfg = key)).should_skip cfg canonical_id side
        price now).1 := by
  have hsame : (replay cfg events).at_key key =
      (replay cfg (events.filter fun e => e.key cfg = key)).at_key key := replay_own_events
  have hother := (@should_skip_congr cfg _ _ canonical_id side price key now hkey hsame).1
  by_cases hid : canonical_id = ""
  · have hnone : ((replay cfg events).should_skip cfg canonical_id side price now).1 = none := by
      unfold State.should_skip
      rw [if_pos hid]
    have hempty : failures cfg key events = [] := by
      rw [hkey, hid]
      exact failures_unnamed
    -- the threshold is not reached by no failures, since it is not below one
    refine ⟨?_, fun h => ?_, hother⟩
    · rw [hempty]
      rintro (hreached | ⟨u, hu, -⟩)
      · have hzero : cfg.backoff_threshold ≤ ((0 : ℕ) : ℤ) := hreached
        omega
      · cases hu
    · rw [hnone] at h
      cases h
  · have htracks : Tracks cfg (failures cfg key events) now ((replay cfg events).at_key key) :=
      replay_tracks hthreshold hroom hordered hnow
    have hanswer := htracks.answer hthreshold hroom hid hkey
    exact ⟨hanswer.1, hanswer.2, hother⟩

end answers

/-- Three failures of one key, ten seconds after another, and one of another market. -/
def three_failures : List Event :=
  [.failure "FED" (by decide) .yes (2 / 5) 10, .failure "CPI" (by decide) .yes (2 / 5) 15,
    .failure "FED" (by decide) .yes (2 / 5) 20, .failure "FED" (by decide) .yes (2 / 5) 30]

theorem window_and_backoff_three_failures :
    ((replay .default three_failures).should_skip .default "FED" .yes (21 / 50) 40).1.isSome =
        true ∧
      ((replay .default three_failures).should_skip .default "FED" .yes (21 / 50) 40).1 =
        ((replay .default (three_failures.filter fun e =>
          e.key .default = FailureTrackerConfig.default.key "FED" .yes (21 / 50))).should_skip
            .default "FED" .yes (21 / 50) 40).1 := by
  have hanswer := @window_and_backoff .default _ three_failures 40 (by decide) (by decide)
    (by decide +kernel) (by decide +kernel) "FED" .yes (21 / 50) rfl
  refine ⟨hanswer.1 (.inl ?_), hanswer.2.2⟩
  unfold Reached
  decide +kernel

/-- Without a cool-off, the failures in the window block all the same. -/
theorem blocks_without_cool_off :
    ¬ ∀ (cfg : FailureTrackerConfig) (events : List Event) (canonical_id : String) (side : Side)
      (price : ℚ≥0) (now : ℚ), 1 ≤ cfg.backoff_threshold →
        cfg.backoff_threshold ≤ cfg.max_samples_per_key →
        (events.map Event.time).Pairwise (· ≤ ·) → (∀ e ∈ events, e.time ≤ now) →
        ((replay cfg events).should_skip cfg canonical_id side price now).1.isSome = true →
        ∃ u, now - cfg.backoff_seconds < u ∧ u ≤ now ∧
          Reached cfg (failures cfg (cfg.key canonical_id side price) events) u := by
  intro hclaim
  obtain ⟨u, hlt, hle, -⟩ := hclaim { FailureTrackerConfig.default with backoff_seconds := 0 }
    three_failures "FED" .yes (2 / 5) 40 (by decide) (by decide) (by decide +kernel)
    (by decide +kernel) (by decide +kernel)
  have hlt : (40 : ℚ) - 0 < u := hlt
  linarith

end FailureTracker
