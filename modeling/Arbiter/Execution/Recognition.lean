import Arbiter.Execution.SkippedLegs
import Arbiter.Execution.EdgeFloor

/-! # Recognised Failures

  A failure that repeats is to block its opportunity, and what never reached a venue is not.
  Failures are kept under the limit that the engine sent, and asked for under the quote; legs
  that were not sent are kept like any other. Where the two keys meet, the tracker does what
  it is for.

  ## Contents

  - Section 1: runs of the tracker.
  - Section 2: what the tracker holds, and which opportunities are blocked.
  - Section 3: when a repeating failure is recognised.
  - Section 4: three executions that are recognised, and three that are not.
-/

namespace FailureTracker

open LTS Effect
open Execution (ArbExecution Side Leg Opportunity Order OrderRequest)

/-! ## Section 1: Runs -/

/-- The tracker, the clock, and every execution recorded so far, oldest first. -/
structure World (eng : Execution.Engine) (live : Execution.LiveConfig) where
  tracker : State
  now : ℚ
  executed : List (Executed eng live × ℚ)

/-- An execution is recorded. -/
def World.record {eng : Execution.Engine} {live : Execution.LiveConfig} (w : World eng live)
    (cfg : FailureTrackerConfig) (x : Executed eng live) (now : ℚ) : World eng live where
  tracker := w.tracker.record_execution cfg x.execution now
  now := now
  executed := w.executed ++ [(x, now)]

/-- What happens to the tracker. -/
inductive Label (eng : Execution.Engine) (live : Execution.LiveConfig)
  /-- An execution is recorded. -/
  | record (x : Executed eng live) (now : ℚ)
  /-- The executor asks about an opportunity. -/
  | check (opp : Opportunity) (now : Side → ℚ)

/-- The moments of a check, from `now` on. -/
def Later (now : ℚ) (check : Side → ℚ) : Prop := now ≤ check .yes ∧ check .yes ≤ check .no

/-- The tracker: it starts with nothing recorded, and time does not go back. -/
def tracking (cfg : FailureTrackerConfig) (eng : Execution.Engine) (live : Execution.LiveConfig) :
    System (World eng live) (Label eng live) where
  init := fun w => w.tracker = .new ∧ w.executed = []
  step := fun w l w' =>
    match l with
    | .record x now => w.now ≤ now ∧ w' = w.record cfg x now
    | .check opp now =>
        Later w.now now ∧
        w' = { w with
          tracker := (w.tracker.failure_pattern cfg opp.canonical_id opp.price now).2
          now := now .no }

section runs

variable {eng : Execution.Engine} {live : Execution.LiveConfig} {cfg : FailureTrackerConfig}
         {executed : List (Executed eng live × ℚ)} {s s' : State} {t now : ℚ} {key : FailureKey}

/-- The moments at which a failure was recorded under a key. -/
def moments (cfg : FailureTrackerConfig) (key : FailureKey)
    (executed : List (Executed eng live × ℚ)) : List ℚ :=
  (executed.filter fun p => Records cfg key p.1.execution).map Prod.snd

theorem moments_append {x : Executed eng live} :
    moments cfg key (executed ++ [(x, now)]) =
      moments cfg key executed ++ if Records cfg key x.execution then [now] else [] := by
  unfold moments
  rw [List.filter_append, List.map_append]
  by_cases hrecords : Records cfg key x.execution <;> simp [hrecords]

theorem mem_moments {m : ℚ} : m ∈ moments cfg key executed ↔
    ∃ x, (x, m) ∈ executed ∧ Records cfg key x.execution := by
  simp [moments]

/-! ## Section 2: What the tracker holds -/

/-- The threshold was reached under a key, in the room there is. -/
structure ReachedUnder (cfg : FailureTrackerConfig) (key : FailureKey)
    (executed : List (Executed eng live × ℚ)) : Prop where
  nonempty : moments cfg key executed ≠ []
  room : cfg.backoff_threshold ≤ cfg.max_samples_per_key
  count : cfg.backoff_threshold ≤ (moments cfg key executed).length

theorem ReachedUnder.append (h : ReachedUnder cfg key executed) (x : Executed eng live) :
    ReachedUnder cfg key (executed ++ [(x, now)]) := by
  obtain ⟨hnonempty, hroom, hcount⟩ := h
  rw [← List.length_pos_iff_ne_nil] at hnonempty
  have hmore : (moments cfg key executed).length ≤
      (moments cfg key (executed ++ [(x, now)])).length := by
    rw [moments_append, List.length_append]
    omega
  exact ⟨List.ne_nil_of_length_pos (by omega), hroom, by omega⟩

/-- **What the tracker holds**: under each key the latest failures of the window, and no
    cool-off where the threshold was never reached. -/
structure Kept (cfg : FailureTrackerConfig) (s : State) (now : ℚ)
    (executed : List (Executed eng live × ℚ)) : Prop where
  past : ∀ p ∈ executed, p.2 ≤ now
  held : 0 ≤ cfg.window_seconds → ∀ key,
    Window.Holds cfg.max_samples_per_key (moments cfg key executed) (now - cfg.window_seconds)
      ((s.history key).getD [])
  known : ∀ key, s.history key = none ↔ moments cfg key executed = []
  fits : ∀ key, ((s.history key).getD []).length ≤
    min cfg.max_samples_per_key (moments cfg key executed).length
  armed : ∀ key, s.backoff_until key ≠ none → ReachedUnder cfg key executed

theorem Kept.new : Kept cfg .new now ([] : List (Executed eng live × ℚ)) where
  past := fun _ hp => absurd hp List.not_mem_nil
  held := fun _ _ => .nil
  known := fun _ => ⟨fun _ => rfl, fun _ => rfl⟩
  fits := fun _ => Nat.zero_le _
  armed := fun _ h => absurd rfl h

/-- A count that reaches the threshold is of that many failures. -/
theorem Kept.reached (h : Kept cfg s t executed) {history : List ℚ}
    (hhistory : s.history key = some history)
    (hcount : cfg.backoff_threshold ≤ (failures_in_window cfg history now).length) :
    ReachedUnder cfg key executed := by
  have hfits := h.fits key
  rw [hhistory, Option.getD_some] at hfits
  have hfewer : (failures_in_window cfg history now).length ≤ history.length :=
    Window.length_prune_le
  refine ⟨fun hempty => ?_, by omega, by omega⟩
  rw [(h.known key).mpr hempty] at hhistory
  cases hhistory

theorem Kept.asked (h : Kept cfg s t executed) (hle : t ≤ now) (hasked : Asked cfg now s s') :
    Kept cfg s' now executed := by
  have hlow : t - cfg.window_seconds ≤ now - cfg.window_seconds := by linarith
  constructor
  · exact fun p hp => (h.past p hp).trans hle
  · intro hwindow key
    have hheld := h.held hwindow key
    rcases hasked.history key with heq | ⟨history, hhistory, heq⟩
    · rw [heq]
      exact hheld.mono hlow
    · rw [hhistory] at hheld
      rw [heq]
      exact hheld.prune hlow
  · intro key
    rw [← h.known key]
    rcases hasked.history key with heq | ⟨history, hhistory, heq⟩
    · rw [heq]
    · simp [heq, hhistory]
  · intro key
    have hfits := h.fits key
    rcases hasked.history key with heq | ⟨history, hhistory, heq⟩
    · rw [heq]
      exact hfits
    · rw [hhistory, Option.getD_some] at hfits
      rw [heq, Option.getD_some]
      exact Window.length_prune_le.trans hfits
  · intro key harmed
    rcases hasked.armed key harmed with hbefore | ⟨history, hhistory, hcount⟩
    · exact h.armed key hbefore
    · exact h.reached hhistory hcount

theorem Kept.record (h : Kept cfg s t executed) (hle : t ≤ now) (x : Executed eng live) :
    Kept cfg (s.record_execution cfg x.execution now) now (executed ++ [(x, now)]) := by
  have hlow : t - cfg.window_seconds ≤ now - cfg.window_seconds := by linarith
  have hfits (key : FailureKey) : (s.with_failure cfg key now).length ≤
      min cfg.max_samples_per_key ((moments cfg key executed).length + 1) := by
    have hbefore := h.fits key
    have hpruned : (s.with_failure cfg key now).length ≤ _ := Window.length_prune_le
    rw [Window.length_push] at hpruned
    omega
  constructor
  -- what is past stays past
  · intro p hp
    rcases List.mem_append.mp hp with hold | hlast
    · exact (h.past p hold).trans hle
    · rw [List.mem_singleton.mp hlast]
  -- the history holds the moments in the window
  · intro hwindow key
    have hheld := h.held hwindow key
    rw [moments_append, record_execution_history]
    by_cases hrecords : Records cfg key x.execution
    · have hlast : ∀ m ∈ moments cfg key executed, m ≤ now := by
        intro m hm
        obtain ⟨y, hy, -⟩ := mem_moments.mp hm
        exact (h.past _ hy).trans hle
      rw [if_pos hrecords, if_pos hrecords]
      exact (hheld.push hlast (by linarith)).prune hlow
    · rw [if_neg hrecords, if_neg hrecords, List.append_nil]
      exact hheld.mono hlow
  · intro key
    rw [moments_append, record_execution_history]
    by_cases hrecords : Records cfg key x.execution
    · simp [hrecords]
    · simp [hrecords, h.known key]
  · intro key
    rw [moments_append, record_execution_history]
    by_cases hrecords : Records cfg key x.execution
    · simpa [hrecords] using hfits key
    · simpa [hrecords] using h.fits key
  -- a cool-off begins with this execution, or was on before
  · intro key harmed
    rcases record_execution_armed harmed with hbefore | ⟨hrecords, hcount⟩
    · exact (h.armed key hbefore).append x
    · have hmore := hfits key
      have hone : (moments cfg key (executed ++ [(x, now)])).length =
          (moments cfg key executed).length + 1 := by
        rw [moments_append, if_pos hrecords, List.length_append, List.length_singleton]
      exact ⟨List.ne_nil_of_length_pos (by omega), by omega, by omega⟩

/-- A check asks about YES, and about NO where YES is not to be skipped. -/
theorem failure_pattern_state {canonical_id : String} {price : Side → ℚ≥0} {check : Side → ℚ} :
    (s.failure_pattern cfg canonical_id price check).2 =
      (s.should_skip cfg canonical_id .yes (price .yes) (check .yes)).2 ∨
    (s.failure_pattern cfg canonical_id price check).2 =
      ((s.should_skip cfg canonical_id .yes (price .yes) (check .yes)).2.should_skip cfg
        canonical_id .no (price .no) (check .no)).2 := by
  unfold State.failure_pattern
  generalize s.should_skip cfg canonical_id .yes (price .yes) (check .yes) = yes
  obtain ⟨reason, s₁⟩ := yes
  cases reason with
  | some reason => exact .inl rfl
  | none =>
    right
    generalize hno : s₁.should_skip cfg canonical_id .no (price .no) (check .no) = no
    obtain ⟨reason, s₂⟩ := no
    cases reason <;> simp only [hno]

theorem Kept.check {canonical_id : String} {price : Side → ℚ≥0} {check : Side → ℚ}
    (h : Kept cfg s t executed) (hlater : Later t check) :
    Kept cfg (s.failure_pattern cfg canonical_id price check).2 (check .no) executed := by
  have hyes : Kept cfg (s.should_skip cfg canonical_id .yes (price .yes) (check .yes)).2
      (check .yes) executed := h.asked hlater.1 should_skip_asked
  rcases failure_pattern_state with heq | heq
  · rw [heq]
    exact hyes.asked hlater.2 .refl
  · rw [heq]
    exact hyes.asked hlater.2 should_skip_asked

/-- **The run lemma**: the tracker holds the failures of the window in every state reached. -/
theorem tracking_kept : Invariant (tracking cfg eng live)
    fun w => Kept cfg w.tracker w.now w.executed := by
  apply Invariant.of_step
  · rintro w ⟨hnew, hnone⟩
    rw [hnew, hnone]
    exact .new
  · intro w l w' h hstep
    match l with
    | .record x now =>
      obtain ⟨hle, rfl⟩ := hstep
      exact h.record hle x
    | .check opp now =>
      obtain ⟨hlater, rfl⟩ := hstep
      exact h.check hlater

/-- Enough failures under one key, within the window. -/
structure Enough (cfg : FailureTrackerConfig) (key : FailureKey) (since : ℚ)
    (executed : List (Executed eng live × ℚ)) : Prop where
  /-- A threshold that is not positive is for failures all the same. -/
  positive : 1 ≤ cfg.backoff_threshold
  room : cfg.backoff_threshold ≤ cfg.max_samples_per_key
  count : cfg.backoff_threshold ≤ (moments cfg key executed).countP (since ≤ ·)

theorem Enough.mono {since since' : ℚ} (h : Enough cfg key since executed)
    (hle : since' ≤ since) : Enough cfg key since' executed := by
  have hmore : (moments cfg key executed).countP (since ≤ ·) ≤
      (moments cfg key executed).countP (since' ≤ ·) :=
    List.countP_mono_left fun m _ hm => decide_eq_true (hle.trans (of_decide_eq_true hm))
  refine ⟨h.positive, h.room, h.count.trans ?_⟩
  exact_mod_cast hmore

section one_side

variable {canonical_id : String} {side : Side} {price : ℚ≥0}

theorem Kept.skips (h : Kept cfg s t executed) (hle : t ≤ now) (hid : canonical_id ≠ "")
    (henough : Enough cfg (cfg.key canonical_id side price) (now - cfg.window_seconds) executed) :
    (s.should_skip cfg canonical_id side price now).1.isSome = true := by
  obtain ⟨hpositive, hroom, hcount⟩ := henough
  have hsome : 0 < (moments cfg (cfg.key canonical_id side price) executed).countP
      (now - cfg.window_seconds ≤ ·) := by omega
  obtain ⟨m, hm, hsince⟩ := List.countP_pos_iff.mp hsome
  -- a failure lies in the window, so there is one
  have hwindow : 0 ≤ cfg.window_seconds := by
    obtain ⟨x, hx, -⟩ := mem_moments.mp hm
    have hpast := h.past _ hx
    have hsince := of_decide_eq_true hsince
    linarith
  cases hhistory : s.history (cfg.key canonical_id side price) with
  | none =>
    rw [(h.known _).mp hhistory] at hm
    cases hm
  | some history =>
    have hheld := h.held hwindow (cfg.key canonical_id side price)
    rw [hhistory, Option.getD_some] at hheld
    have hlow : t - cfg.window_seconds ≤ now - cfg.window_seconds := by linarith
    refine should_skip_of_count hid hhistory ?_
    rw [failures_in_window, hheld.length_prune hlow]
    omega

theorem Kept.of_skips (h : Kept cfg s t executed)
    (hskips : (s.should_skip cfg canonical_id side price now).1.isSome = true) :
    ReachedUnder cfg (cfg.key canonical_id side price) executed := by
  rcases of_should_skip hskips with harmed | ⟨history, hhistory, hcount⟩
  · exact h.armed _ harmed
  · exact h.reached hhistory hcount

end one_side

variable {opp : Opportunity} {check : Side → ℚ}

/-- The key the executor asks about. -/
def quote_key (cfg : FailureTrackerConfig) (opp : Opportunity) (side : Side) : FailureKey :=
  cfg.key opp.canonical_id side (opp.price side)

/-- **Enough failures under the key of a quote block the opportunity.** -/
theorem Kept.blocks (h : Kept cfg s t executed) (hlater : Later t check)
    (hid : opp.canonical_id ≠ "") {side : Side}
    (henough : Enough cfg (quote_key cfg opp side) (check .no - cfg.window_seconds) executed) :
    s.blocks cfg opp check := by
  obtain ⟨hfirst, hsecond⟩ := hlater
  rw [State.blocks, failure_pattern_isSome_iff]
  cases side with
  | yes =>
    left
    -- YES is asked about first, when the window begins earlier
    have hearlier : check .yes - cfg.window_seconds ≤ check .no - cfg.window_seconds := by linarith
    exact h.skips hfirst hid (henough.mono hearlier)
  | no =>
    cases hyes : (s.should_skip cfg opp.canonical_id .yes (opp.price .yes) (check .yes)).1 with
    | some reason => exact .inl rfl
    | none =>
      right
      exact ⟨rfl, (h.asked hfirst should_skip_asked).skips hsecond hid henough⟩

/-- An opportunity that is blocked has reached the threshold under the key of a quote. -/
theorem Kept.of_blocks (h : Kept cfg s t executed) (hlater : Later t check)
    (hblocks : s.blocks cfg opp check) :
    ∃ side, ReachedUnder cfg (quote_key cfg opp side) executed := by
  rcases failure_pattern_isSome_iff.mp hblocks with hyes | ⟨-, hno⟩
  · exact ⟨.yes, h.of_skips hyes⟩
  · exact ⟨.no, (h.asked hlater.1 should_skip_asked).of_skips hno⟩

/-- **Which opportunities are blocked**: where all was recorded within the window, those with
    enough failures under the key of a quote, and no others. -/
theorem Kept.blocks_iff (h : Kept cfg s t executed) (hlater : Later t check)
    (hid : opp.canonical_id ≠ "") (hpositive : 1 ≤ cfg.backoff_threshold)
    (hwithin : ∀ p ∈ executed, check .no - cfg.window_seconds ≤ p.2) :
    s.blocks cfg opp check ↔
      ∃ side, Enough cfg (quote_key cfg opp side) (check .no - cfg.window_seconds) executed := by
  constructor
  · intro hblocks
    obtain ⟨side, -, hroom, hcount⟩ := h.of_blocks hlater hblocks
    refine ⟨side, hpositive, hroom, ?_⟩
    rw [List.countP_eq_length.mpr fun m hm => ?_]
    · exact hcount
    · obtain ⟨x, hx, -⟩ := mem_moments.mp hm
      exact decide_eq_true (hwithin _ hx)
  · rintro ⟨side, henough⟩
    exact h.blocks hlater hid henough

/-- **What was never recorded under the keys of its quotes passes.** -/
theorem Kept.not_blocks (h : Kept cfg s t executed) (hlater : Later t check)
    (hempty : ∀ side, moments cfg (quote_key cfg opp side) executed = []) :
    ¬ s.blocks cfg opp check := by
  intro hblocks
  obtain ⟨side, hreached⟩ := h.of_blocks hlater hblocks
  exact hreached.nonempty (hempty side)

end runs

/-! ## Section 3: Recognition -/

/-- The same opportunity, at the same quotes. -/
def SameQuotes (opp opp' : Opportunity) : Prop :=
  opp'.canonical_id = opp.canonical_id ∧ opp'.yes_platform = opp.yes_platform ∧
    opp'.no_platform = opp.no_platform ∧ opp'.yes_price = opp.yes_price ∧
    opp'.no_price = opp.no_price

instance (opp opp' : Opportunity) : Decidable (SameQuotes opp opp') :=
  inferInstanceAs (Decidable (_ ∧ _ ∧ _ ∧ _ ∧ _))

theorem SameQuotes.of_eq {opp opp' : Opportunity} (h : opp' = opp) : SameQuotes opp opp' := by
  rw [h]
  exact ⟨rfl, rfl, rfl, rfl, rfl⟩

section recognition

variable {eng : Execution.Engine} {live : Execution.LiveConfig}

/-- The execution ended `failed` or `recovering`. -/
def Executed.failed (x : Executed eng live) : Prop :=
  x.execution.status = .failed ∨ x.execution.status = .recovering

/-- An order of it reached a venue. -/
def Executed.reached (x : Executed eng live) : Prop :=
  x.log.reached .yes = true ∨ x.log.reached .no = true

/-- It failed, with a leg order rejected, killed or cancelled at a venue. -/
def Executed.failed_at_venue (x : Executed eng live) : Prop :=
  x.failed ∧ (x.log.died .yes = true ∨ x.log.died .no = true)

instance (x : Executed eng live) : Decidable x.failed := inferInstanceAs (Decidable (_ ∨ _))

instance (x : Executed eng live) : Decidable x.failed_at_venue :=
  inferInstanceAs (Decidable (_ ∧ (_ ∨ _)))

/-- The executions of an opportunity at its quotes that failed at a venue, since a moment. -/
def World.failures (w : World eng live) (opp : Opportunity) (since : ℚ) : ℕ :=
  w.executed.countP fun p => SameQuotes opp p.1.opp ∧ p.1.failed_at_venue ∧ since ≤ p.2

/-- A check recognises a failure that repeats, and nothing that did not reach a venue. -/
structure RecognisedAt (cfg : FailureTrackerConfig) (opp : Opportunity) (w : World eng live)
    (check : Side → ℚ) : Prop where
  repeated : cfg.backoff_threshold ≤ w.failures opp (check .no - cfg.window_seconds) →
    w.tracker.blocks cfg opp check
  unsent : (∀ p ∈ w.executed, p.1.opp.canonical_id = opp.canonical_id → ¬ p.1.reached) →
    ¬ w.tracker.blocks cfg opp check

/-- The next check does, whenever it is made. -/
def Recognised (cfg : FailureTrackerConfig) (opp : Opportunity) (w : World eng live) : Prop :=
  ∀ check, Later w.now check → RecognisedAt cfg opp w check

/-- The leg of a side is over, at a limit in the bucket of the quote. -/
def Executed.Meets (cfg : FailureTrackerConfig) (opp : Opportunity) (side : Side)
    (x : Executed eng live) : Prop :=
  (x.leg side).status.terminalFailed ∧ cfg.bucket (x.leg side).price = cfg.bucket (opp.price side)

/-- The key of an execution is the key of its quotes, on `side` if it failed at a venue: the
    leg ended in the bucket of its quote, or was not sent because the first leg has no fill.
    One that failed before it reached a venue has no leg there. -/
structure KeysMeet (cfg : FailureTrackerConfig) (opp : Opportunity) (side : Side)
    (x : Executed eng live) : Prop where
  failed : SameQuotes opp x.opp → x.failed_at_venue →
    x.Meets cfg opp side ∨ side = (Execution.primary_side live opp).other ∧
      (x.leg (Execution.primary_side live opp)).fill_qty = 0
  unsent : x.opp.canonical_id = opp.canonical_id → x.failed → ¬ x.reached →
    ∀ side, ¬ x.Meets cfg opp side

/-- A step that records an execution whose keys meet, or a check. -/
def Meeting (cfg : FailureTrackerConfig) (opp : Opportunity) (side : Side) :
    World eng live → Label eng live → Prop
  | _, .record x _ => KeysMeet cfg opp side x
  | _, .check .. => True

variable {cfg : FailureTrackerConfig} {opp : Opportunity} {x : Executed eng live} {side : Side}

theorem records_quote_iff : Records cfg (quote_key cfg opp side) x.execution ↔
    x.failed ∧ x.opp.canonical_id ≠ "" ∧ opp.canonical_id = x.opp.canonical_id ∧
      x.Meets cfg opp side := by
  unfold Records
  rw [x.skips.1]
  simp only [quote_key, FailureTrackerConfig.key, Executed.failed, Executed.Meets, Executed.leg,
    eq_comm (a := cfg.bucket (opp.price side))]

/-- A skipped leg meets its quote. -/
theorem Skipped.meets (hskipped : Skipped opp side (x.leg side)) : x.Meets cfg opp side := by
  refine ⟨.inr (.inr hskipped.status), ?_⟩
  rw [hskipped.price]

/-- An execution whose keys meet is recorded under the key of the quote. -/
theorem KeysMeet.records (h : KeysMeet cfg opp side x) (hid : opp.canonical_id ≠ "")
    (hsame : SameQuotes opp x.opp) (hfailed : x.failed_at_venue) :
    Records cfg (quote_key cfg opp side) x.execution := by
  have hmeets_or := h.failed hsame hfailed
  obtain ⟨hmarket, hyes_platform, hno_platform, hyes, hno⟩ := hsame
  have hquote (s : Side) : x.opp.price s = opp.price s := by
    cases s with
    | yes => exact hyes
    | no => exact hno
  have hfirst : Execution.primary_side live x.opp = Execution.primary_side live opp := by
    unfold Execution.primary_side
    rw [hyes_platform, hno_platform]
  rw [records_quote_iff, hmarket]
  refine ⟨hfailed.1, hid, rfl, ?_⟩
  rcases hmeets_or with hmeets | ⟨rfl, hfill⟩
  · exact hmeets
  · -- the second leg was not sent, and is kept at its quote
    have hskips := x.skips.2
    rw [hfirst] at hskips
    have hskipped := hskips hfill
    exact Skipped.meets ⟨hskipped.status, hskipped.price.trans (hquote _), hskipped.fill_qty⟩

theorem KeysMeet.not_records (h : KeysMeet cfg opp side x) (hunsent : x.opp.canonical_id =
    opp.canonical_id → ¬ x.reached) (s : Side) :
    ¬ Records cfg (quote_key cfg opp s) x.execution := by
  rw [records_quote_iff]
  rintro ⟨hfailed, -, hmarket, hmeets⟩
  exact h.unsent hmarket.symm hfailed (hunsent hmarket.symm) s hmeets

/-- A step keeps the executions to those whose keys meet. -/
theorem meeting_executed : Invariant ((tracking cfg eng live).restrict (Meeting cfg opp side))
    fun w => ∀ p ∈ w.executed, KeysMeet cfg opp side p.1 := by
  apply Invariant.of_step
  · rintro w ⟨-, hnone⟩ p hp
    rw [hnone] at hp
    cases hp
  · rintro w l w' h ⟨hmeeting, hstep⟩
    match l with
    | .record x now =>
      obtain ⟨-, rfl⟩ := hstep
      intro p hp
      rcases List.mem_append.mp hp with hold | hlast
      · exact h p hold
      · rw [List.mem_singleton.mp hlast]
        exact hmeeting
    | .check opp' now =>
      obtain ⟨-, rfl⟩ := hstep
      exact h

end recognition

/-- **A repeating failure is recognised where the keys meet.** In every run of the tracker in
    which each execution of the opportunity that fails at a venue ends with one leg, of the
    same side each time, in the bucket of its quote (or unsent, the first leg having no fill),
    and none fails before it reaches a venue with a leg there: at least so many failures as
    the threshold, within the window, block the opportunity at the next check, and executions
    that did not reach a venue do not. -/
theorem recognised_where_keys_meet (cfg : FailureTrackerConfig) (eng : Execution.Engine)
    (live : Execution.LiveConfig) (opp : Opportunity) (side : Side)
    (hid : opp.canonical_id ≠ "") (hpositive : 1 ≤ cfg.backoff_threshold)
    (hroom : cfg.backoff_threshold ≤ cfg.max_samples_per_key) :
    Invariant ((tracking cfg eng live).restrict (Meeting cfg opp side)) (Recognised cfg opp) := by
  intro w hr check hlater
  have hmeet := meeting_executed w hr
  have hkept := tracking_kept w hr.of_restrict
  constructor
  · intro hfailures
    have hcount : w.failures opp (check .no - cfg.window_seconds) ≤
        (moments cfg (quote_key cfg opp side) w.executed).countP
          (check .no - cfg.window_seconds ≤ ·) := by
      unfold World.failures moments
      rw [List.countP_map, List.countP_filter]
      apply List.countP_mono_left
      intro p hp h
      obtain ⟨hsame, hfailed, hsince⟩ := of_decide_eq_true h
      simpa [(hmeet p hp).records hid hsame hfailed] using hsince
    have henough : Enough cfg (quote_key cfg opp side) (check .no - cfg.window_seconds)
        w.executed := ⟨hpositive, hroom, hfailures.trans (by exact_mod_cast hcount)⟩
    exact hkept.blocks hlater hid henough
  · intro hunsent
    apply hkept.not_blocks hlater
    intro s
    rw [List.eq_nil_iff_forall_not_mem]
    intro m hm
    obtain ⟨x, hx, hrecords⟩ := mem_moments.mp hm
    exact (hmeet _ hx).not_records (hunsent _ hx) s hrecords

/-! ## Section 4: Three executions -/

/-- An order that is rejected, or filled at once. -/
def answered_order (rejects : Bool) (platform : String) (req : OrderRequest) : Leg :=
  if rejects then
    Order.synthetic "9f2" platform req.market_id req.canonical_id req.side req.price req.qty .failed
      "rejected"
  else
    { Order.synthetic "9f1" platform req.market_id req.canonical_id req.side req.price req.qty
        .filled "" with
      fill_qty := req.qty
      fill_price := req.price }

theorem placed_dead_answered {rejects : Bool} {platform : String} {req : OrderRequest} :
    placed_dead (.ok (answered_order rejects platform req)) = rejects := by
  cases rejects <;> rfl

open Execution in
/-- Some platforms reject, the others fill. Books are deep, their prices unknown, and nothing
    can be sold. -/
def rejecting (rejects : String → Bool) : Oracle Call Answer OrderLog := fun w c =>
  match c with
  | .place_fok platform req | .place_ioc platform req =>
      (.ok (answered_order (rejects platform) platform req),
        w.send req.side true (rejects platform))
  | .get_order _ order => (.error "503", w.report order.side false)
  | .cancel_order _ order => (.error "503", w.report order.side false)
  | .best_executable_price .. => (.ok (false, 0), w)
  | .check_depth .. => (.ok (true, 0), w)
  | .place_resting_sell .. | .place_unwind_sell .. => (.error "503", w)
  | .list_open_orders_by_client_id .. | .smart_unwind .. => (.error "503", w)
  | .upsert_order .. | .record_arb_stub_with_leg .. | .record_arb _ => (.error "no store", w)
  | .mark_naked_leg_reconciled .. | .handle_one_leg_exposure .. => (.error "no store", w)
  | .balance _ => (none, w)
  | .db_write_failed => (false, w)
  | .rounds_left _ => (0, w)
  | .handle_db_failure .. | .record_incident _ | .auto_resolve_recovery_incidents .. => ((), w)
  | .append_execution _ | .maybe_halt_on_daily_loss _ | .record_trade .. => ((), w)
  | .release_trade .. | .sleep _ => ((), w)

theorem rejecting_serves (rejects : String → Bool) (w : OrderLog) (c : Execution.Call) :
    order_venues.serve w c (rejecting rejects w c).1 (rejecting rejects w c).2 := by
  cases c with
  | place_fok platform req =>
    exact ⟨true, congrArg (w.send req.side true) placed_dead_answered.symm⟩
  | place_ioc platform req =>
    exact ⟨true, congrArg (w.send req.side true) placed_dead_answered.symm⟩
  | _ => rfl

open Execution in
/-- An execution there, with adapters on Kalshi and on Polymarket. -/
def rejecting_run (rejects : String → Bool) (arb_id : String) (opp : Opportunity) :
    Except String (Option ArbExecution) × OrderLog :=
  play (fun w p => play (rejecting rejects) (leg_program across_engine p) w)
    (live_execution across_engine kalshi_first_config arb_id opp) .start

/-- The execution comes back and passes a test. -/
def ends (test : ArbExecution → OrderLog → Bool)
    (r : Except String (Option ArbExecution) × OrderLog) : Bool :=
  match r with
  | (.ok (some execution), log) => test execution log
  | _ => false

/-- Executions of that engine. -/
abbrev AcrossExecuted := Executed Execution.across_engine Execution.kalshi_first_config

theorem rejecting_executed (rejects : String → Bool) {arb_id : String} {opp : Opportunity}
    (test : ArbExecution → OrderLog → Bool)
    (h : ends test (rejecting_run rejects arb_id opp) = true) :
    ∃ x : AcrossExecuted, x.opp = opp ∧ test x.execution x.log = true := by
  have hrun : Exec (live_orders Execution.across_engine) (Execution.live_execution
      Execution.across_engine Execution.kalshi_first_config arb_id opp) .start
      (rejecting_run rejects arb_id opp).1 (rejecting_run rejects arb_id opp).2 :=
    exec_play (fun w p => exec_play (rejecting_serves rejects) (leg_program _ p) w) _ _
  generalize rejecting_run rejects arb_id opp = r at h hrun
  match r, h, hrun with
  | (.ok (some execution), log), h, hrun => exact ⟨⟨arb_id, opp, execution, log, hrun⟩, rfl, h⟩

/-- Three executions, twenty minutes apart. -/
def thrice {eng : Execution.Engine} {live : Execution.LiveConfig} (cfg : FailureTrackerConfig)
    (x : Fin 3 → Executed eng live) : World eng live :=
  (((⟨.new, 0, []⟩ : World eng live).record cfg (x 0) 0).record cfg (x 1) 1200).record cfg (x 2)
    2400

section thrice

variable {eng : Execution.Engine} {live : Execution.LiveConfig} {cfg : FailureTrackerConfig}
         {x : Fin 3 → Executed eng live} {opp : Opportunity}

theorem thrice_reachable {ok : World eng live → Label eng live → Prop}
    (hok : ∀ w i now, ok w (.record (x i) now)) :
    Reachable ((tracking cfg eng live).restrict ok) (thrice cfg x) :=
  .step (.step (.step (.init ⟨rfl, rfl⟩) ⟨hok _ 0 0, le_rfl, rfl⟩)
    ⟨hok _ 1 1200, by norm_num [World.record], rfl⟩) ⟨hok _ 2 2400, by norm_num [World.record], rfl⟩

theorem thrice_in_run : Reachable (tracking cfg eng live) (thrice cfg x) := by
  have hr : Reachable ((tracking cfg eng live).restrict fun _ _ => True) (thrice cfg x) :=
    thrice_reachable fun _ _ _ => trivial
  exact hr.of_restrict

theorem mem_thrice {p : Executed eng live × ℚ} (hp : p ∈ (thrice cfg x).executed) :
    ∃ i, p.1 = x i := by
  simp only [thrice, World.record, List.nil_append, List.cons_append, List.mem_cons,
    List.not_mem_nil, or_false] at hp
  rcases hp with rfl | rfl | rfl
  · exact ⟨0, rfl⟩
  · exact ⟨1, rfl⟩
  · exact ⟨2, rfl⟩

theorem thrice_failures (hall : ∀ i, SameQuotes opp (x i).opp ∧ (x i).failed_at_venue) :
    (thrice cfg x).failures opp (-600) = 3 := by
  have hsince : ((-600 : ℚ) ≤ 0 ∧ (-600 : ℚ) ≤ 1200) ∧ (-600 : ℚ) ≤ 2400 := by norm_num
  simp [World.failures, thrice, World.record, hall, hsince]

theorem thrice_moments {key : FailureKey} (hall : ∀ i, Records cfg key (x i).execution) :
    moments cfg key (thrice cfg x).executed = [0, 1200, 2400] := by
  simp [moments, thrice, World.record, hall]

theorem thrice_no_moments {key : FailureKey} (hnone : ∀ i, ¬ Records cfg key (x i).execution) :
    moments cfg key (thrice cfg x).executed = [] := by
  simp [moments, thrice, World.record, hnone]

end thrice

/-- The ids of three executions. -/
def arb_ids : Fin 3 → String
  | 0 => "ARB-000001"
  | 1 => "ARB-000002"
  | 2 => "ARB-000003"

/-- The moment of the check after them. -/
def next_check : Side → ℚ := fun _ => 3000

theorem thrice_later {eng : Execution.Engine} {live : Execution.LiveConfig}
    {cfg : FailureTrackerConfig} {x : Fin 3 → Executed eng live} :
    Later (thrice cfg x).now next_check :=
  ⟨by norm_num [thrice, World.record, next_check], le_rfl⟩

/-- Kalshi rejects the first order: nothing is bought, and the hedge is not sent. -/
theorem primary_rejected (i : Fin 3) : ∃ x : AcrossExecuted, x.opp = Execution.ten_across ∧
    decide (x.execution.status = .failed ∧ x.log.died .yes = true ∧ x.log.reached .yes = true ∧
      x.execution.leg_yes.fill_qty = 0) = true := by
  apply rejecting_executed (fun platform => platform = "kalshi") (fun execution log =>
    decide (execution.status = .failed ∧ log.died .yes = true ∧ log.reached .yes = true ∧
      execution.leg_yes.fill_qty = 0)) (h := ?_)
  · exact arb_ids i
  · revert i
    decide +kernel

/-- `recognised_where_keys_meet` in a run of three such executions. -/
theorem recognised_primary_rejected : ∃ w : World Execution.across_engine
    Execution.kalshi_first_config,
    w.failures Execution.ten_across (-600) = 3 ∧
      Recognised .default Execution.ten_across w := by
  choose x hopp htest using primary_rejected
  have hx (i : Fin 3) := of_decide_eq_true (htest i)
  have hmeet (i : Fin 3) : KeysMeet .default Execution.ten_across .no (x i) :=
    ⟨fun _ _ => .inr ⟨rfl, (hx i).2.2.2⟩, fun _ _ h => absurd (.inl (hx i).2.2.1) h⟩
  have hsame (i : Fin 3) : SameQuotes Execution.ten_across (x i).opp := .of_eq (hopp i)
  refine ⟨thrice .default x, thrice_failures fun i => ⟨hsame i, .inl (hx i).1, .inl (hx i).2.1⟩, ?_⟩
  exact recognised_where_keys_meet .default Execution.across_engine Execution.kalshi_first_config
    Execution.ten_across .no (by decide) (by decide) (by decide) _
    (thrice_reachable fun w i now => hmeet i)

/-- Kalshi fills, and Polymarket rejects the hedge at the most it may cost. -/
theorem hedge_rejected (i : Fin 3) : ∃ x : AcrossExecuted, x.opp = Execution.ten_across ∧
    decide (x.execution.status = .recovering ∧ x.log.died .no = true ∧
      x.execution.leg_yes.status = .filled ∧
      FailureTrackerConfig.default.bucket x.execution.leg_no.price = 55) = true := by
  apply rejecting_executed (fun platform => platform = "polymarket") (fun execution log =>
    decide (execution.status = .recovering ∧ log.died .no = true ∧
      execution.leg_yes.status = .filled ∧
      FailureTrackerConfig.default.bucket execution.leg_no.price = 55)) (h := ?_)
  · exact arb_ids i
  · revert i
    decide +kernel

/-- **A repeating failure that is not recognised.** Three times within the hour the hedge is
    rejected, at 56 cents; it is asked for under its quote of 40 cents, and passes. -/
theorem rejected_hedges_pass : ¬ Invariant (tracking .default Execution.across_engine
    Execution.kalshi_first_config) (Recognised .default Execution.ten_across) := by
  intro h
  choose x hopp htest using hedge_rejected
  have hx (i : Fin 3) := of_decide_eq_true (htest i)
  have hsame (i : Fin 3) : SameQuotes Execution.ten_across (x i).opp := .of_eq (hopp i)
  have hr : Reachable (tracking .default Execution.across_engine Execution.kalshi_first_config)
      (thrice .default x) := thrice_in_run
  have hfailures : (thrice .default x).failures Execution.ten_across (-600) = 3 :=
    thrice_failures fun i => ⟨hsame i, .inr (hx i).1, .inr (hx i).2.1⟩
  have hblocks : (thrice .default x).tracker.blocks .default Execution.ten_across next_check := by
    refine (h _ hr next_check thrice_later).repeated ?_
    rw [show next_check .no - FailureTrackerConfig.default.window_seconds = -600 by
      norm_num [next_check, FailureTrackerConfig.default], hfailures]
    decide
  -- the YES leg did not fail, and the NO leg failed at another bucket than it is asked for
  refine (tracking_kept _ hr).not_blocks thrice_later (fun side => ?_) hblocks
  refine thrice_no_moments fun i => ?_
  rintro ⟨-, -, -, hdead, hbucket⟩
  cases side with
  | yes =>
    change (x i).execution.leg_yes.status.terminalFailed at hdead
    rw [(hx i).2.2.1] at hdead
    revert hdead
    decide
  | no =>
    change FailureTrackerConfig.default.bucket (2 / 5) =
      FailureTrackerConfig.default.bucket (x i).execution.leg_no.price at hbucket
    rw [(hx i).2.2.2] at hbucket
    revert hbucket
    decide +kernel

/-- `ten_across` at quotes that leave no edge. -/
def ten_even : Opportunity := { Execution.ten_across with no_price := 3 / 5 }

/-- It is turned down before any order, and both legs are made up. -/
theorem unprofitable_unsent (i : Fin 3) : ∃ x : AcrossExecuted, x.opp = ten_even ∧
    decide (x.execution.status = .failed ∧ x.log.reached .yes = false ∧
      x.log.reached .no = false ∧ x.execution.leg_yes.fill_qty = 0) = true := by
  apply rejecting_executed (fun _ => false) (fun execution log =>
    decide (execution.status = .failed ∧ log.reached .yes = false ∧ log.reached .no = false ∧
      execution.leg_yes.fill_qty = 0)) (h := ?_)
  · exact arb_ids i
  · revert i
    decide +kernel

/-- **What never reached a venue blocks.** After three such executions the opportunity is
    blocked. -/
theorem unsent_executions_block : ¬ Invariant (tracking .default Execution.across_engine
    Execution.kalshi_first_config) (Recognised .default ten_even) := by
  intro h
  choose x hopp htest using unprofitable_unsent
  have hx (i : Fin 3) := of_decide_eq_true (htest i)
  have hr : Reachable (tracking .default Execution.across_engine Execution.kalshi_first_config)
      (thrice .default x) := thrice_in_run
  refine (h _ hr next_check thrice_later).unsent (fun p hp _ hreached => ?_) ?_
  · obtain ⟨i, hi⟩ := mem_thrice hp
    rw [hi] at hreached
    rcases hreached with hyes | hno
    · rw [(hx i).2.1] at hyes
      cases hyes
    · rw [(hx i).2.2.1] at hno
      cases hno
  · have hrecords (i : Fin 3) :
        Records .default (quote_key .default ten_even .no) (x i).execution := by
      rw [records_quote_iff, hopp i]
      have hskips := (x i).skips.2
      rw [hopp i] at hskips
      exact ⟨.inl (hx i).1, by decide, rfl, (hskips (hx i).2.2.2).meets⟩
    have henough : Enough .default (quote_key .default ten_even .no)
        (next_check .no - FailureTrackerConfig.default.window_seconds)
        (thrice .default x).executed := by
      refine ⟨by decide, by decide, ?_⟩
      rw [thrice_moments hrecords]
      decide +kernel
    exact (tracking_kept _ hr).blocks thrice_later (by decide) henough

end FailureTracker
