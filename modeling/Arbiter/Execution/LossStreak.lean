import Arbiter.Execution.Cooldown
import Arbiter.Mapping.Store

/-! # The Loss Streak

  A mapping that keeps losing money is taken out of auto-trade. The executor counts the
  losses of a mapping, and at the threshold has the store disable it. Which executions count
  is told by their status, and a store that raises is answered by changing a copy of the row.

  ## Contents

  - Section 1: the store, as the executor disables a mapping in it.
  - Section 2: runs of executions, and the losses in a row.
  - Section 3: what an execution leaves of the count and of the store.
  - Section 4: when the mapping is disabled.
-/

namespace AutoExecutor

open LTS Effect
open Mapping (MarketMapping World store_env)

/-! ## Section 1: The store -/

/-- Where the mappings are: in the database, or in the map of the settings. -/
inductive Backing
  | database
  | settings
  deriving DecidableEq

/-- The permission that the next gate check reads. -/
def Backing.allows (backing : Backing) (w : World) (canonical_id : String) : Bool :=
  match backing with
  | .database => (w.table.find canonical_id).any (·.allow_auto_trade)
  | .settings => (w.runtime canonical_id).any (·.allow_auto_trade)

/-- The fallback takes the permission away from what `get` returned. The store makes that
    object anew for every `get`, and keeps none. -/
def fallback (cached : Option (Option MarketMapping)) : Option MarketMapping :=
  (cached.getD none).map fun m => { m with allow_auto_trade := false }

/-- `_auto_disable_mapping` with the database: how `disable_auto_trade` was answered, `none`
    where it raised, and what the fallback has changed. -/
def auto_disable_mapping (canonical_id reason : String) :
    Mapping.Op (Option Bool × Option MarketMapping) := do
  let answer ← (Mapping.disable_auto_trade canonical_id reason).attempt
  match answer with
  -- the answer is not looked at: False is as good as True
  | some _ => pure (answer, none)
  | none =>
      let cached ← (Mapping.get canonical_id).attempt
      pure (answer, fallback cached)

/-- `disable_auto_trade` of the settings' map, which does not raise. -/
def settings_disable (w : World) (canonical_id : String) : Bool × World :=
  match w.runtime canonical_id with
  | some entry =>
      if entry.allow_auto_trade then
        (true, { w with
          runtime := Function.update w.runtime canonical_id
            (some { entry with allow_auto_trade := false }) })
      else (false, w)
  | none => (false, w)

/-- The mapping is disabled, with an answer of the store. -/
def Backing.Disables (backing : Backing) (canonical_id reason : String) (w : World)
    (answer : Option Bool) (w' : World) : Prop :=
  match backing with
  | .database => ∃ changed,
      Raising.Ends store_env (auto_disable_mapping canonical_id reason) w
        (some (answer, changed)) w'
  | .settings => answer = some (settings_disable w canonical_id).1 ∧
      w' = (settings_disable w canonical_id).2

section disabling

variable {backing : Backing} {w w' : World} {canonical_id other reason : String}
         {answer : Option Bool}

/-- Whether or not the store raises, its table is left by `disable_auto_trade` alone. -/
theorem auto_disable_ends {changed : Option MarketMapping}
    (h : Raising.Ends store_env (auto_disable_mapping canonical_id reason) w
      (some (answer, changed)) w') :
    Mapping.store_serve w (.disable canonical_id reason) answer w' := by
  rw [auto_disable_mapping, Raising.ends_bind] at h
  obtain ⟨tried, w₁, hdisable, hrest⟩ | ⟨hraised, -⟩ := h
  · obtain ⟨_, htried, hdisable⟩ := Raising.ends_attempt.mp hdisable
    cases htried
    obtain ⟨a, w₂, hserve, hret⟩ := exec_call.mp hdisable
    obtain ⟨rfl, rfl⟩ := exec_ret.mp hret
    cases tried with
    | some updated =>
      -- answered: the fallback is not reached
      obtain ⟨heq, rfl⟩ := Raising.ends_pure.mp hrest
      cases heq
      exact hserve
    | none =>
      rw [Raising.ends_bind] at hrest
      obtain ⟨cached, w₃, hget, hrest⟩ | ⟨hraised, -⟩ := hrest
      · -- raised: the fallback reads the row, and what it changes is no part of the table
        obtain ⟨_, hcached, hget⟩ := Raising.ends_attempt.mp hget
        cases hcached
        obtain ⟨b, w₄, hselect, hret⟩ := exec_call.mp hget
        obtain ⟨rfl, rfl⟩ := exec_ret.mp hret
        obtain ⟨heq, rfl⟩ := Raising.ends_pure.mp hrest
        cases heq
        obtain rfl := hselect.1
        exact hserve
      · cases hraised
  · -- what is attempted does not raise
    cases hraised

/-- The statement takes the permission of one row, and gives none. -/
theorem database_allows
    (h : Mapping.store_serve w (.disable canonical_id reason) answer w') :
    (Backing.database.allows w' other = true → Backing.database.allows w other = true) ∧
      (answer ≠ none → Backing.database.allows w' canonical_id = false) := by
  obtain ⟨rfl, rfl⟩ | ⟨stamp, time, rfl, -⟩ := h
  · exact ⟨id, fun hne => absurd rfl hne⟩
  · simp only [Backing.allows, Mapping.find_update_where]
    constructor
    · -- a row that is written to has lost its permission
      intro hallows
      cases hfind : w.table.find other with
      | none => simp [hfind] at hallows
      | some m =>
        simp only [hfind, Option.map_some, Option.any_some] at hallows ⊢
        split at hallows
        · cases hallows
        · exact hallows
    · intro _
      cases hfind : w.table.find canonical_id with
      | none => rfl
      | some m =>
        have hkey : m.canonical_id = canonical_id := Table.find_key hfind
        simp only [Option.map_some, Option.any_some]
        split
        · rfl
        · -- the statement passes over a row that has no permission to lose
          next hnot => simpa [hkey] using hnot

/-- So does the map of the settings, which answers always. -/
theorem settings_allows :
    (Backing.settings.allows (settings_disable w canonical_id).2 other = true →
        Backing.settings.allows w other = true) ∧
      Backing.settings.allows (settings_disable w canonical_id).2 canonical_id = false := by
  unfold settings_disable Backing.allows
  cases hentry : w.runtime canonical_id with
  | none => simp [hentry]
  | some entry =>
    dsimp only
    by_cases hallow : entry.allow_auto_trade = true
    · rw [if_pos hallow]
      by_cases hother : other = canonical_id
      · subst hother
        simp [hentry, hallow]
      · simp [hother]
    · rw [if_neg hallow]
      simp [hentry, hallow]

/-- Disabling gives no mapping its permission, and takes it from the one it is for unless
    the store raises. -/
theorem disables_allows (h : backing.Disables canonical_id reason w answer w') :
    (backing.allows w' other = true → backing.allows w other = true) ∧
      (answer ≠ none → backing.allows w' canonical_id = false) := by
  cases backing with
  | database =>
    obtain ⟨changed, h⟩ := h
    exact database_allows (auto_disable_ends h)
  | settings =>
    obtain ⟨rfl, rfl⟩ := h
    exact ⟨settings_allows.1, fun _ => (@settings_allows w canonical_id other).2⟩

end disabling

/-! ## Section 2: Runs -/

/-- An execution: how the call of the engine ended, and how the store answers if it is asked
    to disable the mapping. -/
structure Trade where
  canonical_id : String
  result : EngineResult
  now : ℚ
  answer : Option Bool

/-- It is counted as a loss. -/
def EngineResult.is_loss : EngineResult → Bool
  | .result status realized_pnl =>
      (EngineResult.result status realized_pnl).is_failure && decide (realized_pnl < 0)
  | _ => false

/-- The profit or loss it leaves, if any. -/
def EngineResult.realized : EngineResult → List ℚ
  | .result _ realized_pnl => if realized_pnl = 0 then [] else [realized_pnl]
  | _ => []

/-- It is the loss that reaches the threshold. -/
def State.trips (s : State) (cfg : AutoExecutorConfig) (t : Trade) : Prop :=
  t.result.is_loss = true ∧ 0 < cfg.loss_streak_disable_threshold ∧
    cfg.loss_streak_disable_threshold ≤ s.loss_streak t.canonical_id + 1

instance (s : State) (cfg : AutoExecutorConfig) (t : Trade) : Decidable (s.trips cfg t) :=
  inferInstanceAs (Decidable (_ ∧ _ ∧ _))

/-- The reason the store is given. -/
def State.disable_reason (s : State) (canonical_id : String) : String :=
  "auto-disabled after " ++ toString (s.loss_streak canonical_id + 1) ++
    " consecutive losing trades"

/-- The executor, the store, and the profits and losses by canonical id, the latest first. -/
structure TradeRun where
  executor : State
  store : World
  realized : String → List ℚ

/-- Executions of any mappings, one after another. Nothing else writes the permissions. -/
def trades (cfg : AutoExecutorConfig) (backing : Backing) : System TradeRun Trade where
  init := fun r => (auto_executor cfg).init r.executor ∧
    ∀ canonical_id, r.realized canonical_id = []
  step := fun r t r' =>
    r'.executor = r.executor.after_engine cfg t.canonical_id t.result t.now ∧
      r'.realized = Function.update r.realized t.canonical_id
        (t.result.realized ++ r.realized t.canonical_id) ∧
      if r.executor.trips cfg t then
        backing.Disables t.canonical_id (r.executor.disable_reason t.canonical_id) r.store t.answer
          r'.store
      else r'.store = r.store

/-- The last `n` are losses. -/
def LastLost (n : ℕ) (realized : List ℚ) : Prop :=
  n ≤ realized.length ∧ ∀ x ∈ realized.take n, x < 0

/-- How many are losses, from the last one back. -/
def losing (realized : List ℚ) : ℕ := (realized.takeWhile (· < 0)).length

theorem LastLost.le_losing {n : ℕ} {realized : List ℚ} (h : LastLost n realized) :
    n ≤ losing realized := by
  induction realized generalizing n with
  | nil => exact h.1
  | cons x realized ih =>
    cases n with
    | zero => exact Nat.zero_le _
    | succ n =>
      obtain ⟨hlength, hlost⟩ := h
      have hx : x < 0 := hlost x (by simp)
      have hrest : n ≤ losing realized :=
        ih ⟨Nat.le_of_succ_le_succ hlength, fun y hy => hlost y (by simp [hy])⟩
      rw [losing, List.takeWhile_cons_of_pos (by simpa using hx)]
      exact Nat.succ_le_succ hrest

/-- **The switch has tripped** for every mapping that lost money in its last executions. -/
def Tripped (cfg : AutoExecutorConfig) (backing : Backing) (r : TradeRun) : Prop :=
  ∀ canonical_id, 0 < cfg.loss_streak_disable_threshold →
    LastLost cfg.loss_streak_disable_threshold.toNat (r.realized canonical_id) →
      backing.allows r.store canonical_id = false

/-- With the switch on, a loss comes with a status that counts as a failure, and where it
    reaches the threshold the store does not raise. -/
def LossCounts (cfg : AutoExecutorConfig) (r : TradeRun) (t : Trade) : Prop :=
  0 < cfg.loss_streak_disable_threshold →
  (∀ x ∈ t.result.realized, x < 0 → t.result.is_failure = true) ∧
    (r.executor.trips cfg t → t.answer ≠ none)

/-! ## Section 3: One execution -/

section count

variable {cfg : AutoExecutorConfig} {s : State} {canonical_id other : String}
         {result : EngineResult} {now : ℚ}

theorem loss_streak_other (hne : other ≠ canonical_id) :
    (s.after_engine cfg canonical_id result now).loss_streak other = s.loss_streak other := by
  cases result with
  | raised => rfl
  | no_result => rfl
  | result status realized_pnl =>
    simp only [State.after_engine]
    split <;> split <;> split <;>
      simp [State.failed, State.clean_fill, State.lost, hne, ite_apply]

/-- A loss counts one more, and starts the count again at the threshold. -/
theorem loss_streak_of_loss (h : result.is_loss = true) :
    (s.after_engine cfg canonical_id result now).loss_streak canonical_id =
      if 0 < cfg.loss_streak_disable_threshold ∧
          cfg.loss_streak_disable_threshold ≤ s.loss_streak canonical_id + 1 then 0
      else s.loss_streak canonical_id + 1 := by
  cases result with
  | raised => cases h
  | no_result => cases h
  | result status realized_pnl =>
    obtain ⟨hfailure, hlost⟩ := Bool.and_eq_true_iff.mp h
    replace hlost : realized_pnl < 0 := of_decide_eq_true hlost
    simp only [State.after_engine]
    rw [if_pos ⟨hfailure, hlost⟩, if_neg fun hclean => absurd hclean.2 (not_le.mpr hlost),
      if_pos hfailure]
    simp [State.lost, State.failed]

/-- Anything else leaves the count, but a clean fill with a profit. -/
theorem loss_streak_of_not_loss (h : result.is_loss = false) :
    (s.after_engine cfg canonical_id result now).loss_streak canonical_id =
        s.loss_streak canonical_id ∨
      (∃ x ∈ result.realized, 0 < x) ∧
        (s.after_engine cfg canonical_id result now).loss_streak canonical_id = 0 := by
  cases result with
  | raised => exact .inl rfl
  | no_result => exact .inl rfl
  | result status realized_pnl =>
    have hnot : ¬ ((EngineResult.result status realized_pnl).is_failure = true ∧
        realized_pnl < 0) := by
      intro hlost
      have hloss : (EngineResult.result status realized_pnl).is_loss = true :=
        Bool.and_eq_true_iff.mpr ⟨hlost.1, decide_eq_true hlost.2⟩
      rw [hloss] at h
      cases h
    have hcount : (s.after_engine cfg canonical_id (.result status realized_pnl) now).loss_streak
        canonical_id =
          if (status = .filled ∨ status = .submitted) ∧ 0 ≤ realized_pnl then
            (if 0 < realized_pnl then 0 else s.loss_streak canonical_id)
          else s.loss_streak canonical_id := by
      simp only [State.after_engine]
      rw [if_neg hnot]
      split <;> split <;> simp [State.failed, State.clean_fill, ite_apply]
    rw [hcount]
    split
    · split
      · next hprofit =>
        refine .inr ⟨⟨realized_pnl, ?_, hprofit⟩, rfl⟩
        simp [EngineResult.realized, hprofit.ne']
      · exact .inl rfl
    · exact .inl rfl

/-- What an execution leaves does not depend on what the executor is remembered to have
    handed over: a consideration that calls the engine is such an execution. -/
theorem Hands.loss_streak {c : Consideration} {handed : Scanner.ArbitrageOpportunity}
    (h : Hands cfg s c handed) :
    (consider_opportunity cfg s c).loss_streak =
      (s.after_engine cfg c.opp.canonical_id c.engine c.engine_now).loss_streak := by
  rw [h.consider]
  cases c.engine with
  | raised => rfl
  | no_result => rfl
  | result status realized_pnl =>
    simp only [State.after_engine]
    split <;> split <;> split <;> rfl

end count

/-- A mapping without the permission is left alone by the gates, in whatever state the
    executor is. -/
theorem disabled_not_considered {cfg : AutoExecutorConfig} {s : State} {c : Consideration}
    {mapping : MappingView} (hread : c.mapping = .ok (some mapping))
    (hdisabled : mapping.allow_auto_trade = false) : ¬ gates cfg s c := by
  rintro ⟨-, -, -, hmapping, -⟩
  rw [hread, mapping_ok, hdisabled] at hmapping
  cases hmapping

/-! ## Section 4: When the switch trips -/

section runs

variable {cfg : AutoExecutorConfig} {backing : Backing} {r r' : TradeRun} {t : Trade}

/-- What an orderly execution keeps: the count is below the threshold, and not below the
    losses in a row of a mapping that is still traded. -/
def Counts (cfg : AutoExecutorConfig) (backing : Backing) (r : TradeRun) : Prop :=
  0 < cfg.loss_streak_disable_threshold → ∀ canonical_id,
    (r.executor.loss_streak canonical_id : ℤ) < cfg.loss_streak_disable_threshold ∧
      (backing.allows r.store canonical_id = true →
        losing (r.realized canonical_id) ≤ r.executor.loss_streak canonical_id)

/-- No execution gives a mapping its permission. -/
theorem allows_of_step (hstep : (trades cfg backing).step r t r') {canonical_id : String}
    (h : backing.allows r'.store canonical_id = true) :
    backing.allows r.store canonical_id = true := by
  obtain ⟨-, -, hstore⟩ := hstep
  split at hstore
  · exact (disables_allows hstore).1 h
  · rwa [hstore] at h

theorem losing_cons_of_neg {x : ℚ} {realized : List ℚ} (h : x < 0) :
    losing (x :: realized) = losing realized + 1 := by
  rw [losing, List.takeWhile_cons_of_pos (by simpa using h)]
  rfl

theorem losing_cons_of_nonneg {x : ℚ} {realized : List ℚ} (h : ¬ x < 0) :
    losing (x :: realized) = 0 := by
  rw [losing, List.takeWhile_cons_of_neg (by simpa using h)]
  rfl

/-- The losses in a row after an execution that is not counted. -/
theorem losing_of_not_loss (hok : ∀ x ∈ t.result.realized, x < 0 → t.result.is_failure = true)
    (h : t.result.is_loss = false) (realized : List ℚ) :
    losing (t.result.realized ++ realized) = 0 ∨ t.result.realized = [] := by
  cases hresult : t.result with
  | raised => exact .inr rfl
  | no_result => exact .inr rfl
  | result status realized_pnl =>
    rw [hresult] at hok h
    by_cases hzero : realized_pnl = 0
    · exact .inr (if_pos hzero)
    · left
      have hreal : (EngineResult.result status realized_pnl).realized = [realized_pnl] :=
        if_neg hzero
      rw [hreal]
      refine losing_cons_of_nonneg fun hlost => ?_
      have hfailure := hok realized_pnl (by simp [hreal]) hlost
      simp [EngineResult.is_loss, hfailure, hlost] at h

/-- A counted loss is a loss of money. -/
theorem realized_of_loss (h : t.result.is_loss = true) : ∃ x < 0, t.result.realized = [x] := by
  cases hresult : t.result with
  | raised => simp [hresult, EngineResult.is_loss] at h
  | no_result => simp [hresult, EngineResult.is_loss] at h
  | result status realized_pnl =>
    rw [hresult] at h
    have hlost : realized_pnl < 0 := of_decide_eq_true (Bool.and_eq_true_iff.mp h).2
    exact ⟨realized_pnl, hlost, if_neg hlost.ne⟩

/-- After a counted loss: the mapping is disabled, or one more loss is counted. -/
theorem Counts.of_loss (h : Counts cfg backing r) (hok : LossCounts cfg r t)
    (hstep : (trades cfg backing).step r t r')
    (hthreshold : 0 < cfg.loss_streak_disable_threshold) (hloss : t.result.is_loss = true) :
    (r'.executor.loss_streak t.canonical_id : ℤ) < cfg.loss_streak_disable_threshold ∧
      (backing.allows r'.store t.canonical_id = true →
        losing (r'.realized t.canonical_id) ≤ r'.executor.loss_streak t.canonical_id) := by
  obtain ⟨hbelow, hlosing⟩ := h hthreshold t.canonical_id
  have hallows := @allows_of_step cfg backing r r' t hstep t.canonical_id
  obtain ⟨hexecutor, hrealized, hstore⟩ := hstep
  obtain ⟨x, hx, hreal⟩ := realized_of_loss hloss
  rw [hexecutor, hrealized, loss_streak_of_loss hloss, Function.update_self, hreal,
    List.singleton_append, losing_cons_of_neg hx]
  by_cases htrips : r.executor.trips cfg t
  · -- the store does not raise, and the mapping is not traded any more
    rw [if_pos htrips.2]
    rw [if_pos htrips] at hstore
    refine ⟨hthreshold, fun hallowed => ?_⟩
    have hdisabled := @disables_allows backing _ _ _ t.canonical_id _ _ hstore
    rw [hdisabled.2 ((hok hthreshold).2 htrips)] at hallowed
    cases hallowed
  · have hunder : ¬ (0 < cfg.loss_streak_disable_threshold ∧
        cfg.loss_streak_disable_threshold ≤ r.executor.loss_streak t.canonical_id + 1) :=
      fun hreached => htrips ⟨hloss, hreached⟩
    rw [if_neg hunder]
    constructor
    · have hless := not_le.mp fun hle => hunder ⟨hthreshold, hle⟩
      omega
    · intro hallowed
      exact Nat.succ_le_succ (hlosing (hallows hallowed))

/-- After anything else: no loss is added, and the count starts again with a profit alone. -/
theorem Counts.of_not_loss (h : Counts cfg backing r) (hok : LossCounts cfg r t)
    (hstep : (trades cfg backing).step r t r')
    (hthreshold : 0 < cfg.loss_streak_disable_threshold) (hloss : t.result.is_loss = false) :
    (r'.executor.loss_streak t.canonical_id : ℤ) < cfg.loss_streak_disable_threshold ∧
      (backing.allows r'.store t.canonical_id = true →
        losing (r'.realized t.canonical_id) ≤ r'.executor.loss_streak t.canonical_id) := by
  obtain ⟨hbelow, hlosing⟩ := h hthreshold t.canonical_id
  have hallows := @allows_of_step cfg backing r r' t hstep t.canonical_id
  have hrow := losing_of_not_loss (hok hthreshold).1 hloss (r.realized t.canonical_id)
  obtain ⟨hexecutor, hrealized, -⟩ := hstep
  rw [hexecutor, hrealized, Function.update_self]
  rcases @loss_streak_of_not_loss cfg r.executor t.canonical_id t.result t.now hloss with
    hcount | ⟨⟨x, hx, hprofit⟩, hcount⟩
  · -- the count stays, and the losses in a row stay or end
    rw [hcount]
    refine ⟨hbelow, fun hallowed => ?_⟩
    rcases hrow with hrow | hrow
    · omega
    · rw [hrow, List.nil_append]
      exact hlosing (hallows hallowed)
  · -- the count starts again, and a profit ends the losses in a row
    rw [hcount]
    refine ⟨hthreshold, fun _ => ?_⟩
    rcases hrow with hrow | hrow
    · exact hrow.le
    · rw [hrow] at hx
      cases hx

theorem Counts.step (h : Counts cfg backing r) (hok : LossCounts cfg r t)
    (hstep : (trades cfg backing).step r t r') : Counts cfg backing r' := by
  intro hthreshold canonical_id
  by_cases hother : canonical_id = t.canonical_id
  · subst hother
    cases hloss : t.result.is_loss with
    | true => exact h.of_loss hok hstep hthreshold hloss
    | false => exact h.of_not_loss hok hstep hthreshold hloss
  · -- the other mappings keep their count, and are not given the permission
    obtain ⟨hbelow, hlosing⟩ := h hthreshold canonical_id
    have hallows := @allows_of_step cfg backing r r' t hstep canonical_id
    obtain ⟨hexecutor, hrealized, -⟩ := hstep
    rw [hexecutor, hrealized, loss_streak_other hother, Function.update_of_ne hother]
    exact ⟨hbelow, fun hallowed => hlosing (hallows hallowed)⟩

end runs

/-! ### Two losses -/

/-- A switch that trips at the second loss. -/
def two_losses : AutoExecutorConfig := { default_config with loss_streak_disable_threshold := 2 }

/-- A dollar is lost. -/
def dollar_lost (status : Execution.ExecStatus) (answer : Option Bool) : Trade :=
  ⟨"FED", .result status (-1), 1000, answer⟩

/-- The run after an execution. -/
def TradeRun.next (r : TradeRun) (t : Trade) (store : World) : TradeRun where
  executor := r.executor.after_engine two_losses t.canonical_id t.result t.now
  store := store
  realized := Function.update r.realized t.canonical_id
    (t.result.realized ++ r.realized t.canonical_id)

/-- One mapping, which may be traded. -/
def traded_world : World where
  table := ⟨[⟨"FED", "Fed cut", .confirmed, true, [], [], "", "", "", "", "", false, "", "", 0, 0,
    .absent, ""⟩], by simp⟩
  runtime := fun id => if id = "FED" then some ⟨.confirmed, true, "", "", "", ""⟩ else none

/-- Nothing was traded. -/
def untraded : TradeRun := ⟨idle, traded_world, fun _ => []⟩

/-- The first loss leaves the store alone. -/
def lost_once (status : Execution.ExecStatus) (answer : Option Bool) : TradeRun :=
  untraded.next (dollar_lost status answer) traded_world

/-- The second may change it. -/
def lost_twice (status : Execution.ExecStatus) (answer : Option Bool) (store : World) : TradeRun :=
  (lost_once status answer).next (dollar_lost status answer) store

section losses

variable {backing : Backing} {status : Execution.ExecStatus} {answer : Option Bool} {store : World}

theorem lost_twice_reachable (ok : TradeRun → Trade → Prop)
    (hok : ∀ r, ok r (dollar_lost status answer))
    (hstore : if (lost_once status answer).executor.trips two_losses (dollar_lost status answer)
      then backing.Disables "FED" ((lost_once status answer).executor.disable_reason "FED")
        traded_world answer store
      else store = traded_world) :
    Reachable ((trades two_losses backing).restrict ok) (lost_twice status answer store) := by
  have hstart : Reachable ((trades two_losses backing).restrict ok) untraded :=
    .init ⟨rfl, fun _ => rfl⟩
  have hfirst : ¬ untraded.executor.trips two_losses (dollar_lost status answer) :=
    fun htrips => absurd htrips.2.2 (show ¬ (2 : ℤ) ≤ 0 + 1 by decide)
  have hone : (trades two_losses backing).step untraded (dollar_lost status answer)
      (lost_once status answer) := by
    refine ⟨rfl, rfl, ?_⟩
    rw [if_neg hfirst]
    rfl
  exact (hstart.step ⟨hok _, hone⟩).step ⟨hok _, rfl, rfl, hstore⟩

/-- Whatever the status, the mapping is traded on as long as the store is the same. -/
theorem not_tripped (hallows : backing.allows store "FED" = true) :
    ¬ Tripped two_losses backing (lost_twice status answer store) := by
  intro htripped
  have hlast : LastLost 2 ((lost_twice status answer store).realized "FED") :=
    ⟨le_rfl, fun x hx => by
      obtain rfl : x = -1 := by simpa using (show x ∈ [(-1 : ℚ), -1] from hx)
      norm_num⟩
  have hdisabled := htripped "FED" (by decide) hlast
  rw [show backing.allows store "FED" = false from hdisabled] at hallows
  cases hallows

end losses

/-- The database raises when it is asked to disable, and the copy that `get` hands out is
    changed in its stead. -/
theorem disables_raising {w : World} {canonical_id reason : String} :
    Backing.database.Disables canonical_id reason w none w := by
  refine ⟨fallback (some (w.table.find canonical_id)),
    Raising.ends_bind.mpr (.inl ⟨none, w, ?_, ?_⟩)⟩
  · exact Raising.ends_attempt.mpr ⟨none, rfl, exec_call.mpr ⟨none, w, .inl ⟨rfl, rfl⟩, .ret _ _⟩⟩
  · refine Raising.ends_bind.mpr (.inl ⟨some (w.table.find canonical_id), w, ?_, ?_⟩)
    · exact Raising.ends_attempt.mpr ⟨_, rfl, exec_call.mpr
        ⟨some (w.table.find canonical_id), w, ⟨rfl, .inr rfl⟩, .ret _ _⟩⟩
    · exact Raising.ends_pure.mpr ⟨rfl, rfl⟩

end AutoExecutor
