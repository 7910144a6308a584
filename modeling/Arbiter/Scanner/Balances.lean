import Mathlib.Algebra.Order.Field.Rat
import Mathlib.Data.List.Chain
import Arbiter.Framework.Interleaving

/-! # Balances

  `check_balances` goes through the platforms and notes what each holds, or why it is not
  known: a balance that was good once is shown again, marked as stale. A low balance is told to
  the operator, not more often than the cooldown allows. Checks run in a loop and on demand, so
  that several may be under way.

  ## Contents

  - Section 1: the board.
  - Section 2: `check_balances`.
  - Section 3: what is shown, and what is told.
-/

namespace Balances

open LTS Effect

/-! ## Section 1: The board -/

/-- `BalanceSnapshot` -/
structure BalanceSnapshot where
  platform : String
  balance : ℚ
  timestamp : ℚ
  is_low : Bool
  source : String
  stale : Bool
  error : String

/-- The thresholds and the cooldown, and how amounts and names are spelled. -/
structure Config where
  thresholds : List (String × ℚ)
  cooldown : ℚ
  usd : ℚ → String
  upper : String → String

/-- `_thresholds.get(platform, 50.0)` -/
def Config.threshold (cfg : Config) (platform : String) : ℚ :=
  (cfg.thresholds.lookup platform).getD 50

/-- A balance that was read, or set by hand where there was none. -/
structure Read where
  balance : ℚ
  timestamp : ℚ
  source : String

/-- What the monitor knows of the platforms. An absent time of an alert is zero. -/
structure Board where
  balances : String → Option BalanceSnapshot
  last_good : String → Option BalanceSnapshot
  /-- The message, and when it was noted. -/
  last_errors : String → Option (String × ℚ)
  last_alert_time : String → ℚ
  manual_balances : String → Option ℚ
  /-- Ghost: the reads of a platform, the latest first. -/
  reads : String → List Read
  /-- Ghost: the alerts of a platform, with the read they are about, the latest first. -/
  alerts : String → List (ℚ × Read)

/-- A monitor that was just made. -/
def Board.new : Board :=
  ⟨fun _ => none, fun _ => none, fun _ => none, fun _ => 0, fun _ => none, fun _ => [], fun _ => []⟩

/-- What comes of `fetch_balance`, with the `balance_source` of the collector. -/
inductive Fetched
  | raised (exc : String)
  | answered (balance : Option ℚ) (source : String)

def DIVIDER : String := "━━━━━━━━━━━━━━━━━━━━━━"

section board

variable (cfg : Config)

/-- `_record_failure` -/
def Board.record_failure (w : Board) (platform message : String) (now : ℚ) : Board :=
  let w := { w with last_errors := Function.update w.last_errors platform (some (message, now)) }
  match w.last_good platform with
  | none => { w with balances := Function.update w.balances platform none }
  | some good =>
      { w with
        balances := Function.update w.balances platform
          (some
            { platform
              balance := good.balance
              timestamp := good.timestamp
              is_low := decide (good.balance < cfg.threshold platform)
              source := good.source
              stale := true
              error := message }) }

/-- A balance is noted. -/
def Board.note (w : Board) (platform : String) (r : Read) : Board :=
  let snap : BalanceSnapshot :=
    { platform
      balance := r.balance
      timestamp := r.timestamp
      is_low := decide (r.balance < cfg.threshold platform)
      source := r.source
      stale := false
      error := "" }
  { w with
    balances := Function.update w.balances platform (some snap)
    last_good := Function.update w.last_good platform (some snap)
    last_errors := Function.update w.last_errors platform none
    reads := Function.update w.reads platform (r :: w.reads platform) }

/-- The text of `_maybe_alert_low_balance`. -/
def low_balance (platform : String) (balance : ℚ) : String :=
  "🔴 <b>LOW BALANCE</b>\n" ++ DIVIDER ++ "\n🏦 <b>" ++ cfg.upper platform ++
    "</b>\n  Balance: <code>" ++ cfg.usd balance ++ "</code>\n  Threshold: <code>" ++
    cfg.usd (cfg.threshold platform) ++ "</code>\n" ++ DIVIDER ++
    "\n⚠️ <i>Fund this account to continue arbitrage operations.</i>"

/-- `_maybe_alert_low_balance`, up to the send: the text, if there is an alert. -/
def Board.maybe_alert_low_balance (w : Board) (platform : String) (r : Read) (now : ℚ) :
    Option String × Board :=
  if now - w.last_alert_time platform < cfg.cooldown then (none, w)
  else
    (some (low_balance cfg platform r.balance),
      { w with
        last_alert_time := Function.update w.last_alert_time platform now
        alerts := Function.update w.alerts platform ((now, r) :: w.alerts platform) })

/-- What is done with an answer before anything else is waited for; a balance set by hand stands
    in for none. -/
def Board.accept (w : Board) (platform : String) (fetched : Fetched) (timestamp now : ℚ) :
    Option String × Board :=
  match fetched with
  | .raised exc => (none, w.record_failure cfg platform exc now)
  | .answered balance source =>
      match balance.or (w.manual_balances platform) with
      | none =>
          (none, w.record_failure cfg platform
            "balance unavailable (no credentials or fetch returned None)" now)
      | some balance =>
          let r : Read := ⟨balance, timestamp, source⟩
          let w := w.note cfg platform r
          if balance < cfg.threshold platform then w.maybe_alert_low_balance cfg platform r now
          else (none, w)

end board

/-! ## Section 2: Checks -/

inductive Call
  | fetch_balance (platform : String)
  | accept (platform : String) (fetched : Fetched)
  /-- `notifier.send` -/
  | send (text : String)
  | record_failure (platform message : String)
  | set_manual_balance (platform : String) (balance : ℚ)

@[reducible] def Answer : Call → Type
  | .fetch_balance _ => Fetched
  | .accept .. => Option String
  | .send _ => Except String Unit
  | .record_failure .. => Unit
  | .set_manual_balance .. => Unit

/-- One platform. An alert that raises counts as a failure of the check. -/
def check_balance (platform : String) : Prog Call Answer Unit := do
  let fetched ← Prog.send (Call.fetch_balance platform)
  match ← Prog.send (Call.accept platform fetched) with
  | none => return ()
  | some text =>
      match ← Prog.send (Call.send text) with
      | .error exc => Prog.send (Call.record_failure platform exc)
      | .ok () => return ()

/-- `check_balances` -/
def check_balances : List String → Prog Call Answer (Option Unit)
  | [] => return some ()
  | platform :: rest => do
      check_balance platform
      check_balances rest

/-- What begins. -/
inductive Begun
  | check (platforms : List String)
  | set_manual_balance (platform : String) (balance : ℚ)

def Begun.job : Begun → Job Call Answer Unit
  | .check platforms => ⟨(), check_balances platforms⟩
  | .set_manual_balance platform balance =>
      ⟨(), do
        Prog.send (Call.set_manual_balance platform balance)
        return some ()⟩

/-- The platforms, the notifier and the clock answer anything. -/
def board_env (cfg : Config) : Env Call Answer Board where
  serve := fun w c a w' =>
    match c with
    | .fetch_balance _ => w' = w
    | .accept platform fetched =>
        ∃ timestamp now, (a, w') = w.accept cfg platform fetched timestamp now
    | .send _ => w' = w
    | .record_failure platform message => ∃ now, w' = w.record_failure cfg platform message now
    | .set_manual_balance platform balance =>
        w' = { w with manual_balances := Function.update w.manual_balances platform (some balance) }

/-- Checks that take turns. -/
def checks (cfg : Config) : System (Crew Call Answer Board Unit) (Turning Begun) :=
  interleaved (fun _ => board_env cfg) (fun _ _ => ()) Begun.job fun w => w = Board.new

/-! ## Section 3: What is shown and told -/

/-- What there is to show: the latest read, with the latest error. -/
def shown (cfg : Config) (platform : String) (read : Option Read) (error : Option (String × ℚ)) :
    Option BalanceSnapshot :=
  read.map fun r =>
    { platform
      balance := r.balance
      timestamp := r.timestamp
      is_low := decide (r.balance < cfg.threshold platform)
      source := r.source
      stale := error.isSome
      error := (error.map Prod.fst).getD "" }

/-- The board is true to what was read of a platform. -/
structure Honest (cfg : Config) (w : Board) (platform : String) : Prop where
  /-- A platform that was read is never blank; it shows its latest read, and why it is stale. -/
  balances : w.balances platform =
    shown cfg platform (w.reads platform).head? (w.last_errors platform)
  last_good : w.last_good platform = shown cfg platform (w.reads platform).head? none
  /-- An alert is about a read that was low. -/
  low : ∀ alert ∈ w.alerts platform,
    alert.2 ∈ w.reads platform ∧ alert.2.balance < cfg.threshold platform
  /-- One alert comes a cooldown after the other. -/
  spaced : (w.alerts platform).IsChain fun later earlier => cfg.cooldown ≤ later.1 - earlier.1
  last_alert_time : ∀ alert older, w.alerts platform = alert :: older →
    w.last_alert_time platform = alert.1

section honest

variable {cfg : Config} {w : Board} {platform : String}

theorem Honest.record_failure (h : Honest cfg w platform) (other message : String) (now : ℚ) :
    Honest cfg (w.record_failure cfg other message now) platform := by
  by_cases hother : platform = other
  · subst hother
    have hgood := h.last_good
    unfold Board.record_failure
    dsimp only
    cases hread : (w.reads platform).head? with
    | none =>
      rw [hread] at hgood
      rw [show w.last_good platform = none from hgood]
      refine ⟨?_, ?_, h.low, h.spaced, h.last_alert_time⟩
      · simp [hread, shown]
      · simpa [hread] using hgood
    | some r =>
      rw [hread] at hgood
      rw [show w.last_good platform = some _ from hgood]
      refine ⟨?_, ?_, h.low, h.spaced, h.last_alert_time⟩
      · simp [hread, shown]
      · simpa [hread] using hgood
  · have hframe : (w.record_failure cfg other message now).balances platform =
        w.balances platform ∧ (w.record_failure cfg other message now).last_errors platform =
        w.last_errors platform ∧ (w.record_failure cfg other message now).last_good =
        w.last_good ∧ (w.record_failure cfg other message now).reads = w.reads ∧
        (w.record_failure cfg other message now).alerts = w.alerts ∧
        (w.record_failure cfg other message now).last_alert_time = w.last_alert_time := by
      unfold Board.record_failure
      dsimp only
      split <;> simp [Function.update_of_ne hother]
    obtain ⟨hbalances, herrors, hgood, hreads, halerts, htime⟩ := hframe
    refine ⟨?_, ?_, ?_, ?_, ?_⟩
    · rw [hbalances, hreads, herrors]
      exact h.balances
    · rw [hgood, hreads]
      exact h.last_good
    · rw [halerts, hreads]
      exact h.low
    · rw [halerts]
      exact h.spaced
    · rw [halerts, htime]
      exact h.last_alert_time

theorem Honest.note (h : Honest cfg w platform) (other : String) (r : Read) :
    Honest cfg (w.note cfg other r) platform := by
  unfold Board.note
  by_cases hother : platform = other
  · subst hother
    refine ⟨?_, ?_, ?_, h.spaced, h.last_alert_time⟩
    · simp [shown]
    · simp [shown]
    · intro alert halert
      obtain ⟨hread, hlow⟩ := h.low alert halert
      refine ⟨?_, hlow⟩
      simp [hread]
  · refine ⟨?_, ?_, ?_, h.spaced, h.last_alert_time⟩
    · simpa [Function.update_of_ne hother] using h.balances
    · simpa [Function.update_of_ne hother] using h.last_good
    · simpa [Function.update_of_ne hother] using h.low

theorem Honest.maybe_alert_low_balance (h : Honest cfg w platform) {other : String} {r : Read}
    (hread : r ∈ w.reads other) (hlow : r.balance < cfg.threshold other) (now : ℚ) :
    Honest cfg (w.maybe_alert_low_balance cfg other r now).2 platform := by
  unfold Board.maybe_alert_low_balance
  split
  · exact h
  · rename_i hcooldown
    by_cases hother : platform = other
    · subst hother
      refine ⟨h.balances, h.last_good, ?_, ?_, ?_⟩
      · intro alert halert
        simp only [Function.update_self, List.mem_cons] at halert
        rcases halert with rfl | halert
        · exact ⟨hread, hlow⟩
        · exact h.low alert halert
      · have hspaced := h.spaced
        have htime := h.last_alert_time
        cases halerts : w.alerts platform with
        | nil => simp
        | cons last older =>
          have hlast : w.last_alert_time platform = last.1 := htime last older halerts
          rw [halerts] at hspaced
          rw [hlast] at hcooldown
          simp only [Function.update_self, List.isChain_cons_cons]
          exact ⟨not_lt.mp hcooldown, hspaced⟩
      · intro alert older halert
        simp only [Function.update_self, List.cons.injEq] at halert
        simp [← halert.1]
    · refine ⟨h.balances, h.last_good, ?_, ?_, ?_⟩
      · simpa [Function.update_of_ne hother] using h.low
      · simpa [Function.update_of_ne hother] using h.spaced
      · simpa [Function.update_of_ne hother] using h.last_alert_time

theorem Honest.accept (h : Honest cfg w platform) (other : String) (fetched : Fetched)
    (timestamp now : ℚ) :
    Honest cfg (w.accept cfg other fetched timestamp now).2 platform := by
  unfold Board.accept
  cases fetched with
  | raised exc => exact h.record_failure other exc now
  | answered balance source =>
    dsimp only
    split
    · exact h.record_failure other _ now
    · rename_i balance hbalance
      have hnote := h.note other ⟨balance, timestamp, source⟩
      split
      · rename_i hlow
        refine hnote.maybe_alert_low_balance ?_ hlow now
        simp [Board.note]
      · exact hnote

end honest

/-- However the checks take turns: a platform shows its latest read with the latest error, and
    is never blank once it was read; alerts are about low reads, a cooldown apart. -/
theorem board_is_honest (cfg : Config) :
    Invariant (checks cfg) fun s => ∀ platform, Honest cfg s.world platform := by
  refine Invariant.of_step ?_ ?_
  · intro s hinit platform
    rw [show s.world = Board.new from hinit.1]
    exact ⟨rfl, rfl, by simp [Board.new], by simp [Board.new], by simp [Board.new]⟩
  · intro s move s' hhonest hstep platform
    have h := hhonest platform
    cases move with
    | start l =>
      rw [show s' = _ from hstep]
      exact h
    | call i =>
      obtain ⟨n, c, k, a, -, hserve, -⟩ := hstep
      cases c with
      | fetch_balance other =>
        rw [show s'.world = s.world from hserve]
        exact h
      | accept other fetched =>
        obtain ⟨timestamp, now, hserve⟩ := hserve
        rw [show s'.world = _ from congrArg Prod.snd hserve]
        exact h.accept other fetched timestamp now
      | send text =>
        rw [show s'.world = s.world from hserve]
        exact h
      | record_failure other message =>
        obtain ⟨now, hserve⟩ := hserve
        rw [show s'.world = _ from hserve]
        exact h.record_failure other message now
      | set_manual_balance other balance =>
        rw [show s'.world = _ from hserve]
        exact ⟨h.balances, h.last_good, h.low, h.spaced, h.last_alert_time⟩

end Balances
