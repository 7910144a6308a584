import Mathlib.Data.Prod.Lex
import Arbiter.Framework.Fairness
import Arbiter.Execution.EdgeFloor
import Arbiter.Execution.Incidents
import Arbiter.Safety.KillSwitch

/-! # Database Failures and the Kill Switch

  A write to the store that fails sets a flag that `_place_order_for_leg` reads, and
  trips the supervisor, unless the flag was set already. A reset disarms the switch
  first, and clears the flag after it has told everybody. The two take no common lock,
  so a failure in between is forgotten.

  The run theorem is for the runs in which no write fails between the call of a reset
  that succeeds and its return.
-/

namespace Safety

open Effect LTS Relation
open Execution (Engine OrderRequest Stub ExecutionIncident append_left place_order_for_leg
  submitting)

/-! ## Section 1: The engine and the supervisor -/

/-- A call that waits for `_state_lock`. -/
structure Waiter where
  request : Request
  /-- Ghost: how many writes had failed when it was called. -/
  seen : ℕ

/-- The call that has the lock. -/
structure Holder where
  waiter : Waiter
  rest : Sup (Except String SafetyState)
  /-- Ghost: it has disarmed the switch. -/
  disarmed : Bool

/-- The engine's side, the supervisor's, and who waits. -/
structure Floor where
  desk : Desk
  /-- Oldest first: `asyncio.Lock` is fair. -/
  waiting : List Waiter
  holder : Option Holder
  incidents : List ExecutionIncident
  /-- Ghost: the orders submitted, newest first. -/
  sent : List OrderRequest
  /-- Ghost: how many writes have failed. -/
  failures : ℕ
  /-- Ghost: how many of them a reset has answered that was called after them. -/
  covered : ℕ

/-- Some write has failed, and no reset called after it has succeeded yet. -/
def Floor.open_failure (s : Floor) : Prop := s.covered < s.failures

/-- `_handle_db_failure`, up to the lock that its trip waits for. -/
def handle_db_failure (op : String) (arb_id canonical_id : Option String) (exc : String)
    (incident_id : String) (now : ℚ) (s : Floor) : Floor :=
  let already_blocked := s.desk.db_write_failed
  let s := { s with
    desk := { s.desk with db_write_failed := true }
    failures := s.failures + 1 }
  -- one incident and one trip, of the first failure
  if already_blocked then s
  else
    { s with
      incidents := append_left
        { incident_id := incident_id
          arb_id := (arb_id.filter (· ≠ "")).getD "DB-FAILURE"
          canonical_id := canonical_id.getD ""
          severity := .critical
          message := "ExecutionStore." ++ op ++ " failed: " ++ exc
          timestamp := now
          metadata := { event_type := "db_write_failure" }
          status := .opened } s.incidents
      waiting := s.waiting ++ [{
        request := .trip_kill "execution_engine:db_failure"
          ("ExecutionStore." ++ op ++ " write failed") true
        seen := s.failures }] }

/-- What `_place_order_for_leg` meets when it reads the flag as `blocked`. -/
def reading_flag (blocked : Bool) : Env Execution.Call Execution.Answer Unit where
  serve := fun _ c a _ =>
    match c, a with
    | .db_write_failed, a => a = blocked
    | _, _ => True

/-- The call disarms the switch. -/
def Call.disarms : Call → Bool
  | .set_state .reset _ => true
  | _ => false

/-- Who does what next. -/
inductive Move
  /-- Somebody calls the supervisor. -/
  | call (request : Request)
  /-- A write to the store fails, in any execution. -/
  | db_failure (op : String) (arb_id canonical_id : Option String) (exc incident_id : String)
      (now : ℚ)
  /-- Some execution places a leg: the read of the flag and what is submitted on it. -/
  | place_order_for_leg (eng : Engine) (platform : String) (req : OrderRequest) (use_ioc : Bool)
      (atomic_arb_stub : Option Stub) (persist_arb_id : Option String)
  /-- The oldest waiter takes the free lock. -/
  | acquire
  /-- The holder's next call is answered. -/
  | answer
  /-- The holder is done. -/
  | release

/-- The steps of whoever has the lock or is next. -/
def Move.of_lock : Move → Prop
  | .acquire => True
  | .answer => True
  | .release => True
  | _ => False

/-- Every interleaving. -/
def trading_floor (sup : Supervisor) : System Floor Move where
  init := fun s =>
    booted s.desk ∧ s.desk.db_write_failed = false ∧ s.waiting = [] ∧ s.holder = none ∧
      s.failures = 0 ∧ s.covered = 0
  step := fun s move s' =>
    match move with
    | .call request => s' = { s with waiting := s.waiting ++ [⟨request, s.failures⟩] }
    | .db_failure op arb_id canonical_id exc incident_id now =>
        s' = handle_db_failure op arb_id canonical_id exc incident_id now s
    | .place_order_for_leg eng platform req use_ioc atomic_arb_stub persist_arb_id =>
        ∃ r sent, Exec (submitting (reading_flag s.desk.db_write_failed))
          (place_order_for_leg eng platform req use_ioc atomic_arb_stub persist_arb_id)
          ((), s.sent) r ((), sent) ∧ s' = { s with sent := sent }
    | .acquire => ∃ w rest, s.holder = none ∧ s.waiting = w :: rest ∧
        s' = { s with waiting := rest, holder := some ⟨w, serve_request sup w.request, false⟩ }
    -- the holder's call is answered, and a disarming one covers the failures it has seen
    | .answer => ∃ h c k a desk, s.holder = some h ∧ h.rest = .call c k ∧
        desk_env.serve s.desk c a desk ∧
        s' = { s with
          desk := desk
          holder := some { h with rest := k a, disarmed := h.disarmed || c.disarms }
          covered := if c.disarms then max s.covered h.waiter.seen else s.covered }
    | .release => ∃ h r, s.holder = some h ∧ h.rest = .ret r ∧ s' = { s with holder := none }

/-- No write fails between the call of a reset that succeeds and its return: none while
    it holds the lock disarmed, and none before it disarms. -/
def Apart (s : Floor) : Move → Prop
  | .db_failure .. => ∀ h, s.holder = some h → h.disarmed = false
  | .answer => ∀ h c k, s.holder = some h → h.rest = .call c k → c.disarms = true →
      h.waiter.seen = s.failures
  | _ => True

/-! ## Section 2: What a holder may ask for -/

variable {sup : Supervisor} {w w' : Desk}

/-- The calls that neither replace the state nor clear the flag. -/
def Harmless : Call → Prop
  | .set_state .. => False
  | .clear_db_write_failed => False
  | _ => True

/-- The calls of what can only arm. -/
def Arming : Call → Prop
  | .set_state change state => change ≠ .reset ∧ state.armed = true
  | .clear_db_write_failed => False
  | _ => True

/-- What is left of a reset that has disarmed: it keeps the state and ends with the flag
    clear. -/
def Clearing {α : Type} (p : Sup α) (w : Desk) : Prop :=
  p.Calls NoChange ∧ wp desk_env p (fun _ w' => w'.db_write_failed = false) w

/-- A reset that has not disarmed yet: nothing changes until it does. -/
def Disarming {α : Type} : Sup α → Prop
  | .ret _ => True
  | .call c k =>
      if c.disarms then ∀ a w, Clearing (k a) w else Harmless c ∧ ∀ a, Disarming (k a)

theorem Harmless.noChange {c : Call} (hc : Harmless c) : NoChange c := by
  cases c with
  | set_state change state => exact hc
  | _ => trivial

theorem Harmless.arming {c : Call} (hc : Harmless c) : Arming c := by
  cases c with
  | set_state change state => exact hc.elim
  | clear_db_write_failed => exact hc
  | _ => trivial

theorem Harmless.disarms {c : Call} (hc : Harmless c) : c.disarms = false := by
  cases c with
  | set_state change state => exact hc.elim
  | _ => rfl

theorem serve_state {c : Call} {a : Answer c} (hc : NoChange c) (h : desk_env.serve w c a w') :
    w'.state = w.state :=
  amid_state hc ⟨w, .refl, h⟩

/-- No answer sets the flag, and only one call clears it. -/
theorem serve_flag {c : Call} {a : Answer c} (h : desk_env.serve w c a w') :
    w'.db_write_failed = w.db_write_failed ∨
      (c = .clear_db_write_failed ∧ w'.db_write_failed = false) := by
  cases c with
  | clear_db_write_failed =>
    rw [show w' = _ from h]
    exact .inr ⟨rfl, rfl⟩
  | set_state change state => rw [show w' = _ from h]; exact .inl rfl
  | cancel_all platform => rw [show w' = _ from h]; exact .inl rfl
  | redis_set =>
    rcases h with rfl | ⟨-, rfl⟩
    · exact .inl rfl
    · exact .inl rfl
  | redis_delete =>
    rcases h with rfl | ⟨-, rfl⟩
    · exact .inl rfl
    · exact .inl rfl
  | state => rw [h.2]; exact .inl rfl
  | redis_get => rw [h.2]; exact .inl rfl
  | db_write_failed => rw [h.2]; exact .inl rfl
  | time => rw [show w' = w from h]; exact .inl rfl
  | send key => rw [show w' = w from h]; exact .inl rfl
  | insert_safety_event event state counts => rw [show w' = w from h]; exact .inl rfl
  | list_events => rw [show w' = w from h]; exact .inl rfl
  | publish state => rw [show w' = w from h]; exact .inl rfl

/-- What can only arm keeps an armed switch, and the flag. -/
theorem Arming.serve {c : Call} {a : Answer c} (hc : Arming c) (h : desk_env.serve w c a w') :
    (w.state.armed = true → w'.state.armed = true) ∧ w'.db_write_failed = w.db_write_failed := by
  constructor
  · intro harmed
    cases c with
    | set_state change state =>
      rw [show w' = _ from h]
      exact hc.2
    | _ =>
      rw [serve_state (by trivial) h]
      exact harmed
  · rcases serve_flag h with hkept | ⟨rfl, -⟩
    · exact hkept
    · exact hc.elim

/-! ### The bodies -/

private theorem set_armed_harmless (sup : Supervisor) (armed : Bool) :
    (set_armed sup armed).Calls Harmless := by
  unfold set_armed
  rw [calls_ite]
  constructor
  · intro _
    cases armed with
    | true => exact ⟨trivial, fun _ => calls_pure ()⟩
    | false => exact ⟨trivial, fun _ => calls_pure ()⟩
  · intro _
    exact calls_pure ()

private theorem finish_trip_harmless (trip_by reason : String) (persist : Bool)
    (state : SafetyState) (counts : List (String × ℕ)) :
    (finish_trip sup trip_by reason persist state counts).Calls Harmless := by
  have hpersist : (persist_armed sup persist).Calls Harmless := by
    unfold persist_armed
    rw [calls_ite]
    exact ⟨fun _ => set_armed_harmless sup true, fun _ => calls_ret ()⟩
  unfold finish_trip
  apply Prog.Calls.bind (calls_send.2 trivial)
  intro _
  apply hpersist.bind
  intro _
  exact audited_calls sup trivial trivial

theorem trip_kill_arming (sup : Supervisor) (trip_by reason : String) (persist : Bool) :
    (trip_kill sup trip_by reason persist).Calls Arming := by
  unfold trip_kill
  apply Prog.Calls.bind (calls_send.2 trivial)
  intro state
  rw [calls_ite]
  constructor
  · intro _
    exact calls_pure _
  · intro _
    apply Prog.Calls.bind (calls_send.2 trivial)
    intro now
    have htrip : Arming (.set_state .trip (.tripped sup trip_by reason now)) :=
      ⟨fun h => absurd h (by decide), rfl⟩
    apply Prog.Calls.bind (calls_send.2 htrip)
    intro _
    apply (cancel_all_adapters_calls (fun _ => trivial) sup.adapters).bind
    intro counts
    exact (finish_trip_harmless _ _ _ _ _).mono fun _ => Harmless.arming

theorem restore_armed_arming (sup : Supervisor) (prior_reason : Option String) :
    (restore_armed sup prior_reason).Calls Arming := by
  unfold restore_armed
  apply Prog.Calls.bind (calls_send.2 trivial)
  intro state
  rw [calls_ite]
  constructor
  · intro _
    exact calls_pure _
  · intro _
    apply Prog.Calls.bind (calls_send.2 trivial)
    intro now
    apply Prog.Calls.bind (calls_send.2 ⟨fun h => absurd h (by decide), rfl⟩)
    intro _
    apply Prog.Calls.bind (calls_send.2 trivial)
    intro _
    exact audited_calls sup trivial trivial

theorem finish_reset_clearing (sup : Supervisor) (reset_by note : String) (state : SafetyState)
    (w : Desk) : Clearing (finish_reset sup reset_by note state) w := by
  constructor
  · exact (finish_reset_calls sup reset_by note state).mono fun _ => Still.noChange
  · unfold finish_reset
    refine wp_bind.2 (wp_send.2 fun _ w₁ _ => ?_)
    refine wp_bind.2 fun _ w₂ _ => wp_bind.2 fun _ w₃ _ => wp_bind.2 (wp_send.2 ?_)
    rintro blocked w₄ ⟨hread, rfl⟩
    rw [wp_ite]
    constructor
    · intro _
      refine wp_bind.2 (wp_send.2 fun _ w₅ hclear => wp_bind.2 (wp_send.2 fun _ w₆ hsame => ?_))
      rw [wp_pure, show w₆ = w₅ from hsame, show w₅ = _ from hclear]
    · intro hunblocked
      refine wp_bind.2 (wp_send.2 fun _ w₅ hsame => ?_)
      rw [wp_pure, show w₅ = w₄ from hsame, ← hread]
      simpa using hunblocked

theorem reset_kill_disarming (sup : Supervisor) (reset_by note : String) :
    Disarming (reset_kill sup reset_by note) := by
  refine ⟨trivial, fun now => ⟨trivial, fun state => ?_⟩⟩
  show Disarming (if state.armed = true ∧ now < state.cooldown_until then _ else _)
  split
  · trivial
  · intro _ w
    exact finish_reset_clearing sup reset_by note _ w

/-! ## Section 3: What the holder keeps -/

def Request.is_trip : Request → Bool
  | .trip_kill .. => true
  | _ => false

/-- The program of the holder is what is left of its request. -/
def Holder.Sound (h : Holder) (w : Desk) : Prop :=
  match h.waiter.request with
  | .trip_kill .. => h.disarmed = false ∧ h.rest.Calls Arming ∧
      wp (desk_env.amid Meanwhile) h.rest (fun _ w' => w'.state.armed = true) w
  | .restore _ => h.disarmed = false ∧ h.rest.Calls Arming
  | .reset_kill .. => if h.disarmed then Clearing h.rest w else Disarming h.rest

theorem Holder.sound_acquired (sup : Supervisor) (waiter : Waiter) (w : Desk) :
    Holder.Sound ⟨waiter, serve_request sup waiter.request, false⟩ w := by
  obtain ⟨request, seen⟩ := waiter
  cases request with
  | trip_kill trip_by reason persist =>
    exact ⟨rfl, trip_kill_arming sup _ _ _, trip_kill_armed sup _ _ _ w⟩
  | restore prior_reason => exact ⟨rfl, restore_armed_arming sup prior_reason⟩
  | reset_kill reset_by note => exact reset_kill_disarming sup reset_by note

/-- The holder after an answer. -/
def Holder.answered (h : Holder) (c : Call) (rest : Sup (Except String SafetyState)) : Holder :=
  { h with rest := rest, disarmed := h.disarmed || c.disarms }

/-- What one answer does to the holder, the switch and the flag. -/
structure Answered (h : Holder) (c : Call) (rest : Sup (Except String SafetyState))
    (w w' : Desk) : Prop where
  sound : (h.answered c rest).Sound w'
  armed : c.disarms = false → w.state.armed = true → w'.state.armed = true
  flag : h.disarmed = false → w'.db_write_failed = w.db_write_failed

/-- A call of what can only arm is not a reset's. -/
theorem Arming.disarms {c : Call} (hc : Arming c) : c.disarms = false := by
  cases c with
  | set_state change state =>
    cases change with
    | reset => exact absurd rfl hc.1
    | trip => rfl
    | restore => rfl
  | _ => rfl

theorem Holder.Sound.answer {h : Holder} {c : Call} {k : Answer c → Sup _} {a : Answer c}
    (hsound : h.Sound w) (hrest : h.rest = .call c k) (hs : desk_env.serve w c a w') :
    Answered h c (k a) w w' := by
  obtain ⟨⟨request, seen⟩, rest, disarmed⟩ := h
  obtain rfl : rest = .call c k := hrest
  cases request with
  | trip_kill trip_by reason persist =>
    obtain ⟨rfl, hcalls, harms⟩ := hsound
    have hkeep := Arming.serve hcalls.1 hs
    have harms' := wp_call.1 harms a w' ⟨w, .refl, hs⟩
    have hquiet : c.disarms = false := Arming.disarms hcalls.1
    have hsound' : (Holder.answered ⟨⟨.trip_kill trip_by reason persist, seen⟩, .call c k, false⟩
        c (k a)).Sound w' := ⟨by simpa [Holder.answered] using hquiet, hcalls.2 a, harms'⟩
    exact ⟨hsound', fun _ => hkeep.1, fun _ => hkeep.2⟩
  | restore prior_reason =>
    obtain ⟨rfl, hcalls⟩ := hsound
    have hkeep := Arming.serve hcalls.1 hs
    have hquiet : c.disarms = false := Arming.disarms hcalls.1
    have hsound' : (Holder.answered ⟨⟨.restore prior_reason, seen⟩, .call c k, false⟩
        c (k a)).Sound w' := ⟨by simpa [Holder.answered] using hquiet, hcalls.2 a⟩
    exact ⟨hsound', fun _ => hkeep.1, fun _ => hkeep.2⟩
  | reset_kill reset_by note =>
    cases disarmed with
    | true =>
      -- the switch is down already; what is left keeps it so
      obtain ⟨hcalls, hclear⟩ : Clearing (.call c k) w := hsound
      have hstate := serve_state hcalls.1 hs
      have hclear' := wp_call.1 hclear a w' hs
      refine ⟨⟨hcalls.2 a, hclear'⟩, fun _ harmed => ?_, fun hno => Bool.noConfusion hno⟩
      rw [hstate]
      exact harmed
    | false =>
      have hdis : Disarming (.call c k) := hsound
      unfold Disarming at hdis
      by_cases hc : c.disarms = true
      · rw [if_pos hc] at hdis
        have hflag : w'.db_write_failed = w.db_write_failed := by
          rcases serve_flag hs with hkept | ⟨rfl, -⟩
          · exact hkept
          · exact absurd hc (by decide)
        refine ⟨?_, fun hno => absurd (hno.symm.trans hc) (by decide), fun _ => hflag⟩
        show if (false || c.disarms) = true then Clearing (k a) w' else _
        rw [if_pos (by simpa using hc)]
        exact hdis a w'
      · rw [if_neg hc] at hdis
        obtain ⟨hharmless, hdis'⟩ := hdis
        have hkeep := hharmless.arming.serve hs
        refine ⟨?_, fun _ => hkeep.1, fun _ => hkeep.2⟩
        show if (false || c.disarms) = true then _ else Disarming (k a)
        rw [if_neg (by simpa using hc)]
        exact hdis' a

/-- A failure in between does not unsettle a holder that has not disarmed. -/
theorem Holder.Sound.db_failure {h : Holder} (hsound : h.Sound w) (hno : h.disarmed = false) :
    h.Sound { w with db_write_failed := true } := by
  obtain ⟨⟨request, seen⟩, rest, disarmed⟩ := h
  obtain rfl : disarmed = false := hno
  cases request with
  | trip_kill trip_by reason persist =>
    obtain ⟨-, hcalls, harms⟩ := hsound
    refine ⟨rfl, hcalls, ?_⟩
    cases rest with
    | ret r =>
      have harmed : w.state.armed = true :=
        (wp_ret (Q := fun _ (w : Desk) => w.state.armed = true)).1 harms
      exact (wp_ret (Q := fun _ (w : Desk) => w.state.armed = true)).2 harmed
    | call c k =>
      refine wp_call.2 fun a w' hamid => ?_
      obtain ⟨w₁, hmeanwhile, hs⟩ := hamid
      exact wp_call.1 harms a w' ⟨w₁, .head .db_failure hmeanwhile, hs⟩
  | restore prior_reason => exact hsound
  | reset_kill reset_by note => exact hsound

/-! ## Section 4: Every interleaving -/

/-- A trip has the lock, or waits behind `ahead - 1` others. -/
def Floor.TripComing (s : Floor) : ℕ → Prop
  | 0 => ∃ h, s.holder = some h ∧ h.waiter.request.is_trip = true
  | n + 1 => ∃ before waiter after, s.waiting = before ++ waiter :: after ∧ before.length = n ∧
      waiter.request.is_trip = true

/-- A reset that has disarmed holds the lock. -/
def Floor.resetting (s : Floor) : Prop := ∃ h, s.holder = some h ∧ h.disarmed = true

/-- What every step keeps while no failure meets a reset. -/
structure Guarded (s : Floor) : Prop where
  holder : ∀ h, s.holder = some h → h.Sound s.desk
  covered_le : s.covered ≤ s.failures
  /-- An open failure has set the flag, and nobody is about to clear it. -/
  blocked : s.open_failure → s.desk.db_write_failed = true ∧ ¬ s.resetting
  /-- An open failure has armed the switch, or is about to. -/
  armed : s.open_failure → s.desk.state.armed = true ∨ ∃ n, s.TripComing n
  /-- The flag is there for a reason. -/
  flagged : s.desk.db_write_failed = true → s.open_failure ∨ s.resetting

/-- The system in which no write failure meets a reset that succeeds. -/
abbrev apart (sup : Supervisor) : System Floor Move := (trading_floor sup).restrict Apart

/-- More waiters behind do not hold a trip up. -/
theorem Floor.TripComing.append {s s' : Floor} {more : List Waiter} {n : ℕ} (h : s.TripComing n)
    (hwaiting : s'.waiting = s.waiting ++ more) (hholder : s'.holder = s.holder) :
    s'.TripComing n := by
  cases n with
  | zero =>
    obtain ⟨holder, heq, htrip⟩ := h
    exact ⟨holder, hholder.trans heq, htrip⟩
  | succ n =>
    obtain ⟨before, waiter, after, heq, hlen, htrip⟩ := h
    refine ⟨before, waiter, after ++ more, ?_, hlen, htrip⟩
    rw [hwaiting, heq]
    simp

section steps

variable {s s' : Floor}

private theorem Guarded.call (hg : Guarded s) {request : Request}
    (hs : (trading_floor sup).step s (.call request) s') : Guarded s' := by
  obtain rfl : s' = _ := hs
  refine ⟨hg.holder, hg.covered_le, hg.blocked, fun hopen => ?_, hg.flagged⟩
  rcases hg.armed hopen with harmed | ⟨n, hcoming⟩
  · exact .inl harmed
  · exact .inr ⟨n, hcoming.append rfl rfl⟩

private theorem Guarded.place (hg : Guarded s) {eng : Engine} {platform : String}
    {req : OrderRequest} {use_ioc : Bool} {stub : Option Stub} {persist_arb_id : Option String}
    (hs : (trading_floor sup).step s
      (.place_order_for_leg eng platform req use_ioc stub persist_arb_id) s') : Guarded s' := by
  obtain ⟨r, sent, -, rfl⟩ := hs
  refine ⟨hg.holder, hg.covered_le, hg.blocked, fun hopen => ?_, hg.flagged⟩
  rcases hg.armed hopen with harmed | ⟨n, hcoming⟩
  · exact .inl harmed
  · exact .inr ⟨n, hcoming.append (List.append_nil _).symm rfl⟩

private theorem Guarded.acquire (hg : Guarded s) (hs : (trading_floor sup).step s .acquire s') :
    Guarded s' := by
  obtain ⟨waiter, rest, hfree, hwaiting, rfl⟩ := hs
  refine ⟨?_, hg.covered_le, ?_, ?_, ?_⟩
  · intro h heq
    cases heq
    exact Holder.sound_acquired sup waiter s.desk
  · intro hopen
    refine ⟨(hg.blocked hopen).1, ?_⟩
    rintro ⟨h, heq, hdisarmed⟩
    cases heq
    exact Bool.noConfusion hdisarmed
  · intro hopen
    rcases hg.armed hopen with harmed | ⟨n, hcoming⟩
    · exact .inl harmed
    · right
      -- one waiter fewer before the trip, or it is the trip's turn
      cases n with
      | zero =>
        obtain ⟨h, heq, -⟩ := hcoming
        exact absurd (hfree.symm.trans heq) (by simp)
      | succ n =>
        obtain ⟨before, trip, after, heq, hlen, htrip⟩ := hcoming
        cases before with
        | nil =>
          obtain ⟨rfl, rfl⟩ := List.cons.inj (hwaiting.symm.trans heq)
          exact ⟨0, _, rfl, htrip⟩
        | cons first before =>
          obtain ⟨rfl, rfl⟩ := List.cons.inj (hwaiting.symm.trans heq)
          exact ⟨before.length + 1, before, trip, after, rfl, rfl, htrip⟩
  · intro hflag
    rcases hg.flagged hflag with hopen | ⟨h, heq, -⟩
    · exact .inl hopen
    · exact absurd (hfree.symm.trans heq) (by simp)

private theorem Guarded.db_failure (hg : Guarded s) {op : String}
    {arb_id canonical_id : Option String} {exc incident_id : String} {now : ℚ}
    (hapart : Apart s (.db_failure op arb_id canonical_id exc incident_id now)) :
    Guarded (handle_db_failure op arb_id canonical_id exc incident_id now s) := by
  have hno : ¬ s.resetting := by
    rintro ⟨h, heq, hdisarmed⟩
    exact absurd ((hapart h heq).symm.trans hdisarmed) (by decide)
  have hle := hg.covered_le
  have hsound : ∀ h, s.holder = some h → h.Sound { s.desk with db_write_failed := true } :=
    fun h heq => (hg.holder h heq).db_failure (hapart h heq)
  unfold handle_db_failure
  by_cases hflag : s.desk.db_write_failed = true
  · -- a repeated failure: the first one's trip is armed or on its way
    have hopen : s.open_failure := (hg.flagged hflag).resolve_right hno
    rw [if_pos hflag]
    refine ⟨hsound, Nat.le_succ_of_le hle, fun _ => ⟨rfl, hno⟩, fun _ => hg.armed hopen, fun _ => .inl ?_⟩
    exact Nat.lt_succ_of_le hle
  · rw [if_neg hflag]
    refine ⟨hsound, Nat.le_succ_of_le hle, fun _ => ⟨rfl, hno⟩, fun _ => .inr ?_, fun _ => .inl ?_⟩
    · exact ⟨s.waiting.length + 1, s.waiting, _, [], rfl, rfl, rfl⟩
    · exact Nat.lt_succ_of_le hle

private theorem Guarded.answer (hg : Guarded s) (hapart : Apart s .answer)
    (hs : (trading_floor sup).step s .answer s') : Guarded s' := by
  obtain ⟨h, c, k, a, desk, hholder, hrest, hserve, rfl⟩ := hs
  have hanswered := (hg.holder h hholder).answer hrest hserve
  by_cases hc : c.disarms = true
  · -- the reset disarms: it was called after every failure there was
    have hseen := hapart h c k hholder hrest hc
    have hclosed : ¬ max s.covered h.waiter.seen < s.failures := by omega
    have hdisarmed : (h.answered c (k a)).disarmed = true := by simp [Holder.answered, hc]
    have hle := hg.covered_le
    rw [if_pos hc]
    refine ⟨?_, by simpa [hseen] using hle, fun hopen => absurd hopen hclosed,
      fun hopen => absurd hopen hclosed, fun _ => .inr ⟨_, rfl, hdisarmed⟩⟩
    rintro _ ⟨⟩
    exact hanswered.sound
  · have hc' : c.disarms = false := by simpa using hc
    have hsame : (h.answered c (k a)).disarmed = h.disarmed := by simp [Holder.answered, hc']
    rw [if_neg hc]
    refine ⟨?_, hg.covered_le, ?_, ?_, ?_⟩
    · rintro _ ⟨⟩
      exact hanswered.sound
    · intro hopen
      obtain ⟨hflag, hno⟩ := hg.blocked hopen
      have hheld : h.disarmed = false := by
        by_contra hne
        exact hno ⟨h, hholder, by simpa using hne⟩
      refine ⟨(hanswered.flag hheld).trans hflag, ?_⟩
      rintro ⟨_, ⟨⟩, hdisarmed⟩
      exact absurd (hheld.symm.trans (hsame.symm.trans hdisarmed)) (by decide)
    · intro hopen
      rcases hg.armed hopen with harmed | ⟨n, hcoming⟩
      · exact .inl (hanswered.armed hc' harmed)
      · right
        cases n with
        | zero =>
          obtain ⟨trip, heq, htrip⟩ := hcoming
          obtain rfl := Option.some.inj (hholder.symm.trans heq)
          exact ⟨0, _, rfl, htrip⟩
        | succ n => exact ⟨n + 1, hcoming⟩
    · intro hflag
      have hbefore : s.desk.db_write_failed = true := by
        rcases serve_flag hserve with hkept | ⟨-, hclear⟩
        · exact hkept.symm.trans hflag
        · exact absurd (hclear.symm.trans hflag) (by decide)
      rcases hg.flagged hbefore with hopen | ⟨reset, heq, hdisarmed⟩
      · exact .inl hopen
      · obtain rfl := Option.some.inj (hholder.symm.trans heq)
        exact .inr ⟨_, rfl, hsame.trans hdisarmed⟩

/-- A trip that is over has armed; a reset that is over has cleared the flag. -/
theorem Holder.Sound.over {h : Holder} {w : Desk} {r : Except String SafetyState}
    (hsound : h.Sound w) (hrest : h.rest = .ret r) :
    (h.waiter.request.is_trip = true → w.state.armed = true) ∧
      (h.disarmed = true → w.db_write_failed = false) := by
  obtain ⟨⟨request, seen⟩, rest, disarmed⟩ := h
  obtain rfl : rest = .ret r := hrest
  cases request with
  | trip_kill trip_by reason persist =>
    obtain ⟨rfl, -, harms⟩ := hsound
    exact ⟨fun _ => (wp_ret (Q := fun _ (w : Desk) => w.state.armed = true)).1 harms,
      fun hno => Bool.noConfusion hno⟩
  | restore prior_reason =>
    obtain ⟨rfl, -⟩ := hsound
    exact ⟨fun hno => Bool.noConfusion hno, fun hno => Bool.noConfusion hno⟩
  | reset_kill reset_by note =>
    refine ⟨fun hno => Bool.noConfusion hno, ?_⟩
    rintro rfl
    have hclear : Clearing (.ret r) w := hsound
    exact (wp_ret (Q := fun _ (w : Desk) => w.db_write_failed = false)).1 hclear.2

private theorem Guarded.release (hg : Guarded s) (hs : (trading_floor sup).step s .release s') :
    Guarded s' := by
  obtain ⟨h, r, hholder, hrest, rfl⟩ := hs
  obtain ⟨harms, hclears⟩ := (hg.holder h hholder).over hrest
  refine ⟨fun _ heq => absurd heq (by simp), hg.covered_le, ?_, ?_, ?_⟩
  · intro hopen
    refine ⟨(hg.blocked hopen).1, ?_⟩
    rintro ⟨_, heq, -⟩
    exact absurd heq (by simp)
  · intro hopen
    rcases hg.armed hopen with harmed | ⟨n, hcoming⟩
    · exact .inl harmed
    · cases n with
      | zero =>
        obtain ⟨trip, heq, htrip⟩ := hcoming
        obtain rfl := Option.some.inj (hholder.symm.trans heq)
        exact .inl (harms htrip)
      | succ n => exact .inr ⟨n + 1, hcoming⟩
  · intro hflag
    rcases hg.flagged hflag with hopen | ⟨reset, heq, hdisarmed⟩
    · exact .inl hopen
    · obtain rfl := Option.some.inj (hholder.symm.trans heq)
      exact absurd ((hclears hdisarmed).symm.trans hflag) (by decide)

theorem Guarded.step (hg : Guarded s) {move : Move} (hs : (apart sup).step s move s') :
    Guarded s' := by
  obtain ⟨hapart, hs⟩ := hs
  cases move with
  | call request => exact hg.call hs
  | db_failure op arb_id canonical_id exc incident_id now =>
    obtain rfl : s' = _ := hs
    exact hg.db_failure hapart
  | place_order_for_leg eng platform req use_ioc stub persist_arb_id => exact hg.place hs
  | acquire => exact hg.acquire hs
  | answer => exact hg.answer hapart hs
  | release => exact hg.release hs

end steps

theorem guarded_invariant (sup : Supervisor) : Invariant (apart sup) Guarded := by
  apply Invariant.of_step
  · rintro s ⟨-, hflag, -, hholder, hfailures, hcovered⟩
    have hclosed : ¬ s.open_failure := by
      unfold Floor.open_failure
      omega
    refine ⟨fun h heq => ?_, by omega, fun hopen => absurd hopen hclosed,
      fun hopen => absurd hopen hclosed, fun hset => ?_⟩
    · exact absurd (hholder.symm.trans heq) (by simp)
    · exact absurd (hflag.symm.trans hset) (by decide)
  · exact fun s move s' hg hs => hg.step hs

/-! ## Section 5: The law -/

/-- With the flag set, placing a leg submits nothing. -/
theorem place_order_for_leg_blocked (eng : Engine) (platform : String) (req : OrderRequest)
    (use_ioc : Bool) (stub : Option Stub) (persist_arb_id : Option String)
    (w : Unit × List OrderRequest) :
    wp (submitting (reading_flag true))
      (place_order_for_leg eng platform req use_ioc stub persist_arb_id)
      (fun _ w' => w'.2 = w.2) w := by
  unfold place_order_for_leg
  cases eng.adapters platform with
  | none => exact wp_pure.2 rfl
  | some adapter =>
    refine wp_bind.2 (wp_send.2 fun blocked w₁ hs => ?_)
    obtain ⟨hblocked, hlog⟩ := hs
    obtain rfl : blocked = true := hblocked
    exact wp_pure.2 hlog

/-- Somebody holds the lock or waits for it. -/
def Floor.lock_wanted (s : Floor) : Prop := s.holder ≠ none ∨ s.waiting ≠ []

/-- The switch is armed, or every failure has been answered. -/
def Floor.settled (s : Floor) : Prop := s.desk.state.armed = true ∨ ¬ s.open_failure

section law

variable {s s' : Floor}

/-- While a failure is open, no step submits anything. -/
theorem Guarded.nothing_sent (hg : Guarded s) (hopen : s.open_failure) {move : Move}
    (hs : (trading_floor sup).step s move s') : s'.sent = s.sent := by
  cases move with
  | place_order_for_leg eng platform req use_ioc stub persist_arb_id =>
    obtain ⟨r, sent, hrun, rfl⟩ := hs
    rw [(hg.blocked hopen).1] at hrun
    exact place_order_for_leg_blocked eng platform req use_ioc stub persist_arb_id _ _ _ hrun
  | db_failure op arb_id canonical_id exc incident_id now =>
    obtain rfl : s' = _ := hs
    unfold handle_db_failure
    by_cases hflag : s.desk.db_write_failed = true
    · rw [if_pos hflag]
    · rw [if_neg hflag]
  | call request =>
    obtain rfl : s' = _ := hs
    rfl
  | acquire =>
    obtain ⟨waiter, rest, -, -, rfl⟩ := hs
    rfl
  | answer =>
    obtain ⟨h, c, k, a, desk, -, -, -, rfl⟩ := hs
    rfl
  | release =>
    obtain ⟨h, r, -, -, rfl⟩ := hs
    rfl

/-- A failure leaves the switch and the lock's holder alone, and may add a waiter. -/
theorem handle_db_failure_keeps (op : String) (arb_id canonical_id : Option String)
    (exc incident_id : String) (now : ℚ) (s : Floor) :
    (handle_db_failure op arb_id canonical_id exc incident_id now s).desk.state = s.desk.state ∧
      (handle_db_failure op arb_id canonical_id exc incident_id now s).holder = s.holder ∧
      ∃ more, (handle_db_failure op arb_id canonical_id exc incident_id now s).waiting =
        s.waiting ++ more := by
  unfold handle_db_failure
  by_cases hflag : s.desk.db_write_failed = true
  · rw [if_pos hflag]
    exact ⟨rfl, rfl, [], (List.append_nil _).symm⟩
  · rw [if_neg hflag]
    exact ⟨rfl, rfl, _, rfl⟩

/-- Only the lock's steps touch the switch. -/
theorem step_elsewhere {move : Move} (hs : (trading_floor sup).step s move s')
    (hmove : ¬ move.of_lock) :
    s'.desk.state = s.desk.state ∧ s'.holder = s.holder ∧ ∃ more, s'.waiting = s.waiting ++ more := by
  cases move with
  | call request =>
    obtain rfl : s' = _ := hs
    exact ⟨rfl, rfl, _, rfl⟩
  | db_failure op arb_id canonical_id exc incident_id now =>
    obtain rfl : s' = _ := hs
    exact handle_db_failure_keeps op arb_id canonical_id exc incident_id now s
  | place_order_for_leg eng platform req use_ioc stub persist_arb_id =>
    obtain ⟨r, sent, -, rfl⟩ := hs
    exact ⟨rfl, rfl, [], (List.append_nil _).symm⟩
  | acquire => exact absurd trivial hmove
  | answer => exact absurd trivial hmove
  | release => exact absurd trivial hmove

/-- An armed switch stays armed until a reset closes the failures. -/
theorem Guarded.stays_settled (hg : Guarded s) (harmed : s.desk.state.armed = true) {move : Move}
    (hs : (apart sup).step s move s') : s'.settled := by
  obtain ⟨hapart, hs⟩ := hs
  by_cases hmove : move.of_lock
  · cases move with
    | acquire =>
      obtain ⟨waiter, rest, -, -, rfl⟩ := hs
      exact .inl harmed
    | release =>
      obtain ⟨h, r, -, -, rfl⟩ := hs
      exact .inl harmed
    | answer =>
      obtain ⟨h, c, k, a, desk, hholder, hrest, hserve, rfl⟩ := hs
      have hanswered := (hg.holder h hholder).answer hrest hserve
      by_cases hc : c.disarms = true
      · have hseen := hapart h c k hholder hrest hc
        right
        show ¬ (if c.disarms = true then max s.covered h.waiter.seen else s.covered) < s.failures
        rw [if_pos hc]
        omega
      · exact .inl (hanswered.armed (by simpa using hc) harmed)
    | call request => exact hmove.elim
    | db_failure op arb_id canonical_id exc incident_id now => exact hmove.elim
    | place_order_for_leg eng platform req use_ioc stub persist_arb_id => exact hmove.elim
  · left
    rw [(step_elsewhere hs hmove).1]
    exact harmed

/-- A trip is coming, this far back and behind what is left of the holder. -/
def Floor.Waits (rank : ℕ × Option (Sup (Except String SafetyState))) (s : Floor) : Prop :=
  Guarded s ∧ s.open_failure ∧ s.TripComing rank.1 ∧ s.holder.map Holder.rest = rank.2

/-- A step of the lock brings a trip that is coming nearer, or ends with the switch
    armed. -/
theorem Floor.Waits.lock_step {rank : ℕ × Option (Sup (Except String SafetyState))}
    (hw : s.Waits rank) {move : Move} (hs : (apart sup).step s move s') (hmove : move.of_lock) :
    s'.settled ∨ ∃ rank', Prod.Lex (· < ·) Eased rank' rank ∧ s'.Waits rank' := by
  obtain ⟨hg, hopen, hcoming, hrank⟩ := hw
  have hg' := hg.step hs
  by_cases hopen' : s'.open_failure
  swap
  · exact .inl (.inr hopen')
  obtain ⟨n, holder⟩ := rank
  obtain ⟨hapart, hstep⟩ := hs
  cases move with
  | acquire =>
    obtain ⟨waiter, rest, hfree, hwaiting, rfl⟩ := hstep
    cases n with
    | zero =>
      -- the trip has the lock, which is not free
      obtain ⟨h, heq, -⟩ := hcoming
      exact absurd (hfree.symm.trans heq) (by simp)
    | succ n =>
      -- the queue is served from the front: one less is before the trip
      obtain ⟨before, trip, after, heq, rfl, htrip⟩ := hcoming
      right
      cases before with
      | nil =>
        obtain ⟨rfl, rfl⟩ := List.cons.inj (hwaiting.symm.trans heq)
        exact ⟨(0, _), .left _ _ (by simp), hg', hopen', ⟨_, rfl, htrip⟩, rfl⟩
      | cons first before =>
        obtain ⟨rfl, rfl⟩ := List.cons.inj (hwaiting.symm.trans heq)
        exact ⟨(before.length + 1, _), .left _ _ (by simp), hg', hopen',
          ⟨before, trip, after, rfl, rfl, htrip⟩, rfl⟩
  | answer =>
    obtain ⟨h, c, k, a, desk, hholder, hrest, hserve, rfl⟩ := hstep
    right
    obtain rfl : holder = some (.call c k) := by
      rw [hholder, Option.map_some, hrest] at hrank
      exact hrank.symm
    refine ⟨(n, some (k a)), .right _ (.answer c k a), hg', hopen', ?_, rfl⟩
    cases n with
    | zero =>
      obtain ⟨trip, heq, htrip⟩ := hcoming
      obtain rfl := Option.some.inj (hholder.symm.trans heq)
      exact ⟨_, rfl, htrip⟩
    | succ n => exact hcoming
  | release =>
    obtain ⟨h, r, hholder, hrest, rfl⟩ := hstep
    obtain ⟨harms, -⟩ := (hg.holder h hholder).over hrest
    cases n with
    | zero =>
      -- the trip is over, and it armed
      obtain ⟨trip, heq, htrip⟩ := hcoming
      obtain rfl := Option.some.inj (hholder.symm.trans heq)
      exact .inl (.inl (harms htrip))
    | succ n =>
      right
      obtain rfl : holder = some (.ret r) := by
        rw [hholder, Option.map_some, hrest] at hrank
        exact hrank.symm
      exact ⟨(n + 1, none), .right _ (.release _), hg', hopen', hcoming, rfl⟩
  | call request => exact hmove.elim
  | db_failure op arb_id canonical_id exc incident_id now => exact hmove.elim
  | place_order_for_leg eng platform req use_ioc stub persist_arb_id => exact hmove.elim

/-- A fair lock arms the switch. -/
theorem Guarded.becomes_settled (hg : Guarded s) (r : Run (apart sup)) (hstart : r.state 0 = s)
    (hfair : r.Fair Floor.lock_wanted Move.of_lock) : ∃ n, (r.state n).settled := by
  by_cases hsettled : s.settled
  · rw [← hstart] at hsettled
    exact ⟨0, hsettled⟩
  · have hopen : s.open_failure := by
      by_contra hclosed
      exact hsettled (.inr hclosed)
    obtain ⟨n, hcoming⟩ := (hg.armed hopen).resolve_left fun harmed => hsettled (.inl harmed)
    have hwaits : (r.state 0).Waits (n, s.holder.map Holder.rest) := by
      rw [hstart]
      exact ⟨hg, hopen, hcoming, rfl⟩
    -- ranked by the waiters before the trip, then by what is left of the holder's turn
    have hwf : WellFounded (Prod.Lex (· < ·) Eased :
        ℕ × Option (Sup (Except String SafetyState)) → _ → Prop) :=
      WellFounded.prod_lex Nat.lt_wfRel.wf eased_wf
    have hwanted : ∀ rank s, Floor.Waits rank s → s.lock_wanted := by
      rintro ⟨n, p⟩ s ⟨-, -, hcoming, -⟩
      cases n with
      | zero =>
        obtain ⟨h, heq, -⟩ := hcoming
        exact .inl (by simp [heq])
      | succ n =>
        obtain ⟨before, trip, after, heq, -, -⟩ := hcoming
        exact .inr (by simp [heq])
    have hother : ∀ rank s move s', Floor.Waits rank s → (apart sup).step s move s' →
        ¬ move.of_lock → s'.settled ∨ Floor.Waits rank s' := by
      intro rank s move s' ⟨hg, hopen, hcoming, hrank⟩ hs hmove
      obtain ⟨-, hholder, more, hwaiting⟩ := step_elsewhere hs.2 hmove
      by_cases hopen' : s'.open_failure
      · exact .inr ⟨hg.step hs, hopen', hcoming.append hwaiting hholder, hholder ▸ hrank⟩
      · exact .inl (.inr hopen')
    obtain ⟨m, -, hm⟩ := r.comes_about hwf hfair hwanted hother
      (fun _ _ _ _ hw hs hmove => hw.lock_step hs hmove) hwaits
    exact ⟨m, hm⟩

end law

/-- In an interleaving where no write fails between the call of a successful reset and
    its return, from a failure to the next reset that was called after it and succeeds:
    no leg is submitted, an armed switch stays armed, and the switch is armed sooner or
    later if the lock is fair. -/
theorem db_failure_blocks_trading (sup : Supervisor) {s : Floor}
    (hr : Reachable ((trading_floor sup).restrict Apart) s) (hopen : s.open_failure) :
    (∀ move s', (trading_floor sup).step s move s' → s'.sent = s.sent) ∧
    (s.desk.state.armed = true → ∀ move s', Apart s move →
      (trading_floor sup).step s move s' → s'.open_failure → s'.desk.state.armed = true) ∧
    ∀ r : Run ((trading_floor sup).restrict Apart), r.state 0 = s →
      r.Fair Floor.lock_wanted Move.of_lock →
      ∃ n, (r.state n).desk.state.armed = true ∨ ¬ (r.state n).open_failure := by
  have hg := guarded_invariant sup s hr
  refine ⟨fun move s' hs => hg.nothing_sent hopen hs, ?_, fun r hstart hfair => ?_⟩
  · intro harmed move s' hapart hs hopen'
    rcases hg.stays_settled harmed ⟨hapart, hs⟩ with harmed' | hclosed
    · exact harmed'
    · exact absurd hopen' hclosed
  · exact hg.becomes_settled r hstart hfair

/-! ## Section 6: Two runs -/

/-- No venues, no Redis and no audit store. -/
def no_venues : Supervisor where
  adapters := []
  nodup := List.nodup_nil
  min_cooldown_seconds := 30
  has_redis := false
  has_safety_store := false

/-- A process just booted. -/
def Floor.fresh : Floor := ⟨.boot false, [], none, [], [], 0, 0⟩

theorem fresh_init (sup : Supervisor) : (trading_floor sup).init .fresh :=
  ⟨⟨rfl, rfl⟩, rfl, rfl, rfl, rfl, rfl⟩

/-- The write of an order fails. -/
abbrev order_not_written : Move :=
  .db_failure "upsert_order" (some "ARB-000001") (some "mkt-1") "connection closed" "INC-DB-1" 0

/-- After the first failure. -/
def Floor.failed_once : Floor :=
  handle_db_failure "upsert_order" (some "ARB-000001") (some "mkt-1") "connection closed"
    "INC-DB-1" 0 .fresh

theorem db_failure_blocks_trading_once :
    Floor.failed_once.open_failure ∧
      ∀ move s', (trading_floor no_venues).step .failed_once move s' → s'.sent = [] := by
  have hopen : Floor.failed_once.open_failure := Nat.zero_lt_one
  have hapart : Apart .fresh order_not_written := fun h heq => absurd heq (by simp [Floor.fresh])
  have hfresh : Reachable ((trading_floor no_venues).restrict Apart) .fresh :=
    .init (fresh_init no_venues)
  have hr : Reachable ((trading_floor no_venues).restrict Apart) .failed_once :=
    hfresh.step (l := order_not_written) ⟨hapart, rfl⟩
  exact ⟨hopen, (db_failure_blocks_trading no_venues hr hopen).1⟩

section runs

variable {s : Floor}

theorem Reachable.acquire {waiter : Waiter} {rest : List Waiter}
    (hr : Reachable (trading_floor sup) s) (hfree : s.holder = none)
    (hwaiting : s.waiting = waiter :: rest) :
    Reachable (trading_floor sup)
      { s with
        waiting := rest
        holder := some ⟨waiter, serve_request sup waiter.request, false⟩ } := by
  have hs : (trading_floor sup).step s .acquire _ := ⟨waiter, rest, hfree, hwaiting, rfl⟩
  exact hr.step hs

theorem Reachable.answer {h : Holder} {c : Call} {k : Answer c → Sup _} {a : Answer c}
    {desk : Desk} (hr : Reachable (trading_floor sup) s) (hholder : s.holder = some h)
    (hrest : h.rest = .call c k) (hserve : desk_env.serve s.desk c a desk) :
    Reachable (trading_floor sup)
      { s with
        desk := desk
        holder := some { h with rest := k a, disarmed := h.disarmed || c.disarms }
        covered := if c.disarms then max s.covered h.waiter.seen else s.covered } := by
  have hs : (trading_floor sup).step s .answer _ :=
    ⟨h, c, k, a, desk, hholder, hrest, hserve, rfl⟩
  exact hr.step hs

/-- A holder whose calls do not disarm may run to its end with nobody in between. -/
theorem Reachable.holder_done {p : Sup (Except String SafetyState)} {r : Except String SafetyState}
    (he : Exec desk_env p w r w') (hp : p.Calls fun c => c.disarms = false) :
    ∀ {s : Floor} {h : Holder}, Reachable (trading_floor sup) s → s.desk = w →
      s.holder = some h → h.rest = p →
      Reachable (trading_floor sup) { s with desk := w', holder := none } := by
  induction he with
  | ret r w =>
    intro s h hr hdesk hholder hrest
    subst hdesk
    have hs : (trading_floor sup).step s .release _ := ⟨h, r, hholder, hrest, rfl⟩
    exact hr.step hs
  | @call c k w w₁ w₂ a r hs _ ih =>
    intro s h hr hdesk hholder hrest
    subst hdesk
    have hnext := Reachable.answer hr hholder hrest hs
    rw [if_neg (by simp [hp.1])] at hnext
    have hdone := ih (hp.2 a) hnext rfl rfl rfl
    exact hdone

end runs

/-- The switch after the trip of the first failure, at time 0. -/
def Desk.tripped_by_failure : Desk :=
  ⟨.tripped no_venues "execution_engine:db_failure" "ExecutionStore.upsert_order write failed" 0,
    false, true, [.armed]⟩

/-- The floor when that trip is over. -/
def Floor.tripped_once : Floor :=
  { Floor.failed_once with desk := .tripped_by_failure, waiting := [], holder := none }

private theorem tripped_once_reachable : Reachable (trading_floor no_venues) .tripped_once := by
  have hfailed : Reachable (trading_floor no_venues) .failed_once :=
    (Reachable.init (fresh_init no_venues)).step (l := order_not_written) rfl
  have hacquired := Reachable.acquire hfailed rfl rfl
  have hstate : desk_env.serve Floor.failed_once.desk .state SafetyState.initial
      Floor.failed_once.desk := ⟨rfl, rfl⟩
  have htime : ∀ w : Desk, desk_env.serve w .time (0 : ℚ) w := fun _ => rfl
  have harm : ∀ (w : Desk) state, desk_env.serve w (.set_state .trip state) ()
      { w with state := state, log := .armed :: w.log } := fun _ _ => rfl
  have hsend : ∀ w : Desk, desk_env.serve w (.send "kill_armed:execution_engine:db_failure")
      (.ok ()) w := fun _ => rfl
  have hpublish : ∀ (w : Desk) state, desk_env.serve w (.publish state) () w := fun _ _ => rfl
  have hrun : Exec desk_env (trip_kill no_venues "execution_engine:db_failure"
      "ExecutionStore.upsert_order write failed" true) Floor.failed_once.desk
      (.ok Desk.tripped_by_failure.state) .tripped_by_failure :=
    .call hstate (.call (htime _) (.call (harm _ _) (.call (hsend _) (.call (hpublish _ _)
      (.ret _ _)))))
  have hcalls := (trip_kill_arming no_venues "execution_engine:db_failure"
    "ExecutionStore.upsert_order write failed" true).mono fun _ => Arming.disarms
  exact Reachable.holder_done hrun hcalls hacquired rfl rfl rfl

/-- The state a reset at second 31 leaves. -/
def reset_state : SafetyState :=
  { SafetyState.initial with last_reset_at := 31, last_reset_by := "operator" }

/-- What is left of that reset once it has disarmed. -/
abbrev reset_rest : Sup (Except String SafetyState) :=
  finish_reset no_venues "operator" "" reset_state

/-- The reset has disarmed and is telling the operators. -/
def Floor.disarmed : Floor :=
  { Floor.tripped_once with
    desk := ⟨reset_state, false, true, [.reset, .armed]⟩
    holder := some ⟨⟨.reset_kill "operator" "", 1⟩, reset_rest, true⟩
    covered := 1 }

private theorem disarmed_reachable : Reachable (trading_floor no_venues) .disarmed := by
  have hcalled : Reachable (trading_floor no_venues)
      { Floor.tripped_once with waiting := [⟨.reset_kill "operator" "", 1⟩] } :=
    tripped_once_reachable.step (l := .call (.reset_kill "operator" "")) rfl
  have hacquired := Reachable.acquire hcalled rfl rfl
  have htime := Reachable.answer (a := (31 : ℚ)) hacquired rfl rfl rfl
  have hstate := Reachable.answer (a := Desk.tripped_by_failure.state) htime rfl rfl ⟨rfl, rfl⟩
  have hpast : ¬ (Desk.tripped_by_failure.state.armed = true ∧
      (31 : ℚ) < Desk.tripped_by_failure.state.cooldown_until) := by
    decide +kernel
  have hrest : (if Desk.tripped_by_failure.state.armed = true ∧
      (31 : ℚ) < Desk.tripped_by_failure.state.cooldown_until then
        (.ret (.error "Kill switch cooldown") : Sup (Except String SafetyState))
      else .call (.set_state .reset reset_state) fun _ => reset_rest) =
      .call (.set_state .reset reset_state) fun _ => reset_rest := if_neg hpast
  exact Reachable.answer (a := ()) hstate rfl hrest rfl

/-- A second write fails meanwhile, and the reset goes on. -/
def Floor.forgotten : Floor :=
  { Floor.disarmed with
    desk := ⟨reset_state, false, false, [.reset, .armed]⟩
    holder := none
    failures := 2 }

private theorem forgotten_reachable : Reachable (trading_floor no_venues) .forgotten := by
  have hfailed := disarmed_reachable.step (l := order_not_written) rfl
  have hsend : desk_env.serve Floor.disarmed.desk (.send "kill_reset:operator") (.ok ())
      Floor.disarmed.desk := rfl
  have hread : desk_env.serve Floor.disarmed.desk .db_write_failed true Floor.disarmed.desk :=
    ⟨rfl, rfl⟩
  have hclear : desk_env.serve Floor.disarmed.desk .clear_db_write_failed ()
      Floor.forgotten.desk := rfl
  have hpublish : desk_env.serve Floor.forgotten.desk (.publish reset_state) ()
      Floor.forgotten.desk := rfl
  have hrun : Exec desk_env reset_rest Floor.disarmed.desk (.ok reset_state)
      Floor.forgotten.desk :=
    .call hsend (.call hread (.call hclear (.call hpublish (.ret _ _))))
  have hquiet : ∀ c, Still c → c.disarms = false := by
    intro c hc
    cases c with
    | set_state change state => exact hc.elim
    | _ => rfl
  have hcalls := (finish_reset_calls no_venues "operator" "" reset_state).mono hquiet
  exact Reachable.holder_done hrun hcalls hfailed rfl rfl rfl

/-- A write fails, the switch trips, and while the operator's reset is telling everybody
    a second write fails: nothing trips, the flag is cleared, and the next leg goes out. -/
theorem failure_during_reset_forgotten :
    Reachable (trading_floor no_venues) .forgotten ∧ Floor.forgotten.open_failure ∧
      Floor.forgotten.desk.state.armed = false ∧ Floor.forgotten.holder = none ∧
      Floor.forgotten.waiting = [] ∧
      ∃ s', (trading_floor no_venues).step .forgotten
        (.place_order_for_leg (Execution.kalshi_engine true) "kalshi"
          Execution.ten_across_primary false none none) s' ∧
        s'.sent = [Execution.ten_across_primary] := by
  have hread : (submitting (reading_flag false)).serve ((), []) .db_write_failed false ((), []) :=
    ⟨rfl, rfl⟩
  have hplaced : (submitting (reading_flag false)).serve ((), [])
      (.place_fok "kalshi" Execution.ten_across_primary) (.error (.raised "503"))
      ((), [Execution.ten_across_primary]) := ⟨trivial, rfl⟩
  exact ⟨forgotten_reachable, Nat.one_lt_two, rfl, rfl, rfl, _,
    ⟨.error "503", [Execution.ten_across_primary], .call hread (.call hplaced (.ret _ _)), rfl⟩, rfl⟩

end Safety
