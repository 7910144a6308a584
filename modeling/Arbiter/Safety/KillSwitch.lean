import Arbiter.Framework.Monitor
import Arbiter.Safety.Supervisor

/-! # The Kill-Switch Protocol

  Trips, resets and restores serialize on `_state_lock`; `allow_execution` and the
  engine do not take it. This file runs them in every interleaving and reads the
  protocol off one log of what was armed, reset, cancelled and answered.

  The invariant is `Orderly`: each entry of the log is justified by the older ones.
-/

namespace Safety

open Effect LTS Relation

/-! ## Section 1: The desk -/

/-- What the log records, newest first. -/
inductive Entry
  /-- A trip armed the switch. -/
  | armed
  | reset
  | restored
  /-- `cancel_all` of one adapter was entered. -/
  | cancel_all (platform : String)
  /-- `allow_execution` answered. -/
  | asked (allowed : Bool)
  deriving DecidableEq

/-- The supervisor's state, the persisted marker, the engine's block, and the log. -/
structure Desk where
  state : SafetyState
  /-- The armed key in Redis. -/
  marker : Bool
  db_write_failed : Bool
  /-- Ghost: what happened so far. -/
  log : List Entry

def Change.entry : Change → Entry
  | .trip => .armed
  | .reset => .reset
  | .restore => .restored

/-- How the supervisor's calls are answered. An adapter's `cancel_all` may end in any
    way, a Redis write that raises may still have happened, and whatever only informs
    may fail. -/
def desk_env : Env Call Answer Desk where
  serve := fun w c =>
    match c with
    | .state => fun state w' => state = w.state ∧ w' = w
    | .set_state change state => fun _ w' =>
        w' = { w with state := state, log := change.entry :: w.log }
    | .time => fun _ w' => w' = w
    | .cancel_all platform => fun _ w' => w' = { w with log := .cancel_all platform :: w.log }
    | .send _ => fun _ w' => w' = w
    | .redis_set => fun answer w' =>
        w' = { w with marker := true } ∨ (answer ≠ .ok () ∧ w' = w)
    | .redis_delete => fun answer w' =>
        w' = { w with marker := false } ∨ (answer ≠ .ok () ∧ w' = w)
    | .redis_get => fun answer w' => (∀ armed, answer = .ok armed → armed = w.marker) ∧ w' = w
    | .insert_safety_event .. => fun _ w' => w' = w
    | .list_events => fun _ w' => w' = w
    | .db_write_failed => fun blocked w' => blocked = w.db_write_failed ∧ w' = w
    | .clear_db_write_failed => fun _ w' => w' = { w with db_write_failed := false }
    | .publish _ => fun _ w' => w' = w

/-- What goes on without the lock. -/
inductive Meddle (w : Desk) : Desk → Prop
  /-- The engine asks the trade gate. -/
  | asked : Meddle w { w with log := .asked (allow_execution w.state).1 :: w.log }
  /-- The engine fails to write its database. -/
  | db_failure : Meddle w { w with db_write_failed := true }

/-- A request that waits for the lock. `restore_from_redis` reads the marker and looks
    up the prior reason before it does. -/
inductive Request
  | trip_kill (trip_by reason : String) (persist : Bool)
  | reset_kill (reset_by note : String)
  | restore (prior_reason : Option String)

def serve_request (sup : Supervisor) : Request → Sup (Except String SafetyState)
  | .trip_kill trip_by reason persist => trip_kill sup trip_by reason persist
  | .reset_kill reset_by note => reset_kill sup reset_by note
  | .restore prior_reason => restore_armed sup prior_reason

/-- A process just booted: disarmed, with whatever marker the last one left. -/
def booted (w : Desk) : Prop := w.state = .initial ∧ w.log = []

/-- Every interleaving of requests, answers, gate questions and database failures. -/
def kill_switch (sup : Supervisor) :=
  monitor desk_env (serve_request sup) Meddle booted

/-! ## Section 2: Reading the log -/

/-- Whether a trip or a restore came after the last reset. -/
def up : List Entry → Bool
  | [] => false
  | .armed :: _ => true
  | .restored :: _ => true
  | .reset :: _ => false
  | .cancel_all _ :: log => up log
  | .asked _ :: log => up log

/-- Whether a trip came after the last reset. -/
def tripped : List Entry → Bool
  | [] => false
  | .armed :: _ => true
  | .restored :: log => tripped log
  | .reset :: _ => false
  | .cancel_all _ :: log => tripped log
  | .asked _ :: log => tripped log

/-- How often `platform` was asked to cancel since the last trip. -/
def fanned (platform : String) : List Entry → ℕ
  | [] => 0
  | .armed :: _ => 0
  | .restored :: log => fanned platform log
  | .reset :: log => fanned platform log
  | .cancel_all p :: log => fanned platform log + if p = platform then 1 else 0
  | .asked _ :: log => fanned platform log

/-- The last epoch's fan-out is over: once to each adapter, and to nobody else. -/
def FannedOut (sup : Supervisor) (log : List Entry) : Prop :=
  ∀ platform, fanned platform log = if platform ∈ sup.adapters then 1 else 0

/-- Every entry is justified by the older ones. -/
def Orderly (sup : Supervisor) : List Entry → Prop
  | [] => True
  | .armed :: log => up log = false ∧ Orderly sup log
  | .restored :: log => up log = false ∧ Orderly sup log
  | .reset :: log => (tripped log = true → FannedOut sup log) ∧ Orderly sup log
  | .cancel_all p :: log =>
      tripped log = true ∧ p ∈ sup.adapters ∧ fanned p log = 0 ∧ Orderly sup log
  | .asked allowed :: log => allowed = !up log ∧ Orderly sup log

theorem up_of_tripped {log : List Entry} (h : tripped log = true) : up log = true := by
  induction log with
  | nil => exact absurd h (by simp [tripped])
  | cons e log ih =>
    cases e with
    | armed => rfl
    | restored => rfl
    | reset => exact absurd h (by simp [tripped])
    | cancel_all p => exact ih h
    | asked allowed => exact ih h

theorem Orderly.older {sup : Supervisor} {newer older : List Entry}
    (h : Orderly sup (newer ++ older)) : Orderly sup older := by
  induction newer with
  | nil => exact h
  | cons e newer ih =>
    apply ih
    cases e with
    | armed => exact h.2
    | restored => exact h.2
    | reset => exact h.2
    | cancel_all p => exact h.2.2.2
    | asked allowed => exact h.2

/-- No epoch has two calls to one adapter. -/
theorem Orderly.fanned_le {sup : Supervisor} {log : List Entry} (h : Orderly sup log)
    (platform : String) : fanned platform log ≤ if platform ∈ sup.adapters then 1 else 0 := by
  induction log with
  | nil => simp [fanned]
  | cons e log ih =>
    cases e with
    | armed => simp [fanned]
    | restored => exact ih h.2
    | reset => exact ih h.2
    | asked allowed => exact ih h.2
    | cancel_all p =>
      obtain ⟨-, hmem, hzero, hlog⟩ := h
      have hle := ih hlog
      by_cases hp : p = platform
      · subst hp
        simp [fanned, hzero, hmem]
      · simpa [fanned, hp] using hle

/-- From a trip to the next reset, the log is up and the calls since the trip are those
    of this stretch. -/
theorem Orderly.epoch {sup : Supervisor} {stretch older : List Entry}
    (h : Orderly sup (stretch ++ .armed :: older)) (hno : Entry.reset ∉ stretch) :
    tripped (stretch ++ .armed :: older) = true ∧
      ∀ platform, fanned platform (stretch ++ .armed :: older) =
        stretch.count (.cancel_all platform) := by
  induction stretch with
  | nil => simp [tripped, fanned]
  | cons e stretch ih =>
    have hrest : Entry.reset ∉ stretch := fun hmem => hno (List.mem_cons_of_mem e hmem)
    have horderly : Orderly sup (stretch ++ .armed :: older) :=
      @Orderly.older sup [e] (stretch ++ .armed :: older) h
    obtain ⟨hup, hcount⟩ := ih horderly hrest
    cases e with
    | armed =>
      -- a second trip would have found the switch armed
      have hdown : up (stretch ++ .armed :: older) = false := h.1
      rw [up_of_tripped hup] at hdown
      exact absurd hdown (by simp)
    | restored => exact ⟨hup, fun platform => by simpa [fanned] using hcount platform⟩
    | reset => exact absurd (List.mem_cons_self ..) hno
    | asked allowed => exact ⟨hup, fun platform => by simpa [fanned] using hcount platform⟩
    | cancel_all p =>
      refine ⟨hup, fun platform => ?_⟩
      show fanned platform (stretch ++ .armed :: older) + (if p = platform then 1 else 0) = _
      rw [hcount platform, List.count_cons]
      simp

/-! ## Section 3: What every step keeps -/

/-- The switch is what the log says, and the log is orderly. -/
structure Sound (sup : Supervisor) (w : Desk) : Prop where
  state_up : w.state.armed = up w.log
  orderly : Orderly sup w.log

/-- Nobody is in the middle of a fan-out. -/
def Quiet (sup : Supervisor) (w : Desk) : Prop :=
  Sound sup w ∧ (tripped w.log = true → FannedOut sup w.log)

/-- The fan-out has called the adapters `called`. -/
def FanningOut (sup : Supervisor) (called : List String) (w : Desk) : Prop :=
  Sound sup w ∧ tripped w.log = true ∧
    ∀ platform, fanned platform w.log = if platform ∈ called then 1 else 0

/-- Between two calls of the holder. -/
abbrev Meanwhile : Desk → Desk → Prop := ReflTransGen Meddle

variable {sup : Supervisor} {w w' : Desk}

theorem allow_execution_eq (state : SafetyState) : (allow_execution state).1 = !state.armed := by
  unfold allow_execution
  cases state.armed with
  | true => rfl
  | false => rfl

/-- A property of sound desks that no answer of the gate changes. -/
theorem Meanwhile.keeps {P : List Entry → Prop} (hP : ∀ log allowed, P log → P (.asked allowed :: log))
    (hw : Sound sup w ∧ P w.log) (h : Meanwhile w w') : Sound sup w' ∧ P w'.log := by
  induction h with
  | refl => exact hw
  | tail _ hstep ih =>
    obtain ⟨hsound, hlog⟩ := ih
    cases hstep with
    | db_failure => exact ⟨⟨hsound.state_up, hsound.orderly⟩, hlog⟩
    | asked =>
      have hanswer := (allow_execution_eq _).trans (congrArg Bool.not hsound.state_up)
      exact ⟨⟨hsound.state_up, hanswer, hsound.orderly⟩, hP _ _ hlog⟩

theorem Quiet.meanwhile (hw : Quiet sup w) (h : Meanwhile w w') : Quiet sup w' :=
  Meanwhile.keeps (P := fun log => tripped log = true → FannedOut sup log)
    (fun _ _ hlog => hlog) hw h

theorem FanningOut.meanwhile {called : List String} (hw : FanningOut sup called w)
    (h : Meanwhile w w') : FanningOut sup called w' :=
  Meanwhile.keeps (P := fun log => tripped log = true ∧
      ∀ platform, fanned platform log = if platform ∈ called then 1 else 0)
    (fun _ _ hlog => hlog) hw h

/-- The calls that leave the switch and the log alone. -/
def Still : Call → Prop
  | .set_state .. => False
  | .cancel_all _ => False
  | _ => True

theorem still_serve {c : Call} {a : Answer c} (hc : Still c) (h : desk_env.serve w c a w') :
    w'.state = w.state ∧ w'.log = w.log := by
  cases c with
  | set_state change state => exact hc.elim
  | cancel_all platform => exact hc.elim
  | redis_set =>
    obtain rfl | ⟨-, rfl⟩ := h
    · exact ⟨rfl, rfl⟩
    · exact ⟨rfl, rfl⟩
  | redis_delete =>
    obtain rfl | ⟨-, rfl⟩ := h
    · exact ⟨rfl, rfl⟩
    · exact ⟨rfl, rfl⟩
  | state => exact ⟨congrArg _ h.2, congrArg _ h.2⟩
  | redis_get => exact ⟨congrArg _ h.2, congrArg _ h.2⟩
  | db_write_failed => exact ⟨congrArg _ h.2, congrArg _ h.2⟩
  | clear_db_write_failed =>
    subst h
    exact ⟨rfl, rfl⟩
  | time => exact ⟨congrArg _ h, congrArg _ h⟩
  | send key => exact ⟨congrArg _ h, congrArg _ h⟩
  | insert_safety_event event state counts => exact ⟨congrArg _ h, congrArg _ h⟩
  | list_events => exact ⟨congrArg _ h, congrArg _ h⟩
  | publish state => exact ⟨congrArg _ h, congrArg _ h⟩

theorem Quiet.serve {c : Call} {a : Answer c} (hw : Quiet sup w) (hc : Still c)
    (h : desk_env.serve w c a w') : Quiet sup w' := by
  obtain ⟨hstate, hlog⟩ := still_serve hc h
  obtain ⟨hsound, hfan⟩ := hw
  refine ⟨⟨?_, ?_⟩, ?_⟩
  · rw [hstate, hlog]
    exact hsound.state_up
  · rw [hlog]
    exact hsound.orderly
  · rw [hlog]
    exact hfan

/-! ## Section 4: The three bodies -/

/-- What a body keeps while the others meddle, and what it leaves. -/
abbrev Keeps (sup : Supervisor) (Q : Desk → Prop) {α : Type} (p : Sup α) (w : Desk) : Prop :=
  Guards desk_env Meanwhile (Sound sup) (fun _ => Q) p w

theorem quiet_calls {α : Type} {p : Sup α} (hp : p.Calls Still) (hw : Quiet sup w) :
    Keeps sup (Quiet sup) p w :=
  hp.guards hw (fun _ _ => Quiet.meanwhile) (fun _ h => h.1)
    (fun _ _ _ _ hc hq hs => hq.serve hc hs)

theorem set_armed_calls (sup : Supervisor) (armed : Bool) : (set_armed sup armed).Calls Still := by
  unfold set_armed
  rw [calls_ite]
  refine ⟨fun _ => ?_, fun _ => calls_pure ()⟩
  cases armed with
  | true => exact ⟨trivial, fun _ => calls_pure ()⟩
  | false => exact ⟨trivial, fun _ => calls_pure ()⟩

theorem audit_calls {ok : Call → Prop} (sup : Supervisor) (event : SafetyEvent)
    (state : SafetyState) (counts : Option (List (String × ℕ)))
    (hok : ok (.insert_safety_event event state counts)) :
    (audit sup event state counts).Calls ok := by
  unfold audit
  rw [calls_ite]
  exact ⟨fun _ => ⟨hok, fun _ => calls_pure ()⟩, fun _ => calls_pure ()⟩

/-- The change is put on record, and published. -/
theorem audited_calls {ok : Call → Prop} (sup : Supervisor) {event : SafetyEvent}
    {state : SafetyState} {counts : Option (List (String × ℕ))}
    (hok : ok (.insert_safety_event event state counts)) (hpublish : ok (.publish state)) :
    (do
      audit sup event state counts
      ask (.publish state)
      return Except.ok state : Sup (Except String SafetyState)).Calls ok :=
  (audit_calls sup event state counts hok).bind fun _ => ⟨hpublish, fun _ => calls_pure _⟩

theorem finish_trip_calls (sup : Supervisor) (trip_by reason : String) (persist : Bool)
    (state : SafetyState) (counts : List (String × ℕ)) :
    (finish_trip sup trip_by reason persist state counts).Calls Still := by
  have hpersist : (persist_armed sup persist).Calls Still := by
    unfold persist_armed
    rw [calls_ite]
    exact ⟨fun _ => set_armed_calls sup true, fun _ => calls_ret ()⟩
  exact ⟨trivial, fun _ => hpersist.bind fun _ => audited_calls sup trivial trivial⟩

theorem finish_reset_calls (sup : Supervisor) (reset_by note : String) (state : SafetyState) :
    (finish_reset sup reset_by note state).Calls Still := by
  refine ⟨trivial, fun _ => (set_armed_calls sup false).bind fun _ => ?_⟩
  refine (audit_calls sup _ state none trivial).bind fun _ => ⟨trivial, fun blocked => ?_⟩
  apply calls_ite.2
  constructor
  · intro _
    exact ⟨trivial, fun _ => ⟨trivial, fun _ => calls_pure _⟩⟩
  · intro _
    exact ⟨trivial, fun _ => calls_pure _⟩

/-- Arming a switch that was down starts an epoch. -/
theorem Quiet.trip (hw : Quiet sup w) (hdown : w.state.armed = false) {state : SafetyState}
    (harmed : state.armed = true) :
    FanningOut sup [] { w with state := state, log := .armed :: w.log } := by
  have hup : up w.log = false := hw.1.state_up.symm.trans hdown
  refine ⟨⟨harmed, hup, hw.1.orderly⟩, rfl, fun platform => ?_⟩
  simp [fanned]

theorem Quiet.reset (hw : Quiet sup w) {state : SafetyState} (harmed : state.armed = false) :
    Quiet sup { w with state := state, log := .reset :: w.log } :=
  ⟨⟨harmed, hw.2, hw.1.orderly⟩, fun h => absurd h (by simp [tripped])⟩

theorem Quiet.restore (hw : Quiet sup w) (hdown : w.state.armed = false) {state : SafetyState}
    (harmed : state.armed = true) :
    Quiet sup { w with state := state, log := .restored :: w.log } := by
  have hup : up w.log = false := hw.1.state_up.symm.trans hdown
  exact ⟨⟨harmed, hup, hw.1.orderly⟩, hw.2⟩

/-- One `cancel_all`, however it ends. -/
theorem FanningOut.cancel {called : List String} {platform : String}
    (hw : FanningOut sup called w) (hnew : platform ∉ called) (hmem : platform ∈ sup.adapters) :
    FanningOut sup (called ++ [platform])
      { w with log := .cancel_all platform :: w.log } := by
  obtain ⟨hsound, htripped, hcount⟩ := hw
  have hzero : fanned platform w.log = 0 := by rw [hcount platform, if_neg hnew]
  refine ⟨⟨hsound.state_up, htripped, hmem, hzero, hsound.orderly⟩, htripped, fun p => ?_⟩
  show fanned p w.log + (if platform = p then 1 else 0) = _
  rw [hcount p]
  by_cases hp : platform = p
  · subst hp
    simp [hnew]
  · have hp' : p ≠ platform := fun h => hp h.symm
    simp [hp, hp']

/-- The fan-out, one adapter after the other. -/
theorem cancel_all_adapters_keeps (rest called : List String) (hw : FanningOut sup called w)
    (hadapters : sup.adapters = called ++ rest) :
    Keeps sup (FanningOut sup sup.adapters) (cancel_all_adapters rest) w := by
  have hrely : ∀ called w₁ w₂, FanningOut sup called w₁ → Meanwhile w₁ w₂ →
      FanningOut sup called w₂ := fun _ _ _ => FanningOut.meanwhile
  induction rest generalizing called w with
  | nil =>
    intro w₁ hr
    have hdone := hrely called w w₁ hw hr
    rw [hadapters, List.append_nil]
    exact ⟨hdone.1, hdone⟩
  | cons platform rest ih =>
    -- an adapter that is still to be called was not called before
    have hnodup := sup.nodup
    rw [hadapters] at hnodup
    have hnew : platform ∉ called := fun hmem =>
      (List.nodup_append.1 hnodup).2.2 _ hmem _ (List.mem_cons_self ..) rfl
    have hmem : platform ∈ sup.adapters := by simp [hadapters]
    have hone : Keeps sup (FanningOut sup (called ++ [platform])) (cancel_one platform) w := by
      refine guards_call_of hw (hrely called) (fun _ h => h.1) fun w₁ a w₂ hw₁ hs => ?_
      have hstep : FanningOut sup (called ++ [platform]) w₂ := by
        rw [show w₂ = { w₁ with log := .cancel_all platform :: w₁.log } from hs]
        exact hw₁.cancel hnew hmem
      have hret : ∀ r : String × ℕ,
          Keeps sup (FanningOut sup (called ++ [platform])) (.ret r) w₂ := by
        intro r w₃ hr
        have hkept := hrely _ _ _ hstep hr
        exact ⟨hkept.1, hkept⟩
      -- whatever it answers, the call is in the log
      match a with
      | .ids (some ids) => exact hret (platform, ids.length)
      | .ids none => exact hret (platform, 0)
      | .timeout => exact hret (platform, 0)
      | .raised err => exact hret (platform, 0)
    refine Guards.bind hone (fun _ => .refl) fun count w₁ _ hw₁ => ?_
    have hrest := ih (called ++ [platform]) hw₁ (by simpa using hadapters)
    refine Guards.bind hrest (fun _ => .refl) fun counts w₂ _ hw₂ w₃ hr => ?_
    have hkept := hrely _ _ _ hw₂ hr
    exact ⟨hkept.1, hkept⟩

/-- Quiet, and known to be disarmed. -/
def Down (sup : Supervisor) (w : Desk) : Prop := Quiet sup w ∧ w.state.armed = false

theorem Meanwhile.state (h : Meanwhile w w') : w'.state = w.state := by
  induction h with
  | refl => rfl
  | tail _ hstep ih =>
    cases hstep with
    | asked => exact ih
    | db_failure => exact ih

theorem Down.meanwhile (hw : Down sup w) (h : Meanwhile w w') : Down sup w' := by
  refine ⟨hw.1.meanwhile h, ?_⟩
  rw [Meanwhile.state h]
  exact hw.2

/-- A switch that is found armed is left alone; the others are armed before anybody else can
    arm them, and what follows begins there. -/
theorem arms_when_down {change : Change} {state_at : ℚ → SafetyState}
    {rest : ℚ → Sup (Except String SafetyState)} (hw : Quiet sup w)
    (hrest : ∀ now w₁ w₂, Down sup w₁ →
      desk_env.serve w₁ (.set_state change (state_at now)) () w₂ →
        Keeps sup (Quiet sup) (rest now) w₂) :
    Keeps sup (Quiet sup) (do
      let state ← ask .state
      if state.armed then return .ok state
      else
        let now ← ask .time
        ask (.set_state change (state_at now))
        rest now) w := by
  refine guards_call_of hw (fun _ _ => Quiet.meanwhile) (fun _ h => h.1)
    fun w₁ state w₂ hw₁ hs => ?_
  obtain ⟨rfl, rfl⟩ : state = w₁.state ∧ w₂ = w₁ := hs
  show Keeps sup (Quiet sup) (if w₂.state.armed then _ else _) w₂
  split
  · exact quiet_calls (calls_pure _) hw₁
  · rename_i hdown
    have hdown₂ : Down sup w₂ := ⟨hw₁, by simpa using hdown⟩
    refine guards_call_of hdown₂ (fun _ _ => Down.meanwhile) (fun _ h => h.1.1)
      fun w₃ now w₄ hw₃ hs => ?_
    obtain rfl : w₄ = w₃ := hs
    refine guards_call_of hw₃ (fun _ _ => Down.meanwhile) (fun _ h => h.1.1)
      fun w₅ _ w₆ hw₅ hs => ?_
    exact hrest now w₅ w₆ hw₅ hs

theorem trip_kill_keeps (trip_by reason : String) (persist : Bool) (hw : Quiet sup w) :
    Keeps sup (Quiet sup) (trip_kill sup trip_by reason persist) w := by
  refine arms_when_down hw fun now w₁ w₂ hdown hs => ?_
  have hstart : FanningOut sup [] w₂ := by
    rw [show w₂ = { w₁ with
      state := .tripped sup trip_by reason now, log := .armed :: w₁.log } from hs]
    exact hdown.1.trip hdown.2 rfl
  have hfan := cancel_all_adapters_keeps sup.adapters [] hstart rfl
  refine Guards.bind hfan (fun _ => .refl) fun counts w₃ _ hw₃ => ?_
  exact quiet_calls (finish_trip_calls sup _ _ _ _ _) ⟨hw₃.1, fun _ => hw₃.2.2⟩

theorem reset_kill_keeps (reset_by note : String) (hw : Quiet sup w) :
    Keeps sup (Quiet sup) (reset_kill sup reset_by note) w := by
  have hrely : ∀ w₁ w₂, Quiet sup w₁ → Meanwhile w₁ w₂ → Quiet sup w₂ :=
    fun _ _ => Quiet.meanwhile
  refine guards_call_of hw hrely (fun _ h => h.1) fun w₁ now w₂ hw₁ hs => ?_
  obtain rfl : w₂ = w₁ := hs
  refine guards_call_of hw₁ hrely (fun _ h => h.1) fun w₃ state w₄ hw₃ hs => ?_
  obtain ⟨rfl, rfl⟩ : state = w₃.state ∧ w₄ = w₃ := hs
  show Keeps sup (Quiet sup)
    (if w₄.state.armed = true ∧ now < w₄.state.cooldown_until then _ else _) w₄
  split
  · exact quiet_calls (calls_pure _) hw₃
  · refine guards_call_of hw₃ hrely (fun _ h => h.1) fun w₅ _ w₆ hw₅ hs => ?_
    have hreset : Quiet sup w₆ := by
      rw [show w₆ = { w₅ with
        state := { SafetyState.initial with last_reset_at := now, last_reset_by := reset_by },
        log := .reset :: w₅.log } from hs]
      exact hw₅.reset rfl
    exact quiet_calls (finish_reset_calls sup reset_by note _) hreset

theorem restore_armed_keeps (prior_reason : Option String) (hw : Quiet sup w) :
    Keeps sup (Quiet sup) (restore_armed sup prior_reason) w := by
  refine arms_when_down hw fun now w₁ w₂ hdown hs => ?_
  have hrestored : Quiet sup w₂ := by
    rw [show w₂ = { w₁ with state := _, log := .restored :: w₁.log } from hs]
    exact hdown.1.restore hdown.2 rfl
  exact quiet_calls ⟨trivial, fun _ => audited_calls sup trivial trivial⟩ hrestored

/-! ## Section 5: Every interleaving -/

/-- Every reachable desk is sound, and quiet whenever the lock is free. -/
theorem kill_switch_invariant (sup : Supervisor) :
    Invariant (kill_switch sup)
      (fun s => Sound sup s.world ∧ (s.holder = none → Quiet sup s.world)) := by
  have hrefl : ∀ w, Meanwhile w w := fun _ => .refl
  apply monitor_invariant hrefl
  · intro w₁ w₂ w₃ h₁ h₂
    exact h₁.trans h₂
  · intro w w' h
    exact .single h
  · intro w ⟨hstate, hlog⟩
    have harmed : w.state.armed = up w.log := by
      rw [hstate, hlog]
      rfl
    refine ⟨⟨harmed, ?_⟩, ?_⟩
    · rw [hlog]
      trivial
    · rw [hlog]
      exact fun h => absurd h (by simp [tripped])
  · intro w hw
    exact hw.1
  · intro w w' hw h
    exact hw.meanwhile (.single h)
  · intro request w hw
    cases request with
    | trip_kill trip_by reason persist => exact trip_kill_keeps trip_by reason persist hw
    | reset_kill reset_by note => exact reset_kill_keeps reset_by note hw
    | restore prior_reason => exact restore_armed_keeps prior_reason hw

/-! ## Section 6: The protocol -/

/-- `cancel_all` of every adapter exactly once, and of nobody else. -/
def OncePerAdapter (sup : Supervisor) (stretch : List Entry) : Prop :=
  ∀ platform, stretch.count (.cancel_all platform) = if platform ∈ sup.adapters then 1 else 0

/-- What the protocol promises of a log; `free` says that nobody holds the lock. -/
structure Protocol (sup : Supervisor) (free : Prop) (log : List Entry) : Prop where
  /-- The gate answers no from a trip, or a restore, to the next reset. -/
  gate : ∀ newer allowed older, log = newer ++ .asked allowed :: older →
    up older = true → allowed = false
  /-- An epoch that a reset closed had its fan-out. -/
  closed_epochs : ∀ newer epoch older, log = newer ++ .reset :: (epoch ++ .armed :: older) →
    Entry.reset ∉ epoch → OncePerAdapter sup epoch
  /-- The running epoch has had none of it twice, and all of it once the lock is free. -/
  running_epoch : ∀ epoch older, log = epoch ++ .armed :: older → Entry.reset ∉ epoch →
    (∀ platform, epoch.count (.cancel_all platform) ≤ 1) ∧ (free → OncePerAdapter sup epoch)
  /-- Nothing is cancelled outside an epoch. -/
  inside_epochs : ∀ newer platform older, log = newer ++ .cancel_all platform :: older →
    tripped older = true

theorem Sound.protocol {free : Prop} (hw : Sound sup w) (hfree : free → Quiet sup w) :
    Protocol sup free w.log where
  gate := by
    intro newer allowed older heq hup
    have h := hw.orderly
    rw [heq] at h
    have hanswer : allowed = !up older := h.older.1
    rw [hanswer, hup]
    rfl
  closed_epochs := by
    intro newer epoch older heq hno platform
    have h := hw.orderly
    rw [heq] at h
    obtain ⟨hfan, hepoch⟩ := h.older
    obtain ⟨htripped, hcount⟩ := hepoch.epoch hno
    rw [← hcount platform]
    exact hfan htripped platform
  running_epoch := by
    intro epoch older heq hno
    have h := hw.orderly
    rw [heq] at h
    obtain ⟨htripped, hcount⟩ := h.epoch hno
    constructor
    · intro platform
      have hle := h.fanned_le platform
      rw [hcount platform] at hle
      split at hle <;> omega
    · intro hf platform
      have hfan := (hfree hf).2
      rw [heq] at hfan
      rw [← hcount platform]
      exact hfan htripped platform
  inside_epochs := by
    intro newer platform older heq
    have h := hw.orderly
    rw [heq] at h
    exact h.older.1

/-- The calls that do not replace the state. -/
def NoChange : Call → Prop
  | .set_state .. => False
  | _ => True

theorem Still.noChange {c : Call} (hc : Still c) : NoChange c := by
  cases c with
  | set_state change state => exact hc
  | _ => trivial

theorem amid_state {c : Call} {a : Answer c} (hc : NoChange c)
    (h : (desk_env.amid Meanwhile).serve w c a w') : w'.state = w.state := by
  obtain ⟨w₁, hr, hs⟩ := h
  rw [← hr.state]
  cases c with
  | set_state change state => exact hc.elim
  | cancel_all platform =>
    rw [show w' = _ from hs]
  | _ => exact (still_serve (by trivial) hs).1

theorem cancel_all_adapters_calls {ok : Call → Prop} (hok : ∀ p, ok (.cancel_all p))
    (platforms : List String) : (cancel_all_adapters platforms).Calls ok := by
  induction platforms with
  | nil => exact calls_ret _
  | cons platform rest ih =>
    have hone : (cancel_one platform).Calls ok := by
      refine ⟨hok platform, fun answer => ?_⟩
      match answer with
      | .ids (some _) => exact calls_pure _
      | .ids none => exact calls_pure _
      | .timeout => exact calls_pure _
      | .raised _ => exact calls_pure _
    exact hone.bind fun _ => ih.bind fun _ => calls_pure _

/-- A trip leaves the switch armed, whether it armed it or found it so. -/
theorem trip_kill_armed (sup : Supervisor) (trip_by reason : String) (persist : Bool) (w : Desk) :
    wp (desk_env.amid Meanwhile) (trip_kill sup trip_by reason persist)
      (fun _ w' => w'.state.armed = true) w := by
  have hkeep : ∀ w c a w', NoChange c → (desk_env.amid Meanwhile).serve w c a w' →
      w.state.armed = true → w'.state.armed = true := by
    intro w₁ c a w₂ hc hs harmed
    rw [amid_state hc hs]
    exact harmed
  unfold trip_kill
  refine wp_bind.2 (wp_send.2 fun state w₁ hs => ?_)
  obtain ⟨w₂, -, rfl, rfl⟩ := hs
  rw [wp_ite]
  constructor
  · intro harmed
    exact wp_pure.2 harmed
  · intro _
    refine wp_bind.2 (wp_send.2 fun now w₃ _ => wp_bind.2 (wp_send.2 fun _ w₄ hs => ?_))
    obtain ⟨w₅, -, rfl⟩ := hs
    refine Prog.Calls.keeps ?_ hkeep rfl
    apply (cancel_all_adapters_calls (fun _ => trivial) sup.adapters).bind
    intro counts
    exact (finish_trip_calls sup _ _ _ _ _).mono fun _ => Still.noChange

/-- A reset that got past the cooldown is not refused any more. -/
theorem finish_reset_ok {E : Env Call Answer Desk} (sup : Supervisor) (reset_by note : String)
    (state : SafetyState) (w : Desk) :
    wp E (finish_reset sup reset_by note state) (fun r _ => r = .ok state) w := by
  unfold finish_reset
  refine wp_bind.2 (wp_send.2 fun _ w₁ _ => ?_)
  refine wp_bind.2 fun _ w₂ _ => wp_bind.2 fun _ w₃ _ => wp_bind.2 (wp_send.2 fun blocked w₄ _ => ?_)
  rw [wp_ite]
  constructor
  · intro _
    refine wp_bind.2 (wp_send.2 fun _ w₅ _ => wp_bind.2 (wp_send.2 fun _ w₆ _ => ?_))
    exact wp_pure.2 rfl
  · intro _
    refine wp_bind.2 (wp_send.2 fun _ w₅ _ => ?_)
    exact wp_pure.2 rfl

/-- A refused reset has asked for the time and the state, nothing else. -/
theorem reset_kill_refused {E : Env Call Answer Desk} {R : Desk → Desk → Prop}
    (sup : Supervisor) (reset_by note : String)
    (htrans : ∀ w₁ w₂ w₃, R w₁ w₂ → R w₂ w₃ → R w₁ w₃)
    (htime : ∀ w now w', E.serve w .time now w' → R w w')
    (hstate : ∀ w state w', E.serve w .state state w' → R w w') (w : Desk) :
    wp E (reset_kill sup reset_by note) (fun r w' => ∀ err, r = .error err → R w w') w := by
  unfold reset_kill
  refine wp_bind.2 (wp_send.2 fun now w₁ hs => wp_bind.2 (wp_send.2 fun state w₂ hs' => ?_))
  rw [wp_ite]
  constructor
  · intro _
    exact wp_pure.2 fun err _ => htrans w w₁ w₂ (htime w now w₁ hs) (hstate w₁ state w₂ hs')
  · intro _
    refine wp_bind.2 (wp_send.2 fun _ w₃ _ => ?_)
    refine wp_mono (finish_reset_ok sup reset_by note _ w₃) fun r w₄ hok err herr => ?_
    rw [hok] at herr
    exact nomatch herr

/-- In every interleaving of trips, resets, restores and gate questions: the switch is
    armed from a trip to the next successful reset, the gate says so, every epoch a trip
    entered has one fan-out to every adapter however the adapters take it, and a refused
    reset changes nothing. -/
theorem kill_switch_protocol (sup : Supervisor) {s : Locked Call Answer Desk _}
    (hr : Reachable (kill_switch sup) s) :
    s.world.state.armed = up s.world.log ∧
      Protocol sup (s.holder = none) s.world.log ∧
      (∀ trip_by reason persist, wp (desk_env.amid Meanwhile)
        (trip_kill sup trip_by reason persist) (fun _ w' => w'.state.armed = true) s.world) ∧
      ∀ reset_by note (rely : Desk → Desk → Prop),
        (∀ w₁ w₂ w₃, rely w₁ w₂ → rely w₂ w₃ → rely w₁ w₃) →
        wp (desk_env.amid rely) (reset_kill sup reset_by note)
          (fun r w' => ∀ err, r = .error err → rely s.world w') s.world := by
  obtain ⟨hsound, hquiet⟩ := kill_switch_invariant sup s hr
  refine ⟨hsound.state_up, hsound.protocol hquiet, ?_, ?_⟩
  · intro trip_by reason persist
    exact trip_kill_armed sup trip_by reason persist s.world
  · intro reset_by note rely htrans
    apply reset_kill_refused sup reset_by note htrans
    · rintro w now w' ⟨w₁, hrely, rfl⟩
      exact hrely
    · rintro w state w' ⟨w₁, hrely, -, rfl⟩
      exact hrely

/-- Two venues, with Redis and without an audit store. -/
def two_venues : Supervisor where
  adapters := ["kalshi", "polymarket"]
  nodup := by decide
  min_cooldown_seconds := 30
  has_redis := true
  has_safety_store := false

/-- The desk of a process that boots with the marker `marker`. -/
def Desk.boot (marker : Bool) : Desk := ⟨.initial, marker, false, []⟩

/-- After a trip at time 0 of which one venue timed out and the other raised. -/
def Desk.after_trip : Desk :=
  ⟨.tripped two_venues "operator" "test" 0, true, false,
    [.cancel_all "polymarket", .cancel_all "kalshi", .armed]⟩

theorem trip_of_two_venues :
    Exec desk_env (trip_kill two_venues "operator" "test" true) (.boot false)
      (.ok (.tripped two_venues "operator" "test" 0)) .after_trip := by
  have hstate : desk_env.serve (.boot false) .state SafetyState.initial (.boot false) :=
    ⟨rfl, rfl⟩
  have hkalshi : ∀ w : Desk, desk_env.serve w (.cancel_all "kalshi") .timeout
      { w with log := .cancel_all "kalshi" :: w.log } := fun _ => rfl
  have hpolymarket : ∀ w : Desk, desk_env.serve w (.cancel_all "polymarket") (.raised "503")
      { w with log := .cancel_all "polymarket" :: w.log } := fun _ => rfl
  have hsend : ∀ w : Desk, desk_env.serve w (.send "kill_armed:operator")
      (.error "telegram is down") w := fun _ => rfl
  have hset : ∀ w : Desk, desk_env.serve w .redis_set (.ok ()) { w with marker := true } :=
    fun _ => .inl rfl
  have htime : ∀ w : Desk, desk_env.serve w .time (0 : ℚ) w := fun _ => rfl
  have hpublish : ∀ (w : Desk) state, desk_env.serve w (.publish state) () w := fun _ _ => rfl
  have harm : ∀ (w : Desk) state, desk_env.serve w (.set_state .trip state) ()
      { w with state := state, log := .armed :: w.log } := fun _ _ => rfl
  exact .call hstate (.call (htime _) (.call (harm _ _) (.call (hkalshi _)
    (.call (hpolymarket _) (.call (hsend _) (.call (hset _) (.call (hpublish _ _)
      (.ret _ _))))))))

theorem kill_switch_protocol_two_venues :
    Desk.after_trip.state.armed = true ∧ OncePerAdapter two_venues
      [.cancel_all "polymarket", .cancel_all "kalshi"] := by
  have hboot : Reachable (kill_switch two_venues) ⟨.boot false, none⟩ := .init ⟨⟨rfl, rfl⟩, rfl⟩
  have hafter := Reachable.request (Request.trip_kill "operator" "test" true) hboot trip_of_two_venues
  obtain ⟨harmed, hprotocol, -, -⟩ := kill_switch_protocol two_venues hafter
  have hepoch := hprotocol.running_epoch [.cancel_all "polymarket", .cancel_all "kalshi"] [] rfl
    (by decide)
  exact ⟨harmed, hepoch.2 rfl⟩

end Safety
