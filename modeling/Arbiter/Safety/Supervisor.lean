import Mathlib.Algebra.Order.Field.Rat
import Arbiter.Framework.Prog

/-! # The Safety Supervisor

  `SafetySupervisor`: the kill switch, the gate that reads it, and the calls that arm
  it, reset it and restore it after a restart. Each call is a program over what it
  asks of the adapters, the notifier, Redis and the audit store; all of those may
  fail, and no failure but the cooldown comes back to the caller.

  The notification texts are left out, nothing depends on them.
-/

namespace Safety

open Effect

/-! ### State -/

/-- `SafetyState`: the kill switch. -/
structure SafetyState where
  armed : Bool
  armed_by : Option String
  armed_at : ℚ
  armed_reason : String
  cooldown_until : ℚ
  last_reset_at : ℚ
  last_reset_by : String
  deriving DecidableEq

/-- The state a process boots with. -/
def SafetyState.initial : SafetyState where
  armed := false
  armed_by := none
  armed_at := 0
  armed_reason := ""
  cooldown_until := 0
  last_reset_at := 0
  last_reset_by := ""

/-- `allow_execution`: whether a trade may run, and why. -/
def allow_execution (state : SafetyState) : Bool × String :=
  if state.armed then
    (false, "Kill switch armed: " ++
      (if state.armed_reason = "" then "manual" else state.armed_reason))
  else (true, "safety supervisor approved")

/-! ### Calls -/

/-- Which method replaces the state. -/
inductive Change
  | trip
  | reset
  | restore
  deriving DecidableEq

/-- How `adapter.cancel_all()` ends within its five seconds. -/
inductive Cancelled
  | ids (cancelled : Option (List String))
  | timeout
  | raised (err : String)

/-- One row of `safety_events`, as the supervisor reads it. -/
structure SafetyEvent where
  event_type : String
  actor : String
  reason : String

/-- What the supervisor asks for. Its own fields are read and written by calls, so that
    others may act in between. -/
inductive Call
  | state
  | set_state (change : Change) (state : SafetyState)
  | time
  | cancel_all (platform : String)
  /-- `notifier.send`. -/
  | send (dedup_key : String)
  /-- The Redis client behind the shim. -/
  | redis_set
  | redis_delete
  | redis_get
  | insert_safety_event (event : SafetyEvent) (state : SafetyState)
      (cancelled_counts : Option (List (String × ℕ)))
  | list_events
  /-- `engine._db_write_failed`. -/
  | db_write_failed
  | clear_db_write_failed
  | publish (state : SafetyState)

/-- What each call answers. -/
@[reducible] def Answer : Call → Type
  | .state => SafetyState
  | .set_state .. => Unit
  | .time => ℚ
  | .cancel_all _ => Cancelled
  | .send _ => Except String Unit
  | .redis_set => Except String Unit
  | .redis_delete => Except String Unit
  | .redis_get => Except String Bool
  | .insert_safety_event .. => Except String Unit
  | .list_events => Except String (List SafetyEvent)
  | .db_write_failed => Bool
  | .clear_db_write_failed => Unit
  | .publish _ => Unit

/-- Programs of the supervisor. -/
abbrev Sup := Prog Call Answer

abbrev ask (c : Call) : Sup (Answer c) := .send c

/-- What a supervisor is built with. -/
structure Supervisor where
  /-- The platforms of `self.adapters`, in dictionary order. -/
  adapters : List String
  nodup : adapters.Nodup
  min_cooldown_seconds : ℚ
  /-- There is a Redis shim with a client behind it. -/
  has_redis : Bool
  has_safety_store : Bool

/-! ### Arming -/

/-- `_cancel_one`: what cannot be cancelled counts as nothing cancelled. -/
def cancel_one (platform : String) : Sup (String × ℕ) := do
  match ← ask (.cancel_all platform) with
  | .ids (some ids) => return (platform, ids.length)
  | .ids none => return (platform, 0)
  | .timeout => return (platform, 0)
  | .raised _ => return (platform, 0)

/-- `_cancel_all_adapters`. -/
def cancel_all_adapters : List String → Sup (List (String × ℕ))
  | [] => .ret []
  | platform :: rest => do
      let count ← cancel_one platform
      let counts ← cancel_all_adapters rest
      return count :: counts

/-- `redis.set_armed`: a failure is logged by the shim. -/
def set_armed (sup : Supervisor) (armed : Bool) : Sup Unit := do
  if sup.has_redis then
    let _ ← ask (if armed then .redis_set else .redis_delete)
    return ()
  else return ()

/-- The row in `safety_events`, where there is a store. -/
def audit (sup : Supervisor) (event : SafetyEvent) (state : SafetyState)
    (cancelled_counts : Option (List (String × ℕ))) : Sup Unit := do
  if sup.has_safety_store then
    let _ ← ask (.insert_safety_event event state cancelled_counts)
    return ()
  else return ()

/-- The write of the marker, which a transient trip skips. -/
def persist_armed (sup : Supervisor) (persist : Bool) : Sup Unit :=
  if persist then set_armed sup true else .ret ()

/-- What follows the fan-out. -/
def finish_trip (sup : Supervisor) (trip_by reason : String) (persist : Bool)
    (state : SafetyState) (cancelled_counts : List (String × ℕ)) :
    Sup (Except String SafetyState) := do
  let _ ← ask (.send ("kill_armed:" ++ trip_by))
  persist_armed sup persist
  audit sup ⟨"arm", trip_by, reason⟩ state (some cancelled_counts)
  ask (.publish state)
  return .ok state

/-- The state a trip arms. -/
def SafetyState.tripped (sup : Supervisor) (trip_by reason : String) (now : ℚ) : SafetyState :=
  { SafetyState.initial with
    armed := true
    armed_by := some trip_by
    armed_at := now
    armed_reason := reason
    cooldown_until := now + sup.min_cooldown_seconds }

/-- `trip_kill`, from the moment it has the lock. -/
def trip_kill (sup : Supervisor) (trip_by reason : String) (persist : Bool) :
    Sup (Except String SafetyState) := do
  let state ← ask .state
  if state.armed then return .ok state
  else
    let now ← ask .time
    let state := SafetyState.tripped sup trip_by reason now
    ask (.set_state .trip state)
    let cancelled_counts ← cancel_all_adapters sup.adapters
    finish_trip sup trip_by reason persist state cancelled_counts

/-! ### Resetting -/

/-- What follows a reset that the cooldown let through. -/
def finish_reset (sup : Supervisor) (reset_by note : String) (state : SafetyState) :
    Sup (Except String SafetyState) := do
  let _ ← ask (.send ("kill_reset:" ++ reset_by))
  set_armed sup false
  audit sup ⟨"reset", reset_by, if note = "" then "operator reset" else note⟩ state none
  -- C4.2: a reset unblocks the engine's placements
  let blocked ← ask .db_write_failed
  if blocked then
    ask .clear_db_write_failed
    ask (.publish state)
    return .ok state
  else
    ask (.publish state)
    return .ok state

/-- `reset_kill`, from the moment it has the lock. -/
def reset_kill (sup : Supervisor) (reset_by note : String) : Sup (Except String SafetyState) := do
  let now ← ask .time
  let state ← ask .state
  if state.armed ∧ now < state.cooldown_until then
    return .error "Kill switch cooldown"
  else
    let state : SafetyState :=
      { SafetyState.initial with last_reset_at := now, last_reset_by := reset_by }
    ask (.set_state .reset state)
    finish_reset sup reset_by note state

/-! ### Restoring -/

/-- `_lookup_last_arm_reason`: the newest `arm` row, if it can be had. -/
def lookup_last_arm_reason (sup : Supervisor) : Sup (Option String) := do
  if sup.has_safety_store then
    match ← ask .list_events with
    | .error _ => return none
    | .ok events =>
        return (events.find? fun event => event.event_type = "arm").map fun event =>
          (if event.reason = "" then "unknown" else event.reason) ++ " (armed_by=" ++
            (if event.actor = "" then "unknown" else event.actor) ++ ")"
  else return none

/-- The part of `restore_from_redis` that takes the lock. -/
def restore_armed (sup : Supervisor) (prior_reason : Option String) :
    Sup (Except String SafetyState) := do
  let state ← ask .state
  -- armed in the meantime, it stays as it is
  if state.armed then return .ok state
  else
    let now ← ask .time
    let prior := prior_reason.getD "unknown"
    let state : SafetyState :=
      { SafetyState.initial with
        armed := true
        armed_by := some "system:redis_restore"
        armed_at := now
        armed_reason := "kill switch restored from persisted state (prior: " ++ prior ++ ")"
        cooldown_until := now + sup.min_cooldown_seconds }
    ask (.set_state .restore state)
    let _ ← ask (.send "kill_restored_from_redis")
    audit sup ⟨"restore", "system:redis_restore",
      "Restored armed state on startup; prior arm: " ++ prior⟩ state none
    ask (.publish state)
    return .ok state

/-- `restore_from_redis`. The shim reads a failing Redis as not armed. -/
def restore_from_redis (sup : Supervisor) : Sup (Except String SafetyState) := do
  if sup.has_redis then
    match ← ask .redis_get with
    | .error _ => return .ok .initial
    | .ok armed =>
        if armed then
          let prior_reason ← lookup_last_arm_reason sup
          restore_armed sup prior_reason
        else return .ok .initial
  else return .ok .initial

end Safety
