import Arbiter.Safety.KillSwitch

/-! # Kills That Outlive the Process

  The armed switch lives twice: in the supervisor, and as a key in Redis that the next
  process restores from. A trip writes the key only when it arms the switch, so a
  persistent trip that finds a transient arm leaves nothing behind.

  The run theorem is for the runs in which Redis answers, and in which no persistent
  trip finds the switch armed without its key.
-/

namespace Safety

open Effect LTS

/-! ## Section 1: Lives -/

/-- What happens to a supervisor over its processes, one call after the other. -/
inductive Act
  | trip_kill (trip_by reason : String) (persist : Bool)
  | reset_kill (reset_by note : String)
  /-- The process ends and another one boots. -/
  | restart
  | restore_from_redis

/-- The desk, and what was asked of it. -/
structure Life where
  desk : Desk
  /-- Ghost: a trip with `persist=True` was requested and no reset succeeded since. -/
  wanted : Bool
  /-- Ghost: this process has restored. -/
  restored : Bool

/-- The sequences of calls and restarts, with the calls answered as `E` allows. -/
def lives (sup : Supervisor) (E : Env Call Answer Desk) : System Life Act where
  init := fun s => booted s.desk ∧ s.wanted = false ∧ s.restored = false
  step := fun s act s' =>
    match act with
    | .trip_kill trip_by reason persist =>
        (∃ r, Exec E (trip_kill sup trip_by reason persist) s.desk r s'.desk) ∧
        s'.wanted = (persist || s.wanted) ∧ s'.restored = s.restored
    | .reset_kill reset_by note =>
        (∃ r, Exec E (reset_kill sup reset_by note) s.desk r s'.desk ∧
          s'.wanted = (s.wanted && !r.isOk)) ∧ s'.restored = s.restored
    | .restart =>
        s'.desk = .boot s.desk.marker ∧ s'.wanted = s.wanted ∧ s'.restored = false
    | .restore_from_redis =>
        (∃ r, Exec E (restore_from_redis sup) s.desk r s'.desk) ∧
        s'.wanted = s.wanted ∧ s'.restored = true

/-- Redis takes the writes of the key and answers its reads. -/
def redis_answers (_ : Desk) (c : Call) (answer : Answer c) : Prop :=
  match c with
  | .redis_set => answer = .ok ()
  | .redis_get => answer.isOk = true
  | _ => True

/-- A persistent trip finds the switch down, or the key in Redis. -/
def finds_key (s : Life) (act : Act) : Prop :=
  match act with
  | .trip_kill _ _ true => s.desk.state.armed = true → s.desk.marker = true
  | _ => True

/-! ## Section 2: One call -/

variable {sup : Supervisor} {w w' : Desk}

/-- The desk when Redis answers. -/
abbrev answering : Env Call Answer Desk := desk_env.restrict redis_answers

/-- Everything but a reset's writes. -/
def KeepsKey : Call → Prop
  | .set_state .. => False
  | .redis_delete => False
  | _ => True

/-- An armed switch, and its key if it had one. -/
def Kept (key : Bool) (w : Desk) : Prop :=
  w.state.armed = true ∧ (key = true → w.marker = true)

theorem Kept.serve {key : Bool} {c : Call} {a : Answer c} (hc : KeepsKey c)
    (h : answering.serve w c a w') (hw : Kept key w) : Kept key w' := by
  obtain ⟨-, hs⟩ := h
  cases c with
  | set_state change state => exact hc.elim
  | redis_delete => exact hc.elim
  | redis_set =>
    obtain rfl | ⟨-, rfl⟩ := hs
    · exact ⟨hw.1, fun _ => rfl⟩
    · exact hw
  | state => rwa [hs.2]
  | redis_get => rwa [hs.2]
  | db_write_failed => rwa [hs.2]
  | clear_db_write_failed =>
    rw [show w' = _ from hs]
    exact hw
  | cancel_all platform =>
    rw [show w' = _ from hs]
    exact hw
  | _ => rwa [show w' = w from hs]

theorem Calls.keeps_key {α : Type} {p : Sup α} {key : Bool} (hp : p.Calls KeepsKey)
    (hw : Kept key w) : wp answering p (fun _ => Kept key) w :=
  hp.keeps (fun _ _ _ _ hc hs hk => hk.serve hc hs) hw

/-- The write of the key, where there is one, is the only change. -/
theorem persist_armed_keeps_key (hredis : sup.has_redis = true) (persist : Bool) {key : Bool}
    (hw : Kept key w) : wp answering (persist_armed sup persist) (fun _ => Kept (key || persist)) w := by
  unfold persist_armed
  rw [wp_ite]
  constructor
  · intro hpersist
    unfold set_armed
    rw [if_pos hredis]
    refine wp_bind.2 (wp_send.2 fun answer w₁ hs => wp_pure.2 ?_)
    obtain ⟨hok, hset⟩ := hs
    obtain rfl | ⟨herr, -⟩ := hset
    · exact ⟨hw.1, fun _ => rfl⟩
    · exact absurd hok herr
  · intro hpersist
    have htransient : persist = false := by simpa using hpersist
    rw [htransient, Bool.or_false]
    exact wp_ret.2 hw

theorem finish_trip_keeps_key (hredis : sup.has_redis = true) (trip_by reason : String)
    (persist : Bool) (state : SafetyState) (counts : List (String × ℕ)) {key : Bool}
    (hw : Kept key w) :
    wp answering (finish_trip sup trip_by reason persist state counts)
      (fun _ => Kept (key || persist)) w := by
  unfold finish_trip
  refine wp_bind.2 (wp_send.2 fun _ w₁ hs => ?_)
  have hsent : Kept key w₁ := Kept.serve (c := .send _) trivial hs hw
  refine wp_bind.2 (wp_mono (persist_armed_keeps_key hredis persist hsent) fun _ w₂ hw₂ => ?_)
  exact Calls.keeps_key (audited_calls sup trivial trivial) hw₂

/-- A trip arms, keeps a key that is there, and writes one if it is to persist and finds
    the switch down. -/
theorem trip_kill_keeps_key (hredis : sup.has_redis = true) (trip_by reason : String)
    (persist : Bool) (w : Desk) :
    wp answering (trip_kill sup trip_by reason persist)
      (fun _ => Kept (w.marker || (persist && !w.state.armed))) w := by
  unfold trip_kill
  refine wp_bind.2 (wp_send.2 fun state w₁ hs => ?_)
  obtain ⟨-, rfl, rfl⟩ := hs
  rw [wp_ite]
  constructor
  · intro harmed
    refine wp_pure.2 ⟨harmed, fun hkey => ?_⟩
    simpa [harmed] using hkey
  · intro hdown
    have hdown' : w₁.state.armed = false := by simpa using hdown
    rw [hdown', Bool.not_false, Bool.and_true]
    refine wp_bind.2 (wp_send.2 fun now w₂ hs => ?_)
    obtain ⟨-, rfl⟩ := hs
    refine wp_bind.2 (wp_send.2 fun _ w₃ hs => ?_)
    obtain ⟨-, rfl⟩ := hs
    have harm : Kept w₂.marker
        { w₂ with state := .tripped sup trip_by reason now, log := .armed :: w₂.log } :=
      ⟨rfl, fun hkey => hkey⟩
    have hcancels := Calls.keeps_key
      (cancel_all_adapters_calls (fun _ => trivial) sup.adapters) harm
    refine wp_bind.2 (wp_mono hcancels fun counts w₄ hw₄ => ?_)
    exact finish_trip_keeps_key hredis trip_by reason persist _ counts hw₄

theorem lookup_last_arm_reason_calls (sup : Supervisor) :
    (lookup_last_arm_reason sup).Calls (· = .list_events) := by
  unfold lookup_last_arm_reason
  rw [calls_ite]
  constructor
  · intro _
    refine ⟨rfl, fun answer => ?_⟩
    match answer with
    | .error _ => exact calls_pure _
    | .ok _ => exact calls_pure _
  · intro _
    exact calls_pure _

theorem restore_armed_keeps_key (prior_reason : Option String) (hkey : w.marker = true) :
    wp answering (restore_armed sup prior_reason) (fun _ => Kept true) w := by
  unfold restore_armed
  refine wp_bind.2 (wp_send.2 fun state w₁ hs => ?_)
  obtain ⟨-, rfl, rfl⟩ := hs
  rw [wp_ite]
  constructor
  · intro harmed
    exact wp_pure.2 ⟨harmed, fun _ => hkey⟩
  · intro _
    refine wp_bind.2 (wp_send.2 fun now w₂ hs => ?_)
    obtain ⟨-, rfl⟩ := hs
    refine wp_bind.2 (wp_send.2 fun _ w₃ hs => ?_)
    obtain ⟨-, rfl⟩ := hs
    exact Calls.keeps_key ⟨trivial, fun _ => audited_calls sup trivial trivial⟩
      ⟨rfl, fun _ => hkey⟩

/-- A restore arms the switch if the key is there. -/
theorem restore_from_redis_keeps_key (hredis : sup.has_redis = true) (hkey : w.marker = true) :
    wp answering (restore_from_redis sup) (fun _ => Kept true) w := by
  unfold restore_from_redis
  rw [if_pos hredis]
  refine wp_bind.2 (wp_send.2 fun answer w₁ hs => ?_)
  obtain ⟨hok, hread, rfl⟩ := hs
  match answer with
  | .error err => exact absurd hok (by simp [redis_answers, Except.isOk, Except.toBool])
  | .ok armed =>
    obtain rfl : armed = true := (hread armed rfl).trans hkey
    show wp answering (lookup_last_arm_reason sup >>= restore_armed sup) (fun _ => Kept true) w₁
    refine (lookup_last_arm_reason_calls sup).wp_bind ?_ fun prior_reason => ?_
    · rintro w₂ c a w₃ rfl ⟨-, heq⟩
      exact heq
    · exact restore_armed_keeps_key prior_reason hkey

/-- A reset that is refused leaves the desk alone. -/
theorem reset_kill_refused_still (sup : Supervisor) (reset_by note : String) (w : Desk) :
    wp answering (reset_kill sup reset_by note) (fun r w' => r.isOk = false → w' = w) w := by
  have hrefused : wp answering (reset_kill sup reset_by note)
      (fun r w' => ∀ err, r = .error err → w = w') w := by
    apply reset_kill_refused sup reset_by note (R := (· = ·))
    · intro w₁ w₂ w₃ h₁ h₂
      exact h₁.trans h₂
    · rintro w₁ now w₂ ⟨-, heq⟩
      exact Eq.symm heq
    · rintro w₁ state w₂ ⟨-, -, heq⟩
      exact heq.symm
  refine wp_mono hrefused fun r w' h herr => ?_
  match r with
  | .error err => exact (h err rfl).symm
  | .ok state => exact absurd herr (by simp [Except.isOk, Except.toBool])

/-! ## Section 3: Runs -/

/-- A wanted kill has its key, and is armed once the process has restored. -/
def KillKept (s : Life) : Prop :=
  s.wanted = true → s.desk.marker = true ∧ (s.restored = true → s.desk.state.armed = true)

theorem killKept_step (hredis : sup.has_redis = true) {s s' : Life} {act : Act}
    (hs : KillKept s) (hok : finds_key s act) (hstep : (lives sup answering).step s act s') :
    KillKept s' := by
  intro hwanted
  cases act with
  | trip_kill trip_by reason persist =>
    obtain ⟨⟨r, hrun⟩, hw, hr⟩ := hstep
    obtain ⟨harmed, hmarker⟩ := trip_kill_keeps_key hredis trip_by reason persist s.desk r _ hrun
    refine ⟨hmarker ?_, fun _ => harmed⟩
    -- a trip that is not to persist finds the marker of the one before
    cases hp : persist with
    | false =>
      rw [hw, hp] at hwanted
      simp [(hs hwanted).1]
    | true =>
      subst hp
      cases harmed₀ : s.desk.state.armed with
      | false => simp
      | true => simp [hok harmed₀]
  | reset_kill reset_by note =>
    obtain ⟨⟨r, hrun, hw⟩, hr⟩ := hstep
    rw [hw] at hwanted
    have hboth : s.wanted = true ∧ r.isOk = false := by simpa using hwanted
    have hsame := reset_kill_refused_still sup reset_by note s.desk r _ hrun hboth.2
    rw [hsame, hr]
    exact hs hboth.1
  | restart =>
    obtain ⟨hdesk, hw, hr⟩ := hstep
    rw [hw] at hwanted
    rw [hdesk, hr]
    exact ⟨(hs hwanted).1, fun h => absurd h (by simp)⟩
  | restore_from_redis =>
    obtain ⟨⟨r, hrun⟩, hw, hr⟩ := hstep
    rw [hw] at hwanted
    have hkept := restore_from_redis_keeps_key hredis (hs hwanted).1 r _ hrun
    exact ⟨hkept.2 rfl, fun _ => hkept.1⟩

/-- Where Redis answers and no persistent trip finds an armed switch without its key: a
    persistent kill that no reset took back is armed in every process that has restored. -/
theorem durable_kill_survives (sup : Supervisor) (hredis : sup.has_redis = true) {s : Life}
    (hr : Reachable ((lives sup answering).restrict finds_key) s) (hwanted : s.wanted = true)
    (hrestored : s.restored = true) : s.desk.state.armed = true := by
  have hinv : Invariant ((lives sup answering).restrict finds_key) KillKept := by
    apply Invariant.of_step
    · intro s hinit hwanted
      obtain ⟨-, hnone, -⟩ := hinit
      rw [hnone] at hwanted
      exact absurd hwanted (by simp)
    · intro s act s' hs hstep
      exact killKept_step hredis hs hstep.1 hstep.2
  exact (hinv s hr hwanted).2 hrestored

/-! ## Section 4: Runs of one supervisor -/

/-- Redis, no adapters, no audit store. -/
def redis_only : Supervisor where
  adapters := []
  nodup := List.nodup_nil
  min_cooldown_seconds := 30
  has_redis := true
  has_safety_store := false

/-- The desk after a trip at time 0 from a fresh boot. -/
def Desk.armed_at_zero (trip_by reason : String) (marker : Bool) : Desk :=
  ⟨.tripped redis_only trip_by reason 0, marker, false, [.armed]⟩

/-- The first trip of a process, with Redis answering. -/
theorem first_trip (trip_by reason : String) (persist : Bool) :
    ∃ r, Exec answering (trip_kill redis_only trip_by reason persist) (.boot false) r
      (.armed_at_zero trip_by reason persist) := by
  have hstate : answering.serve (.boot false) .state SafetyState.initial (.boot false) :=
    ⟨trivial, rfl, rfl⟩
  have htime : ∀ w : Desk, answering.serve w .time (0 : ℚ) w := fun _ => ⟨trivial, rfl⟩
  have harm : ∀ (w : Desk) state, answering.serve w (.set_state .trip state) ()
      { w with state := state, log := .armed :: w.log } := fun _ _ => ⟨trivial, rfl⟩
  have hsend : ∀ w : Desk, answering.serve w (.send ("kill_armed:" ++ trip_by)) (.ok ()) w :=
    fun _ => ⟨trivial, rfl⟩
  have hset : ∀ w : Desk, answering.serve w .redis_set (.ok ()) { w with marker := true } :=
    fun _ => ⟨rfl, .inl rfl⟩
  have hpublish : ∀ (w : Desk) state, answering.serve w (.publish state) () w :=
    fun _ _ => ⟨trivial, rfl⟩
  cases persist with
  | false =>
    exact ⟨_, .call hstate (.call (htime _) (.call (harm _ _) (.call (hsend _)
      (.call (hpublish _ _) (.ret _ _)))))⟩
  | true =>
    exact ⟨_, .call hstate (.call (htime _) (.call (harm _ _) (.call (hsend _)
      (.call (hset _) (.call (hpublish _ _) (.ret _ _))))))⟩

/-- A trip of an armed switch. -/
theorem second_trip (trip_by reason : String) (persist : Bool) {w : Desk}
    (harmed : w.state.armed = true) :
    Exec answering (trip_kill redis_only trip_by reason persist) w (.ok w.state) w := by
  have hstate : answering.serve w .state w.state w := ⟨trivial, rfl, rfl⟩
  refine .call hstate ?_
  show Exec answering (if w.state.armed = true then _ else _) w _ w
  rw [if_pos harmed]
  exact .ret _ _

/-- A restore that finds no key. -/
theorem restore_without_key :
    Exec answering (restore_from_redis redis_only) (.boot false) (.ok .initial) (.boot false) := by
  have hget : answering.serve (.boot false) .redis_get (.ok false) (.boot false) := by
    refine ⟨rfl, fun armed h => ?_, rfl⟩
    exact (Except.ok.inj h).symm
  exact .call hget (.ret _ _)

/-- The desk a restore leaves that finds the key and no prior reason. -/
def Desk.restored_at_zero : Desk :=
  ⟨{ SafetyState.initial with
      armed := true
      armed_by := some "system:redis_restore"
      armed_at := 0
      armed_reason := "kill switch restored from persisted state (prior: unknown)"
      cooldown_until := 0 + redis_only.min_cooldown_seconds }, true, false, [.restored]⟩

theorem restore_with_key :
    ∃ r, Exec answering (restore_from_redis redis_only) (.boot true) r .restored_at_zero := by
  have hget : answering.serve (.boot true) .redis_get (.ok true) (.boot true) := by
    refine ⟨rfl, fun armed h => ?_, rfl⟩
    exact (Except.ok.inj h).symm
  have hstate : answering.serve (.boot true) .state SafetyState.initial (.boot true) :=
    ⟨trivial, rfl, rfl⟩
  have htime : ∀ w : Desk, answering.serve w .time (0 : ℚ) w := fun _ => ⟨trivial, rfl⟩
  have harm : ∀ (w : Desk) state, answering.serve w (.set_state .restore state) ()
      { w with state := state, log := .restored :: w.log } := fun _ _ => ⟨trivial, rfl⟩
  have hsend : ∀ w : Desk, answering.serve w (.send "kill_restored_from_redis") (.ok ()) w :=
    fun _ => ⟨trivial, rfl⟩
  have hpublish : ∀ (w : Desk) state, answering.serve w (.publish state) () w :=
    fun _ _ => ⟨trivial, rfl⟩
  exact ⟨_, .call hget (.call hstate (.call (htime _) (.call (harm _ _) (.call (hsend _)
    (.call (hpublish _ _) (.ret _ _))))))⟩

theorem durable_kill_survives_restart : Desk.restored_at_zero.state.armed = true := by
  have h₀ : Reachable ((lives redis_only answering).restrict finds_key)
      ⟨.boot false, false, false⟩ := .init ⟨⟨rfl, rfl⟩, rfl, rfl⟩
  have h₁ : Reachable ((lives redis_only answering).restrict finds_key)
      ⟨.armed_at_zero "operator" "incident" true, true, false⟩ :=
    h₀.step (l := .trip_kill "operator" "incident" true)
      ⟨fun harmed => absurd harmed (by decide), first_trip _ _ true, rfl, rfl⟩
  have h₂ : Reachable ((lives redis_only answering).restrict finds_key)
      ⟨.boot true, true, false⟩ := h₁.step (l := .restart) ⟨trivial, rfl, rfl, rfl⟩
  have h₃ : Reachable ((lives redis_only answering).restrict finds_key)
      ⟨.restored_at_zero, true, true⟩ :=
    h₂.step (l := .restore_from_redis) ⟨trivial, restore_with_key, rfl, rfl⟩
  exact durable_kill_survives redis_only rfl h₃ rfl rfl

/-- The operator's persistent kill lands while a shutdown's transient one is armed: the
    next process boots and restores disarmed, though Redis answered every call. -/
theorem kill_during_shutdown_is_lost :
    ¬ ∀ s, Reachable (lives redis_only answering) s → s.wanted = true → s.restored = true →
      s.desk.state.armed = true := by
  intro hclaim
  have h₀ : Reachable (lives redis_only answering) ⟨.boot false, false, false⟩ :=
    .init ⟨⟨rfl, rfl⟩, rfl, rfl⟩
  have h₁ : Reachable (lives redis_only answering)
      ⟨.armed_at_zero "system:shutdown" "Process shutdown signal" false, false, false⟩ :=
    h₀.step (l := .trip_kill "system:shutdown" "Process shutdown signal" false)
      ⟨first_trip _ _ false, rfl, rfl⟩
  have h₂ : Reachable (lives redis_only answering)
      ⟨.armed_at_zero "system:shutdown" "Process shutdown signal" false, true, false⟩ :=
    h₁.step (l := .trip_kill "operator" "incident" true)
      ⟨⟨_, second_trip _ _ true rfl⟩, rfl, rfl⟩
  have h₃ : Reachable (lives redis_only answering) ⟨.boot false, true, false⟩ :=
    h₂.step (l := .restart) ⟨rfl, rfl, rfl⟩
  have h₄ : Reachable (lives redis_only answering) ⟨.boot false, true, true⟩ :=
    h₃.step (l := .restore_from_redis) ⟨⟨_, restore_without_key⟩, rfl, rfl⟩
  have harmed := hclaim _ h₄ rfl rfl
  exact absurd harmed (by decide)

end Safety
