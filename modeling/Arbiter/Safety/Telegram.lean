import Arbiter.Execution.Incidents
import Arbiter.Framework.System
import Arbiter.Framework.Text

/-! # Telegram Alerts

  All alerts go through one notifier. It remembers when the alert of a key was last let
  through and holds its repeats back for a while; it holds every alert back once too many went
  out; and it posts again where Telegram may recover. What it remembers is written before the
  other two have their say.

  ## Contents

  - Section 1: the notifier.
  - Section 2: a post and its replies.
  - Section 3: sending, and what is sent.
  - Section 4: runs, and what is held back.
  - Section 5: alerts of incidents.
-/

namespace Telegram

open LTS

/-! ## Section 1: The notifier -/

/-- The arguments of the notifier. -/
structure Settings where
  bot_token : String
  chat_id : String
  dedup_window_sec : ℚ := 60
  max_retries : ℤ := 3
  burst_window_sec : ℚ := 10
  burst_max : ℤ := 5

namespace Settings

variable (cfg : Settings)

/-- `_enabled`. -/
def enabled : Bool := cfg.bot_token ≠ "" && cfg.chat_id ≠ ""

/-- `_dedup_window_sec`. -/
def dedup_window : ℚ := max 0 cfg.dedup_window_sec

/-- `_max_retries`. -/
def retries : ℕ := (max 1 cfg.max_retries).toNat

/-- `_burst_window_sec`. -/
def burst_window : ℚ := max 0 cfg.burst_window_sec

/-- `_burst_max`. -/
def burst_limit : ℕ := (max 1 cfg.burst_max).toNat

end Settings

/-- `_last_sent`: a moment for each key. -/
abbrev LastSent := Table (String × ℚ) Prod.fst

/-- `TelegramNotifier`: what it remembers. -/
structure Notifier where
  last_sent : LastSent
  burst_history : List ℚ
  burst_dropped : ℕ

/-- A new notifier. -/
def Notifier.new : Notifier := ⟨.empty, [], 0⟩

/-- The key was let through less than a window ago. -/
def repeats (cfg : Settings) (last_sent : LastSent) (key : String) (now : ℚ) : Bool :=
  (last_sent.find key).any fun prior => decide (now - prior.2 < cfg.dedup_window)

/-- `_is_duplicate`, with what it remembers. -/
def is_duplicate (cfg : Settings) (last_sent : LastSent) (dedup_key : Option String) (now : ℚ) :
    Bool × LastSent :=
  match dedup_key with
  | none => (false, last_sent)
  | some key =>
      if cfg.dedup_window ≤ 0 then (false, last_sent)
      else if repeats cfg last_sent key now then (true, last_sent)
      else
        let stamped := last_sent.put (key, now)
        -- the memory is bounded: what is long over goes
        if 256 < stamped.rows.length then
          (false, stamped.keep fun entry => decide (now - cfg.dedup_window * 4 ≤ entry.2))
        else (false, stamped)

/-- The sends of the last burst window. -/
def recent (cfg : Settings) (burst_history : List ℚ) (now_burst : ℚ) : List ℚ :=
  burst_history.filter fun t => now_burst - cfg.burst_window ≤ t

/-- The burst guard is on for the send, and its window is full. -/
def Saturated (cfg : Settings) (burst_history : List ℚ) (bypass_burst : Bool) (now_burst : ℚ) :
    Prop :=
  (0 < cfg.burst_window ∧ bypass_burst = false) ∧
    cfg.burst_limit ≤ (recent cfg burst_history now_burst).length

instance (cfg : Settings) (burst_history : List ℚ) (bypass_burst : Bool) (now_burst : ℚ) :
    Decidable (Saturated cfg burst_history bypass_burst now_burst) :=
  inferInstanceAs (Decidable (_ ∧ _))

/-! ## Section 2: A post -/

/-- How a post ends: with a status and its text, which is absent where reading it raises, or
    with an exception. -/
inductive Reply
  | response (status : ℕ) (text : Option String)
  | raised
  | cancelled

/-- A post, and the post without a `parse_mode` that may follow it. -/
structure Attempt where
  reply : Reply
  fallback : Reply

/-- What becomes of an attempt. -/
inductive Verdict
  | accepted
  | given_up
  | again
  | cancelled
  deriving DecidableEq

/-- The post in plain text. -/
def fallback_verdict : Reply → Verdict
  | .cancelled => .cancelled
  | .raised => .again
  | .response status text =>
      if status = 200 then .accepted
      else if text.isNone then .again
      else .given_up

/-- One turn of the loop. -/
def Attempt.verdict (parse_mode : String) (a : Attempt) : Verdict :=
  match a.reply with
  | .cancelled => .cancelled
  | .raised => .again
  | .response status text =>
      if status = 200 then .accepted
      else match text with
        | none => .again
        | some text =>
            -- a text that is no HTML is posted once more, in plain
            if status = 400 ∧ parse_mode ≠ "" ∧
                Text.occurs "can't parse entities" text.toLower = true then
              fallback_verdict a.fallback
            -- of the client's errors, too many requests is the one to try again
            else if status < 500 ∧ status ≠ 429 then .given_up
            else .again

/-- How a send ends. It returns true for `sent` alone, and nothing where it raises. -/
inductive Outcome
  | disabled
  | duplicate
  | burst_dropped
  | failed
  | sent
  | raised
  deriving DecidableEq

/-- The loop of `send` over the attempts, with `left` of them left. A cancelled sleep is the
    cancelled attempt after it. -/
def post (parse_mode : String) (attempts : ℕ → Attempt) : ℕ → ℕ → Outcome
  | _, 0 => .failed
  | attempt, left + 1 =>
      match (attempts attempt).verdict parse_mode with
      | .accepted => .sent
      | .given_up => .failed
      | .again => post parse_mode attempts (attempt + 1) left
      | .cancelled => .raised

/-! ## Section 3: Sending -/

/-- The arguments of `send`, but for the text. -/
structure Alert where
  parse_mode : String := "HTML"
  dedup_key : Option String
  bypass_burst : Bool := false

/-- A call of `send`, with what the outside says: the clock, which is read for the key and for
    the burst guard, whether there is a session, and the replies of Telegram. -/
structure Send extends Alert where
  now : ℚ
  now_burst : ℚ
  session : Bool
  attempts : ℕ → Attempt

/-- The replies decide. -/
def Send.delivery (cfg : Settings) (c : Send) : Outcome :=
  if c.session then post c.parse_mode c.attempts 0 cfg.retries else .raised

/-- `send`. -/
def send (cfg : Settings) (n : Notifier) (c : Send) : Outcome × Notifier :=
  if cfg.enabled = false then (.disabled, n)
  else
    match is_duplicate cfg n.last_sent c.dedup_key c.now with
    | (true, last_sent) => (.duplicate, { n with last_sent := last_sent })
    | (false, last_sent) =>
        -- the key is stamped by now, whatever becomes of the alert
        if 0 < cfg.burst_window ∧ c.bypass_burst = false then
          let history := recent cfg n.burst_history c.now_burst
          if cfg.burst_limit ≤ history.length then
            (.burst_dropped, ⟨last_sent, history, n.burst_dropped + 1⟩)
          else
            (c.delivery cfg, ⟨last_sent, history ++ [c.now_burst], n.burst_dropped⟩)
        else (c.delivery cfg, { n with last_sent := last_sent })

/-- Telegram answers one of the attempts with 200, and those before it are tried again. -/
def Accepts (cfg : Settings) (c : Send) : Prop :=
  c.session = true ∧ ∃ k < cfg.retries, (c.attempts k).verdict c.parse_mode = .accepted ∧
    ∀ j < k, (c.attempts j).verdict c.parse_mode = .again

/-- The send is let through and remembered as the last one of its key. -/
def Stamps (cfg : Settings) (n : Notifier) (c : Send) : Prop :=
  cfg.enabled = true ∧ 0 < cfg.dedup_window ∧
    ∃ key, c.dedup_key = some key ∧ repeats cfg n.last_sent key c.now = false

section send

variable {cfg : Settings} {n : Notifier} {c : Send}

/-- An attempt that is not tried again is the last one. -/
theorem last_attempt {parse_mode : String} {attempts : ℕ → Attempt} {attempt k : ℕ}
    (hlast : (attempts attempt).verdict parse_mode ≠ .again)
    (hagain : ∀ j < k, (attempts (attempt + j)).verdict parse_mode = .again) : k = 0 := by
  by_contra hk
  exact hlast (hagain 0 (Nat.pos_of_ne_zero hk))

theorem post_sent_iff {parse_mode : String} {attempts : ℕ → Attempt} {attempt left : ℕ} :
    post parse_mode attempts attempt left = .sent ↔
      ∃ k < left, (attempts (attempt + k)).verdict parse_mode = .accepted ∧
        ∀ j < k, (attempts (attempt + j)).verdict parse_mode = .again := by
  induction left generalizing attempt with
  | zero => simp [post]
  | succ left ih =>
    rw [post]
    have hstop (hlast : (attempts attempt).verdict parse_mode ≠ .again)
        (hnot : (attempts attempt).verdict parse_mode ≠ .accepted) :
        ¬ ∃ k < left + 1, (attempts (attempt + k)).verdict parse_mode = .accepted ∧
          ∀ j < k, (attempts (attempt + j)).verdict parse_mode = .again := by
      rintro ⟨k, -, haccepted, hagain⟩
      obtain rfl := last_attempt hlast hagain
      exact hnot haccepted
    cases hverdict : (attempts attempt).verdict parse_mode with
    | accepted =>
      exact iff_of_true rfl
        ⟨0, Nat.succ_pos _, hverdict, fun j hj => absurd hj (Nat.not_lt_zero j)⟩
    | given_up => exact iff_of_false (by simp) (hstop (by simp [hverdict]) (by simp [hverdict]))
    | cancelled => exact iff_of_false (by simp) (hstop (by simp [hverdict]) (by simp [hverdict]))
    | again =>
      show post parse_mode attempts (attempt + 1) left = .sent ↔ _
      rw [ih]
      constructor
      · -- the attempts are counted from the next one on
        rintro ⟨k, hk, haccepted, hagain⟩
        refine ⟨k + 1, Nat.succ_lt_succ hk, by rwa [Nat.add_right_comm] at haccepted, ?_⟩
        intro j hj
        cases j with
        | zero => exact hverdict
        | succ j =>
          have hbefore := hagain j (Nat.lt_of_succ_lt_succ hj)
          rwa [Nat.add_right_comm] at hbefore
      · rintro ⟨k, hk, haccepted, hagain⟩
        cases k with
        | zero =>
          rw [Nat.add_zero, hverdict] at haccepted
          cases haccepted
        | succ k =>
          refine ⟨k, Nat.lt_of_succ_lt_succ hk, by rwa [Nat.add_right_comm], ?_⟩
          intro j hj
          have hbefore := hagain (j + 1) (Nat.succ_lt_succ hj)
          rwa [Nat.add_right_comm]

/-- The replies make it a delivery exactly when Telegram accepts. -/
theorem delivery_sent_iff : c.delivery cfg = .sent ↔ Accepts cfg c := by
  unfold Send.delivery Accepts
  cases c.session with
  | false => simp
  | true => simp [post_sent_iff]

/-- No reply makes it a repeat. -/
theorem delivery_ne_duplicate : c.delivery cfg ≠ .duplicate := by
  have hpost : ∀ (left attempt : ℕ), post c.parse_mode c.attempts attempt left ≠ .duplicate := by
    intro left
    induction left with
    | zero => simp [post]
    | succ left ih =>
      intro attempt
      rw [post]
      split
      · simp
      · simp
      · exact ih _
      · simp
  unfold Send.delivery
  split
  · exact hpost _ _
  · simp

/-- A repeat leaves the memory, and so does a send without a key or a window; any other is
    remembered. -/
theorem is_duplicate_cases (cfg : Settings) (last_sent : LastSent) (dedup_key : Option String)
    (now : ℚ) :
    ((∃ key, dedup_key = some key ∧ 0 < cfg.dedup_window ∧ repeats cfg last_sent key now = true) ∧
        is_duplicate cfg last_sent dedup_key now = (true, last_sent)) ∨
      ((dedup_key = none ∨ cfg.dedup_window ≤ 0) ∧
        is_duplicate cfg last_sent dedup_key now = (false, last_sent)) ∨
      ∃ key remembered, (dedup_key = some key ∧ 0 < cfg.dedup_window ∧
          repeats cfg last_sent key now = false) ∧
        is_duplicate cfg last_sent dedup_key now = (false, remembered) ∧
          ∀ entry ∈ remembered.rows, entry = (key, now) ∨ entry ∈ last_sent.rows := by
  cases dedup_key with
  | none => exact .inr (.inl ⟨.inl rfl, rfl⟩)
  | some key =>
    simp only [is_duplicate]
    by_cases hwindow : cfg.dedup_window ≤ 0
    · exact .inr (.inl ⟨.inr hwindow, if_pos hwindow⟩)
    · rw [if_neg hwindow]
      cases hrepeats : repeats cfg last_sent key now with
      | true => exact .inl ⟨⟨key, rfl, not_le.mp hwindow, hrepeats⟩, rfl⟩
      | false =>
        have hput : ∀ entry ∈ (last_sent.put (key, now)).rows,
            entry = (key, now) ∨ entry ∈ last_sent.rows := fun entry hentry =>
          (Table.mem_put.mp hentry).imp_right And.left
        rw [if_neg Bool.false_ne_true]
        by_cases hlong : 256 < (last_sent.put (key, now)).rows.length
        · exact .inr (.inr ⟨key, _, ⟨rfl, not_le.mp hwindow, hrepeats⟩, if_pos hlong,
            fun entry hentry => hput entry (Table.mem_keep.mp hentry).1⟩)
        · exact .inr (.inr ⟨key, _, ⟨rfl, not_le.mp hwindow, hrepeats⟩, if_neg hlong, hput⟩)

/-- What a send does that is no repeat. -/
theorem send_of_new {remembered : LastSent} (henabled : cfg.enabled = true)
    (h : is_duplicate cfg n.last_sent c.dedup_key c.now = (false, remembered)) :
    (send cfg n c).2.last_sent = remembered ∧
      ((send cfg n c).1 = if Saturated cfg n.burst_history c.bypass_burst c.now_burst then
        .burst_dropped else c.delivery cfg) := by
  rw [send, if_neg (by simp [henabled]), h]
  dsimp only
  by_cases hguard : 0 < cfg.burst_window ∧ c.bypass_burst = false
  · rw [if_pos hguard]
    by_cases hfull : cfg.burst_limit ≤ (recent cfg n.burst_history c.now_burst).length
    · rw [if_pos hfull]
      exact ⟨rfl, (if_pos ⟨hguard, hfull⟩).symm⟩
    · rw [if_neg hfull]
      exact ⟨rfl, (if_neg fun hsaturated => hfull hsaturated.2).symm⟩
  · rw [if_neg hguard]
    exact ⟨rfl, (if_neg fun hsaturated => hguard hsaturated.1).symm⟩

/-- A send leaves what it found remembered, or the moment it was let through. -/
theorem mem_last_sent {entry : String × ℚ} (h : entry ∈ (send cfg n c).2.last_sent.rows) :
    entry ∈ n.last_sent.rows ∨
      Stamps cfg n c ∧ c.dedup_key = some entry.1 ∧ c.now = entry.2 := by
  cases henabled : cfg.enabled with
  | false =>
    rw [send, if_pos henabled] at h
    exact .inl h
  | true =>
    obtain ⟨-, hdup⟩ | ⟨-, hdup⟩ | ⟨key, remembered, ⟨hkey, hwindow, hrepeats⟩, hdup, hmem⟩ :=
      is_duplicate_cases cfg n.last_sent c.dedup_key c.now
    · rw [send, if_neg (by simp [henabled]), hdup] at h
      exact .inl h
    · rw [(send_of_new henabled hdup).1] at h
      exact .inl h
    · rw [(send_of_new henabled hdup).1] at h
      rcases hmem entry h with rfl | hold
      · exact .inr ⟨⟨henabled, hwindow, key, hkey, hrepeats⟩, hkey, rfl⟩
      · exact .inl hold

/-- A send that is held back as a duplicate repeats what was let through. -/
theorem duplicate_repeats (h : (send cfg n c).1 = .duplicate) :
    ∃ entry ∈ n.last_sent.rows, c.dedup_key = some entry.1 ∧
      c.now - entry.2 < cfg.dedup_window := by
  cases henabled : cfg.enabled with
  | false =>
    rw [send, if_pos henabled] at h
    cases h
  | true =>
    have hnew {remembered : LastSent}
        (hdup : is_duplicate cfg n.last_sent c.dedup_key c.now = (false, remembered)) : False := by
      rw [(send_of_new henabled hdup).2] at h
      split at h
      · cases h
      · exact delivery_ne_duplicate h
    obtain ⟨⟨key, hkey, -, hrepeats⟩, -⟩ | ⟨-, hdup⟩ | ⟨_, _, -, hdup, -⟩ :=
      is_duplicate_cases cfg n.last_sent c.dedup_key c.now
    · obtain ⟨entry, hfind, hrecent⟩ := (Option.any_eq_true _ _).mp hrepeats
      have hentry : entry.1 = key := Table.find_key hfind
      exact ⟨entry, Table.mem_of_find hfind, by rw [hentry, hkey], of_decide_eq_true hrecent⟩
    · exact (hnew hdup).elim
    · exact (hnew hdup).elim

/-- A send that is let through is sent, where the burst guard has room and Telegram accepts. -/
theorem send_sent (h : Stamps cfg n c)
    (hroom : ¬ Saturated cfg n.burst_history c.bypass_burst c.now_burst)
    (haccepts : Accepts cfg c) : (send cfg n c).1 = .sent := by
  obtain ⟨henabled, hwindow, key, hkey, hrepeats⟩ := h
  obtain ⟨⟨key', hkey', -, hrepeats'⟩, -⟩ | ⟨-, hdup⟩ | ⟨_, _, -, hdup, -⟩ :=
    is_duplicate_cases cfg n.last_sent c.dedup_key c.now
  · obtain rfl : key = key' := Option.some.inj (hkey.symm.trans hkey')
    rw [hrepeats] at hrepeats'
    cases hrepeats'
  all_goals
    rw [(send_of_new henabled hdup).2, if_neg hroom]
    exact delivery_sent_iff.mpr haccepts

end send

/-! ## Section 4: Runs -/

/-- The notifier, and the sends with how they ended, the latest first. -/
structure Channel where
  notifier : Notifier
  log : List (Send × Outcome)

/-- The channel after a send. -/
def Channel.next (cfg : Settings) (r : Channel) (c : Send) : Channel :=
  ⟨(send cfg r.notifier c).2, (c, (send cfg r.notifier c).1) :: r.log⟩

/-- Sends one after another, at any times. -/
def sending (cfg : Settings) : System Channel Send where
  init := fun r => r = ⟨.new, []⟩
  step := fun r c r' => r' = r.next cfg c

/-- A send of the key was sent less than a window before. -/
def DeliveredBefore (cfg : Settings) (log : List (Send × Outcome)) (c : Send) : Prop :=
  ∃ e ∈ log, e.2 = .sent ∧ e.1.dedup_key = c.dedup_key ∧ c.now - e.1.now < cfg.dedup_window

instance (cfg : Settings) (log : List (Send × Outcome)) (c : Send) :
    Decidable (DeliveredBefore cfg log c) :=
  inferInstanceAs (Decidable (∃ e ∈ log, _))

/-- **What is held back was delivered**: every duplicate repeats what Telegram accepted. -/
def OnlyRepeats (cfg : Settings) : List (Send × Outcome) → Prop
  | [] => True
  | (c, outcome) :: earlier =>
      (outcome = .duplicate → c.dedup_key.isSome = true ∧ DeliveredBefore cfg earlier c) ∧
        OnlyRepeats cfg earlier

/-- A send that is let through finds room in the burst window, and Telegram accepts it. -/
def Delivers (cfg : Settings) (r : Channel) (c : Send) : Prop :=
  Stamps cfg r.notifier c →
    ¬ Saturated cfg r.notifier.burst_history c.bypass_burst c.now_burst ∧ Accepts cfg c

section runs

variable {cfg : Settings} {r : Channel} {c : Send}

/-- What is remembered was delivered at that moment, and what was held back was delivered. -/
structure Kept (cfg : Settings) (r : Channel) : Prop where
  remembered : ∀ entry ∈ r.notifier.last_sent.rows, ∃ e ∈ r.log, e.2 = .sent ∧
    e.1.dedup_key = some entry.1 ∧ e.1.now = entry.2
  only_repeats : OnlyRepeats cfg r.log

theorem Kept.next (h : Kept cfg r) (hok : Delivers cfg r c) : Kept cfg (r.next cfg c) where
  remembered := by
    intro entry hentry
    rcases mem_last_sent hentry with hold | ⟨hstamps, hkey, hnow⟩
    -- remembered before, or stamped by this send, which is delivered
    · obtain ⟨e, he, hsent⟩ := h.remembered entry hold
      exact ⟨e, List.mem_cons_of_mem _ he, hsent⟩
    · obtain ⟨hroom, haccepts⟩ := hok hstamps
      exact ⟨_, List.mem_cons_self, send_sent hstamps hroom haccepts, hkey, hnow⟩
  only_repeats := by
    refine ⟨fun hduplicate => ?_, h.only_repeats⟩
    obtain ⟨entry, hentry, hkey, hrecent⟩ := duplicate_repeats hduplicate
    obtain ⟨e, he, hsent, hkey', hnow⟩ := h.remembered entry hentry
    refine ⟨by rw [hkey]; rfl, e, he, hsent, hkey'.trans hkey.symm, ?_⟩
    rwa [hnow]

/-- In every run whose new alerts are all delivered, nothing but a repeat of a delivered alert
    is held back as a duplicate. -/
theorem suppressed_was_delivered (hr : Reachable ((sending cfg).restrict (Delivers cfg)) r) :
    OnlyRepeats cfg r.log := by
  have hkept : Invariant ((sending cfg).restrict (Delivers cfg)) (Kept cfg) := by
    refine Invariant.of_step ?_ ?_
    · rintro r rfl
      exact ⟨fun _ hentry => absurd hentry List.not_mem_nil, trivial⟩
    · rintro r c r' h ⟨hok, rfl⟩
      exact h.next hok
  exact (hkept r hr).only_repeats

end runs

/-! ## Section 5: Alerts of incidents -/

/-- The text of a severity. -/
def severity_text : Execution.Severity → String
  | .info => "info"
  | .warning => "warning"
  | .critical => "critical"

/-- Kinds of warnings that are told. -/
def warning_eligible_event_types : List String :=
  ["trade_gate_blocked", "complete_arb_attempt", "circuit_breaker_open", "circuit_breaker_close"]

/-- The supervisor tells its own. -/
def supervisor_handled : List String := ["one_leg_exposure"]

/-- `telegram_eligible`. -/
def telegram_eligible (severity : Execution.Severity) (event_type : String) : Bool :=
  (severity = .critical || event_type = "stranded_position" ||
    (severity = .warning && event_type ∈ warning_eligible_event_types)) &&
    event_type ∉ supervisor_handled

/-- `record_incident`: what it sends, if anything. -/
def incident_alert (i : Execution.ExecutionIncident) : Option Alert :=
  let event_type := i.metadata.event_type
  if telegram_eligible i.severity event_type then
    let kind := if event_type = "" then severity_text i.severity else event_type
    some { dedup_key := some ("incident:" ++ kind ++ ":" ++ i.canonical_id)
           bypass_burst := event_type = "stranded_position" }
  else none

/-- The burst guard lets every alert of a stranded position pass. -/
theorem stranded_passes_guard {i : Execution.ExecutionIncident} {a : Alert}
    (hstranded : i.metadata.event_type = "stranded_position") (h : incident_alert i = some a)
    (cfg : Settings) (burst_history : List ℚ) (now_burst : ℚ) :
    ¬ Saturated cfg burst_history a.bypass_burst now_burst := by
  intro hsaturated
  have hbypass : a.bypass_burst = true := by
    rw [incident_alert, hstranded] at h
    split at h
    · obtain rfl := Option.some.inj h
      rfl
    · cases h
  rw [hbypass] at hsaturated
  cases hsaturated.1.2

/-! ### An outage and a burst -/

/-- A notifier with the settings it has by default. -/
def desk : Settings := { bot_token := "1:a", chat_id := "1" }

/-- A critical incident of an event. -/
def critical (canonical_id : String) : Execution.ExecutionIncident :=
  ⟨"INC-00000001", "ARB-000001", canonical_id, .critical, "", 0, {}, .opened⟩

/-- Telegram answers every post with one status. -/
def answering (status : ℕ) (now : ℚ) (a : Alert) : Send :=
  { a with now := now, now_burst := now, session := true
           attempts := fun _ => ⟨.response status (some ""), .raised⟩ }

/-- A critical incident of an event is told. -/
def tell (canonical_id : String) (status : ℕ) (now : ℚ) : Send :=
  answering status now ((incident_alert (critical canonical_id)).getD ⟨"HTML", none, false⟩)

/-- The channel after some sends. -/
def after (sends : List Send) : Channel := sends.foldl (Channel.next desk) ⟨.new, []⟩

theorem after_reachable (sends : List Send) : Reachable (sending desk) (after sends) := by
  have hrun : ∀ (sends : List Send) (r : Channel), Reachable (sending desk) r →
      Reachable (sending desk) (sends.foldl (Channel.next desk) r) := by
    intro sends
    induction sends with
    | nil => exact fun _ hr => hr
    | cons c sends ih => exact fun r hr => ih _ (hr.step rfl)
  exact hrun sends _ (.init rfl)

example : (incident_alert (critical "FED")).map (·.dedup_key) =
    some (some "incident:critical:FED") := by decide

/-- `suppressed_was_delivered`, of an alert that is sent and repeated. -/
theorem suppressed_was_delivered_fed :
    (after [tell "FED" 200 0, tell "FED" 200 20]).log.map Prod.snd = [.duplicate, .sent] ∧
      OnlyRepeats desk (after [tell "FED" 200 0, tell "FED" 200 20]).log := by
  have haccepts (now : ℚ) : Accepts desk (tell "FED" 200 now) :=
    ⟨rfl, 0, by decide, rfl, fun j hj => absurd hj (Nat.not_lt_zero j)⟩
  have hstart : Reachable ((sending desk).restrict (Delivers desk)) ⟨.new, []⟩ := .init rfl
  have hone := hstart.step (l := tell "FED" 200 0)
    ⟨fun _ => ⟨by decide +kernel, haccepts 0⟩, rfl⟩
  have htwo := hone.step (l := tell "FED" 200 20)
    ⟨fun _ => ⟨by decide +kernel, haccepts 20⟩, rfl⟩
  exact ⟨by decide +kernel, suppressed_was_delivered htwo⟩

/-- **An alert that nobody got is held back.** Telegram is out of order when the incident is
    told, and not any more 20 seconds later; or five others were told in the same second. -/
theorem undelivered_suppressed :
    (∃ r, Reachable (sending desk) r ∧
        r.log.map Prod.snd = [.duplicate, .failed] ∧ ¬ OnlyRepeats desk r.log) ∧
      ∃ r, Reachable (sending desk) r ∧
        r.log.map Prod.snd = [.duplicate, .burst_dropped, .sent, .sent, .sent, .sent, .sent] ∧
          ¬ OnlyRepeats desk r.log := by
  constructor
  · refine ⟨_, after_reachable [tell "FED" 503 0, tell "FED" 200 20], by decide +kernel, ?_⟩
    intro honly
    have hbefore := (honly.1 (by decide +kernel)).2
    revert hbefore
    decide +kernel
  · refine ⟨_, after_reachable ((["A", "B", "C", "D", "E", "FED"].map fun id => tell id 200 0) ++
      [tell "FED" 200 20]), by decide +kernel, ?_⟩
    intro honly
    have hbefore := (honly.1 (by decide +kernel)).2
    revert hbefore
    decide +kernel

end Telegram
