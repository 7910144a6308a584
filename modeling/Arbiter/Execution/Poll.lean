import Arbiter.Execution.SmartUnwind
import Arbiter.Execution.Place
import Arbiter.Execution.Venue

/-! # What a Poll Proves

  `_poll_submitted_to_terminal` ends on the first answer whose status it takes for
  terminal, PARTIAL and FAILED among them. An adapter that answers FAILED where the venue
  gave no answer ends it as well.

  The main result says in which runs an order that comes back unflagged is over.
-/

namespace Execution

open Effect

/-! ## Section 1: Polls, with the truth -/

/-- The order at its venue, and how the answers so far relate to it. -/
structure PollLog where
  order : VenueOrder
  /-- The cancel was answered, and not by True. -/
  cancel_failed : Bool
  /-- An answer the poll ends on was a final report. -/
  reported : Prop
  /-- An answer the poll ends on was none. -/
  misled : Prop

/-- Nothing asked yet. -/
def PollLog.start (v : VenueOrder) : PollLog := ⟨v, false, False, False⟩

/-- The poll ends on this answer with an order that is not flagged. -/
def trusted (cancel_failed : Bool) (reading : Leg) : Prop :=
  reading.status.terminal ∧ reading.idempotency_ambiguous = false ∧
    (cancel_failed = true → reading.status = .filled)

/-- An answer is noted. -/
def PollLog.heard (w : PollLog) (said : Bool) : Except String Reading → PollLog
  | .error _ => w
  | .ok r =>
      { w with
        reported := w.reported ∨ trusted w.cancel_failed r.order ∧ FinalReport w.order said r.order
        misled := w.misled ∨ trusted w.cancel_failed r.order ∧ ¬ FinalReport w.order said r.order }

/-- The order moves on before every answer, and answers may be anything the adapter
    gives. -/
def polled : Env Call Answer PollLog where
  serve := fun w c a w' => ∃ v, w.order.Moves v ∧
    match c, a with
    | .get_order platform leg, answer =>
        ∃ said, AnswersOn platform leg answer said ∧
          w' = ({ w with order := v } : PollLog).heard said answer
    | .cancel_order .., answer =>
        w' = { w with order := v, cancel_failed := !cancelled_ok answer }
    | _, _ => w' = { w with order := v }

/-- What an unflagged order is taken for: the venue reported it over, with this count. -/
def Proven (result : Leg) (w : PollLog) : Prop :=
  result.idempotency_ambiguous = false →
    w.reported ∧ w.order.ended = true ∧ result.fill_qty = w.order.filled

/-! ## Section 2: One poll -/

section poll

variable {w w' : PollLog} {result current : Leg}

/-- No answer has ended the poll. -/
structure Open (w : PollLog) : Prop where
  unreported : ¬ w.reported
  unmisled : ¬ w.misled

/-- An answer has, or the order is flagged. -/
structure Ended (result : Leg) (w : PollLog) : Prop where
  flagged : result.idempotency_ambiguous = true → ¬ w.misled
  unflagged : result.idempotency_ambiguous = false →
    (w.reported ∧ ¬ w.misled ∧ w.order.ended = true ∧ result.fill_qty = w.order.filled) ∨
      (w.misled ∧ ¬ w.reported)

theorem Ended.proven_iff (h : Ended result w) : Proven result w ↔ ¬ w.misled := by
  unfold Proven
  cases hflag : result.idempotency_ambiguous with
  | true =>
    constructor
    · intro _
      exact h.flagged hflag
    · intro _ hno
      cases hno
  | false =>
    rcases h.unflagged hflag with ⟨hreported, hmisled, hover, hcount⟩ | ⟨hmisled, hreported⟩
    · constructor
      · intro _
        exact hmisled
      · intro _ _
        exact ⟨hreported, hover, hcount⟩
    · constructor
      · intro hproven
        exact absurd (hproven rfl).1 hreported
      · intro hno
        exact absurd hmisled hno

/-- A poll that never asked: the order is proven exactly if it is flagged. -/
theorem Open.proven_iff (h : Open w) :
    Proven result w ↔ result.idempotency_ambiguous = true := by
  constructor
  · intro hproven
    by_contra hflag
    exact h.unreported (hproven (by simpa using hflag)).1
  · intro hflag hno
    rw [hflag] at hno
    cases hno

theorem Open.heard_trusted {said : Bool} {r : Reading} (h : Open w)
    (htrusted : trusted w.cancel_failed r.order) : Ended r.order (w.heard said (.ok r)) := by
  constructor
  · intro hflag
    rw [htrusted.2.1] at hflag
    cases hflag
  · intro _
    by_cases hfinal : FinalReport w.order said r.order
    · left
      refine ⟨.inr ⟨htrusted, hfinal⟩, ?_, hfinal.ended, hfinal.count⟩
      rintro (hmisled | ⟨-, hno⟩)
      · exact h.unmisled hmisled
      · exact hno hfinal
    · right
      refine ⟨.inr ⟨htrusted, hfinal⟩, ?_⟩
      rintro (hreported | ⟨-, hyes⟩)
      · exact h.unreported hreported
      · exact hfinal hyes

theorem Open.heard_untrusted {said : Bool} {r : Reading} (h : Open w)
    (htrusted : ¬ trusted w.cancel_failed r.order) : Open (w.heard said (.ok r)) := by
  constructor
  · rintro (hreported | ⟨hyes, -⟩)
    · exact h.unreported hreported
    · exact htrusted hyes
  · rintro (hmisled | ⟨hyes, -⟩)
    · exact h.unmisled hmisled
    · exact htrusted hyes

theorem Open.ended (h : Open w) (hflag : result.idempotency_ambiguous = true) :
    Ended result w := by
  constructor
  · intro _
    exact h.unmisled
  · intro hno
    rw [hflag] at hno
    cases hno

/-- The rounds end on an answer, or find none to end on. -/
theorem poll_rounds_ends {platform : String} {interval delay : ℚ} {n : ℕ} (h : Open w)
    (hcancel : w.cancel_failed = false) (hlive : ¬ current.status.terminal) :
    wp polled (poll_rounds platform interval delay n current) (fun r w' =>
      match r with
      | .inl terminal => Ended terminal w'
      | .inr left => Open w' ∧ ¬ left.status.terminal) w := by
  induction n generalizing w current delay with
  | zero => exact wp_ret.2 ⟨h, hlive⟩
  | succ n ih =>
    unfold poll_rounds
    refine wp_bind.2 (wp_send.2 fun _ w₁ hsleep => ?_)
    obtain ⟨v₁, hmoves₁, rfl⟩ := hsleep
    refine wp_bind.2 (wp_send.2 fun answer w₂ hread => ?_)
    obtain ⟨v₂, hmoves₂, said, -, rfl⟩ := hread
    have hopen : Open { w with order := v₂ } := ⟨h.unreported, h.unmisled⟩
    cases answer with
    -- A reading that raised tells nothing; the next round reads again.
    | error err => exact ih hopen hcancel hlive
    | ok updated =>
      refine wp_ite.2 ⟨fun hterminal => wp_pure.2 ?_, fun hlive' => ?_⟩
      · show Ended updated.order _
        cases hflag : updated.order.idempotency_ambiguous with
        | true =>
          apply Open.ended _ hflag
          apply hopen.heard_untrusted
          intro htrusted
          rw [htrusted.2.1] at hflag
          cases hflag
        | false =>
          apply hopen.heard_trusted
          refine ⟨hterminal, hflag, fun hfailed => ?_⟩
          rw [show ({ w with order := v₂ } : PollLog).cancel_failed = false from hcancel] at hfailed
          cases hfailed
      · -- A status that is not terminal ends no poll, so it is not trusted.
        have hopen' : Open (({ w with order := v₂ } : PollLog).heard said (.ok updated)) :=
          hopen.heard_untrusted fun htrusted => hlive' htrusted.1
        exact ih hopen' hcancel hlive'

/-- The last reading: it is trusted exactly when the order comes back unflagged. -/
theorem cancel_and_recheck_ends {platform : String} (h : Open w)
    (hlive : ¬ current.status.terminal) :
    wp polled (cancel_and_recheck platform current) Ended w := by
  unfold cancel_and_recheck
  refine wp_bind.2 (wp_send.2 fun answer w₁ hcancel => ?_)
  obtain ⟨v₁, hmoves₁, rfl⟩ := hcancel
  refine wp_bind.2 (wp_send.2 fun read w₂ hread => ?_)
  obtain ⟨v₂, hmoves₂, said, -, rfl⟩ := hread
  generalize hw : ({ order := v₂, cancel_failed := !cancelled_ok answer, reported := w.reported
                     misled := w.misled } : PollLog) = w₂
  have hopen : Open w₂ := by
    rw [← hw]
    exact ⟨h.unreported, h.unmisled⟩
  have hfailed : w₂.cancel_failed = !cancelled_ok answer := by rw [← hw]
  cases read with
  | error err =>
    have hunfilled : current.status ≠ .filled := by
      intro hfilled
      rw [hfilled] at hlive
      exact hlive (by decide)
    exact wp_pure.2 (hopen.ended (mark_ambiguous_flags (.inl hlive) hunfilled))
  | ok refreshed =>
    refine wp_pure.2 ?_
    -- `mark_ambiguous` flags just the readings that are not trusted.
    by_cases htrusted : trusted w₂.cancel_failed refreshed.order
    · obtain ⟨hterminal, -, hfilled⟩ := id htrusted
      have hkept : mark_ambiguous (cancelled_ok answer) refreshed.order = refreshed.order := by
        unfold mark_ambiguous
        apply if_neg
        rintro ⟨hno | hno, hunfilled⟩
        · exact hno hterminal
        · rw [hfailed, hno] at hfilled
          exact hunfilled (hfilled rfl)
      rw [hkept]
      exact hopen.heard_trusted htrusted
    · apply (hopen.heard_untrusted htrusted).ended
      cases hflag : refreshed.order.idempotency_ambiguous with
      | true => exact mark_ambiguous_keeps hflag
      | false =>
        -- unflagged and untrusted: not terminal, or the cancel failed
        unfold trusted at htrusted
        rw [hfailed] at htrusted
        by_cases hterminal : refreshed.order.status.terminal
        · have hno : ¬ ((!cancelled_ok answer) = true → refreshed.order.status = .filled) :=
            fun hyes => htrusted ⟨hterminal, hflag, hyes⟩
          rw [Classical.not_imp] at hno
          apply mark_ambiguous_flags (.inr _) hno.2
          simpa using hno.1
        · apply mark_ambiguous_flags (.inl hterminal)
          rintro hfilled
          rw [hfilled] at hterminal
          exact hterminal (by decide)

/-- A poll that can ask ends on an answer, or with the order flagged. -/
theorem poll_submitted_to_terminal_ends {eng : Engine} {adapter : Adapter} {platform : String}
    (h : Open w) (hcancel : w.cancel_failed = false) (hlive : ¬ current.status.terminal)
    (hpoll : pollable eng adapter platform current) :
    wp polled (poll_submitted_to_terminal eng adapter platform current) Ended w := by
  unfold poll_submitted_to_terminal
  rw [if_pos hpoll]
  refine wp_bind.2 (wp_send.2 fun rounds w₁ hrounds => ?_)
  obtain ⟨v₁, hmoves₁, rfl⟩ := hrounds
  have hopen : Open { w with order := v₁ } := ⟨h.unreported, h.unmisled⟩
  refine wp_bind.2 (wp_mono (poll_rounds_ends hopen hcancel hlive) ?_)
  intro r w₂ hr
  cases r with
  | inl terminal => exact wp_pure.2 hr
  | inr left => exact cancel_and_recheck_ends hr.1 hr.2

end poll

/-! ## Section 3: When the poll is sound -/

/-- **An order the poll returns unflagged was reported over, with its final count** if
    and only if it could be polled at all, or was flagged before, and no answer misled
    the poll. -/
theorem poll_sound_iff (eng : Engine) (adapter : Adapter) (platform : String) (order : Leg)
    (hsubmitted : order.status = .submitted) (v : VenueOrder) (result : Leg) (w : PollLog)
    (hrun : Exec polled (poll_submitted_to_terminal eng adapter platform order) (.start v)
      result w) :
    Proven result w ↔
      (pollable eng adapter platform order ∨ order.idempotency_ambiguous = true) ∧ ¬ w.misled := by
  have hopen : Open (.start v) := ⟨id, id⟩
  have hlive : ¬ order.status.terminal := by
    rw [hsubmitted]
    decide
  by_cases hpoll : pollable eng adapter platform order
  · have hended := poll_submitted_to_terminal_ends hopen rfl hlive hpoll result w hrun
    rw [hended.proven_iff]
    simp only [hpoll, true_or, true_and]
  · -- An order that cannot be polled comes back as it is.
    unfold poll_submitted_to_terminal at hrun
    rw [if_neg hpoll] at hrun
    obtain ⟨rfl, rfl⟩ := exec_ret.1 hrun
    rw [hopen.proven_iff]
    constructor
    · intro hflag
      exact ⟨.inr hflag, id⟩
    · rintro ⟨hyes | hflag, -⟩
      · exact absurd hyes hpoll
      · exact hflag

/-! ### Two polls -/

/-- Ten NO contracts, accepted by Kalshi and not matched yet. -/
def resting_on_kalshi : Leg :=
  Order.synthetic "9f4" "kalshi" "KX-1" "mkt-1" .no (2 / 5) 10 .submitted ""

/-- Kalshi's answer that the order is executed. -/
def executed_ten : Kalshi.Response ℕ where
  status_code := 200
  payload := ""
  json := some (.obj [("order", .obj [("status", .str "executed" none),
    ("fill_count_fp", .str "10.00" (some 10))])])
  penalty_text := ""
  parse_exc := ""

/-- Kalshi's rate limit. -/
def rate_limited : Kalshi.Response ℕ where
  status_code := 429
  payload := ""
  json := none
  penalty_text := "2.0"
  parse_exc := ""

/-- Kalshi's adapter. -/
def kalshi_adapter : Adapter where
  async_place_ioc := true
  has_check_depth := true
  has_get_order := true
  async_get_order := true
  has_best_executable_price := true
  has_place_resting_sell := true
  has_place_unwind_sell := true

/-- The log once Kalshi's first answer came, with `v` true of the order by then. -/
def told (v : VenueOrder) (response : Kalshi.Response ℕ) : PollLog :=
  (PollLog.start v).heard (Kalshi.reported true (.ok response))
    (.ok ⟨Kalshi.get_order true (.ok response) resting_on_kalshi, true⟩)

/-- The first answer ends the poll. -/
theorem first_answer_run (v : VenueOrder) (response : Kalshi.Response ℕ)
    (hterminal : (Kalshi.get_order true (.ok response) resting_on_kalshi).status.terminal) :
    Exec polled (poll_submitted_to_terminal (kalshi_engine true) kalshi_adapter "kalshi"
        resting_on_kalshi) (.start ⟨false, 0⟩)
      (Kalshi.get_order true (.ok response) resting_on_kalshi) (told v response) := by
  have hpoll : pollable (kalshi_engine true) kalshi_adapter "kalshi" resting_on_kalshi := by
    decide +kernel
  have hmoves : (⟨false, 0⟩ : VenueOrder).Moves v := ⟨fun h => (by cases h), Nat.zero_le _⟩
  have hread : polled.serve (.start ⟨false, 0⟩) (.get_order "kalshi" resting_on_kalshi)
      (.ok ⟨Kalshi.get_order true (.ok response) resting_on_kalshi, true⟩) (told v response) :=
    ⟨v, hmoves, _, fun _ => ⟨true, .ok response, rfl, rfl⟩, rfl⟩
  have hrounds : ∀ interval delay, Exec polled (poll_rounds "kalshi" interval delay 1
      resting_on_kalshi) (.start ⟨false, 0⟩)
      (.inl (Kalshi.get_order true (.ok response) resting_on_kalshi)) (told v response) := by
    intro interval delay
    have hsleep : polled.serve (.start ⟨false, 0⟩) (.sleep delay) () (.start ⟨false, 0⟩) :=
      ⟨_, .refl _, rfl⟩
    refine .call hsleep (.call hread ?_)
    show Exec polled (if _ then _ else _) _ _ _
    rw [if_pos hterminal]
    exact .ret _ _
  have hleft : polled.serve (.start ⟨false, 0⟩) (.rounds_left (poll_timeout_for_platform
      (kalshi_engine true) (if resting_on_kalshi.platform = "" then "kalshi"
        else resting_on_kalshi.platform))) 1 (.start ⟨false, 0⟩) := ⟨_, .refl _, rfl⟩
  unfold poll_submitted_to_terminal
  rw [if_pos hpoll]
  exact exec_bind.2 ⟨1, _, .call hleft (.ret _ _), exec_bind.2 ⟨_, _, hrounds _ _, .ret _ _⟩⟩

/-- Kalshi executed the ten contracts and said so. -/
theorem poll_sound_executed : ∃ (result : Leg) (w : PollLog),
    Exec polled (poll_submitted_to_terminal (kalshi_engine true) kalshi_adapter "kalshi"
      resting_on_kalshi) (.start ⟨false, 0⟩) result w ∧
    result.status = .filled ∧ result.fill_qty = 10 ∧ Proven result w := by
  have hrun := first_answer_run ⟨true, 10⟩ executed_ten (by decide)
  have hpoll : pollable (kalshi_engine true) kalshi_adapter "kalshi" resting_on_kalshi := by
    decide +kernel
  refine ⟨_, _, hrun, by decide, by decide, ?_⟩
  apply (poll_sound_iff _ _ _ _ rfl _ _ _ hrun).2
  refine ⟨.inl hpoll, ?_⟩
  rintro (hno | ⟨-, hno⟩)
  · exact hno
  · exact hno ⟨by decide, rfl, by decide⟩

/-- Ten contracts fill while Kalshi limits the rate: the order comes back FAILED, with no
    fill and unflagged. -/
theorem rate_limited_poll_lies : ∃ (result : Leg) (w : PollLog),
    Exec polled (poll_submitted_to_terminal (kalshi_engine true) kalshi_adapter "kalshi"
      resting_on_kalshi) (.start ⟨false, 0⟩) result w ∧
    result.idempotency_ambiguous = false ∧ result.status = .failed ∧ result.fill_qty = 0 ∧
    w.order.filled = 10 ∧ ¬ Proven result w := by
  have hrun := first_answer_run ⟨true, 10⟩ rate_limited (by decide)
  refine ⟨_, _, hrun, by decide, by decide, by decide, rfl, ?_⟩
  intro hproven
  have hcount := (hproven (by decide)).2.2
  exact absurd hcount (by decide)

end Execution
