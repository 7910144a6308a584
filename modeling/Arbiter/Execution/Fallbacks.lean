import Arbiter.Framework.Decimal
import Arbiter.Execution.SmartUnwind
import Arbiter.Execution.Place

/-! # The Secondary-Leg Chain

  `_execute_with_fallbacks` sends the secondary leg up to N+2 times: an IOC at the
  walked price, an IOC per requote, a FOK as the last rung. Each attempt is a new
  order at the venue, so an attempt may only follow orders known to be dead.

  ## Contents

  - Section 1: the program.
  - Section 2: the venue, with one order per attempt.
  - Section 3: which answers end a rung with its outcome known.
  - Section 4: the chain never stacks attempts, and reports what was filled.
-/

namespace Execution

open Effect

/-! ## Section 1: Model -/

/-- The arguments of `_execute_with_fallbacks` that say what to send. -/
structure SecondaryLeg where
  arb_id : String
  platform : String
  market_id : String
  canonical_id : String
  side : Side
  initial_price : ℚ≥0
  qty : ℕ
  max_affordable_price : ℚ≥0
  break_even_price : Option ℚ≥0

/-- The order of one attempt. -/
def SecondaryLeg.request (leg : SecondaryLeg) (arb_id : String) (price : ℚ≥0) : OrderRequest where
  arb_id := arb_id
  market_id := leg.market_id
  canonical_id := leg.canonical_id
  side := leg.side
  price := price
  qty := leg.qty

/-- The id the FOK rung is sent under. -/
def SecondaryLeg.last_id (leg : SecondaryLeg) : String := leg.arb_id ++ "-F3"

/-- The price a requote may go up to: break-even on the final attempt. -/
def SecondaryLeg.ceiling (leg : SecondaryLeg) (is_final : Bool) : ℚ≥0 :=
  match leg.break_even_price with
  | some break_even =>
      if is_final ∧ leg.max_affordable_price < break_even then break_even
      else leg.max_affordable_price
  | none => leg.max_affordable_price

/-- `f"RQ{attempt}:{text}"`. -/
def requote_note (attempt : ℕ) (text : String) : String := "RQ" ++ toString attempt ++ ":" ++ text

/-- The pause before a requote. -/
def requote_delay (eng : Engine) : Exe Unit :=
  if 0 < eng.secondary_requote_delay_ms then sleep (eng.secondary_requote_delay_ms / 1000)
  else .ret ()

/-- The requote loop, `left` attempts from its end. Ends with the order to return
    (`inl`), or with the last order tried and the notes so far (`inr`). -/
def requote (eng : Engine) (leg : SecondaryLeg) :
    ℕ → Option Leg → List String → Exe (Except String (Leg ⊕ (Option Leg × List String)))
  | 0, order, notes => .ret (.ok (.inr (order, notes)))
  | left + 1, order, notes => do
      let attempt := eng.secondary_requote_attempts - left
      requote_delay eng
      match ← best_executable_price leg.platform leg.market_id leg.side leg.qty with
      | .error _ => requote eng leg left order (notes ++ [requote_note attempt "walk-error"])
      | .ok (fillable, walked) =>
          -- the last attempt may go up to the break-even price
          let ceiling := leg.ceiling (left = 0)
          if fillable = false ∨ walked ≤ 0 then
            requote eng leg left order (notes ++ [requote_note attempt "no-book"])
          else if ceiling + 1 / 10 ^ 9 < walked then
            requote eng leg left order (notes ++ [requote_note attempt
              ("walked=" ++ Decimal.fixed 4 walked ++ ">cap=" ++ Decimal.fixed 4 ceiling)])
          else
            match ← place_order_for_leg eng leg.platform
              (leg.request (leg.arb_id ++ "-RQ" ++ toString attempt) ceiling) true none
              (some leg.arb_id) with
            | .error err => return .error err
            | .ok retry =>
                if retry.status = .filled ∨ retry.status = .partialFill then
                  return .ok (.inl retry)
                else if retry.idempotency_ambiguous then
                  -- it may rest at the venue: nothing is stacked on it
                  return .ok (.inl
                    { retry with
                      error := retry.error ++
                        "; requote retry suppressed - idempotency unproven" })
                else
                  requote eng leg left (some retry)
                    (notes ++ [requote_note attempt retry.status.value])

/-- The order returned when every attempt failed, with the trail of errors. -/
def exhausted (leg : SecondaryLeg) (order : Option Leg) (notes : List String) (order3 : Leg) :
    Leg :=
  { order.getD order3 with
    error := "All fallbacks exhausted: IOC@" ++ Decimal.fixed 4 leg.initial_price ++ " -> " ++
      (match order with
        | some o => o.status.value
        | none => "skipped") ++
      ", requote[" ++ (if notes = [] then "none" else "; ".intercalate notes) ++ "], FOK@" ++
      Decimal.fixed 4 leg.max_affordable_price ++ " -> " ++ order3.status.value }

/-- Everything after the first attempt: the requotes, then the FOK rung. -/
def retry_chain (eng : Engine) (leg : SecondaryLeg) (skip_initial_attempt : Bool)
    (order : Option Leg) : Exe (Except String (Option Leg)) := do
  let can_walk := match eng.adapters leg.platform with
    | some adapter => adapter.has_best_executable_price
    | none => false
  match ← requote eng leg (if can_walk then eng.secondary_requote_attempts else 0) order [] with
  | .error err => return .error err
  | .ok (.inl done) => return .ok (some done)
  | .ok (.inr (order, notes)) =>
      if skip_initial_attempt ∧ order = none then return .ok none
      else
        match ← place_order_for_leg eng leg.platform
          (leg.request leg.last_id leg.max_affordable_price) false none (some leg.arb_id) with
        | .error err => return .error err
        | .ok order3 =>
            if order3.status = .filled then return .ok (some order3)
            else return .ok (some (exhausted leg order notes order3))

/-- `_execute_with_fallbacks`. -/
def execute_with_fallbacks (eng : Engine) (leg : SecondaryLeg) (skip_initial_attempt : Bool) :
    Exe (Except String (Option Leg)) := do
  if skip_initial_attempt then retry_chain eng leg true none
  else
    match ← place_order_for_leg eng leg.platform (leg.request leg.arb_id leg.initial_price) true
      none none with
    | .error err => return .error err
    | .ok order =>
        if order.status = .filled ∨ order.status = .partialFill then return .ok (some order)
        else if order.idempotency_ambiguous then
          -- C3: a retry could stack on a latent fill
          return .ok (some
            { order with
              error := order.error ++ "; fallback retry suppressed - idempotency unproven" })
        else retry_chain eng leg false (some order)

/-! ## Section 2: The venue -/

/-- One order sent to the venue, and what is known of it. -/
structure Attempt where
  /-- Contracts asked for. -/
  qty : ℕ
  /-- Sent as the last rung. -/
  last : Bool
  /-- On the book. -/
  live : Bool
  filled : ℕ
  /-- Fills in the last answer about it. -/
  reported : ℕ
  /-- An answer showed it terminal. -/
  proven : Bool
  /-- The answer of the cancel of its poll, once sent. -/
  cancelled : Option Bool
  deriving DecidableEq

/-- Proven to be terminal, with zero fills. -/
def Attempt.settled (a : Attempt) : Bool := a.proven && !a.live && a.filled == 0

/-- Time passes: on the book an order may fill up to its quantity, and it may leave
    the book; off the book it does neither. -/
def Attempt.Drift (a a' : Attempt) : Prop :=
  ∃ live filled, a' = { a with live := live, filled := filled } ∧
    (a.filled ≤ a.qty → filled ≤ a.qty) ∧
    (a.live = false → live = false ∧ filled = a.filled)

/-- The orders sent so far, newest first. -/
structure Chain where
  attempts : List Attempt
  /-- Ghost: some order was sent while an earlier one was not settled. -/
  stacked : Bool

/-- Nothing sent. -/
def Chain.fresh : Chain := { attempts := [], stacked := false }

/-- Time passes for every order. -/
def Chain.Drift (w w' : Chain) : Prop :=
  w'.stacked = w.stacked ∧ List.Forall₂ Attempt.Drift w.attempts w'.attempts

/-- One more order is sent. -/
def Chain.submit (w : Chain) (a : Attempt) : Chain where
  attempts := a :: w.attempts
  stacked := w.stacked || !w.attempts.all Attempt.settled

/-- What an answer tells of the newest order. -/
def Attempt.read (a : Attempt) : Except String Reading → Attempt
  | .ok r =>
      { a with
        reported := r.order.fill_qty
        proven := a.proven || decide r.order.status.terminal }
  | .error _ => a

/-- A new order, as its placement is answered. -/
def Attempt.placed (qty : ℕ) (last live : Bool) (filled : ℕ) : Except PlaceFailure Leg → Attempt
  | .ok o =>
      { qty := qty, last := last, live := live, filled := filled, reported := o.fill_qty
        proven := decide o.status.terminal, cancelled := none }
  | .error _ =>
      { qty := qty, last := last, live := live, filled := filled, reported := 0
        proven := false, cancelled := none }

/-- A reported order is the truth: its fills, and off the book once terminal. -/
def truthful_report (order : Leg) (filled : ℕ) (live : Bool) : Prop :=
  order.fill_qty = filled ∧ (order.status.terminal → live = false)

/-- A placement: the order may have reached the venue whatever the answer. -/
def Chain.Places (last_id : String) (req : OrderRequest) (answer : Except PlaceFailure Leg)
    (w w' : Chain) : Prop :=
  ∃ w₁ live filled, w.Drift w₁ ∧ filled ≤ req.qty ∧
    (∀ order, answer = .ok order → truthful_report order filled live) ∧
    w' = w₁.submit (.placed req.qty (decide (req.arb_id = last_id)) live filled answer)

/-- The venue of the secondary leg. Reads and cancels are about the newest order. -/
def attempt_venue (last_id : String) : Env Call Answer Chain where
  serve := fun w c a w' =>
    match c, a with
    | .place_ioc _ req, a => w.Places last_id req a w'
    | .place_fok _ req, a => w.Places last_id req a w'
    | .get_order _ _, a =>
        ∃ newest rest stacked, w.Drift ⟨newest :: rest, stacked⟩ ∧
        (∀ r, a = .ok r → truthful_report r.order newest.filled newest.live) ∧
        w' = ⟨newest.read a :: rest, stacked⟩
    | .cancel_order _ _, a =>
        ∃ newest rest stacked live, w.Drift ⟨newest :: rest, stacked⟩ ∧
        (newest.live = false → live = false) ∧
        w' = ⟨{ newest with live := live, cancelled := some (cancelled_ok a) } :: rest, stacked⟩
    | _, _ => w.Drift w'

/-! ## Section 3: Answers that settle a rung -/

/-- The order ends its rung with the outcome known: it is filled, or it is dead
    with nothing filled. Before the last rung the chain also stops on a partial
    fill and on an order flagged ambiguous. -/
def Settles (last : Bool) (o : Leg) : Prop :=
  o.status = .filled ∨ (o.status.terminalFailed ∧ o.fill_qty = 0) ∨
    (last = false ∧ (o.status = .partialFill ∨ o.idempotency_ambiguous))

theorem Settles.marked {last ok : Bool} {o : Leg} (h : Settles last o) :
    Settles last (mark_ambiguous ok o) := by
  unfold Settles at h ⊢
  rw [mark_ambiguous_status, mark_ambiguous_fill_qty]
  rcases h with h | h | ⟨hlast, h | h⟩
  · exact .inl h
  · exact .inr (.inl h)
  · exact .inr (.inr ⟨hlast, .inl h⟩)
  · exact .inr (.inr ⟨hlast, .inr (mark_ambiguous_keeps h)⟩)

/-- Only a flagged order settles its rung while it is not terminal. -/
theorem Settles.flagged_of_open {last : Bool} {o : Leg} (h : Settles last o)
    (hopen : ¬ o.status.terminal) : last = false ∧ o.idempotency_ambiguous := by
  unfold OrderStatus.terminal at hopen
  rcases h with h | ⟨h, -⟩ | ⟨hlast, h | h⟩
  · exact absurd (.inl h) hopen
  · unfold OrderStatus.terminalFailed at h
    tauto
  · exact absurd (.inr (.inl h)) hopen
  · exact ⟨hlast, h⟩

/-- A placement's answer that leaves nothing open: the order settles its rung, or
    it rests and can be polled. The last rung does not time out. -/
def PlacementSettles (eng : Engine) (platform : String) (last : Bool) :
    Except PlaceFailure Leg → Prop
  | .ok o => Settles last o ∨
      (o.status = .submitted ∧
        ∀ adapter, eng.adapters platform = some adapter → pollable eng adapter platform o)
  | .error .timeout => last = false
  | .error (.raised _) => True

/-- A reading that leaves nothing open: a terminal order settles its rung. After the
    cancel the order is terminal, or, before the last rung, gets flagged. -/
def ReadingSettles (last : Bool) (cancelled : Option Bool) : Except String Reading → Prop
  | .ok r =>
      match cancelled with
      | none => r.order.status.terminal → Settles last r.order
      | some ok => Settles last r.order ∨
          (last = false ∧ (ok = false ∨ ¬ r.order.status.terminal))
  | .error _ => cancelled = none ∨ last = false

/-- Every answer about an order leaves nothing open. -/
def answers_settle (eng : Engine) (last_id : String) (w : Chain) : (c : Call) → Answer c → Prop
  | .place_ioc platform req, a => PlacementSettles eng platform (decide (req.arb_id = last_id)) a
  | .place_fok platform req, a => PlacementSettles eng platform (decide (req.arb_id = last_id)) a
  | .get_order _ _, a => ∀ newest ∈ w.attempts.head?, ReadingSettles newest.last newest.cancelled a
  | _, _ => True

/-! ## Section 4: No stacking -/

/-- No order was sent on top of an open one, and no more than asked is filled. -/
structure NeverStacks (qty : ℕ) (w : Chain) : Prop where
  stacked : w.stacked = false
  filled : (w.attempts.map Attempt.filled).sum ≤ qty

/-- The returned order reports the fills of all attempts, which is what was filled
    when every attempt is proven, and is flagged when one is not. -/
structure ReportsAll (o : Leg) (w : Chain) : Prop where
  reported : o.fill_qty = (w.attempts.map Attempt.reported).sum
  filled : (∀ a ∈ w.attempts, a.proven) → o.fill_qty = (w.attempts.map Attempt.filled).sum
  flagged : (∃ a ∈ w.attempts, a.proven = false) → o.idempotency_ambiguous

/-- Over, with nothing filled and nothing reported. -/
def Attempt.Closed (a : Attempt) : Prop := a.settled ∧ a.reported = 0

/-- Every order so far is over, with nothing filled. -/
structure AllClosed (w : Chain) : Prop where
  stacked : w.stacked = false
  closed : ∀ a ∈ w.attempts, a.Closed

/-- `newest` is in hand, on top of closed orders: what was reported of it, whether it
    is proven, and whether its cancel went out. -/
structure Held (qty : ℕ) (last : Bool) (reported : ℕ) (proven : Bool) (cancelled : Option Bool)
    (newest : Attempt) (rest : List Attempt) (w : Chain) : Prop where
  attempts : w.attempts = newest :: rest
  stacked : w.stacked = false
  closed : ∀ a ∈ rest, a.Closed
  qty : newest.qty = qty
  last : newest.last = last
  reported : newest.reported = reported
  proven : newest.proven = proven
  cancelled : newest.cancelled = cancelled
  fits : newest.filled ≤ newest.qty
  truth : newest.proven → newest.live = false ∧ newest.filled = newest.reported

/-! ### Time passing -/

theorem Attempt.Closed.drift {a a' : Attempt} (h : a.Closed) (hd : a.Drift a') : a' = a := by
  obtain ⟨live, filled, rfl, -, hdead⟩ := hd
  have hs := h.1
  simp only [Attempt.settled, Bool.and_eq_true, Bool.not_eq_true', beq_iff_eq] at hs
  obtain ⟨hlive, hfilled⟩ := hdead hs.1.2
  rw [hlive, hfilled, ← hs.1.2]

theorem closed_drift {l l' : List Attempt} (h : ∀ a ∈ l, a.Closed)
    (hd : List.Forall₂ Attempt.Drift l l') : l' = l := by
  induction hd with
  | nil => rfl
  | cons hhead _ ih =>
    have hhd := (h _ (List.mem_cons_self ..)).drift hhead
    have htl := ih fun a ha => h a (List.mem_cons_of_mem _ ha)
    rw [hhd, htl]

theorem AllClosed.drift {w w' : Chain} (h : AllClosed w) (hd : w.Drift w') : w' = w := by
  have hs := hd.1
  have ha := closed_drift h.closed hd.2
  cases w
  cases w'
  simp only at hs ha
  rw [hs, ha]

/-- Some newest order is in hand. -/
def InHand (qty : ℕ) (last : Bool) (reported : ℕ) (proven : Bool) (cancelled : Option Bool)
    (w : Chain) : Prop :=
  ∃ newest rest, Held qty last reported proven cancelled newest rest w

/-- The order in hand stays in hand: it may have filled, that is all. -/
theorem InHand.drift {qty reported : ℕ} {last proven : Bool} {cancelled : Option Bool}
    {w w' : Chain} (h : InHand qty last reported proven cancelled w) (hd : w.Drift w') :
    InHand qty last reported proven cancelled w' := by
  obtain ⟨newest, rest, h⟩ := h
  obtain ⟨hstacked, hattempts⟩ := hd
  rw [h.attempts] at hattempts
  generalize hl : w'.attempts = l at hattempts
  cases hattempts with
  | cons hhead htail =>
    obtain ⟨live, filled, rfl, hfits, hdead⟩ := hhead
    rw [closed_drift h.closed htail] at hl
    refine ⟨_, rest, hl, hstacked.trans h.stacked, h.closed, h.qty, h.last, h.reported, h.proven,
      h.cancelled, hfits h.fits, ?_⟩
    intro hproven
    obtain ⟨hlive, hreported⟩ := h.truth hproven
    obtain ⟨hlive', hfilled'⟩ := hdead hlive
    exact ⟨hlive', hfilled'.trans hreported⟩

/-! ### Placing, reading, cancelling -/

/-- Sending an order on top of closed ones is not stacking. -/
theorem AllClosed.submit {w w₁ : Chain} (h : AllClosed w) (hd : w.Drift w₁) (a : Attempt) :
    w₁.submit a = ⟨a :: w.attempts, false⟩ := by
  have hall : w.attempts.all Attempt.settled = true :=
    List.all_eq_true.2 fun a ha => (h.closed a ha).1
  rw [h.drift hd]
  simp only [Chain.submit, h.stacked, hall, Bool.not_true, Bool.or_false]

/-- A placement that answers an order puts it in hand. -/
theorem AllClosed.places_ok {last_id : String} {req : OrderRequest} {w w' : Chain} {o : Leg}
    (h : AllClosed w) (hp : w.Places last_id req (.ok o) w') :
    InHand req.qty (decide (req.arb_id = last_id)) o.fill_qty (decide o.status.terminal) none
      w' := by
  obtain ⟨w₁, live, filled, hd, hle, htrue, rfl⟩ := hp
  obtain ⟨hfill, hdead⟩ := htrue o rfl
  rw [h.submit hd]
  refine ⟨_, w.attempts, rfl, rfl, h.closed, rfl, rfl, rfl, rfl, rfl, hle, fun hproven => ?_⟩
  exact ⟨hdead (of_decide_eq_true hproven), hfill.symm⟩

/-- A placement that raises puts an order in hand that nothing is known of. -/
theorem AllClosed.places_error {last_id : String} {req : OrderRequest} {w w' : Chain}
    {err : PlaceFailure} (h : AllClosed w) (hp : w.Places last_id req (.error err) w') :
    InHand req.qty (decide (req.arb_id = last_id)) 0 false none w' := by
  obtain ⟨w₁, live, filled, hd, hle, -, rfl⟩ := hp
  rw [h.submit hd]
  exact ⟨_, w.attempts, rfl, rfl, h.closed, rfl, rfl, rfl, rfl, rfl, hle,
    fun hproven => Bool.noConfusion hproven⟩

/-- A reading of the order in hand. -/
theorem InHand.reads_ok {qty reported : ℕ} {last proven : Bool} {cancelled : Option Bool}
    {newest : Attempt} {rest : List Attempt} {stacked : Bool} {r : Reading}
    (h : InHand qty last reported proven cancelled ⟨newest :: rest, stacked⟩)
    (htrue : truthful_report r.order newest.filled newest.live) :
    InHand qty last r.order.fill_qty (proven || decide r.order.status.terminal) cancelled
      ⟨newest.read (.ok r) :: rest, stacked⟩ := by
  obtain ⟨_, _, h⟩ := h
  obtain ⟨rfl, rfl⟩ := List.cons.inj h.attempts
  obtain ⟨hfill, hdead⟩ := htrue
  refine ⟨_, _, rfl, h.stacked, h.closed, h.qty, h.last, rfl, ?_, h.cancelled, h.fits, ?_⟩
  · simp only [Attempt.read, h.proven]
  · intro hproven
    refine ⟨?_, hfill.symm⟩
    rcases (Bool.or_eq_true_iff ..).1 hproven with hbefore | hnow
    · exact (h.truth hbefore).1
    · exact hdead (of_decide_eq_true hnow)

/-- A cancel of the order in hand. -/
theorem InHand.cancels {qty reported : ℕ} {last proven live : Bool} {cancelled : Option Bool}
    {newest : Attempt} {rest : List Attempt} {stacked : Bool} (ok : Bool)
    (h : InHand qty last reported proven cancelled ⟨newest :: rest, stacked⟩)
    (hlive : newest.live = false → live = false) :
    InHand qty last reported proven (some ok)
      ⟨{ newest with live := live, cancelled := some ok } :: rest, stacked⟩ := by
  obtain ⟨_, _, h⟩ := h
  obtain ⟨rfl, rfl⟩ := List.cons.inj h.attempts
  refine ⟨_, _, rfl, h.stacked, h.closed, h.qty, h.last, h.reported, h.proven, rfl, h.fits, ?_⟩
  intro hproven
  have htruth := h.truth hproven
  exact ⟨hlive htruth.1, htruth.2⟩

/-- What the environment says of a reading is about the order in hand. -/
theorem InHand.settles {qty reported : ℕ} {last proven : Bool} {cancelled : Option Bool}
    {w : Chain} {answer : Except String Reading}
    (h : InHand qty last reported proven cancelled w)
    (hok : ∀ newest ∈ w.attempts.head?, ReadingSettles newest.last newest.cancelled answer) :
    ReadingSettles last cancelled answer := by
  obtain ⟨newest, rest, h⟩ := h
  have hnewest := hok newest (by rw [h.attempts]; rfl)
  rw [h.last, h.cancelled] at hnewest
  exact hnewest

/-! ### One attempt -/

section attempt

variable {eng : Engine} {last_id : String}

/-- The attempt is over: `o` reports it, and either the outcome is proven and settles
    the rung, or the order is flagged before the last rung. -/
def Finished (qty : ℕ) (last : Bool) (o : Leg) (w : Chain) : Prop :=
  ∃ proven cancelled, InHand qty last o.fill_qty proven cancelled w ∧
    ((proven = true ∧ o.status.terminal ∧ Settles last o) ∨
      (last = false ∧ o.idempotency_ambiguous = true))

theorem Finished.drift {qty : ℕ} {last : Bool} {o : Leg} {w w' : Chain}
    (h : Finished qty last o w) (hd : w.Drift w') : Finished qty last o w' := by
  obtain ⟨proven, cancelled, hhand, hend⟩ := h
  exact ⟨proven, cancelled, hhand.drift hd, hend⟩

/-- Polling ends with a settled order, or with the order still in hand. -/
private theorem poll_rounds_spec {platform : String} {interval delay : ℚ} {n qty : ℕ}
    {last : Bool} {current : Leg} {w : Chain}
    (h : InHand qty last current.fill_qty false none w) (hc : ¬ current.status.terminal) :
    wp ((attempt_venue last_id).restrict (answers_settle eng last_id))
      (poll_rounds platform interval delay n current)
      (fun r w' => match r with
        | .inl o => Finished qty last o w'
        | .inr o => InHand qty last o.fill_qty false none w' ∧ ¬ o.status.terminal) w := by
  induction n generalizing delay current w with
  | zero =>
    simp only [poll_rounds, wp_ret]
    exact ⟨h, hc⟩
  | succ n ih =>
    simp only [poll_rounds, wp_bind, wp_send]
    intro _ w₁ hsleep answer w₂ hread
    have h₁ := h.drift hsleep.2
    obtain ⟨hok, newest, rest, stacked, hd, htrue, rfl⟩ := hread
    have hsettles := h₁.settles hok
    cases answer with
    -- a read that raises leaves the order in hand as it was
    | error _ => exact ih (h₁.drift hd) hc
    | ok r =>
      have h₂ := (h₁.drift hd).reads_ok (htrue r rfl)
      rw [Bool.false_or] at h₂
      simp only [wp_ite, wp_pure]
      constructor
      · intro hterminal
        have hproven : decide r.order.status.terminal = true := decide_eq_true hterminal
        exact ⟨_, _, h₂, .inl ⟨hproven, hterminal, hsettles hterminal⟩⟩
      · intro hterminal
        rw [decide_eq_false hterminal] at h₂
        exact ih h₂ hterminal

/-- The end of a poll: the last reading settles the rung, or the order is flagged. -/
private theorem cancel_and_recheck_spec {platform : String} {qty : ℕ} {last : Bool}
    {current : Leg} {w : Chain} (h : InHand qty last current.fill_qty false none w)
    (hc : ¬ current.status.terminal) :
    wp ((attempt_venue last_id).restrict (answers_settle eng last_id))
      (cancel_and_recheck platform current) (fun o w' => Finished qty last o w') w := by
  simp only [cancel_and_recheck, wp_bind, wp_send]
  intro answer w₁ hcancel reading w₂ hread
  obtain ⟨-, newest, rest, stacked, live, hd, hlive, rfl⟩ := hcancel
  have h₁ := (h.drift hd).cancels (cancelled_ok answer) hlive
  obtain ⟨hok, newest', rest', stacked', hd', htrue, rfl⟩ := hread
  have hsettles := h₁.settles hok
  cases reading with
  | error _ =>
    have hlast : last = false := hsettles.resolve_left (by simp)
    -- the re-read failed as well: the order stays open and is flagged
    have hfilled : current.status ≠ .filled := fun hf => hc (.inl hf)
    have h₂ := h₁.drift hd'
    simp only [wp_pure]
    exact ⟨_, _, (mark_ambiguous_fill_qty _ current).symm ▸ h₂,
      .inr ⟨hlast, mark_ambiguous_flags (.inl hc) hfilled⟩⟩
  | ok r =>
    have h₂ := (h₁.drift hd').reads_ok (htrue r rfl)
    simp only [wp_pure]
    refine ⟨_, _, (mark_ambiguous_fill_qty _ r.order).symm ▸ h₂, ?_⟩
    by_cases hterminal : r.order.status.terminal
    · rcases hsettles with hsettled | ⟨hlast, hopen⟩
      · exact .inl ⟨by simp [hterminal], by simpa using hterminal, hsettled.marked⟩
      · -- a fill is proof even when the cancel failed
        by_cases hfilled : r.order.status = .filled
        · exact .inl ⟨by simp [hterminal], by simpa using hterminal, .inl (by simpa using hfilled)⟩
        · exact .inr ⟨hlast, mark_ambiguous_flags hopen.symm hfilled⟩
    · have hlast : last = false := by
        rcases hsettles with hsettled | ⟨hlast, -⟩
        · exact (hsettled.flagged_of_open hterminal).1
        · exact hlast
      exact .inr ⟨hlast, mark_ambiguous_flags (.inl hterminal) fun hf => hterminal (.inl hf)⟩

/-- `P` is kept while time passes. -/
def Stable (P : Chain → Prop) : Prop := ∀ w w', P w → w.Drift w' → P w'

/-- Persisting a row takes time, that is all. -/
private theorem persist_leg_spec {P : Chain → Prop} (hP : Stable P) {db_arb_id canonical_id : String}
    {order : Leg} {stub : Option Stub} {w : Chain} (h : P w) :
    wp ((attempt_venue last_id).restrict (answers_settle eng last_id))
      (persist_leg eng db_arb_id canonical_id order stub) (fun _ w' => P w') w := by
  unfold persist_leg
  simp only [wp_ite, wp_pure]
  refine ⟨fun _ => ?_, fun _ => h⟩
  cases stub with
  | some stub =>
    simp only [wp_bind, wp_send]
    intro answer w₁ hd
    have h₁ := hP _ _ h hd.2
    cases answer with
    | ok _ => exact wp_pure.2 h₁
    | error _ => exact wp_send.2 fun _ w₂ hd' => hP _ _ h₁ hd'.2
  | none =>
    simp only [wp_bind, wp_send]
    intro answer w₁ hd
    have h₁ := hP _ _ h hd.2
    cases answer with
    | ok _ => exact wp_pure.2 h₁
    | error _ => exact wp_send.2 fun _ w₂ hd' => hP _ _ h₁ hd'.2

/-- A finished order stays finished while it is persisted. -/
private theorem persist_finished {db_arb_id canonical_id : String} {stub : Option Stub} {qty : ℕ}
    {last : Bool} {order : Leg} {w : Chain} (h : Finished qty last order w) :
    wp ((attempt_venue last_id).restrict (answers_settle eng last_id))
      (do persist_leg eng db_arb_id canonical_id order stub; return order)
      (fun o w' => Finished qty last o w') w := by
  rw [wp_bind]
  have hstable : Stable (Finished qty last order) := fun _ _ => Finished.drift
  refine wp_mono (persist_leg_spec hstable h) ?_
  intro _ w' h'
  exact wp_pure.2 h'

/-- An order that is not submitted is only persisted. -/
private theorem poll_and_persist_over {adapter : Adapter} {platform db_arb_id canonical_id : String}
    {stub : Option Stub} {qty : ℕ} {last : Bool} {order : Leg} {w : Chain}
    (h : Finished qty last order w) (hs : order.status ≠ .submitted) :
    wp ((attempt_venue last_id).restrict (answers_settle eng last_id))
      (poll_and_persist eng adapter platform db_arb_id canonical_id stub order)
      (fun o w' => Finished qty last o w') w := by
  unfold poll_and_persist
  rw [if_neg hs, wp_bind, wp_ret]
  exact persist_finished h

/-- A submitted order is polled to its end, or flagged. -/
private theorem poll_and_persist_submitted {adapter : Adapter}
    {platform db_arb_id canonical_id : String} {stub : Option Stub} {qty : ℕ} {last : Bool}
    {order : Leg} {w : Chain} (h : InHand qty last order.fill_qty false none w)
    (hs : order.status = .submitted)
    (hpoll : (last = false ∧ order.idempotency_ambiguous) ∨ pollable eng adapter platform order) :
    wp ((attempt_venue last_id).restrict (answers_settle eng last_id))
      (poll_and_persist eng adapter platform db_arb_id canonical_id stub order)
      (fun o w' => Finished qty last o w') w := by
  have hopen : ¬ order.status.terminal := by rw [hs]; decide
  unfold poll_and_persist
  rw [if_pos hs, wp_bind]
  suffices hpolled : wp ((attempt_venue last_id).restrict (answers_settle eng last_id))
      (poll_submitted_to_terminal eng adapter platform order)
      (fun o w' => Finished qty last o w') w from
    wp_mono hpolled fun o w' ho => persist_finished ho
  unfold poll_submitted_to_terminal
  simp only [wp_ite, wp_bind, wp_send, wp_pure]
  constructor
  · intro _ rounds w₁ hd
    refine wp_mono (poll_rounds_spec (h.drift hd.2) hopen) ?_
    intro r w₂ hr
    cases r with
    | inl o => exact wp_pure.2 hr
    | inr o => exact cancel_and_recheck_spec hr.1 hr.2
  · intro hnot
    exact ⟨_, _, h, .inr (hpoll.resolve_right hnot)⟩

/-- Cancelling the orders found leaves the order in hand. -/
private theorem cancel_each_spec {platform : String} {qty reported : ℕ} {last proven : Bool}
    {found : List Leg} {w : Chain} (h : ∃ cancelled, InHand qty last reported proven cancelled w) :
    wp ((attempt_venue last_id).restrict (answers_settle eng last_id)) (cancel_each platform found)
      (fun _ w' => ∃ cancelled, InHand qty last reported proven cancelled w') w := by
  induction found generalizing w with
  | nil =>
    simp only [cancel_each, wp_ret]
    exact h
  | cons real found ih =>
    simp only [cancel_each, wp_bind, wp_send]
    intro answer w₁ hcancel
    obtain ⟨_, h⟩ := h
    obtain ⟨-, newest, rest, stacked, live, hd, hlive, rfl⟩ := hcancel
    refine wp_mono (ih ⟨_, (h.drift hd).cancels (cancelled_ok answer) hlive⟩) ?_
    intro _ w₂ h₂
    exact wp_pure.2 h₂

/-- A placement that timed out before the last rung ends flagged. -/
private theorem timeout_recovery_spec {platform : String} {req : OrderRequest} {qty : ℕ}
    {w : Chain} (h : InHand qty false 0 false none w) :
    wp ((attempt_venue last_id).restrict (answers_settle eng last_id))
      (timeout_recovery eng platform req)
      (fun o w' => Finished qty false o w' ∧ o.status ≠ .submitted) w := by
  unfold timeout_recovery
  simp only [wp_bind, wp_send]
  intro found w₁ hd
  refine wp_mono (cancel_each_spec ⟨_, h.drift hd.2⟩) ?_
  intro cancelled_any w₂ h₂
  obtain ⟨cancelled, h₂⟩ := h₂
  refine wp_pure.2 ⟨⟨false, cancelled, ?_, .inr ⟨rfl, ?_⟩⟩, ?_⟩
  · rw [timed_out_order_fill_qty]
    exact h₂
  · rw [timed_out_order_flag]
  · exact timed_out_order_not_submitted _ _ _

/-- What an attempt on top of closed orders can end in. -/
def Outcome (qty : ℕ) (last : Bool) : Except String Leg → Chain → Prop
  | .ok o, w => (AllClosed w ∧ o.fill_qty = 0 ∧ o.status ≠ .filled) ∨ Finished qty last o w
  | .error _, w => ∃ reported proven cancelled, InHand qty last reported proven cancelled w

/-- The answer of a placement, polled and persisted. -/
private theorem placement_spec {adapter : Adapter} {platform : String} {req : OrderRequest}
    {use_ioc : Bool} {stub : Option Stub} {db_arb_id : String} {w : Chain} (h : AllClosed w)
    (hadapter : eng.adapters platform = some adapter) :
    wp ((attempt_venue last_id).restrict (answers_settle eng last_id))
      (do match ← place adapter platform req use_ioc with
          | .error (.raised err) => return .error err
          | .error .timeout =>
              let order ← timeout_recovery eng platform req
              let order ← poll_and_persist eng adapter platform db_arb_id req.canonical_id
                stub order
              return .ok order
          | .ok order =>
              let order ← poll_and_persist eng adapter platform db_arb_id req.canonical_id
                stub order
              return .ok order)
      (Outcome req.qty (decide (req.arb_id = last_id))) w := by
  have hplace : wp ((attempt_venue last_id).restrict (answers_settle eng last_id))
      (place adapter platform req use_ioc)
      (fun answer w' => PlacementSettles eng platform (decide (req.arb_id = last_id)) answer ∧
        w.Places last_id req answer w') w := by
    unfold place
    simp only [wp_ite, wp_send]
    exact ⟨fun _ _ _ hs => hs, fun _ _ _ hs => hs⟩
  rw [wp_bind]
  refine wp_mono hplace ?_
  intro answer w₁ hanswer
  obtain ⟨hsettles, hplaces⟩ := hanswer
  cases answer with
  | error err =>
    have h₁ := h.places_error hplaces
    cases err with
    | raised err => exact wp_pure.2 ⟨_, _, _, h₁⟩
    | timeout =>
      -- only an attempt with a later rung behind it may time out
      have hlast : decide (req.arb_id = last_id) = false := hsettles
      rw [hlast] at h₁ ⊢
      refine wp_bind.2 (wp_mono (timeout_recovery_spec h₁) fun o w₂ ho => ?_)
      refine wp_bind.2 (wp_mono (poll_and_persist_over ho.1 ho.2) fun o w₃ ho => ?_)
      exact wp_pure.2 (.inr ho)
  | ok o =>
    have h₁ := h.places_ok hplaces
    have hdone : ∀ o w', Finished req.qty (decide (req.arb_id = last_id)) o w' →
        wp ((attempt_venue last_id).restrict (answers_settle eng last_id)) (pure (.ok o))
          (Outcome req.qty (decide (req.arb_id = last_id))) w' :=
      fun o w' ho => wp_pure.2 (.inr ho)
    rw [wp_bind]
    -- a resting order goes through the poll; any other is persisted as it came
    by_cases hsubmitted : o.status = .submitted
    · have hopen : ¬ o.status.terminal := by rw [hsubmitted]; decide
      rw [decide_eq_false hopen] at h₁
      refine wp_mono (poll_and_persist_submitted h₁ hsubmitted ?_) hdone
      rcases hsettles with hs | ⟨-, hs⟩
      · exact .inl (hs.flagged_of_open hopen)
      · exact .inr (hs adapter hadapter)
    · have hs : Settles (decide (req.arb_id = last_id)) o :=
        hsettles.resolve_right fun hs => hsubmitted hs.1
      refine wp_mono (poll_and_persist_over ⟨_, _, h₁, ?_⟩ hsubmitted) hdone
      by_cases hterminal : o.status.terminal
      · exact .inl ⟨decide_eq_true hterminal, hterminal, hs⟩
      · exact .inr (hs.flagged_of_open hterminal)

/-- One attempt on top of closed orders. -/
theorem place_order_for_leg_spec {platform : String} {req : OrderRequest} {use_ioc : Bool}
    {stub : Option Stub} {persist_arb_id : Option String} {w : Chain} (h : AllClosed w) :
    wp ((attempt_venue last_id).restrict (answers_settle eng last_id))
      (place_order_for_leg eng platform req use_ioc stub persist_arb_id)
      (Outcome req.qty (decide (req.arb_id = last_id))) w := by
  unfold place_order_for_leg
  cases hadapter : eng.adapters platform with
  | none => exact wp_pure.2 (.inl ⟨h, rfl, by simp [Order.synthetic]⟩)
  | some adapter =>
    rw [wp_bind, wp_send]
    intro blocked w₁ hd
    have h₁ : AllClosed w₁ := h.drift hd.2 ▸ h
    rw [wp_ite]
    refine ⟨fun _ => ?_, fun _ => placement_spec h₁ hadapter⟩
    exact wp_pure.2 (.inl ⟨h₁, rfl, by simp [Order.synthetic]⟩)

/-! ### What an attempt leaves behind -/

/-- Closed orders hold no fill, and none was reported of them. -/
theorem closed_sums {l : List Attempt} (h : ∀ a ∈ l, a.Closed) :
    (l.map Attempt.filled).sum = 0 ∧ (l.map Attempt.reported).sum = 0 := by
  constructor
  · refine List.sum_eq_zero fun n hn => ?_
    obtain ⟨a, ha, rfl⟩ := List.mem_map.1 hn
    have hs := (h a ha).1
    simp only [Attempt.settled, Bool.and_eq_true, beq_iff_eq] at hs
    exact hs.2
  · refine List.sum_eq_zero fun n hn => ?_
    obtain ⟨a, ha, rfl⟩ := List.mem_map.1 hn
    exact (h a ha).2

theorem Attempt.Closed.proven {a : Attempt} (h : a.Closed) : a.proven = true := by
  have hs := h.1
  simp only [Attempt.settled, Bool.and_eq_true] at hs
  exact hs.1.1

theorem AllClosed.neverStacks {qty : ℕ} {w : Chain} (h : AllClosed w) : NeverStacks qty w :=
  ⟨h.stacked, (closed_sums h.closed).1 ▸ Nat.zero_le qty⟩

theorem AllClosed.reportsAll {o : Leg} {w : Chain} (h : AllClosed w) (ho : o.fill_qty = 0) :
    ReportsAll o w := by
  obtain ⟨hfilled, hreported⟩ := closed_sums h.closed
  refine ⟨ho.trans hreported.symm, fun _ => ho.trans hfilled.symm, ?_⟩
  intro hopen
  obtain ⟨a, ha, hproven⟩ := hopen
  rw [(h.closed a ha).proven] at hproven
  exact Bool.noConfusion hproven

theorem InHand.neverStacks {qty reported : ℕ} {last proven : Bool} {cancelled : Option Bool}
    {w : Chain} (h : InHand qty last reported proven cancelled w) : NeverStacks qty w := by
  obtain ⟨newest, rest, h⟩ := h
  refine ⟨h.stacked, ?_⟩
  rw [h.attempts, List.map_cons, List.sum_cons, (closed_sums h.closed).1, ← h.qty]
  exact h.fits

/-- The order of a finished attempt is the report of the whole chain. -/
theorem Finished.reportsAll {qty : ℕ} {last : Bool} {o : Leg} {w : Chain}
    (h : Finished qty last o w) : ReportsAll o w := by
  obtain ⟨proven, _, ⟨newest, rest, hand⟩, hend⟩ := h
  obtain ⟨hfilled, hreported⟩ := closed_sums hand.closed
  refine ⟨?_, ?_, ?_⟩
  · rw [hand.attempts, List.map_cons, List.sum_cons, hreported, hand.reported, Nat.add_zero]
  · intro hall
    have hproven := hall newest (hand.attempts ▸ List.mem_cons_self ..)
    rw [hand.attempts, List.map_cons, List.sum_cons, hfilled, (hand.truth hproven).2,
      hand.reported, Nat.add_zero]
  · intro hopen
    obtain ⟨a, ha, hunproven⟩ := hopen
    rcases hend with ⟨hproven, -, -⟩ | ⟨-, hflag⟩
    · -- a proven attempt on top of closed ones: nothing is unproven
      rw [hand.attempts] at ha
      rcases List.mem_cons.1 ha with rfl | hrest
      · rw [hand.proven, hproven] at hunproven
        exact Bool.noConfusion hunproven
      · rw [(hand.closed a hrest).proven] at hunproven
        exact Bool.noConfusion hunproven
    · exact hflag

/-- An attempt the chain goes past is closed like the ones before it. -/
theorem Outcome.closed {qty : ℕ} {last : Bool} {o : Leg} {w : Chain}
    (h : Outcome qty last (.ok o) w) (hfilled : o.status ≠ .filled)
    (hgoes : last = false → o.status ≠ .partialFill ∧ o.idempotency_ambiguous = false) :
    AllClosed w ∧ o.fill_qty = 0 := by
  rcases h with ⟨h, ho, -⟩ | ⟨proven, _, ⟨newest, rest, hand⟩, hend⟩
  · exact ⟨h, ho⟩
  · have hdead : proven = true ∧ o.fill_qty = 0 := by
      rcases hend with ⟨hproven, -, hs | ⟨-, hs⟩ | ⟨hlast, hs⟩⟩ | ⟨hlast, hflag⟩
      · exact absurd hs hfilled
      · exact ⟨hproven, hs⟩
      · have hg := hgoes hlast
        rcases hs with hs | hs
        · exact absurd hs hg.1
        · simp [hg.2] at hs
      · simp [(hgoes hlast).2] at hflag
    have htruth := hand.truth (hand.proven.trans hdead.1)
    have hreported : newest.reported = 0 := hand.reported.trans hdead.2
    refine ⟨⟨hand.stacked, ?_⟩, hdead.2⟩
    intro a ha
    rw [hand.attempts] at ha
    rcases List.mem_cons.1 ha with rfl | hrest
    · refine ⟨?_, hreported⟩
      simp [Attempt.settled, hand.proven, hdead.1, htruth.1, htruth.2, hreported]
    · exact hand.closed a hrest

theorem Outcome.neverStacks {qty : ℕ} {last : Bool} {r : Except String Leg} {w : Chain}
    (h : Outcome qty last r w) : NeverStacks qty w := by
  cases r with
  | error _ =>
    obtain ⟨_, _, _, hand⟩ := h
    exact hand.neverStacks
  | ok o =>
    rcases h with ⟨h, -⟩ | ⟨_, _, hand, -⟩
    · exact h.neverStacks
    · exact hand.neverStacks

theorem Outcome.reportsAll {qty : ℕ} {last : Bool} {o : Leg} {w : Chain}
    (h : Outcome qty last (.ok o) w) : ReportsAll o w := by
  rcases h with ⟨h, ho, -⟩ | h
  · exact h.reportsAll ho
  · exact h.reportsAll

/-- A longer error text changes nothing in the report. -/
theorem ReportsAll.with_error {o : Leg} {w : Chain} (h : ReportsAll o w) (err : String) :
    ReportsAll { o with error := err } w :=
  ⟨h.reported, h.filled, h.flagged⟩

/-! ### The chain -/

/-- The chain goes on with `order` as the last one tried. -/
structure GoesOn (order : Option Leg) (w : Chain) : Prop where
  closed : AllClosed w
  unfilled : ∀ o, order = some o → o.fill_qty = 0
  fresh : order = none → w.attempts = []

theorem GoesOn.drift {order : Option Leg} {w w' : Chain} (h : GoesOn order w)
    (hd : w.Drift w') : GoesOn order w' :=
  h.closed.drift hd ▸ h

/-- The requote loop ends in a report, or goes on. -/
private theorem requote_spec {leg : SecondaryLeg} {left : ℕ} {order : Option Leg}
    {notes : List String} {w : Chain} (h : GoesOn order w) :
    wp ((attempt_venue last_id).restrict (answers_settle eng last_id))
      (requote eng leg left order notes)
      (fun r w' => match r with
        | .error _ => NeverStacks leg.qty w'
        | .ok (.inl o) => NeverStacks leg.qty w' ∧ ReportsAll o w'
        | .ok (.inr (order', _)) => GoesOn order' w') w := by
  induction left generalizing order notes w with
  | zero =>
    simp only [requote, wp_ret]
    exact h
  | succ left ih =>
    -- a delay and a look at the book move nothing: the chain still goes on from the same attempts
    have hdelay : wp ((attempt_venue last_id).restrict (answers_settle eng last_id))
        (requote_delay eng) (fun _ w' => GoesOn order w') w := by
      simp only [requote_delay, wp_ite, wp_send, wp_ret]
      exact ⟨fun _ _ w' hd => h.drift hd.2, fun _ => h⟩
    unfold requote
    refine wp_bind.2 (wp_mono hdelay fun _ w₁ h₁ => ?_)
    rw [wp_bind, wp_send]
    intro answer w₂ hwalk
    have h₂ := h₁.drift hwalk.2
    cases answer with
    | error _ => exact ih h₂
    | ok book =>
      simp only [wp_ite]
      refine ⟨fun _ => ih h₂, fun _ => ⟨fun _ => ih h₂, fun _ => ?_⟩⟩
      refine wp_bind.2 (wp_mono (place_order_for_leg_spec h₂.closed) fun r w₃ hr => ?_)
      cases r with
      | error _ => exact wp_pure.2 hr.neverStacks
      | ok retry =>
        simp only [wp_ite, wp_pure]
        refine ⟨fun _ => ⟨hr.neverStacks, hr.reportsAll⟩, fun hunfilled => ⟨fun _ => ?_, fun hflag => ?_⟩⟩
        · exact ⟨hr.neverStacks, hr.reportsAll.with_error _⟩
        · -- the retry is proven dead with nothing filled: one more closed attempt
          obtain ⟨hclosed, hzero⟩ := hr.closed (fun hf => hunfilled (.inl hf)) fun _ =>
            ⟨fun hp => hunfilled (.inr hp), by simpa using hflag⟩
          refine ih ⟨hclosed, ?_, fun hnone => by cases hnone⟩
          intro o ho
          cases ho
          exact hzero

/-- What the chain promises of its result: nothing stacked, and all of it reported;
    nothing returned means nothing sent. -/
structure ChainKept (qty : ℕ) (r : Except String (Option Leg)) (w : Chain) : Prop where
  never_stacks : NeverStacks qty w
  reports : ∀ o, r = .ok (some o) → ReportsAll o w
  unsent : r = .ok none → w.attempts = []

theorem ChainKept.of_report {qty : ℕ} {o : Leg} {w : Chain} (h : NeverStacks qty w)
    (ho : ReportsAll o w) : ChainKept qty (.ok (some o)) w := by
  refine ⟨h, ?_, fun hnone => by simp at hnone⟩
  intro o' heq
  cases heq
  exact ho

theorem ChainKept.of_error {qty : ℕ} {err : String} {w : Chain} (h : NeverStacks qty w) :
    ChainKept qty (.error err) w :=
  ⟨h, fun _ heq => (by cases heq), fun heq => (by cases heq)⟩

/-- The requotes and the FOK rung. -/
private theorem retry_chain_spec {leg : SecondaryLeg} {skip : Bool} {order : Option Leg}
    {w : Chain} (h : GoesOn order w) :
    wp ((attempt_venue leg.last_id).restrict (answers_settle eng leg.last_id))
      (retry_chain eng leg skip order) (ChainKept leg.qty) w := by
  unfold retry_chain
  refine wp_bind.2 (wp_mono (requote_spec h) fun r w₁ hr => ?_)
  rcases r with _ | (_ | ⟨order', notes⟩)
  · exact wp_pure.2 (.of_error hr)
  · exact wp_pure.2 (.of_report hr.1 hr.2)
  · have h₁ : GoesOn order' w₁ := hr
    simp only [wp_ite, wp_pure]
    constructor
    · intro hnone
      exact ⟨h₁.closed.neverStacks, fun o heq => by simp at heq, fun _ => h₁.fresh hnone.2⟩
    · intro hgoes
      refine wp_bind.2 (wp_mono (place_order_for_leg_spec h₁.closed) fun r w₂ hr => ?_)
      cases r with
      | error _ => exact wp_pure.2 (.of_error hr.neverStacks)
      | ok order3 =>
        simp only [wp_ite, wp_pure]
        refine ⟨fun _ => .of_report hr.neverStacks hr.reportsAll, fun hfilled => ?_⟩
        have hlast : decide ((leg.request leg.last_id leg.max_affordable_price).arb_id =
          leg.last_id) = true := decide_eq_true rfl
        rw [hlast] at hr
        obtain ⟨hclosed, hzero⟩ := hr.closed hfilled fun hfalse => by cases hfalse
        -- the order returned is the last one tried before the rung, if there is one
        have hreturned : (order'.getD order3).fill_qty = 0 := by
          cases horder : order' with
          | none => exact hzero
          | some o => exact h₁.unfilled o horder
        exact .of_report hclosed.neverStacks ((hclosed.reportsAll hreturned).with_error _)

end attempt

/-! ### Two runs -/

/-- Ten NO contracts on Kalshi, sent once as an IOC and once as the last rung. -/
def ten_on_kalshi : SecondaryLeg where
  arb_id := "ARB-000001"
  platform := "kalshi"
  market_id := "KX-1"
  canonical_id := "mkt-1"
  side := .no
  initial_price := 2 / 5
  qty := 10
  max_affordable_price := 1 / 2
  break_even_price := none

/-- The order of `ten_on_kalshi`, as the venue reports it. -/
def no_order (status : OrderStatus) (filled : ℕ) : Leg :=
  { Order.synthetic "9f2" "kalshi" "KX-1" "mkt-1" .no (2 / 5) 10 status "" with
    fill_qty := filled }

/-- Kalshi, with no requotes between the first attempt and the last rung. -/
def no_requotes : Engine := { kalshi_engine true with secondary_requote_attempts := 0 }

/-- The chain with the first attempt of `ten_on_kalshi` answered dead. -/
def first_dead : Chain :=
  { attempts := [⟨10, false, false, 0, 0, true, none⟩], stacked := false }

/-- A first attempt that is not on the book and has `filled` contracts. -/
private theorem places_first (status : OrderStatus) (filled : ℕ) (hle : filled ≤ 10) :
    Chain.fresh.Places ten_on_kalshi.last_id (ten_on_kalshi.request "ARB-000001" (2 / 5))
      (.ok (no_order status filled))
      { attempts := [⟨10, false, false, filled, filled, decide status.terminal, none⟩]
        stacked := false } := by
  refine ⟨.fresh, false, filled, ⟨rfl, .nil⟩, hle, ?_, rfl⟩
  intro o ho
  cases ho
  exact ⟨rfl, fun _ => rfl⟩

end Execution
