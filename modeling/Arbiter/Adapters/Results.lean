import Arbiter.Adapters.Kalshi
import Arbiter.Adapters.Forecastex

/-! # Orders that the Adapters Return

  Four adapters read the answers of their venues, each with a status map, fill keys and
  defaults of its own, once for a placement and once for a poll. What they return is
  *honest* where the status goes with the fill.

  The main result says, for every call of every adapter, on which answers the order that
  comes back is honest.
-/

namespace Adapters

open Effect Execution

/-! ## Section 1: Honest orders -/

/-- An order goes with what its venue has `reported`: that some of it is filled. -/
structure Honest (order : Order ℚ) (reported : Prop) : Prop where
  unfilled : order.status.terminalFailed → ¬ reported → order.fill_qty = 0
  shown : reported → order.status = .partialFill ∨ order.status = .filled
  whole : order.status = .filled → order.quantity ≤ order.fill_qty

/-- A status goes with a count, for an order of `quantity`. -/
def Agree (status : OrderStatus) (count quantity : ℚ) (reported : Prop) : Prop :=
  match status with
  | .partialFill => True
  | .filled => quantity ≤ count
  | .failed => ¬ reported ∧ count = 0
  | .cancelled => ¬ reported ∧ count = 0
  | .aborted => ¬ reported ∧ count = 0
  | .pending => ¬ reported
  | .submitted => ¬ reported
  | .simulated => ¬ reported

theorem honest_iff {order : Order ℚ} {reported : Prop} :
    Honest order reported ↔ Agree order.status order.fill_qty order.quantity reported := by
  -- A report shows in two statuses only, so under every other one there is none.
  have hdead : order.status.terminalFailed → (order.status ≠ .partialFill) →
      order.status ≠ .filled → (Honest order reported ↔ ¬ reported ∧ order.fill_qty = 0) := by
    intro hfail hpart hfull
    constructor
    · intro h
      have hno : ¬ reported := fun hr => (h.shown hr).elim hpart hfull
      exact ⟨hno, h.unfilled hfail hno⟩
    · intro h
      exact ⟨fun _ _ => h.2, fun hr => absurd hr h.1, fun hs => absurd hs hfull⟩
  have hopen : ¬ order.status.terminalFailed → order.status ≠ .partialFill →
      order.status ≠ .filled → (Honest order reported ↔ ¬ reported) := by
    intro hfail hpart hfull
    constructor
    · intro h hr
      exact (h.shown hr).elim hpart hfull
    · intro h
      exact ⟨fun hs => absurd hs hfail, fun hr => absurd hr h, fun hs => absurd hs hfull⟩
  unfold Agree
  cases hs : order.status with
  | partialFill =>
    show Honest order reported ↔ True
    rw [iff_true]
    refine ⟨fun hfail => ?_, fun _ => .inl hs, fun hfull => ?_⟩
    · rw [hs] at hfail
      exact absurd hfail (by decide)
    · rw [hs] at hfull
      exact absurd hfull (by decide)
  | filled =>
    show Honest order reported ↔ order.quantity ≤ order.fill_qty
    constructor
    · intro h
      exact h.whole hs
    · intro h
      refine ⟨fun hfail => ?_, fun _ => .inr hs, fun _ => h⟩
      rw [hs] at hfail
      exact absurd hfail (by decide)
  | failed => exact hdead (by rw [hs]; decide) (by rw [hs]; decide) (by rw [hs]; decide)
  | cancelled => exact hdead (by rw [hs]; decide) (by rw [hs]; decide) (by rw [hs]; decide)
  | aborted => exact hdead (by rw [hs]; decide) (by rw [hs]; decide) (by rw [hs]; decide)
  | pending => exact hopen (by rw [hs]; decide) (by rw [hs]; decide) (by rw [hs]; decide)
  | submitted => exact hopen (by rw [hs]; decide) (by rw [hs]; decide) (by rw [hs]; decide)
  | simulated => exact hopen (by rw [hs]; decide) (by rw [hs]; decide) (by rw [hs]; decide)

/-- A failed order on an answer that reports nothing. -/
theorem honest_of_failed {order : Order ℚ} {reported : Prop} (hs : order.status = .failed)
    (hfill : order.fill_qty = 0) (hr : ¬ reported) : Honest order reported := by
  rw [honest_iff, hs]
  exact ⟨hr, hfill⟩

/-- A failed order that keeps the fill it had before. -/
theorem honest_failed_iff {order : Order ℚ} {fill_qty : ℚ} (hs : order.status = .failed)
    (hfill : order.fill_qty = fill_qty) : Honest order (0 < fill_qty) ↔ fill_qty = 0 := by
  rw [honest_iff, hs, hfill]
  show ¬ 0 < fill_qty ∧ fill_qty = 0 ↔ fill_qty = 0
  constructor
  · intro h
    exact h.2
  · intro h
    have : ¬ 0 < fill_qty := by rw [h]; exact lt_irrefl 0
    exact ⟨this, h⟩

/-! ## Section 2: Reports -/

/-- One of the keys holds a positive number. -/
def reports (keys : List String) (v : Json ℚ) : Bool :=
  keys.any fun key => decide (0 < (v.get key).float.getD 0)

/-- A value that is no object has no keys. -/
theorem get?_eq_none {v : Json ℚ} (h : v.is_obj = false) (key : String) : v.get? key = none := by
  cases v with
  | obj fields => cases h
  | _ => rfl

theorem reports_of_not_obj {v : Json ℚ} (h : v.is_obj = false) (keys : List String) :
    reports keys v = false := by
  unfold reports Json.get Json.getD
  simp [get?_eq_none h, Json.float]

@[simp] theorem reports_null (keys : List String) : reports keys .null = false :=
  reports_of_not_obj rfl keys

/-! ## Section 3: Kalshi -/

section kalshi

variable (spelled : Json ℚ → String)

def kalshi_keys : List String := ["fill_count", "fill_count_fp", "count_filled"]

/-- The order in an answer of Kalshi, null where the answer has none. -/
def kalshi_data {ε : Type} (answer : Except ε (Kalshi.Response ℚ)) : Json ℚ :=
  match answer with
  | .error _ => .null
  | .ok response =>
      if response.status_code = 200 ∨ response.status_code = 201 then
        match response.json with
        | none => .null
        | some data => Kalshi.order_data data
      else .null

/-- Kalshi reported a fill to a placement. -/
def kalshi_reported (cfg : Kalshi.Config) (req : OrderRequest)
    (answer : Except Kalshi.Raised (Kalshi.Response ℚ)) : Prop :=
  Kalshi.refusal cfg req = none ∧ reports kalshi_keys (kalshi_data answer) = true

/-- An acknowledged order: its status word goes with its count. Without a word, the count
    is the whole quantity, clearly less than it, or zero. -/
def KalshiAcknowledges (order_data : Json ℚ) (qty : ℕ) : Prop :=
  let word := order_data.get "status"
  let count := Kalshi.fill_qty order_data
  let reported := reports kalshi_keys order_data = true
  if word.truthy then
    Agree ((Kalshi.fok_status_map (word.text spelled)).getD .submitted) count qty reported
  else
    qty ≤ count ∨ count < max ((qty : ℚ) - 1 / 1000000000) 0 ∧
      (0 < count ∨ ¬ reported ∧ (0 < Kalshi.remaining_qty order_data ∨ count = 0))

theorem kalshi_counts_agree (order_data : Json ℚ) (qty : ℕ) :
    Agree (Kalshi.map_order_status_from_counts spelled order_data qty)
      (Kalshi.fill_qty order_data) qty (reports kalshi_keys order_data = true) ↔
      KalshiAcknowledges spelled order_data qty := by
  unfold KalshiAcknowledges Kalshi.map_order_status_from_counts
  by_cases hword : (order_data.get "status").truthy = true
  · rw [if_pos hword, if_pos hword]
  rw [if_neg hword, if_neg hword]
  -- Without a word the counts decide, in the order of the code.
  by_cases hfull : Kalshi.fill_qty order_data ≥ max ((qty : ℚ) - 1 / 1000000000) 0
  · rw [if_pos hfull]
    show (qty : ℚ) ≤ Kalshi.fill_qty order_data ↔ _
    constructor
    · intro h
      exact .inl h
    · intro h
      rcases h with h | ⟨hlt, _⟩
      · exact h
      · exact absurd hlt (not_lt.2 hfull)
  rw [if_neg hfull]
  have hlt := not_le.1 hfull
  -- The tolerance is below the quantity, so a count under it is short of the quantity.
  have hqty : ¬ (qty : ℚ) ≤ Kalshi.fill_qty order_data := by
    intro h
    have hzero : (0 : ℚ) ≤ qty := qty.cast_nonneg
    have hmax : max ((qty : ℚ) - 1 / 1000000000) 0 ≤ qty := max_le (by linarith) hzero
    linarith
  by_cases hpart : Kalshi.fill_qty order_data > 0
  · rw [if_pos hpart]
    show True ↔ _
    rw [true_iff]
    exact .inr ⟨hlt, .inl hpart⟩
  rw [if_neg hpart]
  by_cases hrest : Kalshi.remaining_qty order_data > 0
  · rw [if_pos hrest]
    show ¬ _ ↔ _
    constructor
    · intro h
      exact .inr ⟨hlt, .inr ⟨h, .inl hrest⟩⟩
    · intro h
      rcases h with h | ⟨_, h | h⟩
      · exact absurd h hqty
      · exact absurd h hpart
      · exact h.1
  · rw [if_neg hrest]
    show ¬ _ ∧ _ ↔ _
    constructor
    · intro h
      exact .inr ⟨hlt, .inr ⟨h.1, .inr h.2⟩⟩
    · intro h
      rcases h with h | ⟨_, h | ⟨hr, h | h⟩⟩
      · exact absurd h hqty
      · exact absurd h hpart
      · exact absurd h hrest
      · exact ⟨hr, h⟩

/-- The payload of a success, where it parses. -/
theorem kalshi_data_of_success {ε : Type} {response : Kalshi.Response ℚ}
    (hcode : response.status_code = 200 ∨ response.status_code = 201) :
    kalshi_data (.ok response : Except ε (Kalshi.Response ℚ)) =
      match response.json with
      | none => .null
      | some data => Kalshi.order_data data := by
  unfold kalshi_data
  dsimp only
  rw [if_pos hcode]

/-- A placement ends with a failed order where there is no payload, else with the order
    of the payload. -/
theorem kalshi_place_cases {cfg : Kalshi.Config} {req : OrderRequest}
    {answer : Except Kalshi.Raised (Kalshi.Response ℚ)} {order : Order ℚ}
    (h : Kalshi.place_fok spelled cfg req answer = some order) :
    (∃ error, order = Kalshi.failed_order req error ∧
      (Kalshi.refusal cfg req = none → (kalshi_data answer).is_obj = false)) ∨
    (Kalshi.refusal cfg req = none ∧ (kalshi_data answer).is_obj = true ∧
      order = Kalshi.placed_order spelled cfg req (kalshi_data answer)) := by
  unfold Kalshi.place_fok at h
  cases hsent : Kalshi.refusal cfg req with
  | some error =>
    rw [hsent] at h
    cases h
    exact .inl ⟨error, rfl, nofun⟩
  | none =>
    rw [hsent] at h
    cases answer with
    | error exc =>
      cases exc with
      | transient text =>
        cases h
        exact .inl ⟨_, rfl, fun _ => rfl⟩
      | other text =>
        cases h
        exact .inl ⟨_, rfl, fun _ => rfl⟩
    | ok response =>
      dsimp only at h
      -- Any code but the two of a success leaves the payload unread.
      by_cases hcode : response.status_code = 200 ∨ response.status_code = 201
      · have hlimit : response.status_code ≠ 429 := by omega
        have hrefused : ¬ (response.status_code ≠ 200 ∧ response.status_code ≠ 201) := by omega
        rw [if_neg hlimit, if_neg hrefused] at h
        rw [kalshi_data_of_success hcode]
        cases hjson : response.json with
        | none =>
          rw [hjson] at h
          cases h
          exact .inl ⟨_, rfl, fun _ => rfl⟩
        | some data =>
          rw [hjson] at h
          dsimp only at h
          by_cases hobj : (Kalshi.order_data data).is_obj = true
          · rw [if_pos hobj] at h
            cases h
            exact .inr ⟨rfl, hobj, rfl⟩
          · rw [if_neg hobj] at h
            cases h
      · have hnone : (kalshi_data (.ok response : Except Kalshi.Raised _)).is_obj = false := by
          rw [kalshi_data, if_neg hcode]
          rfl
        by_cases hlimit : response.status_code = 429
        · rw [if_pos hlimit] at h
          cases h
          exact .inl ⟨_, rfl, fun _ => hnone⟩
        · have hrefused : response.status_code ≠ 200 ∧ response.status_code ≠ 201 := by omega
          rw [if_neg hlimit, if_pos hrefused] at h
          cases h
          exact .inl ⟨_, rfl, fun _ => hnone⟩

/-- A placement returns an honest order, but for a payload that does not add up. -/
theorem kalshi_place_honest_iff {cfg : Kalshi.Config} {req : OrderRequest}
    {answer : Except Kalshi.Raised (Kalshi.Response ℚ)} {order : Order ℚ}
    (h : Kalshi.place_fok spelled cfg req answer = some order) :
    Honest order (kalshi_reported cfg req answer) ↔
      (Kalshi.refusal cfg req = none → (kalshi_data answer).is_obj = true →
        KalshiAcknowledges spelled (kalshi_data answer) req.qty) := by
  rcases kalshi_place_cases spelled h with ⟨error, rfl, hnone⟩ | ⟨hsent, hobj, rfl⟩
  · constructor
    · intro _ hsent hobj
      rw [hnone hsent] at hobj
      cases hobj
    · intro _
      have hquiet : ¬ kalshi_reported cfg req answer := by
        intro hr
        have hno := reports_of_not_obj (hnone hr.1) kalshi_keys
        rw [hr.2] at hno
        cases hno
      exact honest_of_failed rfl rfl hquiet
  · -- What was sent is answered, so the payload is all that can report.
    have hreported : kalshi_reported cfg req answer ↔
        reports kalshi_keys (kalshi_data answer) = true := and_iff_right hsent
    rw [honest_iff, hreported]
    show Agree (Kalshi.map_order_status_from_counts spelled (kalshi_data answer) req.qty)
      (Kalshi.fill_qty (kalshi_data answer)) req.qty _ ↔ _
    rw [kalshi_counts_agree]
    constructor
    · intro hack _ _
      exact hack
    · intro hack
      exact hack hsent hobj

/-- Kalshi reported a fill to a poll, or had reported one before. -/
def kalshi_poll_reported (authenticated : Bool) (answer : Except String (Kalshi.Response ℚ))
    (order : Order ℚ) : Prop :=
  authenticated = true ∧ reports kalshi_keys (kalshi_data answer) = true ∨ 0 < order.fill_qty

/-- The word that a poll maps, where there is one that can be looked up. -/
def kalshi_poll_status (answer : Except String (Kalshi.Response ℚ)) : Option OrderStatus :=
  if (kalshi_data answer).is_obj then
    Kalshi.mapped_status ((kalshi_data answer).getD "status" (.str "resting" none))
  else none

/-- A polled order: the word, or else the status it had, goes with the count, or else the
    fill it had. Where Kalshi gave no answer, nothing was filled before. -/
def KalshiPolled (authenticated : Bool) (answer : Except String (Kalshi.Response ℚ))
    (order : Order ℚ) : Prop :=
  let reported := kalshi_poll_reported authenticated answer order
  if Kalshi.reported authenticated answer then
    match kalshi_poll_status answer with
    | none => Agree order.status order.fill_qty order.quantity reported
    | some status =>
        Agree status ((Kalshi.fill_count (kalshi_data answer) order.fill_qty).getD order.fill_qty)
          order.quantity reported
  else order.fill_qty = 0

/-- What Kalshi answered with a success is read off the payload. -/
theorem kalshi_get_order_reads {response : Kalshi.Response ℚ}
    (hcode : response.status_code = 200 ∨ response.status_code = 201) (order : Order ℚ) :
    Kalshi.get_order true (.ok response) order = Kalshi.read_payload response order := by
  have hlimit : response.status_code ≠ 429 := by omega
  have hmissing : response.status_code ≠ 404 := by omega
  have hrefused : ¬ (response.status_code ≠ 200 ∧ response.status_code ≠ 201) := by omega
  unfold Kalshi.get_order
  rw [if_pos rfl]
  dsimp only
  rw [if_neg hlimit, if_neg hmissing, if_neg hrefused]

/-- A payload sets the status, then the fill, as far as it can be read. -/
theorem kalshi_payload_agrees {response : Kalshi.Response ℚ}
    (hcode : response.status_code = 200 ∨ response.status_code = 201) (order : Order ℚ) :
    Agree (Kalshi.read_payload response order).status
        (Kalshi.read_payload response order).fill_qty
        (Kalshi.read_payload response order).quantity =
      match kalshi_poll_status (.ok response) with
      | none => Agree order.status order.fill_qty order.quantity
      | some status =>
          Agree status
            ((Kalshi.fill_count (kalshi_data (.ok response : Except String _)) order.fill_qty).getD
              order.fill_qty)
            order.quantity := by
  unfold Kalshi.read_payload kalshi_poll_status
  rw [kalshi_data_of_success hcode]
  cases response.json with
  | none => rfl
  | some data =>
    dsimp only
    by_cases hobj : (Kalshi.order_data data).is_obj = true
    · rw [if_pos hobj, if_pos hobj]
      -- A status that is no key stops the reading; so does a fill that is no number.
      cases Kalshi.mapped_status ((Kalshi.order_data data).getD "status"
          (.str "resting" none)) with
      | none => rfl
      | some status =>
        dsimp only
        cases Kalshi.fill_count (Kalshi.order_data data) order.fill_qty with
        | none => rfl
        | some fill_qty => rfl
    · rw [if_neg hobj, if_neg hobj]

/-- Kalshi answered where a success came back on an authenticated call. -/
theorem kalshi_reported_iff {authenticated : Bool} {response : Kalshi.Response ℚ} :
    Kalshi.reported authenticated (.ok response) = true ↔
      authenticated = true ∧ (response.status_code = 200 ∨ response.status_code = 201) := by
  simp [Kalshi.reported]

/-- A poll returns an honest order where the payload adds up with the order before it. -/
theorem kalshi_get_order_honest_iff (authenticated : Bool)
    (answer : Except String (Kalshi.Response ℚ)) (order : Order ℚ) :
    Honest (Kalshi.get_order authenticated answer order)
        (kalshi_poll_reported authenticated answer order) ↔
      KalshiPolled authenticated answer order := by
  unfold KalshiPolled
  by_cases hsaid : Kalshi.reported authenticated answer = true
  · rw [if_pos hsaid, honest_iff]
    cases answer with
    | error exc =>
      cases authenticated with
      | false => cases hsaid
      | true => cases hsaid
    | ok response =>
      obtain ⟨rfl, hcode⟩ := kalshi_reported_iff.1 hsaid
      rw [kalshi_get_order_reads hcode, kalshi_payload_agrees hcode]
      cases kalshi_poll_status (.ok response) with
      | none => rfl
      | some status => rfl
  · rw [if_neg hsaid]
    obtain ⟨hstatus, hfill, _⟩ :=
      Kalshi.get_order_unreported (Bool.eq_false_iff.2 hsaid) order
    -- No payload is read, so what may be reported was so before.
    have hquiet : ¬ (authenticated = true ∧ reports kalshi_keys (kalshi_data answer) = true) := by
      rintro ⟨hauth, hr⟩
      cases answer with
      | error exc => cases hr
      | ok response =>
        have hcode : ¬ (response.status_code = 200 ∨ response.status_code = 201) :=
          fun h => hsaid (kalshi_reported_iff.2 ⟨hauth, h⟩)
        rw [kalshi_data, if_neg hcode] at hr
        cases hr
    have hreported : kalshi_poll_reported authenticated answer order ↔ 0 < order.fill_qty :=
      or_iff_right hquiet
    rw [hreported]
    exact honest_failed_iff hstatus hfill

end kalshi

/-! ## Section 4: Polymarket -/

section polymarket

open Polymarket (attempts submit give_up match_existing order_from_record
  order_from_response)

variable (spelled : Json ℚ → String) (req : OrderRequest)

def polymarket_keys : List String := ["size_matched", "filled"]

/-- A payload on the order that is placed. -/
inductive Heard
  /-- An open order that is taken for it. -/
  | listed (record : Json ℚ)
  | acknowledged (response : Json ℚ)

def Heard.payload : Heard → Json ℚ
  | listed record => record
  | acknowledged response => response

/-- Any answer may come. What is heard of the order is kept. -/
def hearing : Env Polymarket.Call Polymarket.Answer (List Heard) where
  serve := fun heard c a heard' => heard' =
    match c, a with
    | .get_orders _, listing =>
        heard ++ ((match_existing spelled (listing.toOption.getD []) req).map .listed).toList
    | .post_order _, .ok response => heard ++ [.acknowledged response]
    | _, _ => heard

/-- What a placement returns, by what was heard. -/
def Returned (order : Order ℚ) (heard : List Heard) : Prop :=
  (heard = [] ∧ ∃ error, order = Polymarket.failed_order req error) ∨
  (∃ record, heard = [.listed record] ∧ order = order_from_record spelled req record) ∨
  ∃ response, heard = [.acknowledged response] ∧ order = order_from_response spelled req response

theorem returned_failed (error : String) :
    Returned spelled req (Polymarket.failed_order req error) [] :=
  .inl ⟨rfl, error, rfl⟩

/-- One attempt hears an acknowledgement, or nothing. -/
theorem submit_heard :
    wp (hearing spelled req) (submit req)
      (fun answer heard => heard = (answer.toOption.map Heard.acknowledged).toList) [] := by
  refine wp_bind.2 (wp_send.2 fun _ heard₁ hacquire => ?_)
  refine wp_bind.2 (wp_send.2 fun signed heard₂ hsign => ?_)
  have hnone : heard₂ = [] := by
    rw [show heard₂ = heard₁ from hsign]
    exact hacquire
  cases signed with
  | error exc => exact wp_pure.2 hnone
  | ok signature =>
    refine wp_send.2 fun answer heard₃ hpost => ?_
    rw [hnone] at hpost
    cases answer with
    | error exc => exact hpost
    | ok response => exact hpost

theorem give_up_returned (exc : String) :
    wp (hearing spelled req) (give_up req exc) (Returned spelled req) [] := by
  unfold give_up
  refine wp_ite.2 ⟨fun _ => ?_, fun _ => ?_⟩
  · refine wp_bind.2 (wp_send.2 fun delay heard₁ hdelay => ?_)
    refine wp_bind.2 (wp_send.2 fun _ heard₂ hfailure => wp_pure.2 ?_)
    have hnone : heard₂ = [] := by
      rw [show heard₂ = heard₁ from hfailure]
      exact hdelay
    rw [hnone]
    exact returned_failed spelled req _
  · refine wp_bind.2 (wp_send.2 fun _ heard₁ hfailure => wp_pure.2 ?_)
    rw [show heard₁ = [] from hfailure]
    exact returned_failed spelled req _

/-- By induction on the attempts left: as long as they go on, nothing was heard. -/
theorem attempts_returned (left attempt : ℕ) (last_exc : String) :
    wp (hearing spelled req) (attempts spelled req left attempt last_exc)
      (Returned spelled req) [] := by
  induction left generalizing attempt last_exc with
  | zero =>
    refine wp_bind.2 (wp_send.2 fun _ heard₁ hfailure => wp_pure.2 ?_)
    rw [show heard₁ = [] from hfailure]
    exact returned_failed spelled req _
  | succ left ih =>
    refine wp_bind.2 (wp_send.2 fun listing heard₁ hlist => ?_)
    have hheard : heard₁ =
        ((match_existing spelled (listing.toOption.getD []) req).map Heard.listed).toList := hlist
    -- A record that matches ends the attempts; else one order is submitted.
    cases hmatch : match_existing spelled (listing.toOption.getD []) req with
    | some record =>
      rw [hmatch] at hheard
      exact wp_pure.2 (.inr (.inl ⟨record, hheard, rfl⟩))
    | none =>
      rw [hmatch] at hheard
      rw [show heard₁ = [] from hheard]
      refine wp_bind.2 (wp_mono (submit_heard spelled req) ?_)
      intro answer heard₂ hanswer
      match answer with
      | .ok response =>
        refine wp_bind.2 (wp_send.2 fun _ heard₃ hsuccess => wp_pure.2 ?_)
        rw [show heard₃ = heard₂ from hsuccess]
        exact .inr (.inr ⟨response, hanswer, rfl⟩)
      | .error (.timeout exc) =>
        refine wp_bind.2 (wp_send.2 fun _ heard₃ hsleep => ?_)
        rw [show heard₃ = heard₂ from hsleep, show heard₂ = [] from hanswer]
        exact ih (attempt + 1) exc
      | .error (.other exc) =>
        rw [show heard₂ = [] from hanswer]
        exact give_up_returned spelled req exc

theorem place_fok_returned (cfg : Polymarket.Config) :
    wp (hearing spelled req) (Polymarket.place_fok spelled cfg req) (Returned spelled req) [] := by
  unfold Polymarket.place_fok
  refine wp_ite.2 ⟨fun _ => ?_, fun _ => wp_pure.2 (returned_failed spelled req _)⟩
  refine wp_bind.2 (wp_send.2 fun closed heard₁ hcan => ?_)
  rw [show heard₁ = [] from hcan]
  refine wp_ite.2 ⟨fun _ => ?_, fun _ => wp_pure.2 (returned_failed spelled req _)⟩
  refine wp_ite.2 ⟨fun _ => ?_, fun _ => wp_pure.2 (returned_failed spelled req _)⟩
  cases (Polymarket.hard_lock "PHASE4" cfg.phase4_max_order_usd req).or
      (Polymarket.hard_lock "PHASE5" cfg.phase5_max_order_usd req) with
  | some error => exact wp_pure.2 (returned_failed spelled req _)
  | none => exact attempts_returned spelled req 3 0 "None"

/-- Polymarket reported a fill to a placement. -/
def polymarket_reported (heard : List Heard) : Prop :=
  ∃ h ∈ heard, reports polymarket_keys h.payload = true

/-- An acknowledgement that adds up. Its fill is the whole quantity where it has no
    count. -/
def PolymarketAcknowledges (response : Json ℚ) : Prop :=
  let word := ((response.getD "status" (.str "matched" none)).text spelled).toLower
  let count := (response.getD "size_matched" (.num req.qty)).float.getD req.qty
  let reported := reports polymarket_keys response = true
  if (response.getD "success" (.bool true)).truthy then
    Agree (Polymarket.response_status word) count req.qty reported
  else ¬ reported

/-- A payload that adds up. An open order that is found has nothing filled, since it is
    returned as open. -/
def Heard.Agrees : Heard → Prop
  | listed record => ¬ reports polymarket_keys record = true
  | acknowledged response => PolymarketAcknowledges spelled req response

theorem heard_honest_iff {order : Order ℚ} {heard : List Heard}
    (h : Returned spelled req order heard) :
    Honest order (polymarket_reported heard) ↔ ∀ h ∈ heard, h.Agrees spelled req := by
  have hsingle : ∀ h : Heard, polymarket_reported [h] ↔ reports polymarket_keys h.payload = true := by
    intro h
    unfold polymarket_reported
    simp
  rcases h with ⟨rfl, error, rfl⟩ | ⟨record, rfl, rfl⟩ | ⟨response, rfl, rfl⟩
  · constructor
    · intro _ h hno
      cases hno
    · intro _
      refine honest_of_failed rfl rfl fun hr => ?_
      obtain ⟨h, hno, _⟩ := hr
      cases hno
  · rw [hsingle, List.forall_mem_singleton, honest_iff]
    rfl
  · rw [hsingle, List.forall_mem_singleton, honest_iff]
    show Agree _ _ _ (reports polymarket_keys response = true) ↔
      PolymarketAcknowledges spelled req response
    unfold PolymarketAcknowledges order_from_response
    by_cases hsuccess : (response.getD "success" (.bool true)).truthy = true
    · rw [if_pos hsuccess, if_pos hsuccess]
      rfl
    · rw [if_neg hsuccess, if_neg hsuccess]
      show ¬ _ ∧ (0 : ℚ) = 0 ↔ ¬ _
      exact and_iff_left rfl

/-- The record that a poll finds, null where there is none. -/
def polymarket_record (has_client : Bool) (answer : Except String (Json ℚ)) : Json ℚ :=
  if has_client then answer.toOption.getD .null else .null

/-- Polymarket reported a fill to a poll, or had reported one before. -/
def polymarket_poll_reported (record : Json ℚ) (order : Order ℚ) : Prop :=
  reports polymarket_keys record = true ∨ 0 < order.fill_qty

/-- A polled order: the word of the record, or else the status it had, goes with the
    count. Where there is no record, nothing was filled before. -/
def PolymarketPolled (record : Json ℚ) (order : Order ℚ) : Prop :=
  match record with
  | .null => order.fill_qty = 0
  | record =>
      let word := ((record.getD "status" (.str "" none)).text spelled).toLower
      Agree (Polymarket.record_status order.status word)
        (Polymarket.record_fill record order.fill_qty) order.quantity
        (polymarket_poll_reported record order)

theorem polymarket_get_order_honest_iff (has_client : Bool) (answer : Except String (Json ℚ))
    (delay : ℚ) (order : Order ℚ) :
    Honest (Polymarket.get_order spelled has_client answer delay order)
        (polymarket_poll_reported (polymarket_record has_client answer) order) ↔
      PolymarketPolled spelled (polymarket_record has_client answer) order := by
  -- Where no record is found the order is made FAILED, with the fill it had.
  have hfailed : ∀ {order' : Order ℚ}, order'.status = .failed →
      order'.fill_qty = order.fill_qty →
      (Honest order' (polymarket_poll_reported .null order) ↔
        PolymarketPolled spelled .null order) := by
    intro order' hstatus hfill
    have hreported : polymarket_poll_reported .null order ↔ 0 < order.fill_qty := by
      unfold polymarket_poll_reported
      rw [reports_null]
      simp
    rw [hreported]
    exact honest_failed_iff hstatus hfill
  unfold Polymarket.get_order polymarket_record
  cases has_client with
  | false => exact hfailed rfl rfl
  | true =>
    cases answer with
    | error exc =>
      by_cases hlimit : Polymarket.is_rate_limit_error exc = true
      · simp only [if_pos, hlimit]
        exact hfailed rfl rfl
      · simp only [if_pos, hlimit]
        exact hfailed rfl rfl
    | ok record =>
      cases record with
      | null => exact hfailed rfl rfl
      | _ => exact honest_iff

end polymarket

/-! ## Section 5: Polymarket US -/

section polymarket_us

open PolymarketUs (map_status fill_value has_fill)

variable (spelled : Json ℚ → String) (req : OrderRequest)

def polymarket_us_keys : List String := ["cumQuantity", "filledQty", "size_matched"]

/-- The order of the first execution of an acknowledgement. -/
def us_execution (response : Json ℚ) : Json ℚ :=
  (PolymarketUs.execution_order response).getD .null

/-- An acknowledgement reports a fill. -/
def us_reports (response : Json ℚ) : Bool :=
  reports polymarket_us_keys response || reports polymarket_us_keys (us_execution response)

/-- An acknowledgement that adds up. A FILLED one without a count, or with a zero, is not
    returned as FILLED. -/
def PolymarketUsAcknowledges (response : Json ℚ) : Prop :=
  let execution := us_execution response
  let word := PolymarketUs.status_word spelled response execution "OPEN"
  let count := (fill_value response execution).float.getD 0
  let reported := us_reports response = true
  if map_status word .submitted = .filled ∧ count = 0 then ¬ reported
  else Agree (map_status word .submitted) count req.qty reported

/-- The error text is all that is added to the order of an answer. -/
theorem sent_order_cases {response : Json ℚ} {order : Order ℚ}
    (h : PolymarketUs.sent_order spelled req response = .ok order) :
    (response.is_obj = false ∧ order = PolymarketUs.unexpected_order req) ∨
    (response.is_obj = true ∧ ∃ error, order =
      { PolymarketUs.order_from_response spelled req response (us_execution response) with
        error := error }) := by
  unfold PolymarketUs.sent_order at h
  by_cases hobj : response.is_obj = true
  · rw [if_pos hobj] at h
    refine .inr ⟨hobj, ?_⟩
    unfold us_execution
    cases hexec : PolymarketUs.execution_order response with
    | none =>
      rw [hexec] at h
      cases h
    | some execution =>
      rw [hexec] at h
      dsimp only at h
      split_ifs at h
      · cases h
        exact ⟨_, rfl⟩
      · cases h
        exact ⟨"", rfl⟩
  · rw [if_neg hobj] at h
    cases h
    exact .inl ⟨by simpa using hobj, rfl⟩

/-- An answer that is no object reports nothing. -/
theorem us_reports_of_not_obj {response : Json ℚ} (h : response.is_obj = false) :
    us_reports response = false := by
  have hexec : us_execution response = .obj [] := by
    unfold us_execution PolymarketUs.execution_order Json.get Json.getD
    rw [get?_eq_none h]
    rfl
  unfold us_reports
  rw [reports_of_not_obj h, hexec]
  rfl

theorem sent_order_honest_iff {response : Json ℚ} {order : Order ℚ}
    (h : PolymarketUs.sent_order spelled req response = .ok order) :
    Honest order (us_reports response = true) ↔
      (response.is_obj = true → PolymarketUsAcknowledges spelled req response) := by
  rcases sent_order_cases spelled req h with ⟨hobj, rfl⟩ | ⟨hobj, error, rfl⟩
  · constructor
    · intro _ hyes
      rw [hobj] at hyes
      cases hyes
    · intro _
      refine honest_of_failed rfl rfl ?_
      rw [us_reports_of_not_obj hobj]
      exact Bool.false_ne_true
  · rw [honest_iff, forall_prop_of_true hobj]
    unfold PolymarketUsAcknowledges PolymarketUs.order_from_response
    dsimp only
    -- FILLED with a zero: a kill, or left to the poll; neither is FILLED.
    by_cases hzero : map_status (PolymarketUs.status_word spelled response
        (us_execution response) "OPEN") .submitted = .filled ∧
        (fill_value response (us_execution response)).float.getD 0 = 0
    · rw [if_pos hzero, if_pos hzero, hzero.2]
      by_cases hfill : has_fill response (us_execution response) = true
      · rw [if_pos hfill]
        show ¬ _ ∧ (0 : ℚ) = 0 ↔ ¬ _
        exact and_iff_left rfl
      · rw [if_neg hfill]
        rfl
    · rw [if_neg hzero, if_neg hzero]

/-- Polymarket US reported a fill to a placement. -/
def polymarket_us_reported (cfg : PolymarketUs.Config)
    (answer : Except PolymarketUs.Raised (Json ℚ)) : Prop :=
  PolymarketUs.refusal cfg req = none ∧ ∃ response, answer = .ok response ∧
    us_reports response = true

/-- What a placement on Polymarket US reads adds up. -/
def PolymarketUsPlaced (answer : Except PolymarketUs.Raised (Json ℚ)) : Prop :=
  ∀ response, answer = .ok response → response.is_obj = true →
    PolymarketUsAcknowledges spelled req response

theorem polymarket_us_place_honest_iff {cfg : PolymarketUs.Config}
    {answer : Except PolymarketUs.Raised (Json ℚ)} {order : Order ℚ}
    (h : PolymarketUs.place_fok spelled cfg req answer = .ok order) :
    Honest order (polymarket_us_reported req cfg answer) ↔
      PolymarketUsPlaced spelled req answer := by
  unfold PolymarketUs.place_fok at h
  cases hsent : PolymarketUs.refusal cfg req with
  | some text =>
    rw [hsent] at h
    cases h
  | none =>
    rw [hsent] at h
    cases answer with
    | error exc => cases h
    | ok response =>
      have hreported : polymarket_us_reported req cfg (.ok response) ↔
          us_reports response = true := by simp [polymarket_us_reported, hsent]
      have hplaced : PolymarketUsPlaced spelled req (.ok response) ↔
          (response.is_obj = true → PolymarketUsAcknowledges spelled req response) := by
        simp [PolymarketUsPlaced]
      rw [hreported, hplaced]
      exact sent_order_honest_iff spelled req h

/-- The order in an answer to a poll. -/
def us_payload (response : Json ℚ) : Json ℚ := response.getD "order" response

/-- An answer to a poll reports a fill. -/
def us_poll_reports (response : Json ℚ) : Bool :=
  reports polymarket_us_keys (us_payload response) ||
    match PolymarketUs.first_execution response with
    | .order fields => reports polymarket_us_keys fields
    | _ => false

/-- Polymarket US reported a fill to a poll, or had reported one before. -/
def polymarket_us_poll_reported (answer : Option (Except String (Json ℚ))) (order : Order ℚ) :
    Prop :=
  (∃ response, answer = some (.ok response) ∧ us_poll_reports response = true) ∨
    0 < order.fill_qty

/-- The status word of an answer to a poll, where the answer has the shape of one. -/
def us_poll_word (answer : Option (Except String (Json ℚ))) : Option String :=
  match answer with
  | some (.ok response) =>
      let word := (PolymarketUs.polled_word spelled (us_payload response)).toUpper
      if response.is_obj ∧ (us_payload response).is_obj ∧ word ≠ "" then some word else none
  | _ => none

/-- The count after a poll: a poll can only raise it. -/
def us_poll_count (answer : Option (Except String (Json ℚ))) (fill_qty : ℚ) : ℚ :=
  match answer with
  | some (.ok response) =>
      match PolymarketUs.polled_value response (us_payload response) "cumQuantity" with
      | .ok cum => PolymarketUs.raised_fill fill_qty cum
      | .error _ => fill_qty
  | _ => fill_qty

/-- A polled order: the word goes with the count. Without a word the order went with its
    fill before. -/
def PolymarketUsPolled (answer : Option (Except String (Json ℚ))) (order : Order ℚ) : Prop :=
  let reported := polymarket_us_poll_reported answer order
  match us_poll_word spelled answer with
  | none => Agree order.status order.fill_qty order.quantity reported
  | some word =>
      Agree (map_status word order.status) (us_poll_count answer order.fill_qty) order.quantity
        reported

theorem polled_fill_spec (response payload : Json ℚ) (exc : String) (order : Order ℚ) :
    (PolymarketUs.polled_fill response payload exc order).status = order.status ∧
      (PolymarketUs.polled_fill response payload exc order).quantity = order.quantity ∧
      (PolymarketUs.polled_fill response payload exc order).fill_qty =
        match PolymarketUs.polled_value response payload "cumQuantity" with
        | .ok cum => PolymarketUs.raised_fill order.fill_qty cum
        | .error _ => order.fill_qty := by
  unfold PolymarketUs.polled_fill
  cases PolymarketUs.polled_value response payload "cumQuantity" with
  | error exc => exact ⟨rfl, rfl, rfl⟩
  | ok cum =>
    dsimp only
    cases PolymarketUs.polled_value response payload "avgPx" with
    | error exc => exact ⟨rfl, rfl, rfl⟩
    | ok avg_px =>
      dsimp only
      split_ifs
      · exact ⟨rfl, rfl, rfl⟩
      · exact ⟨rfl, rfl, rfl⟩

/-- Without a status word a poll leaves the order, but for its error and its flag. -/
theorem us_get_order_unread {answer : Option (Except String (Json ℚ))}
    (h : us_poll_word spelled answer = none) (exc : String) (order : Order ℚ) :
    (PolymarketUs.get_order spelled answer exc order).status = order.status ∧
      (PolymarketUs.get_order spelled answer exc order).fill_qty = order.fill_qty ∧
      (PolymarketUs.get_order spelled answer exc order).quantity = order.quantity := by
  cases answer with
  | none => exact ⟨rfl, rfl, rfl⟩
  | some answer =>
    cases answer with
    | error text => exact ⟨rfl, rfl, rfl⟩
    | ok response =>
      unfold us_poll_word us_payload at h
      unfold PolymarketUs.get_order
      dsimp only at h ⊢
      by_cases hobj : response.is_obj = true
      · rw [if_pos hobj]
        by_cases hpayload : (response.getD "order" response).is_obj = true
        · rw [if_pos hpayload]
          by_cases hword :
              (PolymarketUs.polled_word spelled (response.getD "order" response)).toUpper = ""
          · rw [if_pos hword]
            exact ⟨rfl, rfl, rfl⟩
          · rw [if_pos ⟨hobj, hpayload, hword⟩] at h
            cases h
        · -- Reading an order that is no object trips before anything is written.
          rw [if_neg hpayload]
          exact ⟨rfl, rfl, rfl⟩
      · rw [if_neg hobj]
        exact ⟨rfl, rfl, rfl⟩

/-- With a status word a poll maps it and reads the count. -/
theorem us_get_order_read {answer : Option (Except String (Json ℚ))} {word : String}
    (h : us_poll_word spelled answer = some word) (exc : String) (order : Order ℚ) :
    (PolymarketUs.get_order spelled answer exc order).status = map_status word order.status ∧
      (PolymarketUs.get_order spelled answer exc order).fill_qty =
        us_poll_count answer order.fill_qty ∧
      (PolymarketUs.get_order spelled answer exc order).quantity = order.quantity := by
  cases answer with
  | none => cases h
  | some answer =>
    cases answer with
    | error text => cases h
    | ok response =>
      unfold us_poll_word at h
      dsimp only at h
      split_ifs at h with hread
      cases h
      obtain ⟨hobj, hpayload, hword⟩ := hread
      -- with a word that can be read, the poll is the mapped word and the count after it
      have hpoll : PolymarketUs.get_order spelled (some (.ok response)) exc order =
          PolymarketUs.polled_fill response (us_payload response) exc
            { order with
              status := map_status
                (PolymarketUs.polled_word spelled (us_payload response)).toUpper order.status } := by
        unfold PolymarketUs.get_order
        dsimp only
        rw [if_pos hobj]
        rw [us_payload] at hpayload hword ⊢
        rw [if_pos hpayload, if_neg hword]
      rw [hpoll]
      obtain ⟨hstatus, hquantity, hfill⟩ := polled_fill_spec response (us_payload response) exc
        { order with
          status := map_status
            (PolymarketUs.polled_word spelled (us_payload response)).toUpper order.status }
      exact ⟨hstatus, hfill, hquantity⟩

theorem polymarket_us_get_order_honest_iff (answer : Option (Except String (Json ℚ)))
    (exc : String) (order : Order ℚ) :
    Honest (PolymarketUs.get_order spelled answer exc order)
        (polymarket_us_poll_reported answer order) ↔
      PolymarketUsPolled spelled answer order := by
  rw [honest_iff]
  unfold PolymarketUsPolled
  cases hword : us_poll_word spelled answer with
  | none =>
    obtain ⟨hstatus, hfill, hquantity⟩ := us_get_order_unread spelled hword exc order
    rw [hstatus, hfill, hquantity]
  | some word =>
    obtain ⟨hstatus, hfill, hquantity⟩ := us_get_order_read spelled hword exc order
    rw [hstatus, hfill, hquantity]

end polymarket_us

/-! ## Section 6: ForecastEx -/

section forecastex

open Forecastex (map_status acknowledgement ack_fill has_fill entry)

variable (spelled : Json ℚ → String) (req : OrderRequest)

def forecastex_keys : List String :=
  ["filled_qty", "filledQty", "filled_quantity", "filledQuantity", "cumQty", "cum_fill"]

/-- ForecastEx reported a fill to a placement. -/
def forecastex_reported (cfg : Forecastex.Config) (op : String)
    (answer : Except Forecastex.ClientRaised (Json ℚ)) : Prop :=
  Forecastex.refusal cfg op req = none ∧ ∃ response, answer = .ok response ∧
    reports forecastex_keys (acknowledgement response) = true

/-- An acknowledgement that adds up. A FILLED one with a zero is not returned as FILLED, and
    one without a count is a full fill. An order without an id is returned as FAILED. -/
def ForecastexAcknowledges (broker_order_id : Option String) (ack : Json ℚ) : Prop :=
  let reported := reports forecastex_keys ack = true
  match broker_order_id with
  | none => ¬ reported
  | some _ =>
      let status := map_status (Forecastex.ack_word spelled ack).toUpper .submitted
      if status = .filled ∧ ack_fill ack = 0 then ¬ reported
      else Agree status (Forecastex.int (ack_fill ack)) req.qty reported

/-- What reports a fill has one of the keys. -/
theorem has_fill_of_reports {ack : Json ℚ} (h : reports forecastex_keys ack = true) :
    has_fill ack = true := by
  obtain ⟨key, hkey, hpos⟩ := List.any_eq_true.1 h
  refine List.any_eq_true.2 ⟨key, hkey, ?_⟩
  cases hget : ack.get? key with
  | none =>
    rw [Json.get, Json.getD, hget] at hpos
    exact absurd (of_decide_eq_true hpos) (lt_irrefl (0 : ℚ))
  | some value => rfl

theorem ack_honest_iff (price : ℚ≥0) (broker_order_id : String) (ack : Json ℚ) :
    Honest (Forecastex.order_from_response spelled req price broker_order_id ack)
        (reports forecastex_keys ack = true) ↔
      ForecastexAcknowledges spelled req (some broker_order_id) ack := by
  rw [honest_iff]
  unfold ForecastexAcknowledges Forecastex.order_from_response
  dsimp only
  -- FILLED with a zero: a kill if the zero is spelled out, else a full fill.
  by_cases hzero : map_status (Forecastex.ack_word spelled ack).toUpper .submitted = .filled ∧
      ack_fill ack = 0
  · rw [if_pos hzero]
    by_cases hfill : has_fill ack = true
    · rw [if_pos ⟨hzero, hfill⟩, if_neg (fun h => h.2 hfill), hzero.2]
      show ¬ _ ∧ ((Forecastex.int 0 : ℤ) : ℚ) = 0 ↔ ¬ _
      exact and_iff_left rfl
    · -- No key at all: then nothing is reported either.
      rw [if_neg (fun h => hfill h.2), if_pos ⟨hzero, hfill⟩, hzero.1]
      show (req.qty : ℚ) ≤ req.qty ↔ ¬ _
      constructor
      · intro _ hr
        exact hfill (has_fill_of_reports hr)
      · intro _
        exact le_refl _
  · rw [if_neg hzero, if_neg (fun h => hzero h.1), if_neg (fun h => hzero h.1)]

/-- What a placement on ForecastEx reads adds up. -/
def ForecastexPlaced (answer : Except Forecastex.ClientRaised (Json ℚ))
    (broker_order_id : Option String) : Prop :=
  ∀ response, answer = .ok response →
    ForecastexAcknowledges spelled req broker_order_id (acknowledgement response)

theorem forecastex_place_honest_iff {cfg : Forecastex.Config} {op : String}
    {answer : Except Forecastex.ClientRaised (Json ℚ)} {broker_order_id : Option String}
    {order : Order ℚ}
    (h : Forecastex.submit spelled cfg op req answer broker_order_id = .ok order) :
    Honest order (forecastex_reported req cfg op answer) ↔
      ForecastexPlaced spelled req answer broker_order_id := by
  unfold Forecastex.submit at h
  cases hsent : Forecastex.refusal cfg op req with
  | some text =>
    rw [hsent] at h
    cases h
  | none =>
    rw [hsent] at h
    cases answer with
    | error exc =>
      cases exc with
      -- a rejection is raised to the caller: no order is returned
      | rejected text => cases h
      | other text =>
        cases h
        constructor
        · intro _ response hno
          cases hno
        · intro _
          refine honest_of_failed rfl rfl fun hr => ?_
          obtain ⟨_, response, hno, _⟩ := hr
          cases hno
    | ok response =>
      have hreported : forecastex_reported req cfg op (.ok response) ↔
          reports forecastex_keys (acknowledgement response) = true := by
        simp [forecastex_reported, hsent]
      have hplaced : ForecastexPlaced spelled req (.ok response) broker_order_id ↔
          ForecastexAcknowledges spelled req broker_order_id (acknowledgement response) := by
        simp [ForecastexPlaced]
      rw [hreported, hplaced]
      cases broker_order_id with
      | none =>
        cases h
        rw [honest_iff]
        show ¬ _ ∧ (0 : ℚ) = 0 ↔ ¬ _
        exact and_iff_left rfl
      | some broker_order_id =>
        cases h
        exact ack_honest_iff spelled req _ broker_order_id (acknowledgement response)

/-- The entry of an answer to a poll, null where there is none. An id that the adapter
    made up is never asked about. -/
def forecastex_entry (answer : Except String (Json ℚ)) (order : Order ℚ) : Json ℚ :=
  if Forecastex.looks_like_synthetic_id order.order_id then .null
  else
    match answer with
    | .error _ => .null
    | .ok answer => entry answer

/-- ForecastEx reported a fill to a poll, or had reported one before. -/
def forecastex_poll_reported (answer : Except String (Json ℚ)) (order : Order ℚ) : Prop :=
  reports forecastex_keys (forecastex_entry answer order) = true ∨ 0 < order.fill_qty

/-- A polled order: the status word goes with the count. Without a word the order went
    with its fill before. -/
def ForecastexPolled (answer : Except String (Json ℚ)) (order : Order ℚ) : Prop :=
  let payload := forecastex_entry answer order
  let word := (Forecastex.status_word spelled payload).toUpper
  let reported := forecastex_poll_reported answer order
  if payload.is_obj ∧ word ≠ "" then
    Agree (map_status word order.status) (Forecastex.polled_fill payload order.fill_qty)
      order.quantity reported
  else Agree order.status order.fill_qty order.quantity reported

/-- An object without fields has no status word. -/
theorem status_word_of_empty {payload : Json ℚ} (hobj : payload.is_obj = true)
    (hempty : ¬ payload.truthy = true) : Forecastex.status_word spelled payload = "" := by
  cases payload with
  | obj fields =>
    cases fields with
    | nil => rfl
    | cons field rest => exact absurd rfl hempty
  | _ => cases hobj

theorem forecastex_get_order_honest_iff (answer : Except String (Json ℚ)) (inverted : Bool)
    (order : Order ℚ) :
    Honest (Forecastex.get_order spelled answer inverted order)
        (forecastex_poll_reported answer order) ↔
      ForecastexPolled spelled answer order := by
  rw [honest_iff]
  unfold ForecastexPolled
  -- What is reported plays no part in what the poll returns.
  generalize forecastex_poll_reported answer order = reported
  unfold forecastex_entry Forecastex.get_order
  dsimp only
  have hnull : ¬ ((Json.null : Json ℚ).is_obj = true ∧
      (Forecastex.status_word spelled .null).toUpper ≠ "") := fun h => absurd h.1 Bool.false_ne_true
  by_cases hmade : Forecastex.looks_like_synthetic_id order.order_id = true
  · rw [if_pos hmade, if_pos hmade, if_neg hnull]
  rw [if_neg hmade, if_neg hmade]
  cases answer with
  | error exc =>
    dsimp only
    rw [if_neg hnull]
  | ok answer =>
    dsimp only
    by_cases hobj : (entry answer).is_obj = true
    swap
    · have hshape : ¬ ((entry answer).is_obj && (entry answer).truthy) = true := by
        rw [Bool.and_eq_true]
        exact fun h => hobj h.1
      rw [if_neg hshape, if_neg fun h => hobj h.1]
    by_cases htruthy : (entry answer).truthy = true
    · have hshape : ((entry answer).is_obj && (entry answer).truthy) = true := by
        rw [hobj, htruthy]
        rfl
      rw [if_pos hshape]
      by_cases hword : (Forecastex.status_word spelled (entry answer)).toUpper = ""
      · rw [if_pos hword, if_neg fun h => h.2 hword]
      · rw [if_neg hword, if_pos ⟨hobj, hword⟩]
    · -- An empty object has no word either.
      have hshape : ¬ ((entry answer).is_obj && (entry answer).truthy) = true := by
        rw [Bool.and_eq_true]
        exact fun h => htruthy h.2
      have hword : (Forecastex.status_word spelled (entry answer)).toUpper = "" := by
        rw [status_word_of_empty spelled hobj htruthy]
        decide +kernel
      rw [if_neg hshape, if_neg fun h => h.2 hword]

end forecastex

/-! ## Section 7: Every adapter -/

/-- One call of an adapter, with what it was answered. -/
inductive Reply
  | kalshi_place (cfg : Kalshi.Config) (req : OrderRequest)
      (answer : Except Kalshi.Raised (Kalshi.Response ℚ))
  | kalshi_get_order (authenticated : Bool) (answer : Except String (Kalshi.Response ℚ))
      (order : Order ℚ)
  /-- A run of `place_fok` in which `heard` came in. -/
  | polymarket_place (cfg : Polymarket.Config) (req : OrderRequest) (heard : List Heard)
  | polymarket_get_order (has_client : Bool) (answer : Except String (Json ℚ)) (delay : ℚ)
      (order : Order ℚ)
  | polymarket_us_place (cfg : PolymarketUs.Config) (req : OrderRequest)
      (answer : Except PolymarketUs.Raised (Json ℚ))
  | polymarket_us_get_order (answer : Option (Except String (Json ℚ))) (exc : String)
      (order : Order ℚ)
  | forecastex_place (cfg : Forecastex.Config) (op : String) (req : OrderRequest)
      (answer : Except Forecastex.ClientRaised (Json ℚ)) (broker_order_id : Option String)
  | forecastex_get_order (answer : Except String (Json ℚ)) (inverted : Bool) (order : Order ℚ)

namespace Reply

variable (spelled : Json ℚ → String)

/-- The call returns the order. -/
def Returns (reply : Reply) (order : Order ℚ) : Prop :=
  match reply with
  | kalshi_place cfg req answer => Kalshi.place_fok spelled cfg req answer = some order
  | kalshi_get_order authenticated answer before =>
      Kalshi.get_order authenticated answer before = order
  | polymarket_place cfg req heard =>
      Exec (hearing spelled req) (Polymarket.place_fok spelled cfg req) [] order heard
  | polymarket_get_order has_client answer delay before =>
      Polymarket.get_order spelled has_client answer delay before = order
  | polymarket_us_place cfg req answer =>
      PolymarketUs.place_fok spelled cfg req answer = .ok order
  | polymarket_us_get_order answer exc before =>
      PolymarketUs.get_order spelled answer exc before = order
  | forecastex_place cfg op req answer broker_order_id =>
      Forecastex.submit spelled cfg op req answer broker_order_id = .ok order
  | forecastex_get_order answer inverted before =>
      Forecastex.get_order spelled answer inverted before = order

/-- The venue reported a fill, to this call or before. -/
def Reported : Reply → Prop
  | kalshi_place cfg req answer => kalshi_reported cfg req answer
  | kalshi_get_order authenticated answer before =>
      kalshi_poll_reported authenticated answer before
  | polymarket_place _ _ heard => polymarket_reported heard
  | polymarket_get_order has_client answer _ before =>
      polymarket_poll_reported (polymarket_record has_client answer) before
  | polymarket_us_place cfg req answer => polymarket_us_reported req cfg answer
  | polymarket_us_get_order answer _ before => polymarket_us_poll_reported answer before
  | forecastex_place cfg op req answer _ => forecastex_reported req cfg op answer
  | forecastex_get_order answer _ before => forecastex_poll_reported answer before

/-- The answer adds up, as its adapter reads it. -/
def AddsUp : Reply → Prop
  | kalshi_place cfg req answer =>
      Kalshi.refusal cfg req = none → (kalshi_data answer).is_obj = true →
        KalshiAcknowledges spelled (kalshi_data answer) req.qty
  | kalshi_get_order authenticated answer before => KalshiPolled authenticated answer before
  | polymarket_place _ req heard => ∀ h ∈ heard, h.Agrees spelled req
  | polymarket_get_order has_client answer _ before =>
      PolymarketPolled spelled (polymarket_record has_client answer) before
  | polymarket_us_place _ req answer => PolymarketUsPlaced spelled req answer
  | polymarket_us_get_order answer _ before => PolymarketUsPolled spelled answer before
  | forecastex_place _ _ req answer broker_order_id =>
      ForecastexPlaced spelled req answer broker_order_id
  | forecastex_get_order answer _ before => ForecastexPolled spelled answer before

end Reply

/-- **What an adapter returns is honest**, if and only if the answer it reads adds up. -/
theorem returned_honest_iff (spelled : Json ℚ → String) (reply : Reply) (order : Order ℚ)
    (h : reply.Returns spelled order) :
    Honest order reply.Reported ↔ reply.AddsUp spelled := by
  cases reply with
  | kalshi_place cfg req answer => exact kalshi_place_honest_iff spelled h
  | kalshi_get_order authenticated answer before =>
    cases h
    exact kalshi_get_order_honest_iff authenticated answer before
  | polymarket_place cfg req heard =>
    exact heard_honest_iff spelled req (place_fok_returned spelled req cfg order heard h)
  | polymarket_get_order has_client answer delay before =>
    cases h
    exact polymarket_get_order_honest_iff spelled has_client answer delay before
  | polymarket_us_place cfg req answer => exact polymarket_us_place_honest_iff spelled req h
  | polymarket_us_get_order answer exc before =>
    cases h
    exact polymarket_us_get_order_honest_iff spelled answer exc before
  | forecastex_place cfg op req answer broker_order_id =>
    exact forecastex_place_honest_iff spelled req h
  | forecastex_get_order answer inverted before =>
    cases h
    exact forecastex_get_order_honest_iff spelled answer inverted before

/-! ### A fill under a key that only the poll reads -/

/-- A rendering that has texts only. -/
def texts_only : Json ℚ → String := fun _ => ""

/-- Ten YES contracts at 0.40. -/
def ten_yes : OrderRequest where
  arb_id := "ARB-000001"
  market_id := "701"
  canonical_id := "EVENT"
  side := .yes
  price := 2 / 5
  qty := 10

/-- An acknowledgement of ten contracts filled, counted as `cum_fill`. -/
def filled_ack : Json ℚ :=
  .obj [("order_id", .str "249901299" none), ("order_status", .str "Filled" none),
    ("cum_fill", .num 10)]

/-- The placement that it answers. -/
def filled_on_ack : Reply :=
  .forecastex_place ⟨none, none, false, none⟩ "place_fok" ten_yes (.ok filled_ack)
    (some "249901299")

/-- The order comes back CANCELLED with nothing filled. -/
theorem filled_ack_is_dropped :
    ∃ order, filled_on_ack.Returns texts_only order ∧ order.status = .cancelled ∧
      order.fill_qty = 0 ∧ filled_on_ack.Reported ∧ ¬ Honest order filled_on_ack.Reported := by
  have hreported : filled_on_ack.Reported :=
    ⟨by decide, filled_ack, rfl, by decide⟩
  refine ⟨_, rfl, ?_, ?_, hreported, ?_⟩
  · decide +kernel
  · decide +kernel
  · intro h
    have hshown := h.shown hreported
    revert hshown
    decide +kernel

/-- An order of ten contracts that Kalshi executed, with its count. -/
def executed : Json ℚ :=
  .obj [("status", .str "executed" none), ("fill_count", .str "10.00" (some 10))]

def authenticated : Kalshi.Config := ⟨true, true, none, none, "0.4", "0123456789abcdef"⟩

/-- The placement that it answers. -/
def filled_on_kalshi : Reply :=
  .kalshi_place authenticated ten_yes (.ok ⟨200, "", some executed, "", ""⟩)

theorem executed_order_is_honest :
    ∃ order, filled_on_kalshi.Returns texts_only order ∧ filled_on_kalshi.Reported ∧
      Honest order filled_on_kalshi.Reported := by
  have hreturns : filled_on_kalshi.Returns texts_only
      (Kalshi.placed_order texts_only authenticated ten_yes executed) := by
    show Kalshi.place_fok texts_only authenticated ten_yes _ = _
    decide +kernel
  have hreported : filled_on_kalshi.Reported := ⟨by decide +kernel, by decide +kernel⟩
  refine ⟨_, hreturns, hreported, (returned_honest_iff texts_only _ _ hreturns).2 ?_⟩
  intro _ _
  show (10 : ℚ) ≤ Kalshi.fill_qty executed
  decide

end Adapters
