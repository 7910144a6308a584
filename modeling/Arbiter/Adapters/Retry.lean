import Mathlib.Algebra.Order.BigOperators.Group.List
import Arbiter.Adapters.Polymarket
import Arbiter.Execution.Venue

/-! # Retries on Polymarket

  An attempt that timed out may have gone through. The open orders show it only while it
  is open, and may show an order of somebody else that looks alike.

  The main result says in which runs one call of `place_fok` can match no more than it
  was asked for, and returns an order of its own.
-/

namespace Polymarket

open Effect Execution

/-! ## Section 1: Submissions -/

/-- An order this call sent out, and what became of it. -/
structure Submission where
  id : String
  size : ℕ
  order : VenueOrder
  fits : order.filled ≤ size

namespace Submission

/-- The most that Polymarket can match of it, from now on. -/
def can_match (s : Submission) : ℕ := if s.order.ended then s.order.filled else s.size

/-- The venue works on the order. -/
structure Moves (s s' : Submission) : Prop where
  id : s'.id = s.id
  size : s'.size = s.size
  order : s.order.Moves s'.order

theorem can_match_le (s : Submission) : s.can_match ≤ s.size := by
  unfold can_match
  split_ifs
  · exact s.fits
  · exact Nat.le_refl _

theorem Moves.refl (s : Submission) : s.Moves s := ⟨rfl, rfl, .refl _⟩

/-- What can still be matched only shrinks. -/
theorem Moves.can_match_le {s s' : Submission} (h : s.Moves s') : s'.can_match ≤ s.can_match := by
  by_cases hended : s.order.ended = true
  · have heq : s'.order = s.order := h.order.still hended
    have hsame : s'.can_match = s.can_match := by
      unfold can_match
      rw [heq, if_pos hended, if_pos hended]
    omega
  · have hsize : s.can_match = s.size := if_neg hended
    have hle := s'.can_match_le
    have := h.size
    omega

/-- An order on its way: it reaches the venue, or never does. -/
def Fresh (s : Submission) : Prop := s.order.filled = 0

/-- An order that reaches the venue can match in full. -/
theorem Fresh.can_match_eq {s : Submission} (h : s.Fresh) (hpos : 0 < s.can_match) :
    s.can_match = s.size := by
  by_cases hended : s.order.ended = true
  · have hzero : s.can_match = s.order.filled := if_pos hended
    have : s.order.filled = 0 := h
    omega
  · exact if_neg hended

end Submission

/-! ## Section 2: Calls at the venue -/

/-- What one call has sent out so far, newest first. -/
structure PlaceLog where
  sent : List Submission
  /-- The most that Polymarket could match of it, at any time. -/
  most : ℕ
  /-- An order reached the venue while an earlier one had matched or still could. -/
  stacked : Prop
  /-- An order was taken from a listing that this call had not sent. -/
  mistaken : Prop

namespace PlaceLog

/-- Nothing sent yet. -/
def start : PlaceLog := ⟨[], 0, False, False⟩

/-- The most that Polymarket can match of what was sent, from now on. -/
def total (w : PlaceLog) : ℕ := (w.sent.map Submission.can_match).sum

/-- The order ids of what was sent. -/
def ids (w : PlaceLog) : List String := w.sent.map Submission.id

/-- Time passes at the venue. -/
structure Drift (w w' : PlaceLog) : Prop where
  sent : List.Forall₂ Submission.Moves w.sent w'.sent
  most : w'.most = w.most
  stacked : w'.stacked = w.stacked
  mistaken : w'.mistaken = w.mistaken

/-- One more order is sent. -/
def submit (w : PlaceLog) (s : Submission) : PlaceLog :=
  { w with
    sent := s :: w.sent
    most := max w.most (s.can_match + w.total)
    stacked := w.stacked ∨ 0 < s.can_match ∧ 0 < w.total }

/-- A listing is read. -/
def listed (w : PlaceLog) (spelled : Json ℚ → String) (req : OrderRequest)
    (listing : Except Raised (List (Json ℚ))) : PlaceLog :=
  { w with
    mistaken := w.mistaken ∨ ∃ record,
      match_existing spelled (listing.toOption.getD []) req = some record ∧
        record_order_id spelled req record ∉ w.ids }

end PlaceLog

/-- Any answer may come at any time. An order that Polymarket answers about goes by the
    id of the answer. -/
def venue (spelled : Json ℚ → String) (req : OrderRequest) : Env Call Answer PlaceLog where
  serve := fun w c a w' => ∃ w₁, w.Drift w₁ ∧
    match c, a with
    | .get_orders _, listing => w' = w₁.listed spelled req listing
    | .post_order order, answer => ∃ s : Submission, s.Fresh ∧ s.size = order.args.size ∧
        (∀ response, answer = .ok response → s.id = response_order_id spelled req response) ∧
        w' = w₁.submit s
    | _, _ => w' = w₁

/-- The order that comes back is one that this call sent, unless it is FAILED. -/
def Own (result : Order ℚ) (w : PlaceLog) : Prop :=
  result.status ≠ .failed → result.order_id ∈ w.ids

/-! ## Section 3: What can be matched -/

section run

variable {spelled : Json ℚ → String} {req : OrderRequest} {w w' : PlaceLog} {result : Order ℚ}

/-- The bound holds as long as nothing was stacked, and only as long. -/
structure Bounded (qty : ℕ) (w : PlaceLog) : Prop where
  clear : ¬ w.stacked → w.total ≤ qty ∧ w.most ≤ qty
  broken : w.stacked → qty < w.most

theorem PlaceLog.Drift.refl (w : PlaceLog) : w.Drift w :=
  ⟨List.forall₂_same.2 fun s _ => .refl s, rfl, rfl, rfl⟩

theorem PlaceLog.Drift.total_le (h : w.Drift w') : w'.total ≤ w.total := by
  have hsum : ∀ {l l' : List Submission}, List.Forall₂ Submission.Moves l l' →
      (l'.map Submission.can_match).sum ≤ (l.map Submission.can_match).sum := by
    intro l l' hmoves
    induction hmoves with
    | nil => exact Nat.le_refl _
    | cons hhead _ ih =>
      have hle := hhead.can_match_le
      simp only [List.map_cons, List.sum_cons]
      omega
  exact hsum h.sent

theorem PlaceLog.Drift.ids_eq (h : w.Drift w') : w'.ids = w.ids := by
  have hids : ∀ {l l' : List Submission}, List.Forall₂ Submission.Moves l l' →
      l'.map Submission.id = l.map Submission.id := by
    intro l l' hmoves
    induction hmoves with
    | nil => rfl
    | cons hhead _ ih => rw [List.map_cons, List.map_cons, hhead.id, ih]
  exact hids h.sent

theorem Bounded.drift {qty : ℕ} (h : Bounded qty w) (hd : w.Drift w') : Bounded qty w' := by
  have htotal := hd.total_le
  constructor
  · intro hclear
    rw [hd.stacked] at hclear
    obtain ⟨hle, hmost⟩ := h.clear hclear
    have := hd.most
    omega
  · intro hstacked
    rw [hd.stacked] at hstacked
    rw [hd.most]
    exact h.broken hstacked

/-- One more order of the full size. -/
theorem Bounded.submit {s : Submission} (h : Bounded s.size w) (hfresh : s.Fresh) :
    Bounded s.size (w.submit s) := by
  have hle := s.can_match_le
  have hsum : (w.submit s).total = s.can_match + w.total := by
    show (List.map Submission.can_match (s :: w.sent)).sum = _
    rw [List.map_cons, List.sum_cons]
    rfl
  have hmax : (w.submit s).most = max w.most (s.can_match + w.total) := rfl
  constructor
  · intro hclear
    have hboth : ¬ (0 < s.can_match ∧ 0 < w.total) := fun hno => hclear (.inr hno)
    obtain ⟨htotal, hmost⟩ := h.clear fun hno => hclear (.inl hno)
    rw [hsum, hmax]
    omega
  · rintro (hstacked | ⟨hnew, hearlier⟩)
    · have := h.broken hstacked
      omega
    · have hfull := hfresh.can_match_eq hnew
      omega

/-- Whatever the calls are answered, they keep the bound. -/
theorem Bounded.serve {c : Call} {a : Answer c} (h : Bounded req.qty w)
    (hsize : ∀ order, c = .post_order order → order.args.size = req.qty)
    (hs : (venue spelled req).serve w c a w') : Bounded req.qty w' := by
  obtain ⟨w₁, hdrift, hstep⟩ := hs
  have h₁ := h.drift hdrift
  cases c with
  | get_orders market =>
    subst hstep
    exact ⟨h₁.clear, h₁.broken⟩
  | post_order order =>
    obtain ⟨s, hfresh, hqty, -, rfl⟩ := hstep
    have hqty' : s.size = req.qty := hqty.trans (hsize order rfl)
    rw [← hqty'] at h₁ ⊢
    exact h₁.submit hfresh
  | _ => subst hstep; exact h₁

/-! ### The calls of the adapter -/

/-- Orders go out for the requested quantity. -/
def asks_for (qty : ℕ) : Call → Prop
  | .post_order order => order.args.size = qty
  | _ => True

theorem submit_calls : (submit req).Calls (asks_for req.qty) := by
  unfold submit
  refine Prog.Calls.bind (calls_send.2 trivial) fun _ => ?_
  refine Prog.Calls.bind (calls_send.2 trivial) fun signed => ?_
  cases signed with
  | error exc => exact calls_pure _
  | ok signature => exact calls_send.2 rfl

theorem give_up_calls (exc : String) : (give_up req exc).Calls (asks_for req.qty) := by
  unfold give_up
  refine calls_ite.2 ⟨fun _ => ?_, fun _ => ?_⟩
  · refine Prog.Calls.bind (calls_send.2 trivial) fun _ => ?_
    exact Prog.Calls.bind (calls_send.2 trivial) fun _ => calls_pure _
  · exact Prog.Calls.bind (calls_send.2 trivial) fun _ => calls_pure _

theorem attempts_calls (left attempt : ℕ) (last_exc : String) :
    (attempts spelled req left attempt last_exc).Calls (asks_for req.qty) := by
  induction left generalizing attempt last_exc with
  | zero => exact Prog.Calls.bind (calls_send.2 trivial) fun _ => calls_pure _
  | succ left ih =>
    refine Prog.Calls.bind (calls_send.2 trivial) fun listing => ?_
    cases match_existing spelled (listing.toOption.getD []) req with
    | some record => exact calls_pure _
    | none =>
      refine Prog.Calls.bind submit_calls fun answer => ?_
      match answer with
      | .ok response => exact Prog.Calls.bind (calls_send.2 trivial) fun _ => calls_pure _
      | .error (.timeout exc) =>
        exact Prog.Calls.bind (calls_send.2 trivial) fun _ => ih (attempt + 1) exc
      | .error (.other exc) => exact give_up_calls exc

/-! ## Section 4: What comes back -/

/-- The order is this call's exactly if none was mistaken for it. -/
def Settled (result : Order ℚ) (w : PlaceLog) : Prop := Own result w ↔ ¬ w.mistaken

theorem settled_failed (hfailed : result.status = .failed) (hclear : ¬ w.mistaken) :
    Settled result w := by
  constructor
  · intro _
    exact hclear
  · intro _ hno
    exact absurd hfailed hno

theorem settled_own (hown : result.order_id ∈ w.ids) (hclear : ¬ w.mistaken) :
    Settled result w := by
  constructor
  · intro _
    exact hclear
  · intro _ _
    exact hown

/-- The call lists open orders. -/
def lists : Call → Bool
  | .get_orders _ => true
  | _ => false

/-- Only a listing can be mistaken. -/
theorem serve_mistaken {c : Call} {a : Answer c} (hc : lists c = false)
    (hs : (venue spelled req).serve w c a w') : w'.mistaken = w.mistaken := by
  obtain ⟨w₁, hdrift, hstep⟩ := hs
  rw [← hdrift.mistaken]
  cases c with
  | get_orders market => cases hc
  | post_order order =>
    obtain ⟨s, -, -, -, rfl⟩ := hstep
    rfl
  | _ => subst hstep; rfl

/-- Other calls do not lose what was sent. -/
theorem serve_ids {c : Call} {a : Answer c} (hs : (venue spelled req).serve w c a w') :
    w.ids ⊆ w'.ids := by
  obtain ⟨w₁, hdrift, hstep⟩ := hs
  rw [← hdrift.ids_eq]
  cases c with
  | post_order order =>
    obtain ⟨s, -, -, -, rfl⟩ := hstep
    exact List.subset_cons_self _ _
  | _ => subst hstep; exact List.Subset.refl _

theorem give_up_settled (exc : String) (hclear : ¬ w.mistaken) :
    wp (venue spelled req) (give_up req exc) Settled w := by
  unfold give_up
  refine wp_ite.2 ⟨fun _ => ?_, fun _ => ?_⟩
  · refine wp_bind.2 (wp_send.2 fun delay w₁ hpenalty => ?_)
    refine wp_bind.2 (wp_send.2 fun _ w₂ hfailure => ?_)
    refine wp_pure.2 (settled_failed rfl ?_)
    rw [serve_mistaken rfl hfailure, serve_mistaken rfl hpenalty]
    exact hclear
  · refine wp_bind.2 (wp_send.2 fun _ w₁ hfailure => ?_)
    refine wp_pure.2 (settled_failed rfl ?_)
    rw [serve_mistaken rfl hfailure]
    exact hclear

/-- Polymarket's answer is about what was posted last. -/
theorem submit_spec (hclear : ¬ w.mistaken) :
    wp (venue spelled req) (submit req) (fun answer w' => ¬ w'.mistaken ∧
      ∀ response, answer = .ok response → response_order_id spelled req response ∈ w'.ids) w := by
  unfold submit
  refine wp_bind.2 (wp_send.2 fun _ w₁ hacquire => ?_)
  refine wp_bind.2 (wp_send.2 fun signed w₂ hsign => ?_)
  have hclear₂ : ¬ w₂.mistaken := by
    rw [serve_mistaken rfl hsign, serve_mistaken rfl hacquire]
    exact hclear
  cases signed with
  | error exc =>
    refine wp_pure.2 ⟨hclear₂, ?_⟩
    intro response hno
    cases hno
  | ok signature =>
    refine wp_send.2 fun answer w₃ hpost => ⟨?_, ?_⟩
    · rw [serve_mistaken rfl hpost]
      exact hclear₂
    · intro response hanswer
      obtain ⟨w', -, s, -, -, hid, rfl⟩ := hpost
      rw [← hid response hanswer]
      exact List.mem_cons_self ..

/-- An answer is made an order of its own, or a FAILED one. -/
theorem order_from_response_settled {response : Json ℚ} (hclear : ¬ w.mistaken)
    (hown : response_order_id spelled req response ∈ w.ids) :
    Settled (order_from_response spelled req response) w := by
  unfold order_from_response
  split_ifs
  · exact settled_own hown hclear
  · exact settled_failed rfl hclear

/-- The attempts end on an answer, on a listing or FAILED. -/
theorem attempts_settled (left attempt : ℕ) (last_exc : String) (hclear : ¬ w.mistaken) :
    wp (venue spelled req) (attempts spelled req left attempt last_exc) Settled w := by
  induction left generalizing attempt last_exc w with
  | zero =>
    refine wp_bind.2 (wp_send.2 fun _ w₁ hfailure => ?_)
    refine wp_pure.2 (settled_failed rfl ?_)
    rw [serve_mistaken rfl hfailure]
    exact hclear
  | succ left ih =>
    refine wp_bind.2 (wp_send.2 fun listing w₁ hlist => ?_)
    obtain ⟨w', hdrift, rfl⟩ := hlist
    -- Nothing was mistaken before this listing.
    have hclear' : ¬ w'.mistaken := by
      rw [hdrift.mistaken]
      exact hclear
    cases hmatch : match_existing spelled (listing.toOption.getD []) req with
    | some record =>
      refine wp_pure.2 ?_
      constructor
      · -- The record found is the order returned, so the listing decides.
        rintro hown (hmistaken | ⟨other, hother, hid⟩)
        · exact hclear' hmistaken
        · rw [hmatch] at hother
          cases hother
          exact hid (hown nofun)
      · intro hkept _
        by_contra hid
        exact hkept (.inr ⟨record, hmatch, hid⟩)
    | none =>
      have hclear₁ : ¬ (w'.listed spelled req listing).mistaken := by
        rintro (hmistaken | ⟨other, hother, -⟩)
        · exact hclear' hmistaken
        · rw [hmatch] at hother
          cases hother
      refine wp_bind.2 (wp_mono (submit_spec hclear₁) ?_)
      rintro answer w₂ ⟨hclear₂, hown⟩
      match answer with
      | .ok response =>
        refine wp_bind.2 (wp_send.2 fun _ w₃ hsuccess => wp_pure.2 ?_)
        -- An answer is about the order that was just posted.
        apply order_from_response_settled
        · rw [serve_mistaken rfl hsuccess]
          exact hclear₂
        · exact serve_ids hsuccess (hown response rfl)
      | .error (.timeout exc) =>
        refine wp_bind.2 (wp_send.2 fun _ w₃ hsleep => ?_)
        apply ih
        rw [serve_mistaken rfl hsleep]
        exact hclear₂
      | .error (.other exc) => exact give_up_settled exc hclear₂

theorem place_fok_settled (cfg : Config) (hclear : ¬ w.mistaken) :
    wp (venue spelled req) (place_fok spelled cfg req) Settled w := by
  unfold place_fok
  refine wp_ite.2 ⟨fun _ => ?_, fun _ => wp_pure.2 (settled_failed rfl hclear)⟩
  refine wp_bind.2 (wp_send.2 fun closed w₁ hcan => ?_)
  have hclear₁ : ¬ w₁.mistaken := by
    rw [serve_mistaken rfl hcan]
    exact hclear
  refine wp_ite.2 ⟨fun _ => ?_, fun _ => wp_pure.2 (settled_failed rfl hclear₁)⟩
  refine wp_ite.2 ⟨fun _ => ?_, fun _ => wp_pure.2 (settled_failed rfl hclear₁)⟩
  cases (hard_lock "PHASE4" cfg.phase4_max_order_usd req).or
      (hard_lock "PHASE5" cfg.phase5_max_order_usd req) with
  | some error => exact wp_pure.2 (settled_failed rfl hclear₁)
  | none => exact attempts_settled 3 0 "None" hclear₁

theorem place_fok_calls (cfg : Config) : (place_fok spelled cfg req).Calls (asks_for req.qty) := by
  unfold place_fok
  refine calls_ite.2 ⟨fun _ => ?_, fun _ => calls_pure _⟩
  refine Prog.Calls.bind (calls_send.2 trivial) fun closed => ?_
  refine calls_ite.2 ⟨fun _ => ?_, fun _ => calls_pure _⟩
  refine calls_ite.2 ⟨fun _ => ?_, fun _ => calls_pure _⟩
  cases (hard_lock "PHASE4" cfg.phase4_max_order_usd req).or
      (hard_lock "PHASE5" cfg.phase5_max_order_usd req) with
  | some error => exact calls_pure _
  | none => exact attempts_calls 3 0 "None"

/-- The bound holds after the call if it held before. -/
theorem place_fok_bounded (cfg : Config) (h : Bounded req.qty w) :
    wp (venue spelled req) (place_fok spelled cfg req) (fun _ => Bounded req.qty) w := by
  apply (place_fok_calls cfg).keeps _ h
  intro w₁ c a w₂ hok hs h₁
  apply h₁.serve _ hs
  -- Every order goes out for the quantity of the request.
  rintro order rfl
  exact hok

end run

/-! ## Section 5: When a retry is safe -/

/-- Ten YES contracts at 0.40. -/
def ten_yes : OrderRequest where
  arb_id := "ARB-000001"
  market_id := "71321"
  canonical_id := "mkt-1"
  side := .yes
  price := 2 / 5
  qty := 10

/-- A wallet, a client and no hard lock. -/
def wallet : Config where
  has_private_key := true
  has_client := true
  phase4_max_order_usd := none
  phase5_max_order_usd := none

/-- Every answer here is made of texts. -/
def texts_only : Json ℚ → String := fun _ => ""

/-- The first order, once `v` is true of it. -/
def first_sent (v : VenueOrder) (fits : v.filled ≤ 10) : Submission := ⟨"0xa1", 10, v, fits⟩

/-- The first order was posted, and the post timed out. -/
def posted (v : VenueOrder) (fits : v.filled ≤ 10) : PlaceLog :=
  { (PlaceLog.start.listed texts_only ten_yes (.ok [])).submit
      (first_sent ⟨false, 0⟩ (Nat.zero_le _)) with
    sent := [first_sent v fits] }

/-- The call goes on after the first attempt. -/
theorem first_attempt_run {v : VenueOrder} {fits : v.filled ≤ 10}
    (hmoves : (⟨false, 0⟩ : VenueOrder).Moves v) {result : Order ℚ} {w : PlaceLog}
    (hrest : Exec (venue texts_only ten_yes) (attempts texts_only ten_yes 2 1 "timed out")
      (posted v fits) result w) :
    Exec (venue texts_only ten_yes) (place_fok texts_only wallet ten_yes) .start result w := by
  have hcan : (venue texts_only ten_yes).serve .start .can_execute true .start :=
    ⟨_, .refl _, rfl⟩
  have hlist : (venue texts_only ten_yes).serve .start (.get_orders "71321") (.ok [])
      (PlaceLog.start.listed texts_only ten_yes (.ok [])) := ⟨_, .refl _, rfl⟩
  have hacquire : (venue texts_only ten_yes).serve
      (PlaceLog.start.listed texts_only ten_yes (.ok [])) .acquire ()
      (PlaceLog.start.listed texts_only ten_yes (.ok [])) := ⟨_, .refl _, rfl⟩
  have hsign : (venue texts_only ten_yes).serve
      (PlaceLog.start.listed texts_only ten_yes (.ok [])) (.create_order (order_args ten_yes))
      (.ok "0x51") (PlaceLog.start.listed texts_only ten_yes (.ok [])) := ⟨_, .refl _, rfl⟩
  have hpost : (venue texts_only ten_yes).serve
      (PlaceLog.start.listed texts_only ten_yes (.ok []))
      (.post_order ⟨order_args ten_yes, "0x51"⟩) (.error (.timeout "timed out"))
      (posted ⟨false, 0⟩ (Nat.zero_le _)) :=
    ⟨_, .refl _, first_sent ⟨false, 0⟩ (Nat.zero_le _), rfl, rfl, nofun, rfl⟩
  have hworked : (first_sent ⟨false, 0⟩ (Nat.zero_le _)).Moves (first_sent v fits) :=
    ⟨rfl, rfl, hmoves⟩
  have hdrift : (posted ⟨false, 0⟩ (Nat.zero_le _)).Drift (posted v fits) :=
    ⟨.cons hworked .nil, rfl, rfl, rfl⟩
  have hsleep : (venue texts_only ten_yes).serve (posted ⟨false, 0⟩ (Nat.zero_le _))
      (.sleep (1 / 2 * 2 ^ 0)) () (posted v fits) := ⟨_, hdrift, rfl⟩
  unfold place_fok
  refine .call hcan (.call hlist (.call hacquire (.call hsign (.call hpost (.call hsleep ?_)))))
  exact hrest

/-- The first order, as the open orders show it. -/
def open_record : Json ℚ :=
  .obj [("id", .str "0xa1" none), ("price", .str "0.4" (some (2 / 5))),
    ("size", .str "10" (some 10)), ("size_matched", .str "0" (some 0)), ("side", .str "BUY" none)]

theorem open_record_matches : match_existing texts_only [open_record] ten_yes = some open_record :=
  List.find?_cons_of_pos (by decide +kernel)

/-- Polymarket's answer to the second post. -/
def matched_again : Json ℚ :=
  .obj [("success", .bool true), ("orderID", .str "0xb2" none), ("status", .str "matched" none)]

/-- The second order, once `v` is true of it. -/
def second_sent (v : VenueOrder) (fits : v.filled ≤ 10) : Submission := ⟨"0xb2", 10, v, fits⟩

/-- The first order is filled, so the open orders do not show it. -/
def unlisted : PlaceLog :=
  (posted ⟨true, 10⟩ (Nat.le_refl _)).listed texts_only ten_yes (.ok [])

/-- The second order was posted. -/
def posted_again (v : VenueOrder) (fits : v.filled ≤ 10) : PlaceLog :=
  { unlisted.submit (second_sent ⟨false, 0⟩ (Nat.zero_le _)) with
    sent := [second_sent v fits, first_sent ⟨true, 10⟩ (Nat.le_refl _)] }

end Polymarket
