import Arbiter.Adapters.Kalshi
import Arbiter.Adapters.Unwind
import Arbiter.Framework.Crash

/-! # Placing Orders on Kalshi

  An order may be posted several times: a response is lost, or the venue turns the request away.
  It is always the same order, under a client id by which the venue knows it again.

  ## Contents

  - Section 1: the placements, and what they are refused with.
  - Section 2: `_post_order`, and what is made of its end.
  - Section 3: the venue has an order at most once.
-/

namespace KalshiPlace

open Effect Execution Kalshi

/-! ## Section 1: Placements -/

/-- `place_fok`, `place_ioc`, `place_resting_limit`, `place_resting_sell` and
    `place_unwind_sell`. -/
inductive Op
  | fok
  | ioc
  | resting_limit
  | resting_sell
  | unwind_sell

namespace Op

def buys : Op → Bool
  | .fok => true
  | .ioc => true
  | .resting_limit => true
  | .resting_sell => false
  | .unwind_sell => false

def time_in_force : Op → String
  | .fok => "fill_or_kill"
  | .ioc => "immediate_or_cancel"
  | .resting_limit => "good_till_canceled"
  | .resting_sell => "good_till_canceled"
  | .unwind_sell => "immediate_or_cancel"

/-- What the client id has between the side and the random part. -/
def tag : Op → String
  | .resting_sell => "RESTSELL-"
  | .unwind_sell => "UNWIND-"
  | _ => ""

end Op

/-- The refusal of a sale, of which only the access and the circuit are checked. -/
def sale_refusal (words : String) (cfg : Config) : Option String :=
  if cfg.authenticated then if cfg.can_execute then none else some "kalshi circuit open"
  else some ("Kalshi auth not configured for " ++ words)

/-- What a placement is refused with before anything is sent. A resting order looks at the
    circuit last. -/
def refusal (op : Op) (cfg : Config) (req : OrderRequest) : Option String :=
  match op with
  | .fok => Kalshi.refusal cfg req
  | .ioc => Kalshi.refusal cfg req
  | .resting_limit =>
      (Kalshi.refusal { cfg with can_execute := true } req).or
        (if cfg.can_execute then none else some "kalshi circuit open")
  | .resting_sell => sale_refusal "resting sell" cfg
  | .unwind_sell => sale_refusal "unwind" cfg

def client_order_id (op : Op) (cfg : Config) (req : OrderRequest) : String :=
  req.arb_id ++ "-" ++ req.side.upper ++ "-" ++ op.tag ++ String.ofList (cfg.uuid.toList.take 8)

/-- What is posted. -/
structure Body where
  client_order_id : String
  order : Unwind.KalshiOrder

/-- `_book_side_for` of a purchase. -/
def book_side_for_buy : Side → String
  | .yes => "bid"
  | .no => "ask"

/-- `_event_order_body` -/
def event_order_body (op : Op) (cfg : Config) (req : OrderRequest) : Body where
  client_order_id := client_order_id op cfg req
  order :=
    { ticker := req.market_id
      side := if op.buys then book_side_for_buy req.side else Unwind.book_side_for_sell req.side
      count := req.qty
      price := Decimal.round_to 4 (Unwind.book_price_for req.side req.price)
      time_in_force := op.time_in_force }

/-! ## Section 2: Posts -/

/-- What comes of a post. -/
inductive Posted
  /-- The connection failed, or timed out. -/
  | transient (exc : String)
  | raised (exc : String)
  | responded (response : Response ℚ)

inductive Call
  | acquire
  /-- Making the headers may raise. -/
  | get_headers
  | post (body : Body)
  /-- `stop_after_delay`: whether there is no time for another attempt. -/
  | out_of_time
  | wait
  /-- The limiter hears of a 429. -/
  | apply_retry_after
  | record_failure
  | record_success

@[reducible] def Answer : Call → Type
  | .get_headers => Except String Unit
  | .post _ => Posted
  | .out_of_time => Bool
  | _ => Unit

/-- `_is_kalshi_infra_response` -/
def is_kalshi_infra_response (status : ℕ) (body : String) : Bool :=
  let b := body.toLower
  if status ∈ [500, 502, 503, 504] then true
  else if status = 401 then
    if Text.occurs "incorrect_api_key_signature" b || Text.occurs "forbidden" b then false
    else ["service unavailable", "internal_server_error", "upstream connect error",
      "reset reason", "disconnect"].any fun words => Text.occurs words b
  else false

/-- What `_post_order` ends with. -/
abbrev Ended := Except Raised (Response ℚ)

/-- Another attempt, if there is one left, and time for it. -/
def again (left : ℕ) (exc : String) (retry : Prog Call Answer Ended) : Prog Call Answer Ended :=
  if left = 0 then return .error (.transient exc)
  else do
    if ← Prog.send Call.out_of_time then return .error (.transient exc)
    else do
      Prog.send Call.wait
      retry

/-- `_post_order`, with that many attempts left. -/
def post_order (body : Body) : ℕ → Prog Call Answer Ended
  | 0 => return .error (.transient "")
  | left + 1 => do
      Prog.send Call.acquire
      match ← Prog.send Call.get_headers with
      | .error exc => return .error (.other exc)
      | .ok () =>
          match ← Prog.send (Call.post body) with
          | .transient exc => again left exc (post_order body left)
          | .raised exc => return .error (.other exc)
          | .responded response =>
              if is_kalshi_infra_response response.status_code response.payload then
                again left ("Kalshi infra " ++ toString response.status_code ++ ": " ++
                  String.ofList (response.payload.toList.take 200)) (post_order body left)
              else return .ok response

/-- A response that has the order. -/
def accepted (response : Response ℚ) : Bool :=
  response.status_code = 200 || response.status_code = 201

/-- What the limiter and the circuit are told; of a resting sale, only that it raised. -/
def settle (op : Op) : Ended → Prog Call Answer Unit
  | .error _ => Prog.send Call.record_failure
  | .ok response =>
      match op with
      | .resting_sell => return ()
      | _ =>
          if accepted response then Prog.send Call.record_success
          else if response.status_code = 429 ∧ op.buys then do
            Prog.send Call.apply_retry_after
            Prog.send Call.record_failure
          else Prog.send Call.record_failure

/-- The words of the errors: where the retries are used up, of another exception, of a response
    and of a payload that does not parse. -/
structure Texts where
  transient : String
  other : String
  rejected : String
  parse : String

def Op.texts : Op → Texts
  | .resting_sell =>
      ⟨"Kalshi resting sell exception: ", "Kalshi resting sell exception: ",
        "Kalshi resting sell ", "Kalshi resting sell parse: "⟩
  | .unwind_sell =>
      ⟨"Kalshi unwind transient: ", "Kalshi unwind exception: ", "Kalshi unwind ",
        "Kalshi unwind response parse: "⟩
  | _ =>
      ⟨"Kalshi transient (retries exhausted): ", "Kalshi request exception: ", "Kalshi API ",
        "Kalshi response parse: "⟩

section place

variable (spelled : Json ℚ → String)

/-- The order on a payload, under the id of the placement. -/
def order_of (op : Op) (cfg : Config) (req : OrderRequest) (data : Json ℚ) : Order ℚ :=
  let cid := client_order_id op cfg req
  { placed_order spelled cfg req data with
    order_id := (data.getD "order_id" (.str cid none)).text spelled
    external_client_order_id := some cid }

/-- What is returned; nothing where an `order` in the payload that is no object raises. -/
def returned (op : Op) (cfg : Config) (req : OrderRequest) : Ended → Option (Order ℚ)
  | .error (.transient exc) => some (failed_order req (op.texts.transient ++ exc))
  | .error (.other exc) => some (failed_order req (op.texts.other ++ exc))
  | .ok response =>
      if response.status_code = 429 ∧ op.buys then
        some (failed_order req ("rate_limited (" ++ response.penalty_text ++ "s)"))
      else if accepted response then
        match response.json with
        | none => some (failed_order req (op.texts.parse ++ response.parse_exc))
        | some data =>
            if (order_data data).is_obj then some (order_of spelled op cfg req (order_data data))
            else none
      else
        some (failed_order req (op.texts.rejected ++ toString response.status_code ++ ": " ++
          String.ofList (response.payload.toList.take 200)))

/-- A placement. -/
def place (op : Op) (cfg : Config) (req : OrderRequest) : Prog Call Answer (Option (Order ℚ)) :=
  match refusal op cfg req with
  | some error => return some (failed_order req error)
  | none => do
      let ended ← post_order (event_order_body op cfg req) 3
      settle op ended
      return returned spelled op cfg req ended

end place

/-! ## Section 3: At most once -/

/-- The venue gets an order, unless it has one under its client id. -/
def Takes (body : Body) (w w' : List Body) : Prop :=
  w' = w ∨ (∀ o ∈ w, o.client_order_id ≠ body.client_order_id) ∧ w' = body :: w

/-- It may take what is posted whatever comes back; but where it accepts, it has an order under
    the id. -/
def venue : Env Call Answer (List Body) where
  serve := fun w c a w' =>
    match c with
    | .post body => Takes body w w' ∧ ∀ response, a = .responded response →
        accepted response = true → ∃ o ∈ w', o.client_order_id = body.client_order_id
    | _ => w' = w

/-- A limit that is set, to a number or not, and kept to. -/
def Within (limit : Option (Option ℚ)) (req : OrderRequest) : Prop :=
  ∀ read, limit = some read → ((req.qty * req.price : ℚ≥0) : ℚ) ≤ read.getD 0

/-- What has to be for an order to be sent. -/
structure Permitted (op : Op) (cfg : Config) (req : OrderRequest) : Prop where
  authenticated : cfg.authenticated = true
  can_execute : cfg.can_execute = true
  price : op.buys = true → 0 < req.price ∧ req.price < 1
  phase4 : op.buys = true → Within cfg.phase4_max_order_usd req
  phase5 : op.buys = true → Within cfg.phase5_max_order_usd req

section once

variable {spelled : Json ℚ → String} {op : Op} {cfg : Config} {req : OrderRequest}

theorem within_of_hard_lock {phase : String} {limit : Option (Option ℚ)}
    (h : Polymarket.hard_lock phase limit req = none) : Within limit req := by
  intro read hlimit
  rw [hlimit, Polymarket.hard_lock, Option.bind_some] at h
  by_contra hover
  dsimp only at h
  rw [if_pos (not_le.mp hover)] at h
  cases h

/-- What a purchase that is not refused has passed. -/
theorem passed_of_refusal (h : Kalshi.refusal cfg req = none) :
    cfg.authenticated = true ∧ cfg.can_execute = true ∧ (0 < req.price ∧ req.price < 1) ∧
      Within cfg.phase4_max_order_usd req ∧ Within cfg.phase5_max_order_usd req := by
  unfold Kalshi.refusal at h
  split_ifs at h with hauth hprice hcircuit
  obtain ⟨hphase4, hphase5⟩ := Option.or_eq_none_iff.mp h
  exact ⟨hauth, hcircuit, hprice, within_of_hard_lock hphase4, within_of_hard_lock hphase5⟩

theorem permitted_of_sale {words : String} (hsells : op.buys = false)
    (h : sale_refusal words cfg = none) : Permitted op cfg req := by
  unfold sale_refusal at h
  split_ifs at h with hauth hcircuit
  exact ⟨hauth, hcircuit, by simp [hsells], by simp [hsells], by simp [hsells]⟩

theorem permitted_of_refusal (h : refusal op cfg req = none) : Permitted op cfg req := by
  cases op with
  | fok =>
    obtain ⟨hauth, hcircuit, hprice, hphase4, hphase5⟩ := passed_of_refusal h
    exact ⟨hauth, hcircuit, fun _ => hprice, fun _ => hphase4, fun _ => hphase5⟩
  | ioc =>
    obtain ⟨hauth, hcircuit, hprice, hphase4, hphase5⟩ := passed_of_refusal h
    exact ⟨hauth, hcircuit, fun _ => hprice, fun _ => hphase4, fun _ => hphase5⟩
  | resting_limit =>
    obtain ⟨hrest, hcircuit⟩ := Option.or_eq_none_iff.mp h
    obtain ⟨hauth, -, hprice, hphase4, hphase5⟩ := passed_of_refusal hrest
    have hopen : cfg.can_execute = true := by
      by_contra hclosed
      rw [if_neg hclosed] at hcircuit
      cases hcircuit
    exact ⟨hauth, hopen, fun _ => hprice, fun _ => hphase4, fun _ => hphase5⟩
  | resting_sell => exact permitted_of_sale rfl h
  | unwind_sell => exact permitted_of_sale rfl h

variable {body : Body} {w w' w'' : List Body}

theorem Takes.again (h : Takes body w w') (hnext : Takes body w' w'') : Takes body w w'' := by
  rcases h with rfl | ⟨hfresh, rfl⟩
  · exact hnext
  · rcases hnext with rfl | ⟨hnot, -⟩
    · exact .inr ⟨hfresh, rfl⟩
    · exact absurd rfl (hnot body (List.mem_cons_self ..))

/-- Where a run is: the venue has taken the order at most once, and only it is posted. -/
def Sending (body : Body) (w : List Body) (w' : List Body) (c : Call) : Prop :=
  Takes body w w' ∧ ∀ posted, c = .post posted → posted = body

/-- What `_post_order` ends with: a response that has the order is of an order there is. -/
def Posting (body : Body) (w : List Body) (ended : Ended) (w' : List Body) : Prop :=
  Takes body w w' ∧ ∀ response, ended = .ok response → accepted response = true →
    ∃ o ∈ w', o.client_order_id = body.client_order_id

/-- A call that does nothing to the venue. -/
theorem safe_quiet {α : Type} {c : Call} {k : Answer c → Prog Call Answer α}
    {Q : α → List Body → Prop} (hquiet : ∀ u a u', venue.serve u c a u' → u' = u)
    (hpost : ∀ posted, c ≠ .post posted) (h : Takes body w w')
    (hk : ∀ a, Safe venue (Sending body w) Q (k a) w') :
    Safe venue (Sending body w) Q ((Prog.send c).bind k) w' := by
  refine ⟨⟨h, fun posted hc => absurd hc (hpost posted)⟩, fun a w'' hs => ?_⟩
  rw [hquiet w' a w'' hs]
  exact hk a

theorem again_sends {left : ℕ} {exc : String} {retry : Prog Call Answer Ended}
    (h : Takes body w w')
    (hretry : Safe venue (Sending body w) (Posting body w) retry w') :
    Safe venue (Sending body w) (Posting body w) (again left exc retry) w' := by
  have hfailed : Posting body w (.error (.transient exc)) w' := ⟨h, by simp⟩
  unfold again
  split
  · exact hfailed
  · refine safe_quiet (fun _ _ _ hs => hs) (by simp) h fun late => ?_
    split
    · exact hfailed
    · exact safe_quiet (fun _ _ _ hs => hs) (by simp) h fun _ => hretry

theorem post_order_sends (left : ℕ) (h : Takes body w w') :
    Safe venue (Sending body w) (Posting body w) (post_order body left) w' := by
  induction left generalizing w' with
  | zero => exact ⟨h, by simp⟩
  | succ left ih =>
    refine safe_quiet (fun _ _ _ hs => hs) (by simp) h fun _ => ?_
    refine safe_quiet (fun _ _ _ hs => hs) (by simp) h fun made => ?_
    cases made with
    | error exc => exact ⟨h, by simp⟩
    | ok _ =>
      refine ⟨⟨h, fun posted hposted => (Call.post.inj hposted).symm⟩, fun a w'' hs => ?_⟩
      obtain ⟨htakes, hhas⟩ := hs
      have htaken := h.again htakes
      cases a with
      | transient exc => exact again_sends htaken (ih htaken)
      | raised exc => exact ⟨htaken, by simp⟩
      | responded response =>
        show Safe venue (Sending body w) (Posting body w) (if _ then _ else _) w''
        split
        · exact again_sends htaken (ih htaken)
        · refine ⟨htaken, fun response' hsame haccepted => ?_⟩
          obtain rfl := Except.ok.inj hsame
          exact hhas response rfl haccepted

theorem settle_sends (op : Op) (ended : Ended) (h : Takes body w w') :
    Safe venue (Sending body w) (fun _ w'' => w'' = w') (settle op ended) w' := by
  have htold : ∀ c, (∀ u a u', venue.serve u c a u' → u' = u) → (∀ posted, c ≠ .post posted) →
      Safe venue (Sending body w) (fun _ w'' => w'' = w') (Prog.send c) w' := by
    intro c hquiet hpost
    exact Safe.send ⟨h, fun posted hc => absurd hc (hpost posted)⟩ (hquiet w')
  have hfailure := htold .record_failure (fun _ _ _ hs => hs) (by simp)
  have hsuccess := htold .record_success (fun _ _ _ hs => hs) (by simp)
  have hlimited := safe_quiet (c := .apply_retry_after) (fun _ _ _ hs => hs) (by simp) h
    fun _ => hfailure
  cases ended with
  | error raised => exact hfailure
  | ok response =>
    have htells : Safe venue (Sending body w) (fun _ w'' => w'' = w')
        (if accepted response then Prog.send Call.record_success
          else if response.status_code = 429 ∧ op.buys then do
            Prog.send Call.apply_retry_after
            Prog.send Call.record_failure
          else Prog.send Call.record_failure) w' := by
      split_ifs
      · exact hsuccess
      · exact hlimited
      · exact hfailure
    cases op with
    | resting_sell => exact rfl
    | _ => exact htells

/-- Counts never say that an order failed. -/
theorem status_of_counts (data : Json ℚ) (qty : ℕ) :
    map_order_status_from_counts spelled data qty ≠ .failed := by
  have hmap : ∀ word, (fok_status_map word).getD .submitted ≠ .failed := by
    intro word
    unfold fok_status_map
    split <;> simp
  unfold map_order_status_from_counts
  dsimp only
  split_ifs
  · exact hmap _
  all_goals simp

/-- What an order that is returned says. -/
theorem returned_says {ended : Ended} {order : Order ℚ}
    (h : returned spelled op cfg req ended = some order) :
    (order.status = .failed ∧ order.external_client_order_id = none) ∨
      order.status ≠ .failed ∧ order.external_client_order_id = some (client_order_id op cfg req) ∧
        ∃ response, ended = .ok response ∧ accepted response = true := by
  unfold returned at h
  split at h
  · obtain rfl := Option.some.inj h
    exact .inl ⟨rfl, rfl⟩
  · obtain rfl := Option.some.inj h
    exact .inl ⟨rfl, rfl⟩
  · next response =>
    split_ifs at h with hlimited haccepted
    · obtain rfl := Option.some.inj h
      exact .inl ⟨rfl, rfl⟩
    · split at h
      · obtain rfl := Option.some.inj h
        exact .inl ⟨rfl, rfl⟩
      · split_ifs at h
        obtain rfl := Option.some.inj h
        exact .inr ⟨status_of_counts _ _, rfl, response, rfl, haccepted⟩
    · obtain rfl := Option.some.inj h
      exact .inl ⟨rfl, rfl⟩

/-- Of `place_fok` this is what the adapter returns. -/
theorem returned_fok (ended : Ended) (h : Kalshi.refusal cfg req = none) :
    returned spelled .fok cfg req ended = Kalshi.place_fok spelled cfg req ended := by
  have hid : client_order_id .fok cfg req = Kalshi.client_order_id cfg req := by
    simp [client_order_id, Op.tag, Kalshi.client_order_id]
  have horder : ∀ data, order_of spelled .fok cfg req data = placed_order spelled cfg req data := by
    intro data
    unfold order_of
    rw [hid]
    rfl
  unfold returned Kalshi.place_fok
  rw [h]
  cases ended with
  | error raised => cases raised <;> rfl
  | ok response =>
    by_cases haccepted : accepted response = true
    · have hcode : ¬ (response.status_code ≠ 200 ∧ response.status_code ≠ 201) := by
        simpa [accepted, or_iff_not_imp_left] using haccepted
      simp only [Op.buys, and_true, haccepted, if_true, if_neg hcode, horder]
      rfl
    · have hcode : response.status_code ≠ 200 ∧ response.status_code ≠ 201 := by
        simpa [accepted] using haccepted
      simp only [Op.buys, and_true, haccepted, if_pos hcode]
      rfl

/-- Whatever the venue answers, whatever is lost, and wherever the placement is cut off: nothing
    is sent that is not permitted, all that is sent is one order, and the venue has it at most
    once. An order that is returned is at the venue under the client id it carries, or it failed
    and carries none, whether the venue has it or not. -/
theorem placed_once (spelled : Json ℚ → String) (op : Op) (cfg : Config) (req : OrderRequest)
    (w : List Body) :
    Safe venue
      (fun w' c => Sending (event_order_body op cfg req) w w' c ∧ Permitted op cfg req)
      (fun result w' => Takes (event_order_body op cfg req) w w' ∧
        (¬ Permitted op cfg req → w' = w) ∧
        ∀ order, result = some order →
          (order.status = .failed ∧ order.external_client_order_id = none) ∨
            order.status ≠ .failed ∧ ∃ o ∈ w',
              order.external_client_order_id = some o.client_order_id)
      (place spelled op cfg req) w := by
  unfold place
  cases hrefusal : refusal op cfg req with
  | some error =>
    refine ⟨.inl rfl, fun _ => rfl, fun order horder => ?_⟩
    obtain rfl := Option.some.inj horder
    exact .inl ⟨rfl, rfl⟩
  | none =>
    have hpermitted := permitted_of_refusal hrefusal
    apply Safe.given hpermitted
    refine (post_order_sends 3 (.inl rfl)).bind fun ended w' hended => ?_
    obtain ⟨htakes, hhas⟩ := hended
    refine (settle_sends op ended htakes).bind fun _ w'' hsame => ?_
    rw [hsame]
    refine ⟨htakes, fun hnot => absurd hpermitted hnot, fun order horder => ?_⟩
    rcases returned_says horder with hfailed | ⟨hstatus, hid, response, rfl, haccepted⟩
    · exact .inl hfailed
    · obtain ⟨o, ho, hown⟩ := hhas response rfl haccepted
      exact .inr ⟨hstatus, o, ho, hid.trans (congrArg some hown.symm)⟩

end once

end KalshiPlace
