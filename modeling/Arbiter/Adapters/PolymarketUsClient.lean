import Arbiter.Framework.Json
import Arbiter.Framework.Paging
import Arbiter.Framework.Resend
import Arbiter.Framework.Text
import Mathlib.Data.Rat.Floor

/-! # The Polymarket US Client

  `PolymarketUSClient`: a request is sent again when it is turned away, a few times, and fails
  for good with anything else. Markets are listed page by page, until the venue says that there
  are no more or answers an empty page.

  ## Contents

  - Section 1: `_request`.
  - Section 2: orders, and `list_markets`.
  - Section 3: an order is taken at most once.
  - Section 4: the markets are listed in full.
-/

namespace PolymarketUsClient

open Effect

/-! ## Section 1: Requests -/

structure Request where
  method : String
  path : String
  query : List (String × String)
  json_body : Option (Json ℚ)

/-- What decoding a body raises. -/
inductive Undecoded
  /-- `ContentTypeError` -/
  | content_type
  | other (exc : String)

/-- What comes of sending. -/
inductive Reply
  /-- Anything but a `ClientResponseError` was raised. -/
  | raised (exc : String)
  /-- A `ClientResponseError` was raised before there was a response. -/
  | client_error (status : ℕ)
  /-- `retry_after` is the header as a number, where it is one; it is 0 where there is none. -/
  | responded (status : ℕ) (retry_after : Except String ℚ) (text : String)
      (decoded : Except Undecoded (Json ℚ))

/-- What a request raises. -/
inductive Failure
  | circuit_open
  | no_signer
  | client_response (status : ℕ)
  | failed (exc : String)
  | exhausted
  /-- A value has no attribute `get`, or is not iterable. -/
  | attribute

/-- The text it is raised with. -/
def Failure.text (method url : String) : Failure → String
  | .circuit_open => "Circuit [polymarket-us-rest] is OPEN — request rejected"
  | .no_signer => "Polymarket US signer not configured"
  | .client_response status => toString status
  | .failed exc => "polymarket-us request failed (" ++ method ++ " " ++ url ++ "): " ++ exc
  | .exhausted =>
      "polymarket-us rate-limit retry exhausted after 3 attempts (" ++ method ++ " " ++ url ++ ")"
  | .attribute => "object has no attribute 'get'"

inductive Call
  | can_execute
  | record_success
  | record_failure
  /-- Discovery has a limiter of its own. -/
  | acquire (discovery : Bool)
  | sleep (seconds : ℚ)
  | wire (req : Request)

@[reducible] def Answer : Call → Type
  | .can_execute => Bool
  | .record_success => Unit
  | .record_failure => Unit
  | .acquire _ => Unit
  | .sleep _ => Unit
  | .wire _ => Reply

/-- What a request returns, or raises. -/
abbrev Result (α : Type) := Except Failure α

/-- A failure that counts for the circuit. -/
def counted (failure : Failure) : Prog Call Answer (Result (Json ℚ)) := do
  Prog.send Call.record_failure
  return .error failure

/-- A `ClientResponseError`: it counts for the circuit where the venue is at fault. -/
def response_error (status : ℕ) : Prog Call Answer (Result (Json ℚ)) :=
  if 500 ≤ status then counted (.client_response status)
  else return .error (.client_response status)

/-- The wait after a 429, where there is any. -/
def pause (seconds : ℚ) : Prog Call Answer Unit :=
  if 0 < seconds then Prog.send (Call.sleep seconds) else return ()

/-- What is read of a response that was not turned away. -/
def read_response (status : ℕ) (text : String) (decoded : Except Undecoded (Json ℚ)) :
    Prog Call Answer (Result (Json ℚ)) :=
  if 400 ≤ status then response_error status
  else do
    Prog.send Call.record_success
    if status = 204 ∨ text = "" then return .ok (.obj [])
    else
      match decoded with
      | .ok value => return .ok value
      | .error .content_type => response_error status
      | .error (.other exc) => counted (.failed exc)

/-- The loop of `_request`, with that many attempts left. -/
def attempts (discovery : Bool) (req : Request) : ℕ → Prog Call Answer (Result (Json ℚ))
  | 0 => return .error .exhausted
  | left + 1 => do
      if ← Prog.send Call.can_execute then do
        Prog.send (Call.acquire discovery)
        match ← Prog.send (Call.wire req) with
        | .raised exc => counted (.failed exc)
        | .client_error status => response_error status
        | .responded status retry_after text decoded =>
            if status = 429 then
              match retry_after with
              -- the header is no number
              | .error exc => counted (.failed exc)
              | .ok seconds => do
                  pause seconds
                  attempts discovery req left
            else read_response status text decoded
      else return .error .circuit_open

/-- `_request` -/
def request (discovery : Bool) (req : Request) : Prog Call Answer (Result (Json ℚ)) :=
  attempts discovery req 3

/-- `_signed` -/
def signed (has_signer : Bool) (method path : String) (json_body : Option (Json ℚ)) :
    Prog Call Answer (Result (Json ℚ)) :=
  if has_signer then request false ⟨method, path, [], json_body⟩ else return .error .no_signer

/-! ## Section 2: Orders and markets -/

/-- The prefix is put before a word that does not have it. -/
def resolved (start word : String) : String :=
  if Text.starts_with start word then word else start ++ word

/-- What `place_order` is called with; the price as it is spelled. -/
structure OrderTicket where
  slug : String
  intent : String
  price : String
  qty : ℤ
  tif : String
  manual_order_indicator : String
  synchronous_execution : Bool
  max_block_time : ℕ

def order_body (ticket : OrderTicket) : Json ℚ :=
  .obj [("marketSlug", .str ticket.slug none),
    ("intent", .str (resolved "ORDER_INTENT_" ticket.intent) none),
    ("type", .str "ORDER_TYPE_LIMIT" none),
    ("price", .obj [("value", .str ticket.price none), ("currency", .str "USD" none)]),
    ("quantity", .num ticket.qty),
    ("tif", .str (resolved "TIME_IN_FORCE_" ticket.tif) none),
    ("manualOrderIndicator",
      .str (resolved "MANUAL_ORDER_INDICATOR_" ticket.manual_order_indicator) none),
    ("synchronousExecution", .bool ticket.synchronous_execution),
    ("maxBlockTime", .str (toString ticket.max_block_time) none)]

/-- `place_order` -/
def place_order (has_signer : Bool) (ticket : OrderTicket) : Prog Call Answer (Result (Json ℚ)) :=
  signed has_signer "POST" "/orders" (some (order_body ticket))

/-- How markets are listed. -/
structure ListMarkets where
  page_size : ℕ
  max_pages : Option ℕ
  discovery : Bool
  active : Option Bool
  closed : Option Bool
  archived : Option Bool

/-- A parameter that is only sent where it says something. -/
def flag (key : String) : Option Bool → List (String × String)
  | none => []
  | some b => [(key, if b then "true" else "false")]

/-- The request for the page at an offset. -/
def ListMarkets.request (l : ListMarkets) (offset : ℕ) : Request where
  method := "GET"
  path := "/markets"
  query := [("limit", toString l.page_size), ("offset", toString offset)] ++
    flag "active" l.active ++ flag "closed" l.closed ++ flag "archived" l.archived
  json_body := none

/-- What a listing comes to: the markets that were yielded, and how it ended. -/
inductive Ending
  | done
  | max_pages
  | raised (failure : Failure)
  /-- The loop goes on. -/
  | unfinished

/-- What is made of a page: its markets, and whether there may be more. -/
inductive Page
  | markets (items : List (Json ℚ)) (more : Bool)
  | last
  | raised

/-- A page: `data.get("markets", [])`, and `hasMore`. -/
def read_page (data : Json ℚ) : Page :=
  if data.is_obj then
    let markets := data.getD "markets" (.arr [])
    if markets.truthy then
      match markets.iterated with
      | none => .raised
      | some items =>
          .markets items (match data.get "hasMore" with | .bool false => false | _ => true)
    else .last
  else .raised

/-- `list_markets` from an offset, for that many turns of its loop, after `pages` pages. -/
def list_from (l : ListMarkets) :
    ℕ → ℕ → ℕ → List (Json ℚ) → Prog Call Answer (List (Json ℚ) × Ending)
  | 0, _, _, yielded => return (yielded, .unfinished)
  | turns + 1, pages, offset, yielded =>
      if l.max_pages.any (· ≤ pages) then return (yielded, .max_pages)
      else do
        match ← request l.discovery (l.request offset) with
        | .error failure => return (yielded, .raised failure)
        | .ok data =>
            match read_page data with
            | .raised => return (yielded, .raised .attribute)
            | .last => return (yielded, .done)
            | .markets items more =>
                if more then
                  list_from l turns (pages + 1) (offset + items.length) (yielded ++ items)
                else return (yielded ++ items, .done)

/-- `list_markets` -/
def list_markets (l : ListMarkets) (turns : ℕ) : Prog Call Answer (List (Json ℚ) × Ending) :=
  list_from l turns 0 0 []

/-! ## Section 3: A request is taken at most once -/

section once

variable {discovery : Bool} {req : Request}

/-- It sends a request. -/
def sends : Call → Bool
  | .wire _ => true
  | _ => false

/-- The venue has turned the request away. -/
def turned_away : (c : Call) → Answer c → Bool
  | .wire _, .responded status _ _ _ => status = 429
  | _, _ => false

/-- It is raised before anything was taken. -/
def Failure.untaken : Failure → Bool
  | .circuit_open => true
  | .no_signer => true
  | .exhausted => true
  | _ => false

/-- What a result says of whether the request was taken. -/
structure Tells (taken : Bool) (result : Result (Json ℚ)) : Prop where
  ok : ∀ value, result = .ok value → taken = true
  untaken : ∀ failure, result = .error failure → failure.untaken = true → taken = false

theorem tells_untaken (failure : Failure) : Tells false (.error failure) where
  ok := by simp
  untaken := fun _ _ _ => rfl

/-- What is raised after the request was sent is not raised before. -/
theorem tells_late {failure : Failure} (h : failure.untaken = false) (taken : Bool) :
    Tells taken (.error failure) where
  ok := by simp
  untaken := by
    intro failure' hsame htold
    cases hsame
    rw [h] at htold
    exact absurd htold (by simp)

section parts

variable {taken : Bool} {left : ℕ}

theorem counted_resends {failure : Failure} (h : failure.untaken = false) :
    (counted failure).Resends sends turned_away Tells left taken :=
  Prog.Resends.after_quiet (calls_send.mpr rfl) fun _ => tells_late h taken

theorem response_error_resends (status : ℕ) :
    (response_error status).Resends sends turned_away Tells left taken := by
  unfold response_error
  split
  · exact counted_resends rfl
  · exact tells_late rfl taken

theorem read_response_resends (status : ℕ) (text : String) (decoded : Except Undecoded (Json ℚ)) :
    (read_response status text decoded).Resends sends turned_away Tells left true := by
  have hok : ∀ value, Tells true (.ok value) := fun value => ⟨fun _ _ => rfl, by simp⟩
  unfold read_response
  split
  · exact response_error_resends status
  · apply Prog.Resends.after_quiet (calls_send.mpr rfl)
    intro _
    split
    · exact hok (.obj [])
    · split
      · exact hok _
      · exact response_error_resends status
      · exact counted_resends rfl

end parts

theorem pause_quiet (seconds : ℚ) : (pause seconds).Calls fun c => sends c = false := by
  unfold pause
  split
  · exact calls_send.mpr rfl
  · exact calls_pure ()

theorem attempts_resends (left : ℕ) :
    (attempts discovery req left).Resends sends turned_away Tells left false := by
  induction left with
  | zero => exact tells_untaken .exhausted
  | succ left ih =>
    apply Prog.Resends.after_quiet (calls_send.mpr rfl)
    intro may
    split
    · apply Prog.Resends.after_quiet (calls_send.mpr rfl)
      intro _
      apply Prog.Resends.send rfl
      intro reply
      cases reply with
      | raised exc => exact counted_resends rfl
      | client_error status => exact response_error_resends status
      | responded status retry_after text decoded =>
        by_cases hmany : status = 429
        · have haway :
              turned_away (.wire req) (.responded status retry_after text decoded) = true := by
            simp [turned_away, hmany]
          rw [haway]
          dsimp only
          rw [if_pos hmany]
          cases retry_after with
          | error exc => exact counted_resends rfl
          | ok seconds => exact Prog.Resends.after_quiet (pause_quiet seconds) fun _ => ih
        · have htaken :
              turned_away (.wire req) (.responded status retry_after text decoded) = false := by
            simp [turned_away, hmany]
          rw [htaken]
          dsimp only
          rw [if_neg hmany]
          exact read_response_resends status text decoded
    · exact tells_untaken .circuit_open

/-- Whatever the venue answers: an order is posted at most three times, and wherever the
    placement is cut off all its posts but the newest were turned away. If it returns, the
    newest was not; if the circuit was open, or all attempts were used up, all were. -/
theorem us_order_taken_once {W : Type} (E : Env Call Answer W) (w : W) (has_signer : Bool)
    (ticket : OrderTicket) :
    Safe E.logged
      (fun s c => OnceTaken sends turned_away 3 s.2 ∧
        (sends c = true → taken_of sends turned_away s.2 = false ∧ (sent_of sends s.2).length < 3))
      (fun result s => OnceTaken sends turned_away 3 s.2 ∧
        Tells (taken_of sends turned_away s.2) result)
      (place_order has_signer ticket) (w, []) := by
  have hempty : OnceTaken sends turned_away 3 ([] : List (Event Call Answer)) :=
    ⟨Nat.zero_le 3, by simp [sent_of]⟩
  have hresends : (place_order has_signer ticket).Resends sends turned_away Tells 3 false := by
    unfold place_order signed
    split
    · exact attempts_resends 3
    · exact tells_untaken .no_signer
  exact hresends.safe (by simp [sent_of]) hempty rfl

end once

/-! ## Section 4: Listings are complete -/

section listings

variable {l : ListMarkets} {listed : List (Json ℚ)}

/-- The page at an offset: some of the markets from there on, at least one where there are any;
    that there are no more is only said with the last. -/
def PageAt (listed : List (Json ℚ)) (offset : ℕ) (data : Json ℚ) : Prop :=
  (read_page data = .last ∧ listed.drop offset = []) ∨
    ∃ items more, read_page data = .markets items more ∧ items ≠ [] ∧
      items <+: listed.drop offset ∧ (more = false → items = listed.drop offset)

/-- The venue may turn a request away, and fail; if it answers, it answers a page. -/
def Answers (listed : List (Json ℚ)) (req : Request) (reply : Reply) : Prop :=
  ∀ status retry_after text decoded offset, reply = .responded status retry_after text decoded →
    status < 400 → req.query.lookup "offset" = some (toString offset) →
      status ≠ 204 ∧ text ≠ "" ∧ ∀ data, decoded = .ok data → PageAt listed offset data

/-- The calls of a listing. -/
def venue (listed : List (Json ℚ)) : Env Call Answer Unit where
  serve := fun _ c a _ =>
    match c with
    | .wire req => Answers listed req a
    | _ => True

theorem request_offset (offset : ℕ) :
    (l.request offset).query.lookup "offset" = some (toString offset) := by
  simp [ListMarkets.request, List.lookup_cons]

theorem error_answered {p : Prog Call Answer (Result (Json ℚ))} {offset : ℕ}
    (hp : wp (venue listed) p (fun result _ => ∃ failure, result = .error failure) ()) :
    wp (venue listed) p
      (fun result _ => ∀ data, result = .ok data → PageAt listed offset data) () := by
  refine wp_mono hp fun result _ hfailure data hok => ?_
  obtain ⟨failure, hfailure⟩ := hfailure
  rw [hok] at hfailure
  cases hfailure

theorem counted_fails (failure : Failure) :
    wp (venue listed) (counted failure) (fun result _ => ∃ failure, result = .error failure) () :=
  wp_bind.mpr (wp_send.mpr fun _ _ _ => wp_pure.mpr ⟨failure, rfl⟩)

theorem response_error_fails (status : ℕ) : wp (venue listed) (response_error status)
    (fun result _ => ∃ failure, result = .error failure) () := by
  unfold response_error
  split
  · exact counted_fails _
  · exact wp_pure.mpr ⟨_, rfl⟩

/-- What a request returns is the page that was asked for. -/
theorem attempts_answered (discovery : Bool) (offset left : ℕ) :
    wp (venue listed) (attempts discovery (l.request offset) left)
      (fun result _ => ∀ data, result = .ok data → PageAt listed offset data) () := by
  induction left with
  | zero => exact wp_pure.mpr (by simp)
  | succ left ih =>
    refine wp_bind.mpr (wp_send.mpr fun may _ _ => ?_)
    split
    · refine wp_bind.mpr (wp_send.mpr fun _ _ _ => ?_)
      refine wp_bind.mpr (wp_send.mpr fun reply _ hanswers => ?_)
      cases reply with
      | raised exc => exact error_answered (counted_fails _)
      | client_error status => exact error_answered (response_error_fails status)
      | responded status retry_after text decoded =>
        dsimp only
        split
        · cases retry_after with
          | error exc => exact error_answered (counted_fails _)
          | ok seconds =>
            have hpause : wp (venue listed) (pause seconds) (fun _ _ => True) () :=
              fun _ _ _ => trivial
            exact wp_bind.mpr (wp_mono hpause fun _ _ _ => ih)
        · unfold read_response
          split
          · exact error_answered (response_error_fails status)
          · next hlow =>
            obtain ⟨hstatus, htext, hpage⟩ := hanswers status retry_after text decoded offset rfl
              (Nat.lt_of_not_le hlow) (request_offset offset)
            refine wp_bind.mpr (wp_send.mpr fun _ _ _ => ?_)
            rw [if_neg (by simp [hstatus, htext])]
            split
            · next value =>
              refine wp_pure.mpr fun data hok => ?_
              cases hok
              exact hpage value rfl
            · exact error_answered (response_error_fails status)
            · exact error_answered (counted_fails _)
    · exact wp_pure.mpr (by simp)

/-- What a listing comes to, `turns` turns of its loop from an offset on. -/
structure Listed (l : ListMarkets) (listed : List (Json ℚ)) (turns offset : ℕ)
    (result : List (Json ℚ) × Ending) : Prop where
  in_order : result.1 <+: listed
  complete : result.2 = .done → result.1 = listed
  unbounded : l.max_pages = none → result.2 ≠ .max_pages
  ends : listed.length < offset + turns → result.2 ≠ .unfinished

theorem list_from_listed {turns pages offset : ℕ} {yielded : List (Json ℚ)}
    (hyielded : yielded ++ (Paging.by_offset listed).rest offset = listed)
    (hoffset : offset ≤ listed.length) :
    wp (venue listed) (list_from l turns pages offset yielded)
      (fun result _ => Listed l listed turns offset result) () := by
  induction turns generalizing pages offset yielded with
  | zero => exact wp_pure.mpr ⟨⟨_, hyielded⟩, by simp, by simp, by omega⟩
  | succ turns ih =>
    unfold list_from
    split
    · next hmax =>
      refine wp_pure.mpr ⟨⟨_, hyielded⟩, by simp, fun hnone => ?_, by simp⟩
      simp [hnone] at hmax
    · refine wp_bind.mpr (wp_mono (attempts_answered l.discovery offset 3) ?_)
      intro result _ hresult
      cases result with
      | error failure => exact wp_pure.mpr ⟨⟨_, hyielded⟩, by simp, by simp, by simp⟩
      | ok data =>
        rcases hresult data rfl with ⟨hlast, hnothing⟩ | ⟨items, more, hpage, hne, hlead, hall⟩
        · have hdone : yielded = listed := by
            rw [← List.append_nil yielded, ← hnothing]
            exact hyielded
          dsimp only
          rw [hlast]
          exact wp_pure.mpr ⟨⟨_, hyielded⟩, fun _ => hdone, by simp, by simp⟩
        · have hcollected := (Paging.offset_pages hlead).collected hyielded
          have hlength := hlead.length_le
          have hpos := List.length_pos_iff.mpr hne
          rw [List.length_drop] at hlength
          dsimp only
          rw [hpage]
          cases more with
          | true =>
            have hrest := @ih (pages + 1) (offset + items.length) _ hcollected (by omega)
            refine wp_mono hrest fun result _ h => ?_
            exact ⟨h.in_order, h.complete, h.unbounded, fun hturns => h.ends (by omega)⟩
          | false =>
            have hdone : yielded ++ items = listed := by
              rw [hall rfl]
              exact hyielded
            have hlead : yielded ++ items <+: listed := ⟨[], by rw [List.append_nil, hdone]⟩
            exact wp_pure.mpr ⟨hlead, fun _ => hdone, by simp, by simp⟩

/-- However the venue splits its markets into pages, and whenever it fails: what is yielded are
    its markets, in order and each once; all of them, if the listing comes to its end. It does
    come to an end, unless it is told to stop or a request fails, in one turn more than there
    are markets. -/
theorem markets_listed (l : ListMarkets) (listed : List (Json ℚ)) (turns : ℕ) :
    wp (venue listed) (list_markets l turns)
      (fun result _ => Listed l listed turns 0 result) () :=
  list_from_listed rfl (Nat.zero_le _)

end listings

end PolymarketUsClient
