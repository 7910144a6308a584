import Arbiter.Framework.Paging
import Arbiter.Framework.Prog
import Arbiter.Scanner.Collectors

/-! # What Kalshi Is Asked For

  `KalshiCollector` lists all markets or events page by page, and fetches the tracked markets
  in batches; a ticker that no batch resolves is asked for alone. Requests fail, and are
  limited, at any moment.

  ## Contents

  - Section 1: requests.
  - Section 2: `list_all_markets`, `list_all_events`.
  - Section 3: `fetch_markets`.
  - Section 4: a listing is complete, however it is split.
  - Section 5: fetching in batches publishes what fetching one by one would.
-/

namespace KalshiFetch

open Effect Collectors

/-! ## Section 1: Requests -/

structure Request where
  path : String
  params : List (String × String)

/-- What comes of a request; the body is what it decodes to, if it does. -/
inductive Reply
  | raised
  | responded (status : ℕ) (retry_after : Option String) (body : Option (Json ℚ))

inductive Call
  | acquire
  /-- Whether the headers could be made. -/
  | get_headers (path : String)
  | get (req : Request)
  | apply_retry_after (retry_after : Option String) (fallback_delay : ℚ)
  /-- A price goes to the store. -/
  | put (price : PricePoint)

@[reducible] def Answer : Call → Type
  | .acquire => Unit
  | .get_headers _ => Bool
  | .get _ => Reply
  | .apply_retry_after _ _ => Unit
  | .put _ => Unit

section collector

-- whether requests are signed, and what `str` makes of a value that is no text
variable (authenticated : Bool) (spelled : Json ℚ → String)

/-- The headers, where they are needed: whether they could be made. -/
def headers (path : String) : Prog Call Answer Bool :=
  if authenticated then Prog.send (Call.get_headers path) else return true

/-- `_get_with_429_retry`, with that many attempts left; `none` where it raises. -/
def get_with_429_retry (req : Request) (fallback_delay : ℚ) :
    ℕ → ℕ → Prog Call Answer (Option (Json ℚ))
  | 0, _ => return none
  | left + 1, attempt => do
      Prog.send Call.acquire
      if ← headers authenticated ("/trade-api/v2" ++ req.path) then do
        match ← Prog.send (Call.get req) with
        | .raised => return none
        | .responded status retry_after body =>
            if status = 429 then do
              Prog.send (Call.apply_retry_after retry_after (fallback_delay * (attempt + 1)))
              get_with_429_retry req fallback_delay left (attempt + 1)
            else if 400 ≤ status then return none
            else return body
      else return none

/-! ## Section 2: Listings -/

/-- A listing: where it is, under which key its items are, and how it is asked for. -/
structure Listing where
  path : String
  key : String
  page_size : ℕ
  status : Option String
  max_pages : ℕ

/-- The listing of `list_all_markets`. -/
def all_markets (status : Option String) : Listing := ⟨"/markets", "markets", 1000, status, 80⟩

/-- The listing of `list_all_events`. -/
def all_events (status : Option String) : Listing := ⟨"/events", "events", 200, status, 100⟩

/-- A parameter that is only sent where it says something. -/
def optional (key : String) : Option String → List (String × String)
  | none => []
  | some value => if value = "" then [] else [(key, value)]

/-- The request for a page. -/
def Listing.request (listing : Listing) (cursor : Option String) : Request where
  path := listing.path
  params := ("limit", toString listing.page_size) :: optional "status" listing.status ++
    optional "cursor" cursor

/-- The items of a page; `none` where reading them raises. -/
def Listing.items (listing : Listing) (data : Json ℚ) : Option (List (Json ℚ)) :=
  if data.is_obj then ((data.get listing.key).orElse (.arr [])).iterated else none

/-- The cursor of the next page, if there is one. -/
def next_cursor (data : Json ℚ) : Option String :=
  if (data.get "cursor").truthy then some ((data.get "cursor").text spelled) else none

/-- `list_all_markets`, `list_all_events`, with that many pages left. -/
def list_pages (listing : Listing) :
    ℕ → Option String → List (Json ℚ) → Prog Call Answer (Option (List (Json ℚ)))
  | 0, _, all_items => return some all_items
  | left + 1, cursor, all_items => do
      match ← get_with_429_retry authenticated (listing.request cursor) 5 5 0 with
      | none => return none
      | some data =>
          match listing.items data with
          | none => return none
          | some items =>
              match next_cursor spelled data with
              | none => return some (all_items ++ items)
              | some cursor => list_pages listing left (some cursor) (all_items ++ items)

/-- A listing from its first page on. -/
def list_all (listing : Listing) : Prog Call Answer (Option (List (Json ℚ))) :=
  list_pages authenticated spelled listing listing.max_pages none []

/-! ## Section 3: The tracked markets -/

/-- An entry of the market map. -/
structure Entry where
  canonical_id : String
  kalshi : String
  mapping : MappingEntry

/-- The tickers, each with what is tracked under it. -/
abbrev Tracked := List (String × List Entry)

/-- `setdefault(ticker, []).append(entry)` -/
def track (ticker : String) (entry : Entry) : Tracked → Tracked
  | [] => [(ticker, [entry])]
  | (t, entries) :: rest =>
      if t = ticker then (t, entries ++ [entry]) :: rest
      else (t, entries) :: track ticker entry rest

/-- `ticker_to_canonicals` -/
def tracked (market_map : List Entry) : Tracked :=
  market_map.foldl (fun acc entry =>
    if Text.strip entry.kalshi = "" then acc else track (Text.strip entry.kalshi) entry acc) []

/-- `ticker_to_market`: what was fetched, newest first. -/
abbrev Fetched := List (String × Json ℚ)

/-- `str(market.get("ticker", "") or "")` -/
def ticker_of (market : Json ℚ) : String :=
  ((market.getD "ticker" (.str "" none)).orElse (.str "" none)).text spelled

/-- A market that was fetched, if it has a ticker. -/
def note (market : Json ℚ) (fetched : Fetched) : Fetched :=
  if ticker_of spelled market = "" then fetched else (ticker_of spelled market, market) :: fetched

/-- The markets of a batch. One that is no object ends the batch. -/
def note_all : List (Json ℚ) → Fetched → Fetched
  | [], fetched => fetched
  | market :: rest, fetched =>
      if market.is_obj then note_all rest (note spelled market fetched) else fetched

/-- `_BATCH_SIZE` -/
def batch_size : ℕ := 100

/-- The batches, at most `fuel` of them. -/
def cut : ℕ → List String → List (List String)
  | 0, _ => []
  | fuel + 1, tickers =>
      if tickers = [] then [] else tickers.take batch_size :: cut fuel (tickers.drop batch_size)

/-- `[tickers[i : i + _BATCH_SIZE] for i in range(0, len(tickers), _BATCH_SIZE)]` -/
def batches (tickers : List String) : List (List String) := cut tickers.length tickers

def batch_request (batch : List String) : Request where
  path := "/markets"
  params := [("tickers", String.intercalate "," batch), ("limit", toString batch_size)]

/-- What a batch adds. -/
def read_batch (fetched : Fetched) : Reply → Fetched
  | .responded status _ (some data) =>
      if status = 200 ∧ data.is_obj then
        match (data.getD "markets" (.arr [])).iterated with
        | some markets => note_all spelled markets fetched
        | none => fetched
      else fetched
  | _ => fetched

/-- A batch that was limited holds the limiter up. -/
def hold_up (fallback_delay : ℚ) : Reply → Prog Call Answer Unit
  | .responded status retry_after _ =>
      if status = 429 then do
        Prog.send (Call.apply_retry_after retry_after fallback_delay)
      else return ()
  | .raised => return ()

-- the fallback delay of a batch
variable (fallback_delay : ℚ)

/-- The loop over the batches; `none` where it raises. -/
def fetch_batches : List (List String) → Fetched → Prog Call Answer (Option Fetched)
  | [], fetched => return some fetched
  | batch :: rest, fetched => do
      Prog.send Call.acquire
      if ← headers authenticated "/trade-api/v2/markets" then do
        let reply ← Prog.send (Call.get (batch_request batch))
        hold_up fallback_delay reply
        fetch_batches rest (read_batch spelled fetched reply)
      else return none

def single_request (ticker : String) : Request := ⟨"/markets/" ++ ticker, []⟩

/-- The market of an answer to a single request. -/
def single_market : Reply → Option (Json ℚ)
  | .responded status _ (some data) =>
      if status = 200 ∧ data.is_obj then
        let market := data.getD "market" data
        if market.is_obj then some market else none
      else none
  | _ => none

/-- What a single request adds. -/
def read_single (fetched : Fetched) (reply : Reply) : Fetched :=
  match single_market reply with
  | some market => note spelled market fetched
  | none => fetched

/-- The tickers that no batch resolved, one by one. -/
def fetch_singles : List String → Fetched → Prog Call Answer Fetched
  | [], fetched => return fetched
  | ticker :: rest, fetched => do
      Prog.send Call.acquire
      if ← headers authenticated ("/trade-api/v2/markets/" ++ ticker) then do
        let reply ← Prog.send (Call.get (single_request ticker))
        fetch_singles rest (read_single spelled fetched reply)
      else fetch_singles rest fetched

/-- The price of an entry, where its market has one. -/
def price_of (ticker : String) (market : Json ℚ) (entry : Entry) : Option PricePoint :=
  kalshi_price_point spelled entry.canonical_id ticker entry.mapping market

/-- The prices of a ticker: none where its market is missing or empty. -/
def prices_of (market : Option (Json ℚ)) (ticker : String) (entries : List Entry) :
    List PricePoint :=
  match market with
  | none => []
  | some market => if market.truthy then entries.filterMap (price_of spelled ticker market) else []

/-- All prices, in the order in which they are tracked. -/
def prices (fetched : Fetched) (tickers : Tracked) : List PricePoint :=
  tickers.flatMap fun t => prices_of spelled (fetched.lookup t.1) t.1 t.2

/-- The prices go to the store. -/
def publish : List PricePoint → Prog Call Answer Unit
  | [] => return ()
  | price :: rest => do
      Prog.send (Call.put price)
      publish rest

/-- `fetch_markets`; `none` where it raises. -/
def fetch_markets (market_map : List Entry) : Prog Call Answer (Option (List PricePoint)) := do
  let tickers := (tracked market_map).map Prod.fst
  match ← fetch_batches authenticated spelled fallback_delay (batches tickers) [] with
  | none => return none
  | some fetched => do
      let unresolved := tickers.filter fun t => (fetched.lookup t).isNone
      let fetched ← fetch_singles authenticated spelled unresolved fetched
      publish (prices spelled fetched (tracked market_map))
      return some (prices spelled fetched (tracked market_map))

end collector

/-! ## Section 4: Listings are complete -/

section listings

variable {authenticated : Bool} {spelled : Json ℚ → String} {listing : Listing}

/-- A listing at the venue, split into pages; each page but the first has a cursor. -/
structure Pages where
  pages : List (List (Json ℚ))
  token : ℕ → String
  named : ∀ k, token k ≠ ""
  apart : Function.Injective token

/-- The cursor that a page is asked for with. -/
def Pages.cursor (listed : Pages) : ℕ → Option String
  | 0 => none
  | k + 1 => some (listed.token (k + 1))

/-- The venue may turn requests away, and fail; if it answers, it answers the page that was
    asked for, with the cursor of the next. -/
def Pages.Answers (listed : Pages) (spelled : Json ℚ → String) (listing : Listing) (req : Request)
    (reply : Reply) : Prop :=
  ∀ status retry_after data k, reply = .responded status retry_after (some data) → status < 400 →
    req.params.lookup "cursor" = listed.cursor k →
      listing.items data = some (listed.pages[k]?.getD []) ∧
        next_cursor spelled data = (Paging.cursor_after listed.pages k).map listed.token

/-- The calls of a listing. -/
def Pages.venue (listed : Pages) (spelled : Json ℚ → String) (listing : Listing) :
    Env Call Answer Unit where
  serve := fun _ c a _ =>
    match c with
    | .get req => listed.Answers spelled listing req a
    | _ => True

variable {listed : Pages}

theorem request_cursor (cursor : Option String) (h : cursor ≠ some "") :
    (listing.request cursor).params.lookup "cursor" = cursor := by
  have hstatus : (("limit", toString listing.page_size) :: optional "status" listing.status).lookup
      "cursor" = none := by
    unfold optional
    split
    · simp [List.lookup_cons]
    · split <;> simp [List.lookup_cons]
  have hcursor : (optional "cursor" cursor).lookup "cursor" = cursor := by
    unfold optional
    split
    · rfl
    · next value =>
      have hvalue : value ≠ "" := fun hempty => h (by rw [hempty])
      simp [hvalue]
  show ((("limit", toString listing.page_size) :: optional "status" listing.status) ++
    optional "cursor" cursor).lookup "cursor" = cursor
  rw [List.lookup_append, hstatus, hcursor, Option.none_or]

theorem cursor_named (k : ℕ) : listed.cursor k ≠ some "" := by
  cases k with
  | zero => simp [Pages.cursor]
  | succ k =>
    intro h
    exact listed.named (k + 1) (Option.some.inj h)

/-- What is returned was answered to the request. -/
theorem get_answered (req : Request) (fallback_delay : ℚ) (left attempt : ℕ) :
    wp (listed.venue spelled listing)
      (get_with_429_retry authenticated req fallback_delay left attempt)
      (fun result _ => ∀ data, result = some data → ∃ status retry_after, status < 400 ∧
        listed.Answers spelled listing req (.responded status retry_after (some data))) () := by
  induction left generalizing attempt with
  | zero => simp [get_with_429_retry]
  | succ left ih =>
    refine wp_bind.mpr (wp_send.mpr fun _ _ _ => ?_)
    have hheaders : wp (listed.venue spelled listing)
        (headers authenticated ("/trade-api/v2" ++ req.path)) (fun _ _ => True) () :=
      fun _ _ _ => trivial
    refine wp_bind.mpr (wp_mono hheaders fun made _ _ => ?_)
    split
    · refine wp_bind.mpr (wp_send.mpr fun reply _ hanswers => ?_)
      cases reply with
      | raised => simp
      | responded status retry_after body =>
        dsimp only
        split
        · exact wp_bind.mpr (wp_send.mpr fun _ _ _ => ih (attempt + 1))
        · split
          · simp
          · next hlow =>
            refine wp_pure.mpr fun data hbody => ?_
            rw [hbody] at hanswers
            exact ⟨status, retry_after, Nat.lt_of_not_le hlow, hanswers⟩
    · simp

theorem list_pages_collects {left k : ℕ} {all_items : List (Json ℚ)}
    (hall : all_items = (listed.pages.take k).flatten) (hleft : k + left = listing.max_pages) :
    wp (listed.venue spelled listing)
      (list_pages authenticated spelled listing left (listed.cursor k) all_items)
      (fun result _ => ∀ items, result = some items →
        items = (listed.pages.take listing.max_pages).flatten) () := by
  induction left generalizing k all_items with
  | zero =>
    refine wp_pure.mpr fun items hitems => ?_
    have hk : k = listing.max_pages := by omega
    rw [← Option.some.inj hitems, hall, hk]
  | succ left ih =>
    refine wp_bind.mpr (wp_mono (get_answered _ 5 5 0) fun result _ hresult => ?_)
    cases result with
    | none => simp
    | some data =>
      obtain ⟨status, retry_after, hstatus, hanswers⟩ := hresult data rfl
      obtain ⟨hitems, hcursor⟩ := hanswers status retry_after data k rfl hstatus
        (request_cursor _ (cursor_named k))
      have hgot : all_items ++ listed.pages[k]?.getD [] = (listed.pages.take (k + 1)).flatten := by
        rw [Paging.page_collected, hall]
      dsimp only
      rw [hitems, hcursor]
      dsimp only
      rw [hgot]
      cases hnext : Paging.cursor_after listed.pages k with
      | none =>
        refine wp_pure.mpr fun items hresult => ?_
        have hmost : k + 1 ≤ listing.max_pages := by omega
        rw [← Option.some.inj hresult, Paging.last_collected hnext hmost]
      | some next =>
        have hsucc : next = k + 1 := by
          unfold Paging.cursor_after at hnext
          split at hnext
          · exact (Option.some.inj hnext).symm
          · cases hnext
        have hmore : k + 1 + left = listing.max_pages := by omega
        rw [hsucc]
        exact ih rfl hmore

/-- However the venue splits the listing into pages, and however often it turns a request away:
    if a listing is returned, it is that of the venue, in order, up to `max_pages` pages. -/
theorem listing_complete (authenticated : Bool) (spelled : Json ℚ → String) (listing : Listing)
    (listed : Pages) :
    wp (listed.venue spelled listing) (list_all authenticated spelled listing)
      (fun result _ => ∀ items, result = some items →
        items = (listed.pages.take listing.max_pages).flatten) () :=
  list_pages_collects rfl (Nat.zero_add _)

end listings

/-! ## Section 5: Batches agree with single requests -/

section batches

variable {authenticated : Bool} {spelled : Json ℚ → String}

/-- The markets that the venue has, each under its own ticker. -/
structure Book (spelled : Json ℚ → String) where
  market : String → Option (Json ℚ)
  own : ∀ t m, market t = some m → ticker_of spelled m = t ∧ t ≠ ""

/-- A market that is answered is one of the book, if it has a ticker. -/
def Book.Has (book : Book spelled) (m : Json ℚ) : Prop :=
  ticker_of spelled m ≠ "" → book.market (ticker_of spelled m) = some m

/-- The venue may turn a request away, fail, or leave markets out; what it answers is in the
    book. -/
def Book.Answers (book : Book spelled) (req : Request) (reply : Reply) : Prop :=
  (req.params = [] → ∀ m, single_market reply = some m → book.Has m) ∧
    (req.params ≠ [] → ∀ status retry_after data items,
      reply = .responded status retry_after (some data) →
        (data.getD "markets" (.arr [])).iterated = some items → ∀ m ∈ items, book.Has m)

def Book.venue (book : Book spelled) : Env Call Answer Unit where
  serve := fun _ c a _ =>
    match c with
    | .get req => book.Answers req a
    | _ => True

/-- A single request that went through, if the venue has the market. -/
def Book.Resolved (book : Book spelled) (e : Event Call Answer) : Prop :=
  (∀ path made, e = ⟨.get_headers path, made⟩ → made = true) ∧
    ∀ t reply, e = ⟨.get (single_request t), reply⟩ → (book.market t).isSome = true →
      ∃ m, single_market reply = some m ∧ ticker_of spelled m = t

/-- What fetching the tickers one by one would publish, of a venue that answers. -/
def one_by_one (book : Book spelled) (tickers : Tracked) : List PricePoint :=
  tickers.flatMap fun t => prices_of spelled (book.market t.1) t.1 t.2

/-- The prices that went to the store, oldest first. -/
def puts (log : List (Event Call Answer)) : List PricePoint :=
  log.reverse.filterMap fun e =>
    match e.asked with
    | .put price => some price
    | _ => none

variable {book : Book spelled} {fetched : Fetched} {s : Unit × List (Event Call Answer)}

/-- What was fetched is in the book. -/
def Valid (book : Book spelled) (fetched : Fetched) : Prop :=
  ∀ t m, fetched.lookup t = some m → book.market t = some m

theorem note_lookup {m : Json ℚ} (t : String) (h : ticker_of spelled m ≠ "") :
    (note spelled m fetched).lookup t =
      if t = ticker_of spelled m then some m else fetched.lookup t := by
  rw [note, if_neg h, List.lookup_cons]
  by_cases ht : t = ticker_of spelled m
  · simp [ht]
  · rw [if_neg ht, beq_false_of_ne ht]

theorem Valid.note (h : Valid book fetched) {m : Json ℚ} (hm : book.Has m) :
    Valid book (note spelled m fetched) := by
  by_cases hticker : ticker_of spelled m = ""
  · rwa [KalshiFetch.note, if_pos hticker]
  · intro t m' hlookup
    rw [note_lookup t hticker] at hlookup
    by_cases ht : t = ticker_of spelled m
    · rw [if_pos ht] at hlookup
      rw [ht, hm hticker, ← hlookup]
    · rw [if_neg ht] at hlookup
      exact h t m' hlookup

theorem Valid.note_all (h : Valid book fetched) {markets : List (Json ℚ)}
    (hall : ∀ m ∈ markets, book.Has m) : Valid book (note_all spelled markets fetched) := by
  induction markets generalizing fetched with
  | nil => exact h
  | cons m markets ih =>
    unfold KalshiFetch.note_all
    split
    · exact ih (h.note (hall m (by simp))) fun m' hm' => hall m' (by simp [hm'])
    · exact h

theorem Valid.read_batch (h : Valid book fetched) {batch : List String} {reply : Reply}
    (hreply : book.Answers (batch_request batch) reply) :
    Valid book (read_batch spelled fetched reply) := by
  have hitems := hreply.2 (by simp [batch_request])
  unfold KalshiFetch.read_batch
  split
  · next status retry_after data =>
    split
    · split
      · next markets hmarkets =>
        exact h.note_all (hitems status retry_after data markets rfl hmarkets)
      · exact h
    · exact h
  · exact h

theorem Valid.read_single (h : Valid book fetched) {ticker : String} {reply : Reply}
    (hreply : book.Answers (single_request ticker) reply) :
    Valid book (read_single spelled fetched reply) := by
  unfold KalshiFetch.read_single
  split
  · next m hm => exact h.note (hreply.1 rfl m hm)
  · exact h

/-- What was resolved stays so. -/
theorem note_keeps {m : Json ℚ} {t : String} (h : (fetched.lookup t).isSome = true) :
    ((note spelled m fetched).lookup t).isSome = true := by
  by_cases hticker : ticker_of spelled m = ""
  · rwa [note, if_pos hticker]
  · rw [note_lookup t hticker]
    split
    · rfl
    · exact h

theorem read_single_keeps {reply : Reply} {t : String} (h : (fetched.lookup t).isSome = true) :
    ((read_single spelled fetched reply).lookup t).isSome = true := by
  unfold read_single
  split
  · exact note_keeps h
  · exact h

/-- A single request that went through resolves its ticker. -/
theorem read_single_resolves {reply : Reply} {ticker : String} {m : Json ℚ}
    (hm : single_market reply = some m) (hticker : ticker_of spelled m = ticker)
    (hne : ticker ≠ "") :
    ((read_single spelled fetched reply).lookup ticker).isSome = true := by
  rw [read_single, hm]
  show ((note spelled m fetched).lookup ticker).isSome = true
  rw [note_lookup ticker (by rw [hticker]; exact hne), if_pos hticker.symm]
  rfl

/-! ### Runs -/

theorem headers_leave (path : String) :
    wp book.venue.logged (headers authenticated path)
      (fun made s' => made = false → s'.2 = ⟨.get_headers path, false⟩ :: s.2) s := by
  unfold headers
  split
  · refine wp_send.mpr fun made s' hs hmade => ?_
    rw [hs.2, hmade]
  · simp

theorem fetch_batches_valid (fallback_delay : ℚ) (batches : List (List String))
    (h : Valid book fetched) :
    wp book.venue.logged (fetch_batches authenticated spelled fallback_delay batches fetched)
      (fun result _ => ∀ fetched, result = some fetched → Valid book fetched) s := by
  induction batches generalizing fetched s with
  | nil =>
    refine wp_pure.mpr fun fetched' hsame => ?_
    rwa [← Option.some.inj hsame]
  | cons batch batches ih =>
    refine wp_bind.mpr (wp_send.mpr fun _ s₁ _ => ?_)
    have hheaders : wp book.venue.logged (headers authenticated "/trade-api/v2/markets")
        (fun _ _ => True) s₁ :=
      fun _ _ _ => trivial
    refine wp_bind.mpr (wp_mono hheaders fun made s₂ _ => ?_)
    split
    · refine wp_bind.mpr (wp_send.mpr fun reply s₃ hreply => ?_)
      have hhold : wp book.venue.logged (hold_up fallback_delay reply) (fun _ _ => True) s₃ :=
        fun _ _ _ => trivial
      exact wp_bind.mpr (wp_mono hhold fun _ s₄ _ => ih (h.read_batch hreply.1))
    · simp

/-- Some single request did not go through. -/
def Failed (book : Book spelled) (log : List (Event Call Answer)) : Prop :=
  ∃ e ∈ log, ¬ book.Resolved e

theorem Failed.cons {log : List (Event Call Answer)} (h : Failed book log)
    (e : Event Call Answer) : Failed book (e :: log) := by
  obtain ⟨e', he', hfailed⟩ := h
  exact ⟨e', List.mem_cons_of_mem e he', hfailed⟩

theorem failed_kept {α : Type} {p : Prog Call Answer α} (h : Failed book s.2) :
    wp book.venue.logged p (fun _ s' => Failed book s'.2) s := by
  intro a s' hrun
  apply hrun.keeps _ h
  intro s₁ c a s₂ hs hfailed
  rw [hs.2]
  exact hfailed.cons _

/-- Of the tickers asked for alone, all that the venue has are resolved, unless a request did
    not go through. -/
theorem fetch_singles_resolves (tickers : List String) (h : Valid book fetched) :
    wp book.venue.logged (fetch_singles authenticated spelled tickers fetched)
      (fun fetched' s' => Valid book fetched' ∧
        (∀ t, (fetched.lookup t).isSome = true → (fetched'.lookup t).isSome = true) ∧
        (Failed book s'.2 ∨ ∀ t ∈ tickers, (book.market t).isSome = true →
          (fetched'.lookup t).isSome = true)) s := by
  induction tickers generalizing fetched s with
  | nil => exact wp_pure.mpr ⟨h, fun _ hsome => hsome, .inr (by simp)⟩
  | cons ticker tickers ih =>
    refine wp_bind.mpr (wp_send.mpr fun _ s₁ _ => ?_)
    refine wp_bind.mpr (wp_mono (headers_leave _) fun made s₂ hmade => ?_)
    split
    · refine wp_bind.mpr (wp_send.mpr fun reply s₃ hreply => ?_)
      intro fetched' s' hrun
      obtain ⟨hvalid, hkeeps, hrest⟩ := ih (h.read_single hreply.1) fetched' s' hrun
      refine ⟨hvalid, fun t hsome => hkeeps t (read_single_keeps hsome), ?_⟩
      by_cases hresolved : book.Resolved ⟨.get (single_request ticker), reply⟩
      · rcases hrest with hfailed | hrest
        · exact .inl hfailed
        · refine .inr fun t ht hhas => ?_
          rcases List.mem_cons.mp ht with rfl | ht
          · obtain ⟨m, hm, hticker⟩ := hresolved.2 t reply rfl hhas
            obtain ⟨m', hm'⟩ := Option.isSome_iff_exists.mp hhas
            exact hkeeps t (read_single_resolves hm hticker (book.own t m' hm').2)
          · exact hrest t ht hhas
      · have hfailed : Failed book s₃.2 := by
          rw [hreply.2]
          exact ⟨_, List.mem_cons_self, hresolved⟩
        exact .inl (failed_kept hfailed fetched' s' hrun)
    · next hnot =>
      have hfailed : Failed book s₂.2 := by
        rw [hmade (by simpa using hnot)]
        exact ⟨_, List.mem_cons_self, fun hresolved => absurd (hresolved.1 _ _ rfl) (by simp)⟩
      intro fetched' s' hrun
      obtain ⟨hvalid, hkeeps, -⟩ := ih h fetched' s' hrun
      exact ⟨hvalid, hkeeps, .inl (failed_kept hfailed fetched' s' hrun)⟩

/-- A run that puts nothing. -/
def PutsNothing (c : Call) : Prop := ∀ price, c ≠ .put price

theorem puts_cons (c : Call) (a : Answer c) (log : List (Event Call Answer)) :
    puts (⟨c, a⟩ :: log) = puts log ++ (match c with | .put price => [price] | _ => []) := by
  unfold puts
  rw [List.reverse_cons, List.filterMap_append]
  cases c <;> rfl

theorem puts_kept {α : Type} {p : Prog Call Answer α} (hp : p.Calls PutsNothing) :
    wp book.venue.logged p (fun _ s' => puts s'.2 = puts s.2) s := by
  have hkeep : ∀ (s₁ : Unit × List (Event Call Answer)) c a s₂, PutsNothing c →
      book.venue.logged.serve s₁ c a s₂ → puts s₁.2 = puts s.2 → puts s₂.2 = puts s.2 := by
    intro s₁ c a s₂ hc hs hsame
    rw [hs.2, puts_cons, hsame]
    cases c with
    | put price => exact absurd rfl (hc price)
    | _ => exact List.append_nil _
  exact hp.keeps hkeep rfl

theorem headers_calls (path : String) : (headers authenticated path).Calls PutsNothing := by
  unfold headers
  split
  · exact calls_send.mpr (by simp [PutsNothing])
  · exact calls_pure _

theorem fetch_batches_calls (fallback_delay : ℚ) (batches : List (List String)) :
    (fetch_batches authenticated spelled fallback_delay batches fetched).Calls PutsNothing := by
  induction batches generalizing fetched with
  | nil => exact calls_pure _
  | cons batch batches ih =>
    apply Prog.Calls.bind (calls_send.mpr (by simp [PutsNothing]))
    intro _
    apply Prog.Calls.bind (headers_calls _)
    intro made
    split
    · apply Prog.Calls.bind (calls_send.mpr (by simp [PutsNothing]))
      intro reply
      have hhold : (hold_up fallback_delay reply).Calls PutsNothing := by
        unfold hold_up
        split
        · split
          · exact calls_send.mpr (by simp [PutsNothing])
          · exact calls_pure ()
        · exact calls_pure ()
      exact Prog.Calls.bind hhold fun _ => ih
    · exact calls_pure _

theorem fetch_singles_calls (tickers : List String) :
    (fetch_singles authenticated spelled tickers fetched).Calls PutsNothing := by
  induction tickers generalizing fetched with
  | nil => exact calls_pure _
  | cons ticker tickers ih =>
    apply Prog.Calls.bind (calls_send.mpr (by simp [PutsNothing]))
    intro _
    apply Prog.Calls.bind (headers_calls _)
    intro made
    split
    · apply Prog.Calls.bind (calls_send.mpr (by simp [PutsNothing]))
      exact fun reply => ih
    · exact ih

theorem publish_puts (published : List PricePoint) :
    wp book.venue.logged (publish published) (fun _ s' => puts s'.2 = puts s.2 ++ published ∧
      ∀ e ∈ s.2, e ∈ s'.2) s := by
  induction published generalizing s with
  | nil => exact wp_pure.mpr ⟨(List.append_nil _).symm, fun _ he => he⟩
  | cons price published ih =>
    refine wp_bind.mpr (wp_send.mpr fun _ s₁ hs => wp_mono ih fun _ s₂ hrest => ?_)
    rw [hs.2] at hrest
    constructor
    · rw [hrest.1, puts_cons, List.append_assoc]
      rfl
    · exact fun e he => hrest.2 e (List.mem_cons_of_mem _ he)

/-! ### Prices -/

theorem prices_valid (h : Valid book fetched) (tickers : Tracked) :
    prices spelled fetched tickers =
      one_by_one book (tickers.filter fun t => (fetched.lookup t.1).isSome) := by
  induction tickers with
  | nil => rfl
  | cons t tickers ih =>
    have hcons : prices spelled fetched (t :: tickers) =
        prices_of spelled (fetched.lookup t.1) t.1 t.2 ++ prices spelled fetched tickers :=
      List.flatMap_cons
    rw [hcons, ih]
    cases hlookup : fetched.lookup t.1 with
    | none => simp [hlookup, prices_of]
    | some m => simp [hlookup, one_by_one, h t.1 m hlookup]

theorem prices_complete (h : Valid book fetched) {tickers : Tracked}
    (hall : ∀ t ∈ tickers, (book.market t.1).isSome = true →
      (fetched.lookup t.1).isSome = true) :
    prices spelled fetched tickers = one_by_one book tickers := by
  unfold prices one_by_one
  apply List.flatMap_congr
  intro t ht
  cases hlookup : fetched.lookup t.1 with
  | some m => rw [h t.1 m hlookup]
  | none =>
    have hnone : book.market t.1 = none := by
      cases hmarket : book.market t.1 with
      | none => rfl
      | some m => simpa [hlookup] using hall t ht (by simp [hmarket])
    rw [hnone]

/-- Whatever requests fail, and however the venue answers the batches: the prices that are
    published are those that fetching one by one would publish for some of the tickers, in
    the same order; and for all of them, if the tickers that no batch resolved could be asked
    for alone. -/
theorem batches_publish_one_by_one (authenticated : Bool) (spelled : Json ℚ → String)
    (book : Book spelled) (fallback_delay : ℚ) (market_map : List Entry) :
    wp book.venue.logged (fetch_markets authenticated spelled fallback_delay market_map)
      (fun result s => ∀ published, result = some published →
        puts s.2 = published ∧
        (∃ resolved : String → Bool,
          published = one_by_one book ((tracked market_map).filter fun t => resolved t.1)) ∧
        ((∀ e ∈ s.2, book.Resolved e) →
          published = one_by_one book (tracked market_map))) ((), []) := by
  have hbatches : wp book.venue.logged
      (fetch_batches authenticated spelled fallback_delay
        (batches ((tracked market_map).map Prod.fst)) [])
      (fun result s => (∀ fetched, result = some fetched → Valid book fetched) ∧ puts s.2 = [])
      ((), []) :=
    fun result s hrun => ⟨fetch_batches_valid fallback_delay _ (by simp [Valid]) result s hrun,
      puts_kept (fetch_batches_calls fallback_delay _) result s hrun⟩
  refine wp_bind.mpr (wp_mono hbatches fun result s hs => ?_)
  cases result with
  | none => simp
  | some fetched =>
    obtain ⟨hvalid, hputs⟩ := hs
    have hvalid := hvalid fetched rfl
    refine wp_bind.mpr fun fetched' s₁ hsingles => ?_
    obtain ⟨hvalid', hkeeps, hresolved⟩ :=
      fetch_singles_resolves _ hvalid fetched' s₁ hsingles
    have hputs₁ : puts s₁.2 = [] :=
      (puts_kept (fetch_singles_calls _) fetched' s₁ hsingles).trans hputs
    refine wp_bind.mpr (wp_mono (publish_puts _) fun _ s₂ hpublished => wp_pure.mpr ?_)
    intro published hresult
    rw [← Option.some.inj hresult]
    refine ⟨by rw [hpublished.1, hputs₁, List.nil_append], ?_, fun hall => ?_⟩
    · exact ⟨fun t => (fetched'.lookup t).isSome, prices_valid hvalid' _⟩
    · apply prices_complete hvalid'
      intro t ht hhas
      rcases hresolved with hfailed | hresolved
      · obtain ⟨e, he, hnot⟩ := hfailed
        exact absurd (hall e (hpublished.2 e he)) hnot
      · by_cases hbatch : (fetched.lookup t.1).isSome = true
        · exact hkeeps t.1 hbatch
        · apply hresolved t.1 _ hhas
          have hnone : (fetched.lookup t.1).isNone = true := by
            rw [Option.isNone_iff_eq_none]
            exact Option.not_isSome_iff_eq_none.mp hbatch
          exact List.mem_filter.mpr ⟨List.mem_map_of_mem ht, hnone⟩

end batches

end KalshiFetch
