import Arbiter.Framework.Json
import Arbiter.Framework.Prog
import Arbiter.Framework.Text
import Arbiter.Execution.Opportunity
import Arbiter.Reconcile.Desk
import Arbiter.Scanner.PricePoint

/-! # Stranded Positions

  What the stranded-position reconciler knows of a lot at a venue, what it asks of
  the outside, and how it reads the three venues' books.

  ## Contents

  - Section 1: positions, decisions, orders.
  - Section 2: settings and calls.
  - Section 3: the payloads of the venues.
  - Section 4: the fetchers.
-/

namespace Stranded

open Effect Execution

/-! ## Section 1: Positions, decisions, orders -/

/-- What the tracker is keyed by: platform and market. -/
abbrev Key := String × String

/-- `complete_arb` of a decision: the missing leg. -/
structure MissingLeg where
  venue : String
  market_id : String
  canonical_id : String
  side : Side
  price : ℚ
  qty : ℕ
  deriving DecidableEq

/-- The action of a decision. -/
inductive Action
  | complete_arb (info : MissingLeg)
  | hold_to_settle
  | close_now
  | hedge
  | manual_review
  /-- Set by the reconciler itself on a hedged lot. -/
  | paired_hold
  deriving DecidableEq

/-- `MitigationDecision`, as far as the reconciler acts on it. -/
structure MitigationDecision where
  action : Action
  autonomous_ok : Bool
  deriving DecidableEq

/-- `StrandedPosition`. -/
structure StrandedPosition where
  platform : String
  market_id : String
  side : Side
  qty : ℚ
  cost_basis_usd : ℚ
  mtm_usd : ℚ
  unrealized_usd : ℚ
  best_bid : ℚ
  best_ask : ℚ
  title : String
  first_seen_ts : ℚ
  expiry_ts : Option ℚ
  mitigation_decision : Option MitigationDecision
  /-- Contracts hedged by the other leg of a filled arb. -/
  paired_qty : ℚ
  deriving DecidableEq

namespace StrandedPosition

/-- The key of a lot. -/
def key (pos : StrandedPosition) : Key := (pos.platform, pos.market_id)

/-- `residual_qty`: the contracts nothing hedges. -/
def residual_qty (pos : StrandedPosition) : ℚ := max (|pos.qty| - pos.paired_qty) 0

/-- `fully_paired`. -/
def fully_paired (pos : StrandedPosition) : Prop :=
  0 < |pos.qty| ∧ pos.residual_qty ≤ 1 / 10 ^ 9

instance (pos : StrandedPosition) : Decidable pos.fully_paired := by
  unfold fully_paired; infer_instance

/-- `cost_per_share`. -/
def cost_per_share (pos : StrandedPosition) : ℚ :=
  if |pos.qty| ≤ 0 then 0 else |pos.cost_basis_usd| / |pos.qty|

/-- `int(abs(pos.qty))`. -/
def contracts (pos : StrandedPosition) : ℕ := ⌊|pos.qty|⌋₊

end StrandedPosition

/-- `_residual_view`: the lot scaled to what is not hedged. -/
def residual_view (pos : StrandedPosition) : StrandedPosition :=
  let total := |pos.qty|
  let residual := pos.residual_qty
  if residual ≤ 0 ∨ total ≤ 0 ∨ total ≤ residual then pos
  else
    let frac := residual / total
    { pos with
      qty := if 0 < pos.qty then residual else -residual
      cost_basis_usd := pos.cost_basis_usd * frac
      mtm_usd := pos.mtm_usd * frac
      unrealized_usd := pos.unrealized_usd * frac
      paired_qty := 0 }

/-- An order of the reconciler. Its `arb_id` is a digest of the key of the lot it is for,
    the key is carried here. -/
structure MitigationOrder where
  strand : Key
  market_id : String
  canonical_id : String
  side : Side
  /-- Absent on a market sell. -/
  price : Option ℚ
  qty : ℕ
  deriving DecidableEq

/-- What becomes of a placement. A call that raises may have reached the venue first;
    the reconciler is not told. -/
inductive Placement
  | returned (order : Order ℚ)
  | raised (err : String) (accepted : Bool)

/-! ## Section 2: Settings and calls -/

/-- The reconciler's settings, and what it was constructed with. -/
structure Config where
  auto_close : Bool
  max_auto_close_notional_usd : ℚ
  max_auto_close_spread_bps : ℚ
  penny_cost_threshold_usd : ℚ
  close_retry_window_s : ℚ
  max_cum_close_mult : ℚ
  /-- `max(1.0, max_cum_close_mult)`. -/
  one_le_mult : 1 ≤ max_cum_close_mult
  has_mitigation_engine : Bool
  has_engine : Bool
  has_store : Bool
  has_price_store : Bool
  /-- `cfg.polymarket` is a `PolymarketUSConfig`. -/
  polymarket_us : Bool
  /-- The venues whose adapter has `place_fok`. -/
  place_fok : String → Bool
  /-- The venues whose adapter has `place_unwind_sell`. -/
  place_unwind_sell : String → Bool
  /-- `datetime.fromisoformat(..).timestamp()`, where it does not raise. -/
  fromisoformat : String → Option ℚ
  /-- `str(v)` of a value that is no text. -/
  spelled : Json ℚ → String
  /-- `float(text)`, where it does not raise. -/
  float_text : String → Option ℚ

/-- Contracts of `filled` arbs, by platform, market and side. -/
abbrev Inventory := String → String → Side → ℚ

/-- A row of `list_stuck_arbs`. -/
structure ListedArb extends Reconcile.StuckArb where
  canonical_id : String
  age_seconds : ℚ

/-- The incidents the reconciler raises, each with what its text is made of. -/
inductive Incident
  | stranded_position (pos : StrandedPosition)
  | stranded_close_cap (pos : StrandedPosition) (submitted : ℕ) (cap_base : ℚ)
  | phantom_record_closed (arb_id canonical_id : String)

/-- A response of Kalshi's portfolio endpoint, with the body where it is JSON. -/
structure Response where
  status : ℕ
  body : Option (Json ℚ)

/-- What the reconciler asks of the outside. -/
inductive Call
  /-- The fetcher of a platform finds its credentials. -/
  | configured (platform : String)
  /-- `_venue_truth_available`, or `account_id` of the ForecastEx client. -/
  | venue_truth_available (platform : String)
  | kalshi_positions
  | kalshi_market (ticker : String)
  | polymarket_positions
  | polymarket_book (slug : String)
  | forecastex_positions
  | forecastex_snapshot (conid : String)
  /-- `time.time()`. -/
  | time
  | paired_inventory_by_market
  /-- `MitigationEngine.decide`. -/
  | decide (view : StrandedPosition)
  /-- The lots with an open incident. -/
  | list_open_incidents
  /-- `engine._record_incident`: what it raises is logged. -/
  | record_incident (incident : Incident)
  /-- `engine._executions`. -/
  | executions
  | get_all_for_market (canonical_id : String)
  | place_fok (venue : String) (order : MitigationOrder)
  | place_unwind_sell (platform : String) (order : MitigationOrder)
  /-- `_persist_close_attempt`: never raises. -/
  | persist_close_attempt (strand : Key) (order : Order ℚ)
  | list_stuck_arbs (max_age_seconds : ℚ)
  /-- The update of `_close_phantom_record`. -/
  | close_phantom_record (arb : ListedArb)

/-- What each call answers. Of an exception only that there was one. -/
@[reducible] def Answer : Call → Type
  | .configured _ => Bool
  | .venue_truth_available _ => Bool
  | .kalshi_positions => Option Response
  | .kalshi_market _ => Option (Json ℚ)
  | .polymarket_positions => Option (Json ℚ)
  | .polymarket_book _ => Option (Json ℚ)
  | .forecastex_positions => Option (List (Json ℚ))
  | .forecastex_snapshot _ => Option (Json ℚ)
  | .time => ℚ
  | .paired_inventory_by_market => Option Inventory
  | .decide _ => Option MitigationDecision
  | .list_open_incidents => Option (List Key)
  | .record_incident _ => Unit
  | .executions => List ArbExecution
  | .get_all_for_market _ => Option (List (String × Scanner.PricePoint))
  | .place_fok .. => Placement
  | .place_unwind_sell .. => Placement
  | .persist_close_attempt .. => Unit
  | .list_stuck_arbs _ => Option (List ListedArb)
  | .close_phantom_record _ => Option Unit

/-- Programs of the reconciler. -/
abbrev Recon := Prog Call Answer

/-! ## Section 3: Payloads -/

/-- One lot of a portfolio payload, before its market is asked for a quote. -/
structure Lot where
  market_id : String
  qty : ℚ
  cost_basis_usd : ℚ
  mtm_usd : ℚ
  title : String
  expiry_ts : Option ℚ

/-- What the quote of a market gives a position. -/
structure Quote where
  bid : ℚ
  ask : ℚ
  title : String
  expiry_ts : Option ℚ

/-- No quote. -/
def Quote.empty : Quote := { bid := 0, ask := 0, title := "", expiry_ts := none }

/-- `float(p.get(key, 0) or 0)`; nothing when it raises. -/
def number (p : Json ℚ) (key : String) : Option ℚ :=
  ((p.getD key (.num 0)).orElse (.num 0)).float

/-- `int(p.get(key, 0) or 0)`; a text has to spell a whole number. -/
def whole_number (p : Json ℚ) (key : String) : Option ℤ :=
  match (p.getD key (.num 0)).orElse (.num 0) with
  | .str s reads =>
      if s.toList.all fun c => c.isDigit || c == '-' || c == '+' || c.isWhitespace then
        reads.map Int.floor
      else none
  | v => v.float.map fun q => if 0 ≤ q then ⌊q⌋ else ⌈q⌉

/-- `(p.get("title") or "")[:80]`; nothing when it raises. -/
def headline (p : Json ℚ) : Option String :=
  match (p.get "title").orElse (.str "" none) with
  | .str s _ => some (String.ofList (s.toList.take 80))
  | _ => none

/-- A timestamp under one of the keys, where there is one that parses. -/
def timestamp (cfg : Config) (p : Json ℚ) (keys : List String) : Option ℚ :=
  match p.first keys (.str "" none) with
  | .str s _ => if s = "" then none else cfg.fromisoformat (s.replace "Z" "+00:00")
  | _ => none

/-- One entry of Kalshi's `market_positions`; flat entries are none. -/
def kalshi_lot (cfg : Config) (p : Json ℚ) : Option (Option Lot) :=
  if p.is_obj = false then none
  else
    match number p "position_fp" with
    | none => none
    | some qty =>
        if qty = 0 then some none
        else
          match p.get? "ticker", number p "total_traded_dollars" with
          | some ticker, some cost =>
              some (some { market_id := ticker.text cfg.spelled, qty, cost_basis_usd := cost,
                           mtm_usd := 0, title := "", expiry_ts := none })
          | _, _ => none

/-- The entries of a list, in order; nothing when reading one of them raises. -/
def read_lots (read : Json ℚ → Option (Option Lot)) : List (Json ℚ) → Option (List Lot)
  | [] => some []
  | p :: rest =>
      match read p, read_lots read rest with
      | some none, some lots => some lots
      | some (some lot), some lots => some (lot :: lots)
      | _, _ => none

/-- The lots of Kalshi's portfolio. The status of the response is not looked at. -/
def kalshi_lots (cfg : Config) (response : Response) : Option (List Lot) :=
  match response.body with
  | none => none
  | some data =>
      if data.is_obj = false then none
      else
        match (data.getD "market_positions" (.arr [])).orElse (.arr []) with
        | .arr items => read_lots (kalshi_lot cfg) items
        | _ => none

/-- One entry of Polymarket's `positions`. -/
def polymarket_lot (cfg : Config) (slug : String) (p : Json ℚ) : Option (Option Lot) :=
  if p.is_obj = false then none
  else
    match whole_number p "netPosition" with
    | none => none
    | some net =>
        -- a flat entry is passed over; one that cannot be read fails the venue
        if net = 0 then some none
        else
          let cost := (p.get "cost").orElse (.obj [])
          let cash_value := (p.get "cashValue").orElse (.obj [])
          let metadata := (p.getD "marketMetadata" (.obj [])).orElse (.obj [])
          if cost.is_obj = false ∨ cash_value.is_obj = false ∨ metadata.is_obj = false then none
          else
            match number cost "value", number cash_value "value", headline metadata with
            | some cost, some mtm, some title =>
                some (some { market_id := slug, qty := net, cost_basis_usd := cost, mtm_usd := mtm
                             title := title
                             expiry_ts := timestamp cfg metadata ["endDate", "endDateIso"] })
            | _, _, _ => none

/-- The lots of Polymarket's portfolio. -/
def polymarket_lots (cfg : Config) (payload : Json ℚ) : Option (List Lot) :=
  match payload.orElse (.obj []) with
  | .obj fields =>
      match ((Json.obj fields).getD "positions" (.obj [])).orElse (.obj []) with
      | .obj positions =>
          positions.foldr (fun entry lots =>
            match polymarket_lot cfg entry.1 entry.2, lots with
            | some none, some lots => some lots
            | some (some lot), some lots => some (lot :: lots)
            | _, _ => none) (some [])
      | _ => none
  | _ => none

/-- `_FX_LOCAL_SYMBOL_RE`, after the bracket. -/
def local_symbol (cs : List Char) : Bool :=
  let ticker := fun c : Char => c.isUpper || c.isDigit
  let word := fun c : Char => c.isAlphanum || c == '_'
  match cs.takeWhile ticker, cs.dropWhile ticker with
  | _ :: _, '_' :: dated =>
      match dated.takeWhile Char.isDigit, dated.dropWhile Char.isDigit with
      | _ :: _, '_' :: name =>
          let outcome := name.takeWhile word
          "YES".toList.isSuffixOf outcome || "NO".toList.isSuffixOf outcome
      | _, _ => false
  | _, _ => false

/-- `_FX_LOCAL_SYMBOL_RE.search`. -/
def has_local_symbol : List Char → Bool
  | [] => false
  | '[' :: cs => local_symbol cs || has_local_symbol cs
  | _ :: cs => has_local_symbol cs

/-- `is_forecastex_position`. -/
def is_forecastex_position (cfg : Config) (p : Json ℚ) : Bool :=
  let listed := (p.first ["listingExchange", "exchange", "exchs"] (.str "" none)).text cfg.spelled
  let desc := (p.first ["contractDesc", "name"] (.str "" none)).text cfg.spelled
  p.is_obj && p.truthy &&
    (Text.occurs "FORECASTX" listed.toUpper || has_local_symbol desc.toList)

/-- One IBKR record; what is no ForecastEx lot is none. -/
def forecastex_lot (cfg : Config) (p : Json ℚ) : Option (Option Lot) :=
  if is_forecastex_position cfg p = false then some none
  else
    let net := (((p.get "position").orElse (.num 0)).float).getD 0
    let conid := Text.strip (((p.get "conid").orElse (.str "" none)).text cfg.spelled)
    if net = 0 ∨ conid = "" then some none
    else
      let avg_cost := (((p.get "avgCost").orElse (.num 0)).float).getD 0
      match ((p.get "mktPrice").orElse (.num 0)).float with
      | none => none
      | some market_price =>
          let per_share := if market_price = 0 then avg_cost else market_price
          let desc := (p.first ["contractDesc", "name"] (.str "" none)).text cfg.spelled
          some (some { market_id := conid, qty := net, cost_basis_usd := avg_cost * |net|
                       mtm_usd := per_share * |net|
                       title := String.ofList (desc.toList.take 80), expiry_ts := none })

/-- The lots of the IBKR portfolio. -/
def forecastex_lots (cfg : Config) (positions : List (Json ℚ)) : Option (List Lot) :=
  read_lots (forecastex_lot cfg) positions

/-- A lookup of a Kalshi market. What raises leaves the rest as it was. -/
def kalshi_quote (cfg : Config) (data : Json ℚ) : Quote :=
  let market := (data.getD "market" (.obj [])).orElse (.obj [])
  match number market "yes_bid" with
  | none => .empty
  | some bid =>
      match number market "yes_ask" with
      | none => { Quote.empty with bid := bid / 100 }
      | some ask =>
          match headline market with
          | none => { Quote.empty with bid := bid / 100, ask := ask / 100 }
          | some title =>
              { bid := bid / 100, ask := ask / 100, title
                expiry_ts := timestamp cfg market ["close_time", "expiration_time"] }

/-- `_amount_value`. -/
def amount_value (value : Json ℚ) : ℚ :=
  let value := if value.is_obj then value.get "value" else value
  value.float.getD 0

/-- The price of the first level of a side of the book. -/
def best_level (levels : Json ℚ) : Option ℚ :=
  match levels.orElse (.arr []) with
  | .arr [] => some 0
  | .arr (level :: _) =>
      match level.orElse (.obj []) with
      | .obj fields => some (amount_value ((Json.obj fields).get "px"))
      | _ => none
  | _ => none

/-- A Polymarket book. -/
def polymarket_quote (book : Json ℚ) : Quote :=
  let data := if book.is_obj then book.getD "marketData" book else .obj []
  if data.is_obj = false then .empty
  else
    match best_level (data.get "bids") with
    | none => .empty
    | some bid =>
        { Quote.empty with bid := bid, ask := (best_level (data.get "offers")).getD 0 }

/-- A price of an IBKR snapshot, which may start with a `C`. -/
def snapshot_price (cfg : Config) (snap : Json ℚ) (field : String) : ℚ :=
  match snap.get field with
  | .null => 0
  | raw =>
      let text := raw.text cfg.spelled
      (cfg.float_text (Text.strip (String.ofList (text.toList.dropWhile (· == 'C'))))).getD 0

/-- An IBKR snapshot. -/
def forecastex_quote (cfg : Config) (snap : Json ℚ) : Quote :=
  { Quote.empty with bid := snapshot_price cfg snap "84", ask := snapshot_price cfg snap "86" }

/-! ## Section 4: Fetchers -/

/-- The position of a lot at its quote. -/
def Lot.position (lot : Lot) (platform : String) (side : Side) (mtm : ℚ) (quote : Quote)
    (now : ℚ) : StrandedPosition where
  platform := platform
  market_id := lot.market_id
  side := side
  qty := lot.qty
  cost_basis_usd := lot.cost_basis_usd
  mtm_usd := mtm
  unrealized_usd := mtm - lot.cost_basis_usd
  best_bid := quote.bid
  best_ask := quote.ask
  title := if lot.title = "" then quote.title else lot.title
  first_seen_ts := now
  expiry_ts := lot.expiry_ts.or quote.expiry_ts
  mitigation_decision := none
  paired_qty := 0

/-- The side of a lot by the sign of its quantity. -/
def side_of (qty : ℚ) : Side := if 0 < qty then .yes else .no

/-- Every lot with its quote. The records are read first here: a quote has no effect. -/
def quoted (platform : String) (mtm : Lot → Quote → ℚ) (ask : Lot → Recon Quote) :
    List Lot → Recon (List StrandedPosition)
  | [] => return []
  | lot :: rest => do
      let quote ← ask lot
      let now ← .send Call.time
      let later ← quoted platform mtm ask rest
      return lot.position platform (side_of lot.qty) (mtm lot quote) quote now :: later

/-- A fetch: nothing without credentials, and nothing at all when the portfolio raises. -/
def fetch (platform : String) (portfolio : Recon (Option (List Lot))) (mtm : Lot → Quote → ℚ)
    (ask : Lot → Recon Quote) : Recon (Option (List StrandedPosition)) := do
  if ← .send (Call.configured platform) then
    match ← portfolio with
    | none => return none
    | some lots =>
        let positions ← quoted platform mtm ask lots
        return some positions
  else return some []

/-- A quote lookup, which may fail. -/
def quote_of (read : Json ℚ → Quote) (answer : Option (Json ℚ)) : Quote :=
  (answer.map read).getD .empty

/-- `_fetch_kalshi_positions`. -/
def fetch_kalshi_positions (cfg : Config) : Recon (Option (List StrandedPosition)) :=
  fetch "kalshi"
    (do return (← .send Call.kalshi_positions).bind (kalshi_lots cfg))
    (fun lot quote => lot.qty * quote.bid)
    (fun lot => do return quote_of (kalshi_quote cfg) (← .send (Call.kalshi_market lot.market_id)))

/-- `_fetch_polymarket_us_positions`. -/
def fetch_polymarket_us_positions (cfg : Config) : Recon (Option (List StrandedPosition)) :=
  if cfg.polymarket_us = false then .ret (some [])
  else
    fetch "polymarket"
      (do return (← .send Call.polymarket_positions).bind (polymarket_lots cfg))
      (fun lot _ => lot.mtm_usd)
      (fun lot => do return quote_of polymarket_quote (← .send (Call.polymarket_book lot.market_id)))

/-- `_fetch_forecastex_positions`. -/
def fetch_forecastex_positions (cfg : Config) : Recon (Option (List StrandedPosition)) :=
  fetch "forecastex"
    (do return (← .send Call.forecastex_positions).bind (forecastex_lots cfg))
    (fun lot _ => lot.mtm_usd)
    (fun lot => do
      return quote_of (forecastex_quote cfg) (← .send (Call.forecastex_snapshot lot.market_id)))

end Stranded
