import Mathlib.Tactic.Linarith
import Mathlib.Tactic.NormNum
import Arbiter.Framework.Json
import Arbiter.Framework.Text
import Arbiter.Adapters.PolymarketUs
import Arbiter.Scanner.Fees

/-! # The Price Collectors

  What Kalshi, Polymarket US and ForecastEx answer, as price points. Kalshi quotes in cents
  under some keys and in dollars under others, ForecastEx in either under the same keys;
  the collectors tell them apart by the size of the number.

  ## Contents

  - Section 1: the three collectors.
  - Section 2: the offers of a payload.
  - Section 3: one market in cents and in dollars.
  - Section 4: when every ask is an offer, and both spellings agree.
-/

namespace Collectors

open PolymarketUs (amount_value)

/-! ## Section 1: Collectors -/

/-- The entry of the market map, as it is where there is none. -/
structure MappingEntry where
  status : String := "candidate"
  mapping_score : ℚ := 0

/-- `PricePoint`, as it is built; its time and metadata are left out. -/
structure PricePoint where
  platform : String
  canonical_id : String
  yes_price : ℚ
  no_price : ℚ
  yes_volume : ℚ
  no_volume : ℚ
  raw_market_id : String
  yes_market_id : String
  no_market_id : String
  yes_bid : ℚ
  yes_ask : ℚ
  no_bid : ℚ
  no_ask : ℚ
  fee_rate : ℚ
  mapping_status : String
  mapping_score : ℚ
  deriving DecidableEq

/-- `a or b` -/
def num_or (a b : ℚ) : ℚ := if a ≠ 0 then a else b

/-! ### Kalshi -/

/-- `_safe_float`. -/
def safe_float (value : Json ℚ) : ℚ := value.float.getD 0

/-- `_normalize_price`. -/
def normalize_price (value : ℚ) : ℚ := if value ≠ 0 ∧ 1 < value then value / 100 else value

/-- `_market_float`. -/
def market_float (market : Json ℚ) : List String → ℚ
  | [] => 0
  | key :: keys =>
      let value := safe_float (market.get key)
      if value ≠ 0 then value else market_float market keys

/-- `KalshiCollector._build_price_point`. -/
def kalshi_price_point (spelled : Json ℚ → String) (canonical_id event_ticker : String)
    (mapping : MappingEntry) (market : Json ℚ) : Option PricePoint :=
  let yes_bid := normalize_price (market_float market ["yes_bid", "bid", "yes_bid_dollars"])
  let yes_ask := normalize_price (market_float market ["yes_ask", "ask", "yes_ask_dollars"])
  let no_bid := normalize_price (market_float market ["no_bid", "no_bid_dollars"])
  let no_ask := normalize_price (market_float market ["no_ask", "no_ask_dollars"])
  -- the ask is the price, and the bid stands in where there is none
  let yes_price := num_or yes_ask yes_bid
  let no_price := num_or no_ask (num_or no_bid 0)
  if yes_price = 0 ∧ no_price = 0 then none
  else
    let ticker := (market.getD "ticker" (.str event_ticker none)).text spelled
    some
      { platform := "kalshi"
        canonical_id
        yes_price
        no_price
        yes_volume :=
          market_float market ["yes_ask_size_fp", "yes_bid_size_fp", "volume_fp", "volume"]
        no_volume :=
          market_float market ["no_ask_size_fp", "no_bid_size_fp", "volume_fp", "volume"]
        raw_market_id := ticker
        yes_market_id := ticker
        no_market_id := ticker
        yes_bid
        yes_ask
        no_bid
        no_ask
        fee_rate := Scanner.kalshi_taker_fee_rate
        mapping_status := mapping.status
        mapping_score := mapping.mapping_score }

/-! ### Polymarket US -/

/-- `list(v or [])`, where that does not raise and its levels are objects. -/
def levels (v : Json ℚ) : Option (List (Json ℚ)) :=
  if v.truthy = false then some []
  else
    match v with
    | .arr items => if items.all Json.is_obj then some items else none
    | _ => none

/-- `_level_qty`. -/
def level_qty (levels : List (Json ℚ)) : ℚ :=
  ((levels.take 5).map fun level => ((level.getD "qty" (.num 0)).float).getD 0).sum

/-- The states of a market that is not traded. -/
def closed_states : List String :=
  ["closed", "resolved", "settled", "suspended", "halted", "expired", "finalized"]

/-- The price of a level. -/
def level_px (level : Json ℚ) : ℚ := amount_value (level.get "px")

/-- The price of the first level, 0 if there is none. -/
def first_px (levels : List (Json ℚ)) : ℚ := (levels.head?.map level_px).getD 0

/-- `current_px`: the last trade, where the venue tells no current price. -/
def current_px (stats : Json ℚ) : ℚ :=
  amount_value ((stats.get "currentPx").orElse (stats.get "lastTradePx"))

/-- `POLYMARKET_DEFAULT_TAKER_FEE_RATE`. -/
def polymarket_default_taker_fee_rate : ℚ := 5 / 100

/-- The book of a market: its levels and what was last traded. -/
structure Book where
  bids : List (Json ℚ)
  offers : List (Json ℚ)
  stats : Json ℚ

/-- The open book of an answer, if there is one and reading it does not raise. -/
def open_book (spelled : Json ℚ → String) (market_book : Json ℚ) : Option Book :=
  let market_data := if market_book.is_obj then market_book.get "marketData" else .null
  if market_data.is_obj = false then none
  else
    match levels (market_data.get "bids"), levels (market_data.get "offers") with
    | some bids, some offers =>
        let stats := (market_data.get "stats").orElse (.obj [])
        let state := ((market_data.getD "state" (.str "" none)).orElse (.str "" none)).text spelled
        if (Text.strip state).toLower ∈ closed_states then none
        else if bids = [] ∧ offers = [] then none
        else if stats.is_obj = false then none
        else some ⟨bids, offers, stats⟩
    | _, _ => none

/-- The prices of an open book: each side is marked at its ask. -/
def Book.yes_price (book : Book) : ℚ :=
  num_or (first_px book.offers) (num_or (current_px book.stats) (first_px book.bids))

def Book.no_ask (book : Book) : ℚ :=
  let yes_bid := first_px book.bids
  if yes_bid ≠ 0 then 1 - yes_bid else max (1 - current_px book.stats) 0

def Book.no_price (book : Book) : ℚ := num_or book.no_ask (max (1 - book.yes_price) 0)

/-- The price point of an open book, where one of its prices is positive. -/
def Book.price_point (book : Book) (canonical_id slug : String) (mapping : MappingEntry) :
    Option PricePoint :=
  let yes_bid := first_px book.bids
  let yes_ask := first_px book.offers
  -- the book is of YES, and NO is what it leaves of a dollar
  let no_bid := if yes_ask ≠ 0 then 1 - yes_ask else 0
  if book.yes_price ≤ 0 ∧ book.no_price ≤ 0 then none
  else
    some
      { platform := "polymarket"
        canonical_id
        yes_price := book.yes_price
        no_price := book.no_price
        yes_volume := num_or (level_qty book.offers) (level_qty book.bids)
        no_volume := num_or (level_qty book.bids) (level_qty book.offers)
        raw_market_id := slug
        yes_market_id := slug
        no_market_id := slug
        yes_bid
        yes_ask := num_or yes_ask (current_px book.stats)
        no_bid
        no_ask := book.no_ask
        fee_rate := polymarket_default_taker_fee_rate
        mapping_status := mapping.status
        mapping_score := mapping.mapping_score }

/-- `PolymarketUSCollector._build_price_point`. -/
def polymarket_us_price_point (spelled : Json ℚ → String) (canonical_id slug : String)
    (mapping : MappingEntry) (market_book : Json ℚ) : Option PricePoint :=
  (open_book spelled market_book).bind fun book => book.price_point canonical_id slug mapping

/-! ### ForecastEx -/

/-- `FORECASTEX_TAKER_FEE_PER_CONTRACT`. -/
def forecastex_taker_fee_per_contract : ℚ := 5 / 1000

/-- `_amount_value`: a price may start with a `C` or an `H`. `float_text` reads a text. -/
def snapshot_value (float_text : String → Option ℚ) (value : Json ℚ) : ℚ :=
  match if value.is_obj then value.get "value" else value with
  | .str s _ =>
      let bare := s.toList.dropWhile fun c => c ∈ ['C', 'H', 'c', ' ', 'h']
      (float_text (Text.strip (String.ofList bare))).getD 0
  | v => v.float.getD 0

/-- `_to_dollars`. -/
def to_dollars (value : ℚ) : ℚ :=
  if value ≤ 0 then 0
  else if 1 < value then max 0 (min (value / 100) 1)
  else max 0 (min value 1)

/-- The NO side: its contract, and the snapshot of it. -/
def no_side (no_conid : Option String) (no_snapshot : Option (Json ℚ)) :
    Option (String × Json ℚ) :=
  match no_conid, no_snapshot with
  | some conid, some snapshot =>
      if conid ≠ "" ∧ snapshot.truthy then some (conid, snapshot) else none
  | _, _ => none

/-- `ForecastExCollector._build_price_point`. -/
def forecastex_price_point (float_text : String → Option ℚ) (canonical_id yes_conid : String)
    (mapping : MappingEntry) (yes_snapshot : Json ℚ) (no_conid : Option String)
    (no_snapshot : Option (Json ℚ)) : Option PricePoint :=
  let field (snapshot : Json ℚ) (key : String) := snapshot_value float_text (snapshot.get key)
  let yes_bid := to_dollars (field yes_snapshot "84")
  let yes_ask := to_dollars (field yes_snapshot "86")
  let yes_price := num_or yes_ask yes_bid
  if yes_price ≤ 0 then none
  else
    let no := no_side no_conid no_snapshot
    let no_key (key : String) := (no.map fun side => field side.2 key).getD 0
    let no_bid := to_dollars (no_key "84")
    let no_ask := to_dollars (no_key "86")
    some
      { platform := "forecastex"
        canonical_id
        yes_price
        no_price := num_or no_ask no_bid
        yes_volume := num_or (field yes_snapshot "7296") (field yes_snapshot "7295")
        no_volume := num_or (no_key "7296") (no_key "7295")
        raw_market_id := yes_conid
        yes_market_id := yes_conid
        -- The id is kept only with a quote of its own.
        no_market_id :=
          if 0 < no_bid ∨ 0 < no_ask then (no.map Prod.fst).getD "" else ""
        yes_bid
        yes_ask
        no_bid
        no_ask
        fee_rate := forecastex_taker_fee_per_contract
        mapping_status := mapping.status
        mapping_score := mapping.mapping_score }

/-! ## Section 2: Offers -/

/-- What a number counts in. -/
inductive PriceUnit
  | cents
  | dollars
  deriving DecidableEq

/-- A number of the unit, in dollars. -/
def PriceUnit.dollars_of (unit : PriceUnit) (value : ℚ) : ℚ :=
  match unit with
  | .cents => value / 100
  | .dollars => value

/-- A ForecastEx snapshot pair, and the unit it is quoted in. -/
structure SnapshotPair where
  unit : PriceUnit
  yes_snapshot : Json ℚ
  no_conid : Option String
  no_snapshot : Option (Json ℚ)

/-- A payload of a venue. -/
inductive Payload
  | kalshi (market : Json ℚ)
  | polymarket_us (market_book : Json ℚ)
  | forecastex (pair : SnapshotPair)

/-- The keys of an ask at Kalshi in cents, and the one in dollars. -/
def kalshi_ask_keys : Bool → List String × String
  | true => (["yes_ask", "ask"], "yes_ask_dollars")
  | false => (["no_ask"], "no_ask_dollars")

/-- What a Kalshi market offers under the keys, in dollars. -/
def kalshi_offers (market : Json ℚ) (keys : List String × String) : List ℚ :=
  (keys.1.map fun key => safe_float (market.get key) / 100) ++ [safe_float (market.get keys.2)]

section asks

variable (spelled : Json ℚ → String) (float_text : String → Option ℚ)

/-- The raw ask and bid of a snapshot. -/
def raw_ask (snapshot : Json ℚ) : ℚ := snapshot_value float_text (snapshot.get "86")

def raw_bid (snapshot : Json ℚ) : ℚ := snapshot_value float_text (snapshot.get "84")

/-- The NO snapshot that is read. -/
def SnapshotPair.no (pair : SnapshotPair) : Option (Json ℚ) :=
  (no_side pair.no_conid pair.no_snapshot).map Prod.snd

/-- The price point that is published, whatever the market and its entry in the map. -/
def Payload.published (canonical_id market_id : String) (mapping : MappingEntry) :
    Payload → Option PricePoint
  | .kalshi market => kalshi_price_point spelled canonical_id market_id mapping market
  | .polymarket_us market_book =>
      polymarket_us_price_point spelled canonical_id market_id mapping market_book
  | .forecastex pair =>
      forecastex_price_point float_text canonical_id market_id mapping pair.yes_snapshot
        pair.no_conid pair.no_snapshot

/-- The offers of YES, in dollars. -/
def Payload.OffersYes (price : ℚ) : Payload → Prop
  | .kalshi market => price ∈ kalshi_offers market (kalshi_ask_keys true)
  | .polymarket_us market_book => ∃ book, open_book spelled market_book = some book ∧
      ∃ offer ∈ book.offers, level_px offer = price
  | .forecastex pair => pair.unit.dollars_of (raw_ask float_text pair.yes_snapshot) = price

/-- The offers of NO, in dollars. A bid for YES offers NO. -/
def Payload.OffersNo (price : ℚ) : Payload → Prop
  | .kalshi market => price ∈ kalshi_offers market (kalshi_ask_keys false)
  | .polymarket_us market_book => ∃ book, open_book spelled market_book = some book ∧
      ∃ bid ∈ book.bids, 0 < level_px bid ∧ 1 - level_px bid = price
  | .forecastex pair => ∃ no, pair.no = some no ∧
      pair.unit.dollars_of (raw_ask float_text no) = price

/-- Every positive ask that is published is an offer of the payload. -/
def Payload.AsksAreOffers (payload : Payload) : Prop :=
  ∀ canonical_id market_id mapping p,
    payload.published spelled float_text canonical_id market_id mapping = some p →
      (0 < p.yes_ask → payload.OffersYes spelled float_text p.yes_ask) ∧
        (0 < p.no_ask → payload.OffersNo spelled float_text p.no_ask)

/-! ### When an ask is read right -/

/-- A Kalshi ask in cents is over one cent, or by chance an offer in dollars too; one in
    dollars is at most one. -/
def KalshiReadable (market : Json ℚ) (keys : List String × String) : Prop :=
  let in_cents := market_float market keys.1
  if in_cents ≠ 0 then
    in_cents ≤ 0 ∨ 1 < in_cents ∨ in_cents ∈ kalshi_offers market keys
  else safe_float (market.get keys.2) ≤ 1

instance (market : Json ℚ) (keys : List String × String) :
    Decidable (KalshiReadable market keys) := by
  unfold KalshiReadable
  infer_instance

/-- The first level of each side has a price, or the last trade says nothing in its place:
    it is by chance the price of a later level, or too high for a NO. -/
structure Book.Readable (book : Book) : Prop where
  yes : first_px book.offers ≠ 0 ∨ current_px book.stats ≤ 0 ∨
    ∃ offer ∈ book.offers, level_px offer = current_px book.stats
  no : 0 < first_px book.bids ∨ first_px book.bids = 0 ∧
    (1 ≤ current_px book.stats ∨
      ∃ bid ∈ book.bids, 0 < level_px bid ∧ level_px bid = current_px book.stats)

/-- A number in cents is over one and at most a hundred, one in dollars at most one. -/
def PriceUnit.Readable (unit : PriceUnit) (value : ℚ) : Prop :=
  value ≤ 0 ∨
    match unit with
    | .cents => 1 < value ∧ value ≤ 100
    | .dollars => value ≤ 1

/-- Both snapshots are, or there is no quote of YES. -/
def SnapshotPair.Readable (pair : SnapshotPair) : Prop :=
  raw_ask float_text pair.yes_snapshot ≤ 0 ∧ raw_bid float_text pair.yes_snapshot ≤ 0 ∨
    pair.unit.Readable (raw_ask float_text pair.yes_snapshot) ∧
      ∀ no, pair.no = some no → pair.unit.Readable (raw_ask float_text no)

/-- The asks of the payload are read right. -/
def Payload.Readable : Payload → Prop
  | .kalshi market => ∀ yes, KalshiReadable market (kalshi_ask_keys yes)
  | .polymarket_us market_book =>
      ∀ book, open_book spelled market_book = some book → book.Readable
  | .forecastex pair => pair.Readable float_text

end asks

/-! ### Kalshi -/

section kalshi

variable {market : Json ℚ} {keys : List String}

theorem num_or_eq_zero {a b : ℚ} : num_or a b = 0 ↔ a = 0 ∧ b = 0 := by
  unfold num_or
  split
  · next ha => exact ⟨fun h => absurd h ha, fun h => absurd h.1 ha⟩
  · next ha => exact ⟨fun h => ⟨not_not.mp ha, h⟩, fun h => h.2⟩

theorem market_float_cons (key : String) :
    market_float market (key :: keys) =
      if safe_float (market.get key) ≠ 0 then safe_float (market.get key)
      else market_float market keys := rfl

theorem market_float_eq_zero_iff :
    market_float market keys = 0 ↔ ∀ key ∈ keys, safe_float (market.get key) = 0 := by
  induction keys with
  | nil => simp [market_float]
  | cons key keys ih =>
    rw [market_float_cons]
    by_cases hvalue : safe_float (market.get key) = 0
    · simp [hvalue, ih]
    · simp [hvalue]

/-- The number that is taken stands under one of the keys. -/
theorem market_float_mem (h : market_float market keys ≠ 0) :
    ∃ key ∈ keys, safe_float (market.get key) = market_float market keys := by
  induction keys with
  | nil => exact absurd rfl h
  | cons key keys ih =>
    rw [market_float_cons] at h ⊢
    by_cases hvalue : safe_float (market.get key) = 0
    · simp only [hvalue, ne_eq, not_true_eq_false, if_false] at h ⊢
      obtain ⟨other, hother, heq⟩ := ih h
      exact ⟨other, List.mem_cons_of_mem _ hother, heq⟩
    · exact ⟨key, List.mem_cons_self, by simp [hvalue]⟩

theorem market_float_append (more : List String) :
    market_float market (keys ++ more) =
      if market_float market keys ≠ 0 then market_float market keys
      else market_float market more := by
  induction keys with
  | nil => rfl
  | cons key keys ih =>
    rw [List.cons_append, market_float_cons, market_float_cons]
    by_cases hvalue : safe_float (market.get key) = 0
    · simp only [hvalue, ne_eq, not_true_eq_false, if_false]
      exact ih
    · simp [hvalue]

theorem market_float_single (key : String) :
    market_float market [key] = safe_float (market.get key) := by
  rw [market_float_cons]
  by_cases hvalue : safe_float (market.get key) = 0
  · simp [hvalue, market_float]
  · simp [hvalue]

theorem normalize_price_of_le {value : ℚ} (h : value ≤ 1) : normalize_price value = value :=
  if_neg fun hboth => absurd hboth.2 (not_lt.mpr h)

theorem normalize_price_of_gt {value : ℚ} (h : 1 < value) :
    normalize_price value = value / 100 :=
  if_pos ⟨(zero_lt_one.trans h).ne', h⟩

theorem normalize_price_eq_zero {value : ℚ} : normalize_price value = 0 ↔ value = 0 := by
  obtain hle | hgt := le_or_gt value 1
  · rw [normalize_price_of_le hle]
  · rw [normalize_price_of_gt hgt, div_eq_zero_iff]
    norm_num

/-- The ask of Kalshi is an offer exactly where it is read right. -/
theorem kalshi_ask_offered_iff (market : Json ℚ) (keys : List String × String) :
    (0 < normalize_price (market_float market (keys.1 ++ [keys.2])) →
      normalize_price (market_float market (keys.1 ++ [keys.2])) ∈ kalshi_offers market keys) ↔
        KalshiReadable market keys := by
  unfold KalshiReadable
  rw [market_float_append, market_float_single]
  by_cases hcents : market_float market keys.1 = 0
  · -- only the dollars count
    simp only [hcents, ne_eq, not_true_eq_false, if_false]
    have hzero := market_float_eq_zero_iff.mp hcents
    obtain hle | hgt := le_or_gt (safe_float (market.get keys.2)) 1
    · refine ⟨fun _ => hle, fun _ _ => ?_⟩
      rw [normalize_price_of_le hle]
      exact List.mem_append_right _ (List.mem_singleton.mpr rfl)
    · rw [normalize_price_of_gt hgt]
      refine ⟨fun hoffered => ?_, fun hle => absurd hle (not_le.mpr hgt)⟩
      have hpos : 0 < safe_float (market.get keys.2) / 100 := by linarith
      obtain hin | hlast := List.mem_append.mp (hoffered hpos)
      · obtain ⟨key, hkey, heq⟩ := List.mem_map.mp hin
        rw [hzero key hkey, zero_div] at heq
        exact absurd heq hpos.ne
      · have heq := List.mem_singleton.mp hlast
        linarith
  · simp only [ne_eq, hcents, not_false_eq_true, if_true]
    obtain hle | hgt := le_or_gt (market_float market keys.1) 1
    · rw [normalize_price_of_le hle]
      constructor
      · intro hoffered
        obtain hneg | hpos := le_or_gt (market_float market keys.1) 0
        · exact .inl hneg
        · exact .inr (.inr (hoffered hpos))
      · rintro (hneg | hover | hin) hpos
        · exact absurd hpos (not_lt.mpr hneg)
        · exact absurd hover (not_lt.mpr hle)
        · exact hin
    · rw [normalize_price_of_gt hgt]
      refine ⟨fun _ => .inr (.inl hgt), fun _ _ => ?_⟩
      obtain ⟨key, hkey, heq⟩ := market_float_mem hcents
      exact List.mem_append_left _ (List.mem_map.mpr ⟨key, hkey, by rw [heq]⟩)

theorem kalshi_asks_iff (spelled : Json ℚ → String) (float_text : String → Option ℚ) :
    (Payload.kalshi market).AsksAreOffers spelled float_text ↔
      (Payload.kalshi market).Readable spelled float_text := by
  have hyes := kalshi_ask_offered_iff market (kalshi_ask_keys true)
  have hno := kalshi_ask_offered_iff market (kalshi_ask_keys false)
  constructor
  · intro hasks
    have hboth := hasks "" "" {}
    unfold Payload.published kalshi_price_point at hboth
    dsimp only at hboth
    split at hboth
    · -- nothing is published, both asks are zero
      next hnone =>
      rintro (_ | _)
      · exact hno.mp fun hpos => absurd (num_or_eq_zero.mp hnone.2).1 hpos.ne'
      · exact hyes.mp fun hpos => absurd (num_or_eq_zero.mp hnone.1).1 hpos.ne'
    · rintro (_ | _)
      · exact hno.mp (hboth _ rfl).2
      · exact hyes.mp (hboth _ rfl).1
  · intro hreadable canonical_id market_id mapping p hp
    unfold Payload.published kalshi_price_point at hp
    dsimp only at hp
    split at hp
    · cases hp
    · cases hp
      exact ⟨hyes.mpr (hreadable true), hno.mpr (hreadable false)⟩

end kalshi

/-! ### Polymarket US -/

section polymarket_us

variable {book : Book}

theorem num_or_of_ne {a b : ℚ} (h : a ≠ 0) : num_or a b = a := if_pos h

@[simp] theorem num_or_zero (b : ℚ) : num_or 0 b = b := if_neg (not_not.mpr rfl)

/-- A first price other than 0 is the price of a level. -/
theorem first_px_mem {levels : List (Json ℚ)} (h : first_px levels ≠ 0) :
    ∃ level ∈ levels, level_px level = first_px levels := by
  cases levels with
  | nil => exact absurd rfl h
  | cons level levels => exact ⟨level, List.mem_cons_self, rfl⟩

/-- The ask of YES is an offer of the book, unless the last trade stands in for it. -/
theorem book_yes_ask_iff :
    (0 < num_or (first_px book.offers) (current_px book.stats) →
      ∃ offer ∈ book.offers,
        level_px offer = num_or (first_px book.offers) (current_px book.stats)) ↔
      (first_px book.offers ≠ 0 ∨ current_px book.stats ≤ 0 ∨
        ∃ offer ∈ book.offers, level_px offer = current_px book.stats) := by
  by_cases hfirst : first_px book.offers = 0
  · rw [hfirst, num_or_zero]
    constructor
    · intro hoffered
      obtain hle | hgt := le_or_gt (current_px book.stats) 0
      · exact .inr (.inl hle)
      · exact .inr (.inr (hoffered hgt))
    · rintro (hne | hle | hin) hpos
      · exact absurd rfl hne
      · exact absurd hpos (not_lt.mpr hle)
      · exact hin
  · rw [num_or_of_ne hfirst]
    exact ⟨fun _ => .inl hfirst, fun _ _ => first_px_mem hfirst⟩

/-- The ask of NO is what a positive bid leaves, unless the last trade stands in for it. -/
theorem book_no_ask_iff :
    (0 < book.no_ask → ∃ bid ∈ book.bids, 0 < level_px bid ∧ 1 - level_px bid = book.no_ask) ↔
      (0 < first_px book.bids ∨ first_px book.bids = 0 ∧
        (1 ≤ current_px book.stats ∨
          ∃ bid ∈ book.bids, 0 < level_px bid ∧ level_px bid = current_px book.stats)) := by
  by_cases hfirst : first_px book.bids = 0
  -- the last trade stands in for a bid that is missing or zero
  · have hask : book.no_ask = max (1 - current_px book.stats) 0 := if_neg (not_not.mpr hfirst)
    rw [hask, hfirst]
    obtain hge | hlt := le_or_gt 1 (current_px book.stats)
    · rw [max_eq_right (by linarith)]
      exact ⟨fun _ => .inr ⟨rfl, .inl hge⟩, fun _ hpos => absurd hpos (lt_irrefl _)⟩
    · rw [max_eq_left (by linarith)]
      constructor
      · intro hoffered
        obtain ⟨bid, hbid, hpos, heq⟩ := hoffered (by linarith)
        exact .inr ⟨rfl, .inr ⟨bid, hbid, hpos, by linarith⟩⟩
      · rintro (hpos | ⟨-, hge | ⟨bid, hbid, hpos, heq⟩⟩) _
        · exact absurd hpos (lt_irrefl _)
        · exact absurd hlt (not_lt.mpr hge)
        · exact ⟨bid, hbid, hpos, by rw [heq]⟩
  · have hask : book.no_ask = 1 - first_px book.bids := if_pos hfirst
    rw [hask]
    obtain ⟨level, hlevel, hpx⟩ := first_px_mem hfirst
    constructor
    · intro hoffered
      by_contra hneg
      have hle : first_px book.bids ≤ 0 := not_lt.mp fun hpos => hneg (.inl hpos)
      obtain ⟨bid, -, hpos, heq⟩ := hoffered (by linarith)
      linarith
    · rintro (hpos | ⟨hzero, -⟩) _
      · exact ⟨level, hlevel, hpx ▸ hpos, by rw [hpx]⟩
      · exact absurd hzero hfirst

/-- Nothing is published only where there is no positive ask. -/
theorem no_asks_of_no_prices {a b c no_ask d : ℚ}
    (hyes : num_or a (num_or c b) ≤ 0) (hno : num_or no_ask d ≤ 0) :
    num_or a c ≤ 0 ∧ no_ask ≤ 0 := by
  constructor
  · by_cases ha : a = 0
    · rw [ha, num_or_zero] at hyes ⊢
      by_cases hc : c = 0
      · exact hc.le
      · rwa [num_or_of_ne hc] at hyes
    · rw [num_or_of_ne ha] at hyes ⊢
      exact hyes
  · by_cases hask : no_ask = 0
    · exact hask.le
    · rwa [num_or_of_ne hask] at hno

theorem polymarket_us_asks_iff {market_book : Json ℚ} (spelled : Json ℚ → String)
    (float_text : String → Option ℚ) :
    (Payload.polymarket_us market_book).AsksAreOffers spelled float_text ↔
      (Payload.polymarket_us market_book).Readable spelled float_text := by
  constructor
  · intro hasks book hbook
    by_cases hnone : book.yes_price ≤ 0 ∧ book.no_price ≤ 0
    · obtain ⟨hyes, hno⟩ := no_asks_of_no_prices hnone.1 hnone.2
      exact ⟨book_yes_ask_iff.mp fun hpos => absurd hpos (not_lt.mpr hyes),
        book_no_ask_iff.mp fun hpos => absurd hpos (not_lt.mpr hno)⟩
    · have hboth := hasks "" "" {}
      simp only [Payload.published, polymarket_us_price_point, hbook, Option.bind_some,
        Book.price_point, if_neg hnone] at hboth
      have hp := hboth _ rfl
      simp only [Payload.OffersYes, Payload.OffersNo, hbook, Option.some_inj,
        exists_eq_left'] at hp
      exact ⟨book_yes_ask_iff.mp hp.1, book_no_ask_iff.mp hp.2⟩
  · intro hreadable canonical_id market_id mapping p hp
    obtain ⟨book, hbook, hp⟩ := Option.bind_eq_some_iff.mp hp
    by_cases hnone : book.yes_price ≤ 0 ∧ book.no_price ≤ 0
    · rw [Book.price_point, if_pos hnone] at hp
      cases hp
    · rw [Book.price_point, if_neg hnone] at hp
      cases hp
      refine ⟨fun hpos => ⟨book, hbook, ?_⟩, fun hpos => ⟨book, hbook, ?_⟩⟩
      · exact book_yes_ask_iff.mpr (hreadable book hbook).yes hpos
      · exact book_no_ask_iff.mpr (hreadable book hbook).no hpos

end polymarket_us

/-! ### ForecastEx -/

section forecastex

theorem to_dollars_nonneg (value : ℚ) : 0 ≤ to_dollars value := by
  unfold to_dollars
  split_ifs
  · exact le_rfl
  · exact le_max_left _ _
  · exact le_max_left _ _

theorem to_dollars_of_nonpos {value : ℚ} (h : value ≤ 0) : to_dollars value = 0 := if_pos h

theorem to_dollars_of_le {value : ℚ} (hpos : 0 < value) (h : value ≤ 1) :
    to_dollars value = value := by
  unfold to_dollars
  rw [if_neg (not_le.mpr hpos), if_neg (not_lt.mpr h), min_eq_left h, max_eq_right hpos.le]

theorem to_dollars_of_gt {value : ℚ} (h : 1 < value) : to_dollars value = min (value / 100) 1 := by
  have hpos : 0 ≤ min (value / 100) 1 := le_min (by linarith) zero_le_one
  unfold to_dollars
  rw [if_neg (by linarith), if_pos h, max_eq_right hpos]

theorem to_dollars_pos {value : ℚ} (h : 0 < value) : 0 < to_dollars value := by
  obtain hle | hgt := le_or_gt value 1
  · rwa [to_dollars_of_le h hle]
  · rw [to_dollars_of_gt hgt]
    exact lt_min (by linarith) zero_lt_one

/-- A number is read as a price in its unit exactly where its size tells the unit. -/
theorem to_dollars_iff (unit : PriceUnit) (value : ℚ) :
    (0 < to_dollars value → unit.dollars_of value = to_dollars value) ↔
      unit.Readable value := by
  unfold PriceUnit.Readable
  obtain hneg | hpos := le_or_gt value 0
  · rw [to_dollars_of_nonpos hneg]
    exact ⟨fun _ => .inl hneg, fun _ h => absurd h (lt_irrefl _)⟩
  · have hread : (0 < to_dollars value → unit.dollars_of value = to_dollars value) ↔
        unit.dollars_of value = to_dollars value :=
      ⟨fun h => h (to_dollars_pos hpos), fun h _ => h⟩
    rw [hread, or_iff_right (not_le.mpr hpos)]
    obtain hle | hgt := le_or_gt value 1
    · rw [to_dollars_of_le hpos hle]
      cases unit with
      | cents =>
        refine ⟨fun h => ?_, fun h => absurd h.1 (not_lt.mpr hle)⟩
        have heq : value / 100 = value := h
        linarith
      | dollars => exact ⟨fun _ => hle, fun _ => rfl⟩
    · rw [to_dollars_of_gt hgt]
      cases unit with
      | cents =>
        show value / 100 = min (value / 100) 1 ↔ 1 < value ∧ value ≤ 100
        rw [eq_comm, min_eq_left_iff, div_le_one (by norm_num)]
        exact ⟨fun h => ⟨hgt, h⟩, fun h => h.2⟩
      | dollars =>
        show value = min (value / 100) 1 ↔ value ≤ 1
        refine ⟨fun h => h.trans_le (min_le_right _ _), fun h => absurd hgt (not_lt.mpr h)⟩

theorem to_dollars_eq_zero {value : ℚ} : to_dollars value = 0 ↔ value ≤ 0 :=
  ⟨fun h => not_lt.mp fun hpos => (to_dollars_pos hpos).ne' h, to_dollars_of_nonpos⟩

/-- There is no price of YES exactly where neither number is positive. -/
theorem no_yes_price_iff {ask bid : ℚ} :
    num_or (to_dollars ask) (to_dollars bid) ≤ 0 ↔ ask ≤ 0 ∧ bid ≤ 0 := by
  have hnonneg : 0 ≤ num_or (to_dollars ask) (to_dollars bid) := by
    unfold num_or
    split
    · exact to_dollars_nonneg ask
    · exact to_dollars_nonneg bid
  have hzero : num_or (to_dollars ask) (to_dollars bid) ≤ 0 ↔
      num_or (to_dollars ask) (to_dollars bid) = 0 :=
    ⟨fun h => le_antisymm h hnonneg, fun h => h.le⟩
  rw [hzero, num_or_eq_zero, to_dollars_eq_zero, to_dollars_eq_zero]

/-- A number of the NO side, 0 where there is none. -/
def SnapshotPair.no_number (float_text : String → Option ℚ) (pair : SnapshotPair) (key : String) :
    ℚ :=
  ((no_side pair.no_conid pair.no_snapshot).map fun side =>
    snapshot_value float_text (side.2.get key)).getD 0

/-- The ask of NO is an offer exactly where the NO side is read right, if there is one. -/
theorem no_ask_iff (float_text : String → Option ℚ) (pair : SnapshotPair) :
    (0 < to_dollars (pair.no_number float_text "86") → ∃ no, pair.no = some no ∧
      pair.unit.dollars_of (raw_ask float_text no) =
        to_dollars (pair.no_number float_text "86")) ↔
      ∀ no, pair.no = some no → pair.unit.Readable (raw_ask float_text no) := by
  unfold SnapshotPair.no SnapshotPair.no_number
  cases no_side pair.no_conid pair.no_snapshot with
  | none =>
    refine ⟨fun _ no hno => (nomatch hno), fun _ hpos => ?_⟩
    exact absurd hpos (not_lt.mpr (to_dollars_of_nonpos le_rfl).le)
  | some side =>
    simp only [Option.map_some, Option.getD_some, Option.some_inj, exists_eq_left', forall_eq']
    exact to_dollars_iff pair.unit (raw_ask float_text side.2)

theorem forecastex_asks_iff {pair : SnapshotPair} (spelled : Json ℚ → String)
    (float_text : String → Option ℚ) :
    (Payload.forecastex pair).AsksAreOffers spelled float_text ↔
      (Payload.forecastex pair).Readable spelled float_text := by
  have hyes := to_dollars_iff pair.unit (raw_ask float_text pair.yes_snapshot)
  have hno := no_ask_iff float_text pair
  by_cases hnone : num_or (to_dollars (raw_ask float_text pair.yes_snapshot))
      (to_dollars (raw_bid float_text pair.yes_snapshot)) ≤ 0
  · refine ⟨fun _ => .inl (no_yes_price_iff.mp hnone), ?_⟩
    intro _ canonical_id market_id mapping p hp
    rw [show (Payload.forecastex pair).published spelled float_text canonical_id market_id mapping =
      none from if_pos hnone] at hp
    cases hp
  · have hquoted := fun h => hnone (no_yes_price_iff.mpr h)
    constructor
    · intro hasks
      obtain ⟨hasks_yes, hasks_no⟩ := hasks "" "" {} _ (if_neg hnone)
      exact .inr ⟨hyes.mp hasks_yes, hno.mp hasks_no⟩
    · intro hreadable canonical_id market_id mapping p hp
      obtain ⟨hread_yes, hread_no⟩ := hreadable.resolve_left hquoted
      obtain rfl := Option.some_inj.mp ((if_neg hnone).symm.trans hp)
      exact ⟨hyes.mpr hread_yes, hno.mpr hread_no⟩

end forecastex

/-- Which payloads have their asks published as what they are. -/
theorem payload_asks_iff (spelled : Json ℚ → String) (float_text : String → Option ℚ)
    (payload : Payload) :
    payload.AsksAreOffers spelled float_text ↔ payload.Readable spelled float_text := by
  cases payload with
  | kalshi market => exact kalshi_asks_iff spelled float_text
  | polymarket_us market_book => exact polymarket_us_asks_iff spelled float_text
  | forecastex pair => exact forecastex_asks_iff spelled float_text

/-! ## Section 3: Two spellings of a market -/

/-- A price of a contract that pays a dollar. -/
abbrev Price := Set.Icc (0 : ℚ) 1

/-- What a market quotes; a quote may be missing. -/
structure MarketQuotes where
  yes_bid : Option Price
  yes_ask : Option Price
  no_bid : Option Price
  no_ask : Option Price

/-- The number of a price in a unit. -/
def PriceUnit.number (unit : PriceUnit) (price : ℚ) : ℚ :=
  match unit with
  | .cents => 100 * price
  | .dollars => price

/-- A quote in a unit. -/
def PriceUnit.spell (unit : PriceUnit) : Option Price → Json ℚ
  | none => .null
  | some price => .num (unit.number price)

/-- A quote as a number, 0 where it is missing. -/
def price_or_zero (quote : Option Price) : ℚ := (quote.map Subtype.val).getD 0

/-- The market at Kalshi. -/
def kalshi_market (quotes : MarketQuotes) : PriceUnit → Json ℚ
  | .cents => .obj
      [("yes_bid", PriceUnit.cents.spell quotes.yes_bid),
        ("yes_ask", PriceUnit.cents.spell quotes.yes_ask),
        ("no_bid", PriceUnit.cents.spell quotes.no_bid),
        ("no_ask", PriceUnit.cents.spell quotes.no_ask)]
  | .dollars => .obj
      [("yes_bid_dollars", PriceUnit.dollars.spell quotes.yes_bid),
        ("yes_ask_dollars", PriceUnit.dollars.spell quotes.yes_ask),
        ("no_bid_dollars", PriceUnit.dollars.spell quotes.no_bid),
        ("no_ask_dollars", PriceUnit.dollars.spell quotes.no_ask)]

/-- A side of it at ForecastEx. -/
def snapshot_of (unit : PriceUnit) (bid ask : Option Price) : Json ℚ :=
  .obj [("84", unit.spell bid), ("86", unit.spell ask)]

/-- The market at ForecastEx, with its NO contract where it is known. -/
def forecastex_market (quotes : MarketQuotes) (no_conid : Option String) (unit : PriceUnit) :
    SnapshotPair where
  unit := unit
  yes_snapshot := snapshot_of unit quotes.yes_bid quotes.yes_ask
  no_conid := no_conid
  no_snapshot := some (snapshot_of unit quotes.no_bid quotes.no_ask)

/-- The prices of a price point. -/
def PricePoint.prices (p : PricePoint) : List ℚ :=
  [p.yes_price, p.no_price, p.yes_bid, p.yes_ask, p.no_bid, p.no_ask]

/-- A market at a venue that quotes in both units. -/
inductive TwoUnits
  | kalshi
  | forecastex (no_conid : Option String)

/-- The payload of the market in a unit. -/
def TwoUnits.payload (quotes : MarketQuotes) (unit : PriceUnit) : TwoUnits → Payload
  | .kalshi => .kalshi (kalshi_market quotes unit)
  | .forecastex no_conid => .forecastex (forecastex_market quotes no_conid unit)

/-- Both spellings of the market have the same prices. -/
def TwoUnits.SamePrices (spelled : Json ℚ → String) (float_text : String → Option ℚ)
    (venue : TwoUnits) (quotes : MarketQuotes) : Prop :=
  ∀ canonical_id market_id mapping,
    ((venue.payload quotes .cents).published spelled float_text canonical_id market_id
        mapping).map PricePoint.prices =
      ((venue.payload quotes .dollars).published spelled float_text canonical_id market_id
        mapping).map PricePoint.prices

/-- A quote is missing, zero, or over one cent. -/
def OverACent (quote : Option Price) : Prop :=
  price_or_zero quote = 0 ∨ 1 / 100 < price_or_zero quote

/-- The NO contract is known. -/
def KnownNo (no_conid : Option String) : Prop := ∃ conid, no_conid = some conid ∧ conid ≠ ""

/-- The quotes that are read are over one cent, or missing or zero. -/
def TwoUnits.Tellable (quotes : MarketQuotes) : TwoUnits → Prop
  | .kalshi => OverACent quotes.yes_bid ∧ OverACent quotes.yes_ask ∧
      OverACent quotes.no_bid ∧ OverACent quotes.no_ask
  | .forecastex no_conid =>
      price_or_zero quotes.yes_bid = 0 ∧ price_or_zero quotes.yes_ask = 0 ∨
        OverACent quotes.yes_bid ∧ OverACent quotes.yes_ask ∧
          (KnownNo no_conid → OverACent quotes.no_bid ∧ OverACent quotes.no_ask)

section spellings

variable {quotes : MarketQuotes}

theorem price_or_zero_mem (quote : Option Price) :
    0 ≤ price_or_zero quote ∧ price_or_zero quote ≤ 1 := by
  cases quote with
  | none => exact ⟨le_rfl, zero_le_one⟩
  | some price => exact price.2

/-- A spelled quote reads as its number. -/
theorem safe_float_spell (unit : PriceUnit) (quote : Option Price) :
    safe_float (unit.spell quote) = unit.number (price_or_zero quote) := by
  cases quote with
  | none => cases unit <;> simp [PriceUnit.spell, safe_float, Json.float, PriceUnit.number,
      price_or_zero]
  | some price => rfl

/-- Which quote the keys of Kalshi find, in either spelling. -/
theorem kalshi_market_float (quotes : MarketQuotes) (unit : PriceUnit) :
    market_float (kalshi_market quotes unit) ["yes_bid", "bid", "yes_bid_dollars"] =
        unit.number (price_or_zero quotes.yes_bid) ∧
      market_float (kalshi_market quotes unit) ["yes_ask", "ask", "yes_ask_dollars"] =
        unit.number (price_or_zero quotes.yes_ask) ∧
      market_float (kalshi_market quotes unit) ["no_bid", "no_bid_dollars"] =
        unit.number (price_or_zero quotes.no_bid) ∧
      market_float (kalshi_market quotes unit) ["no_ask", "no_ask_dollars"] =
        unit.number (price_or_zero quotes.no_ask) := by
  have hnull : safe_float .null = 0 := rfl
  have hor (a : ℚ) : (if a ≠ 0 then a else 0) = a := by
    split
    · rfl
    · next ha => exact (not_not.mp ha).symm
  cases unit <;>
    simp [kalshi_market, market_float, Json.get, Json.getD, Json.get?, safe_float_spell, hnull, hor]

/-- A number is normalized to the same price in both units exactly over one cent. -/
theorem normalize_number_iff (quote : Option Price) :
    normalize_price (PriceUnit.cents.number (price_or_zero quote)) =
        normalize_price (PriceUnit.dollars.number (price_or_zero quote)) ↔
      OverACent quote := by
  obtain ⟨-, hle⟩ := price_or_zero_mem quote
  unfold OverACent
  have hdollars : normalize_price (PriceUnit.dollars.number (price_or_zero quote)) =
      price_or_zero quote := normalize_price_of_le hle
  rw [hdollars]
  show normalize_price (100 * price_or_zero quote) = _ ↔ _
  obtain hcent | hover := le_or_gt (100 * price_or_zero quote) 1
  · rw [normalize_price_of_le hcent]
    constructor
    · exact fun h => .inl (by linarith)
    · rintro (hzero | hgt)
      · rw [hzero, mul_zero]
      · linarith
  · rw [normalize_price_of_gt hover]
    refine ⟨fun _ => .inr (by linarith), fun _ => by ring⟩

/-- The same of ForecastEx. -/
theorem to_dollars_number_iff (quote : Option Price) :
    to_dollars (PriceUnit.cents.number (price_or_zero quote)) =
        to_dollars (PriceUnit.dollars.number (price_or_zero quote)) ↔
      OverACent quote := by
  obtain ⟨hnonneg, hle⟩ := price_or_zero_mem quote
  unfold OverACent
  show to_dollars (100 * price_or_zero quote) = to_dollars (price_or_zero quote) ↔ _
  obtain hzero | hpos := hnonneg.eq_or_lt
  · rw [← hzero, mul_zero]
    exact ⟨fun _ => .inl rfl, fun _ => rfl⟩
  · rw [to_dollars_of_le hpos hle]
    obtain hcent | hover := le_or_gt (100 * price_or_zero quote) 1
    · rw [to_dollars_of_le (by linarith) hcent]
      constructor
      · exact fun h => .inl (by linarith)
      · rintro (hzero | hgt) <;> linarith
    · rw [to_dollars_of_gt hover, min_eq_left (by linarith)]
      exact ⟨fun _ => .inr (by linarith), fun _ => by ring⟩

/-- The prices of a Kalshi price point, of the four quotes as they are normalized. -/
def kalshi_priced (yes_bid yes_ask no_bid no_ask : ℚ) : Option (List ℚ) :=
  let yes_price := num_or yes_ask yes_bid
  let no_price := num_or no_ask (num_or no_bid 0)
  if yes_price = 0 ∧ no_price = 0 then none
  else some [yes_price, no_price, yes_bid, yes_ask, no_bid, no_ask]

theorem kalshi_price_point_prices (spelled : Json ℚ → String) (canonical_id event_ticker : String)
    (mapping : MappingEntry) (market : Json ℚ) :
    (kalshi_price_point spelled canonical_id event_ticker mapping market).map PricePoint.prices =
      kalshi_priced (normalize_price (market_float market ["yes_bid", "bid", "yes_bid_dollars"]))
        (normalize_price (market_float market ["yes_ask", "ask", "yes_ask_dollars"]))
        (normalize_price (market_float market ["no_bid", "no_bid_dollars"]))
        (normalize_price (market_float market ["no_ask", "no_ask_dollars"])) := by
  unfold kalshi_price_point kalshi_priced
  dsimp only
  split <;> rfl

/-- The four quotes can be told from the prices. -/
theorem kalshi_priced_inj {a b c d a' b' c' d' : ℚ} :
    kalshi_priced a b c d = kalshi_priced a' b' c' d' ↔
      a = a' ∧ b = b' ∧ c = c' ∧ d = d' := by
  have hzero {a b c d : ℚ} (h : num_or b a = 0 ∧ num_or d (num_or c 0) = 0) :
      a = 0 ∧ b = 0 ∧ c = 0 ∧ d = 0 := by
    obtain ⟨hb, ha⟩ := num_or_eq_zero.mp h.1
    obtain ⟨hd, hc⟩ := num_or_eq_zero.mp h.2
    exact ⟨ha, hb, (num_or_eq_zero.mp hc).1, hd⟩
  constructor
  · intro heq
    unfold kalshi_priced at heq
    dsimp only at heq
    split at heq <;> split at heq
    · next hnone hnone' =>
      obtain ⟨rfl, rfl, rfl, rfl⟩ := hzero hnone
      obtain ⟨rfl, rfl, rfl, rfl⟩ := hzero hnone'
      exact ⟨rfl, rfl, rfl, rfl⟩
    · cases heq
    · cases heq
    · simp only [Option.some_inj, List.cons.injEq, and_true] at heq
      exact heq.2.2
  · rintro ⟨rfl, rfl, rfl, rfl⟩
    rfl

/-- Which markets of Kalshi have the same prices in both units. -/
theorem kalshi_same_prices_iff (spelled : Json ℚ → String) (float_text : String → Option ℚ) :
    TwoUnits.kalshi.SamePrices spelled float_text quotes ↔ TwoUnits.kalshi.Tellable quotes := by
  obtain ⟨hyb, hya, hnb, hna⟩ := kalshi_market_float quotes .cents
  obtain ⟨hyb', hya', hnb', hna'⟩ := kalshi_market_float quotes .dollars
  simp only [TwoUnits.SamePrices, TwoUnits.payload, Payload.published, kalshi_price_point_prices,
    hyb, hya, hnb, hna, hyb', hya', hnb', hna', kalshi_priced_inj, normalize_number_iff,
    forall_const]
  exact ⟨fun h => h {}, fun h _ => h⟩

/-- The prices of a ForecastEx price point, of the four quotes in dollars. -/
def forecastex_priced (yes_bid yes_ask no_bid no_ask : ℚ) : Option (List ℚ) :=
  let yes_price := num_or yes_ask yes_bid
  if yes_price ≤ 0 then none
  else some [yes_price, num_or no_ask no_bid, yes_bid, yes_ask, no_bid, no_ask]

def SnapshotPair.priced (float_text : String → Option ℚ) (pair : SnapshotPair) :
    Option (List ℚ) :=
  forecastex_priced (to_dollars (raw_bid float_text pair.yes_snapshot))
    (to_dollars (raw_ask float_text pair.yes_snapshot))
    (to_dollars (pair.no_number float_text "84")) (to_dollars (pair.no_number float_text "86"))

theorem forecastex_price_point_prices (float_text : String → Option ℚ)
    (canonical_id yes_conid : String) (mapping : MappingEntry) (pair : SnapshotPair) :
    (forecastex_price_point float_text canonical_id yes_conid mapping pair.yes_snapshot
        pair.no_conid pair.no_snapshot).map PricePoint.prices = pair.priced float_text := by
  unfold SnapshotPair.priced
  by_cases hnone : num_or (to_dollars (raw_ask float_text pair.yes_snapshot))
      (to_dollars (raw_bid float_text pair.yes_snapshot)) ≤ 0
  · rw [show forecastex_price_point float_text canonical_id yes_conid mapping pair.yes_snapshot
      pair.no_conid pair.no_snapshot = none from if_pos hnone,
      show forecastex_priced _ _ _ _ = none from if_pos hnone]
    rfl
  · rw [show forecastex_priced _ _ _ _ = some _ from if_neg hnone,
      show forecastex_price_point float_text canonical_id yes_conid mapping pair.yes_snapshot
        pair.no_conid pair.no_snapshot = some _ from if_neg hnone]
    rfl

theorem forecastex_priced_inj {a b c d a' b' c' d' : ℚ} :
    forecastex_priced a b c d = forecastex_priced a' b' c' d' ↔
      (num_or b a ≤ 0 ∧ num_or b' a' ≤ 0) ∨ (a = a' ∧ b = b' ∧ c = c' ∧ d = d') := by
  constructor
  · intro heq
    unfold forecastex_priced at heq
    dsimp only at heq
    split at heq <;> split at heq
    · next hnone hnone' => exact .inl ⟨hnone, hnone'⟩
    · cases heq
    · cases heq
    · simp only [Option.some_inj, List.cons.injEq, and_true] at heq
      exact .inr heq.2.2
  · rintro (⟨hnone, hnone'⟩ | ⟨rfl, rfl, rfl, rfl⟩)
    · rw [show forecastex_priced a b c d = none from if_pos hnone,
        show forecastex_priced a' b' c' d' = none from if_pos hnone']
    · rfl

/-- A spelled quote reads as its number in a snapshot. -/
theorem snapshot_value_spell (float_text : String → Option ℚ) (unit : PriceUnit)
    (quote : Option Price) :
    snapshot_value float_text (unit.spell quote) = unit.number (price_or_zero quote) := by
  cases quote with
  | none => cases unit <;> simp [PriceUnit.spell, snapshot_value, Json.is_obj, Json.float,
      PriceUnit.number, price_or_zero]
  | some price => rfl

theorem raw_bid_snapshot (float_text : String → Option ℚ) (unit : PriceUnit)
    (bid ask : Option Price) :
    raw_bid float_text (snapshot_of unit bid ask) = unit.number (price_or_zero bid) := by
  rw [← snapshot_value_spell float_text unit bid]
  rfl

theorem raw_ask_snapshot (float_text : String → Option ℚ) (unit : PriceUnit)
    (bid ask : Option Price) :
    raw_ask float_text (snapshot_of unit bid ask) = unit.number (price_or_zero ask) := by
  rw [← snapshot_value_spell float_text unit ask]
  rfl

/-- A number is positive exactly where the price is. -/
theorem number_nonpos_iff (unit : PriceUnit) (quote : Option Price) :
    unit.number (price_or_zero quote) ≤ 0 ↔ price_or_zero quote = 0 := by
  obtain ⟨hnonneg, -⟩ := price_or_zero_mem quote
  cases unit with
  | cents =>
    show 100 * price_or_zero quote ≤ 0 ↔ _
    exact ⟨fun h => by linarith, fun h => by rw [h, mul_zero]⟩
  | dollars => exact ⟨fun h => le_antisymm h hnonneg, fun h => h.le⟩

/-- The numbers of the NO side are those of the quotes where its contract is known. -/
theorem no_number_known (quotes : MarketQuotes) {no_conid : Option String} (h : KnownNo no_conid)
    (float_text : String → Option ℚ) (unit : PriceUnit) :
    (forecastex_market quotes no_conid unit).no_number float_text "84" =
        unit.number (price_or_zero quotes.no_bid) ∧
      (forecastex_market quotes no_conid unit).no_number float_text "86" =
        unit.number (price_or_zero quotes.no_ask) := by
  obtain ⟨conid, rfl, hconid⟩ := h
  have hside : no_side (some conid) (some (snapshot_of unit quotes.no_bid quotes.no_ask)) =
      some (conid, snapshot_of unit quotes.no_bid quotes.no_ask) := if_pos ⟨hconid, rfl⟩
  rw [← raw_bid_snapshot float_text unit quotes.no_bid quotes.no_ask,
    ← raw_ask_snapshot float_text unit quotes.no_bid quotes.no_ask]
  unfold SnapshotPair.no_number forecastex_market
  rw [hside]
  exact ⟨rfl, rfl⟩

/-- There are none where it is not. -/
theorem no_number_unknown {no_conid : Option String} (h : ¬ KnownNo no_conid)
    (float_text : String → Option ℚ) (unit : PriceUnit) (key : String) :
    (forecastex_market quotes no_conid unit).no_number float_text key = 0 := by
  unfold SnapshotPair.no_number forecastex_market no_side
  cases no_conid with
  | none => rfl
  | some conid =>
    have hconid : ¬ (conid ≠ "" ∧
        (snapshot_of unit quotes.no_bid quotes.no_ask).truthy = true) :=
      fun hboth => h ⟨conid, rfl, hboth.1⟩
    simp only [if_neg hconid]
    rfl

/-- Which markets of ForecastEx have the same prices in both units. -/
theorem forecastex_same_prices_iff (spelled : Json ℚ → String) (float_text : String → Option ℚ)
    (no_conid : Option String) :
    (TwoUnits.forecastex no_conid).SamePrices spelled float_text quotes ↔
      (TwoUnits.forecastex no_conid).Tellable quotes := by
  -- the YES side is missing in one unit where it is in the other
  have hyes (unit : PriceUnit) :
      num_or (to_dollars (raw_ask float_text (forecastex_market quotes no_conid unit).yes_snapshot))
          (to_dollars (raw_bid float_text (forecastex_market quotes no_conid unit).yes_snapshot))
        ≤ 0 ↔ price_or_zero quotes.yes_bid = 0 ∧ price_or_zero quotes.yes_ask = 0 := by
    rw [no_yes_price_iff, and_comm]
    show raw_bid float_text (snapshot_of unit quotes.yes_bid quotes.yes_ask) ≤ 0 ∧
      raw_ask float_text (snapshot_of unit quotes.yes_bid quotes.yes_ask) ≤ 0 ↔ _
    rw [raw_bid_snapshot, raw_ask_snapshot, number_nonpos_iff, number_nonpos_iff]
  -- the NO side counts only where its contract is known
  have hno :
      (to_dollars ((forecastex_market quotes no_conid .cents).no_number float_text "84") =
          to_dollars ((forecastex_market quotes no_conid .dollars).no_number float_text "84") ∧
        to_dollars ((forecastex_market quotes no_conid .cents).no_number float_text "86") =
          to_dollars ((forecastex_market quotes no_conid .dollars).no_number float_text "86")) ↔
      (KnownNo no_conid → OverACent quotes.no_bid ∧ OverACent quotes.no_ask) := by
    by_cases hknown : KnownNo no_conid
    · obtain ⟨hbid, hask⟩ := no_number_known quotes hknown float_text .cents
      obtain ⟨hbid', hask'⟩ := no_number_known quotes hknown float_text .dollars
      rw [hbid, hask, hbid', hask', to_dollars_number_iff, to_dollars_number_iff]
      exact ⟨fun h _ => h, fun h => h hknown⟩
    · simp only [no_number_unknown hknown, and_self, true_iff]
      exact fun h => absurd h hknown
  have hbid :
      to_dollars (raw_bid float_text (forecastex_market quotes no_conid .cents).yes_snapshot) =
        to_dollars (raw_bid float_text (forecastex_market quotes no_conid .dollars).yes_snapshot) ↔
      OverACent quotes.yes_bid := by
    rw [← to_dollars_number_iff]
    exact iff_of_eq (congrArg₂ (to_dollars · = to_dollars ·)
      (raw_bid_snapshot float_text .cents quotes.yes_bid quotes.yes_ask)
      (raw_bid_snapshot float_text .dollars quotes.yes_bid quotes.yes_ask))
  have hask :
      to_dollars (raw_ask float_text (forecastex_market quotes no_conid .cents).yes_snapshot) =
        to_dollars (raw_ask float_text (forecastex_market quotes no_conid .dollars).yes_snapshot) ↔
      OverACent quotes.yes_ask := by
    rw [← to_dollars_number_iff]
    exact iff_of_eq (congrArg₂ (to_dollars · = to_dollars ·)
      (raw_ask_snapshot float_text .cents quotes.yes_bid quotes.yes_ask)
      (raw_ask_snapshot float_text .dollars quotes.yes_bid quotes.yes_ask))
  have hprices : (TwoUnits.forecastex no_conid).SamePrices spelled float_text quotes ↔
      (forecastex_market quotes no_conid .cents).priced float_text =
        (forecastex_market quotes no_conid .dollars).priced float_text := by
    simp only [TwoUnits.SamePrices, TwoUnits.payload, Payload.published,
      forecastex_price_point_prices]
    exact ⟨fun h => h "" "" {}, fun h _ _ _ => h⟩
  rw [hprices, SnapshotPair.priced, SnapshotPair.priced, forecastex_priced_inj, hyes, hyes,
    and_self, hno, hbid, hask]
  rfl

end spellings

/-! ## Section 4: Every ask is an offer, in either spelling -/

/-- The asks of a payload are offers exactly where it is read right, and a market has the same
    prices in both units exactly where its quotes are over one cent, missing or zero. -/
theorem published_asks_iff (spelled : Json ℚ → String) (float_text : String → Option ℚ) :
    (∀ payload : Payload, payload.AsksAreOffers spelled float_text ↔
      payload.Readable spelled float_text) ∧
    ∀ (venue : TwoUnits) (quotes : MarketQuotes),
      venue.SamePrices spelled float_text quotes ↔ venue.Tellable quotes := by
  refine ⟨payload_asks_iff spelled float_text, fun venue quotes => ?_⟩
  cases venue with
  | kalshi => exact kalshi_same_prices_iff spelled float_text
  | forecastex no_conid => exact forecastex_same_prices_iff spelled float_text no_conid

/-- A Kalshi market with an ask of one cent. -/
def one_cent : Json ℚ := .obj [("ticker", .str "KX-1" none), ("yes_ask", .num 1)]

/-- A dollar is asked for what is offered at one cent. -/
theorem one_cent_published_as_a_dollar :
    ¬ ∀ (spelled : Json ℚ → String) (float_text : String → Option ℚ),
      (∀ payload : Payload, payload.AsksAreOffers spelled float_text) ∧
        ∀ (venue : TwoUnits) (quotes : MarketQuotes),
          venue.SamePrices spelled float_text quotes := by
  intro h
  have hasks := (h (fun _ => "") fun _ => none).1 (.kalshi one_cent)
  exact absurd ((payload_asks_iff _ _ _).mp hasks true) (by decide +kernel)

end Collectors
