import Arbiter.Framework.Decimal
import Arbiter.Mapping.Candidates
import Arbiter.Mapping.Sports

/-! # Fingerprints

  `event_fingerprint`: the parsers that read the contract of a market off its ticker or slug,
  and its titles. Each family has a parser for either venue, and the first that matches
  decides. Two markets match structurally if their fingerprints have one key.

  A number is what its digits say, without the rounding of floats.
-/

namespace Fingerprint

open Regex Teams Sports Mapping

/-! ## Section 1: Markets and fingerprints -/

/-- What the parsers read of a Kalshi market. An absent text is empty. -/
structure KalshiMarket where
  ticker : String
  title : String := ""
  subtitle : String := ""
  rules_primary : String := ""
  description : String := ""

/-- What they read of a Polymarket market. -/
structure PolymarketMarket where
  slug : String
  endDate : String := ""
  closeTime : String := ""

/-- `MarketFingerprint`. -/
structure MarketFingerprint where
  category : String
  subcategory : String
  entity : String
  date : String
  metric : String
  threshold : String
  outcome : String
  direction : String := "yes"
  source : String := "official_result"
  deriving DecidableEq

namespace MarketFingerprint

/-- The parts of the key of an event. -/
def event_parts (f : MarketFingerprint) : List String :=
  [f.category, f.subcategory, f.entity, f.date, f.metric, f.threshold]

def event_key (f : MarketFingerprint) : String := ":".intercalate f.event_parts

def market_key (f : MarketFingerprint) : String :=
  f.event_key ++ ":" ++ f.direction ++ ":" ++ f.outcome

end MarketFingerprint

/-! ## Section 2: Values -/

/-- `_MONTHS`. -/
def month_names : List (String × String) :=
  [("jan", "01"), ("january", "01"), ("feb", "02"), ("february", "02"), ("mar", "03"),
    ("march", "03"), ("apr", "04"), ("april", "04"), ("may", "05"), ("jun", "06"), ("june", "06"),
    ("jul", "07"), ("july", "07"), ("aug", "08"), ("august", "08"), ("sep", "09"),
    ("september", "09"), ("oct", "10"), ("october", "10"), ("nov", "11"), ("november", "11"),
    ("dec", "12"), ("december", "12")]

/-- `_KALSHI_MONTHS`. -/
def kalshi_months : List (String × String) :=
  month_names.map fun entry => ((String.ofList (entry.1.toList.take 3)).toUpper, entry.2)

/-- `_ASSET_ALIASES`. -/
def asset_aliases : List (String × String) :=
  [("bitcoin", "btc"), ("btc", "btc"), ("ethereum", "eth"), ("eth", "eth"), ("xrp", "xrp"),
    ("ripple", "xrp"), ("solana", "sol"), ("sol", "sol"), ("dogecoin", "doge"), ("doge", "doge")]

/-- What a table has for a text, else the text. -/
def aliased (table : List (String × String)) (text : String) : String :=
  (table.lookup text).getD text

/-- `_kalshi_date`. -/
def kalshi_date (year month day : String) : Option String :=
  (kalshi_months.lookup month.toUpper).map fun month_number =>
    "20" ++ year ++ "-" ++ month_number ++ "-" ++ day

/-- `int(s)`, of digits. -/
def read_int (s : String) : Option ℕ :=
  if s = "" then none
  else s.toList.foldl (fun n c => do return (← n) * 10 + (← digit_value c)) (some 0)

/-- `number:.4f` without the zeros at its end, nor a point there. -/
def short_decimal (number : ℚ≥0) : String :=
  let text := (Decimal.fixed 4 number).toList
  String.ofList ((text.rdropWhile (· = '0')).rdropWhile (· = '.'))

/-- `_normalize_decimal`. -/
def normalize_decimal (value : String) : String :=
  let text := Text.replace "pt" "." value.toLower
  match Decimal.read text with
  | none => text
  | some number => if number.den = 1 then toString number.num else short_decimal number

/-- `_normalize_fed_outcome`. -/
def normalize_fed_outcome (value : String) : String :=
  aliased
    [("hold", "maintains"), ("maintains", "maintains"), ("c25", "cut25bps"), ("c25p", "cutgt25bps"),
      ("cut25bps", "cut25bps"), ("cutgt25bps", "cutgt25bps"), ("h25", "hike25bps"),
      ("h25p", "hikegt25bps"), ("hike25bps", "hike25bps"), ("hikegt25bps", "hikegt25bps")]
    value.toLower

/-- `_normalize_percent_bucket`. -/
def normalize_percent_bucket (value : String) : String :=
  let text := Text.replace "%" "" (Text.replace "pct" "" value.toLower)
  match ["gte", "lte", "t"].find? (Text.starts_with · text) with
  | some start => start ++ normalize_decimal (String.ofList (text.toList.drop start.length))
  | none => normalize_decimal text

/-- `20\d{2}` -/
def year_re : Re := .all [.text "20", .times 2 digit]

/-- `_gdp_release_date_for_period`. -/
def gdp_release_date_for_period (period : String) : Option String := do
  let m ← Re.at_start (.all [.text "q", .group "1" (.texts ["1", "2", "3", "4"]), .text "-",
    .group "2" year_re, .ending]) period.toLower
  let year ← read_int (m.text "2")
  match m.text "1" with
  | "1" => return toString year ++ "-04-30"
  | "2" => return toString year ++ "-07-30"
  | "3" => return toString year ++ "-10-29"
  | _ => return toString (year + 1) ++ "-01-29"

/-- The text of the titles of a market. -/
def market_text (parts : List String) : String := normalize_market_text (" ".intercalate parts)

/-- The three letters of a month. -/
def month_abbrev (month : String) : Option String :=
  (month_names.find? fun entry => entry.1.length = 3 && entry.2 = month).map (·.1)

/-- The months in words, as a period is looked for. -/
def period_re : Re :=
  .all [.boundary,
    .group "1" (.any [.all [.text "jan", .opt (.text "uary")], .all [.text "feb", .opt (.text "ruary")],
      .all [.text "mar", .opt (.text "ch")], .all [.text "apr", .opt (.text "il")], .text "may",
      .all [.text "jun", .opt (.text "e")], .all [.text "jul", .opt (.text "y")],
      .all [.text "aug", .opt (.text "ust")], .all [.text "sep", .opt (.text "tember")],
      .all [.text "oct", .opt (.text "ober")], .all [.text "nov", .opt (.text "ember")],
      .all [.text "dec", .opt (.text "ember")]]),
    .plus blank, .group "2" year_re, .boundary]

/-- The month before a release date `YYYY-MM-DD`. -/
def period_before_release (release_date : String) : Option String := do
  let after (l : List Char) : List Char := l.dropWhile (· ≠ '-')
  let rest := after release_date.toList
  -- a date in fewer than three parts is no date
  if rest = [] ∨ after (rest.drop 1) = [] then none
  let year ← read_int (String.ofList (release_date.toList.takeWhile (· ≠ '-')))
  let month ← read_int (String.ofList ((rest.drop 1).takeWhile (· ≠ '-')))
  let (year, month) := if month = 1 then (year - 1, 12) else (year, month - 1)
  let abbrev_month ← month_abbrev (Decimal.padded 2 month)
  return abbrev_month ++ toString year

/-- `_period_from_text_or_release`. -/
def period_from_text_or_release (market : KalshiMarket) (release_date : String) : String :=
  let text := market_text
    [market.title, market.subtitle, market.rules_primary, market.description]
  let named := do
    let m ← period_re.search text
    let month ← month_names.lookup (m.text "1")
    return (← month_abbrev month) ++ m.text "2"
  (named.or (period_before_release release_date)).getD "unknown"

/-! ## Section 3: Sports -/

/-- `_fingerprint_kalshi_sports`. -/
def fingerprint_kalshi_sports (market : KalshiMarket) : Option MarketFingerprint := do
  let parsed ← parse_kalshi_sports_ticker market.ticker
  let participants ← split_compound_code parsed.participants_raw
  return {
    category := "sports"
    subcategory := parsed.poly_sport
    entity := canonical_pair participants.1 participants.2
    date := parsed.date
    metric := "winner"
    threshold := "moneyline"
    outcome := normalize_entity_code parsed.side
    source := "official_sports_result" }

/-- `_fingerprint_poly_sports`. -/
def fingerprint_poly_sports (market : PolymarketMarket) : Option MarketFingerprint := do
  let parsed ← parse_polymarket_sports_slug market.slug
  guard (parsed.kind ∈ supported_poly_winner_prefixes)
  return {
    category := "sports"
    subcategory := parsed.sport
    entity := canonical_pair parsed.team1 parsed.team2
    date := parsed.date
    metric := "winner"
    threshold := "moneyline"
    outcome := parsed.yes_side
    source := "official_sports_result" }

/-- `_KALSHI_CHAMP_RE`. -/
def kalshi_champ_re : Re :=
  .all [.text "KX", .group "competition" (.plus upper_digit), .text "-",
    .group "year" (.times 2 digit), .text "-", .group "team" (.plus upper), .ending]

/-- `_KALSHI_CHAMP_MAP`. -/
def kalshi_champ_map : List (String × String) :=
  [("SB", "nfl-super-bowl"), ("NFLAFCCHAMP", "nfl-afc-championship"),
    ("NFLNFCCHAMP", "nfl-nfc-championship"), ("NCAAF", "cfp-national-championship"),
    ("NCAAFFINALIST", "cfp-finalist"), ("NBACHAMP", "nba-championship"),
    ("MLBWS", "mlb-world-series"), ("MLBALCS", "mlb-alcs"), ("MLBNLCS", "mlb-nlcs"),
    ("NHLSC", "nhl-stanley-cup"), ("MLSSC", "mls-cup")]

/-- `.` -/
def not_line_break : Re := .char (· ≠ '\n')

/-- `_POLY_CHAMP_RE`. -/
def poly_champ_re : Re :=
  .all [.text "will-", .group "team" (.lazy_plus not_line_break), .text "-win-the-",
    .group "year" year_re, .text "-", .group "competition" (.lazy_plus not_line_break),
    .opt (.all [.text "-", .plus digit]), .ending]

/-- `_POLY_CHAMP_MAP`. -/
def poly_champ_map : List (String × String) :=
  [("nfl-super-bowl", "nfl-super-bowl"), ("super-bowl", "nfl-super-bowl"),
    ("nfl-afc-championship", "nfl-afc-championship"),
    ("nfl-nfc-championship", "nfl-nfc-championship"),
    ("cfp-national-championship", "cfp-national-championship"), ("cfp-finalist", "cfp-finalist"),
    ("college-football-playoff-national-championship", "cfp-national-championship"),
    ("nba-championship", "nba-championship"), ("nba-finals", "nba-championship"),
    ("mlb-world-series", "mlb-world-series"), ("world-series", "mlb-world-series"),
    ("mlb-alcs", "mlb-alcs"), ("mlb-nlcs", "mlb-nlcs"), ("nhl-stanley-cup", "nhl-stanley-cup"),
    ("stanley-cup", "nhl-stanley-cup"), ("mls-cup", "mls-cup")]

/-- The fingerprint of a championship. -/
def championship (canonical_comp team_code year : String) : MarketFingerprint where
  category := "sports"
  subcategory := "championship"
  entity := canonical_comp ++ ":" ++ team_code
  date := year
  metric := "championship-winner"
  threshold := "futures"
  outcome := "yes"
  direction := "same"
  source := "official_sports_result"

/-- `_fingerprint_kalshi_championship`. -/
def fingerprint_kalshi_championship (market : KalshiMarket) : Option MarketFingerprint := do
  let m ← kalshi_champ_re.at_start (Text.strip market.ticker).toUpper
  let canonical_comp ← kalshi_champ_map.lookup (m.text "competition")
  let team := normalize_entity_code (m.text "team")
  guard (team ≠ "")
  return championship canonical_comp team ("20" ++ m.text "year")

/-- `_fingerprint_poly_championship`. -/
def fingerprint_poly_championship (market : PolymarketMarket) : Option MarketFingerprint := do
  let m ← poly_champ_re.at_start (Text.strip market.slug).toLower
  let canonical_comp ← poly_champ_map.lookup (m.text "competition")
  let team_code ← resolve_slug_to_code (m.text "team")
  guard (team_code ≠ "")
  return championship canonical_comp team_code (m.text "year")

/-! ## Section 4: Politics and crypto -/

/-- `_POLITICS_KALSHI_CONTROL_RE`. -/
def politics_kalshi_control_re : Re :=
  .all [.text "CONTROL", .group "1" (.texts ["H", "S"]), .text "-", .group "2" year_re, .text "-",
    .group "3" (.texts ["D", "R"]), .ending]

/-- `_POLITICS_POLY_CONTROL_RE`. -/
def politics_poly_control_re : Re :=
  .all [.text "paccc-us", .group "1" (.texts ["ho", "se"]), .text "-midterms-",
    .group "2" (.all [year_re, .text "-", .times 2 digit, .text "-", .times 2 digit]), .text "-",
    .group "3" (.texts ["dem", "rep"]), .ending]

/-- The fingerprint of the control of a chamber. -/
def party_control (chamber date party : String) : MarketFingerprint where
  category := "politics"
  subcategory := "us"
  entity := chamber
  date := date
  metric := "party-control"
  threshold := "majority"
  outcome := party
  source := "official_us_election_result"

/-- `_fingerprint_kalshi_politics`. -/
def fingerprint_kalshi_politics (market : KalshiMarket) : Option MarketFingerprint :=
  (politics_kalshi_control_re.at_start market.ticker.toUpper).map fun m =>
    party_control (if m.text "1" = "H" then "house" else "senate") (m.text "2" ++ "-11-03")
      (if m.text "3" = "D" then "dem" else "rep")

/-- `_fingerprint_poly_politics`. -/
def fingerprint_poly_politics (market : PolymarketMarket) : Option MarketFingerprint :=
  (politics_poly_control_re.at_start market.slug.toLower).map fun m =>
    party_control (if m.text "1" = "ho" then "house" else "senate") (m.text "2") (m.text "3")

/-- `[0-9.]+` -/
def digits_and_points : Re := .plus (.char fun c => c.isDigit || c = '.')

/-- `_CRYPTO_KALSHI_RE`. -/
def crypto_kalshi_re : Re :=
  .all [.text "KX", .group "asset" (.texts ["BTC", "ETH", "XRP", "SOL", "DOGE"]), .star upper,
    .text "-", .group "yy" (.times 2 digit), .group "mon" (.times 3 upper),
    .group "dd" (.times 2 digit), .opt (.group "hh" (.times 2 digit)), .text "-T",
    .group "threshold" digits_and_points, .ending]

/-- `_CRYPTO_POLY_REACH_RE`. -/
def crypto_poly_reach_re : Re :=
  .all [.opt (.text "will-"),
    .group "asset" (.texts ["bitcoin", "btc", "ethereum", "eth", "xrp", "solana", "sol", "dogecoin",
      "doge"]),
    .star (.all [.text "-", .plus lower_digit]), .text "-reach-",
    .group "threshold" (.all [.plus ascii_digit, .opt (.all [.text "pt", .plus ascii_digit])]),
    .text "-by-", .group "month" (.plus lower), .text "-",
    .group "day" (.all [digit, .opt digit]), .text "-", .group "year" year_re, .ending]

/-- The fingerprint of an asset that gets above a price. -/
def price_above (asset date threshold : String) : MarketFingerprint where
  category := "crypto"
  subcategory := asset
  entity := "price"
  date := date
  metric := "above"
  threshold := threshold
  outcome := "yes"
  source := "cf_benchmarks"

/-- `_fingerprint_kalshi_crypto`. -/
def fingerprint_kalshi_crypto (market : KalshiMarket) : Option MarketFingerprint := do
  let m ← crypto_kalshi_re.at_start market.ticker.toUpper
  let month ← kalshi_months.lookup (m.text "mon")
  return price_above (aliased asset_aliases (m.text "asset").toLower)
    ("20" ++ m.text "yy" ++ "-" ++ month ++ "-" ++ m.text "dd")
    (normalize_decimal (m.text "threshold"))

/-- `_fingerprint_poly_crypto`. -/
def fingerprint_poly_crypto (market : PolymarketMarket) : Option MarketFingerprint := do
  let m ← crypto_poly_reach_re.at_start market.slug.toLower
  let month ← month_names.lookup (m.text "month")
  let day ← read_int (m.text "day")
  return price_above (aliased asset_aliases (m.text "asset"))
    (m.text "year" ++ "-" ++ month ++ "-" ++ Decimal.padded 2 day)
    (normalize_decimal (m.text "threshold"))

/-! ## Section 5: Economics -/

/-- The fingerprint of a figure of the economy. -/
def economic (entity date metric threshold outcome source : String) : MarketFingerprint where
  category := "economics"
  subcategory := "us"
  entity := entity
  date := date
  metric := metric
  threshold := threshold
  outcome := outcome
  source := source

/-- The groups of a day in a ticker. -/
def ticker_day : Re :=
  .all [.group "yy" (.times 2 digit), .group "mon" (.times 3 upper), .group "dd" (.times 2 digit)]

/-- The day of a ticker, or nothing. -/
def ticker_date (m : Match) : String :=
  (kalshi_date (m.text "yy") (m.text "mon") (m.text "dd")).getD ""

/-- `[0-9]+(?:\.[0-9]+)?` -/
def number_re : Re := .all [.plus ascii_digit, .opt (.all [.text ".", .plus ascii_digit])]

/-- `[0-9]+pt[0-9]+` -/
def pt_number_re : Re := .all [.plus ascii_digit, .text "pt", .plus ascii_digit]

/-- `20\d{2}-\d{2}-\d{2}` -/
def day_re : Re := .all [year_re, .text "-", .times 2 digit, .text "-", .times 2 digit]

/-! ### GDP -/

/-- `_GDP_KALSHI_RE`. -/
def gdp_kalshi_re : Re :=
  .all [.text "KXGDP-", ticker_day, .text "-T", .group "threshold" digits_and_points, .ending]

/-- `_GDP_KALSHI_YEAR_RE`. -/
def gdp_kalshi_year_re : Re :=
  .all [.text "KXGDPYEAR-", .group "yy" (.times 2 digit), .text "-", .texts ["T", "B"],
    .group "threshold" number_re, .ending]

/-- `_GDP_POLY_RE`. -/
def gdp_poly_re : Re :=
  .all [.text "will-us-gdp-growth-in-",
    .group "period" (.alt (.all [.text "q", .texts ["1", "2", "3", "4"], .text "-", year_re]) year_re),
    .text "-be-", .group "direction" (.texts ["greater-than", "less-than", "between"]), .text "-",
    .group "threshold" pt_number_re,
    .opt (.all [.text "-and-", .group "threshold2" pt_number_re]), .ending]

/-- A quarter, in the words of a title. -/
def quarter_re : Re :=
  .all [.boundary, .group "1" (.all [.text "q", .texts ["1", "2", "3", "4"]]), .star blank,
    .group "2" year_re, .boundary]

/-- The titles of a market that `_fingerprint_kalshi_gdp` reads. -/
def headline (market : KalshiMarket) : String :=
  market_text [market.title, market.subtitle, market.rules_primary]

/-- `_fingerprint_kalshi_gdp`, of a quarterly ticker. -/
def quarterly_gdp (market : KalshiMarket) (m : Match) : MarketFingerprint :=
  let title := headline market
  let period :=
    match quarter_re.search title with
    | some p => p.text "1" ++ "-" ++ p.text "2"
    | none => "20" ++ m.text "yy"
  let direction :=
    if Text.occurs "less than" title || Text.occurs "below" title then "below" else "above"
  economic ("gdp-growth-" ++ period) (ticker_date m) direction (normalize_decimal (m.text "threshold"))
    "yes" "bea"

/-- `_fingerprint_kalshi_gdp`, of an annual ticker. -/
def annual_gdp (market : KalshiMarket) (m : Match) : MarketFingerprint :=
  let title := headline market
  let direction :=
    if Text.occurs "less than" title || Text.occurs "below" title || Text.occurs "under" title then
      "below"
    else if Text.occurs "between" title then "between"
    else "above"
  economic ("gdp-growth-20" ++ m.text "yy") "" direction (normalize_decimal (m.text "threshold"))
    "yes" "bea"

/-- `_fingerprint_kalshi_gdp`. -/
def fingerprint_kalshi_gdp (market : KalshiMarket) : Option MarketFingerprint :=
  let ticker := market.ticker.toUpper
  match gdp_kalshi_re.at_start ticker with
  | some m => some (quarterly_gdp market m)
  | none => (gdp_kalshi_year_re.at_start ticker).map (annual_gdp market)

/-- `_fingerprint_poly_gdp`. -/
def fingerprint_poly_gdp (market : PolymarketMarket) : Option MarketFingerprint :=
  (gdp_poly_re.at_start market.slug.toLower).map fun m =>
    let direction_raw := m.text "direction"
    let direction :=
      if direction_raw = "between" then "between"
      else if direction_raw = "greater-than" then "above"
      else "below"
    let threshold := normalize_decimal (m.text "threshold") ++
      if direction_raw = "between" then "-" ++ normalize_decimal (m.text "threshold2") else ""
    let period := m.text "period"
    economic ("gdp-growth-" ++ period)
      ((gdp_release_date_for_period period).getD (or_text market.endDate market.closeTime))
      direction threshold "yes" "bea"

/-! ### The Fed -/

/-- `_FED_KALSHI_RE`. -/
def fed_kalshi_re : Re :=
  .all [.text "KXFED", .texts ["DECISION", "RATE", "FOMC"], .text "-", ticker_day, .text "-",
    .group "outcome" (.texts ["HOLD", "C25P", "C25", "H25P", "H25"]), .ending]

/-- `_FED_POLY_RE`. -/
def fed_poly_re : Re :=
  .all [.text "rdc-usfed-fomc-", .group "date" day_re, .text "-",
    .group "outcome" (.texts ["maintains", "cut25bps", "cutgt25bps", "hike25bps", "hikegt25bps"]),
    .ending]

/-- `_FED_KALSHI_RATE_RE`. -/
def fed_kalshi_rate_re : Re :=
  .all [.text "KXFED-", .group "yy" (.times 2 digit), .group "mon" (.times 3 upper), .text "-T",
    .group "threshold" number_re, .ending]

/-- `(?:-\d+)*` -/
def numbered : Re := .star (.all [.text "-", .plus digit])

/-- `_FED_POLY_RATE_EOY_RE`. -/
def fed_poly_rate_eoy_re : Re :=
  .all [.text "will-the-upper-bound-of-the-target-federal-funds-rate-be-",
    .group "threshold" pt_number_re, .text "-at-the-end-of-", .group "year" year_re, numbered,
    .ending]

/-- `_FED_POLY_REACH_RE`. -/
def fed_poly_reach_re : Re :=
  .all [.text "will-the-feds-", .group "bound" (.texts ["upper", "lower"]), .text "-bound-reach-",
    .group "threshold" pt_number_re, .text "-or-", .texts ["higher", "lower"], .text "-before-",
    .group "year" year_re, numbered, .ending]

/-- `_fingerprint_kalshi_fed_decision`. -/
def fingerprint_kalshi_fed_decision (market : KalshiMarket) : Option MarketFingerprint := do
  let m ← fed_kalshi_re.at_start market.ticker.toUpper
  let text := headline market
  let of_fed := Text.occurs "fed" text || Text.occurs "fomc" text ||
    Text.occurs "federal reserve" text
  guard (!(Text.occurs "dissent" text || (text ≠ "" && !of_fed)))
  return economic "fomc-rate-decision" (ticker_date m) "fed-rate-decision" "target-range"
    (normalize_fed_outcome (m.text "outcome")) "federal_reserve"

/-- `_fingerprint_poly_fed_decision`. -/
def fingerprint_poly_fed_decision (market : PolymarketMarket) : Option MarketFingerprint :=
  (fed_poly_re.at_start market.slug.toLower).map fun m =>
    economic "fomc-rate-decision" (m.text "date") "fed-rate-decision" "target-range"
      (normalize_fed_outcome (m.text "outcome")) "federal_reserve"

/-- A threshold of the rate. -/
def rate_threshold (entity date threshold : String) : MarketFingerprint :=
  economic entity date "fed-rate-threshold" (normalize_decimal threshold) "yes" "federal_reserve"

/-- `_fingerprint_kalshi_fed_rate`. -/
def fingerprint_kalshi_fed_rate (market : KalshiMarket) : Option MarketFingerprint := do
  let m ← fed_kalshi_rate_re.at_start market.ticker.toUpper
  let month_num ← kalshi_months.lookup (m.text "mon")
  return rate_threshold "fed-rate-level" ("20" ++ m.text "yy" ++ "-" ++ month_num)
    (m.text "threshold")

/-- `_fingerprint_poly_fed_rate`. -/
def fingerprint_poly_fed_rate (market : PolymarketMarket) : Option MarketFingerprint :=
  let slug := market.slug.toLower
  match fed_poly_rate_eoy_re.at_start slug with
  | some m => some (rate_threshold "fed-rate-level" (m.text "year" ++ "-12") (m.text "threshold"))
  | none => (fed_poly_reach_re.at_start slug).map fun m =>
      rate_threshold ("fed-rate-" ++ m.text "bound" ++ "-reach") (m.text "year") (m.text "threshold")

/-! ### Prices and unemployment -/

/-- The bucket of a ticker. -/
def kalshi_bucket_re : Re :=
  .all [.opt (.texts ["GTE", "LTE", "T"]), number_re, .text "PC", .opt (.text "T")]

/-- The bucket of a slug. -/
def poly_bucket_re : Re := .all [.opt (.texts ["gte", "lte"]), pt_number_re, .text "pct"]

/-- The period of a slug. -/
def slug_period_re : Re := .all [.times 3 lower, year_re]

/-- `_CPI_KALSHI_RE`. -/
def cpi_kalshi_re : Re :=
  .all [.text "KXCPI", .opt (.group "basis" (.texts ["YOY", "MOM"])), .text "-", ticker_day,
    .text "-", .group "bucket" kalshi_bucket_re, .ending]

/-- `_CPI_POLY_RE`. -/
def cpi_poly_re : Re :=
  .all [.text "cpic-uscpi-", .group "period" slug_period_re, .group "basis" (.texts ["yoy", "mom"]),
    .text "-", .group "release" day_re, .text "-", .group "bucket" poly_bucket_re, .ending]

/-- `_UNEMPLOYMENT_KALSHI_RE`. -/
def unemployment_kalshi_re : Re :=
  .all [.text "KXUNEMP", .opt (.text "LOYMENT"), .opt (.group "basis" (.text "RATE")), .text "-",
    ticker_day, .text "-", .group "bucket" kalshi_bucket_re, .ending]

/-- `_UNEMPLOYMENT_POLY_RE`. -/
def unemployment_poly_re : Re :=
  .all [.texts ["uec", "unemp"], .text "-usunemployment-", .group "period" slug_period_re,
    .text "-", .group "release" day_re, .text "-", .group "bucket" poly_bucket_re, .ending]

/-- A figure of the Bureau of Labor Statistics. -/
def labor_figure (entity release_date metric bucket : String) : MarketFingerprint :=
  economic entity release_date metric (normalize_percent_bucket bucket) "yes" "bls"

/-- `_fingerprint_kalshi_cpi`. -/
def fingerprint_kalshi_cpi (market : KalshiMarket) : Option MarketFingerprint :=
  (cpi_kalshi_re.at_start market.ticker.toUpper).map fun m =>
    let basis := ((m.group "basis").getD "YOY").toLower
    let release_date := ticker_date m
    labor_figure ("cpi-" ++ basis ++ "-" ++ period_from_text_or_release market release_date)
      release_date "cpi" (m.text "bucket")

/-- `_fingerprint_poly_cpi`. -/
def fingerprint_poly_cpi (market : PolymarketMarket) : Option MarketFingerprint :=
  (cpi_poly_re.at_start market.slug.toLower).map fun m =>
    labor_figure ("cpi-" ++ m.text "basis" ++ "-" ++ m.text "period") (m.text "release") "cpi"
      (m.text "bucket")

/-- `_fingerprint_kalshi_unemployment`. -/
def fingerprint_kalshi_unemployment (market : KalshiMarket) : Option MarketFingerprint :=
  (unemployment_kalshi_re.at_start market.ticker.toUpper).map fun m =>
    let release_date := ticker_date m
    labor_figure ("unemployment-rate-" ++ period_from_text_or_release market release_date)
      release_date "unemployment-rate" (m.text "bucket")

/-- `_fingerprint_poly_unemployment`. -/
def fingerprint_poly_unemployment (market : PolymarketMarket) : Option MarketFingerprint :=
  (unemployment_poly_re.at_start market.slug.toLower).map fun m =>
    labor_figure ("unemployment-rate-" ++ m.text "period") (m.text "release") "unemployment-rate"
      (m.text "bucket")

/-! ## Section 6: The match -/

/-- The parsers of Kalshi markets, in their order. -/
def kalshi_parsers : List (KalshiMarket → Option MarketFingerprint) :=
  [fingerprint_kalshi_sports, fingerprint_kalshi_championship, fingerprint_kalshi_politics,
    fingerprint_kalshi_crypto, fingerprint_kalshi_gdp, fingerprint_kalshi_fed_decision,
    fingerprint_kalshi_fed_rate, fingerprint_kalshi_cpi, fingerprint_kalshi_unemployment]

/-- The parsers of Polymarket markets, in their order. -/
def polymarket_parsers : List (PolymarketMarket → Option MarketFingerprint) :=
  [fingerprint_poly_sports, fingerprint_poly_championship, fingerprint_poly_politics,
    fingerprint_poly_crypto, fingerprint_poly_gdp, fingerprint_poly_fed_decision,
    fingerprint_poly_fed_rate, fingerprint_poly_cpi, fingerprint_poly_unemployment]

/-- `fingerprint_kalshi_market`. -/
def fingerprint_kalshi_market (market : KalshiMarket) : Option MarketFingerprint :=
  kalshi_parsers.findSome? (· market)

/-- `fingerprint_polymarket_market`. -/
def fingerprint_polymarket_market (market : PolymarketMarket) : Option MarketFingerprint :=
  polymarket_parsers.findSome? (· market)

/-- `StructuralMatch`. -/
structure StructuralMatch where
  category : String
  event_key : String
  market_key : String
  outcome : String
  polarity : String
  resolution_date : String
  resolution_source : String
  rule : String
  deriving DecidableEq

/-- The match two fingerprints with one key make. -/
def MarketFingerprint.matched (kalshi : MarketFingerprint) : StructuralMatch where
  category := kalshi.category
  event_key := kalshi.event_key
  market_key := kalshi.market_key
  outcome := kalshi.outcome
  polarity := "same"
  resolution_date := kalshi.date
  resolution_source := kalshi.source
  rule := kalshi.category ++ ":" ++ kalshi.metric ++ ":" ++ kalshi.threshold ++ ":" ++ kalshi.outcome

/-- `structural_match`. -/
def structural_match (kalshi_market : KalshiMarket) (polymarket_market : PolymarketMarket) :
    Option StructuralMatch := do
  let kalshi ← fingerprint_kalshi_market kalshi_market
  let poly ← fingerprint_polymarket_market polymarket_market
  guard (kalshi.market_key = poly.market_key ∧ kalshi.source = poly.source)
  return kalshi.matched

example : ((fingerprint_kalshi_market { ticker := "KXMLBGAME-26MAY022145KCSEA-KC" }).map
    (·.outcome)) = some "kc" := by
  decide +kernel

end Fingerprint
