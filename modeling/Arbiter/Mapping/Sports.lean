import Arbiter.Framework.Regex
import Arbiter.Mapping.Teams

/-! # Safety of Sports Pairs

  `sports_safety`: the tickers and slugs of games are parsed, and a pair is safe if both
  name the same sport, date and winner.
-/

namespace Sports

open Regex Teams

/-! ### Tables -/

/-- `MONTHS`. -/
def months : List (String × String) :=
  [("JAN", "01"), ("FEB", "02"), ("MAR", "03"), ("APR", "04"), ("MAY", "05"), ("JUN", "06"),
    ("JUL", "07"), ("AUG", "08"), ("SEP", "09"), ("OCT", "10"), ("NOV", "11"), ("DEC", "12")]

/-- `KALSHI_SPORT_TO_POLY`. -/
def kalshi_sport_to_poly : List (String × String) :=
  [("mlb", "mlb"), ("nhl", "nhl"), ("nba", "nba"), ("mls", "mls"), ("bundesliga", "bun"),
    ("seriea", "sea"), ("laliga", "lal"), ("efll1", "epl"), ("atp", "atp"),
    ("atpchallenger", "atp"), ("wta", "wta"), ("wtachallenger", "wta"), ("itf", "itf"),
    ("itfw", "wta")]

/-- `SUPPORTED_POLY_WINNER_PREFIXES`. -/
def supported_poly_winner_prefixes : List String := ["aec", "atc"]

/-- `_POLY_SPORTS_PREFIXES`. -/
def poly_sports_prefixes : List String := ["aec", "tec", "atc", "tsc", "asc", "rdc"]

/-! ### Patterns -/

/-- `_KALSHI_GAME_RE`. -/
def kalshi_game_re : Re :=
  .all [.text "KX", .group "1" (.lazy_plus upper_digit), .text "GAME-", .group "2" (.times 2 digit),
    .group "3" (.times 3 upper), .group "4" (.times 2 digit), .group "5" (.star digit),
    .group "6" (.plus upper), .text "-", .group "7" (.plus upper), .ending]

/-- `_KALSHI_MATCH_RE`. -/
def kalshi_match_re : Re :=
  .all [.text "KX", .group "1" (.lazy_plus upper_digit), .text "MATCH-",
    .group "2" (.times 2 digit), .group "3" (.times 3 upper), .group "4" (.times 2 digit),
    .group "5" (.plus upper), .text "-", .group "6" (.plus upper), .ending]

/-- `\d{4}-\d{2}-\d{2}` -/
def iso_date : Re :=
  .all [.times 4 digit, .text "-", .times 2 digit, .text "-", .times 2 digit]

/-- `_POLY_SPORTS_RE`. -/
def poly_sports_re : Re :=
  .all [.group "1" (.texts poly_sports_prefixes), .text "-", .group "2" (.plus lower_digit),
    .text "-", .group "3" (.plus lower_digit), .text "-", .group "4" (.plus lower_digit),
    .text "-", .group "5" iso_date,
    .opt (.all [.text "-", .group "6" (.plus lower_digit)]), .ending]

/-! ### Parsed identifiers -/

/-- `KalshiSportsMarket`. -/
structure KalshiSportsMarket where
  sport : String
  poly_sport : String
  date : String
  participants_raw : String
  side : String
  deriving DecidableEq

/-- `PolymarketSportsSlug`; its prefix is the `kind`. -/
structure PolymarketSportsSlug where
  kind : String
  sport : String
  team1 : String
  team2 : String
  date : String
  side : Option String
  deriving DecidableEq

/-- `_kalshi_date`. -/
def kalshi_date (year month day : String) : Option String :=
  (months.lookup month.toUpper).map fun month_number =>
    "20" ++ year ++ "-" ++ month_number ++ "-" ++ day

/-- What a match of either ticker says, where its participants and its side are groups. -/
def kalshi_sports_market (m : Match) (participants side : String) : Option KalshiSportsMarket := do
  let sport := (m.text "1").toLower
  let date ← kalshi_date (m.text "2") (m.text "3") (m.text "4")
  let poly_sport ← kalshi_sport_to_poly.lookup sport
  return {
    sport
    poly_sport
    date
    participants_raw := (m.text participants).toLower
    side := (m.text side).toLower }

/-- `parse_kalshi_sports_ticker`. -/
def parse_kalshi_sports_ticker (ticker : String) : Option KalshiSportsMarket :=
  let text := (Text.strip ticker).toUpper
  match kalshi_game_re.at_start text with
  | some m => kalshi_sports_market m "6" "7"
  | none =>
      match kalshi_match_re.at_start text with
      | some m => kalshi_sports_market m "5" "6"
      | none => none

/-- `parse_polymarket_sports_slug`. -/
def parse_polymarket_sports_slug (slug : String) : Option PolymarketSportsSlug :=
  (poly_sports_re.at_start (Text.strip slug).toLower).map fun m =>
    { kind := m.text "1"
      sport := m.text "2"
      team1 := m.text "3"
      team2 := m.text "4"
      date := m.text "5"
      side := m.group "6" }

/-! ### What is supported -/

/-- `is_sports_like_polymarket_slug`. -/
def is_sports_like_polymarket_slug (slug : String) : Bool :=
  let text := (Text.strip slug).toLower.toList
  String.ofList (text.takeWhile (· ≠ '-')) ∈ poly_sports_prefixes

/-- `is_supported_polymarket_winner_slug`. -/
def is_supported_polymarket_winner_slug (slug : String) : Bool :=
  (parse_polymarket_sports_slug slug).any (·.kind ∈ supported_poly_winner_prefixes)

def sport_markers : List String :=
  ["MLB", "NBA", "NFL", "NHL", "MLS", "BUNDESLIGA", "SERIEA", "LALIGA", "EPL", "ATP", "WTA",
    "ITF", "UFC"]

def market_type_markers : List String :=
  ["GAME", "MATCH", "SPREAD", "TOTAL", "OVERTIME", "SINGLEGAME", "MULTIGAME", "PLAYER", "RUNS",
    "POINTS", "GOALS", "CHAMP"]

/-- `is_sports_like_kalshi_ticker`. -/
def is_sports_like_kalshi_ticker (ticker : String) : Bool :=
  let text := (Text.strip ticker).toUpper
  (parse_kalshi_sports_ticker text).isSome ||
    (Text.starts_with "KX" text && sport_markers.any (Text.occurs · text) &&
      market_type_markers.any (Text.occurs · text))

/-- `is_supported_kalshi_winner_ticker`. -/
def is_supported_kalshi_winner_ticker (ticker : String) : Bool :=
  (parse_kalshi_sports_ticker ticker).isSome

/-- `unsupported_sports_pair_reason`. -/
def unsupported_sports_pair_reason (kalshi_ticker poly_slug : String) : Option String :=
  let kalshi_sports := is_sports_like_kalshi_ticker kalshi_ticker
  let poly_sports := is_sports_like_polymarket_slug poly_slug
  if !kalshi_sports && !poly_sports then none
  else if kalshi_sports && !is_supported_kalshi_winner_ticker kalshi_ticker then
    some "unsupported_kalshi_sports_market_type"
  else if poly_sports && !is_supported_polymarket_winner_slug poly_slug then
    some "unsupported_polymarket_sports_market_type"
  else none

/-! ### Pairs -/

/-- `SportsPairSafety`. -/
structure SportsPairSafety where
  known : Bool
  safe : Bool
  reason : String
  polarity : String := "unknown"
  kalshi_side : String := ""
  polymarket_yes_side : String := ""
  deriving DecidableEq

/-- The winner a slug's Yes is for: its side, or its first team. -/
def PolymarketSportsSlug.yes_side (poly : PolymarketSportsSlug) : String :=
  match poly.side with
  | some side => normalize_entity_code side
  | none => normalize_entity_code poly.team1

/-- Two identifiers that were parsed. -/
def evaluate_parsed (kalshi : KalshiSportsMarket) (poly : PolymarketSportsSlug) :
    SportsPairSafety :=
  let kalshi_side := normalize_entity_code kalshi.side
  let poly_team2 := normalize_entity_code poly.team2
  let poly_yes_side := poly.yes_side
  let unsafe_pair (reason : String) : SportsPairSafety :=
    { known := true, safe := false, reason, kalshi_side, polymarket_yes_side := poly_yes_side }
  let sides := (kalshi.side.toLower, (poly.side.getD "").toLower)
  if kalshi.poly_sport ≠ poly.sport then unsafe_pair "sport_mismatch"
  else if kalshi.date ≠ poly.date then unsafe_pair "date_mismatch"
  else if sides = ("mtl", "mim") ∨ sides = ("mim", "mtl") then unsafe_pair "mtl_mim_mismatch"
  else if kalshi_side = poly_yes_side then
    { known := true, safe := true, reason := "same_polarity", polarity := "same", kalshi_side
      polymarket_yes_side := poly_yes_side }
  -- without a side of its own, the slug is about the first of its teams
  else if poly.side = none ∧ kalshi_side = poly_team2 then
    { unsafe_pair "flipped_polarity" with polarity := "flipped" }
  else unsafe_pair "polarity_unconfirmed"

/-- `evaluate_sports_pair`. -/
def evaluate_sports_pair (kalshi_ticker poly_slug : String) : SportsPairSafety :=
  match unsupported_sports_pair_reason kalshi_ticker poly_slug with
  | some reason => { known := true, safe := false, reason }
  | none =>
      match parse_kalshi_sports_ticker kalshi_ticker, parse_polymarket_sports_slug poly_slug with
      | some kalshi, some poly => evaluate_parsed kalshi poly
      | _, _ => { known := false, safe := true, reason := "not_structured_sports_pair" }

/-- Two contracts that are read, and supported, are evaluated. -/
theorem evaluate_sports_pair_read {kalshi_ticker poly_slug : String}
    {kalshi : KalshiSportsMarket} {poly : PolymarketSportsSlug}
    (hsupported : unsupported_sports_pair_reason kalshi_ticker poly_slug = none)
    (hkalshi : parse_kalshi_sports_ticker kalshi_ticker = some kalshi)
    (hpoly : parse_polymarket_sports_slug poly_slug = some poly) :
    evaluate_sports_pair kalshi_ticker poly_slug = evaluate_parsed kalshi poly := by
  delta evaluate_sports_pair
  simp only [hsupported, hkalshi, hpoly]

end Sports
