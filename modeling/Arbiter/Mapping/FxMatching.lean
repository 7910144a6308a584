import Arbiter.Framework.Regex
import Arbiter.Mapping.Promotion
import Arbiter.Mapping.Replay

/-! # The Matching of Contracts

  `fx_cross_platform_matcher`: the texts of contracts of ForecastEx and of markets of Kalshi are
  read with patterns, for a threshold, a direction, a period and a unit. Contracts of one family
  whose thresholds are the same are matched, and the matches are written as tradable.

  The thresholds are compared as they are written with ten decimals. A direction or a period
  that was not found fits any, "above" fits "at or above", and units are not compared.

  ## Contents

  - Section 1: families.
  - Section 2: patterns, and what is read with them.
  - Section 3: contracts.
  - Section 4: the matching.
  - Section 5: periods are without the separator of keys.
  - Section 6: what is written agrees.
-/

namespace FxMatching

open Effect Regex
open Mapping (MarketMapping MatchResult)

/-! ## Section 1: Families -/

/-- `FXFamily`, as far as the matching uses it. -/
structure FXFamily where
  /-- `fx_symbol_prefix` -/
  fx_prefix_symbol : String
  name : String
  tags : List String
  deriving DecidableEq

/-- `FX_FAMILIES` -/
def fx_families : List FXFamily :=
  [⟨"FF", "FOMC Fed Funds Rate", ["economics", "fed", "rates"]⟩,
    ⟨"CPIY", "CPI Year-over-Year", ["economics", "cpi", "inflation"]⟩,
    ⟨"UNR", "Unemployment Rate", ["economics", "employment", "unemployment"]⟩,
    ⟨"RGDP", "Real GDP Growth", ["economics", "gdp"]⟩,
    ⟨"IJC", "Initial Jobless Claims", ["economics", "employment", "jobless"]⟩,
    ⟨"RSM", "Retail Sales Monthly", ["economics", "retail"]⟩,
    ⟨"HS", "Housing Starts", ["economics", "housing"]⟩,
    ⟨"BPMI", "Building Permits", ["economics", "housing", "permits"]⟩,
    ⟨"PREMP", "Payroll Employment / Nonfarm Payrolls", ["economics", "employment", "payrolls"]⟩,
    ⟨"CP", "Consumer Prices", ["economics", "cpi", "consumer"]⟩,
    ⟨"ND", "National Debt", ["economics", "debt"]⟩,
    ⟨"GT", "Global Temperature", ["weather", "climate", "temperature"]⟩,
    ⟨"GCE", "Gold / Commodities", ["economics", "commodities", "gold"]⟩,
    ⟨"PPIY", "PPI Year-over-Year", ["economics", "ppi", "inflation"]⟩,
    ⟨"PCEY", "PCE Year-over-Year", ["economics", "pce", "inflation"]⟩,
    ⟨"JOLT", "JOLTS Job Openings", ["economics", "employment", "jolts"]⟩,
    ⟨"NHS", "New Home Sales", ["economics", "housing"]⟩]

/-! ## Section 2: Patterns -/

/-- A letter without its case. The long s and the sign of the Kelvin are letters of ours under
    `IGNORECASE`. -/
def folded (c : Char) : Char :=
  if c.toNat = 0x17F then 's' else if c.toNat = 0x212A then 'k' else c.toLower

/-- A text in any case. -/
def text_ci (s : String) : Re := .all (s.toList.map fun c => .char fun d => folded d = folded c)

def texts_ci (l : List String) : Re := .any (l.map text_ci)

/-- One of some characters, in any case. -/
def one_of_ci (s : String) : Re := .char fun c => folded c ∈ s.toList.map folded

/-- `\s` -/
def white : Re :=
  .char fun c =>
    (9 ≤ c.toNat && c.toNat ≤ 13) || (28 ≤ c.toNat && c.toNat ≤ 32) ||
      (0x2000 ≤ c.toNat && c.toNat ≤ 0x200A) ||
      c.toNat ∈ [0x85, 0xA0, 0x1680, 0x2028, 0x2029, 0x202F, 0x205F, 0x3000]

/-- `-?[\d,]+(?:\.\d+)?` -/
def number_re : Re :=
  .all [.opt (.text "-"), .plus (.char fun c => (digit_value c).isSome || c = ','),
    .opt (.all [.text ".", .plus digit])]

/-- `[%KMBCFkmbcf°]?` -/
def unit_re : Re := .opt (one_of_ci "%KMBCF°")

/-- `-T(?P<threshold>-?[\d]+(?:\.\d+)?)\b` -/
def ticker_threshold_re : Re :=
  .all [text_ci "-T",
    .group "threshold" (.all [.opt (.text "-"), .plus digit, .opt (.all [.text ".", .plus digit])]),
    .boundary]

/-- `(?:at\s+or\s+)?` -/
def at_or_re : Re := .opt (.all [text_ci "at", .plus white, text_ci "or", .plus white])

/-- `_THRESHOLD_PATTERNS` -/
def threshold_patterns : List Re :=
  [.all [.group "direction" (.any [.seq at_or_re (text_ci "above"), .seq at_or_re (text_ci "below"),
        text_ci "between"]),
      .plus white, .group "threshold" number_re, .star white, .group "unit" unit_re],
    .all [.group "direction" (.all [one_of_ci "<>≤≥", .opt (.text "=")]),
      .star white, .group "threshold" number_re, .star white, .group "unit" unit_re],
    ticker_threshold_re]

/-- `_MONTH_MAP` -/
def month_map : List (String × String) :=
  [("jan", "01"), ("feb", "02"), ("mar", "03"), ("apr", "04"), ("may", "05"), ("jun", "06"),
    ("jul", "07"), ("aug", "08"), ("sep", "09"), ("oct", "10"), ("nov", "11"), ("dec", "12")]

/-- The names of the months, as they begin. -/
def month_re : Re := texts_ci (month_map.map (·.1))

/-- `[1-4]` -/
def quarter_re : Re := .char fun c => c ∈ ['1', '2', '3', '4']

/-- `\d{0,2}` -/
def day_re : Re := .opt (.seq digit (.opt digit))

/-- `_PERIOD_PATTERNS` -/
def period_patterns : List Re :=
  [.group "period" (.all [month_re, .star (.char fun c => in_word (some c)), .plus white,
      .times 4 digit]),
    .group "period" (.alt (.all [text_ci "Q", quarter_re, .plus white, .times 4 digit])
      (.all [.times 4 digit, .plus white, text_ci "Q", quarter_re])),
    .group "period" (.all [.times 2 digit, month_re, day_re])]

/-- The digit of ours for a digit. -/
def ascii (c : Char) : Char := ((digit_value c).map Decimal.digit_char).getD c

/-- `float(text.replace(",", ""))`, of a text that `number_re` matches. -/
def float_of (text : String) : Option ℚ :=
  match (text.toList.filter (· ≠ ',')).map ascii with
  | '-' :: digits => (Decimal.read (String.ofList digits)).map fun q => -(q : ℚ)
  | digits => (Decimal.read (String.ofList digits)).map fun q => (q : ℚ)

/-- The first pattern that matches with a threshold that converts. -/
def first_threshold (text : String) : Option (Match × ℚ) :=
  threshold_patterns.findSome? fun pattern => do
    let m ← pattern.search text
    let threshold ← float_of (m.text "threshold")
    return (m, threshold)

/-- `_normalize_direction` -/
def normalize_direction (raw : String) : String :=
  let lower := Text.strip raw.toLower
  if Text.occurs "at or above" lower || Text.occurs "at_or_above" lower || lower ∈ [">=", "≥"] then
    "at_or_above"
  else if Text.occurs "at or below" lower || Text.occurs "at_or_below" lower ||
      lower ∈ ["<=", "≤"] then
    "at_or_below"
  else if lower ∈ ["above", ">"] then "above"
  else if lower ∈ ["below", "<"] then "below"
  else lower

/-- `(?P<mon>[A-Za-z]+)\s+(?P<year>\d{4})` -/
def month_year_re : Re :=
  .all [.group "mon" (.plus (.char Char.isAlpha)), .plus white, .group "year" (.times 4 digit)]

/-- `Q(?P<q>[1-4])\s+(?P<year>\d{4})`, and the other way round. -/
def quarter_year_res : List Re :=
  [.all [.text "Q", .group "q" quarter_re, .plus white, .group "year" (.times 4 digit)],
    .all [.group "year" (.times 4 digit), .plus white, .text "Q", .group "q" quarter_re]]

/-- `(?P<yy>\d{2})(?P<mon>[A-Za-z]{3})(?P<dd>\d{0,2})` -/
def ticker_date_re : Re :=
  .all [.group "yy" (.times 2 digit), .group "mon" (.times 3 (.char Char.isAlpha)),
    .group "dd" day_re]

/-- "Jun 2026", as "2026-06". -/
def month_period (raw : String) : Option String := do
  let m ← month_year_re.at_start raw
  let mon ← month_map.lookup (String.ofList ((m.text "mon").toList.take 3)).toLower
  return m.text "year" ++ "-" ++ mon

/-- "Q2 2026", as "2026-Q2". -/
def quarter_period (raw : String) : Option String := do
  let m ← quarter_year_res.findSome? (·.at_start raw)
  return m.text "year" ++ "-Q" ++ m.text "q"

/-- "26JUN", as "2026-06". -/
def ticker_period (raw : String) : Option String := do
  let m ← ticker_date_re.at_start raw
  let mon ← month_map.lookup (m.text "mon").toLower
  return "20" ++ m.text "yy" ++ "-" ++ mon

/-- `_normalize_period` -/
def normalize_period (raw : String) : String :=
  let raw := Text.strip raw
  (((month_period raw).or (quarter_period raw)).or (ticker_period raw)).getD raw

/-- The period of the first pattern that matches; empty where none does. -/
def first_period (text : String) : String :=
  ((period_patterns.findSome? (·.search text)).map fun m => normalize_period (m.text "period")).getD
    ""

/-! ## Section 3: Contracts -/

/-- `ParsedContract` -/
structure Contract where
  symbol : String
  conid : String := ""
  threshold : Option ℚ
  direction : String
  period : String
  unit : String
  right : String := ""
  deriving DecidableEq

/-- A contract of ForecastEx, as it is listed. -/
structure FxListing where
  description : String
  symbol : String
  conid : String
  strike : Option ℚ
  right : String

/-- A market of Kalshi, as it is listed. -/
structure KalshiListing where
  ticker : String
  title : String
  subtitle : String

/-- The direction that goes with a threshold; the pattern of tickers has none. -/
def direction_of (m : Match) : String := ((m.group "direction").map normalize_direction).getD ""

/-- The unit that does. -/
def unit_of (m : Match) : String := ((m.group "unit").map Text.strip).getD ""

/-- `parse_fx_contract` -/
def parse_fx_contract (l : FxListing) : Contract :=
  let found := first_threshold l.description
  let period := first_period l.description
  { symbol := l.symbol
    conid := l.conid
    threshold := (found.map (·.2)).or l.strike
    direction := (found.map fun found => direction_of found.1).getD ""
    period := if period = "" then first_period l.symbol else period
    unit := (found.map fun found => unit_of found.1).getD ""
    right := l.right }

/-- The direction that the words of a title say. -/
def direction_of_words (combined_lower : String) : String :=
  let tells (l : List String) : Bool := l.any (Text.occurs · combined_lower)
  if tells ["at or above", "or higher"] then "at_or_above"
  else if tells ["at or below", "or lower"] then "at_or_below"
  else if tells ["above", "over", "higher than"] then "above"
  else if tells ["below", "under", "lower than"] then "below"
  else if tells ["between"] then "between"
  else ""

/-- `parse_kalshi_market`. The ticker goes first; a threshold in it is without a direction and a
    unit. -/
def parse_kalshi_market (l : KalshiListing) : Contract :=
  let combined_text := l.ticker ++ " " ++ l.title ++ " " ++ l.subtitle
  let in_ticker :=
    (ticker_threshold_re.search l.ticker).bind fun m => float_of (m.text "threshold")
  let found := if in_ticker.isSome then none else first_threshold combined_text
  let direction := (found.map fun found => direction_of found.1).getD ""
  let period := first_period l.ticker
  { symbol := l.ticker
    threshold := in_ticker.or (found.map (·.2))
    direction := if direction = "" then direction_of_words combined_text.toLower else direction
    period := if period = "" then first_period l.title else period
    unit := (found.map fun found => unit_of found.1).getD "" }

/-! ## Section 4: The matching -/

/-- The threshold with ten decimals, without the zeros at its end but for one behind the
    point. -/
def decimals (threshold : ℚ) : String :=
  let formatted := (Decimal.fixed_signed 10 threshold).toList.rdropWhile (· = '0')
  String.ofList (if formatted.getLast? = some '.' then formatted ++ ['0'] else formatted)

namespace Contract

/-- `threshold_key` -/
def threshold_key (c : Contract) : String := (c.threshold.map decimals).getD ""

/-- `match_key` -/
def match_key (c : Contract) : String :=
  c.direction ++ "|" ++ c.threshold_key ++ "|" ++ c.period

/-- What goes into the criteria. -/
def parsed (c : Contract) : Mapping.ParsedContract :=
  ⟨c.symbol, c.threshold_key, c.direction, c.period, c.right⟩

end Contract

/-- `threshold_matches_exactly` -/
def threshold_matches_exactly (fx kalshi : Contract) : Bool :=
  fx.threshold.isSome && kalshi.threshold.isSome && fx.threshold_key = kalshi.threshold_key

/-- `direction_compatible` -/
def direction_compatible (fx kalshi : Contract) : Bool :=
  fx.direction = "" || kalshi.direction = "" || fx.direction = kalshi.direction ||
    (fx.direction ∈ ["above", "at_or_above"] && kalshi.direction ∈ ["above", "at_or_above"]) ||
    (fx.direction ∈ ["below", "at_or_below"] && kalshi.direction ∈ ["below", "at_or_below"])

/-- `period_compatible` -/
def period_compatible (fx kalshi : Contract) : Bool :=
  fx.period = "" || kalshi.period = "" || fx.period = kalshi.period

/-- The contracts by their keys, in the order of the first of each. -/
def by_key (l : List Contract) : List (String × List Contract) :=
  (l.map (·.match_key)).eraseDups.map fun key => (key, l.filter (·.match_key = key))

/-- A contract of ForecastEx and one of Kalshi, with the conid of the NO. -/
structure Pairing where
  fx : Contract
  kalshi : Contract
  family : FXFamily
  fx_no_conid : String
  deriving DecidableEq

/-- The markets of Kalshi that a key leads to. -/
def kalshi_candidates (kalshi_list : List Contract) (key : String) (yes_contract : Contract) :
    List Contract :=
  let same_key := kalshi_list.filter (·.match_key = key)
  if same_key ≠ [] then same_key
  else
    (by_key kalshi_list).flatMap fun group => group.2.filter fun km =>
      threshold_matches_exactly yes_contract km && direction_compatible yes_contract km &&
        period_compatible yes_contract km

/-- One group of ForecastEx against the markets of its family. -/
def match_group (family : FXFamily) (kalshi_list : List Contract)
    (group : String × List Contract) : Option Pairing := do
  let first ← group.2.head?
  let yes_contract := (group.2.find? (·.right ∈ ["C", "Y", "YES", "1", ""])).getD first
  let no_contract := group.2.find? (·.right ∈ ["P", "N", "NO", "0", "PUT"])
  let candidates := kalshi_candidates kalshi_list group.1 yes_contract
  let first_kalshi ← candidates.head?
  let best_kalshi := (candidates.find? (·.direction = yes_contract.direction)).getD first_kalshi
  if threshold_matches_exactly yes_contract best_kalshi then
    some ⟨yes_contract, best_kalshi, family, (no_contract.map (·.conid)).getD ""⟩
  else none

/-- The pairs that `match_contracts` finds, of lists by family. A later family of the same prefix
    takes the place of an earlier one. -/
def pairings (families : List FXFamily)
    (fx_contracts kalshi_markets : List (String × List Contract)) : List Pairing :=
  fx_contracts.flatMap fun (indicator, fx_list) =>
    match families.reverse.find? (·.fx_prefix_symbol = indicator) with
    | none => []
    | some family =>
        (by_key fx_list).filterMap (match_group family ((kalshi_markets.lookup indicator).getD []))

/-- `_generate_canonical_id` -/
def generate_canonical_id (family : FXFamily) (c : Contract) : String :=
  "_".intercalate (["FX_" ++ family.fx_prefix_symbol] ++
    (if c.period = "" then [] else [String.ofList (c.period.toList.filter (· ≠ '-'))]) ++
    (if c.direction = "" then []
      else [String.ofList (c.direction.toUpper.toList.filter (· ≠ '_'))]) ++
    (if c.threshold.isSome then ["T" ++ c.threshold_key] else []))

/-- `MatchResult`, of a pair. -/
def Pairing.result (p : Pairing) : MatchResult where
  fx_contract := p.fx.parsed
  kalshi_contract := p.kalshi.parsed
  family_name := p.family.name
  family_tags := p.family.tags
  canonical_id := generate_canonical_id p.family p.fx
  description := Text.strip (p.family.name ++ ": " ++
    String.ofList (p.fx.direction.toList.map fun c => if c = '_' then ' ' else c) ++ " " ++
    p.fx.threshold_key ++ p.fx.unit ++ " (" ++ p.fx.period ++ ")")
  match_quality :=
    if p.fx.direction ≠ "" ∧ p.kalshi.direction ≠ "" ∧ p.fx.direction = p.kalshi.direction then
      "exact_with_direction"
    else "exact_threshold"
  fx_yes_conid := p.fx.conid
  fx_no_conid := p.fx_no_conid
  kalshi_ticker := p.kalshi.symbol

/-- `match_contracts` -/
def match_contracts (families : List FXFamily)
    (fx_contracts kalshi_markets : List (String × List Contract)) : List MatchResult :=
  (pairings families fx_contracts kalshi_markets).map Pairing.result

/-- The contracts that are read from listings, by family. One without a threshold is left out. -/
def read_all {α : Type} (parse : α → Contract) (listings : List (String × List α)) :
    List (String × List Contract) :=
  listings.map fun (indicator, l) => (indicator, (l.map parse).filter (·.threshold.isSome))

/-! ## Section 5: Keys -/

/-- A text without zeros at its end does not end in one. -/
theorem getLast?_trimmed (l : List Char) :
    (l.rdropWhile (· = '0')).getLast? ≠ some '0' := by
  intro h
  obtain ⟨front, hfront⟩ := List.getLast?_eq_some_iff.1 h
  have hne : l.rdropWhile (· = '0') ≠ [] := by simp [hfront]
  have hlast := List.rdropWhile_last_not (fun c => decide (c = '0')) l hne
  rw [List.getLast?_eq_some_getLast hne, Option.some_inj] at h
  exact hlast (by simp [h])

/-- Zeros at the end are decimals. -/
theorem length_decimals_append (l : List Char) (n : ℕ) :
    ((l ++ List.replicate n '0').rtakeWhile (· ≠ '.')).length =
      n + (l.rtakeWhile (· ≠ '.')).length := by
  have hzeros : ∀ c ∈ List.replicate n '0', decide (c ≠ '.') = true := by
    intro c hc
    rw [List.eq_of_mem_replicate hc]
    decide
  rw [List.rtakeWhile, List.rtakeWhile, List.length_reverse, List.length_reverse,
    List.reverse_append, List.reverse_replicate, List.takeWhile_append_of_pos hzeros,
    List.length_append, List.length_replicate]

/-- Thresholds with one key are the same with ten decimals. -/
theorem round_to_of_decimals {t u : ℚ} (h : decimals t = decimals u) :
    Decimal.round_to 10 t = Decimal.round_to 10 u := by
  -- what is trimmed are zeros
  have hsplit (q : ℚ) : ∃ n, (Decimal.fixed_signed 10 q).toList =
      (Decimal.fixed_signed 10 q).toList.rdropWhile (· = '0') ++ List.replicate n '0' := by
    have hzeros := List.eq_replicate_of_mem (a := '0')
      (l := (Decimal.fixed_signed 10 q).toList.rtakeWhile (· = '0'))
      fun c hc => by simpa using List.mem_rtakeWhile_imp hc
    refine ⟨((Decimal.fixed_signed 10 q).toList.rtakeWhile (· = '0')).length, ?_⟩
    rw [← hzeros, List.rdropWhile_append_rtakeWhile]
  have htrimmed : (Decimal.fixed_signed 10 t).toList.rdropWhile (· = '0') =
      (Decimal.fixed_signed 10 u).toList.rdropWhile (· = '0') := by
    have hkey := String.ofList_injective h
    have hlast_t := getLast?_trimmed (Decimal.fixed_signed 10 t).toList
    have hlast_u := getLast?_trimmed (Decimal.fixed_signed 10 u).toList
    split at hkey <;> split at hkey
    · exact List.append_cancel_right hkey
    · rw [← hkey] at hlast_u
      simp at hlast_u
    · rw [hkey] at hlast_t
      simp at hlast_t
    · exact hkey
  obtain ⟨n, hn⟩ := hsplit t
  obtain ⟨m, hm⟩ := hsplit u
  have hlength_t := Decimal.length_decimals (k := 10) (by decide) t
  have hlength_u := Decimal.length_decimals (k := 10) (by decide) u
  rw [hn, length_decimals_append] at hlength_t
  rw [hm, ← htrimmed, length_decimals_append] at hlength_u
  have hzeros : n = m := by omega
  apply Decimal.round_to_of_fixed_signed
  apply String.toList_injective
  rw [hn, hm, htrimmed, hzeros]

theorem strip_avoids {c : Char} {s : String} (h : c ∉ s.toList) : c ∉ (Text.strip s).toList := by
  rw [Text.strip, String.toList_ofList, List.mem_reverse]
  intro hmem
  have hback := (List.dropWhile_suffix _).subset hmem
  exact h ((List.dropWhile_suffix _).subset (List.mem_reverse.1 hback))

/-- The months are numbers. -/
theorem month_avoids {name mon : String} (h : month_map.lookup name = some mon) :
    '|' ∉ mon.toList := by
  obtain ⟨before, after, hmap, -⟩ := List.lookup_eq_some_iff.1 h
  have hmem : (name, mon) ∈ month_map := by simp [hmap]
  have hall : ∀ entry ∈ month_map, '|' ∉ entry.2.toList := by decide
  exact hall _ hmem

/-- A period has no separator in it. -/
theorem normalize_period_avoids {raw : String} (h : '|' ∉ raw.toList) :
    '|' ∉ (normalize_period raw).toList := by
  have hmonth : ∀ p, month_period (Text.strip raw) = some p → '|' ∉ p.toList := by
    intro p hp
    simp only [month_period, Option.bind_eq_bind, Option.bind_eq_some_iff, Option.pure_def,
      Option.some.injEq] at hp
    obtain ⟨m, hm, mon, hmon, rfl⟩ := hp
    have hyear := at_start_avoids (c := '|') (by decide) hm "year"
    simp [hyear, month_avoids hmon]
  have hquarter : ∀ p, quarter_period (Text.strip raw) = some p → '|' ∉ p.toList := by
    intro p hp
    simp only [quarter_period, Option.bind_eq_bind, Option.bind_eq_some_iff, Option.pure_def,
      Option.some.injEq] at hp
    obtain ⟨m, hm, rfl⟩ := hp
    obtain ⟨r, hr, hm⟩ := List.exists_of_findSome?_eq_some hm
    have havoids : ∀ r ∈ quarter_year_res, r.avoids '|' = true := by decide
    have hgroup := at_start_avoids (havoids r hr) hm
    simp [hgroup "year", hgroup "q"]
  have hticker : ∀ p, ticker_period (Text.strip raw) = some p → '|' ∉ p.toList := by
    intro p hp
    simp only [ticker_period, Option.bind_eq_bind, Option.bind_eq_some_iff, Option.pure_def,
      Option.some.injEq] at hp
    obtain ⟨m, hm, mon, hmon, rfl⟩ := hp
    have hyear := at_start_avoids (c := '|') (by decide) hm "yy"
    simp [hyear, month_avoids hmon]
  -- the readers in their order, and the text itself where none reads it
  unfold normalize_period
  cases hm : month_period (Text.strip raw) with
  | some p =>
    simp only [hm, Option.some_or, Option.getD_some]
    exact hmonth p hm
  | none =>
    cases hq : quarter_period (Text.strip raw) with
    | some p =>
      simp only [hm, hq, Option.none_or, Option.some_or, Option.getD_some]
      exact hquarter p hq
    | none =>
      cases ht : ticker_period (Text.strip raw) with
      | some p =>
        simp only [hm, hq, ht, Option.none_or, Option.getD_some]
        exact hticker p ht
      | none =>
        simp only [hm, hq, ht, Option.none_or, Option.getD_none]
        exact strip_avoids h

theorem first_period_avoids (text : String) : '|' ∉ (first_period text).toList := by
  unfold first_period
  cases hfound : period_patterns.findSome? (·.search text) with
  | none => simp
  | some m =>
    obtain ⟨r, hr, hm⟩ := List.exists_of_findSome?_eq_some hfound
    have havoids : ∀ r ∈ period_patterns, r.avoids '|' = true := by decide
    rw [Option.map_some, Option.getD_some]
    exact normalize_period_avoids (search_avoids (havoids r hr) hm "period")

theorem parse_fx_contract_period (l : FxListing) : '|' ∉ (parse_fx_contract l).period.toList := by
  show '|' ∉ (if first_period l.description = "" then first_period l.symbol
    else first_period l.description).toList
  split <;> exact first_period_avoids _

theorem parse_kalshi_market_period (l : KalshiListing) :
    '|' ∉ (parse_kalshi_market l).period.toList := by
  show '|' ∉ (if first_period l.ticker = "" then first_period l.title
    else first_period l.ticker).toList
  split <;> exact first_period_avoids _

/-- Contracts of one key and one threshold have one direction and one period. -/
theorem eq_of_match_key {c d : Contract} (hc : '|' ∉ c.period.toList) (hd : '|' ∉ d.period.toList)
    (hthreshold : c.threshold_key = d.threshold_key) (hkey : c.match_key = d.match_key) :
    c.direction = d.direction ∧ c.period = d.period := by
  obtain ⟨hfront, hperiod⟩ := Text.append_sep_inj rfl hc hd hkey
  rw [hthreshold, String.append_left_inj, String.append_left_inj] at hfront
  exact ⟨hfront, hperiod⟩


/-! ## Section 6: What is written agrees -/

/-- What is compared of two contracts fits: the thresholds are there, and the same with ten
    decimals; the directions are the same or differ in strictness only, and the periods are the
    same, unless one of them was not found. -/
structure Agree (fx kalshi : Contract) : Prop where
  threshold : ∃ t u, fx.threshold = some t ∧ kalshi.threshold = some u ∧
    Decimal.round_to 10 t = Decimal.round_to 10 u
  direction : fx.direction = "" ∨ kalshi.direction = "" ∨ fx.direction = kalshi.direction ∨
    (fx.direction ∈ ["above", "at_or_above"] ∧ kalshi.direction ∈ ["above", "at_or_above"]) ∨
    (fx.direction ∈ ["below", "at_or_below"] ∧ kalshi.direction ∈ ["below", "at_or_below"])
  period : fx.period = "" ∨ kalshi.period = "" ∨ fx.period = kalshi.period

/-- Two contracts name one threshold, in one unit, direction and period. -/
structure SameQuestion (fx kalshi : Contract) : Prop where
  threshold : ∃ t, fx.threshold = some t ∧ kalshi.threshold = some t
  unit : fx.unit ≠ "" ∧ fx.unit = kalshi.unit
  direction : fx.direction ≠ "" ∧ fx.direction = kalshi.direction
  period : fx.period ≠ "" ∧ fx.period = kalshi.period

/-- The two contracts are read from listings of one family. -/
structure ListedTogether (families : List FXFamily) (fx : List (String × List FxListing))
    (kalshi : List (String × List KalshiListing)) (p : Pairing) : Prop where
  family : p.family ∈ families
  fx : ∃ l, (p.family.fx_prefix_symbol, l) ∈ fx ∧ ∃ listing ∈ l, p.fx = parse_fx_contract listing
  kalshi : ∃ l, (p.family.fx_prefix_symbol, l) ∈ kalshi ∧
    ∃ listing ∈ l, p.kalshi = parse_kalshi_market listing

/-- A candidate has the key, or was compared. -/
theorem mem_kalshi_candidates {kalshi_list : List Contract} {key : String}
    {yes_contract km : Contract} (h : km ∈ kalshi_candidates kalshi_list key yes_contract) :
    km ∈ kalshi_list ∧ (km.match_key = key ∨
      (direction_compatible yes_contract km = true ∧
        period_compatible yes_contract km = true)) := by
  unfold kalshi_candidates at h
  dsimp only at h
  split at h
  · obtain ⟨hmem, hkey⟩ := List.mem_filter.1 h
    exact ⟨hmem, .inl (of_decide_eq_true hkey)⟩
  · obtain ⟨group, hgroup, hkm⟩ := List.mem_flatMap.1 h
    obtain ⟨key', -, rfl⟩ := List.mem_map.1 hgroup
    obtain ⟨hmem, hcompared⟩ := List.mem_filter.1 hkm
    rw [Bool.and_eq_true, Bool.and_eq_true] at hcompared
    exact ⟨(List.mem_filter.1 hmem).1, .inr ⟨hcompared.1.2, hcompared.2⟩⟩

theorem mem_of_find_getD {α : Type} {l : List α} {p : α → Bool} {first : α}
    (hfirst : l.head? = some first) : (l.find? p).getD first ∈ l := by
  cases hfind : l.find? p with
  | none => exact List.mem_of_mem_head? hfirst
  | some a => exact List.mem_of_find?_eq_some hfind

/-- A pair of a group: one contract of it, and a candidate with the same threshold. -/
theorem match_group_eq_some {family : FXFamily} {kalshi_list : List Contract}
    {group : String × List Contract} {p : Pairing}
    (h : match_group family kalshi_list group = some p) :
    p.family = family ∧ p.fx ∈ group.2 ∧
      p.kalshi ∈ kalshi_candidates kalshi_list group.1 p.fx ∧
      threshold_matches_exactly p.fx p.kalshi = true := by
  simp only [match_group, Option.bind_eq_bind, Option.bind_eq_some_iff,
    Option.ite_none_right_eq_some, Option.some.injEq] at h
  obtain ⟨first, hfirst, first_kalshi, hkalshi, hmatches, rfl⟩ := h
  exact ⟨rfl, mem_of_find_getD hfirst, mem_of_find_getD hkalshi, hmatches⟩

/-- Every pair is of one family, and was compared. -/
theorem mem_pairings {families : List FXFamily} {fx kalshi : List (String × List Contract)}
    {p : Pairing} (h : p ∈ pairings families fx kalshi) :
    p.family ∈ families ∧ (∃ l, (p.family.fx_prefix_symbol, l) ∈ fx ∧ p.fx ∈ l) ∧
      (∃ l, (p.family.fx_prefix_symbol, l) ∈ kalshi ∧ p.kalshi ∈ l) ∧
      threshold_matches_exactly p.fx p.kalshi = true ∧
      (p.kalshi.match_key = p.fx.match_key ∨
        (direction_compatible p.fx p.kalshi = true ∧ period_compatible p.fx p.kalshi = true)) := by
  unfold pairings at h
  obtain ⟨⟨indicator, fx_list⟩, hlisted, hp⟩ := List.mem_flatMap.1 h
  cases hfamily : families.reverse.find? (·.fx_prefix_symbol = indicator) with
  | none => simp [hfamily] at hp
  | some family =>
    simp only [hfamily] at hp
    -- one pair for each group of ForecastEx contracts with one key
    obtain ⟨group, hgroup, hmatched⟩ := List.mem_filterMap.1 hp
    obtain ⟨rfl, hfx, hcandidate, hthreshold⟩ := match_group_eq_some hmatched
    obtain ⟨key, -, rfl⟩ := List.mem_map.1 hgroup
    obtain ⟨hmem, hkey⟩ := List.mem_filter.1 hfx
    obtain ⟨hkalshi, hcompared⟩ := mem_kalshi_candidates hcandidate
    have hindicator : p.family.fx_prefix_symbol = indicator := by
      simpa using List.find?_some hfamily
    rw [hindicator]
    refine ⟨List.mem_reverse.1 (List.mem_of_find?_eq_some hfamily), ⟨fx_list, hlisted, hmem⟩,
      ?_, hthreshold, ?_⟩
    · cases hlookup : kalshi.lookup indicator with
      | none => simp [hlookup] at hkalshi
      | some l =>
        rw [hlookup, Option.getD_some] at hkalshi
        obtain ⟨before, after, rfl, -⟩ := List.lookup_eq_some_iff.1 hlookup
        exact ⟨l, by simp, hkalshi⟩
    · rw [of_decide_eq_true hkey]
      exact hcompared

theorem mem_read_all {α : Type} {parse : α → Contract} {listings : List (String × List α)}
    {indicator : String} {l : List Contract} {c : Contract}
    (h : (indicator, l) ∈ read_all parse listings) (hc : c ∈ l) :
    ∃ l, (indicator, l) ∈ listings ∧ ∃ listing ∈ l, c = parse listing := by
  obtain ⟨⟨indicator', listed⟩, hmem, heq⟩ := List.mem_map.1 h
  obtain ⟨rfl, rfl⟩ := Prod.mk.inj heq
  obtain ⟨listing, hlisting, rfl⟩ := List.mem_map.1 (List.mem_filter.1 hc).1
  exact ⟨listed, hmem, listing, hlisting, rfl⟩

theorem threshold_matches_exactly_iff {fx kalshi : Contract} :
    threshold_matches_exactly fx kalshi = true ↔ fx.threshold.isSome = true ∧
      kalshi.threshold.isSome = true ∧ fx.threshold_key = kalshi.threshold_key := by
  unfold threshold_matches_exactly
  rw [Bool.and_eq_true, Bool.and_eq_true, decide_eq_true_eq, and_assoc]

/-- What matches exactly is the same with ten decimals. -/
theorem threshold_matches_exactly_agrees {fx kalshi : Contract}
    (h : threshold_matches_exactly fx kalshi = true) :
    ∃ t u, fx.threshold = some t ∧ kalshi.threshold = some u ∧
      Decimal.round_to 10 t = Decimal.round_to 10 u := by
  obtain ⟨hfx, hkalshi, hkey⟩ := threshold_matches_exactly_iff.1 h
  obtain ⟨t, ht⟩ := Option.isSome_iff_exists.1 hfx
  obtain ⟨u, hu⟩ := Option.isSome_iff_exists.1 hkalshi
  simp only [Contract.threshold_key, ht, hu, Option.map_some, Option.getD_some] at hkey
  exact ⟨t, u, ht, hu, round_to_of_decimals hkey⟩

/-- A pair that is found among listings is of one family, and agrees. -/
theorem pairings_agree {families : List FXFamily} {fx : List (String × List FxListing)}
    {kalshi : List (String × List KalshiListing)} {p : Pairing}
    (h : p ∈ pairings families (read_all parse_fx_contract fx)
      (read_all parse_kalshi_market kalshi)) :
    ListedTogether families fx kalshi p ∧ Agree p.fx p.kalshi := by
  obtain ⟨hfamily, ⟨fx_list, hfx, hmem_fx⟩, ⟨kalshi_list, hkalshi, hmem_kalshi⟩, hthreshold,
    hcompared⟩ := mem_pairings h
  have hlisted_fx := mem_read_all hfx hmem_fx
  have hlisted_kalshi := mem_read_all hkalshi hmem_kalshi
  refine ⟨⟨hfamily, hlisted_fx, hlisted_kalshi⟩, ?_⟩
  rcases hcompared with hkey | ⟨hdirection, hperiod⟩
  · -- one key is one direction and one period
    obtain ⟨-, -, listing, -, hparsed⟩ := hlisted_fx
    obtain ⟨-, -, market, -, hmarket⟩ := hlisted_kalshi
    have hsame := eq_of_match_key (hparsed ▸ parse_fx_contract_period listing)
      (hmarket ▸ parse_kalshi_market_period market)
      (threshold_matches_exactly_iff.1 hthreshold).2.2 hkey.symm
    exact ⟨threshold_matches_exactly_agrees hthreshold, .inr (.inr (.inl hsame.1)),
      .inr (.inr hsame.2)⟩
  · unfold direction_compatible at hdirection
    unfold period_compatible at hperiod
    simp only [Bool.or_eq_true, Bool.and_eq_true, decide_eq_true_eq, or_assoc] at hdirection hperiod
    exact ⟨threshold_matches_exactly_agrees hthreshold, hdirection, hperiod⟩


/-! ### The insert pass -/

section insert

variable {spelled : Json ℚ → String} {quoted : String → String}

/-- The only row that `upsert` inserts is the one it was given, after the check. -/
theorem upsert_inserts {ok : MarketMapping → Prop} {m : MarketMapping}
    (hm : ok (Mapping.enforce_auto_trade_safety spelled m)) :
    Raising.Calls (fun c => ∀ row, c = .insert row → ok row) (Mapping.upsert spelled m) := by
  unfold Mapping.upsert
  refine Raising.Calls.bind ?_ fun _ => Raising.Calls.bind ?_ fun expired =>
    Raising.Calls.bind ?_ fun _ => Raising.Calls.bind ?_ fun _ => Raising.calls_pure _
  · -- the `INSERT`
    refine calls_send.2 fun row hrow => ?_
    cases hrow
    exact hm
  · unfold Mapping.expire_duplicate_exact_pair_mappings
    simp only [Raising.calls_ite, Raising.calls_pure, implies_true, true_and]
    intro _ _
    exact calls_send.2 fun row hrow => by cases hrow
  · exact Raising.Calls.lift (calls_send.2 fun row hrow => by cases hrow)
  · exact Raising.Calls.lift (calls_send.2 fun row hrow => by cases hrow)

/-- The rows that the insert pass inserts are those of its matches. -/
theorem insert_verified_mappings_inserts (now : String) (matches_found : List MatchResult)
    (dry_run : Bool) :
    Raising.Calls (fun c => ∀ row, c = .insert row → ∃ r ∈ matches_found,
        row = Mapping.enforce_auto_trade_safety spelled (Mapping.match_mapping now r))
      (Mapping.insert_verified_mappings spelled quoted now matches_found dry_run) := by
  unfold Mapping.insert_verified_mappings
  refine Raising.Calls.bind ?_ fun counts => Raising.Calls.foldlM (fun inserted r hr => ?_) 0
  · -- the owners are only read
    have hread : Raising.Calls (fun c : Mapping.Call => ∀ row, c = .insert row →
        ∃ r ∈ matches_found, row = Mapping.enforce_auto_trade_safety spelled
          (Mapping.match_mapping now r)) Mapping.market_owner_counts :=
      Raising.Calls.bind (calls_send.2 fun row hrow => by cases hrow) fun _ => Raising.calls_pure _
    exact Raising.Calls.bind hread.attempt fun _ => Raising.calls_pure _
  · unfold Mapping.insert_match
    refine Raising.Calls.bind (calls_send.2 fun row hrow => by cases hrow) fun existing => ?_
    -- four reasons not to write it
    simp only [Raising.calls_ite, Raising.calls_pure, implies_true, true_and]
    intro _ _ _ _
    refine Raising.Calls.bind (Raising.Calls.lift (calls_send.2 fun row hrow => by cases hrow))
      fun _ => Raising.Calls.bind (Raising.Calls.attempt ?_) fun _ => Raising.calls_pure _
    exact upsert_inserts ⟨r, hr, rfl⟩

/-- **What is written agrees in what is compared.** Whatever is listed and whatever the store
    answers, each row that the insert pass writes for the matches is of two contracts of one
    family whose thresholds are both there and the same with ten decimals, and whose directions
    and periods are the same where both were found, but for the strictness of the direction. -/
theorem stored_matches_agree (families : List FXFamily) (fx : List (String × List FxListing))
    (kalshi : List (String × List KalshiListing)) (now : String) (dry_run : Bool) :
    Raising.Calls (fun c => ∀ row, c = .insert row → ∃ p, ListedTogether families fx kalshi p ∧
        Agree p.fx p.kalshi ∧
        row = Mapping.enforce_auto_trade_safety spelled (Mapping.match_mapping now p.result))
      (Mapping.insert_verified_mappings spelled quoted now
        (match_contracts families (read_all parse_fx_contract fx)
          (read_all parse_kalshi_market kalshi)) dry_run) := by
  refine (insert_verified_mappings_inserts now _ dry_run).mono fun c hc row hrow => ?_
  obtain ⟨r, hr, hinserted⟩ := hc row hrow
  obtain ⟨p, hp, rfl⟩ := List.mem_map.1 hr
  obtain ⟨hlisted, hagree⟩ := pairings_agree hp
  exact ⟨p, hlisted, hagree, hinserted⟩

end insert

/-! ### A strict direction and an inclusive one -/

/-- The Call and the Put of a contract on inflation above three per cent. -/
def cpi_listings : List (String × List FxListing) :=
  [("CPIY", [⟨"CPI Above 3% Jun 2026", "CPIY", "801", some 3, "C"⟩,
    ⟨"CPI Above 3% Jun 2026", "CPIY", "802", some 3, "P"⟩])]

/-- A market on inflation at or above three per cent. -/
def cpi_markets : List (String × List KalshiListing) :=
  [("CPIY", [⟨"CPI-26JUN-T3", "At or above 3%", ""⟩])]

/-- The pairs that are found of these. -/
def cpi_pairings : List Pairing :=
  pairings fx_families (read_all parse_fx_contract cpi_listings)
    (read_all parse_kalshi_market cpi_markets)

/-- The insert pass, over their matches. -/
def cpi_pass : Mapping.Op ℕ :=
  Mapping.insert_verified_mappings (fun _ => "") (fun text => text) "2026-06-01"
    (match_contracts fx_families (read_all parse_fx_contract cpi_listings)
      (read_all parse_kalshi_market cpi_markets)) false

/-- A store without rows. -/
def empty_store : Mapping.World := ⟨.empty, fun _ => none⟩

/-- They are written as one market that is traded, though three per cent settles them apart and
    no unit was found on the ticker. -/
theorem inclusive_stored_with_strict :
    ∃ p, cpi_pairings = [p] ∧ ¬ SameQuestion p.fx p.kalshi ∧ ∃ result w row,
      Raising.Ends Mapping.store_env cpi_pass empty_store result w ∧
        w.table.find p.result.canonical_id = some row ∧ row.tradable = true ∧
        row.resolution_match_status = "identical" := by
  have hfound : cpi_pairings.map (fun p => (p.fx.direction, p.kalshi.direction,
      p.result.canonical_id)) = [("above", "at_or_above", "FX_CPIY_202606_ABOVE_T3.0")] := by
    decide +kernel
  have hrow : ((Mapping.after cpi_pass empty_store).table.find "FX_CPIY_202606_ABOVE_T3.0").any
      (fun row => row.tradable && row.resolution_match_status = "identical") = true := by
    decide +kernel
  obtain ⟨p, rest, hpairings, hp, hrest⟩ := List.map_eq_cons_iff.1 hfound
  obtain rfl := List.map_eq_nil_iff.1 hrest
  simp only [Prod.mk.injEq] at hp
  obtain ⟨row, hfind, hstored⟩ := (Option.any_eq_true _ _).1 hrow
  rw [Bool.and_eq_true, decide_eq_true_eq] at hstored
  refine ⟨p, hpairings, fun h => ?_, _, _, row, Mapping.ends_after cpi_pass empty_store, ?_,
    hstored⟩
  · have hdirection := h.direction.2
    rw [hp.1, hp.2.1] at hdirection
    revert hdirection
    decide
  · rw [hp.2.2]
    exact hfind

end FxMatching
