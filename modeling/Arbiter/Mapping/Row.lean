import Mathlib.Data.Rat.Floor
import Arbiter.Framework.Decimal
import Arbiter.Framework.Json
import Arbiter.Framework.Table
import Arbiter.Framework.Text

/-! # Market Mappings

  A row of `market_mappings`: the contracts of the venues that settle one event, the state
  of its review, and whether it may be traded without an operator. Of a row's resolution
  criteria the safety check reads the polarity and the settlement dates.

  Times are kept where rows are ordered by them. A row's confidence, its expiry and the
  times of its creation and validation are left out: nothing that is modelled reads them.
-/

namespace Mapping

/-! ### Statuses -/

/-- `MappingStatus`. -/
inductive MappingStatus
  | candidate
  | review
  | confirmed
  | rejected
  | expired
  deriving DecidableEq

namespace MappingStatus

/-- The status text. -/
def value : MappingStatus → String
  | candidate => "candidate"
  | review => "review"
  | confirmed => "confirmed"
  | rejected => "rejected"
  | expired => "expired"

/-- `status IN ('confirmed', 'candidate', 'review')`. -/
def active (status : MappingStatus) : Bool :=
  status = confirmed || status = candidate || status = review

end MappingStatus

/-- `_coerce_status`: an unknown text counts as a candidate. -/
def coerce_status (value : String) : MappingStatus :=
  ([.review, .confirmed, .rejected, .expired].find? (·.value = value)).getD .candidate

/-! ### Rows -/

/-- The text of the resolution criteria, and what it decodes to. -/
inductive Criteria
  /-- The empty text. -/
  | absent
  /-- A text that is no JSON. -/
  | unreadable
  | json (value : Json ℚ)

/-- The text converts to `JSONB`. -/
def Criteria.readable : Criteria → Bool
  | .unreadable => false
  | _ => true

/-- A score as `DECIMAL(5,4)` keeps it. -/
def stored_score (score : ℚ) : ℚ :=
  (if 0 ≤ score then ⌊score * 10000 + 1 / 2⌋ else ⌈score * 10000 - 1 / 2⌉) / 10000

/-- `MarketMapping`. -/
structure MarketMapping where
  canonical_id : String
  description : String
  status : MappingStatus
  allow_auto_trade : Bool := false
  aliases : List String := []
  tags : List String := []
  kalshi_market_id : String := ""
  polymarket_slug : String := ""
  polymarket_question : String := ""
  forecastex_contract_id : String := ""
  forecastex_no_contract_id : String := ""
  forecastex_not_available : Bool := false
  notes : String := ""
  review_note : String := ""
  mapping_score : ℚ := 0
  updated_at : ℤ := 0
  resolution_criteria : Criteria := .absent
  resolution_match_status : String := "pending_operator_review"

/-- The rows of `market_mappings`. -/
abbrev Mappings := Table MarketMapping MarketMapping.canonical_id

namespace MarketMapping

/-- Confirmed, and traded without an operator. -/
def tradable (m : MarketMapping) : Bool := m.status = .confirmed && m.allow_auto_trade

/-- The contracts a row binds. -/
def pair (m : MarketMapping) : String × String := (m.kalshi_market_id, m.polymarket_slug)

/-- Both contracts are there. -/
def paired (m : MarketMapping) : Bool := m.kalshi_market_id ≠ "" && m.polymarket_slug ≠ ""

/-- `f"{review_note or ''} {notes or ''}"`. -/
def held_note (m : MarketMapping) : String := m.review_note ++ " " ++ m.notes

/-- The quarantine marker. -/
def no_auto_promote : String := "[no-auto-promote]"

/-- The row carries the quarantine marker. -/
def marked (m : MarketMapping) : Bool := Text.occurs no_auto_promote m.held_note

theorem marked_iff (m : MarketMapping) :
    m.marked = true ↔ Text.occurs no_auto_promote m.review_note = true ∨
      Text.occurs no_auto_promote m.notes = true :=
  Text.occurs_blank_iff (by decide)

/-- `canonical_id LIKE 'AUTO_%'`: the underscore stands for any character. -/
def like_auto (m : MarketMapping) : Bool :=
  "AUTO".toList.isPrefixOf m.canonical_id.toList && 4 < m.canonical_id.length

end MarketMapping

/-! ### What may be traded without an operator -/

section safety

variable (spelled : Json ℚ → String)

/-- `str(v or "")`. -/
def str_or_empty (v : Json ℚ) : String := (v.orElse (.str "" none)).text spelled

/-- `str(v or "").lower()` is `same`; what is no text is never spelled so. -/
def says_same : Json ℚ → Bool
  | .str s _ => s.toLower = "same"
  | _ => false

/-- The settlement date of a venue, empty where there is none. -/
def settlement_date (criteria : Json ℚ) (venue : String) : String :=
  let side := criteria.get venue
  if side.is_obj then str_or_empty spelled (side.get "settlement_date") else ""

/-- The criteria, where they are an object. -/
def Criteria.object : Criteria → Json ℚ
  | .json value => if value.is_obj then value else .obj []
  | _ => .obj []

/-- `resolution_match_status` is `identical`, in any case. -/
def MarketMapping.is_identical (m : MarketMapping) : Bool :=
  m.resolution_match_status.toLower = "identical"

/-- A tag is `sports`, in any case. -/
def MarketMapping.is_sports (m : MarketMapping) : Bool := m.tags.any (·.toLower = "sports")

/-- The sides have the same polarity and settle on the same day. -/
def Criteria.settle_alike (criteria : Criteria) : Bool :=
  let object := criteria.object
  says_same (object.get "polarity") && settlement_date spelled object "kalshi" ≠ "" &&
    settlement_date spelled object "kalshi" = settlement_date spelled object "polymarket"

/-- `_enforce_auto_trade_safety`. -/
def enforce_auto_trade_safety (m : MarketMapping) : MarketMapping :=
  if !m.allow_auto_trade then m
  else if !m.is_identical then { m with allow_auto_trade := false }
  else if !m.is_sports then m
  else if !m.resolution_criteria.settle_alike spelled then { m with allow_auto_trade := false }
  else m

/-- What the check leaves: a row that is traded has identical resolution, and in sports
    sides that settle alike. -/
def MarketMapping.Safe (m : MarketMapping) : Prop :=
  m.allow_auto_trade = true → m.is_identical = true ∧
    (m.is_sports = true → m.resolution_criteria.settle_alike spelled = true)

theorem enforce_safe (m : MarketMapping) : (enforce_auto_trade_safety spelled m).Safe spelled := by
  intro hallow
  unfold enforce_auto_trade_safety at hallow ⊢
  split_ifs at hallow ⊢ <;> simp_all

/-- The check changes nothing but the permission, and never gives it. -/
theorem enforce_eq (m : MarketMapping) :
    enforce_auto_trade_safety spelled m = m ∨
      enforce_auto_trade_safety spelled m = { m with allow_auto_trade := false } := by
  unfold enforce_auto_trade_safety
  split_ifs <;> simp

end safety

/-! ### Records of the seeds -/

/-- `MarketMappingRecord`. -/
structure MarketMappingRecord where
  canonical_id : String
  description : String
  status : String := "confirmed"
  allow_auto_trade : Bool := true
  aliases : List String := []
  tags : List String := []
  kalshi : String := ""
  polymarket : String := ""
  polymarket_question : String := ""
  forecastex : String := ""
  forecastex_no : String := ""
  notes : String := ""
  resolution_criteria : Option (Json ℚ) := none
  resolution_match_status : String := "pending_operator_review"

/-- The runs of letters and digits of a text, in lower case. -/
def market_tokens (text : String) : List String :=
  (text.toLower.toList.splitOnP fun c => !(c.isLower || c.isDigit)).filterMap fun token =>
    if token = [] then none else some (String.ofList token)

/-- `similarity_score`, of two texts. -/
def similarity_score (a b : String) : ℚ :=
  if a = "" ∨ b = "" then 0
  else
    let a := (market_tokens a).dedup
    let b := (market_tokens b).dedup
    let union := (a ++ b).dedup
    if union = [] then 0
    else Decimal.round_to 4 ((a.filter (· ∈ b)).length / union.length)

/-- `MarketMapping.from_record`. -/
def MarketMapping.from_record (record : MarketMappingRecord) : MarketMapping :=
  { canonical_id := record.canonical_id
    description := record.description
    status := coerce_status record.status
    allow_auto_trade := record.allow_auto_trade
    aliases := record.aliases
    tags := record.tags
    kalshi_market_id := record.kalshi
    polymarket_slug := record.polymarket
    polymarket_question := record.polymarket_question
    forecastex_contract_id := record.forecastex
    forecastex_no_contract_id := record.forecastex_no
    notes := record.notes
    mapping_score :=
      if record.status = "confirmed" ∧ record.allow_auto_trade ∧
          record.resolution_match_status = "identical" then 1
      else if record.aliases = [] then 0
      else similarity_score record.description (" ".intercalate record.aliases)
    resolution_criteria :=
      match record.resolution_criteria with
      | some value => .json value
      | none => .absent
    resolution_match_status :=
      if record.resolution_match_status = "" then "pending_operator_review"
      else record.resolution_match_status }

/-! ### What passes go over -/

/-- A candidate of the discovery; a key that may be missing is an option. -/
structure Candidate where
  kalshi_ticker : String
  poly_slug : String
  canonical_id : String := ""
  poly_question : String := ""
  kalshi_title : String := ""
  description : String := ""
  score : ℚ := 0
  status : String := "candidate"
  allow_auto_trade : Bool := false
  resolution_criteria : Option (Json ℚ) := none
  notes : String := ""
  review_note : Option String := none
  resolution_match_status : Option String := none

namespace Candidate

/-- The pair, stripped. -/
def pair (c : Candidate) : String × String := (Text.strip c.kalshi_ticker, Text.strip c.poly_slug)

/-- Both contracts are there. -/
def paired (c : Candidate) : Bool := c.pair.1 ≠ "" && c.pair.2 ≠ ""

end Candidate

/-- `ValidationRecommendation`. -/
inductive ValidationRecommendation
  | confirm
  | review
  | expire
  | promote
  deriving DecidableEq

/-- `PlatformCheckResult`. -/
structure PlatformCheckResult where
  platform : String
  is_live : Bool
  yes_price : ℚ
  contract_symbol : String := ""

/-- `ValidationResult`. -/
structure ValidationResult where
  canonical_id : String
  platforms : List PlatformCheckResult
  recommendation : ValidationRecommendation
  reason : String := ""
  validated_at : String

namespace ValidationResult

/-- `live_platform_count`. -/
def live_platform_count (vr : ValidationResult) : ℕ := vr.platforms.countP (·.is_live)

/-- The result for ForecastEx. -/
def forecastex (vr : ValidationResult) : Option PlatformCheckResult :=
  vr.platforms.find? (·.platform = "forecastex")

end ValidationResult

/-- `ParsedContract`, of what is put into a mapping. -/
structure ParsedContract where
  symbol : String
  threshold_key : String
  direction : String
  period : String
  right : String := ""

/-- `MatchResult`: a contract of ForecastEx and one of Kalshi. -/
structure MatchResult where
  fx_contract : ParsedContract
  kalshi_contract : ParsedContract
  family_name : String
  family_tags : List String
  canonical_id : String
  description : String
  match_quality : String
  fx_yes_conid : String
  fx_no_conid : String
  kalshi_ticker : String

/-- What a pass is about to write for: an item of its loop. -/
inductive Turn
  /-- `write_candidates`, before the lookups. -/
  | candidate (c : Candidate)
  /-- `sync_candidates`, a row it expires. -/
  | stale (m : MarketMapping)
  /-- An expiry. -/
  | expiry (canonical_id : String)
  /-- `structural_fast_promote`, a row it has read and promotes, with the owners it counted. -/
  | fast_promote (m : MarketMapping) (market_owner_counts : List (String × String))
  /-- `auto_promote_validated`, a row it promotes, with these. -/
  | validated (canonical_id : String) (market_owner_counts : List (String × String))
  /-- `insert_verified_mappings`, the row it writes, with these. -/
  | matched (m : MarketMapping) (market_owner_counts : List (String × String))
  /-- The conid discovery, the row it writes back. -/
  | attach (m : MarketMapping)

end Mapping
