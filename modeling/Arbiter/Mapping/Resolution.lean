import Arbiter.Mapping.Discovery
import Arbiter.Mapping.Structural

/-! # Resolution Facts

  `resolution_check`, and the candidates that `discover` makes of two markets for it. A
  candidate keeps the facts that the payloads carry, unless the markets match structurally:
  then both sides get the facts of the match.

  What a date reads as, in seconds, is a parameter, and so is the score of a pair that does
  not match.
-/

namespace Mapping

open Regex Sports Fingerprint

/-! ## Section 1: The check -/

/-- `_SOURCE_EQUIV_GROUPS`. -/
def source_equiv_groups : List (List String) :=
  [["AP", "Associated Press"], ["Federal Reserve", "Fed"], ["Bureau of Labor Statistics", "BLS"],
    ["Bureau of Economic Analysis", "BEA"], ["European Central Bank", "ECB"]]

/-- `_SOURCE_GROUP`. -/
def source_group (source : String) : Option ℕ :=
  source_equiv_groups.findIdx? fun group => group.any (·.toLower = source)

/-- `_sources_equivalent`. -/
def sources_equivalent (a b : String) : Bool :=
  a.toLower = b.toLower ||
    ((source_group a.toLower).isSome && source_group a.toLower = source_group b.toLower)

example : sources_equivalent "Fed" "Federal Reserve" = true := by decide +kernel

/-- `MarketFacts`. -/
structure MarketFacts where
  question : String
  resolution_date : Option String
  resolution_source : Option String
  tie_break_rule : Option String
  category : Option String
  outcome_set : List String

/-- Two texts agree if both are there. -/
def agree (a b : Option String) : Bool :=
  match a, b with
  | some a, some b => (Text.strip a).toLower = (Text.strip b).toLower
  | _, _ => true

/-- The same outcomes, in any order. -/
def same_outcomes (a b : List String) : Bool :=
  let lower (l : List String) : List String := l.map (·.toLower)
  (lower a).all (· ∈ lower b) && (lower b).all (· ∈ lower a)

section check

-- `_parse_date`, in seconds
variable (parse_date : String → Option ℚ)

/-- `_dates_within_tolerance`: a date that cannot be read is not. -/
def dates_within_tolerance (a b : String) : Bool :=
  match parse_date a, parse_date b with
  | some da, some db => |da - db| ≤ 24 * 3600
  | _, _ => false

/-- `check_resolution_equivalence`. -/
def check_resolution_equivalence (a b : MarketFacts) : ResolutionMatch :=
  match a.resolution_date, b.resolution_date, a.resolution_source, b.resolution_source with
  | some date_a, some date_b, some source_a, some source_b =>
      if dates_within_tolerance parse_date date_a date_b && sources_equivalent source_a source_b &&
          agree a.tie_break_rule b.tie_break_rule && agree a.category b.category &&
          same_outcomes a.outcome_set b.outcome_set then .identical
      else .divergent
  | _, _, _, _ => .pending

end check

/-! ## Section 2: Candidates -/

/-- A Kalshi market, as `discover` reads it. -/
structure KalshiListing extends KalshiMarket where
  /-- `_kalshi_text`. -/
  text : String
  /-- The normalized category. -/
  category : String := ""
  /-- The date it closes, in ISO form. -/
  date : Option String := none
  settlement_source : Option String := none

/-- An entry of a Polymarket market. -/
structure PolymarketListing extends PolymarketMarket where
  question : String := ""
  title : String := ""
  description : String := ""
  /-- `_poly_text`. -/
  text : String
  category : String := ""
  date : Option String := none
  resolutionSource : Option String := none
  tieBreakRule : Option String := none
  outcomes : List String := []

/-- `a or b`, of what may be missing. -/
def or_value (a b : Option String) : Option String :=
  match a with
  | none => b
  | some "" => b
  | some text => some text

/-- What a text carries, where it is not empty. -/
def carried (text : String) : Option String := if text = "" then none else some text

/-- A found pair with the facts that are checked. -/
structure Scored extends Found where
  polymarket_category : String
  resolution_source : Option String
  tie_break_rule : Option String
  kalshi_outcome_set : List String
  polymarket_outcome_set : List String

/-- `_candidate_payload`. -/
def candidate_payload (km : KalshiListing) (pm : PolymarketListing) (score : ℚ) : Scored where
  kalshi_ticker := km.ticker
  poly_slug := pm.slug
  kalshi_title := or_text km.title km.text
  poly_question := or_text pm.question (or_text pm.title pm.text)
  description := or_text pm.description (or_text pm.question pm.text)
  score := score
  category := or_text km.category pm.category
  kalshi_category := km.category
  polymarket_category := pm.category
  resolution_date := (or_value km.date pm.date).getD ""
  resolution_source := or_value km.settlement_source pm.resolutionSource
  tie_break_rule := or_value (carried km.rules_primary) pm.tieBreakRule
  kalshi :=
    { source := km.settlement_source
      rule := carried km.rules_primary
      settlement_date := km.date }
  polymarket :=
    { source := pm.resolutionSource
      rule := pm.tieBreakRule
      settlement_date := pm.date }
  kalshi_outcome_set := ["Yes", "No"]
  polymarket_outcome_set := if pm.outcomes = [] then ["Yes", "No"] else pm.outcomes

/-- `StructuralMatch.candidate_fields`, of a candidate. -/
def Scored.with_match (c : Scored) (m : StructuralMatch) : Scored :=
  let side : FoundSide :=
    { source := some m.resolution_source
      rule := some m.rule
      settlement_date := some m.resolution_date }
  { c with
    structural_match := true
    category := m.category
    kalshi_category := m.category
    polymarket_category := m.category
    polarity := m.polarity
    resolution_date := m.resolution_date
    resolution_source := some m.resolution_source
    tie_break_rule := some m.rule
    kalshi := side
    polymarket := side
    kalshi_outcome_set := ["Yes", "No"]
    polymarket_outcome_set := ["Yes", "No"] }

/-- `_is_bracket_vs_binary_mismatch`. -/
def is_bracket_vs_binary_mismatch (kalshi_ticker poly_slug : String) : Bool :=
  let bracket : Re :=
    .all [.text "KX", .texts ["D", "R"], .texts ["SENATE", "HOUSE"], .text "SEATS"]
  (bracket.at_start kalshi_ticker.toUpper).isSome &&
    ["midterms", "control", "usse", "usho"].any (Text.occurs · poly_slug.toLower)

/-- `_is_structured_sports_non_winner_pair`. -/
def is_structured_sports_non_winner_pair (kalshi_ticker poly_slug : String) : Bool :=
  let slug_start : Re := .all [.group "kind" (.plus lower), .text "-",
    .group "sport" (.plus lower_digit), .text "-"]
  match parse_kalshi_sports_ticker kalshi_ticker with
  | none => false
  | some kalshi =>
      (slug_start.at_start (Text.strip poly_slug).toLower).any fun m =>
        m.text "sport" = kalshi.poly_sport && m.text "kind" ∉ supported_poly_winner_prefixes

/-- What `discover` makes of two markets; `similarity` is the score of texts. -/
def scored_pair (similarity min_score : ℚ) (km : KalshiListing) (pm : PolymarketListing) :
    Option Scored :=
  let sports_safety := evaluate_sports_pair km.ticker pm.slug
  let exact_match := structural_match km.toKalshiMarket pm.toPolymarketMarket
  let score := if exact_match.isSome then 9999 / 10000 else similarity
  if is_bracket_vs_binary_mismatch km.ticker pm.slug ||
      is_structured_sports_non_winner_pair km.ticker pm.slug ||
      (sports_safety.known && !sports_safety.safe) || score < min_score then none
  else
    let candidate := candidate_payload km pm score
    let candidate :=
      if sports_safety.known then { candidate with polarity := sports_safety.polarity }
      else candidate
    some (exact_match.elim candidate candidate.with_match)

/-! ### Facts -/

/-- `_candidate_to_market_facts`, of Kalshi. -/
def Scored.kalshi_facts (c : Scored) : MarketFacts where
  question := c.kalshi_title
  resolution_date := or_value c.kalshi.settlement_date (some c.resolution_date)
  resolution_source := or_value c.kalshi.source c.resolution_source
  tie_break_rule := or_value c.kalshi.rule c.tie_break_rule
  category := some (or_text c.kalshi_category c.category)
  outcome_set := c.kalshi_outcome_set

/-- `_candidate_to_market_facts`, of Polymarket. -/
def Scored.polymarket_facts (c : Scored) : MarketFacts where
  question := c.poly_question
  resolution_date := or_value c.polymarket.settlement_date (some c.resolution_date)
  resolution_source := or_value c.polymarket.source c.resolution_source
  tie_break_rule := or_value c.polymarket.rule c.tie_break_rule
  category := some (or_text c.polymarket_category c.category)
  outcome_set := c.polymarket_outcome_set

/-! ## Section 3: What a payload carries by itself -/

/-- The facts of a Kalshi payload. -/
def KalshiListing.own_facts (km : KalshiListing) : MarketFacts where
  question := or_text km.title km.text
  resolution_date := or_value km.date none
  resolution_source := or_value km.settlement_source none
  tie_break_rule := carried km.rules_primary
  category := carried km.category
  outcome_set := ["Yes", "No"]

/-- The facts of a Polymarket payload. -/
def PolymarketListing.own_facts (pm : PolymarketListing) : MarketFacts where
  question := or_text pm.question (or_text pm.title pm.text)
  resolution_date := or_value pm.date none
  resolution_source := or_value pm.resolutionSource none
  tie_break_rule := or_value pm.tieBreakRule none
  category := carried pm.category
  outcome_set := if pm.outcomes = [] then ["Yes", "No"] else pm.outcomes

/-- Facts keep what is carried; what is missing there may be filled in. -/
structure MarketFacts.Keeps (own facts : MarketFacts) : Prop where
  date : ∀ text, own.resolution_date = some text → facts.resolution_date = some text
  source : ∀ text, own.resolution_source = some text → facts.resolution_source = some text
  rule : ∀ text, own.tie_break_rule = some text → facts.tie_break_rule = some text
  category : ∀ text, own.category = some text → facts.category = some text
  outcomes : facts.outcome_set = own.outcome_set

theorem agree_of_keeps {a b a' b' : Option String} (ha : ∀ text, a = some text → a' = some text)
    (hb : ∀ text, b = some text → b' = some text) (h : agree a' b' = true) : agree a b = true := by
  cases a with
  | none => rfl
  | some text_a =>
      cases b with
      | none => rfl
      | some text_b => rwa [ha text_a rfl, hb text_b rfl] at h

/-- **A conflict stays a conflict**: filling in what is missing does not resolve it. -/
theorem divergent_of_keeps {parse_date : String → Option ℚ} {a b a' b' : MarketFacts}
    (ha : a.Keeps a') (hb : b.Keeps b')
    (h : check_resolution_equivalence parse_date a b = .divergent) :
    check_resolution_equivalence parse_date a' b' = .divergent := by
  unfold check_resolution_equivalence at h
  split at h
  next date_a date_b source_a source_b hdate_a hdate_b hsource_a hsource_b =>
    rw [check_resolution_equivalence, ha.date _ hdate_a, hb.date _ hdate_b, ha.source _ hsource_a,
      hb.source _ hsource_b, ha.outcomes, hb.outcomes]
    split_ifs at h with hagree
    refine if_neg fun hfilled => hagree ?_
    simp only [Bool.and_eq_true] at hfilled ⊢
    obtain ⟨⟨⟨⟨hdates, hsources⟩, hrules⟩, hcategories⟩, houtcomes⟩ := hfilled
    exact ⟨⟨⟨⟨hdates, hsources⟩, agree_of_keeps ha.rule hb.rule hrules⟩,
      agree_of_keeps ha.category hb.category hcategories⟩, houtcomes⟩
  next => cases h

theorem or_value_keeps {a : Option String} (b : Option String) (text : String)
    (h : or_value a none = some text) : or_value a b = some text := by
  unfold or_value at h ⊢
  split at h <;> simp_all

theorem or_value_carried (text : String) : or_value (carried text) none = carried text := by
  unfold carried
  split_ifs with hempty
  · rfl
  · unfold or_value
    split <;> simp_all

theorem or_text_keeps {a : String} (b text : String) (h : carried a = some text) :
    some (or_text a b) = some text := by
  unfold carried at h
  unfold or_text
  split_ifs at h ⊢ with hempty
  exact h

section promotion

variable {similarity min_score : ℚ} {km : KalshiListing} {pm : PolymarketListing} {c : Scored}

/-- Without a structural match a candidate is its payload, but for the polarity. -/
theorem scored_pair_payload (h : scored_pair similarity min_score km pm = some c)
    (hmatch : structural_match km.toKalshiMarket pm.toPolymarketMarket = none) :
    km.own_facts.Keeps c.kalshi_facts ∧ pm.own_facts.Keeps c.polymarket_facts := by
  have hpayload : ∃ polarity, c = { candidate_payload km pm similarity with polarity } := by
    unfold scored_pair at h
    rw [hmatch] at h
    simp only [Option.isSome_none, Bool.false_eq_true, if_false, Option.elim_none] at h
    split_ifs at h
    · exact ⟨_, (Option.some.inj h).symm⟩
    · exact ⟨_, (Option.some.inj h).symm⟩
  obtain ⟨polarity, rfl⟩ := hpayload
  refine ⟨⟨or_value_keeps _, or_value_keeps _, ?_, or_text_keeps _, rfl⟩,
    ⟨or_value_keeps _, or_value_keeps _, or_value_keeps _, or_text_keeps _, rfl⟩⟩
  intro text hrule
  exact or_value_keeps _ text ((or_value_carried _).trans hrule)

/-- The candidate of a structural match has the facts of the match. -/
theorem scored_pair_matched {m : StructuralMatch}
    (hmatch : structural_match km.toKalshiMarket pm.toPolymarketMarket = some m)
    (hguards : (is_bracket_vs_binary_mismatch km.ticker pm.slug ||
      is_structured_sports_non_winner_pair km.ticker pm.slug) = false)
    (hsafety : ((evaluate_sports_pair km.ticker pm.slug).known &&
      !(evaluate_sports_pair km.ticker pm.slug).safe) = false)
    (hscore : min_score ≤ 9999 / 10000) :
    scored_pair similarity min_score km pm =
      some ((candidate_payload km pm (9999 / 10000)).with_match m) := by
  unfold scored_pair
  rw [hmatch, hguards]
  simp only [hsafety, Option.isSome_some, if_true, Bool.or_self, Bool.false_or,
    decide_eq_true_eq, Option.elim_some]
  rw [if_neg hscore.not_gt]
  split_ifs <;> rfl

/-- What is asked about a candidate; its facts are checked. -/
def Scored.seen (parse_date : String → Option ℚ) (c : Scored) (llm : String)
    (kalshi_depth poly_depth : ℚ) : Evidence where
  resolution := check_resolution_equivalence parse_date c.kalshi_facts c.polymarket_facts
  llm := llm
  kalshi_depth := kalshi_depth
  poly_depth := poly_depth

/-- A structural match passes the check with its date. -/
theorem check_with_match {parse_date : String → Option ℚ} {m : StructuralMatch}
    (hdate : (parse_date m.resolution_date).isSome = true) :
    check_resolution_equivalence parse_date (c.with_match m).kalshi_facts
      (c.with_match m).polymarket_facts = .identical := by
  have hsame (text : String) : or_value (some text) (some text) = some text := by
    unfold or_value
    split <;> simp_all
  obtain ⟨seconds, hread⟩ := Option.isSome_iff_exists.mp hdate
  simp [check_resolution_equivalence, Scored.kalshi_facts, Scored.polymarket_facts,
    Scored.with_match, hsame, dates_within_tolerance, hread, sources_equivalent, agree,
    same_outcomes]

/-- What passes the gates has passed the check. -/
theorem identical_of_promoted {settings : PromotionSettings} {clock : Clock} {seen : Evidence}
    {f : Found} (h : (evaluate settings clock seen f).promoted = true) :
    seen.resolution = .identical := by
  unfold evaluate at h
  rw [(first_failing_promoted h).2] at h
  have hgate := (first_failing_promoted h).1 (seen.resolution ≠ .identical, "resolution_pending")
    (by simp [promotion_gates])
  simpa using hgate

end promotion

/-- A promoted candidate matches structurally, or its payloads carry no conflict. -/
theorem promoted_without_conflict (settings : PromotionSettings) (clock : Clock)
    (parse_date : String → Option ℚ) (similarity min_score : ℚ) (km : KalshiListing)
    (pm : PolymarketListing) (c : Scored) (llm : String) (kalshi_depth poly_depth : ℚ)
    (h : scored_pair similarity min_score km pm = some c)
    (hpromoted : (evaluate settings clock (c.seen parse_date llm kalshi_depth poly_depth)
      c.toFound).promoted = true) :
    (structural_match km.toKalshiMarket pm.toPolymarketMarket).isSome = true ∨
      check_resolution_equivalence parse_date km.own_facts pm.own_facts ≠ .divergent := by
  cases hmatch : structural_match km.toKalshiMarket pm.toPolymarketMarket with
  | some m => exact .inl rfl
  | none =>
      obtain ⟨hkalshi, hpolymarket⟩ := scored_pair_payload h hmatch
      refine .inr fun hconflict => ?_
      have hchecked := identical_of_promoted hpromoted
      rw [Scored.seen, divergent_of_keeps hkalshi hpolymarket hconflict] at hchecked
      cases hchecked

/-! ### One game, in the words of two venues -/

/-- Kansas City to win, with the rules of Kalshi. -/
def royals_kalshi : KalshiListing where
  ticker := "KXMLBGAME-26MAY022145KCSEA-KC"
  text := "Kansas City vs Seattle Winner?"
  rules_primary := "If Kansas City wins the game, then the market resolves to Yes."
  date := some "2026-05-02"
  settlement_source := some "MLB"

/-- The same, with the rules of Polymarket. -/
def royals_polymarket : PolymarketListing where
  slug := "aec-mlb-kc-sea-2026-05-02"
  text := "MLB: KC wins on 2026-05-02"
  date := some "2026-05-02"
  resolutionSource := some "MLB"
  tieBreakRule := some "Resolves to the winning team."

/-- A pair that nothing but its similarity speaks for. -/
def semantic_kalshi : KalshiListing where
  ticker := "FED-MAY26"
  text := "Will the Federal Reserve cut rates in May 2026?"
  date := some "2026-05-02"
  settlement_source := some "Federal Reserve"

def semantic_polymarket : PolymarketListing where
  slug := "fed-cut-may"
  text := "Will the Fed cut rates in May 2026?"
  date := some "2026-05-02"
  resolutionSource := some "Fed"

/-- Promotion on, at the first scan. -/
def promoting : PromotionSettings where
  auto_promote_enabled := true
  auto_promote_advisory_scans := 0

/-- Every date is next month. -/
def next_month : Clock where
  days _ := some 30
  days_until _ := some 30

/-- `fromisoformat`, of the one date they have. -/
def second_of_may (text : String) : Option ℚ := if text = "2026-05-02" then some 0 else none

/-- What becomes of the semantic pair. -/
def semantic_scored : Scored := candidate_payload semantic_kalshi semantic_polymarket (19 / 20)

theorem semantic_pair :
    scored_pair (19 / 20) (1 / 2) semantic_kalshi semantic_polymarket = some semantic_scored := by
  have hread : fingerprint_kalshi_market semantic_kalshi.toKalshiMarket = none := by
    decide +kernel
  have hmatch : structural_match semantic_kalshi.toKalshiMarket
      semantic_polymarket.toPolymarketMarket = none := by
    simp [structural_match, hread]
  have hknown : (evaluate_sports_pair semantic_kalshi.ticker semantic_polymarket.slug).known =
      false := by
    decide +kernel
  have hguards : (is_bracket_vs_binary_mismatch semantic_kalshi.ticker semantic_polymarket.slug ||
      is_structured_sports_non_winner_pair semantic_kalshi.ticker semantic_polymarket.slug) =
      false := by
    decide +kernel
  unfold scored_pair
  rw [hmatch, hguards]
  dsimp only
  rw [hknown]
  exact if_neg (by decide +kernel)

theorem promoted_without_conflict_semantic :
    (structural_match semantic_kalshi.toKalshiMarket
      semantic_polymarket.toPolymarketMarket).isSome = true ∨
      check_resolution_equivalence second_of_may semantic_kalshi.own_facts
        semantic_polymarket.own_facts ≠ .divergent :=
  promoted_without_conflict promoting next_month second_of_may (19 / 20) (1 / 2) semantic_kalshi
    semantic_polymarket semantic_scored "YES" 50 50 semantic_pair (by decide +kernel)

/-- What the two fingerprints of the game say. -/
def royals_game : MarketFingerprint where
  category := "sports"
  subcategory := "mlb"
  entity := "kc-sea"
  date := "2026-05-02"
  metric := "winner"
  threshold := "moneyline"
  outcome := "kc"
  source := "official_sports_result"

theorem royals_read :
    fingerprint_kalshi_market royals_kalshi.toKalshiMarket = some royals_game := by
  decide +kernel

example :
    fingerprint_polymarket_market royals_polymarket.toPolymarketMarket = some royals_game := by
  decide +kernel

/-- What becomes of the pair of the game. -/
def royals_scored : Scored :=
  (candidate_payload royals_kalshi royals_polymarket (9999 / 10000)).with_match royals_game.matched

theorem royals_safe : (evaluate_sports_pair royals_kalshi.ticker royals_polymarket.slug).safe =
    true := by
  have hkalshi : parse_kalshi_sports_ticker royals_kalshi.ticker =
      some ⟨"mlb", "mlb", "2026-05-02", "kcsea", "kc"⟩ := by
    decide +kernel
  have hpolymarket : parse_polymarket_sports_slug royals_polymarket.slug =
      some ⟨"aec", "mlb", "kc", "sea", "2026-05-02", none⟩ := by
    decide +kernel
  have hsupported : unsupported_sports_pair_reason royals_kalshi.ticker royals_polymarket.slug =
      none := by
    decide +kernel
  rw [evaluate_sports_pair_read hsupported hkalshi hpolymarket,
    evaluate_parsed_same rfl rfl (by decide +kernel)]

theorem royals_pair :
    scored_pair 0 (1 / 2) royals_kalshi royals_polymarket = some royals_scored := by
  have hpolymarket : fingerprint_polymarket_market royals_polymarket.toPolymarketMarket =
      some royals_game := by
    decide +kernel
  have hmatch := structural_match_eq_some.mpr
    ⟨royals_game, royals_game, royals_read, hpolymarket, rfl, rfl, rfl⟩
  exact scored_pair_matched hmatch (by decide +kernel) (by simp [royals_safe]) (by norm_num)

/-- The two venues word the rule of the game in two ways; the match has one rule for both. -/
theorem promoted_with_conflict :
    ¬ ∀ (settings : PromotionSettings) (clock : Clock) (parse_date : String → Option ℚ)
      (similarity min_score : ℚ) (km : KalshiListing) (pm : PolymarketListing) (c : Scored)
      (llm : String) (kalshi_depth poly_depth : ℚ),
      scored_pair similarity min_score km pm = some c →
        (evaluate settings clock (c.seen parse_date llm kalshi_depth poly_depth)
          c.toFound).promoted = true →
        check_resolution_equivalence parse_date km.own_facts pm.own_facts ≠ .divergent := by
  intro h
  have hseen : royals_scored.seen second_of_may "YES" 50 50 = ⟨.identical, "YES", 50, 50⟩ := by
    rw [Scored.seen, royals_scored, check_with_match (by decide)]
  have hrules : agree royals_kalshi.own_facts.tie_break_rule
      royals_polymarket.own_facts.tie_break_rule = false := by
    decide +kernel
  refine h promoting next_month second_of_may 0 (1 / 2) royals_kalshi royals_polymarket
    royals_scored "YES" 50 50 royals_pair ?_ ?_
  · rw [hseen]
    decide +kernel
  · unfold check_resolution_equivalence
    simp only [hrules, Bool.and_false, Bool.false_and, Bool.false_eq_true, if_false]
    rfl

end Mapping
