import Arbiter.Mapping.Keys

/-! # Structural Matches

  Two markets that match one slug have one fingerprint, and a match of games is a safe pair.
-/

namespace Fingerprint

open Regex Teams Sports Mapping

/-! ## Section 1: One slug, two tickers -/

theorem structural_match_eq_some {k : KalshiMarket} {p : PolymarketMarket} {m : StructuralMatch} :
    structural_match k p = some m ↔ ∃ f g, fingerprint_kalshi_market k = some f ∧
      fingerprint_polymarket_market p = some g ∧ f.market_key = g.market_key ∧
      f.source = g.source ∧ f.matched = m := by
  unfold structural_match
  simp [Option.bind_eq_some_iff, guard, and_assoc]

/-- Two tickers that match one slug have one fingerprint: the same kind of contract on the same
    event with the same date, threshold and outcome, as far as a fingerprint holds them. -/
theorem matched_tickers_agree {k₁ k₂ : KalshiMarket} {p : PolymarketMarket}
    {m₁ m₂ : StructuralMatch} (h₁ : structural_match k₁ p = some m₁)
    (h₂ : structural_match k₂ p = some m₂) :
    ∃ f, fingerprint_kalshi_market k₁ = some f ∧ fingerprint_kalshi_market k₂ = some f := by
  obtain ⟨f₁, g, hf₁, hg, hkey₁, hsource₁, -⟩ := structural_match_eq_some.mp h₁
  obtain ⟨f₂, g', hf₂, hg', hkey₂, hsource₂, -⟩ := structural_match_eq_some.mp h₂
  obtain rfl := Option.some.inj (hg.symm.trans hg')
  have heq : f₁ = f₂ := (kalshi_keyed hf₁).eq (kalshi_keyed hf₂) (hkey₁.trans hkey₂.symm)
    (hsource₁.trans hsource₂.symm)
  exact ⟨f₁, hf₁, heq ▸ hf₂⟩

/-- A game of Osasuna against Barcelona, with either code of Barcelona. -/
def osasuna_bar : KalshiMarket := { ticker := "KXLALIGAGAME-26MAY02OSABAR-BAR" }

def osasuna_fcb : KalshiMarket := { ticker := "KXLALIGAGAME-26MAY02OSAFCB-FCB" }

/-- The slug of that game. -/
def osasuna_slug : PolymarketMarket := { slug := "atc-lal-osa-fcb-2026-05-02-fcb" }

/-- What all three of them say. -/
def osasuna_game : MarketFingerprint where
  category := "sports"
  subcategory := "lal"
  entity := "fcb-osa"
  date := "2026-05-02"
  metric := "winner"
  threshold := "moneyline"
  outcome := "fcb"
  source := "official_sports_result"

theorem osasuna_bar_read : fingerprint_kalshi_market osasuna_bar = some osasuna_game := by
  decide +kernel

theorem osasuna_fcb_read : fingerprint_kalshi_market osasuna_fcb = some osasuna_game := by
  decide +kernel

example : fingerprint_polymarket_market osasuna_slug = some osasuna_game := by decide +kernel

theorem osasuna_matches {k : KalshiMarket} (hk : fingerprint_kalshi_market k = some osasuna_game) :
    structural_match k osasuna_slug = some osasuna_game.matched :=
  structural_match_eq_some.mpr
    ⟨osasuna_game, osasuna_game, hk, by decide +kernel, rfl, rfl, rfl⟩

theorem matched_tickers_agree_osasuna :
    ∃ f, fingerprint_kalshi_market osasuna_bar = some f ∧
      fingerprint_kalshi_market osasuna_fcb = some f :=
  matched_tickers_agree (osasuna_matches osasuna_bar_read) (osasuna_matches osasuna_fcb_read)

/-- Both tickers match the slug. -/
theorem aliases_match_one_slug :
    ¬ ∀ (k₁ k₂ : KalshiMarket) (p : PolymarketMarket), k₁.ticker ≠ k₂.ticker →
      ¬ ((structural_match k₁ p).isSome = true ∧ (structural_match k₂ p).isSome = true) := by
  intro h
  refine h osasuna_bar osasuna_fcb osasuna_slug (by decide) ⟨?_, ?_⟩
  · rw [osasuna_matches osasuna_bar_read]
    rfl
  · rw [osasuna_matches osasuna_fcb_read]
    rfl

/-! ## Section 2: Games -/

/-- The match is of a game: its rule is that a side wins. -/
def StructuralMatch.is_game (m : StructuralMatch) : Bool :=
  m.category = "sports" && Text.starts_with "sports:winner:" m.rule

section games

variable {k : KalshiMarket} {p : PolymarketMarket} {f g : MarketFingerprint}

/-- A match of another category is of no game. -/
theorem not_game_of_category (h : f.category ≠ "sports") : f.matched.is_game = false := by
  simp [StructuralMatch.is_game, MarketFingerprint.matched, h]

theorem not_game_of_futures {canonical_comp team_code year : String} :
    (championship canonical_comp team_code year).matched.is_game = false := by
  have hrule : (championship canonical_comp team_code year).matched.rule =
      "sports" ++ ":" ++ "championship-winner" ++ ":" ++ "futures" ++ ":" ++ "yes" := rfl
  have hstart : Text.starts_with "sports:winner:"
      ("sports" ++ ":" ++ "championship-winner" ++ ":" ++ "futures" ++ ":" ++ "yes") = false := by
    decide
  rw [StructuralMatch.is_game, hrule, hstart, Bool.and_false]

theorem party_control_category (chamber date party : String) :
    (party_control chamber date party).category ≠ "sports" := by
  simp [party_control]

theorem price_above_category (asset date threshold : String) :
    (price_above asset date threshold).category ≠ "sports" := by
  simp [price_above]

theorem economic_category (entity date metric threshold outcome source : String) :
    (economic entity date metric threshold outcome source).category ≠ "sports" := by
  simp [economic]

/-- A Kalshi fingerprint of a game is read by the parser of games. -/
theorem kalshi_game (h : fingerprint_kalshi_market k = some f) (hgame : f.matched.is_game = true) :
    fingerprint_kalshi_sports k = some f := by
  have hcategory : f.category = "sports" := by
    by_contra hne
    rw [not_game_of_category hne] at hgame
    cases hgame
  obtain ⟨parser, hparser, hf⟩ := List.exists_of_findSome?_eq_some h
  simp only [kalshi_parsers, List.mem_cons, List.not_mem_nil, or_false] at hparser
  -- every other parser reads futures, or of another category
  obtain rfl | rfl | rfl | rfl | rfl | rfl | rfl | rfl | rfl := hparser
  · exact hf
  · simp only [fingerprint_kalshi_championship, Option.bind_eq_bind, Option.bind_eq_some_iff,
      Option.pure_def, Option.some.injEq] at hf
    obtain ⟨m, -, canonical_comp, -, -, -, rfl⟩ := hf
    rw [not_game_of_futures] at hgame
    cases hgame
  · obtain ⟨m, -, rfl⟩ := Option.map_eq_some_iff.mp hf
    exact absurd hcategory (party_control_category _ _ _)
  · simp only [fingerprint_kalshi_crypto, Option.bind_eq_bind, Option.bind_eq_some_iff,
      Option.pure_def, Option.some.injEq] at hf
    obtain ⟨m, -, month, -, rfl⟩ := hf
    exact absurd hcategory (price_above_category _ _ _)
  · unfold fingerprint_kalshi_gdp at hf
    dsimp only at hf
    split at hf
    · obtain rfl := Option.some.inj hf
      exact absurd hcategory (economic_category _ _ _ _ _ _)
    · obtain ⟨m, -, rfl⟩ := Option.map_eq_some_iff.mp hf
      exact absurd hcategory (economic_category _ _ _ _ _ _)
  · simp only [fingerprint_kalshi_fed_decision, Option.bind_eq_bind, Option.bind_eq_some_iff,
      Option.pure_def, Option.some.injEq] at hf
    obtain ⟨m, -, -, -, rfl⟩ := hf
    exact absurd hcategory (economic_category _ _ _ _ _ _)
  · simp only [fingerprint_kalshi_fed_rate, Option.bind_eq_bind, Option.bind_eq_some_iff,
      Option.pure_def, Option.some.injEq] at hf
    obtain ⟨m, -, month, -, rfl⟩ := hf
    exact absurd hcategory (economic_category _ _ _ _ _ _)
  · obtain ⟨m, -, rfl⟩ := Option.map_eq_some_iff.mp hf
    exact absurd hcategory (economic_category _ _ _ _ _ _)
  · obtain ⟨m, -, rfl⟩ := Option.map_eq_some_iff.mp hf
    exact absurd hcategory (economic_category _ _ _ _ _ _)

/-- The two parts a key starts with. -/
theorem key_start (f : MarketFingerprint) : f.market_key =
    f.category ++ ":" ++ (f.subcategory ++ ":" ++ ":".intercalate (f.parts.drop 2)) := by
  simp [market_key_eq, MarketFingerprint.parts, MarketFingerprint.event_parts,
    String.append_assoc]

/-- What stands before the first colon. -/
theorem before_colon {a b x y : String} (ha : Bare a) (hb : Bare b)
    (h : a ++ ":" ++ x = b ++ ":" ++ y) : a = b ∧ x = y := by
  have htake {s : String} (hs : Bare s) (t : String) :
      (s ++ ":" ++ t).toList.takeWhile (· ≠ ':') = s.toList := by
    have hlist : (s ++ ":" ++ t).toList = s.toList ++ ':' :: t.toList := by
      rw [String.toList_append, String.toList_append, List.append_assoc]
      rfl
    rw [hlist, List.takeWhile_append_of_pos fun c hc => by
      simpa using ne_of_mem_of_not_mem hc hs]
    simp
  have hab : a = b := String.toList_injective (by rw [← htake ha x, h, htake hb y])
  rw [hab] at h
  exact ⟨hab, by simpa using h⟩

/-- The slug of a game has no colon. -/
theorem poly_sports_plain (h : fingerprint_poly_sports p = some g) : Plain g := by
  simp only [fingerprint_poly_sports, Option.bind_eq_bind, Option.bind_eq_some_iff,
    Option.pure_def, Option.some.injEq] at h
  obtain ⟨parsed, hparsed, -, -, rfl⟩ := h
  obtain ⟨m, hm, rfl⟩ := Option.map_eq_some_iff.mp hparsed
  have hbare := at_start_bare (r := poly_sports_re) (by decide) hm
  have hyes : Bare (PolymarketSportsSlug.yes_side ⟨m.text "1", m.text "2", m.text "3", m.text "4",
      m.text "5", m.group "6"⟩) := by
    unfold PolymarketSportsSlug.yes_side
    dsimp only
    cases hside : m.group "6" with
    | none => exact normalize_entity_code_bare (hbare _)
    | some side =>
        have htext := hbare "6"
        rw [Match.text, hside] at htext
        exact normalize_entity_code_bare htext
  rw [plain_iff]
  refine ⟨⟨?_, hbare _, canonical_pair_bare (hbare _) (hbare _), hbare _⟩, ?_, ?_, ?_, hyes⟩
  all_goals
    dsimp only
    decide

/-- What a parser of slugs reads is of a game, or its key starts otherwise. -/
theorem poly_start (h : fingerprint_polymarket_market p = some g) :
    fingerprint_poly_sports p = some g ∨ (g.category = "sports" ∧ g.subcategory = "championship") ∨
      (g.category ≠ "sports" ∧ Bare g.category) := by
  have hcrypto (asset date threshold : String) :
      (price_above asset date threshold).category ≠ "sports" ∧
        Bare (price_above asset date threshold).category := by
    dsimp only [price_above]
    decide
  have hcontrol (chamber date party : String) :
      (party_control chamber date party).category ≠ "sports" ∧
        Bare (party_control chamber date party).category := by
    dsimp only [party_control]
    decide
  have heconomic (entity date metric threshold outcome source : String) :
      (economic entity date metric threshold outcome source).category ≠ "sports" ∧
        Bare (economic entity date metric threshold outcome source).category := by
    dsimp only [economic]
    decide
  obtain ⟨parser, hparser, hg⟩ := List.exists_of_findSome?_eq_some h
  simp only [polymarket_parsers, List.mem_cons, List.not_mem_nil, or_false] at hparser
  -- games first, then championships; the other seven read nothing of sports
  obtain rfl | rfl | rfl | rfl | rfl | rfl | rfl | rfl | rfl := hparser
  · exact .inl hg
  · simp only [fingerprint_poly_championship, Option.bind_eq_bind, Option.bind_eq_some_iff,
      Option.pure_def, Option.some.injEq] at hg
    obtain ⟨m, -, canonical_comp, -, team, -, -, -, rfl⟩ := hg
    exact .inr (.inl ⟨rfl, rfl⟩)
  · obtain ⟨m, -, rfl⟩ := Option.map_eq_some_iff.mp hg
    exact .inr (.inr (hcontrol _ _ _))
  · simp only [fingerprint_poly_crypto, Option.bind_eq_bind, Option.bind_eq_some_iff,
      Option.pure_def, Option.some.injEq] at hg
    obtain ⟨m, -, month, -, day, -, rfl⟩ := hg
    exact .inr (.inr (hcrypto _ _ _))
  · obtain ⟨m, -, rfl⟩ := Option.map_eq_some_iff.mp hg
    exact .inr (.inr (heconomic _ _ _ _ _ _))
  · obtain ⟨m, -, rfl⟩ := Option.map_eq_some_iff.mp hg
    exact .inr (.inr (heconomic _ _ _ _ _ _))
  · unfold fingerprint_poly_fed_rate at hg
    dsimp only at hg
    split at hg
    · obtain rfl := Option.some.inj hg
      exact .inr (.inr (heconomic _ _ _ _ _ _))
    · obtain ⟨m, -, rfl⟩ := Option.map_eq_some_iff.mp hg
      exact .inr (.inr (heconomic _ _ _ _ _ _))
  · obtain ⟨m, -, rfl⟩ := Option.map_eq_some_iff.mp hg
    exact .inr (.inr (heconomic _ _ _ _ _ _))
  · obtain ⟨m, -, rfl⟩ := Option.map_eq_some_iff.mp hg
    exact .inr (.inr (heconomic _ _ _ _ _ _))

/-- The sport of a ticker is one of the table. -/
theorem poly_sport_ne {ticker : String} {parsed : KalshiSportsMarket}
    (h : parse_kalshi_sports_ticker ticker = some parsed) : parsed.poly_sport ≠ "championship" := by
  obtain ⟨m, participants, side, -, hmarket⟩ := kalshi_ticker_match h
  simp only [kalshi_sports_market, Option.bind_eq_bind, Option.bind_eq_some_iff, Option.pure_def,
    Option.some.injEq] at hmarket
  obtain ⟨date, -, poly_sport, hlookup, rfl⟩ := hmarket
  have hsports : ∀ entry ∈ kalshi_sport_to_poly, entry.2 ≠ "championship" := by
    decide
  obtain ⟨before, after, htable, -⟩ := List.lookup_eq_some_iff.mp hlookup
  exact hsports ((m.text "1").toLower, poly_sport) (by simp [htable])

/-- The case of a code is no matter. -/
theorem normalize_entity_code_of_toLower {s code : String} (h : s.toLower = code) :
    normalize_entity_code s = (team_aliases.lookup (Text.strip code)).getD (Text.strip code) := by
  unfold normalize_entity_code
  dsimp only
  rw [Text.strip_toLower, h]

/-- **The same winner**: parsed identifiers with one sport, date and winner are a safe pair. -/
theorem evaluate_parsed_same {kalshi : KalshiSportsMarket} {poly : PolymarketSportsSlug}
    (hsport : kalshi.poly_sport = poly.sport) (hdate : kalshi.date = poly.date)
    (hside : normalize_entity_code kalshi.side = poly.yes_side) :
    evaluate_parsed kalshi poly =
      { known := true, safe := true, reason := "same_polarity", polarity := "same"
        kalshi_side := poly.yes_side, polymarket_yes_side := poly.yes_side } := by
  -- Montreal and Miami are two teams
  have hteams {a b : String} (ha : kalshi.side.toLower = a) (hb : (poly.side.getD "").toLower = b)
      (hblank : "".toLower ≠ b) (hab : (team_aliases.lookup (Text.strip a)).getD (Text.strip a) ≠
        (team_aliases.lookup (Text.strip b)).getD (Text.strip b)) : False := by
    cases hpoly : poly.side with
    | none =>
        rw [hpoly] at hb
        exact hblank hb
    | some side =>
        rw [hpoly] at hb
        rw [PolymarketSportsSlug.yes_side, hpoly, normalize_entity_code_of_toLower ha] at hside
        exact hab (hside.trans (normalize_entity_code_of_toLower hb))
  have hsides : ¬ ((kalshi.side.toLower, (poly.side.getD "").toLower) = ("mtl", "mim") ∨
      (kalshi.side.toLower, (poly.side.getD "").toLower) = ("mim", "mtl")) := by
    rintro (h | h)
    · obtain ⟨ha, hb⟩ := Prod.mk.inj h
      exact hteams ha hb (by decide +kernel) (by decide +kernel)
    · obtain ⟨ha, hb⟩ := Prod.mk.inj h
      exact hteams ha hb (by decide +kernel) (by decide +kernel)
  unfold evaluate_parsed
  simp only [hsport, hdate, ne_eq, not_true_eq_false, if_false, hsides, hside, if_true]

/-- A structural match of a game is a safe pair of one polarity, of supported kinds. -/
theorem game_match_safe (k : KalshiMarket) (p : PolymarketMarket) (m : StructuralMatch)
    (h : structural_match k p = some m) (hgame : m.is_game = true) :
    (evaluate_sports_pair k.ticker p.slug).known = true ∧
      (evaluate_sports_pair k.ticker p.slug).safe = true ∧
      (evaluate_sports_pair k.ticker p.slug).polarity = "same" ∧
      unsupported_sports_pair_reason k.ticker p.slug = none := by
  obtain ⟨f, g, hf, hg, hkey, hsource, rfl⟩ := structural_match_eq_some.mp h
  have hgame_f := kalshi_game hf hgame
  have hplain := kalshi_sports_plain hgame_f
  simp only [fingerprint_kalshi_sports, Option.bind_eq_bind, Option.bind_eq_some_iff,
    Option.pure_def, Option.some.injEq] at hgame_f
  obtain ⟨kalshi, hkalshi, participants, -, rfl⟩ := hgame_f
  obtain ⟨⟨hcategory, hsub, -⟩, -⟩ := plain_iff.mp hplain
  -- the keys are equal, so Polymarket's starts as Kalshi's does, and only games start so
  have hgame_g : fingerprint_poly_sports p = some g := by
    rw [key_start, key_start g] at hkey
    obtain hread | ⟨hsports, hfutures⟩ | ⟨hother, hbare⟩ := poly_start hg
    · exact hread
    · rw [hsports, hfutures] at hkey
      have hstart := (before_colon hcategory (by decide) hkey).2
      exact absurd (before_colon hsub (by decide) hstart).1 (poly_sport_ne hkalshi)
    · exact absurd (before_colon hcategory hbare hkey).1.symm hother
  have heq := plain_eq hplain (poly_sports_plain hgame_g) hkey hsource
  simp only [fingerprint_poly_sports, Option.bind_eq_bind, Option.bind_eq_some_iff,
    Option.pure_def, Option.some.injEq] at hgame_g
  obtain ⟨poly, hpoly, _, hguard, rfl⟩ := hgame_g
  have hkind : poly.kind ∈ supported_poly_winner_prefixes := by
    by_contra hkind
    simp [guard, hkind] at hguard
  simp only [MarketFingerprint.mk.injEq] at heq
  obtain ⟨-, hsport, -, hdate, -, -, hside, -⟩ := heq
  have hsupported : unsupported_sports_pair_reason k.ticker p.slug = none := by
    simp [unsupported_sports_pair_reason, is_supported_kalshi_winner_ticker,
      is_supported_polymarket_winner_slug, hkalshi, hpoly, hkind]
  rw [evaluate_sports_pair_read hsupported hkalshi hpoly,
    evaluate_parsed_same hsport hdate hside]
  exact ⟨rfl, rfl, rfl, hsupported⟩

/-- The game of Osasuna against Barcelona. -/
theorem game_match_safe_osasuna :
    (evaluate_sports_pair osasuna_bar.ticker osasuna_slug.slug).known = true ∧
      (evaluate_sports_pair osasuna_bar.ticker osasuna_slug.slug).safe = true ∧
      (evaluate_sports_pair osasuna_bar.ticker osasuna_slug.slug).polarity = "same" ∧
      unsupported_sports_pair_reason osasuna_bar.ticker osasuna_slug.slug = none :=
  game_match_safe osasuna_bar osasuna_slug osasuna_game.matched
    (osasuna_matches osasuna_bar_read) (by decide)

end games

end Fingerprint
