import Arbiter.Mapping.Structural

/-! # Participants of Sports Pairs

  `evaluate_sports_pair` compares the sport, the date and the winner. A ticker carries the
  codes of both teams in one word, which the comparison never reads: a safe pair names the
  same game exactly where the teams happen to be the same too.
-/

namespace Sports

open Teams Fingerprint

/-! ## Section 1: What a safe pair agrees on -/

/-- The two are about one winner of one day in one sport. -/
structure SameWinner (kalshi : KalshiSportsMarket) (poly : PolymarketSportsSlug) : Prop where
  sport : kalshi.poly_sport = poly.sport
  date : kalshi.date = poly.date
  side : normalize_entity_code kalshi.side = poly.yes_side

/-- The ticker's word is made of two codes that stand for the teams of the slug, in any order. -/
def SameParticipants (kalshi : KalshiSportsMarket) (poly : PolymarketSportsSlug) : Prop :=
  ∃ left right : List Char, kalshi.participants_raw.toList = left ++ right ∧
    let code (l : List Char) := normalize_entity_code (String.ofList l)
    (code left = normalize_entity_code poly.team1 ∧ code right = normalize_entity_code poly.team2) ∨
      (code left = normalize_entity_code poly.team2 ∧
        code right = normalize_entity_code poly.team1)

theorem evaluate_parsed_known (kalshi : KalshiSportsMarket) (poly : PolymarketSportsSlug) :
    (evaluate_parsed kalshi poly).known = true := by
  unfold evaluate_parsed
  dsimp only
  split_ifs <;> rfl

/-- Of two identifiers that are parsed, the same winner is all that is asked. -/
theorem evaluate_parsed_safe_iff (kalshi : KalshiSportsMarket) (poly : PolymarketSportsSlug) :
    (evaluate_parsed kalshi poly).safe = true ↔ SameWinner kalshi poly := by
  constructor
  · intro hsafe
    unfold evaluate_parsed at hsafe
    dsimp only at hsafe
    split_ifs at hsafe with hsport hdate hcity hside
    exact ⟨not_not.mp hsport, not_not.mp hdate, hside⟩
  · intro h
    rw [evaluate_parsed_same h.sport h.date h.side]

/-- A pair that is known and safe was parsed, and has the same winner. -/
theorem known_safe_iff (k p : String) :
    ((evaluate_sports_pair k p).known = true ∧ (evaluate_sports_pair k p).safe = true) ↔
      unsupported_sports_pair_reason k p = none ∧
        ∃ kalshi poly, parse_kalshi_sports_ticker k = some kalshi ∧
          parse_polymarket_sports_slug p = some poly ∧ SameWinner kalshi poly := by
  delta evaluate_sports_pair
  cases unsupported_sports_pair_reason k p with
  | some reason => simp
  | none =>
    cases parse_kalshi_sports_ticker k with
    | none => simp
    | some kalshi =>
      cases parse_polymarket_sports_slug p with
      | none => simp
      | some poly => simp [evaluate_parsed_known, evaluate_parsed_safe_iff]

/-! ## Section 2: The same game -/

/-- The identifiers name the same sport, the same date, the same teams and the same Yes side. -/
def SameGame (k p : String) : Prop :=
  ∃ kalshi poly, parse_kalshi_sports_ticker k = some kalshi ∧
    parse_polymarket_sports_slug p = some poly ∧ SameWinner kalshi poly ∧
    SameParticipants kalshi poly

end Sports
