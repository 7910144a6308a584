import Arbiter.Mapping.Promotion

/-! # The Discovery of Pairs

  `auto_discovery`, from the pairs it has scored on: each found pair goes through the gates
  of `maybe_promote`; one with a structural match is confirmed, one whose only evidence is
  its similarity goes to review; then the candidates are written to the store.

  What the resolution check, the language model and the order books say of a pair are
  parameters, and so are the days until a date.
-/

namespace Mapping

/-! ### Found pairs -/

/-- What a venue says about the resolution of its market. -/
structure FoundSide where
  source : Option String := none
  rule : Option String := none
  settlement_date : Option String := none

/-- A pair as `discover` has scored it. An absent text is empty. -/
structure Found where
  kalshi_ticker : String
  poly_slug : String
  kalshi_title : String := ""
  poly_question : String := ""
  description : String := ""
  canonical_id : String := ""
  score : ℚ
  structural_match : Bool := false
  category : String := ""
  kalshi_category : String := ""
  polarity : String := ""
  advisory_scans : ℤ := 0
  resolution_date : String := ""
  kalshi : FoundSide := {}
  polymarket : FoundSide := {}

namespace Found

/-- The candidate of a found pair, before any promotion. -/
def candidate (f : Found) : Candidate :=
  { kalshi_ticker := f.kalshi_ticker
    poly_slug := f.poly_slug
    canonical_id := f.canonical_id
    poly_question := f.poly_question
    kalshi_title := f.kalshi_title
    description := f.description
    score := f.score }

/-- The pair, stripped. -/
def pair (f : Found) : String × String := f.candidate.pair

/-- `candidate.get("category") or candidate.get("kalshi_category") or ""`. -/
def any_category (f : Found) : String := or_text f.category f.kalshi_category

/-- A date the gates read. -/
def any_date (f : Found) : String :=
  or_text f.resolution_date
    (or_text (f.kalshi.settlement_date.getD "") (f.polymarket.settlement_date.getD ""))

end Found

/-- A text in the criteria, or nothing. -/
def optional_criterion : Option String → Json ℚ
  | some text => criterion text
  | none => .null

/-- `_candidate_resolution_criteria`. -/
def candidate_resolution_criteria (f : Found) (operator_note : String) : Json ℚ :=
  let side (s : FoundSide) : Json ℚ := .obj
    [("source", optional_criterion s.source), ("rule", optional_criterion s.rule),
      ("settlement_date", optional_criterion s.settlement_date)]
  .obj ([("kalshi", side f.kalshi), ("polymarket", side f.polymarket),
      ("criteria_match", criterion "identical"), ("operator_note", criterion operator_note)] ++
    if f.polarity = "same" then [("polarity", criterion "same")] else [])

/-! ### The gates -/

/-- `PromotionResult`. -/
structure PromotionResult where
  promoted : Bool
  reason : String
  match_type : String := ""

namespace PromotionResult

def is_structural (result : PromotionResult) : Bool :=
  result.promoted && result.match_type = "structural"

end PromotionResult

/-- `_reject`. -/
def reject (reason : String) : PromotionResult := ⟨false, reason, ""⟩

/-- `ResolutionMatch`. -/
inductive ResolutionMatch
  | identical
  | divergent
  | pending
  deriving DecidableEq

/-- What is asked about a found pair. -/
structure Evidence where
  resolution : ResolutionMatch
  /-- The verdict of the language model. -/
  llm : String
  kalshi_depth : ℚ
  poly_depth : ℚ

/-- The days until a date, where it can be read. -/
structure Clock where
  /-- From today, of `_coerce_date`. -/
  days : String → Option ℤ
  /-- From `settled_cutoff_date`, of `date.fromisoformat`. -/
  days_until : String → Option ℤ

/-- What the gates are set to. -/
structure PromotionSettings where
  auto_promote_enabled : Bool := false
  auto_promote_min_score : ℚ := 17 / 20
  auto_promote_min_score_by_category : String → Option ℚ := fun _ => none
  semantic_promote_min_score : ℚ := 23 / 25
  phase5_max_order_usd : ℚ := 50
  auto_promote_max_days : ℤ := 90
  auto_promote_daily_cap : Option ℤ := none
  /-- The cap where the settings name none. -/
  default_daily_cap : ℤ := 20
  auto_promote_advisory_scans : ℤ := 30

/-- `DEFAULT_CATEGORY_MIN_SCORE`. -/
def default_category_min_score : List (String × ℚ) :=
  [("sports", 17 / 20), ("politics", 13 / 20), ("crypto", 13 / 20), ("economics", 13 / 20),
    ("entertainment", 13 / 20), ("finance", 13 / 20)]

section gates

variable (settings : PromotionSettings) (clock : Clock)

/-- `_category_min_score`. -/
def category_min_score (f : Found) : ℚ :=
  let category := (Text.strip f.any_category).toLower
  if category = "" then settings.auto_promote_min_score
  else
    ((settings.auto_promote_min_score_by_category category).or
      (default_category_min_score.lookup category)).getD settings.auto_promote_min_score

/-- The date gate: a date that cannot be read is out of the window. -/
def date_in_window (f : Found) : Bool :=
  f.any_date = "" || (clock.days_until f.any_date).any fun days =>
    0 ≤ days && days ≤ settings.auto_promote_max_days

/-- The gates of `maybe_promote` in their order, of a pair that is not cooling off: whether a
    gate rejects the pair, and its reason. -/
def promotion_gates (seen : Evidence) (today_promoted_count : ℤ) (f : Found) :
    List (Bool × String) :=
  let is_semantic := settings.semantic_promote_min_score ≤ f.score && !f.structural_match
  let sports : Bool := f.any_category.toLower = "sports"
  let polarity := f.polarity.toLower
  [(!settings.auto_promote_enabled, "auto_promote_disabled"),
    (f.score < category_min_score settings f, "score_low"),
    (!f.structural_match && !is_semantic, "structural_unverified"),
    (seen.resolution = .divergent, "resolution_divergent"),
    (seen.resolution ≠ .identical, "resolution_pending"),
    (sports && polarity = "flipped", "polarity_flipped"),
    (sports && polarity ≠ "same", "polarity_unconfirmed"),
    (seen.llm = "NO", "llm_no"),
    (seen.llm ≠ "YES", "llm_maybe"),
    (seen.kalshi_depth < settings.phase5_max_order_usd ||
      seen.poly_depth < settings.phase5_max_order_usd, "liquidity_low"),
    (!date_in_window settings clock f, "date_out_of_window"),
    (settings.auto_promote_daily_cap.getD settings.default_daily_cap ≤ today_promoted_count,
      "daily_cap")]

/-- The first gate that rejects decides, else `passed` does. -/
def first_failing (gates : List (Bool × String)) (passed : PromotionResult) : PromotionResult :=
  match gates.find? (·.1) with
  | some gate => reject gate.2
  | none => passed

/-- `maybe_promote`. -/
def maybe_promote (seen : Evidence) (today_promoted_count : ℤ) (f : Found) : PromotionResult :=
  first_failing (promotion_gates settings clock seen today_promoted_count f)
    ⟨true, "promoted", if f.structural_match then "structural" else "semantic"⟩

/-- `_evaluate`: the gates that are asked before `maybe_promote`. -/
def evaluate (seen : Evidence) (f : Found) : PromotionResult :=
  first_failing
    [(f.score < category_min_score settings f, "score_low"),
      ((clock.days f.resolution_date).any (settings.auto_promote_max_days < ·),
        "resolution_too_far"),
      (f.advisory_scans < settings.auto_promote_advisory_scans, "advisory_pending")]
    (maybe_promote settings clock seen 0 f)

end gates

/-! ### The cage -/

/-- `apply_promotion`: a structural match is confirmed, any other goes to review. -/
def apply_promotion (c : Candidate) (result : PromotionResult) : Candidate :=
  if Text.occurs MarketMapping.no_auto_promote (c.review_note.getD "" ++ " " ++ c.notes) then
    { c with allow_auto_trade := false }
  else if !result.promoted then
    { c with
      allow_auto_trade := false
      review_note := some ("Auto-promote gate: " ++ result.reason) }
  else if result.is_structural then
    { c with
      status := "confirmed"
      allow_auto_trade := true
      resolution_match_status := some "identical"
      review_note := some "" }
  else
    { c with
      status := "review"
      allow_auto_trade := false
      review_note := some ("Semantic-only auto-promote (score ≥ SEMANTIC_PROMOTE_MIN_SCORE) " ++
        "cleared resolution + LLM gates but lacks structural parser proof. " ++
        "Operator must verify event identity before flipping allow_auto_trade.") }

/-- What becomes of a found pair, where `promoted_this_pass` were confirmed before it. -/
def applied (max_promotions : ℤ) (promoted_this_pass : ℤ) (f : Found) (result : PromotionResult) :
    Candidate :=
  if !result.promoted then
    { f.candidate with
      allow_auto_trade := false
      review_note := some ("Auto-promote gate: " ++ result.reason) }
  else if result.is_structural then
    -- a semantic match is not counted against the cap of the pass
    if max_promotions ≤ promoted_this_pass then
      { f.candidate with
        allow_auto_trade := false
        review_note := some "Auto-promote gate: daily_cap" }
    else
      { apply_promotion f.candidate result with
        resolution_criteria := some (candidate_resolution_criteria f
          "Auto-promoted by discovery engine after structured + LLM + liquidity checks.")
        notes := "Auto-promoted by discovery engine." }
  else
    { apply_promotion f.candidate result with
      resolution_match_status := some "identical"
      resolution_criteria := some (candidate_resolution_criteria f
        ("Semantic-only auto-promote: similarity gate cleared but " ++
          "no structural parser fired. Operator must verify event " ++
          "identity before promoting to live-tradable."))
      notes := "Surfaced to review by discovery engine — semantic-only " ++
        "match; needs operator confirmation." }

/-- The results, one after the other. -/
def apply_results (max_promotions : ℤ) : ℤ → List (Found × PromotionResult) → List Candidate
  | _, [] => []
  | promoted_this_pass, (f, result) :: rest =>
      let promotes : Bool := result.is_structural && promoted_this_pass < max_promotions
      applied max_promotions promoted_this_pass f result ::
        apply_results max_promotions (if promotes then promoted_this_pass + 1
          else promoted_this_pass) rest

/-- `_apply_auto_promote`; `seen` is what is found out about each pair. -/
def apply_auto_promote (settings : PromotionSettings) (clock : Clock) (seen : Found → Evidence)
    (found : List Found) : List Candidate :=
  if !settings.auto_promote_enabled then found.map (·.candidate)
  else
    apply_results (settings.auto_promote_daily_cap.getD found.length) 0
      (found.map fun f => (f, evaluate settings clock (seen f) f))

/-- What `discover` writes: a store without `sync_candidates` writes only. -/
def discovery_pass (settings : Option PromotionSettings) (clock : Clock) (seen : Found → Evidence)
    (found : List Found) (syncs : Bool) : AutoPass :=
  let candidates :=
    match settings with
    | some settings => apply_auto_promote settings clock seen found
    | none => found.map (·.candidate)
  if candidates = [] then .write_candidates []
  else if syncs then .sync_candidates candidates
  else .write_candidates candidates

/-! ### What the cage lets through -/

/-- What passes was rejected by no gate. -/
theorem first_failing_promoted {gates : List (Bool × String)} {passed : PromotionResult}
    (h : (first_failing gates passed).promoted = true) :
    (∀ gate ∈ gates, gate.1 = false) ∧ first_failing gates passed = passed := by
  unfold first_failing at h ⊢
  cases hfind : gates.find? (·.1) with
  | none => exact ⟨by simpa using List.find?_eq_none.mp hfind, rfl⟩
  | some failing => simp [hfind, reject] at h

theorem promoted_of_structural {result : PromotionResult} (h : result.is_structural = true) :
    result.promoted = true := by
  simp only [PromotionResult.is_structural, Bool.and_eq_true] at h
  exact h.1

theorem first_failing_structural {gates : List (Bool × String)} {passed : PromotionResult}
    (h : (first_failing gates passed).is_structural = true) : passed.is_structural = true := by
  rwa [(first_failing_promoted (promoted_of_structural h)).2] at h

theorem evaluate_structural {settings : PromotionSettings} {clock : Clock} {seen : Evidence}
    {f : Found} (h : (evaluate settings clock seen f).is_structural = true) :
    f.structural_match = true := by
  have hpassed := first_failing_structural (first_failing_structural h)
  by_contra hsemantic
  simp [PromotionResult.is_structural, hsemantic] at hpassed

/-- Nothing but a structural result gives the permission; the pair stays. -/
theorem apply_promotion_caged (c : Candidate) (result : PromotionResult) :
    (apply_promotion c result).pair = c.pair ∧
      ((apply_promotion c result).allow_auto_trade = true → result.is_structural = true) := by
  unfold apply_promotion
  split_ifs <;> simp_all [Candidate.pair]

theorem applied_caged (max_promotions count : ℤ) (f : Found) (result : PromotionResult) :
    (applied max_promotions count f result).pair = f.pair ∧
      ((applied max_promotions count f result).allow_auto_trade = true →
        result.is_structural = true) := by
  obtain ⟨hpair, hallow⟩ := apply_promotion_caged f.candidate result
  unfold applied
  split_ifs with hpromoted hstructural hcap
  · exact ⟨rfl, by simp⟩
  · exact ⟨rfl, by simp⟩
  · exact ⟨hpair, fun _ => hstructural⟩
  · exact ⟨hpair, hallow⟩

theorem apply_results_caged {max_promotions count : ℤ} {results : List (Found × PromotionResult)}
    {c : Candidate} (h : c ∈ apply_results max_promotions count results) :
    ∃ f result, (f, result) ∈ results ∧ c.pair = f.pair ∧
      (c.allow_auto_trade = true → result.is_structural = true) := by
  induction results generalizing count with
  | nil => simp [apply_results] at h
  | cons head rest ih =>
      obtain ⟨f, result⟩ := head
      obtain rfl | h := List.mem_cons.mp h
      · exact ⟨f, result, by simp, applied_caged ..⟩
      · obtain ⟨f', result', hmem, hcaged⟩ := ih h
        exact ⟨f', result', List.mem_cons_of_mem _ hmem, hcaged⟩

/-- A candidate that discovery writes with the permission is of a pair it has found to match
    structurally. -/
theorem discovery_caged {settings : Option PromotionSettings} {clock : Clock}
    {seen : Found → Evidence} {found : List Found} {syncs : Bool} {c : Candidate}
    (h : c ∈ (discovery_pass settings clock seen found syncs).candidates)
    (hallow : c.allow_auto_trade = true) :
    ∃ f ∈ found, f.pair = c.pair ∧ f.structural_match = true := by
  have hunpromoted : c ∉ found.map (·.candidate) := by
    intro hmem
    obtain ⟨f, -, rfl⟩ := List.mem_map.mp hmem
    cases hallow
  have hwritten {candidates : List Candidate} (h : c ∈ (if candidates = [] then
      AutoPass.write_candidates [] else if syncs then .sync_candidates candidates
        else .write_candidates candidates).candidates) : c ∈ candidates := by
    split_ifs at h
    · simp [AutoPass.candidates] at h
    · exact h
    · exact h
  cases settings with
  | none => exact absurd (hwritten h) hunpromoted
  | some settings =>
      have hmem : c ∈ apply_auto_promote settings clock seen found := hwritten h
      unfold apply_auto_promote at hmem
      split_ifs at hmem
      · exact absurd hmem hunpromoted
      · obtain ⟨f, result, hresult, hpair, hstructural⟩ := apply_results_caged hmem
        obtain ⟨f', hf', heq⟩ := List.mem_map.mp hresult
        obtain ⟨rfl, rfl⟩ := Prod.mk.inj heq
        exact ⟨f', hf', hpair.symm, evaluate_structural (hstructural hallow)⟩

end Mapping
