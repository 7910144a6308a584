import Arbiter.Mapping.Conids

/-! # Promotion

  The passes that confirm rows without an operator: `structural_fast_promote` over the
  candidates and the rows in review, `auto_promote_validated` over what the validator has
  found, `insert_verified_mappings` of the matcher of ForecastEx and Kalshi; and the
  expiries. Each counts the owners of markets and of conids once, before its loop.

  How numbers and texts are spelled inside notes is a parameter.
-/

namespace Mapping

open Effect

/-! ### Coherence -/

/-- A text that is counted as a conid. -/
def counted_conid (conid : String) : Option String :=
  let c := Text.strip conid
  if c = "" || c = "0" then none else some c

/-- The conids of a row, stripped. -/
def MarketMapping.counted_conids (m : MarketMapping) : List String :=
  [m.forecastex_contract_id, m.forecastex_no_contract_id].filterMap counted_conid

/-- The keys under which a row's markets are counted. -/
def market_keys (kalshi_market_id polymarket_slug : String) : List (String × String) :=
  [("kalshi", Text.strip kalshi_market_id), ("polymarket", Text.strip polymarket_slug)].filter
    (·.2 ≠ "")

/-- `fx_conid_owner_counts`: every conid as often as it is counted. -/
def fx_conid_owner_counts : Op (List String) := do
  let rows ← iter_confirmed
  pure (rows.flatMap (·.counted_conids))

/-- `market_owner_counts`: every key as often as it is counted. -/
def market_owner_counts : Op (List (String × String)) := do
  let rows ← iter_confirmed
  pure (rows.flatMap fun m => market_keys m.kalshi_market_id m.polymarket_slug)

/-- What was counted, nothing where that raised. -/
def counted {α : Type} (counts : Op (List α)) : Op (List α) := do
  let counts ← Raising.attempt counts
  pure (counts.getD [])

section messages

variable (quoted : String → String)

/-- `shared_fx_conid_conflict`. -/
def shared_fx_conid_conflict (yes_conid no_conid : String) (owner_counts : List String) :
    Option String :=
  [("YES", yes_conid), ("NO", no_conid)].findSome? fun (label, conid) =>
    (counted_conid conid).bind fun c =>
      let n := owner_counts.count c
      if 1 < n then
        some ("ForecastEx " ++ label ++ " conid " ++ c ++ " is shared by " ++ toString n ++
          " confirmed mappings — at most one can be the correct hedge leg")
      else none

/-- `shared_market_owner_conflict`. -/
def shared_market_owner_conflict (kalshi_market_id polymarket_slug : String)
    (owner_counts : List (String × String)) : Option String :=
  (market_keys kalshi_market_id polymarket_slug).findSome? fun key =>
    let label := if key.1 = "kalshi" then "Kalshi market" else "Polymarket slug"
    let n := owner_counts.count key
    if 1 ≤ n then
      some (label ++ " " ++ quoted key.2 ++ " is already owned by " ++ toString n ++
        " other confirmed mapping(s) — refusing duplicate-canonical promotion")
    else none

/-- `max_yes_divergence`, of prices that are all positive. -/
def max_yes_divergence : List ℚ → ℚ
  | [] => 0
  | price :: prices => prices.foldl (fun worst p => max worst |price - p|) (max_yes_divergence prices)

/-- `_PARTY_TOKENS`. -/
def party_tokens : List (String × List String) :=
  [("democratic", ["dem", "dems", "democrat", "democrats", "democratic"]),
    ("republican", ["gop", "rep", "republican", "republicans"])]

/-- `canonical_party`. -/
def canonical_party (canonical_text : String) : Option String :=
  let blanked := canonical_text.toLower.toList.map fun c => if c = '_' || c = '-' then ' ' else c
  let tokens := (blanked.splitOnP (·.isWhitespace)).map String.ofList
  match party_tokens.filter fun (_, keywords) => keywords.any (· ∈ tokens) with
  | [(party, _)] => some party
  | _ => none

/-- `party_conflict`. -/
def party_conflict (canonical_text fx_local_symbol : String) : Option String :=
  match canonical_party canonical_text, canonical_party fx_local_symbol with
  | some want, some have_party =>
      if fx_local_symbol = "" || have_party = want then none
      else some ("canonical implies " ++ want ++ " but ForecastEx contract " ++
        quoted fx_local_symbol ++ " is " ++ have_party)
  | _, _ => none

end messages

/-! ### The fast path -/

/-- The verdicts of `evaluate_structural_promotion`. -/
inductive FastPromote
  | promoted
  | skip_status
  | skip_already_tradable
  | skip_missing_leg
  | skip_score
  | skip_resolution
  deriving DecidableEq

/-- `evaluate_structural_promotion`. -/
def evaluate_structural_promotion (min_score : ℚ) (m : MarketMapping) : FastPromote :=
  if m.status ≠ .candidate ∧ m.status ≠ .review then .skip_status
  else if m.status = .confirmed ∧ m.allow_auto_trade then .skip_already_tradable
  else if Text.strip m.kalshi_market_id = "" ∨ Text.strip m.polymarket_slug = "" then
    .skip_missing_leg
  else if m.mapping_score < min_score then .skip_score
  else if !m.is_identical then .skip_resolution
  else if m.is_sports then .skip_resolution
  else .promoted

section passes

variable (spelled : Json ℚ → String) (fixed : ℕ → ℚ → String) (quoted : String → String)

/-- `update_status`, in a `try`: whether it did not raise. -/
def try_update_status (canonical_id : String) (status : MappingStatus) (review_note : String)
    (allow_auto_trade : Bool) : Op Bool := do
  let updated ← Raising.attempt
    (update_status spelled canonical_id status review_note (some allow_auto_trade))
  pure updated.isSome

/-- A row passes the guards of the fast path. -/
def fast_promotes (min_score : ℚ) (owner_counts : List String)
    (market_owner_counts : List (String × String)) (m : MarketMapping) : Bool :=
  !m.marked &&
    (shared_fx_conid_conflict m.forecastex_contract_id m.forecastex_no_contract_id
      owner_counts).isNone &&
    (shared_market_owner_conflict quoted m.kalshi_market_id m.polymarket_slug
      market_owner_counts).isNone &&
    evaluate_structural_promotion min_score m = .promoted

/-- One row of `structural_fast_promote`. -/
def fast_promote_row (min_score : ℚ) (owner_counts : List String)
    (market_owner_counts : List (String × String)) (promoted : ℕ) (m : MarketMapping) :
    Op ℕ :=
  if fast_promotes quoted min_score owner_counts market_owner_counts m then do
    turn_to (.fast_promote m market_owner_counts)
    let updated ← try_update_status spelled m.canonical_id .confirmed
      ("structural_fast_promote: score=" ++ fixed 3 m.mapping_score ++
        ", resolution=identical, both venues present") true
    pure (if updated then promoted + 1 else promoted)
  else pure promoted

/-- The rows of one status, in `structural_fast_promote`. -/
def fast_promote_status (min_score : ℚ) (limit : ℕ) (owner_counts : List String)
    (market_owner_counts : List (String × String)) (promoted : ℕ) (status : MappingStatus) :
    Op ℕ := do
  let rows ← Raising.attempt (all status limit)
  (rows.getD []).foldlM
    (fast_promote_row spelled fixed quoted min_score owner_counts market_owner_counts) promoted

/-- `structural_fast_promote`. -/
def structural_fast_promote (min_score : ℚ) (limit : ℕ) : Op ℕ := do
  let owner_counts ← counted fx_conid_owner_counts
  let market_owner_counts ← counted market_owner_counts
  [.candidate, .review].foldlM
    (fast_promote_status spelled fixed quoted min_score limit owner_counts market_owner_counts) 0

/-! ### The validator -/

/-- What the environment sets for the validator. -/
structure ValidatorSettings where
  auto_confirm_min_score : ℚ := 19 / 20
  auto_confirm_min_live_platforms : ℕ := 2
  max_divergence : ℚ := 2 / 25

variable (settings : ValidatorSettings)

/-- What the validator makes of a row it has read. -/
inductive Verdict
  | skip
  | quarantine (reason : String)
  | promote

/-- The gates of `auto_promote_validated`, for a row. -/
def validated_verdict (market_owner_counts : List (String × String)) (vr : ValidationResult)
    (m : MarketMapping) : Verdict :=
  if m.mapping_score < settings.auto_confirm_min_score then .skip
  else if m.resolution_match_status ≠ "identical" then .skip
  else if m.marked then .skip
  else
    match shared_market_owner_conflict quoted m.kalshi_market_id m.polymarket_slug
      market_owner_counts with
    | some market_conflict => .quarantine market_conflict
    | none =>
        let live := vr.platforms.filter fun check => check.is_live && 0 < check.yes_price
        if settings.max_divergence < max_yes_divergence (live.map (·.yes_price)) then .skip
        else
          let canonical_text := " ".intercalate (vr.canonical_id :: m.aliases)
          -- parties are compared where ForecastEx is live and the mapping is about one
          match vr.forecastex.filter (·.is_live), canonical_party canonical_text with
          | some fx_check, some _ =>
              if fx_check.contract_symbol = "" then .skip
              else
                match party_conflict quoted canonical_text fx_check.contract_symbol with
                | some conflict => .quarantine ("party conflict: " ++ conflict)
                | none => .promote
          | _, _ => .promote

/-- One result of `auto_promote_validated`. -/
def promote_validated (market_owner_counts : List (String × String)) (promoted : List String)
    (vr : ValidationResult) : Op (List String) :=
  if vr.recommendation ≠ .confirm ∧ vr.recommendation ≠ .promote then pure promoted
  else if vr.live_platform_count < settings.auto_confirm_min_live_platforms then pure promoted
  else do
    match ← get vr.canonical_id with
    | none => pure promoted
    | some m =>
        match validated_verdict quoted settings market_owner_counts vr m with
        | .skip => pure promoted
        | .quarantine reason => do
            let _ ← try_update_status spelled vr.canonical_id m.status
              ("[no-auto-promote] " ++ reason) false
            pure promoted
        | .promote => do
            turn_to (.validated vr.canonical_id market_owner_counts)
            let updated ← try_update_status spelled vr.canonical_id .confirmed
              ("[auto-validator " ++ vr.validated_at ++ "] promoted: " ++
                toString vr.live_platform_count ++ " platforms live, score=" ++
                fixed 4 m.mapping_score ++ ", resolution=" ++ m.resolution_match_status) true
            pure (if updated then promoted ++ [vr.canonical_id] else promoted)

/-- `auto_promote_validated`. -/
def auto_promote_validated (results : List ValidationResult) : Op (List String) := do
  let market_owner_counts ← counted market_owner_counts
  let promoted ← results.foldlM
    (promote_validated spelled fixed quoted settings market_owner_counts) []
  if promoted = [] then pure promoted
  else do
    let _ ← refresh_runtime_cache
    pure promoted

/-! ### The matcher of ForecastEx and Kalshi -/

/-- A text in the criteria. -/
def criterion (text : String) : Json ℚ := .str text none

/-- The criteria of a match; `now` is the time. -/
def match_criteria (now : String) (match_result : MatchResult) : Json ℚ :=
  let fx := match_result.fx_contract
  let kalshi := match_result.kalshi_contract
  .obj
    [("forecastex", .obj
        [("source", criterion "IBKR ForecastEx via Client Portal API"),
          ("conid_yes", criterion match_result.fx_yes_conid),
          ("conid_no", criterion match_result.fx_no_conid), ("symbol", criterion fx.symbol),
          ("threshold", criterion fx.threshold_key), ("direction", criterion fx.direction),
          ("period", criterion fx.period)]),
      ("kalshi", .obj
        [("source", criterion "Kalshi Trade API"),
          ("ticker", criterion match_result.kalshi_ticker),
          ("threshold", criterion kalshi.threshold_key),
          ("direction", criterion kalshi.direction), ("period", criterion kalshi.period)]),
      ("criteria_match", criterion "identical"),
      ("match_quality", criterion match_result.match_quality),
      ("operator_note", criterion ("Auto-matched by fx_cross_platform_matcher on " ++ now ++
        " — exact threshold " ++ fx.threshold_key ++ " verified."))]

/-- The contract is a child with a sibling. -/
def child_pair_resolved (match_result : MatchResult) : Bool :=
  match_result.fx_contract.right.toUpper ∈ ["C", "CALL"] &&
    Forecastex.is_valid_conid match_result.fx_no_conid

/-- The row of a match. -/
def match_mapping (now : String) (match_result : MatchResult) : MarketMapping :=
  let resolved := child_pair_resolved match_result
  { canonical_id := match_result.canonical_id
    description := match_result.description
    status := if resolved then .confirmed else .review
    allow_auto_trade := resolved
    tags := match_result.family_tags
    kalshi_market_id := match_result.kalshi_ticker
    forecastex_contract_id := match_result.fx_yes_conid
    forecastex_no_contract_id := match_result.fx_no_conid
    mapping_score := 1
    notes := "FX cross-platform match: " ++ match_result.family_name ++ " threshold=" ++
      match_result.fx_contract.threshold_key ++ " quality=" ++ match_result.match_quality
    review_note :=
      if resolved then ""
      else "unresolved YES/NO child pair (parent-conid match or missing NO sibling) — " ++
        "untradeable as mapped; operator must attach child conids before promotion"
    resolution_criteria := .json (match_criteria now match_result)
    resolution_match_status := "identical" }

/-- One match of `insert_verified_mappings`. -/
def insert_match (now : String) (dry_run : Bool) (market_owner_counts : List (String × String))
    (inserted : ℕ) (match_result : MatchResult) : Op ℕ := do
  let existing ← get match_result.canonical_id
  if existing.any (·.status = .confirmed) then pure inserted
  else if (shared_market_owner_conflict quoted match_result.kalshi_ticker ""
      market_owner_counts).isSome then pure inserted
  else if !Forecastex.is_valid_conid match_result.fx_yes_conid then pure inserted
  else if dry_run then pure (inserted + 1)
  else do
    turn_to (.matched (match_mapping now match_result) market_owner_counts)
    let upserted ← Raising.attempt (upsert spelled (match_mapping now match_result))
    pure (if upserted.isSome then inserted + 1 else inserted)

/-- `insert_verified_mappings`. -/
def insert_verified_mappings (now : String) (matches_found : List MatchResult) (dry_run : Bool) :
    Op ℕ := do
  let market_owner_counts ← counted market_owner_counts
  matches_found.foldlM (insert_match spelled quoted now dry_run market_owner_counts) 0

/-! ### Expiries -/

/-- A row is expired, in a `try`. -/
def expire_row (canonical_id review_note : String) : Op Bool := do
  turn_to (.expiry canonical_id)
  try_update_status spelled canonical_id .expired review_note false

/-- One result of `auto_expire_dead`. -/
def expire_dead (expired : List String) (vr : ValidationResult) : Op (List String) :=
  if vr.recommendation ≠ .expire then pure expired
  else do
    let done ← expire_row spelled vr.canonical_id
      ("[auto-validator " ++ vr.validated_at ++ "] expired: " ++ vr.reason)
    pure (if done then expired ++ [vr.canonical_id] else expired)

/-- `auto_expire_dead`. -/
def auto_expire_dead (results : List ValidationResult) : Op (List String) := do
  let expired ← results.foldlM (expire_dead spelled) []
  if expired = [] then pure expired
  else do
    let _ ← refresh_runtime_cache
    pure expired

/-- One row of `expire_settled_confirmed_mappings`. -/
def expire_settled (cutoff : String) (settled : String → Option String) (expired : List String)
    (m : MarketMapping) : Op (List String) :=
  match settled m.canonical_id with
  | none => pure expired
  | some event_date => do
      let done ← expire_row spelled m.canonical_id
        ("Auto-expired " ++ cutoff ++ ": event date " ++ event_date ++ " is in the past.")
      pure (if done then expired ++ [m.canonical_id] else expired)

/-- `expire_settled_confirmed_mappings`; `settled` tells the event date of an id where that is
    before the cutoff. -/
def expire_settled_confirmed_mappings (cutoff : String) (settled : String → Option String) :
    Op (List String) := do
  let confirmed ← iter_confirmed
  confirmed.foldlM (expire_settled spelled cutoff settled) []

end passes

/-! ### The passes -/

/-- The passes that no operator starts, with their arguments. -/
inductive AutoPass
  | write_candidates (candidates : List Candidate)
  | sync_candidates (candidates : List Candidate)
  | structural_fast_promote (min_score : ℚ) (limit : ℕ)
  | auto_promote_validated (settings : ValidatorSettings) (results : List ValidationResult)
  | insert_verified_mappings (now : String) (matches_found : List MatchResult) (dry_run : Bool)
  | discover (client : FxClient) (events : List FxEvent) (dry_run : Bool)
  | auto_expire_dead (results : List ValidationResult)
  | expire_settled_confirmed_mappings (cutoff : String) (settled : String → Option String)

/-- The candidates a pass writes. -/
def AutoPass.candidates : AutoPass → List Candidate
  | .write_candidates candidates | .sync_candidates candidates => candidates
  | _ => []

/-- How numbers and texts are spelled, and the hash of an id. -/
structure Spelling where
  digest : String → String
  spelled : Json ℚ → String
  fixed : ℕ → ℚ → String
  quoted : String → String

/-- One spelling. -/
def plain_spelling : Spelling where
  digest := fun _ => ""
  spelled := fun _ => ""
  fixed := fun _ _ => ""
  quoted := fun text => text

/-- What a pass does, its result aside. -/
def AutoPass.run (sp : Spelling) : AutoPass → Op Unit
  | .write_candidates candidates => do
      let _ ← Mapping.write_candidates sp.digest sp.spelled candidates
      pure ()
  | .sync_candidates candidates => do
      let _ ← Mapping.sync_candidates sp.digest sp.spelled candidates
      pure ()
  | .structural_fast_promote min_score limit => do
      let _ ← Mapping.structural_fast_promote sp.spelled sp.fixed sp.quoted min_score limit
      pure ()
  | .auto_promote_validated settings results => do
      let _ ← Mapping.auto_promote_validated sp.spelled sp.fixed sp.quoted settings results
      pure ()
  | .insert_verified_mappings now matches_found dry_run => do
      let _ ← Mapping.insert_verified_mappings sp.spelled sp.quoted now matches_found dry_run
      pure ()
  | .discover client events dry_run => do
      let _ ← Mapping.discover client sp.spelled events dry_run
      pure ()
  | .auto_expire_dead results => do
      let _ ← Mapping.auto_expire_dead sp.spelled results
      pure ()
  | .expire_settled_confirmed_mappings cutoff settled => do
      let _ ← Mapping.expire_settled_confirmed_mappings sp.spelled cutoff settled
      pure ()

end Mapping
