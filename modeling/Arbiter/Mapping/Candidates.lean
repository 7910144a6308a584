import Arbiter.Framework.System
import Arbiter.Mapping.Store

/-! # Candidates of the Discovery

  `write_candidates` and `sync_candidates`. A candidate is written to the row of its pair,
  else to a row that binds one of its contracts and nothing else, else to a row of its own;
  not at all where another row is confirmed for one of its contracts. A row that a review
  has decided about keeps its status.
-/

namespace Mapping

open Effect

/-! ### What a candidate makes of a row -/

/-- `a or b`, of texts. -/
def or_text (a b : String) : String := if a = "" then b else a

/-- `_candidate_description`. -/
def candidate_description (c : Candidate) (fallback : String) : String :=
  let values := [c.poly_question, c.kalshi_title, c.description].map Text.strip
  (values.find? (· ≠ "")).getD (or_text fallback "Auto-discovered market candidate")

/-- `normalize_market_text`. -/
def normalize_market_text (text : String) : String := " ".intercalate (market_tokens text)

section candidates

variable (digest : String → String)

/-- `_generated_candidate_id`; `digest` is the start of the hash of a text. -/
def generated_candidate_id (kalshi_ticker poly_slug : String) : String :=
  let base := (normalize_market_text kalshi_ticker).toList.map fun c => if c = ' ' then '_' else c
  let base := (String.ofList ((String.ofList base).toUpper.toList.take 24))
  "AUTO_" ++ or_text base "MARKET" ++ "_" ++ digest (kalshi_ticker ++ "|" ++ poly_slug)

/-- The row a candidate is written to if no row is found for it. -/
def fresh_mapping (c : Candidate) : MarketMapping :=
  { canonical_id :=
      or_text (Text.strip c.canonical_id) (generated_candidate_id digest c.pair.1 c.pair.2)
    description := candidate_description c ""
    status := .candidate
    kalshi_market_id := c.pair.1
    polymarket_slug := c.pair.2 }

/-- Another row is confirmed for the contract `found` was looked up by. -/
def taken_by (found other : Option MarketMapping) : Bool :=
  found.any fun m => m.status = .confirmed && other.all (·.canonical_id ≠ m.canonical_id)

/-- The row a candidate is written to: what was found by the pair, by the ticker and by the
    slug decides; `none` where a contract is another's. -/
def existing_mapping (c : Candidate) (pair_mapping kalshi_mapping poly_mapping :
    Option MarketMapping) : Option MarketMapping :=
  match pair_mapping with
  | some m => some m
  | none =>
      if taken_by kalshi_mapping poly_mapping || taken_by poly_mapping kalshi_mapping then none
      else
        let both := kalshi_mapping.filter fun k => poly_mapping.any (·.canonical_id = k.canonical_id)
        let half_kalshi := kalshi_mapping.filter fun k =>
          k.polymarket_slug = "" && k.status ≠ .confirmed
        let half_poly := poly_mapping.filter fun p =>
          p.kalshi_market_id = "" && p.status ≠ .confirmed
        some (((both.or half_kalshi).or half_poly).getD (fresh_mapping digest c))

/-- A review has decided about the row. -/
def MappingStatus.protected : MappingStatus → Bool
  | .review | .rejected | .expired => true
  | _ => false

/-- The status a candidate asks for: a confirmed one needs criteria. -/
def Candidate.asked (c : Candidate) : MappingStatus :=
  let status := coerce_status c.status
  if status = .confirmed ∧ c.resolution_criteria.isNone then .review else status

/-- The review note after a candidate is written to `existing`. -/
def merged_review_note (c : Candidate) (existing : MarketMapping) : String :=
  if existing.status.protected && existing.review_note ≠ "" then existing.review_note
  else
    match c.review_note with
    | some incoming => incoming
    | none =>
        if c.asked = .confirmed ∧ "Expired".toList.isPrefixOf existing.review_note.toList then ""
        else existing.review_note

/-- The resolution status after a candidate is written to `existing`. -/
def merged_match_status (c : Candidate) (existing : MarketMapping) : String :=
  let bare : Bool :=
    match existing.resolution_criteria with
    | .absent => true
    | _ => false
  if c.asked = .review ∧ c.resolution_criteria.isNone ∧ bare then "pending_operator_review"
  else
    or_text (c.resolution_match_status.getD
      (or_text existing.resolution_match_status "pending_operator_review"))
      "pending_operator_review"

/-- The status and the permission after a candidate is written to `existing`. -/
def merged_status (c : Candidate) (existing : MarketMapping) : MappingStatus × Bool :=
  if existing.status.protected then (existing.status, false)
  else if existing.status = .confirmed then (.confirmed, existing.allow_auto_trade)
  else
    match c.asked with
    | .confirmed => (.confirmed, c.allow_auto_trade)
    | .review => (.review, false)
    | _ => (.candidate, false)

/-- What is written to `existing` for a candidate. -/
def merge_candidate (c : Candidate) (existing : MarketMapping) : MarketMapping :=
  { existing with
    description := candidate_description c existing.description
    status := (merged_status c existing).1
    allow_auto_trade := (merged_status c existing).2
    kalshi_market_id := c.pair.1
    polymarket_slug := c.pair.2
    polymarket_question := or_text c.poly_question existing.polymarket_question
    notes := or_text c.notes (or_text existing.notes "Auto-discovered candidate mapping.")
    review_note := merged_review_note c existing
    mapping_score := c.score
    resolution_criteria :=
      match c.resolution_criteria with
      | some value => .json value
      | none => existing.resolution_criteria
    resolution_match_status := merged_match_status c existing }

/-- `_mapping_from_candidate`. -/
@[irreducible] def mapping_from_candidate (c : Candidate) : Op (Option MarketMapping) :=
  if !c.paired then pure none
  else do
    let pair_mapping ← get_by_exact_pair c.pair.1 c.pair.2
    let kalshi_mapping ← get_by_platform .kalshi c.pair.1
    let poly_mapping ← get_by_platform .polymarket c.pair.2
    pure ((existing_mapping digest c pair_mapping kalshi_mapping poly_mapping).map
      (merge_candidate c))

/-- `_is_expirable_auto_candidate`. -/
def is_expirable_auto_candidate (m : MarketMapping) : Bool :=
  m.status = .candidate && !m.allow_auto_trade &&
    ("AUTO_".toList.isPrefixOf m.canonical_id.toList ||
      Text.occurs "Auto-discovered candidate mapping" m.notes)

/-- A row that `sync_candidates` expires. -/
def stale (candidates : List Candidate) (m : MarketMapping) : Bool :=
  let pair := (Text.strip m.kalshi_market_id, Text.strip m.polymarket_slug)
  is_expirable_auto_candidate m && pair.1 ≠ "" && pair.2 ≠ "" &&
    pair ∉ (candidates.filter (·.paired)).map (·.pair)

section passes

variable (spelled : Json ℚ → String)

/-- One candidate of `write_candidates`. -/
def write_candidate (written : ℕ) (c : Candidate) : Op ℕ := do
  turn_to (.candidate c)
  match ← mapping_from_candidate digest c with
  | none => pure written
  | some m =>
      let _ ← upsert spelled m
      pure (written + 1)

/-- `write_candidates`. -/
def write_candidates (candidates : List Candidate) : Op ℕ :=
  candidates.foldlM (write_candidate digest spelled) 0

/-- One row of the expiry in `sync_candidates`. -/
def expire_stale (candidates : List Candidate) (_ : Unit) (m : MarketMapping) : Op Unit :=
  if stale candidates m then do
    turn_to (.stale m)
    let _ ← upsert spelled { m with
      status := .expired
      allow_auto_trade := false
      review_note := "Expired by latest discovery sync." }
    pure ()
  else pure ()

/-- `sync_candidates`. -/
def sync_candidates (candidates : List Candidate) : Op ℕ := do
  let written ← write_candidates digest spelled candidates
  let existing_candidates ← all .candidate 5000
  existing_candidates.foldlM (expire_stale spelled candidates) ()
  pure written

end passes

end candidates

/-! ### Sequences of operations -/

/-- The operations of the store, with their arguments. -/
inductive StoreOp
  | seed_from_records (records : List MarketMappingRecord) (overwrite : Bool)
  | upsert (m : MarketMapping)
  | update_status (canonical_id : String) (status : MappingStatus) (review_note : String)
      (allow_auto_trade : Option Bool)
  | disable_auto_trade (canonical_id reason : String)
  | mark_forecastex_unavailable (canonical_id : String) (unavailable : Bool)
  | set_forecastex_conid (canonical_id conid side : String)
  | write_candidates (candidates : List Candidate)
  | sync_candidates (candidates : List Candidate)
  | expire_duplicate_active_pairs
  | refresh_runtime_cache
  | delete (canonical_id : String)

section run

variable (digest : String → String) (spelled : Json ℚ → String)

/-- What an operation does, its result aside. -/
def StoreOp.run : StoreOp → Op Unit
  | .seed_from_records records overwrite => do
      let _ ← Mapping.seed_from_records spelled records overwrite
      pure ()
  | .upsert m => do
      let _ ← Mapping.upsert spelled m
      pure ()
  | .update_status id status review_note allow_auto_trade => do
      let _ ← Mapping.update_status spelled id status review_note allow_auto_trade
      pure ()
  | .disable_auto_trade id reason => do
      let _ ← Mapping.disable_auto_trade id reason
      pure ()
  | .mark_forecastex_unavailable id unavailable => do
      let _ ← Mapping.mark_forecastex_unavailable id unavailable
      pure ()
  | .set_forecastex_conid id conid side => do
      let _ ← Mapping.set_forecastex_conid id conid side
      pure ()
  | .write_candidates candidates => do
      let _ ← Mapping.write_candidates digest spelled candidates
      pure ()
  | .sync_candidates candidates => do
      let _ ← Mapping.sync_candidates digest spelled candidates
      pure ()
  | .expire_duplicate_active_pairs => do
      let _ ← Mapping.expire_duplicate_active_pairs
      pure ()
  | .refresh_runtime_cache => do
      let _ ← Mapping.refresh_runtime_cache
      pure ()
  | .delete id => do
      let _ ← Mapping.delete id
      pure ()

/-- The store, operation after operation; one may raise on the way. -/
def store_runs (start : World → Prop) : LTS.System World StoreOp where
  init := start
  step := fun w op w' => ∃ result, Raising.Ends store_env (op.run digest spelled) w result w'

end run

end Mapping
