import Arbiter.Mapping.Promotion
import Arbiter.Mapping.Replay

/-! # Validation

  The validator's checks of a mapping at its venues, what it recommends from them, and the
  expiry of what it takes for dead. A check that ends without a message leaves a result
  that exists nowhere, whether the venue has said so or nothing has been heard.

  ## Contents

  - Section 1: the checks of the venues, and how each ends.
  - Section 2: `validate_mapping`.
  - Section 3: the runs of `auto_expire_dead`.
-/

namespace Mapping

open Effect

/-! ## Section 1: Checks -/

/-- `PlatformCheckResult`, as a check fills it. -/
structure PlatformCheck where
  platform : String
  market_id : String
  market_exists : Bool := false
  is_open : Bool := false
  is_expired : Bool := false
  has_quotes : Bool := false
  yes_price : ℚ := 0
  no_price : ℚ := 0
  volume : ℚ := 0
  error : String := ""
  contract_symbol : String := ""

namespace PlatformCheck

/-- `is_live`. -/
def is_live (p : PlatformCheck) : Bool := p.market_exists && p.is_open && !p.is_expired

/-- `is_expired or not exists`. -/
def is_dead (p : PlatformCheck) : Bool := p.is_expired || !p.market_exists

/-- The error is none of those of a check that was skipped. -/
def asked (p : PlatformCheck) : Bool := !"no ".toList.isPrefixOf p.error.toList

/-- What promotion reads of the result. -/
def read (p : PlatformCheck) : PlatformCheckResult :=
  { platform := p.platform
    is_live := p.is_live
    yes_price := p.yes_price
    contract_symbol := p.contract_symbol }

end PlatformCheck

/-- How a check ends; in the result only the error tells. -/
inductive Ending
  /-- The venue has answered. -/
  | answered
  /-- The venue has answered the first of two lookups, and failed the second. -/
  | half_answered
  /-- There is no client, or nothing to ask for. -/
  | skipped (error : String)
  /-- The venue does not answer. -/
  | refused (error : String)
  | raised (text : String)

/-- `error`; of an exception `str(e)[:200]`. -/
def Ending.error : Ending → String
  | .answered | .half_answered => ""
  | .skipped error | .refused error => error
  | .raised text => String.ofList (text.toList.take 200)

/-- A check that has ended. -/
structure Checked where
  ending : Ending
  result : PlatformCheck

/-- The venue was asked and says that its market is closed, or that it has none. -/
def Checked.gone (c : Checked) : Prop := c.ending = .answered ∧ c.result.is_dead = true

/-- The body of a check: what it has filled in stays where it ends early. -/
abbrev Check := ExceptT Ending (StateM PlatformCheck)

/-- A check with its `except`. -/
def Check.run (platform market_id : String) (body : Check Unit) : Checked :=
  let (ended, result) := StateT.run (ExceptT.run body) { platform, market_id }
  let ending :=
    match ended with
    | .ok () => .answered
    | .error ending => ending
  ⟨ending, { result with error := ending.error }⟩

/-- A response. -/
structure Response where
  status : ℕ
  /-- The header, with its default. -/
  retry_after : Json ℚ := .str "5" (some 5)
  /-- The decoded body. -/
  json : Except String (Json ℚ)

/-- What a request is answered with, or the text of what it raises. -/
abbrev Reply := Except String Response

/-- What exceptions and values are spelled as, and what texts decode to. -/
structure Reading where
  spelled : Json ℚ → String
  /-- Of a value that is not what it is read as. -/
  complaint : Json ℚ → String
  /-- Of `raise_for_status`. -/
  http_error : ℕ → String
  /-- `json.loads`. -/
  loads : String → Option (Json ℚ)

section checks

variable (rd : Reading)

/-- What raises ends the check. -/
def received {α : Type} : Except String α → Check α
  | .ok a => pure a
  | .error text => throw (.raised text)

/-- `v.get(key, default)`, which raises where `v` is no object. -/
def get_key (v : Json ℚ) (key : String) (default : Json ℚ) : Check (Json ℚ) :=
  if v.is_obj then pure (v.getD key default) else throw (.raised (rd.complaint v))

/-- `float(v or 0)`. -/
def float_or_zero (v : Json ℚ) : Check ℚ :=
  match (v.orElse (.num 0)).float with
  | some q => pure q
  | none => throw (.raised (rd.complaint v))

/-- `float(v.get(key, 0) or 0)`. -/
def get_float (v : Json ℚ) (key : String) : Check ℚ := do
  let value ← get_key rd v key (.num 0)
  float_or_zero rd value

/-- `v[0]`, of what counts as true. -/
def first_item : Json ℚ → Check (Json ℚ)
  | .arr (item :: _) => pure item
  | .str s _ => pure (.str (s.take 1).toString none)
  | v => throw (.raised (rd.complaint v))

/-- `_check_kalshi`. -/
def check_kalshi (collector : Bool) (ticker : String) (reply : Reply) : Checked :=
  Check.run "kalshi" ticker do
    if !collector || ticker = "" then throw (.skipped "no collector or empty ticker")
    let resp ← received reply
    if resp.status = 404 then throw .answered
    if resp.status = 429 then
      -- the sleep: a date in the header does not convert
      let _ ← float_or_zero rd resp.retry_after
      throw (.refused "rate_limited")
    if 400 ≤ resp.status then throw (.raised (rd.http_error resp.status))
    let data ← received resp.json
    let markets ← get_key rd data "markets" (.arr [])
    if !markets.truthy then throw .answered
    let market ← first_item rd markets
    modify fun p => { p with market_exists := true }
    let status ← get_key rd market "status" (.str "" none)
    let status := (status.text rd.spelled).toLower
    modify fun p => { p with
      is_open := status ∈ ["open", "active"]
      is_expired := status ∈ ["closed", "settled", "finalized", "ceased_trading"] }
    let yes_ask ← get_float rd market "yes_ask"
    let no_ask ← get_float rd market "no_ask"
    let yes_bid ← get_float rd market "yes_bid"
    let no_bid ← get_float rd market "no_bid"
    let last_price ← get_float rd market "last_price"
    let quotes : Bool := 0 < yes_ask || 0 < no_ask || 0 < yes_bid || 0 < no_bid || 0 < last_price
    modify fun p => { p with
      yes_price := if yes_ask ≠ 0 then yes_ask else last_price
      no_price := no_ask
      has_quotes := quotes || p.is_open }
    let volume ← get_float rd market "volume"
    modify fun p => { p with volume }

/-- The prices of `outcomePrices`: what cannot be read is passed over. -/
def read_outcome_prices (outcome_prices : Json ℚ) : Check Unit :=
  let prices :=
    match outcome_prices with
    | .str s _ => rd.loads s
    | v => some v
  match prices with
  | some (.arr (yes :: rest)) =>
      match yes.float with
      | none => pure ()
      | some yes_price => do
          modify fun p => { p with yes_price }
          match rest.head?.bind Json.float with
          | none => pure ()
          | some no_price => modify fun p => { p with no_price }
  | _ => pure ()

/-- `_check_polymarket`; the second lookup is by the condition. -/
def check_polymarket (slug : String) (by_slug by_condition : Reply) : Checked :=
  Check.run "polymarket" slug do
    if slug = "" then throw (.skipped "empty slug")
    let resp ← received by_slug
    if resp.status = 404 then throw .answered
    if resp.status = 429 then throw (.refused "rate_limited")
    if 400 ≤ resp.status then throw (.refused ("HTTP " ++ toString resp.status))
    let data ← received resp.json
    let data ←
      if data.truthy then pure data
      else do
        let resp ← received by_condition
        if resp.status = 200 then received resp.json
        -- any other status leaves the empty answer of the first lookup
        else if 400 ≤ resp.status ∧ resp.status ≠ 404 then throw .half_answered
        else throw .answered
    if !data.truthy then throw .answered
    let market ← if data.is_arr then first_item rd data else pure data
    modify fun p => { p with market_exists := true }
    let active ← get_key rd market "active" (.bool false)
    let still_open := !(market.getD "closed" (.bool true)).truthy
    let closed := (market.getD "closed" (.bool false)).truthy
    let archived := (market.getD "archived" (.bool false)).truthy
    let outcome_prices := market.get "outcomePrices"
    modify fun p => { p with
      is_open := active.truthy && still_open
      is_expired := closed || archived
      has_quotes := (market.get "bestAsk").truthy || (market.get "bestBid").truthy ||
        outcome_prices.truthy }
    if outcome_prices.truthy then read_outcome_prices rd outcome_prices
    let volume ← get_float rd market "volume"
    modify fun p => { p with volume }

/-- `_check_forecastex`; `info` is of the contract, where that could be fetched. -/
def check_forecastex (client : Bool) (conid : String) (snapshot : Except String (Json ℚ))
    (info : Option (Json ℚ)) : Checked :=
  Check.run "forecastex" conid do
    if !client || conid = "" then throw (.skipped "no client or empty conid")
    let snapshot ← received snapshot
    let snap ←
      match snapshot with
      | .arr (snap :: _) => pure snap
      | .obj fields => pure (.obj fields)
      | _ => throw .answered
    modify fun p => { p with market_exists := true }
    let price (code name : String) : Check ℚ := do
      let coded ← get_key rd snap code (.num 0)
      float_or_zero rd (coded.orElse (snap.getD name (.num 0)))
    let bid ← price "84" "bid"
    let ask ← price "86" "ask"
    let last ← price "31" "last"
    -- a contract without any price counts as expired
    let has_quotes : Bool := 0 < bid || 0 < ask || 0 < last
    modify fun p => { p with
      yes_price := if 0 < ask then ask else last
      no_price := bid
      has_quotes
      is_open := has_quotes
      is_expired := !has_quotes }
    match info with
    -- the symbol is for the party checks
    | some (.obj fields) =>
        let symbol := (Json.obj fields).first ["local_symbol", "localSymbol"] (.str "" none)
        modify fun p => { p with contract_symbol := symbol.text rd.spelled }
    | _ => pure ()

end checks

/-! ## Section 2: Recommendations -/

/-- What the validator's clients give for a mapping. -/
structure Replies where
  kalshi_collector : Bool := true
  kalshi : Reply
  polymarket : Reply
  polymarket_condition : Reply
  forecastex_client : Bool := true
  snapshot : Except String (Json ℚ)
  contract_info : Option (Json ℚ) := none

section validation

variable (rd : Reading)

/-- The checks of the ids that a mapping carries. -/
def checks (replies : Replies) (m : MarketMapping) : List Checked :=
  (if m.kalshi_market_id ≠ "" then
    [check_kalshi rd replies.kalshi_collector m.kalshi_market_id replies.kalshi] else []) ++
  (if m.polymarket_slug ≠ "" then
    [check_polymarket rd m.polymarket_slug replies.polymarket replies.polymarket_condition]
    else []) ++
  if m.forecastex_contract_id ≠ "" then
    [check_forecastex rd replies.forecastex_client m.forecastex_contract_id replies.snapshot
      replies.contract_info] else []

/-- The recommendation, and its reason. -/
def recommend (platforms : List PlatformCheck) : ValidationRecommendation × String :=
  let checked := platforms.filter (·.asked)
  let skipped := platforms.filter (!·.asked)
  let live_count := checked.countP (·.is_live)
  let expired_count := checked.countP (·.is_dead)
  let error_count := checked.countP (·.error ≠ "")
  let checked_count := checked.length
  if platforms = [] then (.expire, "no platform identifiers")
  else if checked_count = 0 then
    (.review, "no platforms could be checked (" ++ toString skipped.length ++ " skipped)")
  else if 0 < live_count then
    (.confirm, toString live_count ++ "/" ++ toString checked_count ++ " platform(s) live")
  else if error_count = checked_count then
    (.review, "all " ++ toString error_count ++ " checked platform(s) returned errors")
  else if expired_count = checked_count then
    (.expire, "all " ++ toString checked_count ++ " checked platform(s) expired/settled")
  else
    (.expire, "no live platforms found (" ++ toString checked_count ++ " checked, " ++
      toString expired_count ++ " expired)")

/-- `validate_mapping`, at the time `now`. No check raises. -/
def validate_mapping (now : String) (replies : Replies) (m : MarketMapping) : ValidationResult :=
  let platforms := (checks rd replies m).map (·.result)
  let (recommendation, reason) := recommend platforms
  { canonical_id := m.canonical_id
    platforms := platforms.map (·.read)
    recommendation
    reason
    validated_at := now }

/-- `auto_expire_dead`, of what `validate_all` finds of the confirmed mappings. -/
def expire_confirmed (spelled : Json ℚ → String) (now : MarketMapping → String)
    (replies : MarketMapping → Replies) : Op (List String) := do
  let mappings ← iter_confirmed
  auto_expire_dead spelled (mappings.map fun m => validate_mapping rd (now m) (replies m) m)

end validation

/-- A check without an error was not skipped. -/
theorem PlatformCheck.asked_of_silent {p : PlatformCheck} (h : p.error = "") : p.asked = true := by
  simp [asked, h]

/-- A mapping is to be expired where it carries no id, or where one check has no error and
    none that was asked finds an open market. -/
theorem recommend_expire_iff (platforms : List PlatformCheck) :
    (recommend platforms).1 = .expire ↔ platforms = [] ∨
      (∃ p ∈ platforms, p.error = "") ∧
        ∀ p ∈ platforms, p.asked = true → p.is_live = false := by
  have hlive : 0 < (platforms.filter (·.asked)).countP (·.is_live) ↔
      ¬ ∀ p ∈ platforms, p.asked = true → p.is_live = false := by
    simp [List.countP_pos_iff, and_assoc]
  have herror : (platforms.filter (·.asked)).countP (·.error ≠ "") =
      (platforms.filter (·.asked)).length ↔ ¬ ∃ p ∈ platforms, p.error = "" := by
    rw [List.countP_eq_length]
    constructor
    · rintro hall ⟨p, hp, hsilent⟩
      have hp' := List.mem_filter.mpr ⟨hp, PlatformCheck.asked_of_silent hsilent⟩
      simpa [hsilent] using hall p hp'
    · intro hnone p hp
      simpa using fun hsilent => hnone ⟨p, (List.mem_filter.mp hp).1, hsilent⟩
  have hasked : (∃ p ∈ platforms, p.error = "") → (platforms.filter (·.asked)).length ≠ 0 := by
    rintro ⟨p, hp, hsilent⟩ hempty
    exact List.ne_nil_of_mem (List.mem_filter.mpr ⟨hp, PlatformCheck.asked_of_silent hsilent⟩)
      (List.length_eq_zero_iff.mp hempty)
  -- no check expires it; all skipped, one live or all in error do not; and the rest does
  simp only [recommend]
  split_ifs with hnil hskipped hsome herrors
  · simp [hnil]
  · refine iff_of_false (by simp) ?_
    rintro (hempty | ⟨hsilent, -⟩)
    · exact hnil hempty
    · exact hasked hsilent hskipped
  · refine iff_of_false (by simp) ?_
    rintro (hempty | ⟨-, hnone⟩)
    · exact hnil hempty
    · exact hlive.mp hsome hnone
  · refine iff_of_false (by simp) ?_
    rintro (hempty | ⟨hsilent, -⟩)
    · exact hnil hempty
    · exact herror.mp herrors hsilent
  all_goals
    simp only [hnil, true_iff, false_or]
    exact ⟨not_not.mp fun h => herrors (herror.mpr h), not_not.mp fun h => hsome (hlive.mpr h)⟩

/-- What the checks of a mapping say is not mixed: one of them has found an open market, or
    each has ended with an error, or each with the answer that the market is gone. -/
def Conclusive (checks : List Checked) : Prop :=
  (∃ c ∈ checks, c.result.asked = true ∧ c.result.is_live = true) ∨
    (∀ c ∈ checks, c.ending.error ≠ "") ∨ ∀ c ∈ checks, c.gone

/-- A check that has ended carries its error. -/
theorem Check.run_error (platform market_id : String) (body : Check Unit) :
    (Check.run platform market_id body).result.error =
      (Check.run platform market_id body).ending.error := rfl

theorem checks_error (rd : Reading) (replies : Replies) (m : MarketMapping) :
    ∀ c ∈ checks rd replies m, c.result.error = c.ending.error := by
  intro c hc
  simp only [checks, List.mem_append] at hc
  obtain (hc | hc) | hc := hc <;> split_ifs at hc <;> simp at hc <;> subst hc <;>
    exact Check.run_error ..

/-- The recommendation rests on proof exactly if what the checks say is conclusive. -/
theorem validate_expires_iff (rd : Reading) (now : String) (replies : Replies)
    (m : MarketMapping) :
    ((validate_mapping rd now replies m).recommendation = .expire →
      ∀ c ∈ checks rd replies m, c.gone) ↔ Conclusive (checks rd replies m) := by
  have herror := checks_error rd replies m
  have hexpire := recommend_expire_iff ((checks rd replies m).map (·.result))
  change ((recommend _).1 = .expire → _) ↔ _
  rw [hexpire]
  simp only [List.map_eq_nil_iff, List.mem_map, exists_exists_and_eq_and,
    forall_exists_index, and_imp, forall_apply_eq_imp_iff₂]
  constructor
  · intro hproof
    by_cases hlive : ∃ c ∈ checks rd replies m, c.result.asked = true ∧ c.result.is_live = true
    · exact .inl hlive
    · by_cases hsilent : ∃ c ∈ checks rd replies m, c.result.error = ""
      · refine .inr (.inr (hproof (.inr ⟨hsilent, fun c hc hasked => ?_⟩)))
        simpa using fun h => hlive ⟨c, hc, hasked, h⟩
      · exact .inr (.inl fun c hc h => hsilent ⟨c, hc, (herror c hc).trans h⟩)
  · rintro (⟨c, hc, hasked, hlive⟩ | herrors | hgone) hexpires
    · obtain hnil | ⟨-, hnone⟩ := hexpires
      · exact absurd hc (by simp [hnil])
      · exact absurd (hnone c hc hasked) (by simp [hlive])
    · obtain hnil | ⟨⟨c, hc, hsilent⟩, -⟩ := hexpires
      · simp [hnil]
      · exact absurd ((herror c hc).symm.trans hsilent) (herrors c hc)
    · exact hgone

/-! ## Section 3: Expiry -/

section expiry

variable {spelled : Json ℚ → String} {w w' : World}

/-- Every row's criteria convert to `JSONB`. -/
def Readable (t : Mappings) : Prop := ∀ r ∈ t.rows, r.resolution_criteria.readable = true

/-- The loop expires nothing but what is recommended for it. -/
theorem expire_dead_ids {results : List ValidationResult} {before expired : List String}
    (h : Raising.Ends store_env (results.foldlM (expire_dead spelled) before) w (some expired) w') :
    ∀ id ∈ expired, id ∈ before ∨ ∃ vr ∈ results, vr.recommendation = .expire ∧
      vr.canonical_id = id := by
  induction results generalizing before w with
  | nil =>
      rw [List.foldlM_nil] at h
      obtain ⟨hsame, -⟩ := Raising.ends_pure.1 h
      cases hsame
      exact fun id hid => .inl hid
  | cons vr results ih =>
      rw [List.foldlM_cons] at h
      obtain ⟨between, w₁, hhead, hrest⟩ | ⟨hnone, -⟩ := Raising.ends_bind.1 h
      · -- by a later turn, or by this one, or before
        intro id hid
        obtain hbetween | ⟨vr', hmem, hexpire⟩ := ih hrest id hid
        · unfold expire_dead at hhead
          split_ifs at hhead with hkeep
          · obtain ⟨hsame, -⟩ := Raising.ends_pure.1 hhead
            cases hsame
            exact .inl hbetween
          · obtain ⟨done, w₂, -, hlast⟩ | ⟨hnone, -⟩ := Raising.ends_bind.1 hhead
            · obtain ⟨hsame, -⟩ := Raising.ends_pure.1 hlast
              cases hsame
              split_ifs at hbetween
              · obtain hbetween | hself := List.mem_append.mp hbetween
                · exact .inl hbetween
                · exact .inr ⟨vr, by simp, not_not.mp hkeep, (List.mem_singleton.mp hself).symm⟩
              · exact .inl hbetween
            · cases hnone
        · exact .inr ⟨vr', List.mem_cons_of_mem _ hmem, hexpire⟩
      · cases hnone

/-- A row without the permission that is not confirmed can be written. -/
theorem upsert_returns (spelled : Json ℚ → String) {m : MarketMapping}
    (hread : m.resolution_criteria.readable = true)
    (hallow : m.allow_auto_trade = false) (hstatus : m.status ≠ .confirmed) :
    ∃ w', Raising.Ends store_env (upsert spelled m) w (some m) w' ∧
      w'.table = w.table.put (m.inserted 0 (w.table.find m.canonical_id)) := by
  have hsafe : enforce_auto_trade_safety spelled m = m := by
    simp [enforce_auto_trade_safety, hallow]
  have hinsert : store_oracle w (.insert m) = (some (), { w with
      table := w.table.put (m.inserted 0 (w.table.find m.canonical_id)) }) := if_pos hread
  have hexpire : expire_duplicate_exact_pair_mappings m = pure [] := if_pos hstatus
  have hrun : upsert spelled m = (do
      insert m
      runtime_drop []
      runtime_put m.canonical_id m.to_dict
      pure m) := by
    simp only [upsert, hsafe, hexpire]
    rfl
  have hfirst := ends_after (insert m) w
  change Raising.Ends store_env (insert m) w (store_oracle w (.insert m)).1
    (store_oracle w (.insert m)).2 at hfirst
  rw [hinsert] at hfirst
  rw [hrun]
  exact ⟨_, Raising.ends_bind.2 (.inl ⟨(), _, hfirst, ends_after (do
    runtime_drop []
    runtime_put m.canonical_id m.to_dict
    pure m) _⟩), rfl⟩

/-- An expiry can come through, and leaves readable rows. -/
theorem expire_row_returns (spelled : Json ℚ → String) (hw : Readable w.table)
    (id note : String) :
    ∃ w', Raising.Ends store_env (expire_row spelled id note) w (some true) w' ∧
      Readable w'.table := by
  -- whether a row was updated or not, the id goes to the expired ones
  suffices h : ∃ updated w', Raising.Ends store_env
      (update_status spelled id .expired note (some false)) w (some updated) w' ∧
        Readable w'.table by
    obtain ⟨updated, w', hupdate, hw'⟩ := h
    exact ⟨w', Raising.ends_bind.2 (.inl ⟨(), w, ends_after (turn_to (.expiry id)) w,
      Raising.ends_bind.2 (.inl ⟨some updated, w', Raising.ends_attempt.2 ⟨_, rfl, hupdate⟩,
        Raising.ends_pure.2 ⟨rfl, rfl⟩⟩)⟩), hw'⟩
  have hget := ends_after (get id) w
  change Raising.Ends store_env (get id) w (some (w.table.find id)) w at hget
  cases hfind : w.table.find id with
  | none =>
      rw [hfind] at hget
      exact ⟨none, w, Raising.ends_bind.2 (.inl ⟨none, w, hget, Raising.ends_pure.2 ⟨rfl, rfl⟩⟩), hw⟩
  | some m =>
      rw [hfind] at hget
      have hread := hw m (Table.mem_of_find hfind)
      obtain ⟨w', hupsert, htable⟩ := upsert_returns spelled (w := w)
        (m := { m with
          status := .expired
          review_note := note
          allow_auto_trade := false }) hread rfl (by simp)
      refine ⟨_, w', Raising.ends_bind.2 (.inl ⟨some m, w, hget, Raising.ends_bind.2
        (.inl ⟨_, w', hupsert, Raising.ends_pure.2 ⟨rfl, rfl⟩⟩)⟩), ?_⟩
      rw [htable]
      rintro r hr
      obtain rfl | ⟨hr, -⟩ := Table.mem_put.mp hr
      · exact hread
      · exact hw r hr

/-- The loop can come through with everything that is recommended. -/
theorem expire_dead_returns (spelled : Json ℚ → String) (hw : Readable w.table)
    (results : List ValidationResult) (before : List String) : ∃ expired w',
      Raising.Ends store_env (results.foldlM (expire_dead spelled) before) w (some expired) w' ∧
        before ⊆ expired ∧
        ∀ vr ∈ results, vr.recommendation = .expire → vr.canonical_id ∈ expired := by
  induction results generalizing before w with
  | nil => exact ⟨before, w, Raising.ends_pure.2 ⟨rfl, rfl⟩, List.Subset.refl _, by simp⟩
  | cons vr results ih =>
      obtain ⟨between, w₁, hhead, hw₁, hbefore, hself⟩ : ∃ between w₁,
          Raising.Ends store_env (expire_dead spelled before vr) w (some between) w₁ ∧
            Readable w₁.table ∧ before ⊆ between ∧
            (vr.recommendation = .expire → vr.canonical_id ∈ between) := by
        unfold expire_dead
        split_ifs with hkeep
        · exact ⟨before, w, Raising.ends_pure.2 ⟨rfl, rfl⟩, hw, List.Subset.refl _,
            fun h => absurd h hkeep⟩
        · obtain ⟨w₁, hrow, hw₁⟩ := expire_row_returns spelled hw vr.canonical_id
            ("[auto-validator " ++ vr.validated_at ++ "] expired: " ++ vr.reason)
          exact ⟨before ++ [vr.canonical_id], w₁, Raising.ends_bind.2 (.inl ⟨true, w₁, hrow,
            Raising.ends_pure.2 ⟨rfl, rfl⟩⟩), hw₁, List.subset_append_left _ _, by simp⟩
      obtain ⟨expired, w', hrest, hkept, hall⟩ := ih hw₁ between
      refine ⟨expired, w', ?_, fun _ hid => hkept (hbefore hid), ?_⟩
      · rw [List.foldlM_cons]
        exact Raising.ends_bind.2 (.inl ⟨between, w₁, hhead, hrest⟩)
      · rintro vr' hmem hexpire
        obtain rfl | hmem := List.mem_cons.mp hmem
        · exact hkept (hself hexpire)
        · exact hall vr' hmem hexpire

/-- The pass returns what its loop expires. -/
theorem auto_expire_dead_ends {results : List ValidationResult} {expired : List String} :
    (∃ w', Raising.Ends store_env (auto_expire_dead spelled results) w (some expired) w') ↔
      ∃ w', Raising.Ends store_env (results.foldlM (expire_dead spelled) []) w (some expired) w' := by
  constructor
  · rintro ⟨w', h⟩
    obtain ⟨expired', w₁, hloop, hrest⟩ | ⟨hnone, -⟩ := Raising.ends_bind.1 h
    · refine ⟨w₁, ?_⟩
      split_ifs at hrest
      · obtain ⟨hsame, -⟩ := Raising.ends_pure.1 hrest
        exact hsame ▸ hloop
      · obtain ⟨_, w₂, -, hlast⟩ | ⟨hnone, -⟩ := Raising.ends_bind.1 hrest
        · obtain ⟨hsame, -⟩ := Raising.ends_pure.1 hlast
          exact hsame ▸ hloop
        · cases hnone
    · cases hnone
  · rintro ⟨w₁, hloop⟩
    suffices hrest : ∃ w', Raising.Ends store_env (if expired = [] then pure expired else do
        let _ ← refresh_runtime_cache
        pure expired) w₁ (some expired) w' by
      obtain ⟨w', hrest⟩ := hrest
      exact ⟨w', Raising.ends_bind.2 (.inl ⟨expired, w₁, hloop, hrest⟩)⟩
    split_ifs
    · exact ⟨w₁, Raising.ends_pure.2 ⟨rfl, rfl⟩⟩
    · exact ⟨_, ends_after (do
        let _ ← refresh_runtime_cache
        pure expired) w₁⟩

variable {rd : Reading} {now : MarketMapping → String} {replies : MarketMapping → Replies}

/-- An expiry rests on proof, in every run of the pass, exactly if what the checks of each
    confirmed mapping say is conclusive. -/
theorem expiry_needs_proof (hw : Readable w.table) :
    (∀ expired w', Raising.Ends store_env (expire_confirmed rd spelled now replies) w
        (some expired) w' →
      ∀ m ∈ w.table.rows, m.canonical_id ∈ expired → ∀ c ∈ checks rd (replies m) m, c.gone) ↔
    ∀ m ∈ w.table.rows, m.status = .confirmed → Conclusive (checks rd (replies m) m) := by
  constructor
  · -- a pass in which every statement comes through expires all that it is told to
    intro hproof m hm hconfirmed
    refine (validate_expires_iff rd (now m) (replies m) m).mp fun hexpire => ?_
    have hread := ends_after iter_confirmed w
    change Raising.Ends store_env iter_confirmed w
      (some (w.table.rows.filter fun r => r.status = .confirmed)) w at hread
    obtain ⟨expired, w₁, hloop, -, hall⟩ := expire_dead_returns spelled hw
      ((w.table.rows.filter fun r => r.status = .confirmed).map fun m =>
        validate_mapping rd (now m) (replies m) m) []
    obtain ⟨w', hpass⟩ := auto_expire_dead_ends.mpr ⟨w₁, hloop⟩
    refine hproof expired w' (Raising.ends_bind.2 (.inl ⟨_, w, hread, hpass⟩)) m hm ?_
    exact hall _ (List.mem_map.mpr ⟨m, List.mem_filter.mpr ⟨hm, by simpa⟩, rfl⟩) hexpire
  · intro hconclusive expired w' hrun m hm hid
    obtain ⟨mappings, w₁, hread, hpass⟩ | ⟨hnone, -⟩ := Raising.ends_bind.1 hrun
    · have hserve : store_serve w .select_confirmed (some mappings) w₁ := by
        obtain ⟨_, _, hserve, hret⟩ := exec_call.1 hread
        obtain ⟨rfl, rfl⟩ := exec_ret.1 hret
        exact hserve
      obtain ⟨rfl, hnone | ⟨rows, hrows, hordered⟩⟩ := hserve
      · cases hnone
      · cases hrows
        obtain ⟨w₂, hloop⟩ := auto_expire_dead_ends.mp ⟨w', hpass⟩
        obtain hnil | ⟨vr, hvr, hexpire, hsame⟩ := expire_dead_ids hloop _ hid
        · exact absurd hnil List.not_mem_nil
        · obtain ⟨m', hm', rfl⟩ := List.mem_map.mp hvr
          obtain ⟨hrow, hconfirmed⟩ := hordered.mem_iff.mp hm'
          obtain rfl : m' = m := by
            have hfind := Table.find_of_mem hrow
            rw [show m'.canonical_id = m.canonical_id from hsame, Table.find_of_mem hm] at hfind
            exact (Option.some.inj hfind).symm
          exact (validate_expires_iff rd _ _ _).mpr
            (hconclusive m' hrow (by simpa using hconfirmed)) hexpire
    · cases hnone

end expiry

/-! ### Runs -/

/-- A reading of payloads. -/
def plain_reading : Reading where
  spelled := fun _ => ""
  complaint := fun _ => "not a value of that type"
  http_error := fun _ => "http error"
  loads := fun _ => none

/-- A settled market of Kalshi. -/
def settled_market : Reply :=
  .ok ⟨200, .null, .ok (.obj [("markets", .arr [.obj [("status", .str "settled" none)]])])⟩

/-- A confirmed row with both contracts, and nothing else. -/
def confirmed_world : World :=
  ⟨⟨[traded_row], traded_row_nodup⟩, fun _ => none⟩

/-- Kalshi has settled, Polymarket answers with a server error. -/
def half_heard : Replies where
  kalshi := settled_market
  polymarket := .ok ⟨500, .null, .error ""⟩
  polymarket_condition := .error ""
  snapshot := .error ""

/-- The row is expired. -/
theorem half_heard_expires : ∃ expired w',
    Raising.Ends store_env (expire_confirmed plain_reading (fun _ => "") (fun _ => "")
      fun _ => half_heard) confirmed_world (some expired) w' ∧
    ∃ m ∈ confirmed_world.table.rows, m.canonical_id ∈ expired ∧
      ∃ c ∈ checks plain_reading half_heard m, ¬ c.gone := by
  have hplay : (play store_oracle (expire_confirmed plain_reading (fun _ => "") (fun _ => "")
      fun _ => half_heard) confirmed_world).1 = some ["FED"] := by
    decide +kernel
  have hrun := ends_after (expire_confirmed plain_reading (fun _ => "") (fun _ => "")
    fun _ => half_heard) confirmed_world
  rw [hplay] at hrun
  refine ⟨_, _, hrun, traded_row, List.mem_singleton.mpr rfl, List.mem_singleton.mpr rfl,
    check_polymarket plain_reading "px" half_heard.polymarket half_heard.polymarket_condition,
    List.mem_cons_of_mem _ (List.mem_singleton.mpr rfl), ?_⟩
  rintro ⟨hanswered, -⟩
  cases hanswered

/-- Both venues have settled. -/
def both_heard : Replies := { half_heard with
  polymarket := .ok ⟨404, .null, .error ""⟩ }

/-- A row whose venues both answer that the market is gone. -/
theorem expiry_needs_proof_settled :
    (∀ m ∈ confirmed_world.table.rows, m.status = .confirmed →
      Conclusive (checks plain_reading both_heard m)) ∧
    ∀ expired w', Raising.Ends store_env (expire_confirmed plain_reading (fun _ => "")
        (fun _ => "") fun _ => both_heard) confirmed_world (some expired) w' →
      ∀ m ∈ confirmed_world.table.rows, m.canonical_id ∈ expired →
        ∀ c ∈ checks plain_reading both_heard m, c.gone := by
  have hconclusive : ∀ m ∈ confirmed_world.table.rows, m.status = .confirmed →
      Conclusive (checks plain_reading both_heard m) := by
    intro m hm _
    obtain rfl := List.mem_singleton.mp hm
    refine .inr (.inr fun c hc => ?_)
    obtain rfl | hc := List.mem_cons.mp hc
    · exact ⟨rfl, by decide +kernel⟩
    · obtain rfl := List.mem_singleton.mp hc
      exact ⟨rfl, by decide⟩
  refine ⟨hconclusive, (expiry_needs_proof fun r hr => ?_).mpr hconclusive⟩
  obtain rfl := List.mem_singleton.mp hr
  rfl

end Mapping
