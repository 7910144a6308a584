import Arbiter.Framework.Raising
import Arbiter.Mapping.Row

/-! # The Mapping Store

  `MarketMappingStore`: each operation is the statements it sends to Postgres, one after the
  other, and what it does to `MARKET_MAP` in between. Every statement is carried out as a
  whole, or raises and does nothing. Times are the database's, and any.

  Where a query leaves the order of rows open, any of the orders is taken; so where rows are
  ordered by their description, whose collation is the database's.

  ## Contents

  - Section 1: the statements, and what they do.
  - Section 2: the operations.
-/

namespace Mapping

open Effect

/-! ## Section 1: Statements -/

/-- What `MARKET_MAP` holds of a mapping. -/
structure RuntimeEntry where
  status : MappingStatus
  allow_auto_trade : Bool
  kalshi : String
  polymarket : String
  forecastex : String
  forecastex_no : String
  deriving DecidableEq

/-- What `to_dict` tells of these. -/
def MarketMapping.to_dict (m : MarketMapping) : RuntimeEntry :=
  { status := m.status, allow_auto_trade := m.allow_auto_trade, kalshi := m.kalshi_market_id
    polymarket := m.polymarket_slug, forecastex := m.forecastex_contract_id
    forecastex_no := m.forecastex_no_contract_id }

/-- The database, and the map of the process. -/
structure World where
  table : Mappings
  runtime : String → Option RuntimeEntry

/-- The venues whose ids are looked up. -/
inductive Platform
  | kalshi
  | polymarket
  deriving DecidableEq

/-- The id of a mapping at a venue. -/
def MarketMapping.platform_id (m : MarketMapping) : Platform → String
  | .kalshi => m.kalshi_market_id
  | .polymarket => m.polymarket_slug

/-- The statements, and the changes of `MARKET_MAP`. A pass also says what it turns to. -/
inductive Call
  /-- `WHERE canonical_id = $1`. -/
  | select (canonical_id : String)
  /-- `WHERE kalshi_market_id = $1 AND polymarket_slug = $2`, the first row. -/
  | select_exact_pair (kalshi_market_id polymarket_slug : String)
  /-- The first row with an id at a venue. -/
  | select_platform (platform : Platform) (market_id : String)
  /-- `WHERE status = $1`, ordered by the description. -/
  | select_status (status : MappingStatus) (limit : ℕ)
  /-- `WHERE status = 'confirmed'`. -/
  | select_confirmed
  /-- The active rows, the confirmed ones first. -/
  | select_active (limit : ℕ)
  /-- `INSERT … ON CONFLICT DO UPDATE` of `upsert`. -/
  | insert (m : MarketMapping)
  /-- The same of `seed_from_records`, with fewer columns. -/
  | insert_seed (m : MarketMapping)
  /-- The `UPDATE` of `_expire_duplicate_exact_pair_mappings`. -/
  | expire_exact_pair (canonical_id kalshi_market_id polymarket_slug : String)
  /-- The `UPDATE` of `expire_duplicate_active_pairs`. -/
  | expire_ranked
  /-- The `UPDATE` of `disable_auto_trade`. -/
  | disable (canonical_id reason : String)
  /-- The `UPDATE` of `mark_forecastex_unavailable`. -/
  | mark_unavailable (canonical_id : String) (unavailable : Bool)
  /-- The `UPDATE` of `set_forecastex_conid`. -/
  | set_conid (canonical_id conid : String) (no_side : Bool)
  /-- `DELETE … WHERE canonical_id = $1`. -/
  | delete (canonical_id : String)
  /-- `upsert_runtime_market_mapping`. -/
  | runtime_put (canonical_id : String) (entry : RuntimeEntry)
  /-- `MARKET_MAP.pop`, of some ids. -/
  | runtime_drop (canonical_ids : List String)
  /-- `replace_runtime_market_map`. -/
  | runtime_replace (entries : List (String × RuntimeEntry))
  /-- A pass turns to an item. -/
  | turn_to (turn : Turn)

/-- What a call is answered with: a statement may raise. -/
def Answer : Call → Type
  | .select _ | .select_exact_pair _ _ | .select_platform _ _ => Option (Option MarketMapping)
  | .select_status _ _ | .select_confirmed | .select_active _ => Option (List MarketMapping)
  | .insert _ | .insert_seed _ => Option Unit
  | .expire_exact_pair _ _ _ | .expire_ranked => Option (List String)
  | .disable _ _ | .mark_unavailable _ _ | .set_conid _ _ _ | .delete _ => Option Bool
  | .runtime_put _ _ | .runtime_drop _ | .runtime_replace _ | .turn_to _ => Unit

/-- The order of the lookups by contract and of the ranking: by status, then readable ids
    first, then the newest. -/
def MarketMapping.rank (m : MarketMapping) : ℕ × ℕ :=
  (match m.status with
    | .confirmed => 0
    | .review => 1
    | .candidate => 2
    | _ => 3,
  if m.like_auto then 1 else 0)

/-- `r` has to come before `s` in that order. -/
def MarketMapping.outranks (r s : MarketMapping) : Prop :=
  r.rank.1 < s.rank.1 ∨ r.rank.1 = s.rank.1 ∧ (r.rank.2 < s.rank.2 ∨
    r.rank.2 = s.rank.2 ∧ s.updated_at < r.updated_at)

instance : DecidableRel MarketMapping.outranks := fun r s => by
  unfold MarketMapping.outranks
  infer_instance

/-- The order in which the runtime map is loaded: by status, then the newest. -/
def MarketMapping.load_rank (m : MarketMapping) : ℕ :=
  match m.status with
  | .confirmed => 0
  | .candidate => 1
  | _ => 2

/-- `r` has to come before `s` in that order. -/
def MarketMapping.loads_before (r s : MarketMapping) : Prop :=
  r.load_rank < s.load_rank ∨ r.load_rank = s.load_rank ∧ s.updated_at < r.updated_at

/-- A duplicate is retired; a note it has stays. -/
def MarketMapping.retire (stamp : ℤ) (m : MarketMapping) : MarketMapping :=
  { m with
    status := .expired
    allow_auto_trade := false
    review_note :=
      if m.review_note = "" then
        "Expired duplicate exact venue pair by latest discovery sync."
      else m.review_note
    updated_at := stamp }

theorem MarketMapping.retire_id (stamp : ℤ) (m : MarketMapping) :
    (m.retire stamp).canonical_id = m.canonical_id := rfl

/-- What `disable_auto_trade` makes of a row; `note` is what it appends. -/
def MarketMapping.disable (stamp : ℤ) (note : String) (m : MarketMapping) : MarketMapping :=
  { m with allow_auto_trade := false, updated_at := stamp, notes := m.notes ++ note }

theorem MarketMapping.disable_id (stamp : ℤ) (note : String) (m : MarketMapping) :
    (m.disable stamp note).canonical_id = m.canonical_id := rfl

/-- What `mark_forecastex_unavailable` makes of a row. -/
def MarketMapping.mark (stamp : ℤ) (unavailable : Bool) (m : MarketMapping) : MarketMapping :=
  { m with forecastex_not_available := unavailable, updated_at := stamp }

theorem MarketMapping.mark_id (stamp : ℤ) (unavailable : Bool) (m : MarketMapping) :
    (m.mark stamp unavailable).canonical_id = m.canonical_id := rfl

/-- What `set_forecastex_conid` makes of a row. -/
def MarketMapping.rebind (stamp : ℤ) (conid : String) (no_side : Bool) (m : MarketMapping) :
    MarketMapping :=
  if no_side then { m with forecastex_no_contract_id := conid, updated_at := stamp }
  else { m with forecastex_contract_id := conid, updated_at := stamp }

theorem MarketMapping.rebind_id (stamp : ℤ) (conid : String) (no_side : Bool)
    (m : MarketMapping) : (m.rebind stamp conid no_side).canonical_id = m.canonical_id := by
  cases no_side <;> rfl

/-- The row an `INSERT` of `upsert` leaves, where `old` is the row before it. -/
def MarketMapping.inserted (stamp : ℤ) (old : Option MarketMapping) (m : MarketMapping) :
    MarketMapping :=
  { m with
    forecastex_not_available := old.any (·.forecastex_not_available)
    mapping_score := stored_score m.mapping_score
    updated_at := stamp
    resolution_match_status :=
      if m.resolution_match_status = "" then "pending_operator_review"
      else m.resolution_match_status }

/-- The row an `INSERT` of `seed_from_records` leaves: the columns it lacks stay. -/
def MarketMapping.seeded (stamp : ℤ) (old : Option MarketMapping) (m : MarketMapping) :
    MarketMapping :=
  { m.inserted stamp old with review_note := (old.map (·.review_note)).getD "" }

/-- The rows of a table that meet `p`, each replaced by `f` of it. -/
def update_where (t : Mappings) (p : MarketMapping → Bool) (f : MarketMapping → MarketMapping)
    (hf : ∀ r, (f r).canonical_id = r.canonical_id) : Mappings :=
  t.modify (fun r => if p r then f r else r) fun r => by
    by_cases hp : p r = true
    · rw [if_pos hp, hf]
    · rw [if_neg hp]

/-- What is true of the rows, and stays true of those that are replaced, is true afterwards. -/
theorem forall_update_where {t : Mappings} {p : MarketMapping → Bool}
    {f : MarketMapping → MarketMapping} {hf : ∀ r, (f r).canonical_id = r.canonical_id}
    {P : MarketMapping → Prop} (h : ∀ r ∈ t.rows, P r) (hkeeps : ∀ r, P r → P (f r)) :
    ∀ r ∈ (update_where t p f hf).rows, P r := by
  intro s hs
  rw [update_where, Table.mem_modify] at hs
  obtain ⟨r, hr, rfl⟩ := hs
  by_cases hp : p r = true
  · rw [if_pos hp]
    exact hkeeps r (h r hr)
  · rw [if_neg hp]
    exact h r hr

/-- The rows of a table that meet `p`, retired. -/
def retire_where (t : Mappings) (p : MarketMapping → Bool) (stamp : ℤ) : Mappings :=
  update_where t p (·.retire stamp) (MarketMapping.retire_id stamp)

/-- An active duplicate of an upserted pair. -/
def duplicates (canonical_id kalshi_market_id polymarket_slug : String) (m : MarketMapping) :
    Bool :=
  m.canonical_id ≠ canonical_id && m.kalshi_market_id = kalshi_market_id &&
    m.polymarket_slug = polymarket_slug && m.status.active

/-- `keep` names, for every pair that active rows bind, a first one of these. -/
def RanksFirst (t : Mappings) (keep : String × String → String) : Prop :=
  ∀ r ∈ t.rows, r.status.active = true → r.paired = true →
    ∃ s ∈ t.rows, s.status.active = true ∧ s.pair = r.pair ∧ s.canonical_id = keep r.pair ∧
      ∀ s' ∈ t.rows, s'.status.active = true → s'.pair = r.pair → ¬ s'.outranks s

/-- An active row of a pair that is not the one kept. -/
def ranked_out (keep : String × String → String) (m : MarketMapping) : Bool :=
  m.status.active && m.paired && m.canonical_id ≠ keep m.pair

/-- How a call is answered, and the world afterwards. -/
def store_serve (w : World) : (c : Call) → Answer c → World → Prop
  | .select id, a, w' => w' = w ∧ (a = none ∨ a = some (w.table.find id))
  | .select_exact_pair k p, a, w' => w' = w ∧ (a = none ∨ ∃ rows, a = some (List.head? rows) ∧
      w.table.Ordered (fun r => r.kalshi_market_id = k && r.polymarket_slug = p)
        MarketMapping.outranks rows)
  | .select_platform platform id, a, w' => w' = w ∧ (a = none ∨ ∃ rows,
      a = some (List.head? rows) ∧
        w.table.Ordered (fun r => r.platform_id platform = id && id ≠ "")
          MarketMapping.outranks rows)
  | .select_status status limit, a, w' => w' = w ∧ (a = none ∨ ∃ rows,
      a = some (rows.take limit) ∧
        w.table.Ordered (fun r => r.status = status) (fun _ _ => False) rows)
  | .select_confirmed, a, w' => w' = w ∧ (a = none ∨ ∃ rows, a = some rows ∧
      w.table.Ordered (fun r => r.status = .confirmed) (fun _ _ => False) rows)
  | .select_active limit, a, w' => w' = w ∧ (a = none ∨ ∃ rows, a = some (rows.take limit) ∧
      w.table.Ordered (fun r => r.status.active) MarketMapping.loads_before rows)
  -- what writes either raises and leaves the table, or comes through
  | .insert m, a, w' => (a = none ∧ w' = w) ∨ (a = some () ∧
      m.resolution_criteria.readable = true ∧ ∃ stamp, w' = { w with
        table := w.table.put (m.inserted stamp (w.table.find m.canonical_id)) })
  | .insert_seed m, a, w' => (a = none ∧ w' = w) ∨ (a = some () ∧ ∃ stamp, w' = { w with
      table := w.table.put (m.seeded stamp (w.table.find m.canonical_id)) })
  | .expire_exact_pair id k p, a, w' => (a = none ∧ w' = w) ∨ ∃ stamp,
      w' = { w with table := retire_where w.table (duplicates id k p) stamp } ∧
      a = some ((w.table.rows.filter (duplicates id k p)).map (·.canonical_id))
  | .expire_ranked, a, w' => (a = none ∧ w' = w) ∨ ∃ stamp keep, RanksFirst w.table keep ∧
      w' = { w with table := retire_where w.table (ranked_out keep) stamp } ∧
      a = some ((w.table.rows.filter (ranked_out keep)).map (·.canonical_id))
  | .disable id reason, a, w' => (a = none ∧ w' = w) ∨ ∃ stamp time, w' = { w with
        table := update_where w.table (fun r => r.canonical_id = id && r.allow_auto_trade)
          (·.disable stamp ("\n[auto-disabled " ++ time ++ ": " ++ reason ++ "]"))
          (MarketMapping.disable_id stamp _) } ∧
      a = some ((w.table.find id).any (·.allow_auto_trade))
  | .mark_unavailable id unavailable, a, w' => (a = none ∧ w' = w) ∨ ∃ stamp, w' = { w with
        table := update_where w.table (·.canonical_id = id) (·.mark stamp unavailable)
          (MarketMapping.mark_id stamp unavailable) } ∧
      a = some (w.table.find id).isSome
  | .set_conid id conid no_side, a, w' => (a = none ∧ w' = w) ∨ ∃ stamp, w' = { w with
        table := update_where w.table (·.canonical_id = id) (·.rebind stamp conid no_side)
          (MarketMapping.rebind_id stamp conid no_side) } ∧
      a = some (w.table.find id).isSome
  | .delete id, a, w' => (a = none ∧ w' = w) ∨
      (w' = { w with table := w.table.erase id } ∧ a = some (w.table.find id).isSome)
  -- the map of the settings is in memory
  | .runtime_put id entry, _, w' => w' = { w with
      runtime := fun c => if c = id then some entry else w.runtime c }
  | .runtime_drop ids, _, w' => w' = { w with
      runtime := fun c => if c ∈ ids then none else w.runtime c }
  | .runtime_replace entries, _, w' => w' = { w with
      runtime := fun c => (entries.reverse.find? (·.1 = c)).map Prod.snd }
  | .turn_to _, _, w' => w' = w

/-- The database and the process. -/
def store_env : Env Call Answer World := ⟨store_serve⟩

/-! ## Section 2: Operations -/

/-- An operation: it may raise. -/
abbrev Op (α : Type) := Raising Call Answer α

/-- A statement. -/
def statement (c : Call) : Prog Call Answer (Answer c) := Prog.send c

/-- `upsert_runtime_market_mapping`. -/
def runtime_put (canonical_id : String) (entry : RuntimeEntry) : Op Unit :=
  Raising.lift (statement (.runtime_put canonical_id entry))

/-- `MARKET_MAP.pop`, of some ids. -/
def runtime_drop (canonical_ids : List String) : Op Unit :=
  Raising.lift (statement (.runtime_drop canonical_ids))

/-- `replace_runtime_market_map`. -/
def runtime_replace (entries : List (String × RuntimeEntry)) : Op Unit :=
  Raising.lift (statement (.runtime_replace entries))

/-- A pass turns to an item. -/
def turn_to (turn : Turn) : Op Unit := Raising.lift (statement (.turn_to turn))

/-- The `INSERT` of `upsert`. -/
def insert (m : MarketMapping) : Op Unit := statement (.insert m)

/-- The `INSERT` of `seed_from_records`. -/
def insert_seed (m : MarketMapping) : Op Unit := statement (.insert_seed m)

/-- The `UPDATE` that retires the duplicates of a pair; their ids. -/
def expire_exact_pair (canonical_id kalshi_market_id polymarket_slug : String) :
    Op (List String) :=
  statement (.expire_exact_pair canonical_id kalshi_market_id polymarket_slug)

/-- The `UPDATE` that retires all rows but the first of each pair; their ids. -/
def expire_ranked : Op (List String) := statement .expire_ranked

/-- The rows `MARKET_MAP` is loaded from. -/
def select_active (limit : ℕ) : Op (List MarketMapping) := statement (.select_active limit)

/-- The `DELETE`; whether there was a row. -/
def delete_row (canonical_id : String) : Op Bool := statement (.delete canonical_id)

/-- `get`. -/
def get (canonical_id : String) : Op (Option MarketMapping) :=
  statement (.select canonical_id)

/-- `get_by_platform`. -/
def get_by_platform (platform : Platform) (market_id : String) : Op (Option MarketMapping) :=
  statement (.select_platform platform market_id)

/-- `get_by_exact_pair`. -/
def get_by_exact_pair (kalshi_market_id polymarket_slug : String) :
    Op (Option MarketMapping) :=
  statement (.select_exact_pair kalshi_market_id polymarket_slug)

/-- `all`, of a status. -/
def all (status : MappingStatus) (limit : ℕ) : Op (List MarketMapping) :=
  statement (.select_status status limit)

/-- `iter_confirmed`. -/
def iter_confirmed : Op (List MarketMapping) := statement .select_confirmed

/-- `disable_auto_trade`: whether a row was updated. -/
def disable_auto_trade (canonical_id reason : String) : Op Bool :=
  statement (.disable canonical_id reason)

/-- `mark_forecastex_unavailable`. -/
def mark_forecastex_unavailable (canonical_id : String) (unavailable : Bool) : Op Bool :=
  statement (.mark_unavailable canonical_id unavailable)

/-- `set_forecastex_conid`. -/
def set_forecastex_conid (canonical_id conid side : String) : Op Bool :=
  statement (.set_conid canonical_id conid (side = "no"))

/-- `delete`. -/
def delete (canonical_id : String) : Op Bool := do
  let deleted ← delete_row canonical_id
  if deleted then
    runtime_drop [canonical_id]
    pure true
  else pure false

/-- `_expire_duplicate_exact_pair_mappings`. -/
def expire_duplicate_exact_pair_mappings (m : MarketMapping) : Op (List String) :=
  if m.status ≠ .confirmed then pure []
  else
    let kalshi_market_id := Text.strip m.kalshi_market_id
    let polymarket_slug := Text.strip m.polymarket_slug
    if kalshi_market_id = "" ∨ polymarket_slug = "" then pure []
    else expire_exact_pair m.canonical_id kalshi_market_id polymarket_slug

section operations

variable (spelled : Json ℚ → String)

/-- `upsert`. -/
def upsert (m : MarketMapping) : Op MarketMapping := do
  let m := enforce_auto_trade_safety spelled m
  insert m
  let expired_duplicate_ids ← expire_duplicate_exact_pair_mappings m
  runtime_drop expired_duplicate_ids
  runtime_put m.canonical_id m.to_dict
  pure m

/-- `update_status`. -/
def update_status (canonical_id : String) (status : MappingStatus) (review_note : String)
    (allow_auto_trade : Option Bool) : Op (Option MarketMapping) := do
  match ← get canonical_id with
  | none => pure none
  | some m =>
      let m ← upsert spelled { m with
        status
        review_note
        allow_auto_trade := allow_auto_trade.getD m.allow_auto_trade }
      pure (some m)

/-- `expire_duplicate_active_pairs`. -/
def expire_duplicate_active_pairs : Op ℕ := do
  let expired ← expire_ranked
  runtime_drop expired
  pure expired.length

/-- `refresh_runtime_cache`. -/
def refresh_runtime_cache : Op ℕ := do
  let _ ← expire_duplicate_active_pairs
  let merged ← select_active 5000
  runtime_replace (merged.map fun m => (m.canonical_id, m.to_dict))
  pure merged.length

/-- One record of `seed_from_records`. -/
def seed_record (overwrite : Bool) (inserted : ℕ) (record : MarketMappingRecord) :
    Op ℕ := do
  let existing ← get record.canonical_id
  if existing.isSome && !overwrite then pure inserted
  else
    let m := enforce_auto_trade_safety spelled (.from_record record)
    insert_seed m
    pure (inserted + 1)

/-- `seed_from_records`. -/
def seed_from_records (records : List MarketMappingRecord) (overwrite : Bool) : Op ℕ := do
  let inserted ← records.foldlM (seed_record spelled overwrite) 0
  let _ ← refresh_runtime_cache
  pure inserted

end operations

/-! ## Section 3: What operations do

  The runs of an operation whose calls all meet a condition `ok`: where it holds of every
  call these are all the runs. -/

section runs

variable {ok : World → (c : Call) → Answer c → Prop} {w w' : World}

@[simp] theorem ends_statement {c : Call} {a : Answer c} :
    Exec (store_env.restrict ok) (statement c) w a w' ↔ ok w c a ∧ store_serve w c a w' := by
  simp [statement, Prog.send, store_env, Env.restrict]

/-- A change of the map, or a turn to an item, does not raise. -/
theorem ends_lifted {c : Call} {result : Option (Answer c)} :
    Raising.Ends (store_env.restrict ok) (Raising.lift (statement c)) w result w' ↔
      ∃ a, result = some a ∧ ok w c a ∧ store_serve w c a w' :=
  Raising.ends_lift.trans (exists_congr fun _ => and_congr_right fun _ => ends_statement)

theorem ends_runtime_put {id : String} {entry : RuntimeEntry} {result : Option Unit}
    (h : Raising.Ends (store_env.restrict ok) (runtime_put id entry) w result w') :
    result = some () ∧ w' = { w with
      runtime := fun c => if c = id then some entry else w.runtime c } := by
  obtain ⟨_, rfl, -, hserve⟩ := ends_lifted.1 h
  exact ⟨rfl, hserve⟩

theorem ends_runtime_drop {ids : List String} {result : Option Unit}
    (h : Raising.Ends (store_env.restrict ok) (runtime_drop ids) w result w') :
    result = some () ∧ w' = { w with
      runtime := fun c => if c ∈ ids then none else w.runtime c } := by
  obtain ⟨_, rfl, -, hserve⟩ := ends_lifted.1 h
  exact ⟨rfl, hserve⟩

theorem ends_runtime_replace {entries : List (String × RuntimeEntry)} {result : Option Unit}
    (h : Raising.Ends (store_env.restrict ok) (runtime_replace entries) w result w') :
    result = some () ∧ w' = { w with
      runtime := fun c => (entries.reverse.find? (·.1 = c)).map Prod.snd } := by
  obtain ⟨_, rfl, -, hserve⟩ := ends_lifted.1 h
  exact ⟨rfl, hserve⟩

/-- The runtime map may change, the table is what it was. -/
theorem runtime_drop_keeps {T : Mappings → Prop} (ids : List String) (hw : T w.table) :
    Raising.wp (store_env.restrict ok) (runtime_drop ids) (fun _ w' => T w'.table) w := by
  intro result w' h
  rw [(ends_runtime_drop h).2]
  exact hw

theorem runtime_replace_keeps {T : Mappings → Prop} (entries : List (String × RuntimeEntry))
    (hw : T w.table) :
    Raising.wp (store_env.restrict ok) (runtime_replace entries) (fun _ w' => T w'.table) w := by
  intro result w' h
  rw [(ends_runtime_replace h).2]
  exact hw

theorem ends_turn_to {turn : Turn} {result : Option Unit}
    (h : Raising.Ends (store_env.restrict ok) (turn_to turn) w result w') :
    result = some () ∧ ok w (.turn_to turn) () ∧ w' = w := by
  obtain ⟨_, rfl, hok, hserve⟩ := ends_lifted.1 h
  exact ⟨rfl, hok, hserve⟩

@[simp] theorem find_update_where (t : Mappings) (p : MarketMapping → Bool)
    (f : MarketMapping → MarketMapping) (hf : ∀ r, (f r).canonical_id = r.canonical_id)
    (id : String) :
    (update_where t p f hf).find id = (t.find id).map fun r => if p r then f r else r := by
  rw [update_where, Table.find_modify]

@[simp] theorem find_retire_where (t : Mappings) (p : MarketMapping → Bool) (stamp : ℤ)
    (id : String) : (retire_where t p stamp).find id =
      (t.find id).map fun r => if p r then r.retire stamp else r := by
  rw [retire_where, find_update_where]

/-- A row that is not among the ids of the retired ones stays. -/
theorem find_retire_where_of_not_mem {t : Mappings} {p : MarketMapping → Bool} {stamp : ℤ}
    {c : String} (hc : c ∉ (t.rows.filter p).map (·.canonical_id)) :
    (retire_where t p stamp).find c = t.find c := by
  rw [find_retire_where]
  cases hfind : t.find c with
  | none => rfl
  | some r =>
      have hkept : p r = false := by
        by_contra hp
        have hmem : r ∈ t.rows.filter p :=
          List.mem_filter.mpr ⟨Table.mem_of_find hfind, by simpa using hp⟩
        exact hc (List.mem_map.mpr ⟨r, hmem, Table.find_key hfind⟩)
      simp [hkept]

/-- A row that is read is the one in the table. -/
theorem get_ends {id : String} {result : Option (Option MarketMapping)}
    (h : Raising.Ends (store_env.restrict ok) (get id) w result w') :
    w' = w ∧ (result = none ∨ result = some (w.table.find id)) :=
  (ends_statement.1 h).2

/-- The table after the duplicates of an upserted row are retired. -/
def retire_duplicates (stamp : ℤ) (m : MarketMapping) (t : Mappings) : Mappings :=
  let kalshi_market_id := Text.strip m.kalshi_market_id
  let polymarket_slug := Text.strip m.polymarket_slug
  if m.status = .confirmed ∧ kalshi_market_id ≠ "" ∧ polymarket_slug ≠ "" then
    retire_where t (duplicates m.canonical_id kalshi_market_id polymarket_slug) stamp
  else t

/-- The upserted row is not among its duplicates. -/
theorem find_upserted (t : Mappings) (m : MarketMapping) (stamp stamp' : ℤ)
    (old : Option MarketMapping) :
    (retire_duplicates stamp' m (t.put (m.inserted stamp old))).find m.canonical_id =
      some (m.inserted stamp old) := by
  have hfind : (t.put (m.inserted stamp old)).find m.canonical_id =
      some (m.inserted stamp old) := Table.find_put_self t (m.inserted stamp old)
  simp only [retire_duplicates]
  split_ifs
  · rw [find_retire_where, hfind, Option.map_some, if_neg]
    simp [duplicates, MarketMapping.inserted]
  · exact hfind

/-- The duplicates of a confirmed row with both contracts are retired, else nothing is. -/
theorem expire_duplicates_eq (m : MarketMapping) :
    (m.status = .confirmed ∧ Text.strip m.kalshi_market_id ≠ "" ∧
        Text.strip m.polymarket_slug ≠ "" ∧ expire_duplicate_exact_pair_mappings m =
          expire_exact_pair m.canonical_id (Text.strip m.kalshi_market_id)
            (Text.strip m.polymarket_slug)) ∨
      (¬ (m.status = .confirmed ∧ Text.strip m.kalshi_market_id ≠ "" ∧
        Text.strip m.polymarket_slug ≠ "") ∧
          expire_duplicate_exact_pair_mappings m = pure []) := by
  unfold expire_duplicate_exact_pair_mappings
  by_cases hstatus : m.status = .confirmed
  · by_cases hempty : Text.strip m.kalshi_market_id = "" ∨ Text.strip m.polymarket_slug = ""
    · refine .inr ⟨by tauto, ?_⟩
      simp only [hstatus, hempty, ne_eq, not_true_eq_false, if_false, if_true]
    · refine .inl ⟨hstatus, by tauto, by tauto, ?_⟩
      simp only [hstatus, hempty, ne_eq, not_true_eq_false, if_false]
  · refine .inr ⟨by tauto, ?_⟩
    simp only [hstatus, ne_eq, not_false_eq_true, if_true]

theorem expire_duplicates_ends {m : MarketMapping} {result : Option (List String)}
    (h : Raising.Ends (store_env.restrict ok) (expire_duplicate_exact_pair_mappings m) w
      result w') :
    (result = none ∧ w' = w ∧ ∃ id k p, ok w (.expire_exact_pair id k p) none) ∨
      ∃ stamp ids, result = some ids ∧
        w' = { w with table := retire_duplicates stamp m w.table } ∧
        ∀ c, c ∉ ids → w'.table.find c = w.table.find c := by
  obtain ⟨hstatus, hkalshi, hpoly, hsent⟩ | ⟨hnot, hnothing⟩ := expire_duplicates_eq m
  · rw [hsent] at h
    obtain ⟨hok, ⟨rfl, rfl⟩ | ⟨stamp, rfl, rfl⟩⟩ := ends_statement.1 h
    · exact .inl ⟨rfl, rfl, _, _, _, hok⟩
    · refine .inr ⟨stamp, _, rfl, ?_, fun c hc => find_retire_where_of_not_mem hc⟩
      simp only [retire_duplicates, hstatus, hkalshi, hpoly, ne_eq, not_false_eq_true,
        and_self, if_true]
  · rw [hnothing] at h
    obtain ⟨rfl, rfl⟩ := Raising.ends_pure.1 h
    exact .inr ⟨0, [], rfl, by simp only [retire_duplicates, if_neg hnot], fun _ _ => rfl⟩

/-- What an upsert leaves: nothing where the insert raises, the row where the retirement of
    its duplicates does, else both, and the map follows. -/
theorem upsert_ends {spelled : Json ℚ → String} {m : MarketMapping}
    {result : Option MarketMapping}
    (h : Raising.Ends (store_env.restrict ok) (upsert spelled m) w result w') :
    (result = none ∧ w' = w) ∨ ∃ stamp t₁,
      t₁ = w.table.put ((enforce_auto_trade_safety spelled m).inserted stamp
        (w.table.find m.canonical_id)) ∧
      ((result = none ∧ w' = { w with table := t₁ } ∧
          ∃ id k p, ok w' (.expire_exact_pair id k p) none) ∨
        ∃ (stamp' : ℤ) (ids : List String), result = some (enforce_auto_trade_safety spelled m) ∧
          w'.table = retire_duplicates stamp' (enforce_auto_trade_safety spelled m) t₁ ∧
          (∀ c, c ∉ ids → w'.table.find c = t₁.find c) ∧
          w'.runtime = fun c =>
            if c = m.canonical_id then some (enforce_auto_trade_safety spelled m).to_dict
            else if c ∈ ids then none else w.runtime c) := by
  have hid : (enforce_auto_trade_safety spelled m).canonical_id = m.canonical_id := by
    obtain he | he := enforce_eq spelled m <;> rw [he]
  unfold upsert at h
  -- the insert, the retirement of the duplicates, then the map, which does not raise
  obtain ⟨_, w₁, hinsert, hrest⟩ | ⟨rfl, hinsert⟩ := Raising.ends_bind.1 h
  · obtain ⟨-, ⟨hnone, -⟩ | ⟨-, -, stamp, hw₁⟩⟩ := ends_statement.1 hinsert
    · cases hnone
    · rw [hid] at hw₁
      subst hw₁
      refine .inr ⟨stamp, _, rfl, ?_⟩
      obtain ⟨ids, w₂, hexpire, hmap⟩ | ⟨rfl, hexpire⟩ := Raising.ends_bind.1 hrest
      · obtain ⟨hnone, -⟩ | ⟨stamp', ids', hsome, rfl, hkept⟩ := expire_duplicates_ends hexpire
        · cases hnone
        · cases hsome
          obtain ⟨_, w₃, hdrop, hput⟩ | ⟨-, hdrop⟩ := Raising.ends_bind.1 hmap
          · obtain ⟨-, rfl⟩ := ends_runtime_drop hdrop
            obtain ⟨_, w₄, hput, hlast⟩ | ⟨-, hput⟩ := Raising.ends_bind.1 hput
            · obtain ⟨-, rfl⟩ := ends_runtime_put hput
              obtain ⟨rfl, rfl⟩ := Raising.ends_pure.1 hlast
              exact .inr ⟨stamp', ids, rfl, rfl, hkept, by simp only [hid]⟩
            · exact absurd (ends_runtime_put hput).1 (by simp)
          · exact absurd (ends_runtime_drop hdrop).1 (by simp)
      · obtain ⟨-, rfl, hok⟩ | ⟨_, _, hsome, -⟩ := expire_duplicates_ends hexpire
        · exact .inl ⟨rfl, rfl, hok⟩
        · cases hsome
  · obtain ⟨-, ⟨-, rfl⟩ | ⟨hsome, -⟩⟩ := ends_statement.1 hinsert
    · exact .inl ⟨rfl, rfl⟩
    · cases hsome

/-- A status is updated by an upsert of the row in the table. -/
theorem update_status_ends {spelled : Json ℚ → String} {id : String} {status : MappingStatus}
    {review_note : String} {allow_auto_trade : Option Bool}
    {result : Option (Option MarketMapping)}
    (h : Raising.Ends (store_env.restrict ok)
      (update_status spelled id status review_note allow_auto_trade) w result w') :
    w' = w ∧ (∀ m, result ≠ some (some m)) ∨ ∃ m upserted, w.table.find id = some m ∧
      result = upserted.map some ∧
      Raising.Ends (store_env.restrict ok) (upsert spelled { m with
        status
        review_note
        allow_auto_trade := allow_auto_trade.getD m.allow_auto_trade }) w upserted w' := by
  unfold update_status at h
  obtain ⟨found, w₁, hget, hrest⟩ | ⟨rfl, hget⟩ := Raising.ends_bind.1 h
  · obtain ⟨rfl, hfound⟩ := get_ends hget
    obtain rfl : found = w₁.table.find id := by simpa using hfound
    cases hm : w₁.table.find id with
    | none =>
        rw [hm] at hrest
        obtain ⟨rfl, rfl⟩ := Raising.ends_pure.1 hrest
        exact .inl ⟨rfl, by simp⟩
    | some m =>
        rw [hm] at hrest
        obtain ⟨m', w₂, hupsert, hlast⟩ | ⟨rfl, hupsert⟩ := Raising.ends_bind.1 hrest
        · obtain ⟨rfl, rfl⟩ := Raising.ends_pure.1 hlast
          exact .inr ⟨m, some m', rfl, rfl, hupsert⟩
        · exact .inr ⟨m, none, rfl, rfl, hupsert⟩
  · exact .inl ⟨(get_ends hget).1, by simp⟩

end runs

end Mapping
