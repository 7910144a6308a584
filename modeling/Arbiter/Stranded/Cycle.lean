import Arbiter.Framework.FirstMatch
import Arbiter.Stranded.Position

/-! # The Reconciler's Cycle

  `run_once` of the stranded-position reconciler: read the venues, update the
  tracker, net the hedged lots, decide, mitigate, sweep the phantom records.

  ## Contents

  - Section 1: the state and the tracker.
  - Section 2: the hedged part of a lot.
  - Section 3: decisions and incidents.
  - Section 4: mitigation.
  - Section 5: the phantom sweep.
  - Section 6: the cycle.
-/

namespace Stranded

open Effect Execution

/-! ## Section 1: The tracker -/

/-- Lots by key, in insertion order. -/
structure Tracker where
  entries : List StrandedPosition
  nodup : (entries.map (·.key)).Nodup

namespace Tracker

/-- The lot under a key. -/
def lookup (t : Tracker) (key : Key) : Option StrandedPosition :=
  t.entries.find? fun pos => pos.key = key

/-- There is a lot under the key. -/
def has (t : Tracker) (key : Key) : Bool := (t.lookup key).isSome

/-- No lots. -/
def empty : Tracker := { entries := [], nodup := List.nodup_nil }

theorem has_iff (t : Tracker) (key : Key) : t.has key = true ↔ key ∈ t.entries.map (·.key) := by
  simp [has, lookup, List.find?_isSome, List.mem_map]

theorem keys_update (pos : StrandedPosition) (l : List StrandedPosition) :
    (FirstMatch.update (fun p => decide (p.key = pos.key)) (fun _ => pos) l).map (·.key) =
      l.map (·.key) := by
  induction l with
  | nil => rfl
  | cons p l ih =>
    simp only [FirstMatch.update]
    split
    case isTrue h => simp [of_decide_eq_true h]
    case isFalse h => simp [ih]

/-- `d[pos.key] = pos`: in place, or at the end. -/
def put (t : Tracker) (pos : StrandedPosition) : Tracker :=
  if h : t.has pos.key = true then
    { entries := FirstMatch.update (fun p => decide (p.key = pos.key)) (fun _ => pos) t.entries
      nodup := by rw [keys_update]; exact t.nodup }
  else
    { entries := t.entries ++ [pos]
      nodup := by
        rw [List.map_append, List.nodup_append_comm]
        rw [has_iff] at h
        exact List.nodup_cons.2 ⟨h, t.nodup⟩ }

theorem has_put (t : Tracker) (pos : StrandedPosition) (key : Key) :
    (t.put pos).has key = true ↔ key = pos.key ∨ t.has key = true := by
  by_cases h : t.has pos.key = true
  · have hkeys : (t.put pos).entries.map (·.key) = t.entries.map (·.key) := by
      rw [put, dif_pos h]
      exact keys_update pos t.entries
    rw [has_iff, hkeys, ← has_iff]
    constructor
    · exact .inr
    · rintro (rfl | hkey)
      · exact h
      · exact hkey
  · rw [has_iff, has_iff, put, dif_neg h]
    simp [or_comm]

/-- A lot that was put is there. -/
theorem lookup_put (t : Tracker) (pos : StrandedPosition) :
    (t.put pos).lookup pos.key = some pos := by
  unfold put
  split
  case isTrue h =>
    rcases Option.isSome_iff_exists.1 h with ⟨old, hold⟩
    show List.find? _ (FirstMatch.update _ _ _) = some pos
    rw [FirstMatch.find?_update_const (by simp) hold]
  case isFalse h =>
    have hnone : t.entries.find? (fun p => p.key = pos.key) = none := by
      simpa [has, lookup] using h
    simp [lookup, List.find?_append, hnone]

theorem mem_put {t : Tracker} {pos pos' : StrandedPosition} (h : pos' ∈ (t.put pos).entries) :
    pos' = pos ∨ (pos' ∈ t.entries ∧ pos'.key ≠ pos.key) := by
  by_cases hkey : pos'.key = pos.key
  · -- two entries under one key are one entry
    have hself : pos ∈ (t.put pos).entries := List.mem_of_find?_eq_some (lookup_put t pos)
    exact .inl (List.inj_on_of_nodup_map (t.put pos).nodup h hself hkey)
  · right
    refine ⟨?_, hkey⟩
    unfold put at h
    split at h
    · rcases FirstMatch.mem_update h with hold | ⟨-, -, heq⟩
      · exact hold
      · exact absurd (congrArg StrandedPosition.key heq) hkey
    · rcases List.mem_append.1 h with hold | hnew
      · exact hold
      · exact absurd (congrArg StrandedPosition.key (List.mem_singleton.1 hnew)) hkey

theorem has_foldl_put (l : List StrandedPosition) (t : Tracker) (key : Key) :
    (l.foldl put t).has key = true ↔ key ∈ l.map (·.key) ∨ t.has key = true := by
  induction l generalizing t with
  | nil => simp
  | cons pos l ih =>
    rw [List.foldl_cons, ih, has_put, List.map_cons, List.mem_cons]
    tauto

theorem mem_foldl_put {l : List StrandedPosition} {t : Tracker} {pos : StrandedPosition}
    (h : pos ∈ (l.foldl put t).entries) : pos ∈ l ∨ pos ∈ t.entries := by
  induction l generalizing t with
  | nil => exact .inr h
  | cons first l ih =>
    rcases ih h with hmem | hput
    · exact .inl (List.mem_cons_of_mem first hmem)
    · rcases mem_put hput with rfl | hold
      · exact .inl List.mem_cons_self
      · exact .inr hold.1

/-- `del d[key]`. -/
def erase (t : Tracker) (key : Key) : Tracker where
  entries := t.entries.filter fun pos => pos.key ≠ key
  nodup := t.nodup.sublist (List.filter_sublist.map _)

/-- Every lot changed in place, its key kept. -/
def map (t : Tracker) (f : StrandedPosition → StrandedPosition) (hf : ∀ pos, (f pos).key = pos.key) :
    Tracker where
  entries := t.entries.map f
  nodup := by
    rw [List.map_map]
    simpa [Function.comp_def, hf] using t.nodup

end Tracker

/-- The reconciler's own state. A counter without an entry is zero. -/
structure Reconciler where
  /-- `_tracked`. -/
  tracked : Tracker
  cap_absent_cycles : Key → ℕ
  cum_close_submitted : Key → ℕ
  max_observed_qty : Key → ℚ
  cap_incidents_emitted : Key → Bool
  last_close_attempt_ts : Key → Option ℚ
  phantom_absent : String → ℕ

/-- A reconciler that has seen nothing yet. -/
def Reconciler.new : Reconciler where
  tracked := .empty
  cap_absent_cycles := fun _ => 0
  cum_close_submitted := fun _ => 0
  max_observed_qty := fun _ => 0
  cap_incidents_emitted := fun _ => false
  last_close_attempt_ts := fun _ => none
  phantom_absent := fun _ => 0

/-- What a cycle has read: the lots by key, and the platforms whose fetch raised. -/
structure Sighting where
  observed : Tracker
  failed_platforms : List String

/-- The three fetches put together. -/
def sighting (fetched : List (String × Option (List StrandedPosition))) : Sighting where
  observed := (fetched.flatMap fun f => f.2.getD []).foldl .put .empty
  failed_platforms := (fetched.filter fun f => f.2.isNone).map (·.1)

/-- The reading of the venues, one after the other. -/
def survey (cfg : Config) : Recon Sighting := do
  let kalshi ← fetch_kalshi_positions cfg
  let polymarket ← fetch_polymarket_us_positions cfg
  let forecastex ← fetch_forecastex_positions cfg
  return sighting [("kalshi", kalshi), ("polymarket", polymarket), ("forecastex", forecastex)]

/-- A lot as it is tracked on: what the tracker knows of it is kept. -/
def carry_over (existing : Option StrandedPosition) (pos : StrandedPosition) : StrandedPosition :=
  match existing with
  | none => pos
  | some existing =>
      { pos with
        first_seen_ts := existing.first_seen_ts
        mitigation_decision := existing.mitigation_decision
        paired_qty := existing.paired_qty }

/-- One observed lot goes into the tracker, and its absence streak ends. -/
def merge_one (s : Reconciler) (pos : StrandedPosition) : Reconciler :=
  { s with
    tracked := s.tracked.put (carry_over (s.tracked.lookup pos.key) pos)
    cap_absent_cycles := Function.update s.cap_absent_cycles pos.key 0 }

/-- The merge of what was observed. -/
def merge (s : Reconciler) (observed : Tracker) : Reconciler :=
  observed.entries.foldl merge_one s

/-- `new_keys`. -/
def new_keys (s : Reconciler) (observed : Tracker) : List Key :=
  (observed.entries.map (·.key)).filter fun key => !s.tracked.has key

/-- The fresh start of the cap accounting of a lot that stayed away. -/
def Reconciler.clear_cap (s : Reconciler) (key : Key) : Reconciler :=
  { s with
    cum_close_submitted := Function.update s.cum_close_submitted key 0
    max_observed_qty := Function.update s.max_observed_qty key 0
    cap_incidents_emitted := Function.update s.cap_incidents_emitted key false
    cap_absent_cycles := Function.update s.cap_absent_cycles key 0 }

/-- Cycles of absence after which the cap accounting starts afresh. -/
def cap_absent_limit : ℕ := 3

/-- One tracked lot: dropped when its venue was read and does not have it. -/
def prune_one (sight : Sighting) (s : Reconciler) (pos : StrandedPosition) : Reconciler :=
  if pos.platform ∈ sight.failed_platforms ∨ sight.observed.has pos.key then s
  else
    let s := { s with tracked := s.tracked.erase pos.key }
    let absents := s.cap_absent_cycles pos.key + 1
    if cap_absent_limit ≤ absents then s.clear_cap pos.key
    else { s with cap_absent_cycles := Function.update s.cap_absent_cycles pos.key absents }

/-- The tracker without what vanished. -/
def prune (sight : Sighting) (s : Reconciler) : Reconciler :=
  s.tracked.entries.foldl (prune_one sight) s

/-! ## Section 2: Hedged lots -/

/-- `_covered_qty`. -/
def covered_qty (pos : StrandedPosition) (inventory : Inventory) : ℚ :=
  let platform := pos.platform.toLower
  let yes_q := inventory platform pos.market_id .yes
  let no_q := inventory platform pos.market_id .no
  if pos.qty = 0 then 0
  else if platform = "forecastex" then
    if 0 < pos.qty then min |pos.qty| (yes_q + no_q) else 0
  else
    let expected_signed := yes_q - no_q
    if expected_signed = 0 ∨ ¬ (0 < expected_signed ↔ 0 < pos.qty) then 0
    else min |pos.qty| |expected_signed|

/-- `_load_paired_inventory`: nothing is hedged when the store is silent. -/
def load_paired_inventory (cfg : Config) : Recon Inventory := do
  if cfg.has_store then
    return (← .send Call.paired_inventory_by_market).getD fun _ _ _ => 0
  else return fun _ _ _ => 0

/-- The netting of every tracked lot. -/
def net (cfg : Config) (s : Reconciler) : Recon Reconciler := do
  let inventory ← load_paired_inventory cfg
  return { s with
    tracked := s.tracked.map (fun pos => { pos with paired_qty := covered_qty pos inventory })
      fun _ => rfl }

/-! ## Section 3: Decisions and incidents -/

/-- A hedged lot is held. -/
def hold_paired (pos : StrandedPosition) : StrandedPosition :=
  if pos.fully_paired then
    { pos with mitigation_decision := some { action := .paired_hold, autonomous_ok := false } }
  else pos

/-- The engine's decision on a lot; the last one stands when it raises. -/
def decide_one (pos : StrandedPosition) : Recon StrandedPosition := do
  if pos.fully_paired then return pos
  else
    match ← .send (Call.decide (residual_view pos)) with
    | none => return pos
    | some decision => return { pos with mitigation_decision := some decision }

/-- The decisions on some lots, each written where the lot is. -/
def decide_all : List StrandedPosition → Tracker → Recon Tracker
  | [], tracked => return tracked
  | pos :: rest, tracked => do
      let decided ← decide_one pos
      decide_all rest (tracked.put decided)

theorem hold_paired_key (pos : StrandedPosition) : (hold_paired pos).key = pos.key := by
  unfold hold_paired
  split <;> rfl

/-- The decisions of a cycle, left alone when a venue was not read. -/
def refresh_decisions (cfg : Config) (deferred : Bool) (s : Reconciler) : Recon Reconciler := do
  let held := s.tracked.map hold_paired hold_paired_key
  if deferred then return s
  else if cfg.has_mitigation_engine then
    let tracked ← decide_all held.entries held
    return { s with tracked := tracked }
  else return { s with tracked := held }

/-- `_emit_stranded_incident`: once per lot, as far as the store knows. -/
def emit_stranded_incident (cfg : Config) (pos : StrandedPosition) : Recon Unit := do
  if cfg.has_engine = false then return ()
  else if cfg.has_store then
    let open_incidents := (← .send Call.list_open_incidents).getD []
    if pos.key ∈ open_incidents then return ()
    else .send (Call.record_incident (.stranded_position pos))
  else .send (Call.record_incident (.stranded_position pos))

/-- The actions that need no alert when they are autonomous. -/
def Action.silent : Action → Bool
  | .complete_arb _ => true
  | .hold_to_settle => true
  | .close_now => true
  | _ => false

/-- A new lot: alerted unless it is hedged, or handled without the operator. -/
def announce (cfg : Config) (pos : StrandedPosition) : Recon Unit :=
  if pos.fully_paired then .ret ()
  else
    match pos.mitigation_decision with
    | none => emit_stranded_incident cfg pos
    | some decision =>
        if decision.autonomous_ok ∧ decision.action.silent then .ret ()
        else emit_stranded_incident cfg pos

/-- The new lots in turn. -/
def announce_all (cfg : Config) : List StrandedPosition → Recon Unit
  | [] => return ()
  | pos :: rest => do
      announce cfg pos
      announce_all cfg rest

/-! ## Section 4: Mitigation -/

/-- `_mark_close_attempt`. -/
def mark_close_attempt (s : Reconciler) (key : Key) : Recon Reconciler := do
  let now ← .send Call.time
  return { s with last_close_attempt_ts := Function.update s.last_close_attempt_ts key (some now) }

/-- `_close_attempt_allowed`. -/
def close_attempt_allowed (cfg : Config) (s : Reconciler) (key : Key) (now : ℚ) : Bool :=
  match s.last_close_attempt_ts key with
  | none => true
  | some last => decide (cfg.close_retry_window_s ≤ now - last)

/-- `terminal_statuses` of the active-arb check. -/
def terminal_statuses : List String := ["closed", "cancelled", "simulated", "rejected", "failed"]

/-- A leg on the market of the lot. -/
def on_market (pos : StrandedPosition) (leg : Leg) : Bool :=
  leg.platform.toLower = pos.platform.toLower ∧ leg.market_id = pos.market_id

/-- `_is_part_of_active_arb`. -/
def is_part_of_active_arb (executions : List ArbExecution) (pos : StrandedPosition) : Bool :=
  executions.any fun ex =>
    ex.status.value.toLower ∉ terminal_statuses ∧
      (on_market pos ex.leg_yes ∨ on_market pos ex.leg_no)

/-- `_cum_cap_allows`. -/
def cum_cap_allows (cfg : Config) (s : Reconciler) (pos : StrandedPosition) (qty : ℕ) :
    Recon (Reconciler × Bool) := do
  let cap_base := max (s.max_observed_qty pos.key) |pos.qty|
  let s := { s with max_observed_qty := Function.update s.max_observed_qty pos.key cap_base }
  let submitted : ℕ := s.cum_close_submitted pos.key
  if ((submitted + qty : ℕ) : ℚ) ≤ cfg.max_cum_close_mult * cap_base + 1 / 10 ^ 9 then return (s, true)
  else
    let s ← mark_close_attempt s pos.key
    if s.cap_incidents_emitted pos.key = false ∧ cfg.has_engine then
      .send (Call.record_incident (.stranded_close_cap pos submitted cap_base))
      return ({ s with
        cap_incidents_emitted := Function.update s.cap_incidents_emitted pos.key true }, false)
    else return (s, false)

/-- `_note_mitigation_submitted`. -/
def note_mitigation_submitted (s : Reconciler) (key : Key) (qty : ℕ) : Reconciler :=
  { s with
    cum_close_submitted :=
      Function.update s.cum_close_submitted key (s.cum_close_submitted key + qty) }

/-- An order for a lot, as every path places one: under the cap, and counted once the
    adapter has returned. -/
def submit (cfg : Config) (s : Reconciler) (pos : StrandedPosition) (qty : ℕ)
    (place : Recon Placement) : Recon Reconciler := do
  let (s, allowed) ← cum_cap_allows cfg s pos qty
  if allowed = false then return s
  else
    match ← place with
    | .returned order =>
        let s := note_mitigation_submitted (← mark_close_attempt s pos.key) pos.key qty
        .send (Call.persist_close_attempt pos.key order)
        return s
    | .raised _ _ => mark_close_attempt s pos.key

/-- `_missing_leg_price_still_valid`, on the quotes read. -/
def reprice_allows (info : MissingLeg) (quotes : Option (List (String × Scanner.PricePoint))) :
    Bool :=
  match quotes.bind (List.lookup info.venue) with
  | none => false
  | some pp =>
      let live_ask : ℚ :=
        match info.side with
        | .no => if pp.no_ask = 0 then pp.no_price else pp.no_ask
        | .yes => if pp.yes_ask = 0 then pp.yes_price else pp.yes_ask
      decide ((pp.age_seconds : ℚ) ≤ 60 ∧ 0 < live_ask ∧ |live_ask - info.price| ≤ 2 / 100)

/-- The order for the missing leg. -/
def complete_order (pos : StrandedPosition) (info : MissingLeg) : MitigationOrder where
  strand := pos.key
  market_id := info.market_id
  canonical_id := info.canonical_id
  side := info.side
  price := some info.price
  qty := info.qty

/-- The sale of a lot. -/
def close_order (pos : StrandedPosition) : MitigationOrder where
  strand := pos.key
  market_id := pos.market_id
  canonical_id := pos.market_id
  side := pos.side
  price := none
  qty := pos.contracts

/-- `_execute_complete_arb`. -/
def execute_complete_arb (cfg : Config) (s : Reconciler) (pos : StrandedPosition)
    (info : MissingLeg) : Recon Reconciler := do
  if cfg.place_fok info.venue = false ∨ info.qty = 0 then mark_close_attempt s pos.key
  else if cfg.has_price_store then
    let quotes ← .send (Call.get_all_for_market info.canonical_id)
    if reprice_allows info quotes then
      submit cfg s pos info.qty (.send (Call.place_fok info.venue (complete_order pos info)))
    else mark_close_attempt s pos.key
  else submit cfg s pos info.qty (.send (Call.place_fok info.venue (complete_order pos info)))

/-- The sale on the lot's own venue, under the cap. -/
def close_lot (cfg : Config) (s : Reconciler) (pos : StrandedPosition) : Recon Reconciler :=
  submit cfg s pos pos.contracts
    (.send (Call.place_unwind_sell pos.platform (close_order pos)))

/-- `_execute_close_now`. -/
def execute_close_now (cfg : Config) (s : Reconciler) (pos : StrandedPosition) :
    Recon Reconciler :=
  if cfg.place_unwind_sell pos.platform = false then mark_close_attempt s pos.key
  else close_lot cfg s pos

/-- `_execute_decision`: every other action is left to the operator. -/
def execute_decision (cfg : Config) (s : Reconciler) (pos : StrandedPosition)
    (decision : MitigationDecision) : Recon Reconciler :=
  match decision.autonomous_ok, decision.action with
  | true, .complete_arb info => execute_complete_arb cfg s pos info
  | true, .close_now => execute_close_now cfg s pos
  | _, _ => .ret s

/-- What `classify_action` recommends. -/
inductive Recommendation
  | no_adapter
  | let_settle
  | large_notional
  | illiquid_no_bbo
  | spread_too_wide
  | close_market
  deriving DecidableEq

/-- `classify_action`. -/
def classify_action (cfg : Config) (pos : StrandedPosition) : Recommendation :=
  if cfg.place_unwind_sell pos.platform = false then .no_adapter
  else if 0 < pos.cost_per_share ∧ pos.cost_per_share ≤ cfg.penny_cost_threshold_usd then
    .let_settle
  else if cfg.max_auto_close_notional_usd < |pos.cost_basis_usd| then .large_notional
  else if pos.best_bid ≤ 0 ∨ pos.best_ask ≤ 0 then .illiquid_no_bbo
  else if cfg.max_auto_close_spread_bps < |pos.best_ask - pos.best_bid| * 10000 then
    .spread_too_wide
  else .close_market

/-- `_maybe_auto_close`. -/
def maybe_auto_close (cfg : Config) (s : Reconciler) (pos : StrandedPosition) :
    Recon Reconciler :=
  if classify_action cfg pos = .close_market then close_lot cfg s pos else .ret s

/-- What is done about a lot once no guard holds it back. -/
def act_on (cfg : Config) (s : Reconciler) (pos : StrandedPosition) : Recon Reconciler :=
  match cfg.has_mitigation_engine, pos.mitigation_decision with
  | true, some decision => execute_decision cfg s pos decision
  | _, _ => maybe_auto_close cfg s pos

/-- The engine's executions, where there is an engine. -/
def active_executions (cfg : Config) : Recon (List ArbExecution) :=
  if cfg.has_engine then .send Call.executions else .ret []

/-- One lot of the mitigation pass. -/
def mitigate_one (cfg : Config) (s : Reconciler) (pos : StrandedPosition) : Recon Reconciler := do
  if 0 < pos.paired_qty then return s
  else
    let executions ← active_executions cfg
    if is_part_of_active_arb executions pos then return s
    else
      let now ← .send Call.time
      if close_attempt_allowed cfg s pos.key now then act_on cfg s pos else return s

/-- The mitigation pass. -/
def mitigate_all (cfg : Config) : List StrandedPosition → Reconciler → Recon Reconciler
  | [], s => return s
  | pos :: rest, s => do
      let s ← mitigate_one cfg s pos
      mitigate_all cfg rest s

/-- The mitigation of a cycle, where it is enabled and every venue was read. -/
def mitigate (cfg : Config) (deferred : Bool) (s : Reconciler) : Recon Reconciler :=
  if cfg.auto_close ∧ deferred = false then mitigate_all cfg s.tracked.entries s else .ret s

/-! ## Section 5: Phantom records -/

/-- `PHANTOM_MIN_AGE_S`. -/
def phantom_min_age_s : ℚ := 7200

/-- `PHANTOM_MAX_PER_CYCLE`. -/
def phantom_max_per_cycle : ℕ := 3

/-- `PHANTOM_ABSENT_CYCLES`. -/
def phantom_absent_cycles : ℕ := 3

/-- A platform, when its truth is authoritative in this cycle. -/
def covers (failed_platforms : List String) (platform : String) : Recon (List String) := do
  if platform ∈ failed_platforms then return []
  else if ← .send (Call.venue_truth_available platform) then return [platform]
  else return []

/-- `_covered_platforms`. -/
def covered_platforms (failed_platforms : List String) : Recon (List String) := do
  let kalshi ← covers failed_platforms "kalshi"
  let polymarket ← covers failed_platforms "polymarket"
  let forecastex ← covers failed_platforms "forecastex"
  return kalshi ++ polymarket ++ forecastex

/-- The markets of the filled legs. -/
def filled_legs (arb : ListedArb) : List Key :=
  (arb.legs.filter fun leg => 0 < leg.2.fill_qty).map fun leg => (leg.2.platform, leg.2.market_id)

/-- The absence streak of an arb, set. -/
def Reconciler.set_absent (s : Reconciler) (arb_id : String) (absents : ℕ) : Reconciler :=
  { s with phantom_absent := Function.update s.phantom_absent arb_id absents }

/-- The incident of a record closed as a phantom. -/
def announce_closed (cfg : Config) (arb : ListedArb) : Recon Unit :=
  if cfg.has_engine then
    .send (Call.record_incident (.phantom_record_closed arb.arb_id arb.canonical_id))
  else .ret ()

/-- The loop of the sweep: the state, and the arbs seen unless a close raised. -/
def sweep_arbs (cfg : Config) (covered : List String) (raw_venue_keys : List Key) :
    List ListedArb → ℕ → List String → Reconciler → Recon (Reconciler × Option (List String))
  | [], _, seen, s => return (s, some seen)
  | arb :: rest, resolved, seen, s => do
      let seen := arb.arb_id :: seen
      let filled := filled_legs arb
      -- an arb on a venue that is not covered is passed over, its streak stands
      if filled = [] ∨ ∃ leg ∈ filled, leg.1 ∉ covered then
        sweep_arbs cfg covered raw_venue_keys rest resolved seen s
      else if ∃ leg ∈ filled, leg ∈ raw_venue_keys then
        sweep_arbs cfg covered raw_venue_keys rest resolved seen (s.set_absent arb.arb_id 0)
      else
        let absents := s.phantom_absent arb.arb_id + 1
        let s := s.set_absent arb.arb_id absents
        if absents < phantom_absent_cycles then
          sweep_arbs cfg covered raw_venue_keys rest resolved seen s
        else
          match ← .send (Call.close_phantom_record arb) with
          | none => return (s, none)
          | some _ =>
              announce_closed cfg arb
              let s := s.set_absent arb.arb_id 0
              if phantom_max_per_cycle ≤ resolved + 1 then return (s, some seen)
              else sweep_arbs cfg covered raw_venue_keys rest (resolved + 1) seen s

/-- `_sweep_phantom_records`. -/
def sweep_phantom_records (cfg : Config) (raw_venue_keys : List Key)
    (failed_platforms : List String) (s : Reconciler) : Recon Reconciler := do
  if cfg.has_store = false then return s
  else
    let covered ← covered_platforms failed_platforms
    match ← .send (Call.list_stuck_arbs phantom_min_age_s) with
    | none => return s
    | some arbs =>
        match ← sweep_arbs cfg covered raw_venue_keys arbs 0 [] s with
        | (s, none) => return s
        | (s, some seen) =>
            -- streaks of arbs that are no longer listed are dropped
            return { s with
              phantom_absent := fun arb_id => if arb_id ∈ seen then s.phantom_absent arb_id else 0 }

/-! ## Section 6: The cycle -/

/-- `run_once`. -/
def run_once (cfg : Config) (s₀ : Reconciler) : Recon Reconciler := do
  let sight ← survey cfg
  let s := prune sight (merge s₀ sight.observed)
  let s ← net cfg s
  -- a venue that was not read: no decision of this cycle could be trusted
  let deferred := !sight.failed_platforms.isEmpty
  let s ← refresh_decisions cfg deferred s
  announce_all cfg ((new_keys s₀ sight.observed).filterMap s.tracked.lookup)
  let s ← mitigate cfg deferred s
  sweep_phantom_records cfg (sight.observed.entries.map (·.key)) sight.failed_platforms s

end Stranded
