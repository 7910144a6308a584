import Arbiter.Framework.Decimal
import Arbiter.Framework.Latest
import Arbiter.Framework.Ledger
import Arbiter.Execution.Opportunity

/-! # The Portfolio Snapshot

  `compute_snapshot` looks at the executions of the engine in three ways: each position goes
  into the slice of its canonical id, the legs are added up by platform, and the limits are
  checked.

  The main result says when the three agree on the exposure: a slice is the latest position
  of its id, and the limit of a market is checked for one position at a time.

  ## Contents

  - Section 1: positions, from executions.
  - Section 2: the snapshot.
  - Section 3: the exposure by venue.
  - Section 4: when the snapshot conserves the exposure.
-/

namespace Portfolio

open Execution

/-! ## Section 1: Positions -/

/-- `PortfolioConfig`. -/
structure PortfolioConfig where
  max_per_market_usd : ℚ≥0
  max_total_exposure_usd : ℚ≥0
  max_per_venue_usd : ℚ≥0
  kalshi_min_balance : ℚ
  polymarket_min_balance : ℚ
  max_hedge_age_seconds : ℚ

/-- The defaults. -/
def PortfolioConfig.default : PortfolioConfig where
  max_per_market_usd := 100
  max_total_exposure_usd := 500
  max_per_venue_usd := 300
  kalshi_min_balance := 50
  polymarket_min_balance := 25
  max_hedge_age_seconds := 7200

/-- An execution of the engine, with what the monitor reads of it besides. -/
structure Held where
  execution : ArbExecution
  description : String
  timestamp : ℚ

/-- The status of a position. -/
inductive HeldStatus
  | opened
  | hedged
  deriving DecidableEq

/-- Its hedge status. -/
inductive HedgeStatus
  | none
  | complete
  deriving DecidableEq

/-- A position, with something in it. -/
structure Position where
  arb_id : String
  canonical_id : String
  description : String
  quantity : ℚ≥0
  quantity_pos : 0 < quantity
  yes_cost : ℚ≥0
  no_cost : ℚ≥0
  yes_platform : String
  no_platform : String
  status : HeldStatus
  hedge_status : HedgeStatus
  created_at : ℚ
  updated_at : ℚ

/-- `yes_price`: of one contract of the position. -/
def Position.yes_price (p : Position) : ℚ≥0 := p.yes_cost / p.quantity

/-- `no_price`. -/
def Position.no_price (p : Position) : ℚ≥0 := p.no_cost / p.quantity

/-- `_filled_leg_cost`: what is filled of a leg that has settled, and its cost. -/
def filled_leg_cost (order : Leg) : ℚ≥0 × ℚ≥0 :=
  if order.status = .filled ∨ order.status = .simulated then
    -- without a fill price, the limit price stands in
    let price := if order.fill_price ≠ 0 then order.fill_price else order.price
    (order.fill_qty, order.fill_qty * price)
  else (0, 0)

/-- The position of so many contracts on each side, if there are any. -/
def Held.position (e : Held) (yes_qty no_qty qty yes_cost no_cost : ℚ≥0) : Option Position :=
  if hqty : 0 < qty then
    let hedge_complete : Prop :=
      0 < yes_qty ∧ 0 < no_qty ∧ |(yes_qty : ℚ) - no_qty| ≤ 1 / 10 ^ 9
    some
      { arb_id := e.execution.arb_id
        canonical_id := e.execution.opportunity.canonical_id
        description := e.description
        quantity := qty
        quantity_pos := hqty
        yes_cost := yes_cost
        no_cost := no_cost
        yes_platform := e.execution.opportunity.yes_platform
        no_platform := e.execution.opportunity.no_platform
        status := if hedge_complete then .hedged else .opened
        hedge_status := if hedge_complete then .complete else .none
        created_at := e.timestamp
        updated_at := e.timestamp }
  else none

/-- `_position_from_execution`. -/
def position_from_execution (e : Held) : Option Position :=
  let opp := e.execution.opportunity
  let yes := filled_leg_cost e.execution.leg_yes
  let no := filled_leg_cost e.execution.leg_no
  if yes.1 = 0 ∧ no.1 = 0 then
    -- no leg tells what is filled: the status of the execution decides
    if e.execution.status = .filled ∨ e.execution.status = .simulated ∨
        e.execution.status = .manual_entered then
      e.position opp.suggested_qty opp.suggested_qty opp.suggested_qty
        (opp.suggested_qty * opp.yes_price) (opp.suggested_qty * opp.no_price)
    else none
  else e.position yes.1 no.1 (max yes.1 no.1) yes.2 no.2

/-- `active_statuses`. -/
def Active (status : ExecStatus) : Prop :=
  status = .submitted ∨ status = .simulated ∨ status = .filled ∨ status = .recovering ∨
    status = .manual_pending ∨ status = .manual_entered

instance (status : ExecStatus) : Decidable (Active status) :=
  inferInstanceAs (Decidable (_ ∨ _ ∨ _ ∨ _ ∨ _ ∨ _))

/-- `_get_open_positions`: those of the engine. -/
def get_open_positions (executions : List Held) : List Position :=
  (executions.filter fun e => Active e.execution.status).filterMap position_from_execution

/-! ## Section 2: The snapshot -/

/-- `ExposureSlice`. -/
structure ExposureSlice where
  canonical_id : String
  description : String
  quantity : ℚ≥0
  yes_cost : ℚ≥0
  no_cost : ℚ≥0
  total_cost : ℚ≥0
  yes_platform : String
  no_platform : String
  status : HeldStatus
  hedge_status : HedgeStatus
  age_seconds : ℚ
  last_price_update : ℚ

/-- `VenueExposure`. -/
structure VenueExposure where
  platform : String
  total_exposure : ℚ≥0
  position_count : ℕ
  balance : Option ℚ
  is_low_balance : Bool
  last_update : ℚ

/-- `RiskLevel`, without `SAFE`, which no violation has. -/
inductive RiskLevel
  | warning
  | violation
  | critical
  deriving DecidableEq

/-- The category of a violation. -/
inductive Category
  | exposure
  | balance
  | stale
  deriving DecidableEq

/-- `RiskViolation`. -/
structure RiskViolation where
  violation_id : String
  level : RiskLevel
  category : Category
  message : String
  canonical_id : Option String
  platform : Option String
  current_value : ℚ
  limit_value : ℚ
  timestamp : ℚ

/-- What a position costs. -/
def Position.cost (p : Position) : ℚ≥0 := p.quantity * p.yes_price + p.quantity * p.no_price

/-- The slice that is written for a position. -/
def Position.slice (p : Position) (now : ℚ) : ExposureSlice where
  canonical_id := p.canonical_id
  description := p.description
  quantity := p.quantity
  yes_cost := p.quantity * p.yes_price
  no_cost := p.quantity * p.no_price
  total_cost := p.cost
  yes_platform := p.yes_platform
  no_platform := p.no_platform
  status := p.status
  hedge_status := p.hedge_status
  age_seconds := now - p.created_at
  last_price_update := p.updated_at

/-- `by_canonical`: one slice after another. -/
def by_canonical (positions : List Position) (now : ℚ) :
    Table ExposureSlice ExposureSlice.canonical_id :=
  .fill _ (positions.map (·.slice now))

/-- `all_platforms`. -/
def all_platforms (positions : List Position) : List String :=
  (positions.flatMap fun p =>
    (if 0 < p.yes_cost then [p.yes_platform] else []) ++
      (if 0 < p.no_cost then [p.no_platform] else [])).dedup

/-- `venue_exposure`: the legs of a platform. -/
def venue_exposure (positions : List Position) (platform : String) : ℚ≥0 :=
  ((positions.filter fun p => p.yes_platform = platform ∨ p.no_platform = platform).map fun p =>
    (if p.yes_platform = platform then p.yes_cost else 0) +
      (if p.no_platform = platform then p.no_cost else 0)).sum

/-- The entry of a platform. -/
def venue (cfg : PortfolioConfig) (positions : List Position) (balances : String → Option ℚ)
    (now : ℚ) (platform : String) : VenueExposure where
  platform := platform
  total_exposure := venue_exposure positions platform
  position_count :=
    (positions.filter fun p => p.yes_platform = platform ∨ p.no_platform = platform).length
  balance := balances platform
  is_low_balance :=
    match balances platform with
    | none => false
    | some balance =>
        if platform = "kalshi" then balance < cfg.kalshi_min_balance
        else if platform = "polymarket" then balance < cfg.polymarket_min_balance
        else false
  last_update := now

/-- `by_venue`. -/
def by_venue (cfg : PortfolioConfig) (positions : List Position) (balances : String → Option ℚ)
    (now : ℚ) : Table VenueExposure VenueExposure.platform where
  rows := (all_platforms positions).map (venue cfg positions balances now)
  nodup := by
    rw [List.map_map, show VenueExposure.platform ∘ venue cfg positions balances now = id from rfl,
      List.map_id]
    exact List.nodup_dedup _

/-- The violation of the market limit by a cost. -/
def market_exposure (cfg : PortfolioConfig) (now : ℚ) (canonical_id : String) (cost : ℚ≥0) :
    RiskViolation where
  violation_id := "market_exposure:" ++ canonical_id
  level := if cfg.max_per_market_usd * (3 / 2) < cost then .violation else .warning
  category := .exposure
  message := "Per-market exposure $" ++ Decimal.fixed 2 cost ++ " exceeds $" ++
    Decimal.fixed 2 cfg.max_per_market_usd ++ " limit"
  canonical_id := some canonical_id
  platform := none
  current_value := cost
  limit_value := cfg.max_per_market_usd
  timestamp := now

/-- The first check: one position at a time. -/
def market_violation (cfg : PortfolioConfig) (now : ℚ) (p : Position) : Option RiskViolation :=
  let cost := p.quantity * (p.yes_price + p.no_price)
  if cfg.max_per_market_usd < cost then some (market_exposure cfg now p.canonical_id cost)
  else none

/-- The second check. -/
def total_violation (cfg : PortfolioConfig) (now : ℚ) (total_exposure : ℚ≥0) :
    Option RiskViolation :=
  if cfg.max_total_exposure_usd < total_exposure then
    some
      { violation_id := "total_exposure"
        level :=
          if cfg.max_total_exposure_usd * (3 / 2) < total_exposure then .critical else .violation
        category := .exposure
        message := "Total exposure $" ++ Decimal.fixed 2 total_exposure ++ " exceeds $" ++
          Decimal.fixed 2 cfg.max_total_exposure_usd ++ " limit"
        canonical_id := none
        platform := none
        current_value := total_exposure
        limit_value := cfg.max_total_exposure_usd
        timestamp := now }
  else none

/-- The third check. -/
def venue_violation (cfg : PortfolioConfig) (now : ℚ) (v : VenueExposure) :
    Option RiskViolation :=
  if cfg.max_per_venue_usd < v.total_exposure then
    some
      { violation_id := "venue_exposure:" ++ v.platform
        level := .violation
        category := .exposure
        message := v.platform ++ " exposure $" ++ Decimal.fixed 2 v.total_exposure ++
          " exceeds $" ++ Decimal.fixed 2 cfg.max_per_venue_usd ++ " limit"
        canonical_id := none
        platform := some v.platform
        current_value := v.total_exposure
        limit_value := cfg.max_per_venue_usd
        timestamp := now }
  else none

/-- The fourth check. The limit it reports is Kalshi's for every platform. -/
def low_balance (cfg : PortfolioConfig) (now : ℚ) (v : VenueExposure) : Option RiskViolation :=
  if v.is_low_balance then
    some
      { violation_id := "low_balance:" ++ v.platform
        level := .warning
        category := .balance
        message := v.platform ++ " balance $" ++ Decimal.fixed_signed 2 (v.balance.getD 0) ++
          " is critically low"
        canonical_id := none
        platform := some v.platform
        current_value := v.balance.getD 0
        limit_value := cfg.kalshi_min_balance
        timestamp := now }
  else none

/-- The fifth check. -/
def stale_hedge (cfg : PortfolioConfig) (now : ℚ) (p : Position) : Option RiskViolation :=
  let age := now - p.updated_at
  if p.status = .opened ∧ p.hedge_status = .none ∧ cfg.max_hedge_age_seconds < age then
    let position_id := if p.arb_id ≠ "" then p.arb_id else p.canonical_id
    some
      { violation_id := "stale_hedge:" ++ position_id
        level := .warning
        category := .stale
        message := "Position " ++ position_id ++ " (" ++ p.canonical_id ++ ") unhedged for " ++
          Decimal.fixed_signed 1 (age / 3600) ++ "h"
        canonical_id := some p.canonical_id
        platform := some p.yes_platform
        current_value := age
        limit_value := cfg.max_hedge_age_seconds
        timestamp := now }
  else none

/-- `_check_violations`. -/
def check_violations (cfg : PortfolioConfig) (positions : List Position)
    (venues : List VenueExposure) (total_exposure : ℚ≥0) (now : ℚ) : List RiskViolation :=
  positions.filterMap (market_violation cfg now) ++
    (total_violation cfg now total_exposure).toList ++
    venues.filterMap (venue_violation cfg now) ++
    venues.filterMap (low_balance cfg now) ++
    positions.filterMap (stale_hedge cfg now)

/-- `PortfolioSnapshot`. -/
structure PortfolioSnapshot where
  timestamp : ℚ
  total_exposure : ℚ≥0
  total_open_positions : ℕ
  total_hedged : ℕ
  total_unhedged : ℕ
  by_venue : Table VenueExposure VenueExposure.platform
  by_canonical : Table ExposureSlice ExposureSlice.canonical_id
  violations : List RiskViolation
  unsettled_positions : ℕ
  realized_pnl_today : ℚ
  unrealized_pnl : ℚ
  dry_run : Bool

/-- `compute_snapshot`. The day starts at local midnight. -/
def compute_snapshot (cfg : PortfolioConfig) (executions : List Held)
    (balances : String → Option ℚ) (now start_of_day : ℚ) (dry_run : Bool) : PortfolioSnapshot :=
  let positions := get_open_positions executions
  let total_exposure := (positions.map (·.cost)).sum
  let by_venue := by_venue cfg positions balances now
  { timestamp := now
    total_exposure := total_exposure
    total_open_positions := positions.length
    total_hedged := positions.countP (·.status = .hedged)
    total_unhedged := positions.countP fun p => p.status = .opened ∧ p.hedge_status = .none
    by_venue := by_venue
    by_canonical := by_canonical positions now
    violations := check_violations cfg positions by_venue.rows total_exposure now
    unsettled_positions := positions.countP fun p => p.status = .opened ∨ p.status = .hedged
    realized_pnl_today :=
      ((executions.filter (start_of_day ≤ ·.timestamp)).map (·.execution.realized_pnl)).sum
    unrealized_pnl := 0
    dry_run := dry_run }

/-! ## Section 3: The exposure by venue -/

section venues

variable {cfg : PortfolioConfig} {positions : List Position} {now : ℚ}

theorem Position.cost_eq (p : Position) : p.cost = p.yes_cost + p.no_cost := by
  have hqty : p.quantity ≠ 0 := p.quantity_pos.ne'
  rw [cost, yes_price, no_price, mul_div_cancel₀ _ hqty, mul_div_cancel₀ _ hqty]

/-- The legs of a position, by platform. -/
def Position.legs (p : Position) : List (String × ℚ≥0) :=
  [(p.yes_platform, p.yes_cost), (p.no_platform, p.no_cost)]

/-- The legs that cost something. -/
def paid_legs (positions : List Position) : List (String × ℚ≥0) :=
  (positions.flatMap Position.legs).filter fun l => 0 < l.2

/-- What the paid legs of a position sum up to, of all platforms or of one. -/
theorem sum_paid (p : Position) (keep : String → Prop) [DecidablePred keep] :
    (((p.legs.filter fun l => 0 < l.2).filter fun l => keep l.1).map Prod.snd).sum =
      (if keep p.yes_platform then p.yes_cost else 0) +
        (if keep p.no_platform then p.no_cost else 0) := by
  -- whether each leg is paid, and whether its platform is kept
  rw [Position.legs]
  rcases eq_zero_or_pos p.yes_cost with hyes | hyes <;>
    rcases eq_zero_or_pos p.no_cost with hno | hno <;>
      by_cases hy : keep p.yes_platform <;> by_cases hn : keep p.no_platform <;>
        simp [hyes, hno, hy, hn]

theorem sum_paid_legs : ((paid_legs positions).map Prod.snd).sum =
    (positions.map (·.cost)).sum := by
  induction positions with
  | nil => rfl
  | cons p positions ih =>
    have hlegs : paid_legs (p :: positions) =
        p.legs.filter (fun l => 0 < l.2) ++ paid_legs positions := by
      rw [paid_legs, List.flatMap_cons, List.filter_append]
      rfl
    have hall := sum_paid p fun _ => True
    simp only [if_true, decide_true, List.filter_true] at hall
    rw [hlegs, List.map_append, List.sum_append, ih, List.map_cons, List.sum_cons, hall,
      p.cost_eq]

/-- The exposure of a platform is what its paid legs sum up to. -/
theorem venue_exposure_eq (platform : String) :
    venue_exposure positions platform =
      (((paid_legs positions).filter (·.1 = platform)).map Prod.snd).sum := by
  induction positions with
  | nil => rfl
  | cons p positions ih =>
    have hlegs : paid_legs (p :: positions) =
        p.legs.filter (fun l => 0 < l.2) ++ paid_legs positions := by
      rw [paid_legs, List.flatMap_cons, List.filter_append]
      rfl
    rw [hlegs, List.filter_append, List.map_append, List.sum_append, sum_paid p (· = platform),
      ← ih, venue_exposure]
    by_cases hin : p.yes_platform = platform ∨ p.no_platform = platform
    · rw [List.filter_cons_of_pos (by simpa using hin), List.map_cons, List.sum_cons]
      rfl
    · -- a position with no leg on the platform adds nothing to either side
      obtain ⟨hyes, hno⟩ := not_or.mp hin
      rw [List.filter_cons_of_neg (by simpa using hin), if_neg hyes, if_neg hno, zero_add, zero_add]
      rfl

/-- A leg that costs something is on one of the platforms. -/
theorem mem_all_platforms {l : String × ℚ≥0} (hl : l ∈ paid_legs positions) :
    l.1 ∈ all_platforms positions := by
  obtain ⟨hl, hpaid⟩ := List.mem_filter.mp hl
  obtain ⟨p, hp, hl⟩ := List.mem_flatMap.mp hl
  have hpaid : 0 < l.2 := of_decide_eq_true hpaid
  rw [all_platforms, List.mem_dedup, List.mem_flatMap]
  refine ⟨p, hp, ?_⟩
  rcases List.mem_pair.mp hl with rfl | rfl
  · simp [show 0 < p.yes_cost from hpaid]
  · simp [show 0 < p.no_cost from hpaid]

/-- The venues add up to the total, whatever the positions are. -/
theorem sum_by_venue {balances : String → Option ℚ} :
    (positions.map (·.cost)).sum =
      ((by_venue cfg positions balances now).rows.map (·.total_exposure)).sum := by
  have hkeys := Ledger.sum_by_key (List.nodup_dedup _) Prod.fst Prod.snd
    fun l (hl : l ∈ paid_legs positions) => mem_all_platforms hl
  rw [sum_paid_legs] at hkeys
  rw [hkeys, by_venue, List.map_map]
  refine congrArg List.sum (List.map_congr_left fun platform _ => ?_)
  exact (venue_exposure_eq platform).symm

end venues

/-! ## Section 4: Conservation -/

/-- The violation of the market limit by a canonical id. -/
def RiskViolation.OfMarket (v : RiskViolation) (canonical_id : String) : Prop :=
  v.violation_id = "market_exposure:" ++ canonical_id ∧ v.category = .exposure ∧
    v.canonical_id = some canonical_id

/-- The cost of all positions with a canonical id. -/
def market_cost (positions : List Position) (canonical_id : String) : ℚ≥0 :=
  ((positions.filter (·.canonical_id = canonical_id)).map (·.cost)).sum

/-- **Conservation**: the slices and the venues add up to the total, and a market violates
    its limit exactly where its positions do together. -/
structure Conserves (cfg : PortfolioConfig) (positions : List Position)
    (snapshot : PortfolioSnapshot) : Prop where
  by_canonical :
    snapshot.total_exposure = (snapshot.by_canonical.rows.map (·.total_cost)).sum
  by_venue : snapshot.total_exposure = (snapshot.by_venue.rows.map (·.total_exposure)).sum
  markets : ∀ canonical_id, (∃ v ∈ snapshot.violations, v.OfMarket canonical_id) ↔
    cfg.max_per_market_usd < market_cost positions canonical_id

/-- Every position that is followed by another of its canonical id costs nothing. -/
def OnePerMarket (positions : List Position) : Prop :=
  positions.Pairwise fun p q => p.canonical_id = q.canonical_id → p.cost = 0

section conservation

variable {cfg : PortfolioConfig} {positions : List Position} {now : ℚ}

/-- The slices lose the positions that are followed by another of their canonical id. -/
theorem sum_by_canonical_iff :
    (positions.map (·.cost)).sum = ((by_canonical positions now).rows.map (·.total_cost)).sum ↔
      OnePerMarket positions := by
  have hfill : ((positions.map (·.slice now)).map (·.total_cost)).sum =
      ((by_canonical positions now).rows.map (·.total_cost)).sum ↔
        Table.NothingLost ExposureSlice.canonical_id ExposureSlice.total_cost
          (positions.map (·.slice now)) := Table.sum_fill_eq_iff
  rw [Table.NothingLost, List.pairwise_map, List.map_map] at hfill
  exact hfill

theorem market_violation_eq {p : Position} :
    market_violation cfg now p =
      if cfg.max_per_market_usd < p.cost then some (market_exposure cfg now p.canonical_id p.cost)
      else none := by
  rw [Position.cost, ← mul_add]
  rfl

/-- No other check names a canonical id under the category of the market limit. -/
theorem not_ofMarket {v : RiskViolation} {venues : List VenueExposure} {total_exposure : ℚ≥0}
    {canonical_id : String}
    (hv : v ∈ (total_violation cfg now total_exposure).toList ++
      venues.filterMap (venue_violation cfg now) ++ venues.filterMap (low_balance cfg now) ++
      positions.filterMap (stale_hedge cfg now)) : ¬ v.OfMarket canonical_id := by
  rintro ⟨-, hcategory, hcanonical⟩
  simp only [List.mem_append, List.mem_filterMap, Option.mem_toList] at hv
  rcases hv with ((hv | ⟨x, -, hv⟩) | ⟨x, -, hv⟩) | ⟨p, -, hv⟩
  -- the first three name no canonical id, and a stale hedge is of another category
  · unfold total_violation at hv
    split at hv
    · obtain rfl := Option.some.inj hv
      cases hcanonical
    · cases hv
  · unfold venue_violation at hv
    split at hv
    · obtain rfl := Option.some.inj hv
      cases hcanonical
    · cases hv
  · unfold low_balance at hv
    split at hv
    · obtain rfl := Option.some.inj hv
      cases hcanonical
    · cases hv
  · unfold stale_hedge at hv
    dsimp only at hv
    split at hv
    · obtain rfl := Option.some.inj hv
      cases hcategory
    · cases hv

/-- A market violates its limit where one of its positions does. -/
theorem market_violation_iff {venues : List VenueExposure} {total_exposure : ℚ≥0}
    {canonical_id : String} :
    (∃ v ∈ check_violations cfg positions venues total_exposure now, v.OfMarket canonical_id) ↔
      ∃ p ∈ positions, p.canonical_id = canonical_id ∧ cfg.max_per_market_usd < p.cost := by
  constructor
  · rintro ⟨v, hv, hmarket⟩
    rw [check_violations, List.append_assoc, List.append_assoc, List.append_assoc,
      List.mem_append] at hv
    rcases hv with hv | hv
    · obtain ⟨p, hp, hv⟩ := List.mem_filterMap.mp hv
      rw [market_violation_eq] at hv
      split at hv
      · next hover =>
        obtain rfl := Option.some.inj hv
        exact ⟨p, hp, Option.some.inj hmarket.2.2, hover⟩
      · cases hv
    · rw [← List.append_assoc, ← List.append_assoc] at hv
      exact absurd hmarket (not_ofMarket hv)
  · rintro ⟨p, hp, rfl, hover⟩
    refine ⟨market_exposure cfg now p.canonical_id p.cost, ?_, rfl, rfl, rfl⟩
    rw [check_violations, List.append_assoc, List.append_assoc, List.append_assoc,
      List.mem_append]
    refine .inl (List.mem_filterMap.mpr ⟨p, hp, ?_⟩)
    rw [market_violation_eq, if_pos hover]

/-- One of the positions costs no more than all of them. -/
theorem cost_le_market_cost {p : Position} (hp : p ∈ positions) :
    p.cost ≤ market_cost positions p.canonical_id := by
  refine List.single_le_sum (fun _ _ => zero_le) _ ?_
  exact List.mem_map_of_mem (List.mem_filter.mpr ⟨hp, by simp⟩)

/-- Where there is one position to a market, one of its positions costs what all do. -/
theorem OnePerMarket.exists_cost (h : OnePerMarket positions) {canonical_id : String}
    (hcost : market_cost positions canonical_id ≠ 0) :
    ∃ p ∈ positions, p.canonical_id = canonical_id ∧
      p.cost = market_cost positions canonical_id := by
  have hlost : Table.NothingLost Position.canonical_id Position.cost positions := h
  have hsum : market_cost positions canonical_id =
      (((Table.fill Position.canonical_id positions).find canonical_id).map Position.cost).getD 0 :=
    hlost.sum_filter canonical_id
  cases hfind : (Table.fill Position.canonical_id positions).find canonical_id with
  | none =>
    rw [hfind] at hsum
    exact absurd hsum hcost
  | some p =>
    rw [hfind] at hsum
    exact ⟨p, Table.mem_of_find_fill hfind, Table.find_key hfind, hsum.symm⟩

/-- **The snapshot conserves the exposure** exactly where there is one position to a
    market, those that cost nothing apart. -/
theorem conserves_iff (executions : List Held) (balances : String → Option ℚ)
    (start_of_day : ℚ) (dry_run : Bool) :
    Conserves cfg (get_open_positions executions)
        (compute_snapshot cfg executions balances now start_of_day dry_run) ↔
      OnePerMarket (get_open_positions executions) := by
  constructor
  · intro h
    exact sum_by_canonical_iff.mp h.by_canonical
  · intro h
    refine ⟨sum_by_canonical_iff.mpr h, sum_by_venue, fun canonical_id => ?_⟩
    refine market_violation_iff.trans ?_
    constructor
    · -- what one position exceeds, all of them do
      rintro ⟨p, hp, rfl, hover⟩
      exact hover.trans_le (cost_le_market_cost hp)
    · intro hover
      obtain ⟨p, hp, hmarket, hcost⟩ := h.exists_cost (zero_le.trans_lt hover).ne'
      exact ⟨p, hp, hmarket, hcost ▸ hover⟩

end conservation

/-- One leg of a hundred contracts, filled. -/
def filled_leg (side : Side) (platform : String) (price : ℚ≥0) : Leg :=
  { Order.synthetic "ORD-1" platform "KX-FED" "FED" side price 100 .filled "" with
    fill_price := price
    fill_qty := 100 }

/-- A hundred contracts of both sides, for sixty dollars. -/
def sixty_dollars (arb_id : String) : Held where
  execution :=
    { arb_id := arb_id
      opportunity :=
        { canonical_id := "FED"
          yes_platform := "kalshi"
          yes_market_id := "KX-FED"
          yes_price := 2 / 5
          yes_fee_rate := 0
          no_platform := "polymarket"
          no_market_id := "kxfed"
          no_price := 1 / 5
          no_fee_rate := 0
          suggested_qty := 100
          net_edge := 2 / 5
          net_edge_cents := 40
          confidence := 1
          quote_age_seconds := 0
          status := .tradable
          requires_manual := false }
      leg_yes := filled_leg .yes "kalshi" (2 / 5)
      leg_no := filled_leg .no "polymarket" (1 / 5)
      status := .filled
      realized_pnl := 0
      unwind_pnl := 0
      notes := [] }
  description := "Fed holds"
  timestamp := 0

/-- Two of them on one market: it holds 120 dollars with a limit of 100, its slice shows 60,
    and nothing is reported. -/
theorem second_fill_hides_first :
    ¬ Conserves .default (get_open_positions [sixty_dollars "ARB-1", sixty_dollars "ARB-2"])
        (compute_snapshot .default [sixty_dollars "ARB-1", sixty_dollars "ARB-2"]
          (fun _ => none) 0 0 false) := by
  intro h
  have hnone : (compute_snapshot .default [sixty_dollars "ARB-1", sixty_dollars "ARB-2"]
      (fun _ => none) 0 0 false).violations.length = 0 := by decide +kernel
  obtain ⟨v, hv, -⟩ := (h.markets "FED").mpr (by decide +kernel)
  rw [List.eq_nil_of_length_eq_zero hnone] at hv
  cases hv

end Portfolio
