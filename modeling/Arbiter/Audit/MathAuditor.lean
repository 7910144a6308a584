import Arbiter.Scanner.Scan

/-! # The Shadow Auditor

  The auditor derives the fees, the edge and the size of an opportunity a second time,
  from its prices alone, and flags every reported number that is off. It shares no code
  with the scanner, so that it must agree with it is a statement about both.

  ## Contents

  - Section 1: the auditor.
  - Section 2: when an opportunity passes.
  - Section 3: its fees, next to the scanner's.
  - Section 4: when auditor and scanner agree.
-/

namespace Audit

open Truncate
open Scanner (ArbitrageOpportunity PricePoint ScannerConfig)

/-! ## Section 1: The auditor -/

/-- What `audit_opportunity` reads of an opportunity's dictionary. -/
structure AuditDict where
  canonical_id : String
  yes_platform : String
  no_platform : String
  yes_price : ℚ
  no_price : ℚ
  gross_edge : ℚ
  total_fees : ℚ
  net_edge : ℚ
  net_edge_cents : ℚ
  suggested_qty : ℕ
  max_profit_usd : ℚ
  min_available_liquidity : ℚ
  yes_fee_rate : Option ℚ
  no_fee_rate : Option ℚ
  deriving DecidableEq

/-- A fee rate in the dictionary. -/
def dict_rate (fee_rate : Option ℚ≥0) : Option ℚ := fee_rate.map fun rate : ℚ≥0 => (rate : ℚ)

/-- `to_audit_dict`: nothing is rounded. -/
def to_audit_dict (opp : ArbitrageOpportunity) : AuditDict where
  canonical_id := opp.canonical_id
  yes_platform := opp.yes_platform
  no_platform := opp.no_platform
  yes_price := opp.yes_price
  no_price := opp.no_price
  gross_edge := opp.gross_edge
  total_fees := opp.total_fees
  net_edge := opp.net_edge
  net_edge_cents := opp.net_edge_cents
  suggested_qty := opp.suggested_qty
  max_profit_usd := opp.max_profit_usd
  min_available_liquidity := opp.min_available_liquidity
  yes_fee_rate := dict_rate opp.yes_fee_rate
  no_fee_rate := dict_rate opp.no_fee_rate

/-- `_kalshi_fee`, per contract. -/
def kalshi_fee (price : ℚ) (quantity : ℕ) : ℚ :=
  let quantity := max quantity 1
  let raw_fee := 7 / 100 * quantity * price * (1 - price)
  ⌈raw_fee * 100 - 1 / 10 ^ 9⌉ / 100 / quantity

/-- `_polymarket_fee`, for politics: a rate of zero is a rate. -/
def polymarket_fee (price : ℚ) (quantity : ℕ) (fee_rate : Option ℚ) : ℚ :=
  let rate :=
    match fee_rate with
    | none => 4 / 100
    | some rate => max rate 0
  -- The quantity cancels: the fee per contract does not depend on it.
  let quantity := max quantity 1
  rate * price * (1 - price) * quantity / quantity

/-- `_FORECASTEX_FLAT_FEE_PER_CONTRACT`. -/
def forecastex_flat_fee_per_contract : ℚ := 5 / 1000

/-- `_forecastex_fee`: a rate of zero is none. -/
def forecastex_fee (price : ℚ) (fee_rate : Option ℚ) : ℚ :=
  let per_contract :=
    match fee_rate with
    | none => forecastex_flat_fee_per_contract
    -- The scanner's convention: a rate of zero is a missing one.
    | some rate => if rate = 0 then forecastex_flat_fee_per_contract else rate
  let per_contract := if per_contract < 0 then 0 else per_contract
  if price ≤ 0 then 0 else per_contract

/-- `_compute_fee`. -/
def compute_fee (platform : String) (price : ℚ) (quantity : ℕ) (fee_rate : Option ℚ) : ℚ :=
  if platform = "kalshi" then kalshi_fee price quantity
  else if platform = "polymarket" then polymarket_fee price quantity fee_rate
  else if platform = "forecastex" then forecastex_fee price fee_rate
  else 0

/-- `_compute_position_size`. -/
def compute_position_size (max_position_usd yes_price no_price min_available_liquidity : ℚ) : ℤ :=
  let cost_per_pair := yes_price + no_price
  if cost_per_pair ≤ 0 then 0
  else
    let max_by_capital := whole (max_position_usd / cost_per_pair)
    let max_by_capital :=
      -- A liquidity that was not reported does not limit the size.
      if 0 < min_available_liquidity then
        min max_by_capital (whole (max min_available_liquidity 1))
      else max_by_capital
    max 1 max_by_capital

/-- `AuditFlag.severity`. -/
inductive Severity
  | warning
  | critical
  deriving DecidableEq

/-- `AuditFlag.field`: the number a flag is about. -/
inductive AuditField
  | gross_edge
  | suggested_qty
  | total_fees
  | net_edge
  | net_edge_cents
  | fundamental_constraint
  | max_profit_usd
  | sign_check
  deriving DecidableEq

/-- Its text. -/
def AuditField.value : AuditField → String
  | gross_edge => "gross_edge"
  | suggested_qty => "suggested_qty"
  | total_fees => "total_fees"
  | net_edge => "net_edge"
  | net_edge_cents => "net_edge_cents"
  | fundamental_constraint => "fundamental_constraint"
  | max_profit_usd => "max_profit_usd"
  | sign_check => "sign_check"

/-- `AuditFlag`. -/
structure AuditFlag where
  field : AuditField
  expected : ℚ
  actual : ℚ
  discrepancy : ℚ
  severity : Severity
  message : String
  deriving DecidableEq

/-- `AuditResult`. -/
structure AuditResult where
  canonical_id : String
  yes_platform : String
  no_platform : String
  passed : Bool
  flags : List AuditFlag
  shadow_gross_edge : ℚ
  shadow_total_fees : ℚ
  shadow_net_edge : ℚ
  shadow_net_edge_cents : ℚ
  shadow_suggested_qty : ℤ
  shadow_max_profit : ℚ
  deriving DecidableEq

/-- `DISCREPANCY_THRESHOLD`. -/
def discrepancy_threshold : ℚ := 1 / 1000

/-- The threshold on cents. -/
def cents_threshold : ℚ := 1 / 10

/-- `CRITICAL_PROFIT_THRESHOLD`. -/
def critical_profit_threshold : ℚ := 5 / 1000

namespace AuditDict

variable (max_position_usd : ℚ) (d : AuditDict)

/-- `shadow_gross`. -/
def shadow_gross : ℚ := 1 - d.yes_price - d.no_price

/-- `shadow_qty`. -/
def shadow_qty : ℤ :=
  compute_position_size max_position_usd d.yes_price d.no_price d.min_available_liquidity

/-- `qty_for_fee`: the reported quantity, or the shadow's where that is zero. -/
def qty_for_fee : ℕ :=
  max (if d.suggested_qty = 0 then (d.shadow_qty max_position_usd).toNat else d.suggested_qty) 1

/-- `shadow_fee_a`. -/
def shadow_fee_a : ℚ :=
  compute_fee d.yes_platform d.yes_price (d.qty_for_fee max_position_usd) d.yes_fee_rate

/-- `shadow_fee_b`. -/
def shadow_fee_b : ℚ :=
  compute_fee d.no_platform d.no_price (d.qty_for_fee max_position_usd) d.no_fee_rate

/-- `shadow_total_fees`. -/
def shadow_total_fees : ℚ := d.shadow_fee_a max_position_usd + d.shadow_fee_b max_position_usd

/-- `shadow_net`. -/
def shadow_net : ℚ := d.shadow_gross - d.shadow_total_fees max_position_usd

/-- `reported_expected_profit`. -/
def expected_profit : ℚ := d.net_edge * d.suggested_qty

end AuditDict

/-- A number in a message. -/
def shown (q : ℚ) : String := Decimal.fixed_signed 6 q

/-- A check: its flag, where it fires. -/
def check (fires : Prop) [Decidable fires] (flag : AuditFlag) : List AuditFlag :=
  if fires then [flag] else []

/-- The flags of `audit_opportunity`, in order. -/
def audit_flags (max_position_usd : ℚ) (d : AuditDict) : List AuditFlag :=
  let shadow_gross := d.shadow_gross
  let shadow_qty := d.shadow_qty max_position_usd
  let shadow_total_fees := d.shadow_total_fees max_position_usd
  let shadow_net := d.shadow_net max_position_usd
  let shadow_cents := shadow_net * 100
  let total_cost := d.yes_price + d.no_price + shadow_total_fees
  let gross_diff := |shadow_gross - d.gross_edge|
  let fees_diff := |shadow_total_fees - d.total_fees|
  let net_diff := |shadow_net - d.net_edge|
  let cents_diff := |shadow_cents - d.net_edge_cents|
  let profit_diff := |d.max_profit_usd - d.expected_profit|
  check (discrepancy_threshold < gross_diff)
      { field := .gross_edge, expected := shadow_gross, actual := d.gross_edge
        discrepancy := gross_diff, severity := .warning
        message := "Gross edge mismatch: shadow=" ++ shown shadow_gross ++ " vs reported=" ++
          shown d.gross_edge } ++
    -- A smaller quantity is fine: the executor may have clamped it.
    check (shadow_qty < d.suggested_qty)
      { field := .suggested_qty, expected := shadow_qty, actual := d.suggested_qty
        discrepancy := |(shadow_qty : ℚ) - d.suggested_qty|, severity := .warning
        message := "Quantity exceeds cap: reported=" ++ toString d.suggested_qty ++
          " > shadow_max=" ++ toString shadow_qty } ++
    check (discrepancy_threshold < fees_diff)
      { field := .total_fees, expected := shadow_total_fees, actual := d.total_fees
        discrepancy := fees_diff, severity := .warning
        message := "Fee mismatch: shadow=" ++ shown shadow_total_fees ++ " (a=" ++
          shown (d.shadow_fee_a max_position_usd) ++ " + b=" ++
          shown (d.shadow_fee_b max_position_usd) ++ ") vs reported=" ++ shown d.total_fees } ++
    check (discrepancy_threshold < net_diff)
      { field := .net_edge, expected := shadow_net, actual := d.net_edge
        discrepancy := net_diff
        severity := if critical_profit_threshold < net_diff then .critical else .warning
        message := "Net edge mismatch: shadow=" ++ shown shadow_net ++ " vs reported=" ++
          shown d.net_edge } ++
    check (cents_threshold < cents_diff)
      { field := .net_edge_cents, expected := shadow_cents, actual := d.net_edge_cents
        discrepancy := cents_diff, severity := .warning
        message := "Cents mismatch: shadow=" ++ Decimal.fixed_signed 4 shadow_cents ++
          "¢ vs reported=" ++ Decimal.fixed_signed 4 d.net_edge_cents ++ "¢" } ++
    check (1 ≤ total_cost ∧ 0 < shadow_net)
      { field := .fundamental_constraint, expected := 0, actual := total_cost
        discrepancy := total_cost - 1, severity := .critical
        message := "VIOLATION: yes(" ++ Decimal.fixed_signed 4 d.yes_price ++ ") + no(" ++
          Decimal.fixed_signed 4 d.no_price ++ ") + fees(" ++
          Decimal.fixed_signed 4 shadow_total_fees ++ ") = " ++
          Decimal.fixed_signed 4 total_cost ++ " >= $1.00 but net_edge reported positive" } ++
    check (discrepancy_threshold < profit_diff)
      { field := .max_profit_usd, expected := d.expected_profit, actual := d.max_profit_usd
        discrepancy := profit_diff, severity := .warning
        message := "Max profit internal inconsistency: net_edge(" ++ shown d.net_edge ++
          ") × qty(" ++ toString d.suggested_qty ++ ") = " ++
          Decimal.fixed_signed 4 d.expected_profit ++ " but reported " ++
          Decimal.fixed_signed 4 d.max_profit_usd } ++
    check (shadow_net ≤ 0 ∧ 0 < d.net_edge)
      { field := .sign_check, expected := shadow_net, actual := d.net_edge
        discrepancy := net_diff, severity := .critical
        message := "CRITICAL: Shadow computes negative/zero edge (" ++ shown shadow_net ++
          ") but scanner reports positive (" ++ shown d.net_edge ++ ")" }

/-- `audit_opportunity`. -/
def audit_opportunity (max_position_usd : ℚ) (d : AuditDict) : AuditResult where
  canonical_id := d.canonical_id
  yes_platform := d.yes_platform
  no_platform := d.no_platform
  passed := (audit_flags max_position_usd d).isEmpty
  flags := audit_flags max_position_usd d
  shadow_gross_edge := d.shadow_gross
  shadow_total_fees := d.shadow_total_fees max_position_usd
  shadow_net_edge := d.shadow_net max_position_usd
  shadow_net_edge_cents := d.shadow_net max_position_usd * 100
  shadow_suggested_qty := d.shadow_qty max_position_usd
  shadow_max_profit := d.shadow_net max_position_usd * d.shadow_qty max_position_usd

/-! ## Section 2: Passing -/

@[simp] theorem check_eq_nil {fires : Prop} [Decidable fires] {flag : AuditFlag} :
    check fires flag = [] ↔ ¬ fires := by
  by_cases h : fires <;> simp [check, h]

/-- Every reported number is as derived, up to the thresholds. -/
structure Passes (max_position_usd : ℚ) (d : AuditDict) : Prop where
  gross : |d.shadow_gross - d.gross_edge| ≤ discrepancy_threshold
  qty : (d.suggested_qty : ℤ) ≤ d.shadow_qty max_position_usd
  fees : |d.shadow_total_fees max_position_usd - d.total_fees| ≤ discrepancy_threshold
  net : |d.shadow_net max_position_usd - d.net_edge| ≤ discrepancy_threshold
  cents : |d.shadow_net max_position_usd * 100 - d.net_edge_cents| ≤ cents_threshold
  profit : |d.max_profit_usd - d.expected_profit| ≤ discrepancy_threshold
  sign : d.shadow_net max_position_usd ≤ 0 → d.net_edge ≤ 0

/-- **An audit passes when every reported number is as derived.** The check of the
    fundamental constraint never fires: the net edge is what the cost leaves of the
    dollar. -/
theorem passed_iff {max_position_usd : ℚ} {d : AuditDict} :
    (audit_opportunity max_position_usd d).passed = true ↔ Passes max_position_usd d := by
  have hconstraint : ¬ (1 ≤ d.yes_price + d.no_price + d.shadow_total_fees max_position_usd ∧
      0 < d.shadow_net max_position_usd) := by
    intro ⟨hcost, hnet⟩
    simp only [AuditDict.shadow_net, AuditDict.shadow_gross] at hnet
    linarith
  simp only [audit_opportunity, audit_flags, List.isEmpty_iff, List.append_eq_nil_iff,
    check_eq_nil, not_lt, not_and, and_assoc]
  constructor
  · intro ⟨hgross, hqty, hfees, hnet, hcents, _, hprofit, hsign⟩
    exact ⟨hgross, hqty, hfees, hnet, hcents, hprofit, hsign⟩
  · intro hp
    exact ⟨hp.gross, hp.qty, hp.fees, hp.net, hp.cents,
      fun hcost => not_lt.1 fun hnet => hconstraint ⟨hcost, hnet⟩, hp.profit, hp.sign⟩

/-! ## Section 3: The two fee models -/

/-- A Polymarket leg whose fee rate is given as zero. -/
def zero_rate (p : PricePoint) : Prop := p.platform = "polymarket" ∧ p.fee_rate = some 0

instance (p : PricePoint) : Decidable (zero_rate p) := inferInstanceAs (Decidable (_ ∧ _))

/-- What the auditor charges less than the scanner, per contract. To the scanner a zero rate
    is a missing one and it charges the default; to the auditor it is a rate. -/
def shortfall (p : PricePoint) (price : ℚ) : ℚ :=
  if zero_rate p then Scanner.polymarket_politics_fee_rate * price * (1 - price) else 0

theorem shortfall_nonneg {p : PricePoint} {price : ℚ} (hpos : 0 < price) (hlt : price < 1) :
    0 ≤ shortfall p price := by
  rw [shortfall]
  split
  · have := sub_pos.2 hlt
    rw [Scanner.polymarket_politics_fee_rate]
    positivity
  · exact le_rfl

/-- There is a shortfall exactly on such a leg. -/
theorem shortfall_pos_iff {p : PricePoint} {price : ℚ} (hpos : 0 < price) (hlt : price < 1) :
    0 < shortfall p price ↔ zero_rate p := by
  rw [shortfall]
  split
  case isTrue h =>
    have := sub_pos.2 hlt
    rw [Scanner.polymarket_politics_fee_rate]
    exact iff_of_true (by positivity) h
  case isFalse h => exact iff_of_false (lt_irrefl 0) h

theorem clamp_probability_of_lt_one {price : ℚ} (hpos : 0 < price) (hlt : price < 1) :
    Scanner.clamp_probability price = price := by
  rw [Scanner.clamp_probability, min_eq_right hlt.le, max_eq_right hpos.le]

/-- Kalshi: one order fee, rounded up the same way. -/
theorem kalshi_fee_eq {price : ℚ} {qty : ℕ} (hpos : 0 < price) (hlt : price < 1)
    (hqty : 0 < qty) : kalshi_fee price qty = Scanner.kalshi_order_fee price qty / qty := by
  have hone : max qty 1 = qty := by omega
  have hcharged : ¬ (qty = 0 ∨ price ≤ 0) := by
    rintro (h | h)
    · omega
    · linarith
  simp only [kalshi_fee, Scanner.kalshi_order_fee, clamp_probability_of_lt_one hpos hlt, hone,
    if_neg hcharged, Scanner.kalshi_taker_fee_rate]

/-- The rate Polymarket's orders are charged at by the scanner. -/
def polymarket_rate (p : PricePoint) : ℚ :=
  if (p.rate : ℚ) = 0 then Scanner.polymarket_politics_fee_rate else p.rate

/-- Polymarket: the same rate, except for a rate of zero. -/
theorem polymarket_fee_eq {p : PricePoint} {price : ℚ} {qty : ℕ} (hpos : 0 < price)
    (hlt : price < 1) (hqty : 0 < qty) (hp : p.platform = "polymarket") :
    polymarket_fee price qty (dict_rate p.fee_rate) =
      Scanner.polymarket_order_fee price qty (polymarket_rate p) / qty - shortfall p price := by
  have hone : max qty 1 = qty := by omega
  have hcharged : ¬ (qty = 0 ∨ price ≤ 0) := by
    rintro (h | h)
    · omega
    · linarith
  have hq : (qty : ℚ) ≠ 0 := by exact_mod_cast hqty.ne'
  simp only [polymarket_fee, Scanner.polymarket_order_fee, clamp_probability_of_lt_one hpos hlt,
    hone, if_neg hcharged, polymarket_rate, Scanner.polymarket_politics_fee_rate]
  -- Absent, zero, or a rate of its own: only a rate of zero is read differently.
  have hdefault : max (4 / 100 : ℚ) 0 = 4 / 100 := by norm_num
  rcases hrate : p.fee_rate with _ | r
  · have hnone : shortfall p price = 0 := if_neg (by simp [zero_rate, hrate])
    simp only [hnone, PricePoint.rate, hrate, dict_rate, Option.map_none, Option.getD_none,
      NNRat.cast_zero, if_true, hdefault]
    field_simp
    ring
  · rcases eq_or_ne r 0 with rfl | hr
    · have hsome : shortfall p price = 4 / 100 * price * (1 - price) := if_pos ⟨hp, hrate⟩
      simp only [hsome, PricePoint.rate, hrate, dict_rate, Option.map_some, Option.getD_some,
        NNRat.cast_zero, if_true, hdefault, max_self]
      field_simp
      ring
    · have hr' : (r : ℚ) ≠ 0 := by exact_mod_cast hr
      have hnone : shortfall p price = 0 := if_neg (by simp [zero_rate, hrate, hr])
      simp only [hnone, PricePoint.rate, hrate, dict_rate, Option.map_some, Option.getD_some,
        if_neg hr']
      field_simp
      ring

/-- ForecastEx: flat, and a zero rate is the default to both. -/
theorem forecastex_fee_eq {p : PricePoint} {price : ℚ} {qty : ℕ} (hpos : 0 < price)
    (hlt : price < 1) (hqty : 0 < qty) :
    forecastex_fee price (dict_rate p.fee_rate) =
      Scanner.forecastex_order_fee price qty (if (p.rate : ℚ) = 0 then 5 / 1000 else p.rate) /
        qty := by
  have hcharged : ¬ (qty = 0 ∨ price ≤ 0) := by
    rintro (h | h)
    · omega
    · linarith
  have hq : (qty : ℚ) ≠ 0 := by exact_mod_cast hqty.ne'
  simp only [forecastex_fee, Scanner.forecastex_order_fee, clamp_probability_of_lt_one hpos hlt,
    if_neg hcharged, forecastex_flat_fee_per_contract, if_neg (not_le.2 hpos)]
  rw [mul_div_cancel_right₀ _ hq]
  rcases hrate : p.fee_rate with _ | r
  · norm_num [PricePoint.rate, hrate, dict_rate]
  · rcases eq_or_ne r 0 with rfl | hr
    · norm_num [PricePoint.rate, hrate, dict_rate]
    · have hr' : (r : ℚ) ≠ 0 := by exact_mod_cast hr
      simp [PricePoint.rate, hrate, dict_rate, hr]

/-- **The auditor's fee of a leg** is the scanner's per contract, less the shortfall. -/
theorem compute_fee_eq {p : PricePoint} {price : ℚ} {qty : ℕ} (hpos : 0 < price)
    (hlt : price < 1) (hqty : 0 < qty) :
    compute_fee p.platform price qty (dict_rate p.fee_rate) =
      Scanner.compute_fee p.platform price qty p.rate / qty - shortfall p price := by
  have hne : p.platform ≠ "polymarket" → shortfall p price = 0 := by
    intro hp
    rw [shortfall, if_neg fun h : zero_rate p => hp h.1]
  simp only [compute_fee, Scanner.compute_fee, if_neg hqty.ne']
  split
  case isTrue hp => rw [hne (by rw [hp]; decide), sub_zero, kalshi_fee_eq hpos hlt hqty]
  case isFalse =>
    split
    case isTrue hp => exact polymarket_fee_eq hpos hlt hqty hp
    case isFalse hp =>
      rw [hne hp, sub_zero]
      split
      · exact forecastex_fee_eq hpos hlt hqty
      · simp

/-! ## Section 4: Agreement -/

/-- What the auditor derives its numbers from is the same. -/
structure SameBasis (d d' : AuditDict) : Prop where
  yes_platform : d'.yes_platform = d.yes_platform
  no_platform : d'.no_platform = d.no_platform
  yes_price : d'.yes_price = d.yes_price
  no_price : d'.no_price = d.no_price
  suggested_qty : d'.suggested_qty = d.suggested_qty
  min_available_liquidity : d'.min_available_liquidity = d.min_available_liquidity
  yes_fee_rate : d'.yes_fee_rate = d.yes_fee_rate
  no_fee_rate : d'.no_fee_rate = d.no_fee_rate

/-- `d'` is `d` with its prices, an edge or the fees altered by more than the auditor
    tolerates. -/
inductive Altered (d d' : AuditDict) : Prop
  /-- One price or both, so that the pair costs something else than its gross edge says.
      What else is reported may be altered with them. -/
  | prices (hgross : d'.gross_edge = d.gross_edge)
      (hprices : discrepancy_threshold <
        |d'.yes_price + d'.no_price - (d.yes_price + d.no_price)|)
  /-- Any of the reported numbers. -/
  | reported (hbasis : SameBasis d d')
      (hreported : discrepancy_threshold < |d'.gross_edge - d.gross_edge| ∨
        discrepancy_threshold < |d'.total_fees - d.total_fees| ∨
        discrepancy_threshold < |d'.net_edge - d.net_edge| ∨
        cents_threshold < |d'.net_edge_cents - d.net_edge_cents|)

/-- The auditor's fees are `short` of the reported ones, and the rest adds up. -/
structure ShortBy (max_position_usd short : ℚ) (d : AuditDict) : Prop where
  gross : d.shadow_gross = d.gross_edge
  qty : (d.suggested_qty : ℤ) ≤ d.shadow_qty max_position_usd
  fees : d.shadow_total_fees max_position_usd = d.total_fees - short
  net : d.net_edge = d.gross_edge - d.total_fees
  cents : d.net_edge_cents = d.net_edge * 100
  profit : |d.max_profit_usd - d.expected_profit| ≤ discrepancy_threshold

section Short

variable {max_position_usd short : ℚ} {d d' : AuditDict}

/-- The auditor's net edge is then as much larger. -/
theorem ShortBy.shadow_net (h : ShortBy max_position_usd short d) :
    d.shadow_net max_position_usd = d.net_edge + short := by
  rw [AuditDict.shadow_net, h.gross, h.fees, h.net]
  ring

/-- What is derived depends on the basis only. -/
theorem SameBasis.shadow (h : SameBasis d d') (cap : ℚ) :
    d'.shadow_gross = d.shadow_gross ∧ d'.shadow_qty cap = d.shadow_qty cap ∧
      d'.shadow_total_fees cap = d.shadow_total_fees cap ∧
      d'.shadow_net cap = d.shadow_net cap := by
  simp only [AuditDict.shadow_net, AuditDict.shadow_total_fees, AuditDict.shadow_fee_a,
    AuditDict.shadow_fee_b, AuditDict.qty_for_fee, AuditDict.shadow_qty, AuditDict.shadow_gross,
    h.yes_platform, h.no_platform, h.yes_price, h.no_price, h.suggested_qty,
    h.min_available_liquidity, h.yes_fee_rate, h.no_fee_rate, and_self]

/-- It passes when what the auditor is short of is within the threshold. -/
theorem ShortBy.passes_iff (h : ShortBy max_position_usd short d) (hshort : 0 ≤ short) :
    Passes max_position_usd d ↔ short ≤ discrepancy_threshold := by
  constructor
  · intro hp
    -- The fees alone decide: they differ by exactly what is short.
    have hfees := hp.fees
    rwa [h.fees, sub_sub_cancel_left, abs_neg, abs_of_nonneg hshort] at hfees
  · intro hle
    exact
      { gross := by rw [h.gross, sub_self, abs_zero, discrepancy_threshold]; norm_num
        qty := h.qty
        fees := by rwa [h.fees, sub_sub_cancel_left, abs_neg, abs_of_nonneg hshort]
        net := by rwa [h.shadow_net, add_sub_cancel_left, abs_of_nonneg hshort]
        cents := by
          rw [h.shadow_net, h.cents, add_mul, add_sub_cancel_left, abs_of_nonneg (by positivity)]
          rw [discrepancy_threshold] at hle
          rw [cents_threshold]
          linarith
        profit := h.profit
        sign := by
          intro hnet
          rw [h.shadow_net] at hnet
          linarith }

/-- With nothing short, no alteration passes. -/
theorem ShortBy.not_passes_of_altered (h : ShortBy max_position_usd 0 d) (ha : Altered d d') :
    ¬ Passes max_position_usd d' := by
  intro hp
  cases ha with
  | prices hgross hprices =>
    have hle := hp.gross
    rw [hgross, ← h.gross, AuditDict.shadow_gross, AuditDict.shadow_gross, abs_sub_comm] at hle
    -- The gross edge is as it was, so the auditor sees what the cost moved by.
    have heq : 1 - d.yes_price - d.no_price - (1 - d'.yes_price - d'.no_price) =
        d'.yes_price + d'.no_price - (d.yes_price + d.no_price) := by ring
    rw [heq] at hle
    exact absurd hprices (not_lt.2 hle)
  | reported hbasis hreported =>
    -- The auditor derives what was reported before, so it sees each change in full.
    obtain ⟨hgross, -, hfees, hnet⟩ := hbasis.shadow max_position_usd
    rw [h.gross] at hgross
    rw [h.fees, sub_zero] at hfees
    rw [h.shadow_net, add_zero] at hnet
    have hpgross := hp.gross
    have hpfees := hp.fees
    have hpnet := hp.net
    have hpcents := hp.cents
    rw [hgross, abs_sub_comm] at hpgross
    rw [hfees, abs_sub_comm] at hpfees
    rw [hnet, abs_sub_comm] at hpnet
    rw [hnet, ← h.cents, abs_sub_comm] at hpcents
    rcases hreported with hr | hr | hr | hr <;> linarith

/-- The fees moved by more than the threshold, towards what the auditor derives. -/
def nudged (short : ℚ) (d : AuditDict) : AuditDict :=
  { d with total_fees := d.total_fees - (discrepancy_threshold + short / 2) }

/-- With something short, there is an alteration of the fees that passes. -/
theorem ShortBy.altered_passes (h : ShortBy max_position_usd short d) (hshort : 0 < short)
    (hle : short ≤ discrepancy_threshold) :
    ∃ d', Altered d d' ∧ Passes max_position_usd d' := by
  have hp := (h.passes_iff hshort.le).2 hle
  have hbasis : SameBasis d (nudged short d) := ⟨rfl, rfl, rfl, rfl, rfl, rfl, rfl, rfl⟩
  have hthreshold : (0 : ℚ) < discrepancy_threshold := by
    rw [discrepancy_threshold]
    norm_num
  refine ⟨nudged short d, .reported hbasis (.inr (.inl ?_)), ?_⟩
  · show discrepancy_threshold < |d.total_fees - (discrepancy_threshold + short / 2) - d.total_fees|
    rw [sub_sub_cancel_left, abs_neg, abs_of_pos (by linarith)]
    linarith
  · refine { hp with fees := ?_ }
    show |d.shadow_total_fees max_position_usd -
      (d.total_fees - (discrepancy_threshold + short / 2))| ≤ discrepancy_threshold
    rw [h.fees, abs_le]
    constructor <;> linarith

/-- The audit tells the reported numbers from altered ones exactly when nothing is short. -/
theorem ShortBy.agrees_iff (h : ShortBy max_position_usd short d) (hshort : 0 ≤ short) :
    (Passes max_position_usd d ∧ ∀ d', Altered d d' → ¬ Passes max_position_usd d') ↔
      ¬ 0 < short := by
  constructor
  · intro ⟨hp, hall⟩ hpos
    obtain ⟨d', ha, hp'⟩ := h.altered_passes hpos ((h.passes_iff hshort).1 hp)
    exact hall d' ha hp'
  · intro hnot
    obtain rfl : short = 0 := le_antisymm (not_lt.1 hnot) hshort
    refine ⟨(h.passes_iff le_rfl).2 ?_, fun d' ha => h.not_passes_of_altered ha⟩
    rw [discrepancy_threshold]
    norm_num

end Short

/-- A leg of an opportunity that is built costs less than a dollar. -/
theorem asks_lt_one {yes no : PricePoint} (hyes : 0 < yes.yes_ask) (hno : 0 < no.no_ask)
    (hgross : 0 < Scanner.gross_edge yes no) : (yes.yes_ask : ℚ) < 1 ∧ (no.no_ask : ℚ) < 1 := by
  have hyes' : (0 : ℚ) < yes.yes_ask := NNRat.cast_pos.2 hyes
  have hno' : (0 : ℚ) < no.no_ask := NNRat.cast_pos.2 hno
  rw [Scanner.gross_edge] at hgross
  constructor <;> linarith

/-- A size within the scanner's limits is within the auditor's. -/
theorem le_compute_position_size {cfg : ScannerConfig} {balances : Scanner.Balances}
    {yes no : PricePoint} {qty : ℕ} (hyes : 0 < yes.yes_ask) (hno : 0 < no.no_ask)
    (hqty : 0 < qty) (hsized : Scanner.Sized cfg balances yes no qty) :
    (qty : ℤ) ≤ compute_position_size cfg.max_position_usd yes.yes_ask no.no_ask
      (Scanner.early_liq yes no) := by
  have hn : (0 : ℤ) < qty := by exact_mod_cast hqty
  have hcost : (0 : ℚ) < yes.yes_ask + no.no_ask :=
    add_pos (NNRat.cast_pos.2 hyes) (NNRat.cast_pos.2 hno)
  -- The scanner divides by no less than the auditor does.
  have hcapital : (qty : ℤ) ≤ whole (cfg.max_position_usd / (yes.yes_ask + no.no_ask)) :=
    (le_whole_div_iff hn hcost).2 hsized.cost
  have hliquid : (qty : ℤ) ≤ whole (max (Scanner.early_liq yes no : ℚ) 1) := by
    rw [le_whole_iff hn, max_comm]
    exact_mod_cast hsized.liquidity
  simp only [compute_position_size, if_neg (not_le.2 hcost)]
  split
  · exact (le_min hcapital hliquid).trans (le_max_right _ _)
  · exact hcapital.trans (le_max_right _ _)

section Built

variable {cfg : ScannerConfig} {balances : Scanner.Balances} {timestamp : ℚ}
  {listing : Scanner.Listing} {mapping : Scanner.Mapping} {count : ℕ} {yes no : PricePoint}
  {built : ArbitrageOpportunity}

/-- The auditor is short of a tradable opportunity's fees by the shortfalls of its legs. -/
theorem short_by_of_tradable
    (hbuilt : Scanner.build_cross_platform_opportunity cfg balances timestamp listing yes no =
      some built)
    (htradable : (Scanner.resolved cfg mapping count built).status = .tradable) :
    ShortBy cfg.max_position_usd (shortfall yes yes.yes_ask + shortfall no no.no_ask)
      (to_audit_dict (Scanner.resolved cfg mapping count built)) := by
  have hsized := (Scanner.well_sized_of_tradable hbuilt htradable).size
  obtain ⟨hb, rfl⟩ := Scanner.build_eq_some_iff.1 hbuilt
  clear hbuilt htradable
  replace hsized : Scanner.Sized cfg balances yes no (Scanner.suggested_qty cfg balances yes no) :=
    hsized
  have hpos : 0 < Scanner.suggested_qty cfg balances yes no := Nat.pos_of_ne_zero hb.qty
  -- From here on the quantity is any within the limits.
  generalize Scanner.suggested_qty cfg balances yes no = qty at hsized hpos ⊢
  have hlt := asks_lt_one hb.yes_ask hb.no_ask hb.gross
  have hyes := compute_fee_eq (p := yes) (NNRat.cast_pos.2 hb.yes_ask) hlt.1 hpos
  have hno := compute_fee_eq (p := no) (NNRat.cast_pos.2 hb.no_ask) hlt.2 hpos
  generalize hd : to_audit_dict (Scanner.resolved cfg mapping count
    (Scanner.opportunity_at cfg timestamp listing yes no qty)) = d
  -- The quantity the fees are derived at is the opportunity's own.
  have hqty : d.qty_for_fee cfg.max_position_usd = qty := by
    rw [← hd]
    show max (if qty = 0 then _ else qty) 1 = qty
    rw [if_neg hpos.ne']
    omega
  have hfees : d.shadow_total_fees cfg.max_position_usd =
      d.total_fees - (shortfall yes yes.yes_ask + shortfall no no.no_ask) := by
    rw [AuditDict.shadow_total_fees, AuditDict.shadow_fee_a, AuditDict.shadow_fee_b, hqty, ← hd]
    show compute_fee yes.platform yes.yes_ask qty (dict_rate yes.fee_rate) +
        compute_fee no.platform no.no_ask qty (dict_rate no.fee_rate) =
      (Scanner.yes_fee_total yes qty + Scanner.no_fee_total no qty) / qty - _
    rw [hyes, hno, Scanner.yes_fee_total, Scanner.no_fee_total]
    ring
  have hprofit : |d.max_profit_usd - d.expected_profit| ≤ discrepancy_threshold := by
    rw [← hd]
    refine (Decimal.abs_round_to_sub_le 4 _).trans ?_
    rw [discrepancy_threshold]
    norm_num
  exact
    { gross := by rw [← hd]; rfl
      qty := by
        rw [← hd]
        exact le_compute_position_size hb.yes_ask hb.no_ask hpos hsized
      fees := hfees
      net := by rw [← hd]; rfl
      cents := by rw [← hd]; rfl
      profit := hprofit }

/-- **Auditor and scanner agree except on a zero rate.** A tradable opportunity of the
    scanner passes the audit under the same position cap, and none that is altered beyond the
    thresholds does, if and only if neither leg is a Polymarket leg whose fee rate is given
    as zero. -/
theorem audit_agrees_iff
    (hbuilt : Scanner.build_cross_platform_opportunity cfg balances timestamp listing yes no =
      some built)
    (htradable : (Scanner.resolved cfg mapping count built).status = .tradable) :
    ((audit_opportunity cfg.max_position_usd
        (to_audit_dict (Scanner.resolved cfg mapping count built))).passed = true ∧
      ∀ d', Altered (to_audit_dict (Scanner.resolved cfg mapping count built)) d' →
        (audit_opportunity cfg.max_position_usd d').passed = false) ↔
      ¬ (zero_rate yes ∨ zero_rate no) := by
  have hshort := short_by_of_tradable hbuilt htradable
  obtain ⟨hb, -⟩ := Scanner.build_eq_some_iff.1 hbuilt
  have hlt := asks_lt_one hb.yes_ask hb.no_ask hb.gross
  have hyes : (0 : ℚ) < yes.yes_ask := NNRat.cast_pos.2 hb.yes_ask
  have hno : (0 : ℚ) < no.no_ask := NNRat.cast_pos.2 hb.no_ask
  have hyes_short := shortfall_nonneg (p := yes) hyes hlt.1
  have hno_short := shortfall_nonneg (p := no) hno hlt.2
  -- Shortfalls are not negative, so one of them is positive if the sum is.
  have hnone : 0 < shortfall yes yes.yes_ask + shortfall no no.no_ask ↔
      zero_rate yes ∨ zero_rate no := by
    rw [← shortfall_pos_iff hyes hlt.1, ← shortfall_pos_iff hno hlt.2]
    constructor
    · intro hsum
      by_contra hnot
      rw [not_or, not_lt, not_lt] at hnot
      linarith
    · rintro (h | h)
      · linarith
      · linarith
  rw [← hnone, ← hshort.agrees_iff (add_nonneg hyes_short hno_short)]
  simp only [← passed_iff, Bool.not_eq_true]

end Built

/-! ### A market without fees -/

/-- The pair of `house_opportunity`, with Polymarket charging nothing there. -/
def fee_free_opportunity : ArbitrageOpportunity :=
  Scanner.resolved Scanner.one_scan_config Scanner.confirmed_mapping 1
    (Scanner.opportunity_at Scanner.one_scan_config 1000 Scanner.house_market.listing
      Scanner.kalshi_quote (Scanner.polymarket_quote (some 0)) 40)

/-- `audit_agrees_iff` of that pair with the rate absent. -/
theorem audit_agrees_iff_absent_rate :
    ((audit_opportunity 100 (to_audit_dict
        (Scanner.resolved Scanner.one_scan_config Scanner.confirmed_mapping 1
          (Scanner.opportunity_at Scanner.one_scan_config 1000 Scanner.house_market.listing
            Scanner.kalshi_quote (Scanner.polymarket_quote none) 40)))).passed = true ∧
      ∀ d', Altered (to_audit_dict
        (Scanner.resolved Scanner.one_scan_config Scanner.confirmed_mapping 1
          (Scanner.opportunity_at Scanner.one_scan_config 1000 Scanner.house_market.listing
            Scanner.kalshi_quote (Scanner.polymarket_quote none) 40))) d' →
        (audit_opportunity 100 d').passed = false) ↔
      ¬ (zero_rate Scanner.kalshi_quote ∨ zero_rate (Scanner.polymarket_quote none)) := by
  have hbuilt : Scanner.build_cross_platform_opportunity Scanner.one_scan_config
      (.told fun _ => some 100) 1000 Scanner.house_market.listing Scanner.kalshi_quote
      (Scanner.polymarket_quote none) =
        some (Scanner.opportunity_at Scanner.one_scan_config 1000 Scanner.house_market.listing
          Scanner.kalshi_quote (Scanner.polymarket_quote none) 40) := by
    decide +kernel
  exact audit_agrees_iff hbuilt (by decide +kernel)

/-- **A tradable opportunity fails the audit.** The scanner charges the default rate on the
    Polymarket leg, one cent a contract, and the auditor, given a rate of zero, nothing. -/
theorem zero_rate_fails_audit :
    Scanner.build_cross_platform_opportunity Scanner.one_scan_config
        (.told fun _ => some 100) 1000 Scanner.house_market.listing Scanner.kalshi_quote
        (Scanner.polymarket_quote (some 0)) =
      some (Scanner.opportunity_at Scanner.one_scan_config 1000 Scanner.house_market.listing
        Scanner.kalshi_quote (Scanner.polymarket_quote (some 0)) 40) ∧
    fee_free_opportunity.status = .tradable ∧
    (audit_opportunity Scanner.one_scan_config.max_position_usd
      (to_audit_dict fee_free_opportunity)).passed = false := by
  refine ⟨?_, ?_, ?_⟩
  · decide +kernel
  · decide +kernel
  · decide +kernel

end Audit
