import Arbiter.Adapters.Unwind
import Arbiter.Stranded.InFlight
import Arbiter.Stranded.Mitigation
import Arbiter.Stranded.Review

/-! # The Loss Cut and the Order Sent

  The engine cuts the loss of a lot at its best bid, and only where the bracket of the
  lot's age bears what that sale loses. The sale goes out without the price: the adapter
  puts its own limit on it, a cent.

  The main result says for which lots the order sent keeps to the bracket as well.

  ## Contents

  - Section 1: what reaches the venues.
  - Section 2: the sales of the mitigation pass.
  - Section 3: the loss at the limit.
  - Section 4: the thresholds of production.
-/

namespace Stranded

open Effect Execution

/-! ## Section 1: The venues -/

/-- The call of the adapter that an order makes. -/
def MitigationOrder.unwind (order : MitigationOrder) : Unwind.Request where
  market_id := order.market_id
  side := order.side
  qty := order.qty

/-- A sale that reached a venue, as it was sent there. -/
structure Sale where
  platform : String
  order : MitigationOrder
  /-- The tick the adapter knows of the market. -/
  tick : ℚ
  wire : Unwind.Wire
  deriving DecidableEq

/-- The adapter sends the order of the sale. -/
def Sale.sent (us : Bool) (x : Sale) : Prop :=
  Unwind.Sends us x.tick x.platform x.order.unwind x.wire

/-- The world's answers are free. What is logged are the sales the adapters send: some are
    called off before that. -/
def sale_floor (us : Bool) : Env Call Answer (List Sale) where
  serve := fun log c _ log' =>
    match c with
    | .place_unwind_sell platform order =>
        log' = log ∨ ∃ tick wire, Sale.sent us ⟨platform, order, tick, wire⟩ ∧
          log' = ⟨platform, order, tick, wire⟩ :: log
    | _ => log' = log

/-! ## Section 2: The mitigation pass -/

section pass

variable {us : Bool} {cfg : Config} {s : Reconciler} {pos : StrandedPosition} {log : List Sale}

/-- What the pass sells of a lot is all of it, on its own venue. -/
structure SoldFrom (us : Bool) (pos : StrandedPosition) (x : Sale) : Prop where
  platform : x.platform = pos.platform
  order : x.order = close_order pos
  sent : x.sent us

/-- The log grows by sales of the lot only. -/
def SoldOnly (us : Bool) (pos : StrandedPosition) (log log' : List Sale) : Prop :=
  ∀ x ∈ log', x ∈ log ∨ SoldFrom us pos x

theorem SoldOnly.refl (pos : StrandedPosition) (log : List Sale) : SoldOnly us pos log log :=
  fun _ hx => .inl hx

theorem harmless_unsold {α : Type} {p : Recon α} (hp : p.Calls Harmless) (log : List Sale) :
    wp (sale_floor us) p (fun _ log' => log' = log) log := by
  have hkeep : ∀ log₁ c a log₂, Harmless c → (sale_floor us).serve log₁ c a log₂ →
      log₁ = log → log₂ = log := by
    intro log₁ c a log₂ hc hs h
    subst h
    cases c <;> first | exact hs | exact hc.elim
  exact hp.keeps hkeep rfl

theorem cum_cap_allows_harmless (qty : ℕ) : (cum_cap_allows cfg s pos qty).Calls Harmless := by
  unfold cum_cap_allows
  dsimp only
  simp only [calls_ite]
  refine ⟨fun _ => calls_pure _, fun _ => mark_close_attempt_harmless.bind fun s => ?_⟩
  rw [calls_ite]
  exact ⟨fun _ => (calls_send.2 trivial).bind fun _ => calls_pure _, fun _ => calls_pure _⟩

theorem submit_sold {qty : ℕ} {place : Recon Placement}
    (hplace : wp (sale_floor us) place (fun _ => SoldOnly us pos log) log) :
    wp (sale_floor us) (submit cfg s pos qty place) (fun _ => SoldOnly us pos log) log := by
  unfold submit
  rw [wp_bind]
  refine wp_mono (harmless_unsold (cum_cap_allows_harmless qty) log) fun r log₁ h₁ => ?_
  subst h₁
  obtain ⟨s₁, allowed⟩ := r
  dsimp only
  rw [wp_ite]
  refine ⟨fun _ => wp_pure.2 (.refl pos _), fun _ => ?_⟩
  rw [wp_bind]
  refine wp_mono hplace fun placement log₂ h₂ => ?_
  -- what follows the placement places nothing
  have hrest : ∀ {p : Recon Reconciler}, p.Calls Harmless →
      wp (sale_floor us) p (fun _ => SoldOnly us pos log₁) log₂ := fun hp =>
    wp_mono (harmless_unsold hp log₂) fun _ log₃ h₃ => h₃ ▸ h₂
  cases placement with
  | returned placed =>
    exact hrest (mark_close_attempt_harmless.bind fun s =>
      (calls_send.2 trivial).bind fun _ => calls_pure _)
  | raised err accepted => exact hrest mark_close_attempt_harmless

theorem close_lot_sold :
    wp (sale_floor us) (close_lot cfg s pos) (fun _ => SoldOnly us pos log) log := by
  refine submit_sold ?_
  rw [wp_send]
  rintro _ log' (rfl | ⟨tick, wire, hsent, rfl⟩) x hx
  · exact .inl hx
  · rcases List.mem_cons.mp hx with rfl | hx
    · exact .inr ⟨rfl, rfl, hsent⟩
    · exact .inl hx

theorem execute_complete_arb_sold (info : MissingLeg) :
    wp (sale_floor us) (execute_complete_arb cfg s pos info) (fun _ => SoldOnly us pos log)
      log := by
  have hmark : wp (sale_floor us) (mark_close_attempt s pos.key) (fun _ => SoldOnly us pos log)
      log := wp_mono (harmless_unsold mark_close_attempt_harmless log) fun _ _ h => h ▸ .refl pos _
  have hbuy : wp (sale_floor us) (submit cfg s pos info.qty
      (.send (Call.place_fok info.venue (complete_order pos info))))
      (fun _ => SoldOnly us pos log) log := by
    refine submit_sold ?_
    rw [wp_send]
    rintro _ log' hs
    exact (show log' = log from hs) ▸ .refl pos _
  unfold execute_complete_arb
  simp only [wp_ite]
  refine ⟨fun _ => hmark, fun _ => ⟨fun _ => ?_, fun _ => hbuy⟩⟩
  rw [wp_bind, wp_send]
  rintro quotes log₁ hs
  rw [show log₁ = log from hs, wp_ite]
  exact ⟨fun _ => hbuy, fun _ => hmark⟩

theorem act_on_sold :
    wp (sale_floor us) (act_on cfg s pos) (fun _ => SoldOnly us pos log) log := by
  have hnothing : wp (sale_floor us) (.ret s) (fun _ => SoldOnly us pos log) log :=
    wp_ret.2 (.refl pos log)
  unfold act_on
  split
  case h_1 decision _ _ =>
    unfold execute_decision
    split
    case h_1 info _ _ => exact execute_complete_arb_sold info
    case h_2 =>
      unfold execute_close_now
      rw [wp_ite]
      refine ⟨fun _ => ?_, fun _ => close_lot_sold⟩
      exact wp_mono (harmless_unsold mark_close_attempt_harmless log) fun _ _ h => h ▸ .refl pos _
    case h_3 => exact hnothing
  case h_2 =>
    unfold maybe_auto_close
    rw [wp_ite]
    exact ⟨fun _ => close_lot_sold, fun _ => hnothing⟩

theorem mitigate_one_sold :
    wp (sale_floor us) (mitigate_one cfg s pos) (fun _ => SoldOnly us pos log) log := by
  have hnothing : ∀ log₁, log₁ = log →
      wp (sale_floor us) (pure s) (fun _ => SoldOnly us pos log) log₁ :=
    fun log₁ h => wp_pure.2 (h ▸ .refl pos _)
  have hexecutions : (active_executions cfg).Calls Harmless := by
    unfold active_executions
    rw [calls_ite]
    exact ⟨fun _ => calls_send.2 trivial, fun _ => calls_ret _⟩
  unfold mitigate_one
  rw [wp_ite]
  refine ⟨fun _ => hnothing log rfl, fun _ => ?_⟩
  rw [wp_bind]
  refine wp_mono (harmless_unsold hexecutions log) fun executions log₁ h₁ => ?_
  subst h₁
  rw [wp_ite]
  refine ⟨fun _ => hnothing _ rfl, fun _ => ?_⟩
  rw [wp_bind, wp_send]
  rintro now log₂ hs
  rw [show log₂ = log₁ from hs, wp_ite]
  exact ⟨fun _ => act_on_sold, fun _ => hnothing _ rfl⟩

theorem mitigate_all_sold (lots : List StrandedPosition) :
    wp (sale_floor us) (mitigate_all cfg lots s)
      (fun _ log' => ∀ x ∈ log', x ∈ log ∨ ∃ pos ∈ lots, SoldFrom us pos x) log := by
  induction lots generalizing s log with
  | nil => exact wp_pure.2 fun _ hx => .inl hx
  | cons pos lots ih =>
    unfold mitigate_all
    rw [wp_bind]
    refine wp_mono mitigate_one_sold fun s₁ log₁ h₁ => ?_
    refine wp_mono ih fun _ log₂ h₂ x hx => ?_
    rcases h₂ x hx with hold | ⟨other, hother, hsold⟩
    · exact (h₁ x hold).imp id fun hsold => ⟨pos, List.mem_cons_self, hsold⟩
    · exact .inr ⟨other, List.mem_cons_of_mem _ hother, hsold⟩

/-- A sale of the pass is of the lot that is tracked under its key. -/
theorem mitigate_sold {deferred : Bool} {s' : Reconciler} {log' : List Sale} {x : Sale}
    (hrun : Exec (sale_floor us) (mitigate cfg deferred s) [] s' log') (hx : x ∈ log')
    (hlot : s.tracked.lookup x.order.strand = some pos) : SoldFrom us pos x := by
  have hsold : wp (sale_floor us) (mitigate cfg deferred s)
      (fun _ log' => ∀ x ∈ log', ∃ pos ∈ s.tracked.entries, SoldFrom us pos x) [] := by
    unfold mitigate
    rw [wp_ite]
    refine ⟨fun _ => wp_mono (mitigate_all_sold _) fun _ log' h x hx => ?_, fun _ => ?_⟩
    · exact (h x hx).resolve_left List.not_mem_nil
    · exact wp_ret.2 fun _ hx => absurd hx List.not_mem_nil
  obtain ⟨other, hother, hfrom⟩ := hsold _ _ hrun x hx
  have hkey : x.order.strand = other.key := by rw [hfrom.order]; rfl
  rw [hkey, Tracker.lookup_eq_some_iff.mpr ⟨hother, rfl⟩, Option.some_inj] at hlot
  exact hlot ▸ hfrom

end pass

/-! ## Section 3: The loss at the limit -/

/-- What the sale realises of its lot if all of it is sold at the limit: the cost that does
    not come back, net of the fees. -/
def Sale.loss (x : Sale) (pos : StrandedPosition) : ℚ :=
  let limit := x.wire.limit x.order.side
  |pos.cost_basis_usd| - (x.wire.qty * limit - estimate_close_fees x.platform limit x.wire.qty)

/-- That is within the bracket of the age. -/
def Sale.WithinCap (cfg : MitigationConfig) (pos : StrandedPosition) (age_seconds : ℚ)
    (x : Sale) : Prop :=
  x.loss pos ≤ cfg.max_loss_pct age_seconds * |pos.cost_basis_usd|

instance (cfg : MitigationConfig) (pos : StrandedPosition) (age_seconds : ℚ) (x : Sale) :
    Decidable (x.WithinCap cfg pos age_seconds) := by
  unfold Sale.WithinCap; infer_instance

/-- The lot cost so little that a cent for each contract pays the fees and the part of the
    cost the bracket does not write off. `cent` is the cent on the market's tick. -/
def CentCovers (cfg : MitigationConfig) (pos : StrandedPosition) (cent age_seconds : ℚ) : Prop :=
  (1 - cfg.max_loss_pct age_seconds) * |pos.cost_basis_usd| +
    estimate_close_fees pos.platform cent pos.contracts ≤ cent * pos.contracts

section limit

variable {us : Bool} {cfg : Config} {s s' : Reconciler} {pos : StrandedPosition} {log : List Sale}
  {deferred : Bool} {sale : Sale}

theorem SoldFrom.loss_eq (h : SoldFrom us pos sale) :
    sale.loss pos =
      let cent := Unwind.exit_limit us sale.tick pos.platform pos.side
      |pos.cost_basis_usd| - (pos.contracts * cent -
        estimate_close_fees pos.platform cent pos.contracts) := by
  have hlimit := h.sent.limit_eq
  have hqty := h.sent.qty_eq
  have hside : sale.order.side = pos.side := by rw [h.order]; rfl
  have hcontracts : sale.order.unwind.qty = pos.contracts := by rw [h.order]; rfl
  have hunwind : sale.order.unwind.side = sale.order.side := rfl
  rw [hunwind, hside, h.platform] at hlimit
  unfold Sale.loss
  dsimp only
  rw [hside, hlimit, hqty, hcontracts, h.platform]

/-- **When the order sent keeps to the bracket**: only for a lot that a cent a contract
    pays for. -/
theorem loss_cut_iff (hrun : Exec (sale_floor us) (mitigate cfg deferred s) [] s' log)
    (hsale : sale ∈ log) (hlot : s.tracked.lookup sale.order.strand = some pos)
    (thresholds : MitigationConfig) (age_seconds : ℚ) :
    sale.WithinCap thresholds pos age_seconds ↔
      CentCovers thresholds pos (Unwind.exit_limit us sale.tick pos.platform pos.side)
        age_seconds := by
  unfold Sale.WithinCap CentCovers
  rw [(mitigate_sold hrun hsale hlot).loss_eq]
  dsimp only
  rw [sub_mul, one_mul]
  constructor <;> intro h <;> linarith

end limit

/-! ## Section 4: Production -/

/-- The thresholds of production: a lot that is closed costs more than five cents a
    contract, and half of that has to come back. -/
structure Shipped (cfg : MitigationConfig) : Prop where
  penny : 1 / 20 ≤ cfg.penny_cost_threshold_usd
  half : ∀ age_seconds, cfg.max_loss_pct age_seconds ≤ 1 / 2

theorem shipped_default : Shipped {} := by
  refine ⟨by norm_num, fun age_seconds => ?_⟩
  unfold MitigationConfig.max_loss_pct
  split_ifs <;> norm_num

section shipped

variable {eng : MitigationEngine} {pos : StrandedPosition} {now : ℚ}

theorem CutsLoss.cost_pos (h : CutsLoss eng pos now) : 0 < |pos.cost_basis_usd| := by
  rcases h.losing with ⟨-, hunder⟩ | ⟨hpos, -⟩
  · have hworth : 0 ≤ |pos.qty| * (if 0 < pos.best_bid then pos.best_bid else 0) := by
      rw [if_pos h.bid]
      exact mul_nonneg (abs_nonneg _) h.bid.le
    exact lt_of_le_of_lt hworth hunder
  · exact hpos

theorem CutsLoss.dear_contracts (hshipped : Shipped eng.config) (h : CutsLoss eng pos now) :
    pos.contracts * (1 / 20) < |pos.cost_basis_usd| := by
  have hcost := h.cost_pos
  have hfloor : (pos.contracts : ℚ) ≤ |pos.qty| := Nat.floor_le (abs_nonneg _)
  by_cases hqty : |pos.qty| ≤ 0
  · have hzero : (pos.contracts : ℚ) ≤ 0 := hfloor.trans hqty
    linarith
  · rw [not_le] at hqty
    have hshare : pos.cost_per_share = |pos.cost_basis_usd| / |pos.qty| := if_neg (not_le.mpr hqty)
    have hdear := h.dear (by rw [hshare]; exact div_pos hcost hqty)
    have hcents : 1 / 20 < |pos.cost_basis_usd| / |pos.qty| :=
      lt_of_le_of_lt hshipped.penny (hshare ▸ hdear)
    rw [lt_div_iff₀ hqty] at hcents
    linarith

/-- With the thresholds of production, and a limit of two and a half cents at most, no sale
    of a lot the engine closes keeps to the bracket. -/
theorem shipped_never_covers (hshipped : Shipped eng.config) (h : CutsLoss eng pos now)
    {cent : ℚ} (hcent : cent ≤ 1 / 40) (age_seconds : ℚ) :
    ¬ CentCovers eng.config pos cent age_seconds := by
  intro hcovers
  have hcost := h.cost_pos
  have hdear := h.dear_contracts hshipped
  have hcontracts : (0 : ℚ) ≤ pos.contracts := Nat.cast_nonneg _
  have hfees : 0 ≤ estimate_close_fees pos.platform cent pos.contracts := by
    unfold estimate_close_fees
    split
    · exact le_refl 0
    · exact Scanner.compute_fee_nonneg _ _ _ _
  -- half of the cost has to come back, and a contract brings half of what it cost at most
  have hback : |pos.cost_basis_usd| * (1 / 2) ≤
      (1 - eng.config.max_loss_pct age_seconds) * |pos.cost_basis_usd| := by
    have := mul_le_mul_of_nonneg_right (hshipped.half age_seconds) hcost.le
    linarith
  have hbrings : cent * pos.contracts ≤ pos.contracts * (1 / 20) * (1 / 2) := by
    have := mul_le_mul_of_nonneg_right hcent hcontracts
    linarith
  unfold CentCovers at hcovers
  linarith

end shipped

/-! ### Fifty contracts at twenty cents -/

/-- Fifty contracts at twenty cents, for which eleven are bid. -/
def fifty_contracts : StrandedPosition where
  platform := "kalshi"
  market_id := "KX-1"
  side := .yes
  qty := 50
  cost_basis_usd := 10
  mtm_usd := 11 / 2
  unrealized_usd := -9 / 2
  best_bid := 11 / 100
  best_ask := 12 / 100
  title := ""
  first_seen_ts := 0
  expiry_ts := none
  mitigation_decision := some close_it
  paired_qty := 0

/-- The engine of production. -/
def shipped_engine : MitigationEngine where
  config := {}
  has_price_store := true
  place_fok := fun _ => true
  place_unwind_sell := fun _ => true
  spelled := fun _ => ""

/-- What it reads 25 hours after the lot was first seen: no market completes the lot. -/
def a_day_later : Readings where
  now := 25 * 3600
  market_map := []
  quotes := fun _ => none

/-- A reconciler that follows the lot. -/
def fifty_followed : Reconciler :=
  { Reconciler.new with tracked := { entries := [fifty_contracts], nodup := by simp } }

/-- The sale of the lot, as Kalshi gets it. -/
def fifty_sale : Sale where
  platform := "kalshi"
  order := close_order fifty_contracts
  tick := 1 / 100
  wire := .kalshi (Unwind.kalshi (close_order fifty_contracts).unwind)

/-- A venue that fills nothing. -/
def fifty_oracle : Oracle Call Answer (List Sale) := fun log c =>
  (eight_contracts.reply (25 * 3600) close_it (.returned unfilled_sale) c,
    match c with
    | .place_unwind_sell platform order =>
        if platform = "kalshi" ∧ order = close_order fifty_contracts then fifty_sale :: log else log
    | _ => log)

theorem fifty_serves (log : List Sale) (c : Call) :
    (sale_floor true).serve log c (fifty_oracle log c).1 (fifty_oracle log c).2 := by
  cases c with
  | place_unwind_sell platform order =>
    show (if platform = "kalshi" ∧ order = close_order fifty_contracts then fifty_sale :: log
      else log) = log ∨ _
    split
    · next h =>
      obtain ⟨rfl, rfl⟩ := h
      exact .inr ⟨1 / 100, fifty_sale.wire, .kalshi, rfl⟩
    · exact .inl rfl
  | _ => rfl

theorem fifty_sold :
    ∃ s', Exec (sale_floor true) (mitigate lone_config false fifty_followed) [] s' [fifty_sale] := by
  have hrun := exec_play fifty_serves (mitigate lone_config false fifty_followed) []
  have hlog : (play fifty_oracle (mitigate lone_config false fifty_followed) []).2 =
      [fifty_sale] := by decide +kernel
  rw [hlog] at hrun
  exact ⟨_, hrun⟩

theorem loss_cut_fifty :
    fifty_sale.WithinCap {} fifty_contracts (25 * 3600) ↔
      CentCovers {} fifty_contracts (1 / 100) (25 * 3600) := by
  obtain ⟨s', hrun⟩ := fifty_sold
  exact loss_cut_iff hrun List.mem_cons_self (by decide +kernel) {} (25 * 3600)

/-- The engine closes the lot, for the half of its cost that the bid brings; the order that
    is sent is content with a twentieth. -/
theorem sold_for_a_cent :
    shipped_engine.decide a_day_later fifty_contracts = close_it ∧
      (∃ s', Exec (sale_floor true) (mitigate lone_config false fifty_followed) [] s'
        [fifty_sale]) ∧
      ¬ fifty_sale.WithinCap shipped_engine.config fifty_contracts
        (age_seconds fifty_contracts a_day_later.now) :=
  ⟨by decide +kernel, fifty_sold, by decide +kernel⟩

end Stranded
