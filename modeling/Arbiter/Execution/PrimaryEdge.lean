import Arbiter.Execution.EdgeFloor

/-! # The Edge of the Primary Order

  The gate of `_live_execution` looks at the quotes and the whole quantity. The depth
  check may then halve the quantity and the book walk replace the price; only a walk to a
  worse price, and the slippage buffer, look at the edge again. On Kalshi the fee of an
  order is rounded up to the cent, so fewer contracts pay more each.

  The result is an equivalence, for every order and every answer of the primary's book.
-/

namespace Execution

open Effect Scanner

variable {W : Type}

/-! ## Section 1: Primary orders on a log -/

/-- `_live_execution` over the outside `E`, with its primary order on a log. -/
def primary_logged (eng : Engine) (E : Env Call Answer W) :
    Env Proc Outcomes (W × List OrderRequest) where
  serve := fun w p r w' =>
    match p, r with
    | .outside c, a => E.serve w.1 c a w'.1 ∧ w'.2 = w.2
    | .place_order_for_leg platform req use_ioc stub, r =>
        Exec E (place_order_for_leg eng platform req use_ioc stub none) w.1 r w'.1 ∧
          w'.2 = req :: w.2
    | .execute_with_fallbacks leg skip, r =>
        Exec E (execute_with_fallbacks eng leg skip) w.1 r w'.1 ∧ w'.2 = w.2
    | .recover_one_leg_risk arb_id opp leg_yes leg_no, r =>
        Exec E (recover_one_leg_risk eng arb_id opp leg_yes leg_no) w.1 r w'.1 ∧ w'.2 = w.2

/-- The primary's book has depth for the quantities of `depth`, and walks to `book`. -/
def book_answers (side : Side) (depth : ℕ → Bool) (book : Bool × ℚ≥0) :
    (p : Proc) → Outcomes p → Prop
  | .outside (.check_depth _ _ _ qty), .ok answer => answer.1 = depth qty
  | .outside (.best_executable_price _ _ walked_side _), .ok walk =>
      walked_side = side → walk = book
  | _, _ => True

/-- The runs of `_live_execution` against such a book. -/
abbrev at_book (eng : Engine) (E : Env Call Answer W) (side : Side) (depth : ℕ → Bool)
    (book : Bool × ℚ≥0) : Env Proc Outcomes (W × List OrderRequest) :=
  (primary_logged eng E).restrict fun _ => book_answers side depth book

/-! ## Section 2: What the edge depends on -/

/-- The first of `try_qty`, `try_qty / 2`, … there is depth for. -/
def depth_left (depth : ℕ → Bool) : ℕ → ℕ → Option ℕ
  | 0, _ => none
  | fuel + 1, try_qty =>
      if try_qty = 0 then none
      else if depth try_qty then some try_qty
      else depth_left depth fuel (try_qty / 2)

/-- The quantity of the primary order, if there is to be one. -/
def qty_left (eng : Engine) (opp : Opportunity) (side : Side) (depth : ℕ → Bool) : Option ℕ :=
  if (eng.adapters (opp.platform side)).any Adapter.has_check_depth then
    depth_left depth (live_qty opp) (live_qty opp)
  else some (live_qty opp)

/-- The limit with the slippage ticks on it. -/
def lifted_price (cfg : LiveConfig) (opp : Opportunity) (side : Side) (price : ℚ≥0) : ℚ≥0 :=
  min (price + cfg.fok_slippage_ticks (opp.platform side) / 100) (99 / 100)

/-- The slippage buffer is applied to `price`. -/
def Buffered (cfg : LiveConfig) (opp : Opportunity) (side : Side) (qty : ℕ) (price : ℚ≥0) : Prop :=
  0 < cfg.fok_slippage_ticks (opp.platform side) ∧
    cfg.fok_buffer_min_net_cents ≤ net_edge_at opp side (lifted_price cfg opp side price) qty * 100

instance (cfg : LiveConfig) (opp : Opportunity) (side : Side) (qty : ℕ) (price : ℚ≥0) :
    Decidable (Buffered cfg opp side qty price) := by
  unfold Buffered
  infer_instance

theorem buffered_price_eq (cfg : LiveConfig) (opp : Opportunity) (side : Side) (qty : ℕ)
    (price : ℚ≥0) : buffered_price cfg opp side qty price =
      if Buffered cfg opp side qty price then lifted_price cfg opp side price else price := rfl

/-- Both legs' fees per contract, with `side` at `price` and the other at its quote. -/
def fees_per_pair (opp : Opportunity) (side : Side) (price : ℚ) (qty : ℕ) : ℚ :=
  fee_per opp side price qty + fee_per opp side.other (opp.price side.other) qty

/-- What the gate found above the floor, at the quotes and for the whole quantity. -/
def gate_margin (cfg : LiveConfig) (opp : Opportunity) (side : Side) : ℚ :=
  net_edge_at opp side (opp.price side) (live_qty opp) - edge_floor cfg opp

/-- The edge after fees at the limit is what the last check asked for: the buffer floor
    where the buffer is applied, else the pair's floor. -/
def KeepsEdge (eng : Engine) (cfg : LiveConfig) (opp : Opportunity) (side : Side)
    (book : Bool × ℚ≥0) (req : OrderRequest) : Prop :=
  (if Buffered cfg opp side req.qty (walked_price eng opp side book) then
      cfg.fok_buffer_min_net_cents
    else cfg.min_edge_for_pair opp.yes_platform opp.no_platform) ≤
    net_edge_at opp side req.price req.qty * 100

/-- The buffer is applied, or the book walks to a worse price than the quote, or the rise
    of the fees per contract since the gate, for the quantity there is depth for, is within
    the gate's margin and what the walk saves. -/
def EdgeCovered (eng : Engine) (cfg : LiveConfig) (opp : Opportunity) (side : Side)
    (depth : ℕ → Bool) (book : Bool × ℚ≥0) : Prop :=
  let price := walked_price eng opp side book
  ∀ qty, qty_left eng opp side depth = some qty →
    Buffered cfg opp side qty price ∨ opp.price side < price ∨
      fees_per_pair opp side price qty - fees_per_pair opp side (opp.price side) (live_qty opp) ≤
        gate_margin cfg opp side + (opp.price side - price)

theorem net_edge_at_eq (opp : Opportunity) (side : Side) (price : ℚ) (qty : ℕ) :
    net_edge_at opp side price qty =
      1 - price - opp.price side.other - fees_per_pair opp side price qty := by
  unfold net_edge_at fees_per_pair
  ring

/-- Below the quote and without the buffer, the third alternative is the floor. -/
theorem floor_le_iff (cfg : LiveConfig) (opp : Opportunity) (side : Side) (price : ℚ) (qty : ℕ) :
    cfg.min_edge_for_pair opp.yes_platform opp.no_platform ≤ net_edge_at opp side price qty * 100 ↔
      fees_per_pair opp side price qty - fees_per_pair opp side (opp.price side) (live_qty opp) ≤
        gate_margin cfg opp side + (opp.price side - price) := by
  rw [gate_margin, net_edge_at_eq, net_edge_at_eq, edge_floor]
  constructor
  · intro h
    linarith
  · intro h
    linarith

/-- What is known of the order: the quantity left, the walked price with or without the
    ticks, and the check of a worse price. -/
structure Primary (eng : Engine) (cfg : LiveConfig) (opp : Opportunity) (side : Side)
    (depth : ℕ → Bool) (book : Bool × ℚ≥0) (req : OrderRequest) : Prop where
  qty : qty_left eng opp side depth = some req.qty
  price : req.price = buffered_price cfg opp side req.qty (walked_price eng opp side book)
  worse : opp.price side < walked_price eng opp side book →
    cfg.min_edge_for_pair opp.yes_platform opp.no_platform ≤
      net_edge_at opp side (walked_price eng opp side book) req.qty * 100

theorem Primary.keeps_edge_iff {eng : Engine} {cfg : LiveConfig} {opp : Opportunity} {side : Side}
    {depth : ℕ → Bool} {book : Bool × ℚ≥0} {req : OrderRequest}
    (h : Primary eng cfg opp side depth book req) :
    KeepsEdge eng cfg opp side book req ↔ EdgeCovered eng cfg opp side depth book := by
  have hleft : EdgeCovered eng cfg opp side depth book ↔
      Buffered cfg opp side req.qty (walked_price eng opp side book) ∨
        opp.price side < walked_price eng opp side book ∨
        fees_per_pair opp side (walked_price eng opp side book) req.qty -
            fees_per_pair opp side (opp.price side) (live_qty opp) ≤
          gate_margin cfg opp side + (opp.price side - walked_price eng opp side book) := by
    constructor
    · intro hcovered
      exact hcovered req.qty h.qty
    · intro hcase qty hqty
      obtain rfl : req.qty = qty := Option.some.inj (h.qty.symm.trans hqty)
      exact hcase
  unfold KeepsEdge
  rw [hleft, h.price, buffered_price_eq]
  by_cases hbuf : Buffered cfg opp side req.qty (walked_price eng opp side book)
  · -- the check of the buffer is the property
    rw [if_pos hbuf, if_pos hbuf]
    exact ⟨fun _ => .inl hbuf, fun _ => hbuf.2⟩
  · rw [if_neg hbuf, if_neg hbuf, floor_le_iff]
    constructor
    · intro hkept
      exact .inr (.inr hkept)
    · intro hcase
      rcases hcase with hbuf' | hworse | hfees
      · exact absurd hbuf' hbuf
      · exact (floor_le_iff cfg opp side _ _).1 (h.worse hworse)
      · exact hfees

/-- With the whole quantity at the quote, the gate's check covers the order. -/
theorem edge_covered_of_unchanged {eng : Engine} {cfg : LiveConfig} {opp : Opportunity}
    {side : Side} {depth : ℕ → Bool} {book : Bool × ℚ≥0} (hgate : 0 ≤ gate_margin cfg opp side)
    (hwhole : qty_left eng opp side depth = some (live_qty opp))
    (hquote : walked_price eng opp side book = opp.price side) :
    EdgeCovered eng cfg opp side depth book := by
  intro qty hqty
  obtain rfl : live_qty opp = qty := Option.some.inj (hwhole.symm.trans hqty)
  right; right
  rw [hquote]
  linarith

/-! ## Section 3: The order of a run -/

section run

variable {eng : Engine} {cfg : LiveConfig} {arb_id : String} {opp : Opportunity} {side : Side}
  {depth : ℕ → Bool} {book : Bool × ℚ≥0} {E : Env Call Answer W} {w : W × List OrderRequest}
  {log : List OrderRequest}

/-- Not the primary order. -/
def NoPrimary : Proc → Prop
  | .place_order_for_leg .. => False
  | _ => True

theorem Quotes.noPrimary {p : Proc} (h : Quotes p) : NoPrimary p := by
  cases p with
  | place_order_for_leg => exact h
  | _ => trivial

theorem PlacesSecondary.noPrimary {p : Proc} (h : PlacesSecondary p) : NoPrimary p := by
  cases p with
  | place_order_for_leg => exact h
  | _ => trivial

theorem KeepsBooks.noPrimary {p : Proc} (h : KeepsBooks p) : NoPrimary p := by
  cases p with
  | place_order_for_leg => exact h
  | _ => trivial

/-- The log grows by the primary only. -/
private theorem keeps_log {α : Type} {p : Live α} (hp : p.Calls NoPrimary) (hw : w.2 = log) :
    wp (at_book eng E side depth book) p (fun _ w' => w'.2 = log) w := by
  refine hp.keeps (fun w₁ p r w₂ hno hs h => ?_) hw
  cases p with
  | outside c => exact hs.2.2.trans h
  | place_order_for_leg => exact hno.elim
  | execute_with_fallbacks => exact hs.2.2.trans h
  | recover_one_leg_risk => exact hs.2.2.trans h

/-- The halving finds what `depth_left` does. -/
private theorem find_depth_spec {platform market_id : String} (fuel try_qty : ℕ)
    (hw : w.2 = log) :
    wp (at_book eng E side depth book) (find_depth platform market_id side fuel try_qty)
      (fun r w' => (∀ qty, r = .ok qty → qty = depth_left depth fuel try_qty) ∧ w'.2 = log) w := by
  induction fuel generalizing try_qty w with
  | zero =>
    refine wp_ret.2 ⟨fun qty h => ?_, hw⟩
    exact (Except.ok.inj h).symm
  | succ fuel ih =>
    unfold find_depth depth_left
    rw [wp_ite]
    constructor
    · intro hzero
      rw [wp_pure, if_pos hzero]
      exact ⟨fun qty h => (Except.ok.inj h).symm, hw⟩
    · intro hpos
      rw [wp_bind, wp_send, if_neg hpos]
      intro answer w₁ hs
      have hlog : w₁.2 = log := hs.2.2.trans hw
      rcases answer with err | ⟨sufficient, best_price⟩
      · exact wp_pure.2 ⟨fun _ h => absurd h (by simp), hlog⟩
      · -- the book is the same at every question
        obtain rfl : sufficient = depth try_qty := hs.1
        show wp _ (if depth try_qty = true then _ else _) _ w₁
        rw [wp_ite]
        constructor
        · intro hdeep
          rw [wp_pure, if_pos hdeep]
          exact ⟨fun qty h => (Except.ok.inj h).symm, hlog⟩
        · intro hthin
          rw [if_neg hthin]
          exact ih (try_qty / 2) hlog

private theorem depth_gate_spec (hw : w.2 = log) :
    wp (at_book eng E side depth book)
      (depth_gate eng (opp.platform side) (opp.market_id side) side (live_qty opp))
      (fun r w' => (∀ qty, r = .ok qty → qty = qty_left eng opp side depth) ∧ w'.2 = log) w := by
  unfold depth_gate qty_left
  rw [wp_ite]
  constructor
  · intro hdepth
    rw [if_pos hdepth]
    exact find_depth_spec _ _ hw
  · intro hnone
    rw [wp_ret, if_neg hnone]
    exact ⟨fun qty h => (Except.ok.inj h).symm, hw⟩

/-- The walk comes back with the walked price, and has checked one that is worse. -/
private theorem walk_primary_spec (qty : ℕ) (hw : w.2 = log) :
    wp (at_book eng E side depth book) (walk_primary eng cfg opp side qty)
      (fun r w' => (∀ price, r = .ok (some price) → price = walked_price eng opp side book ∧
        (opp.price side < price → cfg.min_edge_for_pair opp.yes_platform opp.no_platform ≤
          net_edge_at opp side price qty * 100)) ∧ w'.2 = log) w := by
  unfold walk_primary walked_price
  rw [wp_ite]
  constructor
  · intro hwalks
    rw [wp_bind, wp_send]
    intro answer w₁ hs
    have hlog : w₁.2 = log := hs.2.2.trans hw
    match answer, hs.1 with
    | .error err, _ => exact wp_pure.2 ⟨fun _ h => absurd h (by simp), hlog⟩
    | .ok (fillable, exec_price), hobs =>
      obtain rfl : (fillable, exec_price) = book := hobs rfl
      simp only [wp_ite, wp_pure, hwalks, true_and]
      constructor
      · intro hfound
        constructor
        -- a worse price that misses the floor ends the walk without a price
        · intro _
          exact ⟨fun price h => absurd h (by simp), hlog⟩
        · intro hchecked
          refine ⟨fun price h => ?_, hlog⟩
          obtain rfl : exec_price = price := by simpa using h
          rw [if_pos hfound]
          refine ⟨rfl, fun hworse => ?_⟩
          rw [not_and, not_lt] at hchecked
          exact hchecked hworse
      · intro hmissing
        refine ⟨fun price h => ?_, hlog⟩
        obtain rfl : opp.price side = price := by simpa using h
        rw [if_neg hmissing]
        exact ⟨rfl, fun hworse => absurd hworse (lt_irrefl _)⟩
  · intro hnever
    rw [wp_pure]
    refine ⟨fun price h => ?_, hw⟩
    obtain rfl : opp.price side = price := by simpa using h
    rw [if_neg fun hall => hnever hall.1]
    exact ⟨rfl, fun hworse => absurd hworse (lt_irrefl _)⟩

/-- The log has at most the primary order. -/
def Logged (eng : Engine) (cfg : LiveConfig) (opp : Opportunity) (side : Side)
    (depth : ℕ → Bool) (book : Bool × ℚ≥0) (log : List OrderRequest) : Prop :=
  ∀ req ∈ log, Primary eng cfg opp side depth book req

private theorem keeps_logged {α : Type} {p : Live α} (hp : p.Calls NoPrimary)
    (hw : Logged eng cfg opp side depth book w.2) :
    wp (at_book eng E side depth book) p
      (fun _ w' => Logged eng cfg opp side depth book w'.2) w := by
  refine wp_mono (keeps_log hp rfl) fun _ w' hlog => ?_
  rw [hlog]
  exact hw

private theorem place_legs_logged (hside : side = primary_side cfg opp)
    (hw : w.2 = []) :
    wp (at_book eng E side depth book) (place_legs eng cfg arb_id opp)
      (fun _ w' => Logged eng cfg opp side depth book w'.2) w := by
  have hempty : ∀ w : W × List OrderRequest, w.2 = [] →
      Logged eng cfg opp side depth book w.2 := by
    intro w hnil req hreq
    rw [hnil] at hreq
    exact absurd hreq (by simp)
  subst hside
  unfold place_legs
  refine wp_bind.2 (wp_mono (depth_gate_spec hw) fun depth_answer w₁ hdepth => ?_)
  obtain ⟨hqty, hw₁⟩ := hdepth
  rcases depth_answer with err | (_ | effective_qty)
  · exact wp_pure.2 (hempty _ hw₁)
  · exact wp_pure.2 (hempty _ hw₁)
  · have hleft := hqty _ rfl
    refine wp_bind.2 (wp_mono (walk_primary_spec effective_qty hw₁) fun walk w₂ hwalk => ?_)
    obtain ⟨hprice, hw₂⟩ := hwalk
    rcases walk with err | (_ | price)
    · exact wp_pure.2 (hempty _ hw₂)
    · exact wp_pure.2 (hempty _ hw₂)
    · obtain ⟨rfl, hworse⟩ := hprice price rfl
      rw [wp_bind, place_primary, wp_send]
      intro answer w₃ hs
      -- the one order that is put on the log
      have hprimary : Logged eng cfg opp (primary_side cfg opp) depth book w₃.2 := by
        rw [hs.2.2, hw₂]
        intro req hreq
        obtain rfl := List.mem_singleton.1 hreq
        exact ⟨hleft.symm, rfl, hworse⟩
      cases answer with
      | error err => exact wp_pure.2 hprimary
      | ok primary_leg =>
        refine wp_bind.2 (wp_mono (keeps_logged ?_ hprimary) fun _ _ h => wp_pure.2 h)
        exact place_secondary_calls.mono fun _ => PlacesSecondary.noPrimary

private theorem execute_legs_logged (hside : side = primary_side cfg opp) (hw : w.2 = []) :
    wp (at_book eng E side depth book) (execute_legs eng cfg arb_id opp)
      (fun _ w' => Logged eng cfg opp side depth book w'.2) w := by
  unfold execute_legs
  refine wp_bind.2 (wp_mono (keeps_log (balance_gate_calls.mono fun _ => Quotes.noPrimary) hw)
    fun short w₁ hw₁ => ?_)
  have hnone : Logged eng cfg opp side depth book w₁.2 := by
    rw [hw₁]
    exact fun _ hreq => absurd hreq (by simp)
  cases short with
  | some platform =>
    rw [wp_bind, wp_send]
    intro _ w₂ hs
    rw [wp_pure, hs.2.2]
    exact hnone
  | none =>
    simp only [wp_ite]
    exact ⟨fun _ => wp_pure.2 hnone, fun _ => place_legs_logged hside hw₁⟩

end run

/-! ## Section 4: The equivalence -/

/-- **The primary order keeps its edge exactly when the fees are covered**: in every run
    of `_live_execution` against a book that has depth for `depth` and walks to `book`, the
    edge at the limit of the primary order, for its quantity, reaches the buffer's floor or
    the pair's if and only if the buffer is applied, the walk was worse than the quote, or
    the fees per contract have not risen past the margin of the gate. -/
theorem primary_keeps_edge_iff (E : Env Call Answer W) (eng : Engine) (cfg : LiveConfig)
    (arb_id : String) (opp : Opportunity) (depth : ℕ → Bool) (book : Bool × ℚ≥0) (w w' : W)
    (r : Except String (Option ArbExecution)) (log : List OrderRequest)
    (hrun : Exec (at_book eng E (primary_side cfg opp) depth book)
      (live_execution eng cfg arb_id opp) (w, []) r (w', log)) (req : OrderRequest)
    (hreq : req ∈ log) :
    KeepsEdge eng cfg opp (primary_side cfg opp) book req ↔
      EdgeCovered eng cfg opp (primary_side cfg opp) depth book := by
  have hspec : wp (at_book eng E (primary_side cfg opp) depth book)
      (live_execution eng cfg arb_id opp)
      (fun _ w' => Logged eng cfg opp (primary_side cfg opp) depth book w'.2) (w, []) := by
    unfold live_execution
    refine wp_bind.2 (wp_mono (execute_legs_logged rfl rfl) fun legs w₁ h₁ => ?_)
    match legs with
    | .error err => exact wp_pure.2 h₁
    | .ok none => exact wp_pure.2 h₁
    | .ok (some placed) =>
      refine wp_bind.2 (wp_mono (keeps_logged (settle_calls.mono fun _ => KeepsBooks.noPrimary) h₁)
        fun execution w₂ h₂ => ?_)
      cases placed.secondary_exception with
      | none => exact wp_pure.2 h₂
      | some err => exact wp_pure.2 h₂
  exact (hspec r (w', log) hrun req hreq).keeps_edge_iff

/-- Two contracts, YES on Kalshi at 23 cents against NO on Polymarket at 67.5. -/
def two_across : Opportunity :=
  { ten_across with yes_price := 23 / 100, no_price := 27 / 40, suggested_qty := 2 }

/-- A floor of seven cents, and no slippage ticks. -/
def bare_touch_config : LiveConfig where
  min_platform_reserve_usd := 20
  min_edge_for_pair := fun _ _ => 7
  kalshi_first := false
  fok_slippage_ticks := fun _ => 0
  fok_buffer_min_net_cents := 2
  primary_use_ioc := fun _ => true
  inter_leg_delay_ms := 0

/-- Polymarket has depth for a single contract. -/
def one_deep (qty : ℕ) : Bool := qty ≤ 1

/-- What is sent there. -/
def one_across_primary : OrderRequest where
  arb_id := "ARB-000001"
  market_id := "0x1"
  canonical_id := "mkt-1"
  side := .no
  price := 27 / 40
  qty := 1

/-- The venue answers it with an error. -/
theorem two_across_run :
    Exec (at_book across_engine anything .no one_deep (false, 0))
      (live_execution across_engine bare_touch_config "ARB-000001" two_across) ((), [])
      (.error "503") ((), [one_across_primary]) := by
  have hbalance : ∀ platform, (at_book across_engine anything .no one_deep (false, 0)).serve
      ((), []) (.outside (.balance platform)) none ((), []) := fun _ => ⟨trivial, trivial, rfl⟩
  have hthin : (at_book across_engine anything .no one_deep (false, 0)).serve ((), [])
      (.outside (.check_depth "polymarket" "0x1" .no 2)) (.ok (false, 27 / 40)) ((), []) :=
    ⟨rfl, trivial, rfl⟩
  have hdeep : (at_book across_engine anything .no one_deep (false, 0)).serve ((), [])
      (.outside (.check_depth "polymarket" "0x1" .no 1)) (.ok (true, 27 / 40)) ((), []) :=
    ⟨rfl, trivial, rfl⟩
  have hwalk : (at_book across_engine anything .no one_deep (false, 0)).serve ((), [])
      (.outside (.best_executable_price "polymarket" "0x1" .no 1)) (.ok (false, 0)) ((), []) :=
    ⟨fun _ => rfl, trivial, rfl⟩
  have hunblocked : anything.serve () .db_write_failed false () := trivial
  have hfailed : anything.serve () (.place_ioc "polymarket" one_across_primary)
      (.error (.raised "503")) () := trivial
  have hplaced : (at_book across_engine anything .no one_deep (false, 0)).serve ((), [])
      (.place_order_for_leg "polymarket" one_across_primary true
        (some ⟨two_across, some (1 / 5)⟩)) (.error "503") ((), [one_across_primary]) :=
    ⟨trivial, .call hunblocked (.call hfailed (.ret _ _)), rfl⟩
  have hedge : ¬ net_edge_at two_across .yes (23 / 100 : ℚ≥0) 2 * 100 < 7 := by decide +kernel
  refine .call (hbalance "kalshi") (.call (hbalance "polymarket") ?_)
  show Exec _ ((if net_edge_at two_across .yes (23 / 100 : ℚ≥0) 2 * 100 < 7 then _ else _) >>= _)
    _ _ _
  rw [if_neg hedge]
  exact .call hthin (.call hdeep (.call hwalk (.call hplaced (.ret _ _))))

/-- The order of that run. -/
theorem primary_keeps_edge_iff_two_across :
    KeepsEdge across_engine bare_touch_config two_across .no (false, 0) one_across_primary ↔
      EdgeCovered across_engine bare_touch_config two_across .no one_deep (false, 0) :=
  primary_keeps_edge_iff anything across_engine bare_touch_config "ARB-000001" two_across one_deep
    (false, 0) () () _ [one_across_primary] two_across_run one_across_primary
    (List.mem_singleton_self _)

/-- Two contracts clear the floor at 7.12 cents each; the one that is sent pays half a cent
    more in fees and leaves 6.62. -/
theorem halved_primary_below_floor :
    ¬ ∀ (E : Env Call Answer Unit) (eng : Engine) (cfg : LiveConfig) (arb_id : String)
        (opp : Opportunity) (depth : ℕ → Bool) (book : Bool × ℚ≥0)
        (r : Except String (Option ArbExecution)) (log : List OrderRequest),
      Exec (at_book eng E (primary_side cfg opp) depth book)
        (live_execution eng cfg arb_id opp) ((), []) r ((), log) →
      ∀ req ∈ log, KeepsEdge eng cfg opp (primary_side cfg opp) book req := by
  intro h
  have hkept := h anything across_engine bare_touch_config "ARB-000001" two_across one_deep
    (false, 0) _ [one_across_primary] two_across_run one_across_primary
    (List.mem_singleton_self _)
  revert hkept
  unfold KeepsEdge
  decide +kernel

end Execution
