import Arbiter.Execution.Live
import Arbiter.Execution.Sends

/-! # The Edge Floor of the Secondary Leg

  Every secondary order goes out at a ceiling that is computed once, from what the
  primary was filled at. The ceiling sets aside the secondary's fee at the walked
  price; the order pays the fee at its limit.

  ## Contents

  - Section 1: `_live_execution` with its secondary orders on a log.
  - Section 2: the limits of the chain.
  - Section 3: a limit keeps the floor exactly when the fees set aside cover its own.
  - Section 4: every order of every run is such a limit.
  - Section 5: a run whose first order is below the floor.
-/

namespace Execution

open Effect

variable {W : Type}

/-! ## Section 1: Secondary orders on a log -/

/-- The order a call sends, if it sends one. -/
def Call.submits : Call → Option OrderRequest
  | .place_fok _ req => some req
  | .place_ioc _ req => some req
  | _ => none

/-- `E`, with every order sent put on a log, newest first. -/
def submitting (E : Env Call Answer W) : Env Call Answer (W × List OrderRequest) where
  serve := fun w c a w' => E.serve w.1 c a w'.1 ∧ w'.2 = c.submits.toList ++ w.2

/-- `_live_execution` over the outside `E`, with the orders of the secondary chain on a
    log. -/
def live_submitting (eng : Engine) (E : Env Call Answer W) :
    Env Proc Outcomes (W × List OrderRequest) where
  serve := fun w p r w' =>
    match p, r with
    | .outside c, a => E.serve w.1 c a w'.1 ∧ w'.2 = w.2
    | .place_order_for_leg platform req use_ioc stub, r =>
        Exec E (place_order_for_leg eng platform req use_ioc stub none) w.1 r w'.1 ∧ w'.2 = w.2
    | .execute_with_fallbacks leg skip, r =>
        Exec (submitting E) (execute_with_fallbacks eng leg skip) w r w'
    | .recover_one_leg_risk arb_id opp leg_yes leg_no, r =>
        Exec E (recover_one_leg_risk eng arb_id opp leg_yes leg_no) w.1 r w'.1 ∧ w'.2 = w.2

/-- The primary order comes back as `primary` and the walk of the secondary book as
    `book`, where they do not raise. -/
def observes (side : Side) (primary : Leg) (book : Bool × ℚ≥0) : (p : Proc) → Outcomes p → Prop
  | .place_order_for_leg .., .ok leg => leg = primary
  | .outside (.best_executable_price _ _ walked_side _), .ok walk => walked_side = side → walk = book
  | _, _ => True

/-- The runs of `_live_execution` in which the primary is filled as `primary` and the
    secondary book walks to `book`. -/
abbrev observed (eng : Engine) (E : Env Call Answer W) (side : Side) (primary : Leg)
    (book : Bool × ℚ≥0) : Env Proc Outcomes (W × List OrderRequest) :=
  (live_submitting eng E).restrict fun _ => observes side primary book

/-- The id of the final requote. -/
def final_requote_id (eng : Engine) (arb_id : String) : String :=
  arb_id ++ "-RQ" ++ toString eng.secondary_requote_attempts

/-! ## Section 2: Limits -/

/-- `MIN_NET_EDGE_CENTS` of the pair, in dollars. -/
def edge_floor (cfg : LiveConfig) (opp : Opportunity) : ℚ :=
  cfg.min_edge_for_pair opp.yes_platform opp.no_platform / 100

/-- The edge an order is to keep: the floor, and nothing on the final requote. -/
def rung_floor (edge_floor : ℚ) (final : Bool) : ℚ := if final then 0 else edge_floor

/-- How far past what is affordable an order goes: by the floor on the final requote. -/
def rung_lift (edge_floor : ℚ) (final : Bool) : ℚ := if final then max edge_floor 0 else 0

/-- The price the ceiling is computed at: the walk of the secondary book where it finds
    the quantity, else the quote. -/
def walked_price (eng : Engine) (opp : Opportunity) (side : Side) (book : Bool × ℚ≥0) : ℚ≥0 :=
  if (eng.adapters (opp.platform side)).any Adapter.has_best_executable_price ∧
      book.1 ∧ 0 < book.2 then book.2
  else opp.price side

/-- What the primary's fill, its fee and the floor leave for the secondary. -/
def room (cfg : LiveConfig) (opp : Opportunity) (side : Side) (primary : Leg) : ℚ :=
  1 - primary.fill_price - fee_per opp side.other primary.fill_price primary.fill_qty -
    edge_floor cfg opp

/-- The secondary's fee that the ceiling sets aside: its fee at the walked price, but
    never more than the room there is. -/
def set_aside (cfg : LiveConfig) (opp : Opportunity) (side : Side) (primary : Leg)
    (walked : ℚ≥0) (qty : ℕ) : ℚ :=
  min (fee_per opp side walked qty) (room cfg opp side primary)

/-- The fees of both legs per contract, with the secondary at `limit`. -/
def pair_fees (opp : Opportunity) (side : Side) (primary : Leg) (limit : ℚ) (qty : ℕ) : ℚ :=
  fee_per opp side.other primary.fill_price qty + fee_per opp side limit qty

/-- The ceiling, as a number. -/
theorem coe_max_affordable {cfg : LiveConfig} {opp : Opportunity} {side : Side} {primary : Leg}
    {qty : ℕ} {walked : ℚ≥0} (hfilled : primary.fill_qty ≠ 0) :
    (max_affordable cfg opp primary side qty walked : ℚ) =
      room cfg opp side primary - set_aside cfg opp side primary walked qty := by
  have hmax : (max_affordable cfg opp primary side qty walked : ℚ) =
      max (room cfg opp side primary - fee_per opp side walked qty) 0 := by
    simp only [max_affordable, if_neg hfilled, room, edge_floor]
    show max _ _ = _
    congr 1
    ring
  rw [hmax, set_aside]
  rcases le_total (fee_per opp side walked qty) (room cfg opp side primary) with h | h
  · rw [min_eq_left h, max_eq_left (by linarith)]
  · rw [min_eq_right h, max_eq_right (by linarith), sub_self]

/-- Break-even, as the ceiling of the final requote. -/
theorem coe_ceiling {leg : SecondaryLeg} {floor : ℚ} {final : Bool}
    (hleg : leg.break_even_price = some (leg.max_affordable_price + floor : ℚ).toNNRat) :
    (leg.ceiling final : ℚ) = leg.max_affordable_price + rung_lift floor final := by
  have hpos : (0 : ℚ) ≤ leg.max_affordable_price := leg.max_affordable_price.2
  simp only [SecondaryLeg.ceiling, hleg, rung_lift]
  cases final with
  | false => simp
  | true =>
    rcases le_total floor 0 with h | h
    · have hnot : ¬ leg.max_affordable_price < (leg.max_affordable_price + floor : ℚ).toNNRat := by
        rw [Rat.lt_toNNRat_iff_coe_lt]
        linarith
      simp [hnot, max_eq_right h]
    · rw [max_eq_left h]
      by_cases hlt : leg.max_affordable_price < (leg.max_affordable_price + floor : ℚ).toNNRat
      · simp only [hlt, and_self, if_true]
        exact Rat.coe_toNNRat _ (by linarith)
      · rw [Rat.lt_toNNRat_iff_coe_lt] at hlt
        have hzero : floor = 0 := by linarith
        simp [hzero]

/-! ## Section 3: When a limit keeps the floor -/

/-- An order leaves at least its floor of the dollar when it fills at its limit. -/
def KeepsFloor (cfg : LiveConfig) (opp : Opportunity) (side : Side) (primary : Leg)
    (final : Bool) (req : OrderRequest) : Prop :=
  rung_floor (edge_floor cfg opp) final ≤
    1 - primary.fill_price - req.price - pair_fees opp side primary req.price req.qty

/-- The fees at the limit, for the quantity that is ordered, are no more than the fees
    the ceiling was computed with: the primary's for the quantity it reported, the
    secondary's as set aside. A floor below zero has to be made up for on the final
    requote. -/
def FeesCovered (cfg : LiveConfig) (opp : Opportunity) (side : Side) (primary : Leg)
    (walked : ℚ≥0) (qty : ℕ) (final : Bool) : Prop :=
  let aside := set_aside cfg opp side primary walked qty
  let floor := edge_floor cfg opp
  pair_fees opp side primary (room cfg opp side primary - aside + rung_lift floor final) qty ≤
    fee_per opp side.other primary.fill_price primary.fill_qty + aside +
      (floor - rung_floor floor final - rung_lift floor final)

/-- A floor of at least zero leaves nothing to make up for. -/
theorem floor_made_up {floor : ℚ} (final : Bool) (h : 0 ≤ floor) :
    floor - rung_floor floor final - rung_lift floor final = 0 := by
  cases final with
  | false => simp [rung_floor, rung_lift]
  | true => simp [rung_floor, rung_lift, max_eq_left h]

/-- An order at the ceiling of its rung keeps the floor exactly when the fees are covered. -/
theorem keeps_floor_iff {cfg : LiveConfig} {opp : Opportunity} {side : Side} {primary : Leg}
    {walked : ℚ≥0} {final : Bool} {req : OrderRequest}
    (hprice : (req.price : ℚ) = room cfg opp side primary -
      set_aside cfg opp side primary walked req.qty + rung_lift (edge_floor cfg opp) final) :
    KeepsFloor cfg opp side primary final req ↔
      FeesCovered cfg opp side primary walked req.qty final := by
  have hroom : 1 - (primary.fill_price : ℚ) = room cfg opp side primary +
      fee_per opp side.other primary.fill_price primary.fill_qty + edge_floor cfg opp := by
    unfold room
    ring
  unfold KeepsFloor FeesCovered
  rw [hroom, hprice]
  constructor
  · intro h
    dsimp only
    linarith
  · intro h
    dsimp only at h
    linarith

/-! ## Section 4: The orders of a run -/

section run

variable {eng : Engine} {cfg : LiveConfig} {arb_id : String} {opp : Opportunity} {side : Side}
  {primary : Leg} {book : Bool × ℚ≥0}

/-- `-RQ` ids differ from the ids of the other rungs, and from each other. -/
theorem requote_id_inj {a b : ℕ} (h : arb_id ++ "-RQ" ++ toString a = arb_id ++ "-RQ" ++ toString b) :
    a = b := by
  have hnumber := (String.append_right_inj _).mp h
  exact Text.toString_injective hnumber

theorem requote_id_ne_first (n : ℕ) : arb_id ≠ arb_id ++ "-RQ" ++ toString n := by
  intro h
  have hlist := congrArg (fun s : String => s.toList.length) h
  simp at hlist

theorem requote_id_ne_last (n : ℕ) : arb_id ++ "-F3" ≠ arb_id ++ "-RQ" ++ toString n := by
  intro h
  have hlist := congrArg String.toList h
  simp [String.toList_append] at hlist

/-- What is known of an order of the chain: it keeps its floor exactly when the fees are
    covered. -/
def Judged (eng : Engine) (cfg : LiveConfig) (arb_id : String) (opp : Opportunity) (side : Side)
    (primary : Leg) (book : Bool × ℚ≥0) (req : OrderRequest) : Prop :=
  KeepsFloor cfg opp side primary (decide (req.arb_id = final_requote_id eng arb_id)) req ↔
    FeesCovered cfg opp side primary (walked_price eng opp side book) req.qty
      (decide (req.arb_id = final_requote_id eng arb_id))

/-- Every rung of the chain goes out at the ceiling that its id names. -/
theorem judged_of_rung (qty : ℕ) {skip : Bool} {leg : SecondaryLeg} {req : OrderRequest}
    (hfilled : primary.fill_qty ≠ 0) (harb : leg.arb_id = arb_id) (hqty : leg.qty = qty)
    (hceiling : leg.max_affordable_price =
      max_affordable cfg opp primary side qty (walked_price eng opp side book))
    (hbreak : leg.break_even_price =
      some (leg.max_affordable_price + edge_floor cfg opp : ℚ).toNNRat)
    (hfirst : skip = false → leg.initial_price = leg.max_affordable_price)
    (hrung : Rung eng leg skip req) : Judged eng cfg arb_id opp side primary book req := by
  have hat : (max_affordable cfg opp primary side qty (walked_price eng opp side book) : ℚ) =
      room cfg opp side primary - set_aside cfg opp side primary (walked_price eng opp side book) qty :=
    coe_max_affordable hfilled
  rw [← hceiling, ← hqty] at hat
  apply keeps_floor_iff
  subst harb
  -- each rung has an id of its own, and the id says whether it is the final requote
  cases hrung with
  | initial h =>
    have hid : decide (leg.arb_id = final_requote_id eng leg.arb_id) = false :=
      decide_eq_false (requote_id_ne_first _)
    show ((leg.initial_price : ℚ≥0) : ℚ) = _ - set_aside _ _ _ _ _ leg.qty +
      rung_lift _ (decide (leg.arb_id = _))
    rw [hid, hfirst h, hat]
    simp [rung_lift]
  | requote attempt hle hpos =>
    have hid : decide (leg.arb_id ++ "-RQ" ++ toString attempt = final_requote_id eng leg.arb_id) =
        decide (attempt = eng.secondary_requote_attempts) := by
      apply decide_eq_decide.2
      exact ⟨requote_id_inj, fun h => h ▸ rfl⟩
    show ((leg.ceiling _ : ℚ≥0) : ℚ) = _ - set_aside _ _ _ _ _ leg.qty +
      rung_lift _ (decide (leg.arb_id ++ "-RQ" ++ toString attempt = _))
    rw [hid, ← hat]
    exact coe_ceiling hbreak
  | last =>
    have hid : decide (leg.last_id = final_requote_id eng leg.arb_id) = false :=
      decide_eq_false (requote_id_ne_last _)
    show ((leg.max_affordable_price : ℚ≥0) : ℚ) = _ - set_aside _ _ _ _ _ leg.qty +
      rung_lift _ (decide (leg.last_id = _))
    rw [hid, hat]
    simp [rung_lift]

/-- Every order on the log is judged. -/
def AllJudged (eng : Engine) (cfg : LiveConfig) (arb_id : String) (opp : Opportunity)
    (side : Side) (primary : Leg) (book : Bool × ℚ≥0) (w : W × List OrderRequest) : Prop :=
  ∀ req ∈ w.2, Judged eng cfg arb_id opp side primary book req

/-- Not the secondary chain. -/
def NoChain : Proc → Prop
  | .execute_with_fallbacks .. => False
  | _ => True

theorem KeepsBooks.noChain {p : Proc} (h : KeepsBooks p) : NoChain p := by
  cases p with
  | execute_with_fallbacks => exact h
  | _ => trivial

theorem Quotes.noChain {p : Proc} (h : Quotes p) : NoChain p := by
  cases p with
  | execute_with_fallbacks => exact h
  | _ => trivial

variable {E : Env Call Answer W} {w : W × List OrderRequest}

/-- The log grows by the chain only. -/
private theorem keeps_judged {α : Type} {p : Live α} (hp : p.Calls NoChain)
    (hw : AllJudged eng cfg arb_id opp side primary book w) :
    wp (observed eng E side primary book) p
      (fun _ => AllJudged eng cfg arb_id opp side primary book) w := by
  refine hp.keeps (fun w₁ p r w₂ hno hs h => ?_) hw
  have hlog : w₂.2 = w₁.2 := by
    cases p with
    | outside c => exact hs.2.2
    | place_order_for_leg => exact hs.2.2
    | execute_with_fallbacks => exact hno.elim
    | recover_one_leg_risk => exact hs.2.2
  rw [AllJudged, hlog]
  exact h

/-- A chain whose rungs are judged adds judged orders. -/
private theorem chain_judged {leg : SecondaryLeg} {skip : Bool} {r : Except String (Option Leg)}
    {w' : W × List OrderRequest}
    (hrungs : ∀ req, Rung eng leg skip req → Judged eng cfg arb_id opp side primary book req)
    (hw : AllJudged eng cfg arb_id opp side primary book w)
    (hrun : Exec (submitting E) (execute_with_fallbacks eng leg skip) w r w') :
    AllJudged eng cfg arb_id opp side primary book w' := by
  have hsends : (execute_with_fallbacks eng leg skip).Calls
      (Sends fun _ => Judged eng cfg arb_id opp side primary book) :=
    execute_with_fallbacks_calls hrungs
  refine hsends.keeps (fun w₁ c a w₂ hc hs h => ?_) hw r w' hrun
  rw [AllJudged, hs.2]
  intro req hreq
  rcases List.mem_append.1 hreq with hnew | hold
  · cases c with
    | place_fok platform sent =>
      obtain rfl : req = sent := by simpa [Call.submits] using hnew
      exact hc
    | place_ioc platform sent =>
      obtain rfl : req = sent := by simpa [Call.submits] using hnew
      exact hc
    | _ => simp [Call.submits] at hnew
  · exact h req hold

/-- The chain, entered at the walked price, adds judged orders. -/
private theorem secondary_at_judged {qty : ℕ} (hfilled : primary.fill_qty ≠ 0)
    (hw : AllJudged eng cfg arb_id opp side primary book w) :
    wp (observed eng E side primary book)
      (secondary_at cfg arb_id opp primary side qty (walked_price eng opp side book))
      (fun _ => AllJudged eng cfg arb_id opp side primary book) w := by
  unfold secondary_at
  rw [wp_bind, wp_send]
  intro answer w₁ hs
  have hrun : Exec (submitting E) (execute_with_fallbacks eng _ _) w answer w₁ := hs.2
  have hchain : AllJudged eng cfg arb_id opp side primary book w₁ := by
    refine chain_judged (fun req hrung => ?_) hw hrun
    -- a first attempt goes out at the ceiling, since the chain is then entered with one
    refine judged_of_rung qty hfilled rfl rfl rfl rfl (fun hskip => ?_) hrung
    exact if_neg (by simpa using hskip)
  match answer with
  | .error _ => exact wp_pure.2 hchain
  | .ok (some _) => exact wp_pure.2 hchain
  | .ok none => exact wp_pure.2 hchain

/-- The walk before the chain gives the walked price. -/
private theorem walk_secondary_spec {qty : ℕ} {log : List OrderRequest} (hlog : w.2 = log) :
    wp (observed eng E side primary book) (walk_secondary eng opp side qty)
      (fun r w' => (∀ walked, r = .ok walked → walked = walked_price eng opp side book) ∧
        w'.2 = log) w := by
  unfold walk_secondary walked_price
  rw [wp_ite]
  constructor
  · intro hwalks
    rw [wp_bind, wp_send]
    intro answer w₁ hs
    have hkept : w₁.2 = log := hs.2.2.trans hlog
    match answer, hs.1 with
    | .error err, _ => exact wp_pure.2 ⟨fun _ h => (nomatch h), hkept⟩
    | .ok (fillable, exec_price), hobs =>
      obtain rfl : (fillable, exec_price) = book := hobs rfl
      simp only [wp_ite, wp_pure, hwalks, true_and]
      constructor
      · intro hfound
        simp [hfound, hkept]
      · intro hmissing
        simp [hmissing, hkept]
  · intro hnever
    simp [hnever, hlog]

/-- The secondary leg, for a primary that came back as `primary`. -/
private theorem place_secondary_judged {effective_qty : ℕ}
    (hw : AllJudged eng cfg arb_id opp side primary book w) :
    wp (observed eng E side primary book)
      (place_secondary eng cfg arb_id opp side primary effective_qty)
      (fun _ => AllJudged eng cfg arb_id opp side primary book) w := by
  unfold place_secondary
  rw [wp_ite]
  refine ⟨fun _ => wp_pure.2 hw, fun hfilled => ?_⟩
  -- nothing before the chain sends an order, and the chain's are judged
  have htry : wp (observed eng E side primary book)
      (try_secondary eng cfg arb_id opp primary side (min primary.fill_qty effective_qty))
      (fun _ => AllJudged eng cfg arb_id opp side primary book) w := by
    unfold try_secondary
    refine wp_bind.2 (wp_mono (keeps_judged (inter_leg_delay_calls.mono fun _ => Quotes.noChain) hw)
      fun _ w₁ h₁ => ?_)
    refine wp_bind.2 (wp_mono (walk_secondary_spec rfl) fun walk w₂ hwalk => ?_)
    have h₂ : AllJudged eng cfg arb_id opp side primary book w₂ := by
      rw [AllJudged, hwalk.2]
      exact h₁
    cases walk with
    | error err => exact wp_pure.2 h₂
    | ok walked =>
      obtain rfl := hwalk.1 walked rfl
      exact secondary_at_judged hfilled h₂
  have hsecond : wp (observed eng E side primary book)
      (secondary_or_placeholder eng cfg arb_id opp primary side
        (min primary.fill_qty effective_qty))
      (fun _ => AllJudged eng cfg arb_id opp side primary book) w := by
    unfold secondary_or_placeholder
    refine wp_bind.2 (wp_mono htry fun answer w₁ h₁ => ?_)
    -- an exception leaves a placeholder leg: no further order
    cases answer with
    | ok secondary_leg => exact wp_pure.2 h₁
    | error err => exact keeps_judged (.bind (calls_send.2 trivial) fun _ => calls_pure _) h₁
  refine wp_bind.2 (wp_mono hsecond fun placed w₁ h₁ => ?_)
  refine wp_bind.2 (wp_mono (keeps_judged ?_ h₁) fun _ w₂ h₂ => wp_pure.2 h₂)
  unfold report_soft_naked
  rw [calls_ite]
  refine ⟨fun _ => .bind (calls_send.2 trivial) fun _ => ?_, fun _ => calls_pure _⟩
  rw [calls_ite]
  exact ⟨fun _ => .bind (calls_send.2 trivial) fun _ => calls_pure _, fun _ => calls_pure _⟩

/-- The legs of an execution. -/
private theorem execute_legs_judged (hside : side = (primary_side cfg opp).other)
    (hw : AllJudged eng cfg arb_id opp side primary book w) :
    wp (observed eng E side primary book) (execute_legs eng cfg arb_id opp)
      (fun _ => AllJudged eng cfg arb_id opp side primary book) w := by
  unfold execute_legs
  refine wp_bind.2 (wp_mono (keeps_judged (balance_gate_calls.mono fun _ => Quotes.noChain) hw)
    fun short w₁ h₁ => ?_)
  cases short with
  | some platform =>
    rw [wp_bind, wp_send]
    intro _ w₂ hs
    rw [wp_pure, AllJudged, hs.2.2]
    exact h₁
  | none =>
    simp only [wp_ite]
    refine ⟨fun _ => wp_pure.2 h₁, fun _ => ?_⟩
    unfold place_legs
    refine wp_bind.2 (wp_mono (keeps_judged (depth_gate_calls.mono fun _ => Quotes.noChain) h₁)
      fun depth w₂ h₂ => ?_)
    -- the gates and the walk send nothing, and end the execution or go on to the first leg
    rcases depth with err | (_ | effective_qty)
    · exact wp_pure.2 h₂
    · exact wp_pure.2 h₂
    · refine wp_bind.2 (wp_mono (keeps_judged (walk_primary_calls.mono fun _ => Quotes.noChain)
        h₂) fun walk w₃ h₃ => ?_)
      rcases walk with err | (_ | price)
      · exact wp_pure.2 h₃
      · exact wp_pure.2 h₃
      · rw [wp_bind, place_primary, wp_send]
        intro answer w₄ hs
        have h₄ : AllJudged eng cfg arb_id opp side primary book w₄ := by
          rw [AllJudged, hs.2.2]
          exact h₃
        cases answer with
        | error err => exact wp_pure.2 h₄
        | ok primary_leg =>
          obtain rfl : primary_leg = primary := hs.1
          rw [← hside]
          exact wp_bind.2 (wp_mono (place_secondary_judged h₄) fun _ _ h₅ => wp_pure.2 h₅)

end run

/-- **A secondary order keeps the edge floor exactly when its fees are covered**: in every
    run of `_live_execution` in which the primary fills as `primary` and the secondary book
    walks to `book`, an order of the secondary chain that fills at its limit leaves at least
    the pair's floor (at least nothing, for the final requote) if and only if both legs' fees
    at that limit are no more than those its ceiling was computed with. -/
theorem secondary_keeps_floor_iff (E : Env Call Answer W) (eng : Engine) (cfg : LiveConfig)
    (arb_id : String) (opp : Opportunity) (primary : Leg) (book : Bool × ℚ≥0) (w w' : W)
    (r : Except String (Option ArbExecution)) (log : List OrderRequest)
    (hrun : Exec (observed eng E (primary_side cfg opp).other primary book)
      (live_execution eng cfg arb_id opp) (w, []) r (w', log)) (req : OrderRequest)
    (hreq : req ∈ log) :
    KeepsFloor cfg opp (primary_side cfg opp).other primary
        (decide (req.arb_id = final_requote_id eng arb_id)) req ↔
      FeesCovered cfg opp (primary_side cfg opp).other primary
        (walked_price eng opp (primary_side cfg opp).other book) req.qty
        (decide (req.arb_id = final_requote_id eng arb_id)) := by
  have hstart : AllJudged eng cfg arb_id opp (primary_side cfg opp).other primary book (w, []) :=
    fun _ h => nomatch h
  have hspec : wp (observed eng E (primary_side cfg opp).other primary book)
      (live_execution eng cfg arb_id opp)
      (fun _ => AllJudged eng cfg arb_id opp (primary_side cfg opp).other primary book) (w, []) := by
    unfold live_execution
    refine wp_bind.2 (wp_mono (execute_legs_judged rfl hstart) fun legs w₁ h₁ => ?_)
    match legs with
    | .error err => exact wp_pure.2 h₁
    | .ok none => exact wp_pure.2 h₁
    | .ok (some placed) =>
      refine wp_bind.2 (wp_mono (keeps_judged (settle_calls.mono fun _ => KeepsBooks.noChain) h₁)
        fun execution w₂ h₂ => ?_)
      cases placed.secondary_exception with
      | none => exact wp_pure.2 h₂
      | some err => exact wp_pure.2 h₂
  exact hspec r (w', log) hrun req hreq

/-! ## Section 5: A run -/

/-- An outside that may answer anything. -/
def anything : Env Call Answer Unit where
  serve := fun _ _ _ _ => True

/-- The engine with adapters on Kalshi and on Polymarket. -/
def across_engine : Engine :=
  { kalshi_engine true with
    adapters := fun p =>
      (kalshi_engine true).adapters (if p = "polymarket" then "kalshi" else p) }

/-- The secondary of `ten_across`, filled. -/
def filled_no : Leg :=
  { Order.synthetic "0x9" "polymarket" "0x1" "mkt-1" .no (2 / 5) 10 .filled "" with
    fill_qty := 10, fill_price := 2 / 5 }

/-- The first secondary order of `ten_across`: the primary is filled at 40 cents, the
    secondary book walks to 10 cents, and the ceiling is 56.94 cents. -/
def across_secondary : OrderRequest where
  arb_id := "ARB-000001"
  market_id := "0x1"
  canonical_id := "mkt-1"
  side := .no
  price := 2847 / 5000
  qty := 10

/-- The secondary leg of `ten_across`, at a ceiling. -/
def across_leg (ceiling break_even : ℚ≥0) : SecondaryLeg where
  arb_id := "ARB-000001"
  platform := "polymarket"
  market_id := "0x1"
  canonical_id := "mkt-1"
  side := .no
  initial_price := ceiling
  qty := 10
  max_affordable_price := ceiling
  break_even_price := some break_even

/-- A chain whose first attempt fills sends that one order. -/
private theorem chain_fills (ceiling break_even : ℚ≥0) :
    Exec (submitting anything)
      (execute_with_fallbacks across_engine (across_leg ceiling break_even) false) ((), [])
      (.ok (some filled_no))
      ((), [(across_leg ceiling break_even).request "ARB-000001" ceiling]) := by
  have hunblocked : (submitting anything).serve ((), []) .db_write_failed false ((), []) :=
    ⟨trivial, rfl⟩
  have hplaced : (submitting anything).serve ((), [])
      (.place_ioc "polymarket" ((across_leg ceiling break_even).request "ARB-000001" ceiling))
      (.ok filled_no) ((), [(across_leg ceiling break_even).request "ARB-000001" ceiling]) :=
    ⟨trivial, rfl⟩
  exact .call hunblocked (.call hplaced (.ret _ _))

/-- The primary of `ten_across` fills at its quote, the secondary book walks to a dime. -/
abbrev across_outside : Env Proc Outcomes (Unit × List OrderRequest) :=
  observed across_engine anything .no (bought_at (2 / 5)) (true, 1 / 10)

/-- A run of `ten_across` there. -/
theorem across_run :
    ∃ r, Exec across_outside
      (live_execution across_engine kalshi_first_config "ARB-000001" ten_across) ((), []) r
      ((), [across_secondary]) := by
  -- the walked price is bought at the ceiling, which is far above it
  have hceiling : max_affordable kalshi_first_config ten_across (bought_at (2 / 5)) .no 10
      (1 / 10) = 2847 / 5000 := by decide +kernel
  have hreachable : decide (2847 / 5000 + hopeless_threshold (ten_across.platform .no) <
      (1 / 10 : ℚ≥0)) = false := by decide +kernel
  have hsecondary : Exec across_outside
      (secondary_at kalshi_first_config "ARB-000001" ten_across (bought_at (2 / 5)) .no 10
        (1 / 10)) ((), []) (.ok filled_no) ((), [across_secondary]) := by
    unfold secondary_at
    simp only [hceiling, hreachable, Bool.false_eq_true, if_false]
    exact .call ⟨trivial, chain_fills (2847 / 5000) _⟩ (.ret _ _)
  have hwalk : across_outside.serve ((), [])
      (.outside (.best_executable_price "polymarket" "0x1" .no 10)) (.ok (true, 1 / 10))
      ((), []) := ⟨fun _ => rfl, trivial, rfl⟩
  have hwalked : Exec across_outside (walk_secondary across_engine ten_across .no 10) ((), [])
      (.ok (1 / 10)) ((), []) := by
    refine .call hwalk ?_
    show Exec _ (if true = true ∧ 0 < (1 / 10 : ℚ≥0) then _ else _) _ _ _
    rw [if_pos ⟨rfl, by norm_num⟩]
    exact .ret _ _
  have hsecond : Exec across_outside
      (place_secondary across_engine kalshi_first_config "ARB-000001" ten_across .no
        (bought_at (2 / 5)) 10) ((), [])
      { primary_side := .yes, primary := bought_at (2 / 5), secondary := filled_no
        secondary_exception := none } ((), [across_secondary]) := by
    have htry : Exec across_outside
        (try_secondary across_engine kalshi_first_config "ARB-000001" ten_across
          (bought_at (2 / 5)) .no 10) ((), []) (.ok filled_no) ((), [across_secondary]) :=
      exec_bind.2 ⟨(), _, .ret _ _, exec_bind.2 ⟨_, _, hwalked, hsecondary⟩⟩
    exact exec_bind.2 ⟨_, _, exec_bind.2 ⟨_, _, htry, .ret _ _⟩, .ret _ _⟩
  -- before it the first leg is filled, and after it the execution is booked
  have hprimary : across_outside.serve ((), []) (.place_order_for_leg "kalshi"
      ten_across_primary true (some ⟨ten_across, some (1 / 5)⟩)) (.ok (bought_at (2 / 5)))
      ((), []) :=
    have hunblocked : anything.serve () .db_write_failed false () := trivial
    have hfilled : anything.serve () (.place_ioc "kalshi" ten_across_primary)
      (.ok (bought_at (2 / 5))) () := trivial
    ⟨rfl, .call hunblocked (.call hfilled (.ret _ _)), rfl⟩
  have hlegs : Exec across_outside
      (execute_legs across_engine kalshi_first_config "ARB-000001" ten_across) ((), []) (.ok (some _))
      ((), [across_secondary]) :=
    ten_across_run across_engine rfl (1 / 5) (fun _ => ⟨trivial, trivial, rfl⟩)
      ⟨trivial, trivial, rfl⟩ ⟨fun h => (nomatch h), trivial, rfl⟩ hprimary hsecond
  have happended : ∀ execution, across_outside.serve ((), [across_secondary])
      (.outside (.append_execution execution)) () ((), [across_secondary]) :=
    fun _ => ⟨trivial, trivial, rfl⟩
  have hbooked : ∀ exposure pnl alloc, across_outside.serve ((), [across_secondary])
      (.outside (.record_trade "mkt-1" exposure pnl alloc)) () ((), [across_secondary]) :=
    fun _ _ _ => ⟨trivial, trivial, rfl⟩
  have hhalted : across_outside.serve ((), [across_secondary])
      (.outside (.maybe_halt_on_daily_loss 0)) () ((), [across_secondary]) :=
    ⟨trivial, trivial, rfl⟩
  exact ⟨_, exec_bind.2 ⟨_, _, hlegs,
    .call (happended _) (.call (hbooked _ _ _) (.call hhalted (.ret _ _)))⟩⟩

/-- The order of that run against its ceiling. -/
theorem secondary_keeps_floor_iff_across :
    KeepsFloor kalshi_first_config ten_across .no (bought_at (2 / 5))
        (decide (across_secondary.arb_id = final_requote_id across_engine "ARB-000001"))
        across_secondary ↔
      FeesCovered kalshi_first_config ten_across .no (bought_at (2 / 5))
        (walked_price across_engine ten_across .no (true, 1 / 10)) across_secondary.qty
        (decide (across_secondary.arb_id = final_requote_id across_engine "ARB-000001")) := by
  obtain ⟨r, hrun⟩ := across_run
  exact secondary_keeps_floor_iff anything across_engine kalshi_first_config "ARB-000001"
    ten_across (bought_at (2 / 5)) (true, 1 / 10) () () r [across_secondary] hrun across_secondary
    (List.mem_singleton_self _)

/-- The fee at 56.94 cents is not the fee at 10 cents that the ceiling was computed with:
    filled at its limit, the first order of that run leaves 0.38 cents, not one. -/
theorem ceiling_gives_up_the_floor :
    ¬ ∀ (E : Env Call Answer Unit) (eng : Engine) (cfg : LiveConfig) (arb_id : String)
        (opp : Opportunity) (primary : Leg) (book : Bool × ℚ≥0)
        (r : Except String (Option ArbExecution)) (log : List OrderRequest),
      Exec (observed eng E (primary_side cfg opp).other primary book)
        (live_execution eng cfg arb_id opp) ((), []) r ((), log) →
      ∀ req ∈ log, KeepsFloor cfg opp (primary_side cfg opp).other primary
        (decide (req.arb_id = final_requote_id eng arb_id)) req := by
  intro h
  obtain ⟨r, hrun⟩ := across_run
  have hkept := h anything across_engine kalshi_first_config "ARB-000001" ten_across
    (bought_at (2 / 5)) (true, 1 / 10) r [across_secondary] hrun across_secondary
    (List.mem_singleton_self _)
  have hfirst : decide (across_secondary.arb_id = final_requote_id across_engine "ARB-000001") =
      false := by decide
  rw [hfirst] at hkept
  revert hkept
  unfold KeepsFloor
  decide +kernel

end Execution
