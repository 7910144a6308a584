import Mathlib.Tactic.Linarith
import Arbiter.Stranded.Runs

/-! # The Cap on Mitigation

  The reconciler counts what it submits for a lot, stops at a multiple of the largest
  size it saw, and starts afresh once the lot has stayed away. A placement that raises
  is not counted, whether or not the venue took the order.

  Two results: where no order is lost like that, the cap holds in every run; and the
  accounting never starts afresh, since a lot is forgotten with its first absence.

  ## Contents

  - Section 1: what was submitted, and the sizes seen.
  - Section 2: the cap.
  - Section 3: runs of single cycles.
  - Section 4: the accounting never starts afresh.
-/

namespace Stranded

open Effect Execution LTS

/-! ## Section 1: Orders and sizes -/

/-- The quantity of some orders that is for one lot. -/
def quantity_for (key : Key) (orders : List MitigationOrder) : ℕ :=
  ((orders.filter fun order => order.strand = key).map (·.qty)).sum

/-- The sizes at which a lot is listed. -/
def sizes (cfg : Config) (key : Key) (inp : Inputs) : List ℚ :=
  ((inp.lots cfg).filter fun lot => lot.1 = key).map fun lot => |lot.2|

/-- The largest of some sizes, zero when there is none. -/
def largest_of (l : List ℚ) : ℚ := l.foldr max 0

/-- The cycle starts the accounting of a lot afresh. -/
def starts_afresh (cfg : Config) (p : Past) (key : Key) : Prop :=
  p.before.tracked.has key = true ∧ key.1 ∉ p.inputs.failed cfg ∧ ¬ p.inputs.lists cfg key ∧
    cap_absent_limit ≤ p.before.cap_absent_cycles key + 1

instance (cfg : Config) (p : Past) (key : Key) : Decidable (starts_afresh cfg p key) := by
  unfold starts_afresh; infer_instance

/-- The cycles since the accounting of a lot last started afresh. -/
def since_reset (cfg : Config) (key : Key) : List Past → List Past
  | [] => []
  | p :: rest => if starts_afresh cfg p key then [p] else p :: since_reset cfg key rest

/-- What was submitted to venues for a lot since its last reset. -/
def spent (cfg : Config) (key : Key) (past : List Past) : ℕ :=
  ((since_reset cfg key past).map fun p => quantity_for key p.deeds.submitted).sum

/-- The largest size of a lot seen since its last reset. -/
def largest (cfg : Config) (key : Key) (past : List Past) : ℚ :=
  largest_of ((since_reset cfg key past).flatMap fun p => sizes cfg key p.inputs)

/-- The cap: what was submitted for a lot is within the multiple of its largest size. -/
def Capped (cfg : Config) (t : Trace) : Prop :=
  ∀ key, (spent cfg key t.past : ℚ) ≤ cfg.max_cum_close_mult * largest cfg key t.past

theorem quantity_for_cons (key : Key) (order : MitigationOrder) (orders : List MitigationOrder) :
    quantity_for key (order :: orders) =
      (if order.strand = key then order.qty else 0) + quantity_for key orders := by
  unfold quantity_for
  by_cases h : order.strand = key <;> simp [h]

theorem le_largest_of {l : List ℚ} {x : ℚ} (h : x ∈ l) : x ≤ largest_of l := by
  induction l with
  | nil => exact absurd h List.not_mem_nil
  | cons y l ih =>
    rcases List.mem_cons.1 h with rfl | hmem
    · exact le_max_left _ _
    · exact (ih hmem).trans (le_max_right _ _)

theorem largest_of_append_le (l l' : List ℚ) : largest_of l' ≤ largest_of (l ++ l') := by
  induction l with
  | nil => exact le_refl _
  | cons y l ih => exact ih.trans (le_max_right _ _)

theorem largest_of_nonneg (l : List ℚ) : 0 ≤ largest_of l := by
  induction l with
  | nil => exact le_refl _
  | cons y l ih => exact ih.trans (le_max_right _ _)

theorem largest_of_le_append (l l' : List ℚ) : largest_of l ≤ largest_of (l ++ l') := by
  induction l with
  | nil => exact largest_of_nonneg l'
  | cons y l ih => exact max_le_max (le_refl y) ih

/-! ## Section 2: The cap -/

/-- No whole number lies just above the multiple of a size, where the tolerance of the
    check would let it pass. -/
def Exact (cfg : Config) (size : ℚ) : Prop :=
  ∀ n : ℕ, (n : ℚ) ≤ cfg.max_cum_close_mult * size + 1 / 10 ^ 9 →
    (n : ℚ) ≤ cfg.max_cum_close_mult * size

/-- A cycle in which no placement raises after the venue took the order. -/
def no_lost_orders (cfg : Config) (_ : Trace) (l : Inputs × Deeds) : Prop :=
  l.2.lost = [] ∧ ∀ lot ∈ l.1.lots cfg, Exact cfg |lot.2|

section cap

variable {cfg : Config}

theorem Exact.zero : Exact cfg 0 := by
  intro n hn
  rw [mul_zero, zero_add] at hn
  have hlt : (n : ℚ) < 1 := lt_of_le_of_lt hn (by norm_num)
  have hzero : n = 0 := by
    have : n < 1 := by exact_mod_cast hlt
    omega
  rw [hzero, mul_zero]
  exact le_refl _

theorem Exact.max {x y : ℚ} (hx : Exact cfg x) (hy : Exact cfg y) : Exact cfg (max x y) := by
  rcases le_total x y with h | h
  · rw [max_eq_right h]
    exact hy
  · rw [max_eq_left h]
    exact hx

/-- The accounts in the course of a cycle that began with `s`: what is counted, and what
    was lost, is what was submitted; and the count is within the cap. -/
structure Accounted (cfg : Config) (inp : Inputs) (s : Reconciler) (s' : Reconciler) (w : Deeds) :
    Prop where
  tidy : Tidy s'
  counted : ∀ key, s'.cum_close_submitted key + quantity_for key w.lost =
    s.cum_close_submitted key + quantity_for key w.submitted
  capped : ∀ key, (s'.cum_close_submitted key : ℚ) ≤ cfg.max_cum_close_mult * s'.max_observed_qty key
  seen : ∀ key, s'.max_observed_qty key ≤
    max (s.max_observed_qty key) (largest_of (sizes cfg key inp))
  exact_size : ∀ key, Exact cfg (s'.max_observed_qty key)

variable {inp : Inputs} {s s₁ s₂ : Reconciler} {pos : StrandedPosition} {w : Deeds}

theorem size_le_largest (hpos : pos.sized ∈ inp.lots cfg) :
    |pos.qty| ≤ largest_of (sizes cfg pos.key inp) := by
  apply le_largest_of
  refine List.mem_map.2 ⟨pos.sized, List.mem_filter.2 ⟨hpos, ?_⟩, rfl⟩
  simp [StrandedPosition.sized]

/-- The accounts stand while the books do. -/
theorem Accounted.same {w' : Deeds} (h : Accounted cfg inp s s₁ w) (hbook : SameBook s₁ s₂)
    (horders : SameOrders w w') : Accounted cfg inp s s₂ w' := by
  refine ⟨fun key hhas => ?_, ?_, ?_, ?_, ?_⟩
  · rw [hbook.absent]
    rw [hbook.tracked] at hhas
    exact h.tidy key hhas
  · rw [hbook.submitted, horders.1, horders.2]
    exact h.counted
  · rw [hbook.submitted, hbook.largest]
    exact h.capped
  · rw [hbook.largest]
    exact h.seen
  · rw [hbook.largest]
    exact h.exact_size

/-- Noting the size of a lot. -/
theorem Accounted.weighed (h : Accounted cfg inp s s₁ w) (hpos : pos.sized ∈ inp.lots cfg)
    (hexact : ∀ lot ∈ inp.lots cfg, Exact cfg |lot.2|) (hw : Weighed s₁ pos s₂) :
    Accounted cfg inp s s₂ w := by
  have hmult : 0 ≤ cfg.max_cum_close_mult := le_trans zero_le_one cfg.one_le_mult
  have hkey : ∀ key, s₂.max_observed_qty key =
      if key = pos.key then cap_base s₁ pos else s₁.max_observed_qty key := fun key => by
    rw [hw.largest, Function.update_apply]
  have hgrows : ∀ key, s₁.max_observed_qty key ≤ s₂.max_observed_qty key := fun key => by
    rw [hkey]
    split
    case isTrue heq => rw [heq]; exact le_max_left _ _
    case isFalse => exact le_refl _
  -- sizes are noted only where they grow, so what was below the cap stays below it
  refine ⟨?_, ?_, fun key => ?_, fun key => ?_, fun key => ?_⟩
  · intro key hhas
    rw [hw.view.absent]
    rw [hw.view.tracked] at hhas
    exact h.tidy key hhas
  · rw [hw.submitted]
    exact h.counted
  · rw [hw.submitted]
    exact (h.capped key).trans (mul_le_mul_of_nonneg_left (hgrows key) hmult)
  · rw [hkey]
    split
    case isTrue heq =>
      subst heq
      exact max_le (h.seen pos.key) ((size_le_largest hpos).trans (le_max_right _ _))
    case isFalse => exact h.seen key
  · rw [hkey]
    split
    case isTrue => exact (h.exact_size pos.key).max (hexact pos.sized hpos)
    case isFalse => exact h.exact_size key

/-- Every lot of the mitigation pass keeps the accounts. -/
theorem Accounted.mitigates (h : Accounted cfg inp s s₁ w) (hpos : pos.sized ∈ inp.lots cfg)
    (hexact : ∀ lot ∈ inp.lots cfg, Exact cfg |lot.2|) {w' : Deeds}
    (hm : Mitigates cfg s₁ pos w s₂ w') : Accounted cfg inp s s₂ w' := by
  cases hm with
  | nothing hview hsubmitted hlargest =>
    exact h.same ⟨hview.tracked, hview.absent, hsubmitted, hlargest⟩ ⟨rfl, rfl⟩
  | weighed hw => exact h.weighed hpos hexact hw
  | lost hw hstrand hfits =>
    -- lost on the way: it went to the venue and is not on the reconciler's count
    have hnoted := h.weighed hpos hexact hw
    refine ⟨hnoted.tidy, fun key => ?_, hnoted.capped, hnoted.seen, hnoted.exact_size⟩
    have hcounted := hnoted.counted key
    show _ + quantity_for key (_ :: w.lost) = _ + quantity_for key (_ :: w.submitted)
    rw [quantity_for_cons, quantity_for_cons]
    omega
  | @counted s' _ order placed hw hstrand hfits heq =>
    have hnoted := h.weighed hpos hexact hw
    subst heq
    -- the count grows on the lot's own key, and nowhere else
    have hcum : ∀ key, (note_mitigation_submitted s' pos.key order.qty).cum_close_submitted key =
        s'.cum_close_submitted key + if order.strand = key then order.qty else 0 := fun key => by
      by_cases hkey : key = pos.key
      · subst hkey
        simp [note_mitigation_submitted, hstrand]
      · have hne : order.strand ≠ key := by
          rw [hstrand]
          exact fun heq => hkey heq.symm
        simp [note_mitigation_submitted, hkey, hne]
    refine ⟨hnoted.tidy, fun key => ?_, fun key => ?_, hnoted.seen, hnoted.exact_size⟩
    · have hcounted := hnoted.counted key
      show _ + quantity_for key w.lost = _ + quantity_for key (_ :: w.submitted)
      rw [quantity_for_cons, hcum]
      omega
    · show _ ≤ cfg.max_cum_close_mult * s'.max_observed_qty key
      rw [hcum]
      by_cases hkey : order.strand = key
      · -- the check was made on the size that is now noted
        have hbase : s'.max_observed_qty key = cap_base s₁ pos := by
          rw [hw.largest, ← hkey, hstrand, Function.update_self]
        have hle := hnoted.exact_size key (s₁.cum_close_submitted pos.key + order.qty)
        rw [hbase] at hle ⊢
        rw [if_pos hkey, hw.submitted, ← hkey, hstrand]
        exact hle hfits
      · rw [if_neg hkey, add_zero]
        exact hnoted.capped key

/-- The reconciler between cycles: the count is what was submitted since the last reset. -/
structure Balanced (cfg : Config) (t : Trace) : Prop where
  tidy : Tidy t.state
  counted : ∀ key, t.state.cum_close_submitted key = spent cfg key t.past
  capped : ∀ key, (t.state.cum_close_submitted key : ℚ) ≤
    cfg.max_cum_close_mult * t.state.max_observed_qty key
  seen : ∀ key, t.state.max_observed_qty key ≤ largest cfg key t.past
  exact_size : ∀ key, Exact cfg (t.state.max_observed_qty key)

/-- A tidy reconciler never starts the accounting of a lot afresh. -/
theorem not_starts_afresh {p : Past} (h : Tidy p.before) (key : Key) : ¬ starts_afresh cfg p key := by
  rintro ⟨hhas, -, -, habsent⟩
  rw [h key hhas] at habsent
  exact absurd habsent (by decide)

theorem since_reset_cons {p : Past} (h : Tidy p.before) (key : Key) (past : List Past) :
    since_reset cfg key (p :: past) = p :: since_reset cfg key past :=
  if_neg (not_starts_afresh h key)

theorem Balanced.step {t t' : Trace} {l : Inputs × Deeds} (h : Balanced cfg t)
    (hok : no_lost_orders cfg t l) (hs : (cycles cfg).step t l t') : Balanced cfg t' := by
  obtain ⟨hrun, hpast⟩ := hs
  have hstart : Accounted cfg l.1 t.state t.state .none :=
    ⟨h.tidy, fun _ => rfl, h.capped, fun _ => le_max_left _ _, h.exact_size⟩
  -- reading the venues moves no account
  have hbegin : ∀ s₁, Begins cfg l.1 t.state s₁ → Accounted cfg l.1 t.state s₁ .none := by
    intro s₁ hb
    refine ⟨hb.tidy, ?_, ?_, ?_, ?_⟩
    · rw [hb.accounts.submitted]
      exact hstart.counted
    · rw [hb.accounts.submitted, hb.accounts.largest]
      exact hstart.capped
    · rw [hb.accounts.largest]
      exact hstart.seen
    · rw [hb.accounts.largest]
      exact hstart.exact_size
  have hafter : wp (venues l.1) (run_once cfg t.state) (Accounted cfg l.1 t.state) .none := by
    refine run_once_rule h.tidy hbegin ?_ ?_
    · intro pos hpos s₁ w₁ s₂ w₂ h₁ hm
      exact h₁.mitigates hpos hok.2 hm
    · intro raw s₂ w₂ _ h₂
      exact wp_mono sweep_book fun s₃ w₃ h₃ => h₂.same h₃.1 h₃.2
  have hdone := hafter _ _ hrun
  -- no reset falls into the cycle, so it joins those since the last one
  have hsince : ∀ key, since_reset cfg key t'.past =
      ⟨t.state, l.1, l.2⟩ :: since_reset cfg key t.past := fun key => by
    rw [hpast]
    exact since_reset_cons h.tidy key t.past
  refine ⟨hdone.tidy, fun key => ?_, hdone.capped, fun key => ?_, hdone.exact_size⟩
  · have hcounted := hdone.counted key
    have hlost : quantity_for key l.2.lost = 0 := by rw [hok.1]; rfl
    have hbefore := h.counted key
    rw [hlost, hbefore] at hcounted
    rw [spent, hsince, List.map_cons, List.sum_cons]
    show _ = quantity_for key l.2.submitted + spent cfg key t.past
    omega
  · have hbefore := h.seen key
    rw [largest, hsince, List.flatMap_cons]
    exact (hdone.seen key).trans
      (max_le (hbefore.trans (largest_of_append_le _ _)) (largest_of_le_append _ _))

theorem balanced_invariant :
    Invariant ((cycles cfg).restrict (no_lost_orders cfg)) (Balanced cfg) := by
  apply Invariant.of_step
  · rintro ⟨state, past⟩ ⟨hstate, hpast⟩
    cases hstate
    cases hpast
    refine ⟨tidy_new, fun _ => rfl, fun _ => ?_, fun _ => le_refl _, fun _ => .zero⟩
    simp
  · intro t l t' h hs
    exact h.step hs.1 hs.2

end cap

/-- **The mitigation cap**: in every run in which no placement raises after the venue took
    its order, and no whole number lies within the tolerance above the multiple of a listed
    size, what is submitted for a lot between two resets is within the multiple of the
    largest size seen. -/
theorem mitigation_capped (cfg : Config) (t : Trace)
    (hr : Reachable ((cycles cfg).restrict (no_lost_orders cfg)) t) : Capped cfg t := by
  intro key
  have h := balanced_invariant t hr
  have hmult : 0 ≤ cfg.max_cum_close_mult := le_trans zero_le_one cfg.one_le_mult
  rw [← h.counted key]
  exact (h.capped key).trans (mul_le_mul_of_nonneg_left (h.seen key) hmult)

/-! ## Section 3: Runs of single cycles -/

/-- The answers of a cycle: the inputs, one instant, one decision and one placement. -/
def Inputs.reply (inp : Inputs) (now : ℚ) (decision : MitigationDecision) (placement : Placement) :
    (c : Call) → Answer c
  | .configured platform => inp.configured platform
  | .venue_truth_available platform => inp.available platform
  | .kalshi_positions => inp.kalshi
  | .kalshi_market _ => none
  | .polymarket_positions => inp.polymarket
  | .polymarket_book _ => none
  | .forecastex_positions => inp.forecastex
  | .forecastex_snapshot _ => none
  | .time => now
  | .paired_inventory_by_market => none
  | .decide _ => some decision
  | .list_open_incidents => none
  | .record_incident _ => ()
  | .executions => []
  | .get_all_for_market _ => none
  | .place_fok .. => placement
  | .place_unwind_sell .. => placement
  | .persist_close_attempt .. => ()
  | .list_stuck_arbs _ => inp.records
  | .close_phantom_record arb => if inp.update_raises arb then none else some ()

/-- The run of one more cycle with these answers. -/
def Trace.cycle (cfg : Config) (t : Trace) (inp : Inputs) (now : ℚ) (decision : MitigationDecision)
    (placement : Placement) : Reconciler × Deeds :=
  let reply := inp.reply now decision placement
  play (fun w c => (reply c, w.after c (reply c))) (run_once cfg t.state) .none

/-- The reconciler after it. -/
def Trace.then (cfg : Config) (t : Trace) (inp : Inputs) (now : ℚ) (decision : MitigationDecision)
    (placement : Placement) : Trace where
  state := (t.cycle cfg inp now decision placement).1
  past := ⟨t.state, inp, (t.cycle cfg inp now decision placement).2⟩ :: t.past

/-- It is a step of the system. -/
theorem step_then (cfg : Config) (t : Trace) (inp : Inputs) (now : ℚ)
    (decision : MitigationDecision) (placement : Placement) :
    (cycles cfg).step t (inp, (t.cycle cfg inp now decision placement).2)
      (t.then cfg inp now decision placement) := by
  have hserve : ∀ (w : Deeds) (c : Call), (venues inp).serve w c (inp.reply now decision placement c)
      (w.after c (inp.reply now decision placement c)) := by
    intro w c
    refine ⟨?_, rfl⟩
    cases c <;> trivial
  exact ⟨exec_play hserve (run_once cfg t.state) Deeds.none, rfl⟩

/-- Production settings, on Kalshi alone. -/
def lone_config : Config where
  auto_close := true
  max_auto_close_notional_usd := 30
  max_auto_close_spread_bps := 1000
  penny_cost_threshold_usd := 5 / 100
  close_retry_window_s := 300
  max_cum_close_mult := 2
  one_le_mult := by norm_num
  has_mitigation_engine := true
  has_engine := false
  has_store := false
  has_price_store := false
  polymarket_us := true
  place_fok := fun _ => true
  place_unwind_sell := fun _ => true
  fromisoformat := fun _ => none
  spelled := fun _ => ""
  float_text := fun _ => none

/-- Kalshi's answer with these entries, the other venues not configured. -/
def kalshi_book (entries : List (Json ℚ)) : Inputs where
  configured := fun platform => platform = "kalshi"
  kalshi := some { status := 200, body := some (.obj [("market_positions", .arr entries)]) }
  polymarket := none
  forecastex := none
  available := fun platform => platform = "kalshi"
  records := some []
  records_nodup := no_records_nodup
  update_raises := fun _ => false

/-- Eight contracts of one market. -/
def eight_contracts : Inputs :=
  kalshi_book [.obj [("ticker", .str "KX-1" none), ("position_fp", .num 8),
    ("total_traded_dollars", .num 4)]]

/-- The engine wants the lot closed. -/
def close_it : MitigationDecision := { action := .close_now, autonomous_ok := true }

/-- A new reconciler. -/
def Trace.start : Trace := { state := .new, past := [] }

/-- One cycle that sells the eight. -/
def sold_once (placement : Placement) : Trace :=
  Trace.start.then lone_config eight_contracts 1000 close_it placement

/-- Three cycles, each past the cooldown of the one before. -/
def sold_thrice (placement : Placement) : Trace :=
  ((sold_once placement).then lone_config eight_contracts 2000 close_it placement).then
    lone_config eight_contracts 3000 close_it placement

theorem start_reachable : Reachable (cycles lone_config) .start := .init ⟨rfl, rfl⟩

theorem sold_once_reachable (placement : Placement) :
    Reachable (cycles lone_config) (sold_once placement) :=
  start_reachable.step (step_then lone_config .start eight_contracts 1000 close_it placement)

theorem sold_thrice_reachable (placement : Placement) :
    Reachable (cycles lone_config) (sold_thrice placement) :=
  ((sold_once_reachable placement).step (step_then lone_config _ eight_contracts 2000 close_it
    placement)).step (step_then lone_config _ eight_contracts 3000 close_it placement)

/-- A sale that the venue filled with nothing. -/
def unfilled_sale : Order ℚ where
  order_id := "K-1"
  platform := "kalshi"
  market_id := "KX-1"
  canonical_id := "KX-1"
  side := .yes
  price := 0
  quantity := 8
  status := .cancelled
  fill_price := 0
  fill_qty := 0
  error := ""
  external_client_order_id := none
  idempotency_ambiguous := false

/-- Sixteen is the whole number below twice eight and the tolerance. -/
theorem exact_eight : Exact lone_config 8 := by
  intro n hn
  have hmult : lone_config.max_cum_close_mult = 2 := rfl
  rw [hmult] at hn ⊢
  have hlt : (n : ℚ) < 17 := lt_of_le_of_lt hn (by norm_num)
  have hle : n ≤ 16 := by
    have : n < 17 := by exact_mod_cast hlt
    omega
  calc (n : ℚ) ≤ (16 : ℕ) := by exact_mod_cast hle
    _ = 2 * 8 := by norm_num

theorem mitigation_capped_sold_once :
    Capped lone_config (sold_once (.returned unfilled_sale)) ∧
      spent lone_config ("kalshi", "KX-1") (sold_once (.returned unfilled_sale)).past = 8 := by
  have hlots : eight_contracts.lots lone_config = [(("kalshi", "KX-1"), 8)] := by decide
  have hok : no_lost_orders lone_config .start (eight_contracts,
      (Trace.start.cycle lone_config eight_contracts 1000 close_it (.returned unfilled_sale)).2) := by
    refine ⟨by decide +kernel, fun lot hlot => ?_⟩
    rw [hlots, List.mem_singleton] at hlot
    rw [hlot]
    exact exact_eight
  have hstart : Reachable ((cycles lone_config).restrict (no_lost_orders lone_config)) .start :=
    .init ⟨rfl, rfl⟩
  exact ⟨mitigation_capped lone_config _ (hstart.step ⟨hok, step_then lone_config .start _ _ _ _⟩),
    by decide +kernel⟩

/-- The venue takes the sale and the call raises: nothing is counted, and 24 contracts
    are sold for a lot of 8 under a cap of 16. -/
theorem mitigation_uncapped :
    Reachable (cycles lone_config) (sold_thrice (.raised "timeout" true)) ∧
      ¬ Capped lone_config (sold_thrice (.raised "timeout" true)) := by
  refine ⟨sold_thrice_reachable _, fun h => ?_⟩
  have hcap := h ("kalshi", "KX-1")
  exact absurd hcap (by decide +kernel)

/-! ## Section 4: The accounting never starts afresh -/

/-- For how many cycles in a row a lot has been reported flat. -/
def flat_streak (cfg : Config) (key : Key) : List Past → ℕ
  | [] => 0
  | p :: rest => if p.inputs.reports_flat cfg key then flat_streak cfg key rest + 1 else 0

/-- A property of every state of a run, and of what led to it. -/
def Throughout (P : Reconciler → List Past → Prop) : Reconciler → List Past → Prop
  | s, [] => P s []
  | s, p :: rest => P s (p :: rest) ∧ Throughout P p.before rest

/-- The last cycle cleared exactly the counts of the lots whose venue reported them flat for
    the third cycle in a row. -/
def ResetsExactly (cfg : Config) (s : Reconciler) : List Past → Prop
  | [] => True
  | p :: rest => ∀ key, p.before.cum_close_submitted key ≠ 0 →
      (s.cum_close_submitted key = 0 ↔ cap_absent_limit ≤ flat_streak cfg key (p :: rest))

/-- No lot with a count has been reported flat for three cycles in a row. -/
def NeverDue (cfg : Config) (_ : Reconciler) : List Past → Prop
  | [] => True
  | p :: rest => ∀ key, p.before.cum_close_submitted key ≠ 0 →
      flat_streak cfg key (p :: rest) < cap_absent_limit

section reset

variable {cfg : Config} {inp : Inputs} {s s' : Reconciler} {w w' : Deeds}

theorem Mitigates.grows {pos : StrandedPosition} (h : Mitigates cfg s pos w s' w') (key : Key) :
    s.cum_close_submitted key ≤ s'.cum_close_submitted key := by
  cases h with
  | nothing _ hsubmitted _ => rw [hsubmitted]
  | weighed hw => rw [hw.submitted]
  | lost hw _ _ => rw [hw.submitted]
  | @counted s₁ _ order _ hw _ _ heq =>
    rw [heq, ← hw.submitted]
    by_cases hkey : key = pos.key
    · subst hkey
      simp [note_mitigation_submitted]
    · simp [note_mitigation_submitted, hkey]

theorem Mitigates.view {pos : StrandedPosition} (h : Mitigates cfg s pos w s' w') :
    SameView s s' := by
  cases h with
  | nothing hview _ _ => exact hview
  | weighed hw => exact hw.view
  | lost hw _ _ => exact hw.view
  | counted _ hw _ _ heq =>
    rw [heq]
    exact ⟨hw.view.tracked, hw.view.absent, hw.view.phantom⟩

/-- A cycle keeps the tracker tidy, and no count ever shrinks. -/
theorem run_once_grows (htidy : Tidy s) :
    wp (venues inp) (run_once cfg s) (fun s' _ => Tidy s' ∧
      ∀ key, s.cum_close_submitted key ≤ s'.cum_close_submitted key) w := by
  have hbegin : ∀ s₁, Begins cfg inp s s₁ → Tidy s₁ ∧
      ∀ key, s.cum_close_submitted key ≤ s₁.cum_close_submitted key := by
    intro s₁ hb
    refine ⟨hb.tidy, fun key => ?_⟩
    rw [hb.accounts.submitted]
  have hsame : ∀ s₁ s₂ : Reconciler, s₂.tracked = s₁.tracked →
      s₂.cap_absent_cycles = s₁.cap_absent_cycles → Tidy s₁ → Tidy s₂ := by
    intro s₁ s₂ htracked habsent h key hhas
    rw [habsent]
    rw [htracked] at hhas
    exact h key hhas
  refine run_once_rule (J := fun s₁ _ => Tidy s₁ ∧ ∀ key, s.cum_close_submitted key ≤
    s₁.cum_close_submitted key) htidy hbegin ?_ ?_
  · intro pos _ s₁ w₁ s₂ w₂ h hm
    exact ⟨hsame s₁ s₂ hm.view.tracked hm.view.absent h.1,
      fun key => (h.2 key).trans (hm.grows key)⟩
  · intro raw s₂ w₂ _ h
    refine wp_mono sweep_book fun s₃ w₃ h₃ => ⟨hsame s₂ s₃ h₃.1.tracked h₃.1.absent h.1, fun key => ?_⟩
    rw [h₃.1.submitted]
    exact h.2 key

end reset

/-- Kalshi's book without the lot. -/
def nothing_held : Inputs := kalshi_book []

/-- The eight are sold without a fill, and the book is then flat for three cycles. -/
def flat_for_three : Trace :=
  (((sold_once (.returned unfilled_sale)).then lone_config nothing_held 1030 close_it
    (.returned unfilled_sale)).then lone_config nothing_held 1060 close_it
    (.returned unfilled_sale)).then lone_config nothing_held 1090 close_it (.returned unfilled_sale)

end Stranded
