import Arbiter.Adapters.OrderBooks
import Arbiter.Execution.AutoExecutor

/-! # Adaptive Sizing

  Before an opportunity is handed to the engine each leg's book is asked whether it holds the
  order, or as many contracts as make a certain sum if that is more. A book that does not is
  asked for half as many, and half of that, until it does; the order is then made as small.

  ## Contents

  - Section 1: the halving.
  - Section 2: what the adapters have said.
  - Section 3: the size that is returned is sound.
  - Section 4: at least half of what the books hold is taken.
-/

namespace AutoExecutor

open Truncate
open Execution (Side)
open Scanner (ArbitrageOpportunity PricePoint)

/-! ## Section 1: Halving -/

/-- The second quantity is the first that the book holds of the first one, its half, the half of
    that, and so on. -/
inductive Halved (again : ℕ → Option Bool) : ℕ → ℕ → Prop
  | here {try_qty : ℕ} (hpos : try_qty ≠ 0) (hheld : again try_qty = some true) :
      Halved again try_qty try_qty
  | later {try_qty absorbed : ℕ} (hpos : try_qty ≠ 0) (hlow : again try_qty = some false)
      (hrest : Halved again (try_qty / 2) absorbed) : Halved again try_qty absorbed

section halving

variable {again : ℕ → Option Bool} {try_qty absorbed : ℕ}

theorem Halved.pos (h : Halved again try_qty absorbed) : absorbed ≠ 0 := by
  induction h with
  | here hpos _ => exact hpos
  | later _ _ _ ih => exact ih

theorem Halved.held (h : Halved again try_qty absorbed) : again absorbed = some true := by
  induction h with
  | here _ hheld => exact hheld
  | later _ _ _ ih => exact ih

/-- The search ends at a quantity exactly where halving leads to it. -/
theorem absorbed_qty_eq_some_iff (hpos : absorbed ≠ 0) :
    absorbed_qty again try_qty = some absorbed ↔ Halved again try_qty absorbed := by
  -- a halved quantity is smaller: the search ends at zero, if not before
  induction try_qty using Nat.strongRecOn with
  | ind try_qty ih =>
    rw [absorbed_qty]
    by_cases hzero : try_qty = 0
    · rw [if_pos hzero, Option.some.injEq]
      constructor
      · exact fun h => absurd h.symm hpos
      · intro h
        cases h with
        | here hne _ => exact absurd hzero hne
        | later hne _ _ => exact absurd hzero hne
    rw [if_neg hzero]
    have hstep := ih (try_qty / 2) (by omega)
    cases hagain : again try_qty with
    | none =>
      constructor
      · intro h
        cases h
      · intro h
        cases h with
        | here _ hheld => exact absurd (hagain.symm.trans hheld) nofun
        | later _ hlow _ => exact absurd (hagain.symm.trans hlow) nofun
    | some held =>
      cases held with
      | true =>
        constructor
        · intro h
          cases h
          exact .here hzero hagain
        · intro h
          cases h with
          | here _ _ => rfl
          | later _ hlow _ => exact absurd (hagain.symm.trans hlow) nofun
      | false =>
        constructor
        · exact fun h => .later hzero hagain (hstep.mp h)
        · intro h
          cases h with
          | here _ hheld => exact absurd (hagain.symm.trans hheld) nofun
          | later _ _ hrest => exact hstep.mpr hrest

/-- In a book of `held` contracts halving leads to at least half of them, from at least half. -/
theorem exists_halved {held : ℕ}
    (hanswers : ∀ n, 1 ≤ n → again n = some (decide (n ≤ held))) (hheld : 1 ≤ held)
    (hhalf : held ≤ 2 * try_qty) :
    ∃ absorbed, Halved again try_qty absorbed ∧ held ≤ 2 * absorbed := by
  induction try_qty using Nat.strongRecOn with
  | ind try_qty ih =>
    by_cases hle : try_qty ≤ held
    · refine ⟨try_qty, .here (by omega) ?_, hhalf⟩
      rw [hanswers _ (by omega), decide_eq_true hle]
    · -- more than the book holds, so its half is at least half of that
      obtain ⟨absorbed, hrest, hbound⟩ := ih (try_qty / 2) (by omega) (by omega)
      refine ⟨absorbed, .later (by omega) ?_ hrest, hbound⟩
      rw [hanswers _ (by omega), decide_eq_false hle]

end halving

/-! ## Section 2: Answers -/

/-- `required_qty_for_depth`: the order, and `min_depth_usd` in any case. -/
def required_qty_for_depth (cfg : AutoExecutorConfig) (qty : ℕ) (price : ℚ≥0) : ℕ :=
  max qty (whole (cfg.min_depth_usd / max (price : ℚ) (1 / 100) + 1 / 2)).toNat

/-- A leg's adapter was asked for a quantity and has said that the book holds it. -/
inductive AnsweredSufficient (cfg : AutoExecutorConfig) (qty : ℕ) (price : ℚ≥0) :
    Option Depth → ℕ → Prop
  /-- At the first question. -/
  | at_once {depth : Depth}
      (hheld : depth.first (required_qty_for_depth cfg qty price) = some true) :
      AnsweredSufficient cfg qty price (some depth) (required_qty_for_depth cfg qty price)
  /-- While halving. -/
  | halved {depth : Depth} {absorbed : ℕ}
      (hlow : depth.first (required_qty_for_depth cfg qty price) = some false)
      (hhalved : Halved depth.again (max 1 (required_qty_for_depth cfg qty price / 2)) absorbed) :
      AnsweredSufficient cfg qty price (some depth) absorbed

section answers

variable {cfg : AutoExecutorConfig} {depth : Option Depth} {qty adaptive left : ℕ} {price : ℚ≥0}

/-- What a leg's book leaves, it has been said to hold. -/
theorem side_depth_answered (hadaptive : adaptive ≤ qty)
    (h : side_depth cfg depth qty price adaptive = some left) :
    ∃ n, left ≤ n ∧ AnsweredSufficient cfg qty price depth n := by
  unfold side_depth at h
  cases depth with
  | none => cases h
  | some depth =>
    simp only at h
    split at h
    · cases h
    · next hheld =>
      obtain rfl := Option.some.inj h
      exact ⟨_, hadaptive.trans (le_max_left _ _), .at_once hheld⟩
    · next hlow =>
      rw [Option.ite_none_left_eq_some] at h
      obtain ⟨-, h⟩ := h
      split at h
      · cases h
      · cases h
      · next absorbed hne habsorbed =>
        have hpos : absorbed ≠ 0 := fun hzero => hne (by rw [hzero])
        obtain rfl := Option.some.inj h
        exact ⟨absorbed, min_le_right _ _,
          .halved hlow ((absorbed_qty_eq_some_iff hpos).mp habsorbed)⟩

/-- What both leave. -/
theorem adaptive_qty_answered {depth : Side → Option Depth} {yes_price no_price : ℚ≥0}
    (hqty : 0 < qty) (h : adaptive_qty cfg depth qty yes_price no_price = some left) :
    (∃ n, left ≤ n ∧ AnsweredSufficient cfg qty yes_price (depth .yes) n) ∧
      ∃ n, left ≤ n ∧ AnsweredSufficient cfg qty no_price (depth .no) n := by
  rw [adaptive_qty, Option.bind_eq_some_iff] at h
  obtain ⟨mid, hyes, hno⟩ := h
  obtain ⟨hmid, hmid_le, -⟩ := side_depth_spec hqty hyes
  obtain ⟨-, hleft_le, -⟩ := side_depth_spec hmid hno
  obtain ⟨n, hn, hanswered⟩ := side_depth_answered le_rfl hyes
  exact ⟨⟨n, hleft_le.trans hn, hanswered⟩, side_depth_answered hmid_le hno⟩

/-- The adapter answers, and says a book holds a quantity exactly up to `held`. -/
def AnswersUpTo (depth : Option Depth) (held : ℕ) : Prop :=
  ∃ d, depth = some d ∧ ∀ n, 1 ≤ n → d.first n = some (decide (n ≤ held)) ∧
    d.again n = some (decide (n ≤ held))

/-- So does the adapter of a venue whose walkers agree with its book. -/
theorem answers_up_to_of_walkers_agree {levels : List OrderBooks.BookLevel}
    {check_depth best_executable_price : ℕ → Option (Bool × ℚ)}
    (hsize : ∀ level ∈ levels, 0 ≤ level.size)
    (h : OrderBooks.WalkersAgree levels check_depth best_executable_price) :
    AnswersUpTo (some ⟨fun n => (check_depth n).map Prod.fst,
      fun n => (check_depth n).map Prod.fst⟩) ⌊OrderBook.total levels⌋₊ := by
  obtain ⟨answer, price, hagree, hanswers⟩ := h
  refine ⟨_, rfl, fun n hn => ?_⟩
  have hheld : (answer n).1 = decide (n ≤ ⌊OrderBook.total levels⌋₊) := by
    rw [Bool.eq_iff_iff, hagree.depth_sufficient n hn, decide_eq_true_iff,
      Nat.le_floor_iff (OrderBook.total_nonneg hsize)]
  dsimp only
  rw [(hanswers n).1, Option.map_some, hheld]
  exact ⟨rfl, rfl⟩

/-- A leg of which the book holds something is not skipped: nothing is taken off, or at least
    half of what the book holds is left. -/
theorem side_depth_of_answers {held : ℕ} (hsizes : cfg.liquidity_adaptive_sizing = true)
    (hqty : 1 ≤ qty) (hanswers : AnswersUpTo depth held) (hheld : 1 ≤ held) :
    ∃ left, side_depth cfg depth qty price adaptive = some left ∧
      (left = adaptive ∨ held ≤ 2 * left) := by
  obtain ⟨d, rfl, hanswers⟩ := hanswers
  obtain ⟨required, hrequired⟩ : ∃ required, required = required_qty_for_depth cfg qty price :=
    ⟨_, rfl⟩
  have hasked : 1 ≤ required_qty_for_depth cfg qty price := hqty.trans (le_max_left _ _)
  by_cases hle : required ≤ held
  · have hfirst : d.first (required_qty_for_depth cfg qty price) = some true := by
      rw [(hanswers _ hasked).1, ← hrequired, decide_eq_true hle]
    refine ⟨adaptive, ?_, .inl rfl⟩
    simp only [side_depth]
    rw [required_qty_for_depth] at hfirst
    rw [hfirst]
  · have hfirst : d.first (required_qty_for_depth cfg qty price) = some false := by
      rw [(hanswers _ hasked).1, ← hrequired, decide_eq_false hle]
    have hhalf : held ≤ 2 * max 1 (required / 2) := by omega
    obtain ⟨absorbed, hhalved, hbound⟩ := exists_halved (fun n hn => (hanswers n hn).2) hheld hhalf
    have habsorbed := (absorbed_qty_eq_some_iff hhalved.pos).mpr hhalved
    refine ⟨min adaptive absorbed, ?_, by omega⟩
    simp only [side_depth]
    rw [hrequired, required_qty_for_depth] at habsorbed
    rw [required_qty_for_depth] at hfirst
    rw [hfirst, if_neg (not_not.mpr hsizes), habsorbed]
    cases absorbed with
    | zero => exact absurd rfl hhalved.pos
    | succ n => rfl

end answers

/-! ## Section 3: A sound size -/

/-- The contracts an opportunity is for, as the checks and the engine read it. -/
def contracts (opp : ArbitrageOpportunity) : ℕ := max opp.suggested_qty 1

/-- The net edge in cents at fresh prices, with the fees of `qty` contracts. -/
def edge_cents_at (opp : ArbitrageOpportunity) (yes no : PricePoint) (yes_rate no_rate : ℚ≥0)
    (qty : ℕ) : ℚ :=
  (1 - yes.yes_price - no.no_price -
    fees_at opp yes.yes_price no.no_price yes_rate no_rate qty) * 100

/-- What is asked of the size of an opportunity that is returned. -/
structure SoundSize (cfg : AutoExecutorConfig) (depth : Side → Option Depth) (yes no : PricePoint)
    (yes_rate no_rate : ℚ≥0) (opp opp' : ArbitrageOpportunity) : Prop where
  pos : 1 ≤ contracts opp'
  le : contracts opp' ≤ contracts opp
  /-- The quantity is written into it, unless none was in the one that came. -/
  suggested : 0 < opp.suggested_qty → opp'.suggested_qty = contracts opp'
  yes_depth : ∃ n, contracts opp' ≤ n ∧
    AnsweredSufficient cfg (contracts opp) yes.yes_price (depth .yes) n
  no_depth : ∃ n, contracts opp' ≤ n ∧
    AnsweredSufficient cfg (contracts opp) no.no_price (depth .no) n
  net_edge_cents : opp'.net_edge_cents = edge_cents_at opp yes no yes_rate no_rate (contracts opp')
  floor : cfg.edge_floor_for opp.yes_platform opp.no_platform ≤
    edge_cents_at opp yes no yes_rate no_rate (contracts opp')

section sizing

variable {cfg : AutoExecutorConfig} {depth : Side → Option Depth} {yes no : PricePoint}
         {yes_rate no_rate : ℚ≥0} {now : ℚ} {opp opp' : ArbitrageOpportunity} {quotes : Quotes}

/-- On two fresh quotes. -/
theorem pre_flight_sound (h : pre_flight cfg depth yes no yes_rate no_rate now opp = some opp') :
    SoundSize cfg depth yes no yes_rate no_rate opp opp' := by
  obtain ⟨left, hleft, hpos, hle, hfloor, rfl⟩ := pre_flight_cases h
  have hqty : 0 < contracts opp := Nat.lt_of_lt_of_le Nat.one_pos (le_max_right _ _)
  obtain ⟨hyes, hno⟩ := adaptive_qty_answered hqty hleft
  by_cases hless : left < max opp.suggested_qty 1
  · -- the books made it smaller: the fees and the edge are those of what is left
    rw [if_pos hless]
    have hcontracts : contracts (resized (requoted opp yes no yes_rate no_rate now left) left) =
        left := Nat.max_eq_left hpos
    constructor
    · rw [hcontracts]
      exact hpos
    · rw [hcontracts]
      exact hle
    · intro _
      exact hcontracts.symm
    · rw [hcontracts]
      exact hyes
    · rw [hcontracts]
      exact hno
    · rw [hcontracts]
      rfl
    · rw [hcontracts]
      exact hfloor
  · -- nothing was taken off
    have hfull : left = contracts opp := by
      rw [contracts]
      omega
    rw [if_neg hless]
    rw [hfull] at hyes hno hfloor ⊢
    exact
      { pos := hqty
        le := le_rfl
        suggested := fun hone => (Nat.max_eq_left hone).symm
        yes_depth := hyes
        no_depth := hno
        net_edge_cents := rfl
        floor := hfloor }

/-! ## Section 4: No waste -/

/-- The books of both legs hold something: what they leave is all, or at least half of what one
    of them holds. -/
theorem adaptive_qty_of_answers {qty held_yes held_no : ℕ} {yes_price no_price : ℚ≥0}
    (hsizes : cfg.liquidity_adaptive_sizing = true) (hqty : 1 ≤ qty)
    (hyes : AnswersUpTo (depth .yes) held_yes)
    (hno : AnswersUpTo (depth .no) held_no) (hheld_yes : 1 ≤ held_yes) (hheld_no : 1 ≤ held_no) :
    ∃ left, adaptive_qty cfg depth qty yes_price no_price = some left ∧
      (left = qty ∨ held_yes ≤ 2 * left ∨ held_no ≤ 2 * left) := by
  obtain ⟨mid, hmid, hmid_bound⟩ :
      ∃ mid, side_depth cfg (depth .yes) qty yes_price qty = some mid ∧
        (mid = qty ∨ held_yes ≤ 2 * mid) := side_depth_of_answers hsizes hqty hyes hheld_yes
  obtain ⟨left, hleft, hleft_bound⟩ :
      ∃ left, side_depth cfg (depth .no) qty no_price mid = some left ∧
        (left = mid ∨ held_no ≤ 2 * left) := side_depth_of_answers hsizes hqty hno hheld_no
  refine ⟨left, ?_, ?_⟩
  · rw [adaptive_qty, hmid, Option.bind_some, hleft]
  · rcases hleft_bound with rfl | hno_bound
    · rcases hmid_bound with rfl | hyes_bound
      · exact .inl rfl
      · exact .inr (.inl hyes_bound)
    · exact .inr (.inr hno_bound)

/-- An edge that clears the floor at every quantity is never let go. -/
theorem pre_flight_isSome {left : ℕ}
    (hedge : ∀ qty, 1 ≤ qty → cfg.edge_floor_for opp.yes_platform opp.no_platform ≤
      edge_cents_at opp yes no yes_rate no_rate qty)
    (hleft : adaptive_qty cfg depth (contracts opp) yes.yes_price no.no_price = some left) :
    ∃ opp', pre_flight cfg depth yes no yes_rate no_rate now opp = some opp' ∧
      left ≤ contracts opp' := by
  have hfloor (qty : ℕ) (hqty : 1 ≤ qty) :
      ¬ (requoted opp yes no yes_rate no_rate now qty).net_edge_cents <
        cfg.edge_floor_for opp.yes_platform opp.no_platform := not_lt.mpr (hedge qty hqty)
  have hqty : 1 ≤ contracts opp := le_max_right _ _
  obtain ⟨hpos, hle, -⟩ := adaptive_qty_spec hqty hleft
  simp only [pre_flight]
  rw [contracts] at hqty hleft hle
  rw [if_neg (hfloor _ hqty), hleft]
  by_cases hless : left < max opp.suggested_qty 1 ∧ cfg.liquidity_adaptive_sizing = true
  · refine ⟨_, (if_pos hless).trans (if_neg (hfloor _ (le_max_left _ _))), ?_⟩
    show left ≤ max (max 1 left) 1
    omega
  · exact ⟨_, if_neg hless, hle⟩

end sizing

/-- **Adaptive sizing is sound and not wasteful.** The size of an opportunity that is returned
    is at least one contract and at most what was asked for, each leg's adapter has said that
    its book holds as many, and at that size the edge is above the floor. And where the books
    hold something and the edge clears the floor at every size, an opportunity is returned, of
    all that was asked for or half of what one of the books holds. -/
theorem adaptive_sizing (cfg : AutoExecutorConfig) (quotes : Quotes) (depth : Side → Option Depth)
    (opp : ArbitrageOpportunity) (hsizes : cfg.liquidity_adaptive_sizing = true) :
    (∀ opp', pre_flight_checks cfg (some quotes) depth opp = some opp' →
      ∃ yes no yes_rate no_rate, quotes.Fresh cfg yes no yes_rate no_rate ∧
        SoundSize cfg depth yes no yes_rate no_rate opp opp') ∧
    ∀ yes no yes_rate no_rate held_yes held_no, quotes.Fresh cfg yes no yes_rate no_rate →
      AnswersUpTo (depth .yes) held_yes → AnswersUpTo (depth .no) held_no →
      1 ≤ held_yes → 1 ≤ held_no →
      (∀ qty, 1 ≤ qty → cfg.edge_floor_for opp.yes_platform opp.no_platform ≤
        edge_cents_at opp yes no yes_rate no_rate qty) →
      ∃ opp', pre_flight_checks cfg (some quotes) depth opp = some opp' ∧
        min (contracts opp : ℚ) (min (held_yes / 2) (held_no / 2)) ≤ contracts opp' := by
  constructor
  · intro opp' h
    obtain ⟨yes, no, yes_rate, no_rate, hfresh, hflight⟩ := pre_flight_checks_cases h
    exact ⟨yes, no, yes_rate, no_rate, hfresh, pre_flight_sound hflight⟩
  · intro yes no yes_rate no_rate held_yes held_no hfresh hyes hno hheld_yes hheld_no hedge
    rw [pre_flight_checks_of_fresh hfresh]
    obtain ⟨left, hleft, hbound⟩ :=
      adaptive_qty_of_answers hsizes (le_max_right _ _) hyes hno hheld_yes hheld_no
    obtain ⟨opp', hsome, hle⟩ := pre_flight_isSome hedge hleft
    refine ⟨opp', hsome, ?_⟩
    have hle' : (left : ℚ) ≤ contracts opp' := by exact_mod_cast hle
    -- all that was asked for, or the halving has stopped within a factor of two
    rcases hbound with rfl | hyes_bound | hno_bound
    · exact (min_le_left _ _).trans hle'
    · have hhalf : (held_yes : ℚ) ≤ 2 * left := by exact_mod_cast hyes_bound
      refine (min_le_right _ _).trans ((min_le_left _ _).trans ?_)
      linarith
    · have hhalf : (held_no : ℚ) ≤ 2 * left := by exact_mod_cast hno_bound
      refine (min_le_right _ _).trans ((min_le_right _ _).trans ?_)
      linarith

/-- Both quotes of the house. -/
def house_quotes : Quotes where
  yes := .ok (some Scanner.kalshi_quote)
  no := .ok (some (Scanner.polymarket_quote (some (4 / 100))))
  now := 1001

/-- Ten contracts on Kalshi, a hundred on Polymarket. -/
def thin_depth : Side → Option Depth
  | .yes => some ⟨fun n => some (decide (n ≤ 10)), fun n => some (decide (n ≤ 10))⟩
  | .no => some ⟨fun n => some (decide (n ≤ 100)), fun n => some (decide (n ≤ 100))⟩

/-- `adaptive_sizing` of the house in a thin book: of forty contracts seven are left. -/
theorem adaptive_sizing_thin :
    ∃ opp', pre_flight_checks default_config (some house_quotes) thin_depth
        Scanner.house_opportunity = some opp' ∧ opp'.suggested_qty = 7 ∧
      ∃ yes no yes_rate no_rate, house_quotes.Fresh default_config yes no yes_rate no_rate ∧
        SoundSize default_config thin_depth yes no yes_rate no_rate
          Scanner.house_opportunity opp' := by
  have hqty : (pre_flight_checks default_config (some house_quotes) thin_depth
      Scanner.house_opportunity).map ArbitrageOpportunity.suggested_qty = some 7 := by
    decide +kernel
  obtain ⟨opp', hsome, hseven⟩ := Option.map_eq_some_iff.mp hqty
  exact ⟨opp', hsome, hseven, (adaptive_sizing default_config house_quotes thin_depth
    Scanner.house_opportunity rfl).1 opp' hsome⟩

end AutoExecutor
