import Arbiter.Stranded.Paired
import Arbiter.Stranded.Phantom
import Arbiter.Stranded.Review

/-! # Lots against the Records

  What a cycle shows of a venue that does not hold what the filled arbs say. The netting
  takes the smaller of the two quantities: what is held beyond the records is left over as
  stranded, what is missing from them leaves nothing. The sweep looks at no record that is
  `filled`.

  ## Contents

  - Section 1: a cycle with its ledger.
  - Section 2: what the venues hold.
  - Section 3: what the records leave uncovered.
  - Section 4: the lots after a cycle.
  - Section 5: three cycles with seven contracts missing.
-/

namespace Stranded

open Effect Execution

/-! ## Section 1: Cycles -/

/-- What a cycle is told: by the venues, by the store, by the engine. -/
structure Audit where
  inp : Inputs
  store : Store
  /-- `MitigationEngine.decide`; nothing when it raises. -/
  decision : StrandedPosition → Option MitigationDecision

/-- What the store and the engine say. -/
def Audit.opinions (a : Audit) : Opinions where
  inventory := some (paired_inventory_by_market a.store)
  decision := a.decision

/-- The answers of the store and of the engine. -/
def Audit.tells (a : Audit) : (c : Call) → Answer c → Prop
  | .paired_inventory_by_market, ans => ans = a.opinions.inventory
  | .decide view, ans => ans = a.opinions.decision view
  | _, _ => True

/-- The environment of the cycle. -/
def audited (a : Audit) : Env Call Answer Deeds := (venues a.inp).restrict fun _ => a.tells

theorem audited_tells (a : Audit) : Says (audited a) a.opinions :=
  ⟨fun _ _ _ hs => ⟨hs.1, hs.2.2⟩, fun _ _ _ _ hs => ⟨hs.1, hs.2.2⟩⟩

/-- What the records of the filled arbs say of a market, net: on ForecastEx both sides are
    longs. -/
def recorded_net (inventory : Inventory) (key : Key) : ℚ :=
  let platform := key.1.toLower
  if platform = "forecastex" then inventory platform key.2 .yes + inventory platform key.2 .no
  else inventory platform key.2 .yes - inventory platform key.2 .no

/-- The records the cycle goes by. -/
def Audit.recorded (cfg : Config) (a : Audit) (key : Key) : ℚ :=
  recorded_net (a.opinions.paired cfg) key

/-- What is held beyond the records: all of it, unless they are on the same side. -/
def excess (held recorded : ℚ) : ℚ :=
  if 0 < held * recorded then max (|held| - |recorded|) 0 else |held|

/-! ## Section 2: What the venues hold -/

/-- The quantity a venue holds on a market: as it is listed last. -/
def Inputs.held (cfg : Config) (inp : Inputs) (key : Key) : Option ℚ :=
  ((inp.lots cfg).reverse.find? fun lot => lot.1 = key).map (·.2)

theorem Tracker.lookup_foldl_put (l : List StrandedPosition) (key : Key) :
    (l.foldl Tracker.put .empty).lookup key = l.reverse.find? fun pos => pos.key = key := by
  induction l using List.reverseRecOn with
  | nil => rfl
  | append_singleton l pos ih =>
    rw [List.foldl_append, List.foldl_cons, List.foldl_nil, List.reverse_append,
      List.reverse_singleton, List.singleton_append, List.find?_cons]
    by_cases hkey : pos.key = key
    · subst hkey
      rw [Tracker.lookup_put]
      simp
    · rw [Tracker.lookup_put_ne (Ne.symm hkey), ih]
      simp [hkey]

/-- What the survey observes of a market is the quantity the venue holds. -/
def Observes (cfg : Config) (inp : Inputs) (sight : Sighting) : Prop :=
  ∀ key, (sight.observed.lookup key).map (·.qty) = inp.held cfg key

section held

variable {cfg : Config} {inp : Inputs}

theorem sighting_observes {kalshi polymarket forecastex : Option (List StrandedPosition)}
    (hk : Brings cfg inp "kalshi" kalshi) (hp : Brings cfg inp "polymarket" polymarket)
    (hf : Brings cfg inp "forecastex" forecastex) :
    Observes cfg inp
      (sighting [("kalshi", kalshi), ("polymarket", polymarket), ("forecastex", forecastex)]) := by
  intro key
  have hlots := brought_lots hk hp hf
  unfold sighting Inputs.held
  dsimp only
  rw [Tracker.lookup_foldl_put, ← hlots, ← List.map_reverse, List.find?_map, Option.map_map]
  rfl

theorem survey_observes {w : Deeds} :
    wp (venues inp) (survey cfg) (fun sight w' => Sights cfg inp sight ∧ Observes cfg inp sight ∧
      w' = w) w := by
  have hsurvey : wp (venues inp) (survey cfg)
      (fun sight w' => (Sights cfg inp sight ∧ Observes cfg inp sight) ∧ w' = w) w :=
    survey_brings fun hk hp hf => ⟨sighting_sights hk hp hf, sighting_observes hk hp hf⟩
  exact wp_mono hsurvey fun _ _ h => ⟨h.1.1, h.1.2, h.2⟩

/-! No venue lists a lot of nothing. -/

theorem read_lots_nonzero {read : Json ℚ → Option (Option Lot)}
    (hread : ∀ p lot, read p = some (some lot) → lot.qty ≠ 0) {items : List (Json ℚ)}
    {lots : List Lot} (h : read_lots read items = some lots) : ∀ lot ∈ lots, lot.qty ≠ 0 := by
  induction items generalizing lots with
  | nil =>
    cases h
    simp
  | cons p rest ih =>
    unfold read_lots at h
    split at h
    · next hrest =>
      cases h
      exact ih hrest
    · next lot later hp hrest =>
      cases h
      exact List.forall_mem_cons.mpr ⟨hread p lot hp, ih hrest⟩
    · exact absurd h nofun

theorem kalshi_lot_nonzero (p : Json ℚ) (lot : Lot) (h : kalshi_lot cfg p = some (some lot)) :
    lot.qty ≠ 0 := by
  unfold kalshi_lot at h
  split at h
  · exact absurd h nofun
  split at h
  · exact absurd h nofun
  split at h
  · exact absurd h (by simp)
  · next hqty =>
    split at h
    · cases h
      exact hqty
    · exact absurd h nofun

theorem polymarket_lot_nonzero {slug : String} {p : Json ℚ} {lot : Lot}
    (h : polymarket_lot cfg slug p = some (some lot)) : lot.qty ≠ 0 := by
  unfold polymarket_lot at h
  split at h
  · exact absurd h nofun
  split at h
  · exact absurd h nofun
  split at h
  · exact absurd h (by simp)
  · next hnet =>
    dsimp only at h
    split at h
    · exact absurd h nofun
    split at h
    · cases h
      exact Int.cast_ne_zero.mpr hnet
    · exact absurd h nofun

theorem forecastex_lot_nonzero (p : Json ℚ) (lot : Lot)
    (h : forecastex_lot cfg p = some (some lot)) : lot.qty ≠ 0 := by
  unfold forecastex_lot at h
  split at h
  · exact absurd h (by simp)
  dsimp only at h
  split at h
  · exact absurd h (by simp)
  · next hskip =>
    split at h
    · exact absurd h (by simp)
    · cases h
      exact (not_or.mp hskip).1

theorem kalshi_lots_nonzero {response : Response} {lots : List Lot}
    (h : kalshi_lots cfg response = some lots) : ∀ lot ∈ lots, lot.qty ≠ 0 := by
  unfold kalshi_lots at h
  split at h
  · exact absurd h nofun
  split at h
  · exact absurd h nofun
  split at h
  · exact read_lots_nonzero kalshi_lot_nonzero h
  · exact absurd h nofun

theorem polymarket_lots_nonzero {payload : Json ℚ} {lots : List Lot}
    (h : polymarket_lots cfg payload = some lots) : ∀ lot ∈ lots, lot.qty ≠ 0 := by
  unfold polymarket_lots at h
  split at h
  · split at h
    · next positions hpositions =>
      clear hpositions
      induction positions generalizing lots with
      | nil =>
        cases h
        simp
      | cons entry rest ih =>
        rw [List.foldr_cons] at h
        split at h
        · next hrest =>
          cases h
          exact ih hrest
        · next lot later hentry hrest =>
          cases h
          exact List.forall_mem_cons.mpr ⟨polymarket_lot_nonzero hentry, ih hrest⟩
        · exact absurd h nofun
    · exact absurd h nofun
  · exact absurd h nofun

theorem fetched_nonzero {platform : String} {lots : List Lot}
    (h : inp.fetched cfg platform = some lots) : ∀ lot ∈ lots, lot.qty ≠ 0 := by
  have hnone {ls : List Lot} (h : some [] = some ls) : ∀ lot ∈ ls, lot.qty ≠ 0 := by
    cases h
    simp
  unfold Inputs.fetched at h
  split_ifs at h
  · obtain ⟨response, -, hlots⟩ := Option.bind_eq_some_iff.mp h
    exact kalshi_lots_nonzero hlots
  · exact hnone h
  · exact hnone h
  · obtain ⟨payload, -, hlots⟩ := Option.bind_eq_some_iff.mp h
    exact polymarket_lots_nonzero hlots
  · exact hnone h
  · obtain ⟨positions, -, hlots⟩ := Option.bind_eq_some_iff.mp h
    exact read_lots_nonzero forecastex_lot_nonzero hlots
  · exact hnone h
  · exact hnone h

theorem held_nonzero {key : Key} {held : ℚ} (h : inp.held cfg key = some held) : held ≠ 0 := by
  obtain ⟨⟨key', qty⟩, hfound, rfl⟩ := Option.map_eq_some_iff.mp h
  have hlisted := List.mem_reverse.mp (List.mem_of_find?_eq_some hfound)
  obtain ⟨platform, -, hmem⟩ := List.mem_flatMap.mp hlisted
  obtain ⟨lot, hlot, heq⟩ := List.mem_map.mp hmem
  obtain ⟨-, rfl⟩ := Prod.mk.inj heq
  cases hfetched : inp.fetched cfg platform with
  | none => simp [hfetched] at hlot
  | some lots =>
    rw [hfetched, Option.getD_some] at hlot
    exact fetched_nonzero hfetched lot hlot

end held

/-! ## Section 3: Uncovered contracts -/

section uncovered

variable {inventory : Inventory} {pos : StrandedPosition}

/-- The netting takes what the records have on the side of the lot. -/
theorem covered_qty_eq (hnonneg : ∀ platform market_id side, 0 ≤ inventory platform market_id side) :
    covered_qty pos inventory =
      if 0 < pos.qty * recorded_net inventory pos.key then
        min |pos.qty| |recorded_net inventory pos.key|
      else 0 := by
  have hyes := hnonneg pos.platform.toLower pos.market_id .yes
  have hno := hnonneg pos.platform.toLower pos.market_id .no
  unfold covered_qty recorded_net StrandedPosition.key
  dsimp only
  by_cases hzero : pos.qty = 0
  · simp [hzero]
  rw [if_neg hzero]
  by_cases hfx : pos.platform.toLower = "forecastex"
  · -- both sides are held long there, so the records never net below zero
    simp only [if_pos hfx]
    have hlongs := add_nonneg hyes hno
    by_cases hlong : 0 < pos.qty
    · rw [if_pos hlong, abs_of_nonneg hlongs]
      rcases hlongs.eq_or_lt with hnone | hsome
      · rw [← hnone, mul_zero, if_neg (lt_irrefl 0)]
        exact min_eq_right (abs_nonneg _)
      · rw [if_pos (mul_pos hlong hsome)]
    · rw [if_neg hlong, if_neg]
      exact not_lt.mpr (mul_nonpos_of_nonpos_of_nonneg (not_lt.mp hlong) hlongs)
  · -- elsewhere the lot and the records are on one side where their product is positive
    simp only [if_neg hfx]
    generalize inventory pos.platform.toLower pos.market_id .yes -
      inventory pos.platform.toLower pos.market_id .no = recorded
    by_cases hside : 0 < pos.qty * recorded
    · rw [if_pos hside, if_neg]
      rintro (hnone | hother)
      · simp [hnone] at hside
      · rcases pos_and_pos_or_neg_and_neg_of_mul_pos hside with ⟨hq, hr⟩ | ⟨hq, hr⟩
        · exact hother ⟨fun _ => hq, fun _ => hr⟩
        · exact hother ⟨fun h => absurd h hr.not_gt, fun h => absurd h hq.not_gt⟩
    · rw [if_neg hside, if_pos]
      by_contra hboth
      obtain ⟨hsome, hsame⟩ := not_or.mp hboth
      rw [not_not] at hsame
      rcases lt_or_gt_of_ne hsome with hr | hr
      · have hq : pos.qty < 0 := lt_of_le_of_ne
          (not_lt.mp fun hq => absurd (hsame.mpr hq) hr.not_gt) hzero
        exact hside (mul_pos_of_neg_of_neg hq hr)
      · exact hside (mul_pos (hsame.mp hr) hr)

theorem residual_netted
    (hnonneg : ∀ platform market_id side, 0 ≤ inventory platform market_id side) :
    (netted inventory pos).residual_qty = excess pos.qty (recorded_net inventory pos.key) := by
  show max (|pos.qty| - covered_qty pos inventory) 0 = _
  rw [covered_qty_eq hnonneg]
  unfold excess
  split
  · rcases le_total |pos.qty| |recorded_net inventory pos.key| with h | h
    · rw [min_eq_left h, sub_self, max_self, max_eq_right (sub_nonpos.mpr h)]
    · rw [min_eq_right h]
  · rw [sub_zero, max_eq_left (abs_nonneg _)]

end uncovered

/-! ## Section 4: After a cycle -/

/-- The reconciler shows a lot of the market that is not fully paired. -/
def Notices (s : Reconciler) (key : Key) : Prop :=
  ∃ lot, s.tracked.lookup key = some lot ∧ ¬ lot.fully_paired

section cycle

variable {cfg : Config} {a : Audit} {s s' : Reconciler} {w w' : Deeds} {sight : Sighting}

theorem decided_paired (decision : StrandedPosition → Option MitigationDecision)
    (pos : StrandedPosition) : (decided decision pos).fully_paired ↔ pos.fully_paired := by
  unfold decided
  split
  · rfl
  · cases decision (residual_view pos) <;> rfl

theorem reviewed_lot_paired (o : Opinions) (deferred : Bool) (pos : StrandedPosition) :
    (reviewed_lot cfg o deferred pos).fully_paired ↔ (netted (o.paired cfg) pos).fully_paired := by
  have hheld (pos : StrandedPosition) : (hold_paired pos).fully_paired ↔ pos.fully_paired := by
    unfold hold_paired
    split <;> rfl
  unfold reviewed_lot refreshed
  split_ifs
  · rfl
  · exact (decided_paired _ _).trans (hheld _)
  · exact hheld _

theorem paired_nonneg (platform market_id : String) (side : Side) :
    0 ≤ a.opinions.paired cfg platform market_id side := by
  unfold Opinions.paired
  split
  · exact paired_inventory_nonneg _ _ _ _
  · exact le_refl 0

/-- A lot that was observed is hedged as far as the records go. -/
theorem observed_paired_iff {pos lot : StrandedPosition} (hqty : lot.qty = pos.qty)
    (hkey : lot.key = pos.key) (hnonzero : pos.qty ≠ 0) (deferred : Bool) :
    (reviewed_lot cfg a.opinions deferred lot).fully_paired ↔
      excess pos.qty (a.recorded cfg pos.key) ≤ 1 / 10 ^ 9 := by
  rw [reviewed_lot_paired]
  unfold StrandedPosition.fully_paired
  rw [residual_netted paired_nonneg, hqty, hkey]
  have hheld : 0 < |(netted (a.opinions.paired cfg) lot).qty| := by
    show 0 < |lot.qty|
    rw [hqty]
    exact abs_pos.mpr hnonzero
  exact and_iff_right hheld

/-- **What a cycle notices**: exactly what a venue holds beyond the records. -/
theorem notices_iff (hrun : Exec (audited a) (run_once cfg s) w s' w')
    (hcomplete : a.inp.failed cfg = []) (key : Key) :
    Notices s' key ↔ ∃ held, a.inp.held cfg key = some held ∧
      1 / 10 ^ 9 < excess held (a.recorded cfg key) := by
  rw [run_once_eq, exec_bind] at hrun
  obtain ⟨sight, w₁, hsurvey, hafter⟩ := hrun
  obtain ⟨hsights, hobserves, -⟩ := survey_observes _ _ hsurvey.of_restrict
  have hreviewed : wp (audited a) (after_survey cfg s sight)
      (fun s' _ => s'.tracked = (reviewed cfg a.opinions sight s).tracked) w₁ :=
    review_says (audited_tells a) (after_review_leaves w₁)
  have htracked := hreviewed _ _ hafter
  have hfailed : sight.failed_platforms = [] := hsights.failed.trans hcomplete
  unfold Notices
  rw [htracked, reviewed_lookup, ← hobserves key]
  unfold lot_followed
  cases hseen : sight.observed.lookup key with
  | none => simp [hfailed]
  | some pos =>
    have hheld : a.inp.held cfg key = some pos.qty := by rw [← hobserves key, hseen]; rfl
    have hkey : pos.key = key := (Tracker.lookup_eq_some_iff.mp hseen).2
    have hqty := congrArg Prod.snd (carry_over_sized (s.tracked.lookup key) pos)
    have hpaired : (reviewed_lot cfg a.opinions sight.deferred
        (carry_over (s.tracked.lookup key) pos)).fully_paired ↔ _ :=
      observed_paired_iff hqty (carry_over_key _ _) (held_nonzero hheld) sight.deferred
    simp only [Option.map_some, Option.some_inj, exists_eq_left']
    rw [hpaired, hkey, not_le]

end cycle

/-! ## Section 5: Seven contracts missing -/

/-- Kalshi holds some contracts of an arb of ten, Polymarket holds its ten. -/
def books_of_ten (kalshi_qty : ℚ) : Inputs where
  configured := fun _ => true
  kalshi := some { status := 200, body := some (.obj [("market_positions", .arr
    [.obj [("ticker", .str "KXFED" none), ("position_fp", .num kalshi_qty),
      ("total_traded_dollars", .num 5)]])]) }
  polymarket := some (.obj [("positions", .obj [("fed", .obj [("netPosition", .num (-10))])])])
  forecastex := some []
  available := fun _ => true
  records := some []
  records_nodup := no_records_nodup
  update_raises := fun _ => false

/-- The records have the arb as `filled`. Every lot is left to settle. -/
def audit_of_ten (kalshi_qty : ℚ) : Audit where
  inp := books_of_ten kalshi_qty
  store := written (recovered_pair 10)
  decision := fun _ => some let_settle

/-- The answers of such a cycle. -/
def Audit.reply (a : Audit) : (c : Call) → Answer c
  | .paired_inventory_by_market => a.opinions.inventory
  | .decide view => a.opinions.decision view
  | c => a.inp.reply 1000 let_settle (.returned unfilled_sale) c

/-- A cycle with these answers. -/
def Audit.cycle (a : Audit) (s : Reconciler) : Reconciler × Deeds :=
  play (fun w c => (a.reply c, w.after c (a.reply c))) (run_once stored_config s) .none

theorem Audit.exec_cycle (a : Audit) (s : Reconciler) :
    Exec (audited a) (run_once stored_config s) .none (a.cycle s).1 (a.cycle s).2 := by
  have hserve : ∀ (w : Deeds) (c : Call),
      (audited a).serve w c (a.reply c) (w.after c (a.reply c)) := by
    intro w c
    refine ⟨?_, ?_, rfl⟩ <;> cases c <;> first | rfl | trivial
  exact exec_play hserve (run_once stored_config s) Deeds.none

/-- Three contracts too many are noticed. -/
theorem notices_thirteen : Notices ((audit_of_ten 13).cycle .new).1 ("kalshi", "KXFED") :=
  (notices_iff ((audit_of_ten 13).exec_cycle .new) (by decide +kernel) ("kalshi", "KXFED")).2
    ⟨13, by decide +kernel, by decide +kernel⟩

/-- The reconciler after some cycles in which Kalshi holds three of the ten. -/
def seven_missing : ℕ → Reconciler
  | 0 => .new
  | n + 1 => ((audit_of_ten 3).cycle (seven_missing n)).1

/-- Kalshi holds three contracts where ten are recorded. After each of three cycles in a row
    every lot of the market is fully paired, and no record has been closed. -/
theorem missing_unnoticed :
    (audit_of_ten 3).inp.failed stored_config = [] ∧
      (audit_of_ten 3).inp.held stored_config ("kalshi", "KXFED") = some 3 ∧
      (audit_of_ten 3).recorded stored_config ("kalshi", "KXFED") = 10 ∧
      ∀ n < 3, ∃ deeds, Exec (audited (audit_of_ten 3)) (run_once stored_config (seven_missing n))
        .none (seven_missing (n + 1)) deeds ∧ deeds.closed = [] ∧
        ¬ Notices (seven_missing (n + 1)) ("kalshi", "KXFED") := by
  refine ⟨by decide +kernel, by decide +kernel, by decide +kernel, fun n hn => ?_⟩
  refine ⟨_, (audit_of_ten 3).exec_cycle (seven_missing n), ?_, ?_⟩
  · have hclosed : ∀ n < 3, ((audit_of_ten 3).cycle (seven_missing n)).2.closed.length = 0 := by
      decide +kernel
    exact List.length_eq_zero_iff.mp (hclosed n hn)
  · have hpaired : ∀ n < 3, ((seven_missing (n + 1)).tracked.lookup ("kalshi", "KXFED")).all
        fun lot => lot.fully_paired := by decide +kernel
    rintro ⟨lot, hlot, hunpaired⟩
    have h := hpaired n hn
    rw [hlot] at h
    exact hunpaired (by simpa using h)

end Stranded
