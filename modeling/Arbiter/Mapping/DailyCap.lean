import Mathlib.Algebra.BigOperators.Group.List.Basic
import Mathlib.Algebra.Order.BigOperators.Group.List
import Arbiter.Mapping.Discovery

/-! # The Daily Cap of Promotions

  `auto_promote_daily_cap` is asked twice: by a gate of `maybe_promote`, which is given the
  day's count, and by the pass, which counts what it has promoted itself. The day's count
  that a pass gives is zero. So the cap is a pass's, and a day's only where at most one of
  its passes has anything to promote, or all of them together have no more than the cap.

  ## Contents

  - Section 1: what one pass promotes.
  - Section 2: what the passes of a day promote.
-/

namespace Mapping

/-! ## Section 1: A pass -/

/-- A pass of the auto-promotion: what it has found, and what it learns of it. -/
structure PromotionPass where
  clock : Clock
  seen : Found → Evidence
  found : List Found

variable (settings : PromotionSettings)

/-- The cap: where the settings name none, the default's. -/
def daily_cap : ℤ := settings.auto_promote_daily_cap.getD settings.default_daily_cap

namespace PromotionPass

/-- What the gates say of a found pair. -/
def result (pass : PromotionPass) (f : Found) : PromotionResult :=
  evaluate settings pass.clock (pass.seen f) f

/-- The pairs that pass the gates with a structural match. -/
def eligible (pass : PromotionPass) : ℕ :=
  pass.found.countP fun f => (pass.result settings f).is_structural

/-- The candidates that the pass gives the permission. -/
def promoted (pass : PromotionPass) : ℕ :=
  (apply_auto_promote settings pass.clock pass.seen pass.found).countP (·.allow_auto_trade)

end PromotionPass

/-- Something is eligible only with promotion on, and a cap above zero. -/
theorem cap_of_structural {clock : Clock} {seen : Evidence} {f : Found}
    (h : (evaluate settings clock seen f).is_structural = true) :
    settings.auto_promote_enabled = true ∧ 0 < daily_cap settings := by
  obtain ⟨hgates, -⟩ :=
    first_failing_promoted (promoted_of_structural (first_failing_structural h))
  have henabled := hgates (!settings.auto_promote_enabled, "auto_promote_disabled")
    (by simp [promotion_gates])
  have hcap := hgates (decide (daily_cap settings ≤ 0), "daily_cap")
    (List.mem_of_getLast? (by rfl))
  exact ⟨by simpa using henabled, by simpa using hcap⟩

/-- A found pair has no notes yet, so no marker: a structural result decides. -/
theorem apply_promotion_allowed (f : Found) (result : PromotionResult) :
    (apply_promotion f.candidate result).allow_auto_trade = result.is_structural := by
  have hunmarked : ¬ Text.occurs MarketMapping.no_auto_promote
      (f.candidate.review_note.getD "" ++ " " ++ f.candidate.notes) = true := by
    change ¬ Text.occurs MarketMapping.no_auto_promote ("" ++ " " ++ "") = true
    decide
  unfold apply_promotion
  rw [if_neg hunmarked]
  cases hstructural : result.is_structural with
  | true => simp [promoted_of_structural hstructural]
  | false => split_ifs <;> simp_all

/-- A found pair gets the permission with a structural result, below the cap. -/
theorem applied_allowed (max_promotions count : ℤ) (f : Found) (result : PromotionResult) :
    (applied max_promotions count f result).allow_auto_trade =
      (result.is_structural && decide (count < max_promotions)) := by
  unfold applied
  cases hstructural : result.is_structural with
  | true =>
      rw [if_neg (by simp [promoted_of_structural hstructural]), if_pos rfl]
      by_cases hcap : max_promotions ≤ count
      · rw [if_pos hcap]
        simp [not_lt.mpr hcap]
      · rw [if_neg hcap]
        simpa [not_le.mp hcap, hstructural] using apply_promotion_allowed f result
  | false =>
      cases hpromoted : result.promoted with
      | false => simp
      | true => simpa [hstructural] using apply_promotion_allowed f result

/-- A run over results promotes the structural ones, up to what is left of the cap. -/
theorem apply_results_allowed (max_promotions count : ℤ)
    (results : List (Found × PromotionResult)) :
    ((apply_results max_promotions count results).countP (·.allow_auto_trade) : ℤ) =
      min (max (max_promotions - count) 0) (results.countP (·.2.is_structural)) := by
  induction results generalizing count with
  | nil => simp [apply_results]
  | cons head rest ih =>
      obtain ⟨f, result⟩ := head
      simp only [apply_results, List.countP_cons, applied_allowed, Nat.cast_add, ih]
      cases hstructural : result.is_structural
      · simp
      · by_cases hcap : count < max_promotions
        · simp only [hcap, decide_true, Bool.and_self, if_true, Nat.cast_one]
          omega
        · simp only [hcap, decide_false, Bool.and_false, Bool.false_eq_true, if_false, if_true,
            Nat.cast_zero, Nat.cast_one]
          omega

namespace PromotionPass

variable {settings}

theorem eligible_zero {pass : PromotionPass}
    (h : settings.auto_promote_enabled = false ∨ daily_cap settings ≤ 0) :
    pass.eligible settings = 0 := by
  refine List.countP_eq_zero.mpr fun f _ hstructural => ?_
  obtain ⟨henabled, hcap⟩ := cap_of_structural settings hstructural
  obtain hoff | hnone := h
  · rw [hoff] at henabled
    cases henabled
  · exact absurd hcap (not_lt.mpr hnone)

theorem promoted_eq (pass : PromotionPass) (max_promotions : ℤ)
    (hmax : settings.auto_promote_daily_cap.getD pass.found.length = max_promotions) :
    (pass.promoted settings : ℤ) = min (max max_promotions 0) (pass.eligible settings) := by
  cases henabled : settings.auto_promote_enabled with
  | false =>
      rw [eligible_zero (.inl henabled)]
      have hnone : pass.promoted settings = 0 := by
        refine List.countP_eq_zero.mpr fun c hc => ?_
        simp only [apply_auto_promote, henabled, Bool.not_false, if_true, List.mem_map] at hc
        obtain ⟨f, -, rfl⟩ := hc
        simp [Found.candidate]
      simp [hnone]
  | true =>
      have hpass : apply_auto_promote settings pass.clock pass.seen pass.found =
          apply_results max_promotions 0 (pass.found.map fun f => (f, pass.result settings f)) := by
        simp only [apply_auto_promote, henabled, Bool.not_true, Bool.false_eq_true, if_false, hmax]
        rfl
      rw [promoted, hpass, apply_results_allowed, sub_zero, List.countP_map]
      rfl

/-- Where the settings name a cap, a pass promotes what is eligible up to the cap. -/
theorem promoted_of_cap (pass : PromotionPass) {cap : ℤ}
    (hcap : settings.auto_promote_daily_cap = some cap) :
    pass.promoted settings = min cap.toNat (pass.eligible settings) := by
  have heq := pass.promoted_eq cap (by rw [hcap, Option.getD_some])
  omega

/-- Where they name none, it promotes all that is eligible. -/
theorem promoted_of_none (pass : PromotionPass) (hcap : settings.auto_promote_daily_cap = none) :
    pass.promoted settings = pass.eligible settings := by
  have heq := pass.promoted_eq pass.found.length (by rw [hcap, Option.getD_none])
  have hle : pass.eligible settings ≤ pass.found.length := List.countP_le_length
  omega

end PromotionPass

/-! ## Section 2: A day -/

/-- The candidates that the passes of a day give the permission. -/
def promoted_today (passes : List PromotionPass) : ℕ := (passes.map (·.promoted settings)).sum

/-- The pairs eligible on a day. -/
def eligible_today (passes : List PromotionPass) : ℕ := (passes.map (·.eligible settings)).sum

/-- All that is eligible on a day is within the cap, or the settings name a cap and at most
    one pass has anything eligible. -/
def OneBusyPass (passes : List PromotionPass) : Prop :=
  (eligible_today settings passes : ℤ) ≤ daily_cap settings ∨
    settings.auto_promote_daily_cap.isSome = true ∧ 0 ≤ daily_cap settings ∧
      (passes.filter fun pass => 0 < pass.eligible settings).length ≤ 1

section sums

variable {ι : Type} {e : ι → ℕ} {cap : ℕ}

theorem filter_eq_nil_of_sum {l : List ι} (h : (l.map e).sum = 0) :
    l.filter (fun i => 0 < e i) = [] := by
  refine List.filter_eq_nil_iff.mpr fun i hi => ?_
  have hzero := List.sum_eq_zero_iff.mp h (e i) (List.mem_map_of_mem hi)
  simpa using hzero

theorem sum_eq_zero_of_filter {l : List ι} (h : l.filter (fun i => 0 < e i) = []) :
    (l.map e).sum = 0 := by
  refine List.sum_eq_zero_iff.mpr fun n hn => ?_
  obtain ⟨i, hi, rfl⟩ := List.mem_map.mp hn
  have hnot := List.filter_eq_nil_iff.mp h i hi
  simpa using hnot

theorem sum_min_le {l : List ι} :
    (l.map fun i => min cap (e i)).sum ≤ (l.map e).sum :=
  List.sum_le_sum fun _ _ => min_le_right _ _

/-- A number that reaches the cap leaves nothing of it for the others. -/
theorem filter_of_reaches {l : List ι} (hcap : 0 < cap) {i : ι} (hi : i ∈ l) (hreaches : cap ≤ e i)
    (hsum : (l.map fun j => min cap (e j)).sum ≤ cap) :
    (l.filter fun j => 0 < e j).length ≤ 1 := by
  obtain ⟨before, after, rfl⟩ := List.append_of_mem hi
  simp only [List.map_append, List.map_cons, List.sum_append, List.sum_cons,
    min_eq_left hreaches] at hsum
  have hothers (rest : List ι) (hrest : (rest.map fun j => min cap (e j)).sum = 0) :
      rest.filter (fun j => 0 < e j) = [] := by
    have hcut := filter_eq_nil_of_sum hrest
    simpa [hcap] using hcut
  have hbefore := hothers before (by omega)
  have hafter := hothers after (by omega)
  rw [List.filter_append, hbefore, List.filter_cons_of_pos (by simpa using hcap.trans_le hreaches),
    hafter]
  simp

/-- Sums of numbers that are each cut off at a cap stay within it exactly if the whole sum
    does, or at most one number is positive. -/
theorem sum_min_le_iff {l : List ι} (hcap : 0 < cap) :
    (l.map fun i => min cap (e i)).sum ≤ cap ↔
      (l.map e).sum ≤ cap ∨ (l.filter fun i => 0 < e i).length ≤ 1 := by
  constructor
  · intro hsum
    by_cases hreaches : ∃ i ∈ l, cap ≤ e i
    · obtain ⟨i, hi, hreaches⟩ := hreaches
      exact .inr (filter_of_reaches hcap hi hreaches hsum)
    · push Not at hreaches
      have huncut : l.map (fun i => min cap (e i)) = l.map e :=
        List.map_congr_left fun i hi => min_eq_right (hreaches i hi).le
      exact .inl (huncut ▸ hsum)
  · rintro (hsum | hone)
    · exact sum_min_le.trans hsum
    · induction l with
      | nil => simp
      | cons i l ih =>
          simp only [List.map_cons, List.sum_cons]
          by_cases hi : 0 < e i
          · rw [List.filter_cons_of_pos (by simpa using hi), List.length_cons] at hone
            have hrest := sum_eq_zero_of_filter (e := e) (List.eq_nil_of_length_eq_zero
              (by omega : (l.filter fun i => 0 < e i).length = 0))
            have hcut : (l.map fun i => min cap (e i)).sum ≤ (l.map e).sum := sum_min_le
            omega
          · rw [List.filter_cons_of_neg (by simpa using hi)] at hone
            have := ih hone
            omega

end sums

/-- The passes of a day keep to the daily cap exactly if all that is eligible does, or the
    cap is named and at most one of them has anything to promote. -/
theorem daily_cap_kept (passes : List PromotionPass) :
    (promoted_today settings passes : ℤ) ≤ daily_cap settings ↔ OneBusyPass settings passes := by
  cases hcap : settings.auto_promote_daily_cap with
  | none =>
      have hall : promoted_today settings passes = eligible_today settings passes :=
        congrArg List.sum (List.map_congr_left fun pass _ => pass.promoted_of_none hcap)
      simp [OneBusyPass, hcap, hall]
  | some cap =>
      have heq : daily_cap settings = cap := by rw [daily_cap, hcap, Option.getD_some]
      have hcut : promoted_today settings passes =
          (passes.map fun pass => min cap.toNat (pass.eligible settings)).sum :=
        congrArg List.sum (List.map_congr_left fun pass _ => pass.promoted_of_cap hcap)
      simp only [OneBusyPass, hcap, Option.isSome_some, true_and, heq]
      by_cases hpos : 0 < cap
      · have hiff := sum_min_le_iff (l := passes) (e := (·.eligible settings))
          (by omega : 0 < cap.toNat)
        rw [← hcut] at hiff
        simp only [eligible_today, hpos.le, true_and]
        omega
      · -- no cap is left to promote within, and nothing is eligible
        have hnone (pass : PromotionPass) : pass.eligible settings = 0 :=
          PromotionPass.eligible_zero (.inr (heq ▸ not_lt.mp hpos))
        have hpromoted : promoted_today settings passes = 0 := by
          simp [hcut, hnone]
        simp [hpromoted, eligible_today, hnone]

/-- A pair with a structural match. -/
def matched_pair (kalshi_ticker : String) : Found where
  kalshi_ticker := kalshi_ticker
  poly_slug := kalshi_ticker.toLower
  score := 97 / 100
  structural_match := true
  category := "economics"

/-- A pass over that pair: every gate passes. -/
def matched_pass (kalshi_ticker : String) : PromotionPass :=
  ⟨⟨fun _ => none, fun _ => none⟩, fun _ => ⟨.identical, "YES", 100, 100⟩,
    [matched_pair kalshi_ticker]⟩

/-- One promotion a day, and no scans to wait for. -/
def one_a_day : PromotionSettings :=
  { auto_promote_enabled := true
    auto_promote_daily_cap := some 1
    auto_promote_advisory_scans := 0 }

/-- Each of two passes starts to count at zero, and promotes its one. -/
theorem daily_cap_counts_passes :
    daily_cap one_a_day = 1 ∧
      promoted_today one_a_day [matched_pass "KXFED", matched_pass "KXCPI"] = 2 := by
  decide +kernel

end Mapping
