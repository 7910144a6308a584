import Mathlib.Data.List.Sort
import Mathlib.Data.Prod.Lex
import Arbiter.Framework.Greedy
import Arbiter.Mapping.Row

/-! # The Selection of Pairs

  The end of `discover`: the scored pairs are ranked, and going down the ranks every pair
  is taken whose two contracts are both still free. A pair that lacks one of its
  identifiers is never taken.

  What is taken is the greedy selection among the ranked pairs with both identifiers, where
  two pairs clash that share a contract.
-/

namespace Mapping

/-! ## Section 1: Scored pairs -/

/-- What `_finalize_candidates` reads of a candidate. -/
structure ScoredPair where
  kalshi_ticker : Json ℚ := .null
  poly_slug : Json ℚ := .null
  score : ℚ
  shared_tokens : List String := []
  kalshi_resolution_date : Option String := none
  polymarket_resolution_date : Option String := none

section selection

variable (spelled : Json ℚ → String)

namespace ScoredPair

/-- `str(candidate.get("kalshi_ticker", "") or "").strip()`. -/
def ticker (c : ScoredPair) : String := Text.strip (str_or_empty spelled c.kalshi_ticker)

/-- `str(candidate.get("poly_slug", "") or "").strip()`. -/
def slug (c : ScoredPair) : String := Text.strip (str_or_empty spelled c.poly_slug)

/-- Both dates are there. -/
def dated (c : ScoredPair) : Bool :=
  c.kalshi_resolution_date.getD "" ≠ "" && c.polymarket_resolution_date.getD "" ≠ ""

/-- The sort key: the score, then how many tokens are shared, then whether both are dated. -/
def sort_key (c : ScoredPair) : ℚ ×ₗ ℕ ×ₗ Bool :=
  toLex (c.score, toLex (c.shared_tokens.length, c.dated))

/-- Both identifiers are there. -/
def Identified (c : ScoredPair) : Prop := c.ticker spelled ≠ "" ∧ c.slug spelled ≠ ""

instance (c : ScoredPair) : Decidable (c.Identified spelled) :=
  inferInstanceAs (Decidable (_ ∧ _))

/-- The two share their ticker or their slug. -/
def Shares (a b : ScoredPair) : Prop := a.ticker spelled = b.ticker spelled ∨
  a.slug spelled = b.slug spelled

instance : DecidableRel (Shares spelled) := fun _ _ => inferInstanceAs (Decidable (_ ∨ _))

end ScoredPair

/-- What is selected so far, and the identifiers it uses. -/
structure Selection where
  selected : List ScoredPair := []
  used_kalshi : List String := []
  used_poly : List String := []

/-- One candidate of the loop. -/
def Selection.consider (s : Selection) (candidate : ScoredPair) : Selection :=
  let kalshi_ticker := candidate.ticker spelled
  let poly_slug := candidate.slug spelled
  if kalshi_ticker = "" ∨ poly_slug = "" then s
  else if kalshi_ticker ∈ s.used_kalshi ∨ poly_slug ∈ s.used_poly then s
  else
    { selected := s.selected ++ [candidate]
      used_kalshi := kalshi_ticker :: s.used_kalshi
      used_poly := poly_slug :: s.used_poly }

/-- `candidates.sort(key=…, reverse=True)`: what is equal stays in its order. -/
def ranked (candidates : List ScoredPair) : List ScoredPair :=
  candidates.insertionSort fun a b => b.sort_key ≤ a.sort_key

/-- `_finalize_candidates`. -/
def finalize_candidates (candidates : List ScoredPair) (max_candidates : ℤ) : List ScoredPair :=
  let selected := ((ranked candidates).foldl (Selection.consider spelled) {}).selected
  if 0 < max_candidates then selected.take max_candidates.toNat else selected

/-! ## Section 2: The selection is greedy -/

variable {spelled}

/-- The identifiers in use are those of the selected pairs. -/
structure Selection.Uses (spelled : Json ℚ → String) (s : Selection) : Prop where
  kalshi : ∀ t, t ∈ s.used_kalshi ↔ ∃ b ∈ s.selected, b.ticker spelled = t
  poly : ∀ t, t ∈ s.used_poly ↔ ∃ b ∈ s.selected, b.slug spelled = t

/-- An identifier of the pair is in use where a selected pair shares it. -/
theorem Selection.Uses.used_iff {s : Selection} (h : s.Uses spelled) (c : ScoredPair) :
    (c.ticker spelled ∈ s.used_kalshi ∨ c.slug spelled ∈ s.used_poly) ↔
      ∃ b ∈ s.selected, b.Shares spelled c := by
  rw [h.kalshi, h.poly]
  constructor
  · rintro (⟨b, hb, heq⟩ | ⟨b, hb, heq⟩)
    · exact ⟨b, hb, .inl heq⟩
    · exact ⟨b, hb, .inr heq⟩
  · rintro ⟨b, hb, heq | heq⟩
    · exact .inl ⟨b, hb, heq⟩
    · exact .inr ⟨b, hb, heq⟩

/-- A pair with a missing identifier changes nothing. -/
theorem Selection.consider_unidentified {s : Selection} {c : ScoredPair}
    (h : ¬ c.Identified spelled) : s.consider spelled c = s := by
  have hmissing : c.ticker spelled = "" ∨ c.slug spelled = "" := by
    by_contra hboth
    rw [not_or] at hboth
    exact h hboth
  exact if_pos hmissing

/-- A pair that shares a contract with a selected one changes nothing. -/
theorem Selection.consider_shared {s : Selection} {c : ScoredPair} (h : s.Uses spelled)
    (hshares : ∃ b ∈ s.selected, b.Shares spelled c) : s.consider spelled c = s := by
  unfold Selection.consider
  dsimp only
  split_ifs with hmissing hused
  · rfl
  · rfl
  · exact absurd ((h.used_iff c).mpr hshares) hused

/-- Any other pair is selected. -/
theorem Selection.consider_free {s : Selection} {c : ScoredPair} (h : s.Uses spelled)
    (hid : c.Identified spelled) (hfree : ¬ ∃ b ∈ s.selected, b.Shares spelled c) :
    s.consider spelled c =
      { selected := s.selected ++ [c]
        used_kalshi := c.ticker spelled :: s.used_kalshi
        used_poly := c.slug spelled :: s.used_poly } := by
  have hmissing : ¬ (c.ticker spelled = "" ∨ c.slug spelled = "") := not_or.mpr hid
  have hused : ¬ (c.ticker spelled ∈ s.used_kalshi ∨ c.slug spelled ∈ s.used_poly) :=
    fun hused => hfree ((h.used_iff c).mp hused)
  unfold Selection.consider
  dsimp only
  rw [if_neg hmissing, if_neg hused]

theorem Selection.Uses.add {s : Selection} (h : s.Uses spelled) (c : ScoredPair) :
    ({ selected := s.selected ++ [c]
       used_kalshi := c.ticker spelled :: s.used_kalshi
       used_poly := c.slug spelled :: s.used_poly } : Selection).Uses spelled := by
  constructor
  · intro t
    simp only [List.mem_cons, List.mem_append, h.kalshi, List.not_mem_nil, or_false]
    constructor
    · rintro (rfl | ⟨b, hb, heq⟩)
      · exact ⟨c, .inr rfl, rfl⟩
      · exact ⟨b, .inl hb, heq⟩
    · rintro ⟨b, hb | rfl, heq⟩
      · exact .inr ⟨b, hb, heq⟩
      · exact .inl heq.symm
  · intro t
    simp only [List.mem_cons, List.mem_append, h.poly, List.not_mem_nil, or_false]
    constructor
    · rintro (rfl | ⟨b, hb, heq⟩)
      · exact ⟨c, .inr rfl, rfl⟩
      · exact ⟨b, .inl hb, heq⟩
    · rintro ⟨b, hb | rfl, heq⟩
      · exact .inr ⟨b, hb, heq⟩
      · exact .inl heq.symm

/-- The loop keeps what the greedy selection keeps of the pairs with both identifiers. -/
theorem selected_foldl {s : Selection} (h : s.Uses spelled) (l : List ScoredPair) :
    (l.foldl (Selection.consider spelled) s).selected = s.selected ++
      Greedy.keep (ScoredPair.Shares spelled) s.selected
        (l.filter fun c => c.Identified spelled) := by
  induction l generalizing s with
  | nil => simp
  | cons c l ih =>
    rw [List.foldl_cons]
    by_cases hid : c.Identified spelled
    · rw [List.filter_cons_of_pos (by simpa using hid)]
      by_cases hshares : ∃ b ∈ s.selected, b.Shares spelled c
      · rw [Selection.consider_shared h hshares, ih h, Greedy.keep_of_clash hshares]
      · rw [Selection.consider_free h hid hshares, ih (h.add c), Greedy.keep_of_not hshares]
        exact List.append_assoc _ _ _
    · rw [Selection.consider_unidentified hid, ih h,
        List.filter_cons_of_neg (by simpa using hid)]

theorem finalize_candidates_all (candidates : List ScoredPair) :
    finalize_candidates spelled candidates 0 = Greedy.keep (ScoredPair.Shares spelled) []
      ((ranked candidates).filter fun c => c.Identified spelled) := by
  have hempty : ({} : Selection).Uses spelled := ⟨by simp, by simp⟩
  exact selected_foldl hempty (ranked candidates)

theorem ranked_perm (candidates : List ScoredPair) : (ranked candidates).Perm candidates :=
  List.perm_insertionSort (fun a b : ScoredPair => b.sort_key ≤ a.sort_key) candidates

/-- Ranked pairs come in the order of their keys. -/
theorem ranked_sorted (candidates : List ScoredPair) :
    (ranked candidates).Pairwise fun a b => b.sort_key ≤ a.sort_key := by
  have htotal : Std.Total fun a b : ScoredPair => b.sort_key ≤ a.sort_key :=
    ⟨fun a b => le_total _ _⟩
  have htrans : IsTrans ScoredPair fun a b => b.sort_key ≤ a.sort_key :=
    ⟨fun _ _ _ hab hbc => hbc.trans hab⟩
  exact List.pairwise_insertionSort _ _

/-! ## Section 3: Nothing better is left out -/

/-- No two selected pairs share a contract, and every pair with both identifiers that is
    left out shares one with a selected pair that ranks no lower. -/
theorem selection_maximal (spelled : Json ℚ → String) (candidates : List ScoredPair) :
    ∃ left_out, (finalize_candidates spelled candidates 0 ++ left_out).Perm candidates ∧
      ((finalize_candidates spelled candidates 0).map (ScoredPair.ticker spelled)).Nodup ∧
      ((finalize_candidates spelled candidates 0).map (ScoredPair.slug spelled)).Nodup ∧
      ∀ c ∈ left_out, c.Identified spelled →
        ∃ b ∈ finalize_candidates spelled candidates 0,
          (b.ticker spelled = c.ticker spelled ∨ b.slug spelled = c.slug spelled) ∧
            c.sort_key ≤ b.sort_key := by
  rw [finalize_candidates_all]
  generalize hidentified : ((ranked candidates).filter fun c => c.Identified spelled) = identified
  have hsorted : identified.Pairwise fun a b => b.sort_key ≤ a.sort_key :=
    hidentified ▸ (ranked_sorted candidates).sublist List.filter_sublist
  have hapart : ([] ++ Greedy.keep (ScoredPair.Shares spelled) [] identified).Pairwise
      fun b c : ScoredPair => ¬ b.Shares spelled c := Greedy.keep_apart List.Pairwise.nil
  rw [List.nil_append] at hapart
  -- left out are those that were passed over, and those without both identifiers
  refine ⟨Greedy.pass (ScoredPair.Shares spelled) [] identified ++
    (ranked candidates).filter fun c => ¬ c.Identified spelled, ?_, ?_, ?_, ?_⟩
  · have hkept : (Greedy.keep (ScoredPair.Shares spelled) [] identified ++
        Greedy.pass (ScoredPair.Shares spelled) [] identified).Perm identified :=
      Greedy.keep_append_pass [] identified
    have hparts := hkept.append_right ((ranked candidates).filter fun c => ¬ c.Identified spelled)
    rw [List.append_assoc] at hparts
    refine hparts.trans (.trans ?_ (ranked_perm candidates))
    subst hidentified
    simpa using List.filter_append_perm (fun c => decide (c.Identified spelled))
      (ranked candidates)
  · rw [List.Nodup, List.pairwise_map]
    exact hapart.imp fun hclash heq => hclash (.inl heq)
  · rw [List.Nodup, List.pairwise_map]
    exact hapart.imp fun hclash heq => hclash (.inr heq)
  · intro c hc hid
    rcases List.mem_append.mp hc with hpassed | hrest
    · have hbefore : ([] ++ identified).Pairwise fun a b : ScoredPair => b.sort_key ≤ a.sort_key :=
        hsorted
      exact Greedy.pass_dominated hbefore hpassed
    · exact absurd hid (by simpa using (List.mem_filter.mp hrest).2)

end selection

end Mapping
