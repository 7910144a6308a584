import Arbiter.Framework.IsoDate
import Arbiter.Mapping.Resolution

/-! # Dates of the Resolution Check

  `check_resolution_equivalence` with the dates it reads: each is taken for what its clock
  shows, and the offset from UTC is put aside. The check is symmetric. It calls two markets
  identical though they resolve more than a day apart, exactly where the clocks are within
  a day and the offsets take the moments apart.
-/

namespace Mapping

open IsoDate Regex Fingerprint

/-! ## Section 1: Reading a date -/

/-- What `strptime` matches for `%Y-%m-%d`. -/
def strptime_re : Re :=
  let within (low high : Char) : Re := .char fun c => low ≤ c ∧ c ≤ high
  .all [.group "Y" (.times 4 digit), .text "-",
    .group "m" (.any [.seq (.text "1") (within '0' '2'), .seq (.text "0") (within '1' '9'),
      within '1' '9']),
    .text "-",
    .group "d" (.any [.seq (.text "3") (within '0' '1'), .seq (within '1' '2') digit,
      .seq (.text "0") (within '1' '9'), within '1' '9', .seq (.text " ") (within '1' '9')])]

/-- `datetime.strptime(s, "%Y-%m-%d")`: the whole text has to be read. -/
def strptime_ymd (s : String) : Option Stamp := do
  let found ← (run strptime_re ⟨none, s.toList, []⟩).head?
  let field (name : String) : Option ℕ := read_int (Text.strip (Match.text found.groups name))
  if found.rest = [] then
    let day ← ordinal (← field "Y") (← field "m") (← field "d")
    return ⟨day * 86400, none⟩
  else none

/-- The stamp of a date, where `_parse_date` reads one. -/
def read_stamp (s : String) : Option Stamp := (fromisoformat s).orElse fun _ => strptime_ymd s

/-- `_parse_date`, in seconds. However the date is read, `replace(tzinfo=timezone.utc)` keeps
    what its clock shows. -/
def parse_date (s : String) : Option ℚ := (read_stamp s).map Stamp.wall

/-! ## Section 2: Symmetry -/

theorem agree_comm (a b : Option String) : agree a b = agree b a := by
  cases a <;> cases b <;> simp [agree, eq_comm]

theorem same_outcomes_comm (a b : List String) : same_outcomes a b = same_outcomes b a :=
  Bool.and_comm _ _

theorem sources_equivalent_comm (a b : String) :
    sources_equivalent a b = sources_equivalent b a := by
  rw [Bool.eq_iff_iff]
  simp only [sources_equivalent, Bool.or_eq_true, Bool.and_eq_true, decide_eq_true_eq]
  constructor
  · rintro (heq | ⟨hlisted, heq⟩)
    · exact .inl heq.symm
    · exact .inr ⟨heq ▸ hlisted, heq.symm⟩
  · rintro (heq | ⟨hlisted, heq⟩)
    · exact .inl heq.symm
    · exact .inr ⟨heq ▸ hlisted, heq.symm⟩

section check

variable {parse : String → Option ℚ}

theorem dates_within_tolerance_comm (a b : String) :
    dates_within_tolerance parse a b = dates_within_tolerance parse b a := by
  unfold dates_within_tolerance
  cases parse a <;> cases parse b <;> simp [abs_sub_comm]

/-- The check does not depend on which market comes first. -/
theorem check_comm (a b : MarketFacts) :
    check_resolution_equivalence parse a b = check_resolution_equivalence parse b a := by
  unfold check_resolution_equivalence
  cases a.resolution_date <;> cases b.resolution_date <;> cases a.resolution_source <;>
    cases b.resolution_source <;> try rfl
  case some.some.some.some date_a date_b source_a source_b =>
    dsimp only
    rw [dates_within_tolerance_comm date_a, sources_equivalent_comm source_a,
      agree_comm a.tie_break_rule, agree_comm a.category, same_outcomes_comm a.outcome_set]

end check

/-! ## Section 3: Soundness -/

/-- All the fields but the dates agree, and both sources are there. -/
def MarketFacts.OtherwiseAlike (a b : MarketFacts) : Prop :=
  (∃ source_a source_b, a.resolution_source = some source_a ∧
    b.resolution_source = some source_b ∧ sources_equivalent source_a source_b = true) ∧
  agree a.tie_break_rule b.tie_break_rule = true ∧ agree a.category b.category = true ∧
  same_outcomes a.outcome_set b.outcome_set = true

/-- The stamp of a market's resolution date. -/
def MarketFacts.stamp (a : MarketFacts) : Option Stamp := a.resolution_date.bind read_stamp

/-- The allowed window, in seconds. -/
def max_date_delta : ℚ := 24 * 3600

/-- What is identical: the clocks are within the window, and the rest agrees. -/
theorem identical_iff (a b : MarketFacts) :
    check_resolution_equivalence parse_date a b = .identical ↔
      (∃ s t, a.stamp = some s ∧ b.stamp = some t ∧ |s.wall - t.wall| ≤ max_date_delta) ∧
        a.OtherwiseAlike b := by
  unfold check_resolution_equivalence MarketFacts.OtherwiseAlike MarketFacts.stamp
  cases a.resolution_date with
  | none => simp
  | some date_a =>
    cases b.resolution_date with
    | none => simp
    | some date_b =>
      cases a.resolution_source with
      | none => simp
      | some source_a =>
        cases b.resolution_source with
        | none => simp
        | some source_b =>
          unfold dates_within_tolerance parse_date max_date_delta
          cases ha : read_stamp date_a with
          | none => simp [ha]
          | some s =>
            cases hb : read_stamp date_b with
            | none => simp [ha, hb]
            | some t => simp [ha, hb, and_assoc]

/-- The moments two markets resolve at are there, and within the window. -/
def MarketFacts.DatesMatch (a b : MarketFacts) : Prop :=
  ∃ s t, a.stamp = some s ∧ b.stamp = some t ∧ |s.instant - t.instant| ≤ max_date_delta

/-- Facts that name the Fed and nothing else, with a date. -/
def fed_at (resolution_date : String) : MarketFacts where
  question := "Will the Fed cut rates in May 2026?"
  resolution_date := some resolution_date
  resolution_source := some "Federal Reserve"
  tie_break_rule := none
  category := none
  outcome_set := ["Yes", "No"]

end Mapping
