import Arbiter.Safety.Readiness

/-! # The Live Gate

  What `allow_execution` lets through in live mode, check by check, and how that compares
  with the health of the venues, with the view by pair and with the bootstrap window.
-/

namespace Readiness

open Execution Profitability

/-! ## Section 1: What the gate lets through -/

namespace Runtime

variable {r : Runtime} {yes_platform no_platform : String}

/-- What an opportunity has to pass in live mode, but for the collectors. -/
structure OthersPass (r : Runtime) (yes_platform no_platform : String) : Prop where
  mappings : r.check_auto_trade_mappings.blocks = false
  credentials : r.check_platform_credentials.blocks = false
  alerting : r.check_alerting.blocks = false
  reconciliation : r.check_reconciliation.blocks = false
  scope : ∃ s, r.profitability = some s ∧ ScopesValidated s yes_platform no_platform
  incidents : ∀ i ∈ r.incidents, i.open_critical = true →
    incident_touches_opportunity i [yes_platform.toLower, no_platform.toLower] = false
  balances : r.check_balances.blocks = true →
    elsewhere r.check_balances [yes_platform.toLower, no_platform.toLower] = true
  low : r.low_platforms [yes_platform.toLower, no_platform.toLower] = []

/-- Everything an opportunity has to pass in live mode. -/
structure GatePasses (r : Runtime) (yes_platform no_platform : String) : Prop
    extends r.OthersPass yes_platform no_platform where
  collectors : r.check_collectors.blocks = true →
    elsewhere r.check_collectors [yes_platform.toLower, no_platform.toLower] = true

/-- The loop lets an opportunity on where every check that blocks is skipped. -/
theorem allowed_iff_skipped (hlive : r.dry_run = false) :
    (r.allow_execution yes_platform no_platform).allowed = true ↔
      (∀ c ∈ r.checks, c.blocks = true → r.narrow yes_platform no_platform c = .skipped) ∧
        (r.allow_scoped yes_platform no_platform).1 = true := by
  have hskipped (outcomes : List Narrowed) :
      (outcomes.findSome? Narrowed.refusal = none ∧ outcomes.findSome? Narrowed.blocker = none) ↔
        ∀ o ∈ outcomes, o = .skipped := by
    rw [List.findSome?_eq_none_iff, List.findSome?_eq_none_iff, ← forall₂_and]
    refine forall₂_congr fun o _ => ?_
    cases o <;> simp [Narrowed.refusal, Narrowed.blocker]
  have hfirst (refused blocked : Option String) :
      (refused <|> blocked) = none ↔ refused = none ∧ blocked = none := by
    cases refused <;> cases blocked <;> simp
  have hchecks : (∀ o ∈ (r.refresh.checks.filter (·.blocks)).map
      (r.narrow yes_platform no_platform), o = .skipped) ↔
        ∀ c ∈ r.checks, c.blocks = true → r.narrow yes_platform no_platform c = .skipped := by
    simp only [List.mem_map, List.mem_filter]
    exact ⟨fun h c hc hb => h _ ⟨c, ⟨hc, hb⟩, rfl⟩, by
      rintro h _ ⟨c, ⟨hc, hb⟩, rfl⟩
      exact h c hc hb⟩
  unfold allow_execution
  simp only [hlive, Bool.false_eq_true, if_false]
  rw [← hchecks, ← hskipped, ← hfirst]
  split
  · next reason hsome => simp [hsome]
  · next hnone => simp [hnone]

/-- The rest of the gate: the scoped validation and the balances. -/
theorem allow_scoped_iff :
    (r.allow_scoped yes_platform no_platform).1 = true ↔
      (∀ s, r.profitability = some s → ScopesValidated s yes_platform no_platform) ∧
        r.low_platforms [yes_platform.toLower, no_platform.toLower] = [] := by
  unfold allow_scoped
  cases r.profitability with
  | none => by_cases hlow : r.low_platforms [yes_platform.toLower, no_platform.toLower] = [] <;>
      simp [hlow]
  | some s =>
    by_cases hscope : ScopesValidated s yes_platform no_platform
    · have hvalid := validate_opportunity_scope_iff.mpr hscope
      by_cases hlow : r.low_platforms [yes_platform.toLower, no_platform.toLower] = [] <;>
        simp [hvalid, hscope, hlow]
    · have hinvalid := mt validate_opportunity_scope_iff.mp hscope
      simp [hinvalid, hscope]

/-! ### The checks that block -/

section keys

variable (r : Runtime)

@[simp] theorem mappings_key : r.check_auto_trade_mappings.key = .auto_trade_mappings := by
  unfold check_auto_trade_mappings
  split <;> rfl

@[simp] theorem credentials_key : r.check_platform_credentials.key = .platform_credentials := by
  unfold check_platform_credentials
  dsimp only
  split <;> rfl

@[simp] theorem alerting_key : r.check_alerting.key = .alerting := by
  unfold check_alerting
  split <;> rfl

@[simp] theorem profitability_key : r.check_profitability.key = .profitability := by
  unfold check_profitability
  split
  · rfl
  · split
    · rfl
    · split <;> rfl

@[simp] theorem incidents_key : r.check_incidents.key = .incidents := by
  unfold check_incidents
  dsimp only
  split
  · rfl
  · split <;> rfl

@[simp] theorem balances_key : r.check_balances.key = .balances := by
  unfold check_balances
  dsimp only
  split
  · rfl
  · split <;> rfl

@[simp] theorem collectors_key : r.check_collectors.key = .collectors := by
  unfold check_collectors
  dsimp only
  split
  · rfl
  · split
    · rfl
    · split <;> rfl

@[simp] theorem quote_freshness_key : r.check_quote_freshness.key = .quote_freshness := by
  unfold check_quote_freshness
  split
  · rfl
  · dsimp only
    split
    · rfl
    · split <;> rfl

@[simp] theorem reconciliation_key : r.check_reconciliation.key = .reconciliation := by
  unfold check_reconciliation
  split
  · rfl
  · rfl
  · dsimp only
    split <;> rfl

end keys

theorem incidents_block_iff :
    r.check_incidents.blocks = true ↔ ∃ i ∈ r.incidents, i.open_critical = true := by
  unfold check_incidents
  dsimp only
  split
  · next hcritical =>
    obtain ⟨i, hi⟩ := List.exists_mem_of_ne_nil _ hcritical
    exact ⟨fun _ => ⟨i, List.mem_filter.mp hi⟩, fun _ => rfl⟩
  · next hnone =>
    have hno : ¬ ∃ i ∈ r.incidents, i.open_critical = true := by
      rintro ⟨i, hi, hopen⟩
      exact hnone (List.ne_nil_of_mem (List.mem_filter.mpr ⟨hi, hopen⟩))
    split <;> exact ⟨fun h => (nomatch h), fun h => absurd h hno⟩

theorem balances_block_iff :
    r.check_balances.blocks = true ↔ r.balances.entries = [] ∨ r.low_balances ≠ [] := by
  unfold check_balances
  dsimp only
  split
  · next hnone => exact ⟨fun _ => .inl hnone, fun _ => rfl⟩
  · next hsome =>
    split
    · next hlow => exact ⟨fun _ => .inr hlow, fun _ => rfl⟩
    · next hlow => exact ⟨fun h => (nomatch h), fun h => absurd h (not_or.mpr ⟨hsome, hlow⟩)⟩

theorem collectors_block_iff :
    r.check_collectors.blocks = true ↔
      r.collectors.entries = [] ∨ r.collectors_that (·.failing) ≠ [] ∨
        r.collectors_that (·.warming_up) ≠ [] := by
  unfold check_collectors
  dsimp only
  split
  · next hnone => exact ⟨fun _ => .inl hnone, fun _ => rfl⟩
  · next hsome =>
    split
    · next hfail => exact ⟨fun _ => .inr (.inl hfail), fun _ => rfl⟩
    · next hfail =>
      split
      · next hwarm => exact ⟨fun _ => .inr (.inr hwarm), fun _ => rfl⟩
      · next hwarm =>
        exact ⟨fun h => (nomatch h),
          fun h => absurd h (not_or.mpr ⟨hsome, not_or.mpr ⟨hfail, hwarm⟩⟩)⟩

theorem quote_freshness_never_blocks (r : Runtime) : r.check_quote_freshness.blocks = false := by
  unfold check_quote_freshness
  split
  · rfl
  · dsimp only
    split
    · rfl
    · split <;> rfl

/-- The gate, check by check. -/
theorem allowed_iff_passes (hlive : r.dry_run = false) :
    (r.allow_execution yes_platform no_platform).allowed = true ↔
      r.GatePasses yes_platform no_platform := by
  -- a check that is not narrowed is skipped only where it does not block
  have hglobal (c : ReadinessCheck) (hc : r.narrow yes_platform no_platform c ≠ .skipped) :
      (c.blocks = true → r.narrow yes_platform no_platform c = .skipped) ↔ c.blocks = false := by
    rw [← Bool.not_eq_true]
    exact ⟨fun h hb => hc (h hb), fun h hb => absurd hb h⟩
  have hscope : (r.check_profitability.blocks = true →
      r.narrow yes_platform no_platform r.check_profitability = .skipped) ∧
        (∀ s, r.profitability = some s → ScopesValidated s yes_platform no_platform) ↔
      ∃ s, r.profitability = some s ∧ ScopesValidated s yes_platform no_platform := by
    unfold narrow
    rw [profitability_key]
    cases hs : r.profitability with
    | none => simp [check_profitability, hs, ReadinessCheck.blocks]
    | some s =>
      by_cases hvalid : ScopesValidated s yes_platform no_platform
      · simp [hvalid, validate_opportunity_scope_iff.mpr hvalid]
      · simp [hvalid]
  have hopen : (r.check_incidents.blocks = true →
      r.narrow yes_platform no_platform r.check_incidents = .skipped) ↔
      ∀ i ∈ r.incidents, i.open_critical = true →
        incident_touches_opportunity i [yes_platform.toLower, no_platform.toLower] = false := by
    unfold narrow
    rw [incidents_block_iff, incidents_key]
    by_cases hex : ∃ i ∈ r.incidents, i.open_critical = true
    · have hne : r.incidents.filter (·.open_critical) ≠ [] := by
        obtain ⟨i, hi, hi'⟩ := hex
        exact List.ne_nil_of_mem (List.mem_filter.mpr ⟨hi, hi'⟩)
      simp only [hex, true_implies]
      simp [hne]
    · refine ⟨fun _ i hi hi' => absurd ⟨i, hi, hi'⟩ hex, fun _ h => absurd h hex⟩
  have hvenues (c : ReadinessCheck) (hkey : c.key = .balances ∨ c.key = .collectors) :
      r.narrow yes_platform no_platform c = .skipped ↔
        elsewhere c [yes_platform.toLower, no_platform.toLower] = true := by
    unfold narrow
    obtain hkey | hkey := hkey <;> rw [hkey] <;> simp
  rw [allowed_iff_skipped hlive, allow_scoped_iff]
  simp only [checks, List.forall_mem_cons, List.not_mem_nil, false_implies, implies_true, and_true]
  rw [hopen, hvenues _ (.inl r.balances_key), hvenues _ (.inr r.collectors_key),
    hglobal r.check_auto_trade_mappings (by simp [narrow]),
    hglobal r.check_platform_credentials (by simp [narrow]),
    hglobal r.check_alerting (by simp [narrow]),
    hglobal r.check_quote_freshness (by simp [narrow]),
    hglobal r.check_reconciliation (by simp [narrow])]
  constructor
  · rintro ⟨⟨hm, hc, ha, hp, hi, hb, hco, -, hr⟩, hs, hl⟩
    exact ⟨⟨hm, hc, ha, hr, hscope.mp ⟨hp, hs⟩, hi, hb, hl⟩, hco⟩
  · intro h
    obtain ⟨hp, hs⟩ := hscope.mpr h.scope
    exact ⟨⟨h.mappings, h.credentials, h.alerting, hp, h.incidents, h.balances, h.collectors,
      quote_freshness_never_blocks r, h.reconciliation⟩, hs, h.low⟩

/-! ## Section 2: Healthy venues -/

/-- The venue can be traded at: its collector has fetched and is not failing, its balance has
    been seen and is not low, and no open critical incident is about it or about all. -/
structure Healthy (r : Runtime) (platform : String) : Prop where
  collector : ∃ c, r.collectors.lookup platform = some c ∧ c.warming_up = false ∧
    c.failing = false
  balance : ∃ b, r.balances.lookup platform = some b ∧ b.is_low = false
  incidents : ∀ i ∈ r.incidents, i.open_critical = true →
    i.metadata.platform ≠ "" ∧ i.metadata.platform.toLower ≠ platform

/-- The live gate opens only between healthy venues. -/
def OpensForHealthy (r : Runtime) (yes_platform no_platform : String) : Prop :=
  r.dry_run = false → (r.allow_execution yes_platform no_platform).allowed = true →
    ∀ platform ∈ [yes_platform.toLower, no_platform.toLower], r.Healthy platform

/-- The collectors check blocks, and what can be read of its text does not leave out both
    venues. -/
def NamesPair (r : Runtime) (yes_platform no_platform : String) : Prop :=
  r.check_collectors.blocks = true ∧
    elsewhere r.check_collectors [yes_platform.toLower, no_platform.toLower] = false

/-- The venue has a collector, which has fetched and is not failing, and a balance. -/
def Watched (r : Runtime) (platform : String) : Prop :=
  ∃ c b, r.collectors.lookup platform = some c ∧ c.warming_up = false ∧ c.failing = false ∧
    r.balances.lookup platform = some b

/-- Nothing about the venues is masked: another gate refuses, or the collectors check names
    the pair, or both venues are watched. -/
def Unmasked (r : Runtime) (yes_platform no_platform : String) : Prop :=
  r.dry_run = false → r.OthersPass yes_platform no_platform →
    r.NamesPair yes_platform no_platform ∨
      ∀ platform ∈ [yes_platform.toLower, no_platform.toLower], r.Watched platform

theorem not_low {involved : List String} (hlow : r.low_platforms involved = []) {platform : String}
    (hplatform : platform ∈ involved) {b : BalanceSnapshot}
    (hb : r.balances.lookup platform = some b) : b.is_low = false := by
  unfold low_platforms at hlow
  have hnot := List.filter_eq_nil_iff.mp hlow platform (List.mem_dedup.mpr hplatform)
  simpa [hb] using hnot

/-- The gate opens only for healthy venues exactly where nothing about them is masked: a
    collector that is missing, failing or has fetched nothing, or a missing balance, is let
    through when the collectors check is about other venues. -/
theorem opens_for_healthy_iff (r : Runtime) (yes_platform no_platform : String) :
    r.OpensForHealthy yes_platform no_platform ↔ r.Unmasked yes_platform no_platform := by
  constructor
  · intro hopens hlive hothers
    by_cases hnames : r.NamesPair yes_platform no_platform
    · exact .inl hnames
    · have hcollectors : r.check_collectors.blocks = true →
          elsewhere r.check_collectors [yes_platform.toLower, no_platform.toLower] = true :=
        fun hb => by_contra fun h => hnames ⟨hb, Bool.not_eq_true _ ▸ h⟩
      have hallowed := (allowed_iff_passes hlive).mpr ⟨hothers, hcollectors⟩
      refine .inr fun platform hplatform => ?_
      obtain ⟨⟨c, hc, hfetched, hsound⟩, ⟨b, hb, -⟩, -⟩ := hopens hlive hallowed platform hplatform
      exact ⟨c, b, hc, hfetched, hsound, hb⟩
  · intro hunmasked hlive hallowed platform hplatform
    have hpasses := (allowed_iff_passes hlive).mp hallowed
    obtain ⟨hblocks, hhere⟩ | hwatched := hunmasked hlive hpasses.toOthersPass
    · exact absurd ((hpasses.collectors hblocks).symm.trans hhere) (by decide)
    · obtain ⟨c, b, hc, hfetched, hsound, hb⟩ := hwatched platform hplatform
      refine ⟨⟨c, hc, hfetched, hsound⟩, ⟨b, hb, not_low hpasses.low hplatform hb⟩, ?_⟩
      intro i hi hopen
      have huntouched := hpasses.incidents i hi hopen
      simp only [incident_touches_opportunity, Bool.or_eq_false_iff, decide_eq_false_iff_not]
        at huntouched
      exact ⟨huntouched.1, fun htag => huntouched.2 (htag ▸ hplatform)⟩

/-- Kalshi and Polymarket with a balance each, validated, and everything else in order. -/
def two_venues (collectors : AList fun _ : String => Collector)
    (incidents : List ExecutionIncident) : Runtime where
  dry_run := false
  auto_trade_mappings := ["HOUSE"]
  kalshi_api_key_id := "key"
  kalshi_private_key_path := "/keys/kalshi"
  polymarket := .us "key" "secret"
  telegram_bot_token := "token"
  telegram_chat_id := "chat"
  bootstrap_trades := none
  profitability := some
    { verdict := .validated_profitable
      completed_executions := 40
      platform_profitability := fun _ => some .validated_profitable
      pair_profitability := fun _ => some .validated_profitable }
  incidents := incidents
  balances := (AList.insert "kalshi" ⟨500, false⟩ ∅).insert "polymarket" ⟨500, false⟩
  collectors := collectors
  price_store := none
  reconciler := none
  now := 1000

/-- ForecastEx fails, Kalshi has fetched nothing yet: the check names only ForecastEx. -/
def masked_warm_up : AList fun _ : String => Collector :=
  ((AList.insert "kalshi" {} ∅).insert "polymarket" { total_fetches := 9 }).insert "forecastex"
    { total_fetches := 9, consecutive_errors := 7 }

/-- The failing collector of a third venue hides that Kalshi has no data. -/
theorem warm_up_masked :
    ¬ (two_venues masked_warm_up []).OpensForHealthy "kalshi" "polymarket" := by
  intro hopens
  have hallowed : ((two_venues masked_warm_up []).allow_execution "kalshi" "polymarket").allowed =
      true := by decide +kernel
  obtain ⟨c, hc, hfetched, -⟩ := (hopens rfl hallowed "kalshi" (by decide +kernel)).collector
  have hnone : (two_venues masked_warm_up []).collectors.lookup "kalshi" = some {} := by
    decide +kernel
  rw [hnone, Option.some_inj] at hc
  subst hc
  exact absurd hfetched (by decide)

/-! ## Section 3: The view by pair -/

/-- A state in which the view of the pair `a`, `b` is compared with the gate for an
    opportunity between them: live, and profitable as a whole and for the pair. -/
structure Compared (r : Runtime) (a b yes_platform no_platform : String) : Prop where
  live : r.dry_run = false
  known : (a, b) ∈ pairs_of r.known_platforms
  between : yes_platform.toLower = a ∧ no_platform.toLower = b ∨
    yes_platform.toLower = b ∧ no_platform.toLower = a
  profitable : r.check_profitability.status = .pass
  validated : ∃ s, r.profitability = some s ∧
    (validate_opportunity_scope s yes_platform no_platform).1 = true

/-- `venue_pairs['a:b']` is ready. -/
def view_ready (r : Runtime) (a b : String) : Bool :=
  (r.refresh.venue_pairs.lookup (a, b)).any (·.ready_for_live_trading)

/-- What the view and the gate ask alike of a pair. -/
structure SharedPass (r : Runtime) (a b : String) : Prop where
  mappings : r.check_auto_trade_mappings.blocks = false
  credentials : r.check_platform_credentials.blocks = false
  alerting : r.check_alerting.blocks = false
  reconciliation : r.check_reconciliation.blocks = false
  balances : r.check_balances.blocks = true → elsewhere r.check_balances [a, b] = true
  collectors : r.check_collectors.blocks = true →
    a ∉ names_in r.check_collectors.summary ∧ b ∉ names_in r.check_collectors.summary

/-- The open critical incidents, the newest first. -/
def open_critical (r : Runtime) : List ExecutionIncident := r.incidents.filter (·.open_critical)

/-- Nothing parts the view from the gate: what they share refuses the pair, or one of the
    first five open critical incidents touches it, or none at all does and the text of a
    collectors check that blocks names some venue. -/
def ViewExact (r : Runtime) (a b : String) : Prop :=
  r.SharedPass a b →
    (∃ i ∈ r.open_critical.take 5, incident_touches_opportunity i [a, b] = true) ∨
      (∀ i ∈ r.open_critical, incident_touches_opportunity i [a, b] = false) ∧
        (r.check_collectors.blocks = true → names_in r.check_collectors.summary ≠ [])

/-- The entry of a pair is ready where no check that blocks is about either venue. -/
theorem pair_ready_iff {checks : List ReadinessCheck} {a b : String} :
    (pair_readiness checks a b).ready_for_live_trading = true ↔
      ∀ c ∈ checks, c.blocks = true → c.about a = false ∧ c.about b = false := by
  have hnil (l : List String) : l.eraseDups = [] ↔ l = [] := by
    cases l <;> simp [List.eraseDups_cons]
  unfold pair_readiness
  simp only [List.isEmpty_iff, hnil, List.append_eq_nil_iff, global_blocking, venue_entry,
    List.map_eq_nil_iff, List.filter_eq_nil_iff, Bool.and_eq_true, not_and, Bool.not_eq_true]
  constructor
  · rintro ⟨⟨-, hleft⟩, hright⟩ c hc hb
    exact ⟨hleft c hc hb, hright c hc hb⟩
  · intro h
    refine ⟨⟨fun c hc hb => ?_, fun c hc hb => (h c hc hb).1⟩, fun c hc hb => (h c hc hb).2⟩
    -- a check about every venue is about `a`
    have habout := (h c hc hb).1
    unfold ReadinessCheck.about at habout
    cases hscope : platform_scope_for_check c with
    | none => simp [hscope] at habout
    | some scope => rfl

theorem view_ready_iff {a b : String} (hknown : (a, b) ∈ pairs_of r.known_platforms) :
    r.view_ready a b = true ↔
      ∀ c ∈ r.checks, c.blocks = true → c.about a = false ∧ c.about b = false := by
  have hlookup (pairs : List (String × String)) (f : String × String → ScopedReadiness)
      (h : (a, b) ∈ pairs) :
      (pairs.map fun pair => (pair, f pair)).lookup (a, b) = some (f (a, b)) := by
    induction pairs with
    | nil => cases h
    | cons pair pairs ih =>
      by_cases heq : (a, b) = pair
      · simp [heq]
      · have hrest := (List.mem_cons.mp h).resolve_left heq
        simp [List.lookup_cons, beq_eq_false_iff_ne.mpr heq, ih hrest]
  unfold view_ready refresh
  dsimp only
  rw [hlookup _ _ hknown, Option.any_some, pair_ready_iff]

/-! ### Scopes -/

/-- A check that has a scope is elsewhere where the scope is not empty and has neither
    venue in it. -/
theorem elsewhere_iff {c : ReadinessCheck} {a b : String} {scope : List String}
    (hscope : platform_scope_for_check c = some scope) :
    elsewhere c [a, b] = true ↔ (a ∉ scope ∧ b ∉ scope) ∧ scope ≠ [] := by
  unfold elsewhere
  simp only [hscope, Option.getD_some, Bool.and_eq_true, Bool.not_eq_true',
    List.isEmpty_eq_false_iff, List.any_eq_false, List.mem_cons, List.not_mem_nil, or_false,
    decide_eq_true_eq]
  refine ⟨fun ⟨hne, hall⟩ => ⟨⟨fun ha => hall a ha (.inl rfl), fun hb => hall b hb (.inr rfl)⟩,
    hne⟩, fun ⟨⟨ha, hb⟩, hne⟩ => ⟨hne, ?_⟩⟩
  rintro x hx (rfl | rfl)
  · exact ha hx
  · exact hb hx

/-- Where a scope is never empty, a check is about neither venue exactly where the gate
    finds it elsewhere. -/
theorem about_iff_elsewhere {c : ReadinessCheck} {a b : String}
    (hscope : platform_scope_for_check c ≠ some []) :
    c.about a = false ∧ c.about b = false ↔ elsewhere c [a, b] = true := by
  cases h : platform_scope_for_check c with
  | none => simp [ReadinessCheck.about, elsewhere, h]
  | some scope =>
    have hne : scope ≠ [] := fun hnil => hscope (h.trans (congrArg some hnil))
    rw [elsewhere_iff h]
    simp [ReadinessCheck.about, h, hne]

theorem elsewhere_comm (c : ReadinessCheck) (a b : String) :
    elsewhere c [a, b] = elsewhere c [b, a] := by
  have hpair (x : String) : x ∈ [a, b] ↔ x ∈ [b, a] := by simp [or_comm]
  unfold elsewhere
  simp only [hpair]

theorem touches_comm (i : ExecutionIncident) (a b : String) :
    incident_touches_opportunity i [a, b] = incident_touches_opportunity i [b, a] := by
  have hpair (x : String) : x ∈ [a, b] ↔ x ∈ [b, a] := by simp [or_comm]
  unfold incident_touches_opportunity
  simp only [hpair]

theorem balances_scope_ne_nil (r : Runtime) :
    platform_scope_for_check r.check_balances ≠ some [] := by
  have hscope (c : ReadinessCheck) (hkey : c.key = .balances) :
      platform_scope_for_check c ≠ some [] := by
    unfold platform_scope_for_check
    rw [hkey]
    cases c.details with
    | other => simp
    | critical_incidents first => simp
    | balances is_low =>
      simp only
      split
      · simp
      · next hne => simpa using hne
  exact hscope _ r.balances_key

/-- The scope of the collectors check is what its text names. -/
theorem collectors_scope (r : Runtime) :
    platform_scope_for_check r.check_collectors = some (names_in r.check_collectors.summary) := by
  unfold platform_scope_for_check
  rw [collectors_key]

/-- The incidents check is about neither venue where the incidents it lists touch neither. -/
theorem incidents_about_iff {a b : String} (hblocks : r.check_incidents.blocks = true) :
    r.check_incidents.about a = false ∧ r.check_incidents.about b = false ↔
      ∀ i ∈ r.open_critical.take 5, incident_touches_opportunity i [a, b] = false := by
  obtain ⟨i, hi, hopen⟩ := incidents_block_iff.mp hblocks
  have hne : r.open_critical ≠ [] := List.ne_nil_of_mem (List.mem_filter.mpr ⟨hi, hopen⟩)
  have hfirst : r.open_critical.take 5 ≠ [] := by simpa using hne
  have hcheck : platform_scope_for_check r.check_incidents =
      if r.open_critical.take 5 = [] ∨ ∃ i ∈ r.open_critical.take 5, i.metadata.platform = "" then
        none
      else some ((r.open_critical.take 5).map (·.metadata.platform.toLower)) := by
    unfold check_incidents
    rw [if_pos (show r.incidents.filter (·.open_critical) ≠ [] from hne)]
    rfl
  unfold ReadinessCheck.about
  rw [hcheck]
  by_cases htagged : ∃ i ∈ r.open_critical.take 5, i.metadata.platform = ""
  · obtain ⟨i, hi, hempty⟩ := htagged
    rw [if_pos (.inr ⟨i, hi, hempty⟩)]
    refine ⟨fun h => (nomatch h.1), fun h => ?_⟩
    have huntouched := h i hi
    simp [incident_touches_opportunity, hempty] at huntouched
  · rw [if_neg (not_or.mpr ⟨hfirst, htagged⟩)]
    simp only [Option.all_some, decide_eq_false_iff_not, List.mem_map, not_exists, not_and,
      incident_touches_opportunity, Bool.or_eq_false_iff, List.mem_cons, List.not_mem_nil, or_false,
      not_or]
    refine ⟨fun ⟨ha, hb⟩ i hi => ⟨fun he => htagged ⟨i, hi, he⟩, ha i hi, hb i hi⟩, fun h => ?_⟩
    exact ⟨fun i hi => (h i hi).2.1, fun i hi => (h i hi).2.2⟩

/-! ### The view and the gate -/

/-- The view is ready where what it shares with the gate passes and the incidents it lists
    are about other venues. -/
theorem view_ready_iff_shared {a b : String} (hknown : (a, b) ∈ pairs_of r.known_platforms)
    (hprofitable : r.check_profitability.status = .pass) :
    r.view_ready a b = true ↔
      r.SharedPass a b ∧
        ∀ i ∈ r.open_critical.take 5, incident_touches_opportunity i [a, b] = false := by
  -- a check without a scope is about every venue: it must not block at all
  have hglobal (c : ReadinessCheck) (hscope : platform_scope_for_check c = none) :
      (c.blocks = true → c.about a = false ∧ c.about b = false) ↔ c.blocks = false := by
    unfold ReadinessCheck.about
    simp [hscope]
  have hpasses : r.check_profitability.blocks = false := by
    simp [ReadinessCheck.blocks, hprofitable]
  have hincidents : (r.check_incidents.blocks = true →
      r.check_incidents.about a = false ∧ r.check_incidents.about b = false) ↔
      ∀ i ∈ r.open_critical.take 5, incident_touches_opportunity i [a, b] = false := by
    by_cases hblocks : r.check_incidents.blocks = true
    · simp only [hblocks, true_implies]
      exact incidents_about_iff hblocks
    · have hnone : r.open_critical = [] := by
        refine List.filter_eq_nil_iff.mpr fun i hi hopen => hblocks ?_
        exact incidents_block_iff.mpr ⟨i, hi, hopen⟩
      simp [hblocks, hnone]
  have hcollectors : (r.check_collectors.about a = false ∧ r.check_collectors.about b = false) ↔
      a ∉ names_in r.check_collectors.summary ∧ b ∉ names_in r.check_collectors.summary := by
    unfold ReadinessCheck.about
    simp [collectors_scope]
  rw [view_ready_iff hknown]
  simp only [checks, List.forall_mem_cons, List.not_mem_nil, false_implies, implies_true, and_true]
  rw [hincidents, about_iff_elsewhere (balances_scope_ne_nil r), hcollectors,
    hglobal r.check_auto_trade_mappings (by simp [platform_scope_for_check]),
    hglobal r.check_platform_credentials (by simp [platform_scope_for_check]),
    hglobal r.check_alerting (by simp [platform_scope_for_check]),
    hglobal r.check_quote_freshness (by simp [platform_scope_for_check]),
    hglobal r.check_reconciliation (by simp [platform_scope_for_check])]
  constructor
  · rintro ⟨hm, hc, ha, -, hi, hb, hco, -, hr⟩
    exact ⟨⟨hm, hc, ha, hr, hb, hco⟩, hi⟩
  · rintro ⟨h, hi⟩
    exact ⟨h.mappings, h.credentials, h.alerting, by simp [hpasses], hi, h.balances, h.collectors,
      quote_freshness_never_blocks r, h.reconciliation⟩

/-- Venues that the balances check leaves out have no low balance. -/
theorem low_platforms_eq_nil {a b : String} (ha : a.toLower = a) (hb : b.toLower = b)
    (hbalances : r.check_balances.blocks = true → elsewhere r.check_balances [a, b] = true) :
    r.low_platforms [a, b] = [] := by
  refine List.filter_eq_nil_iff.mpr fun platform hplatform hlow => ?_
  have hinvolved : platform ∈ [a, b] := List.mem_dedup.mp hplatform
  have hlower : platform.toLower = platform := by
    obtain rfl | rfl : platform = a ∨ platform = b := by simpa using hinvolved
    · exact ha
    · exact hb
  obtain ⟨balance, hbalance, his_low⟩ := (Option.any_eq_true _ _).mp hlow
  have hentry : ⟨platform, balance⟩ ∈ r.balances.entries := AList.mem_lookup_iff.mp hbalance
  have hlisted : platform ∈ r.low_balances :=
    List.mem_map.mpr ⟨_, List.mem_filter.mpr ⟨hentry, his_low⟩, rfl⟩
  have hblocks := balances_block_iff.mpr (.inr (List.ne_nil_of_mem hlisted))
  -- the scope of the check is what its details list, and the venue is one of them
  have hscope : platform_scope_for_check r.check_balances =
      some (r.low_balances.map String.toLower) := by
    unfold platform_scope_for_check
    rw [balances_key]
    unfold check_balances
    dsimp only
    rw [if_neg (List.ne_nil_of_mem hentry), if_pos (List.ne_nil_of_mem hlisted)]
    have hlow_names : ((r.balances.entries.map fun entry => (entry.1, entry.2.is_low)).filter
        Prod.snd).map (·.1.toLower) = r.low_balances.map String.toLower := by
      simp [low_balances, List.filter_map, Function.comp_def]
    simp only [hlow_names]
    rw [if_neg]
    exact List.ne_nil_of_mem (List.mem_map_of_mem hlisted)
  have helse := hbalances hblocks
  simp only [elsewhere, hscope, Option.getD_some, Bool.and_eq_true, Bool.not_eq_true',
    List.any_eq_false] at helse
  have hmem : platform ∈ r.low_balances.map String.toLower :=
    List.mem_map.mpr ⟨platform, hlisted, hlower⟩
  exact helse.2 platform hmem (by simpa using hinvolved)

/-- The gate, for an opportunity between the venues of a pair. -/
theorem allowed_iff_shared {a b yes_platform no_platform : String}
    (h : r.Compared a b yes_platform no_platform) :
    (r.allow_execution yes_platform no_platform).allowed = true ↔
      r.SharedPass a b ∧
        (∀ i ∈ r.open_critical, incident_touches_opportunity i [a, b] = false) ∧
        (r.check_collectors.blocks = true → names_in r.check_collectors.summary ≠ []) := by
  -- which leg is on which side is no matter to what is narrowed
  have helse : ∀ c, elsewhere c [yes_platform.toLower, no_platform.toLower] =
      elsewhere c [a, b] := by
    intro c
    obtain ⟨rfl, rfl⟩ | ⟨rfl, rfl⟩ := h.between
    · rfl
    · exact elsewhere_comm c _ _
  have htouch : ∀ i, incident_touches_opportunity i [yes_platform.toLower, no_platform.toLower] =
      incident_touches_opportunity i [a, b] := by
    intro i
    obtain ⟨rfl, rfl⟩ | ⟨rfl, rfl⟩ := h.between
    · rfl
    · exact touches_comm i _ _
  have hincidents : (∀ i ∈ r.incidents, i.open_critical = true →
      incident_touches_opportunity i [a, b] = false) ↔
        ∀ i ∈ r.open_critical, incident_touches_opportunity i [a, b] = false := by
    simp only [open_critical, List.mem_filter, and_imp]
  have hcollectors : elsewhere r.check_collectors [a, b] = true ↔
      (a ∉ names_in r.check_collectors.summary ∧ b ∉ names_in r.check_collectors.summary) ∧
        names_in r.check_collectors.summary ≠ [] :=
    elsewhere_iff (collectors_scope r)
  obtain ⟨s, hs, hvalid⟩ := h.validated
  rw [allowed_iff_passes h.live]
  constructor
  · intro hp
    refine ⟨⟨hp.mappings, hp.credentials, hp.alerting, hp.reconciliation,
      fun hb => helse _ ▸ hp.balances hb, fun hb => ?_⟩, ?_, fun hb => ?_⟩
    · exact (hcollectors.mp (helse _ ▸ hp.collectors hb)).1
    · exact hincidents.mp fun i hi hopen => htouch i ▸ hp.incidents i hi hopen
    · exact (hcollectors.mp (helse _ ▸ hp.collectors hb)).2
  · rintro ⟨hshared, huntouched, hnamed⟩
    have hbalances : r.check_balances.blocks = true →
        elsewhere r.check_balances [yes_platform.toLower, no_platform.toLower] = true :=
      fun hb => (helse _).trans (hshared.balances hb)
    refine ⟨⟨hshared.mappings, hshared.credentials, hshared.alerting, hshared.reconciliation,
      ⟨s, hs, validate_opportunity_scope_iff.mp hvalid⟩, fun i hi hopen => ?_, hbalances, ?_⟩,
      fun hb => ?_⟩
    · exact (htouch i).trans (hincidents.mpr huntouched i hi hopen)
    · exact low_platforms_eq_nil (Text.toLower_toLower _) (Text.toLower_toLower _) hbalances
    · exact (helse _).trans (hcollectors.mpr ⟨hshared.collectors hb, hnamed hb⟩)

/-- The view of a pair agrees with the gate exactly where nothing parts them: the view lists
    five incidents and the gate reads all, and a text that names no venue blocks nobody in
    the view and everybody at the gate. -/
theorem view_agrees_iff {a b yes_platform no_platform : String}
    (h : r.Compared a b yes_platform no_platform) :
    (r.view_ready a b = true ↔
        (r.allow_execution yes_platform no_platform).allowed = true) ↔ r.ViewExact a b := by
  rw [view_ready_iff_shared h.known h.profitable, allowed_iff_shared h]
  have hfirst : (∀ i ∈ r.open_critical, incident_touches_opportunity i [a, b] = false) →
      ∀ i ∈ r.open_critical.take 5, incident_touches_opportunity i [a, b] = false :=
    fun hall i hi => hall i (List.mem_of_mem_take hi)
  have htouched : (∃ i ∈ r.open_critical.take 5, incident_touches_opportunity i [a, b] = true) ↔
      ¬ ∀ i ∈ r.open_critical.take 5, incident_touches_opportunity i [a, b] = false := by
    simp only [not_forall, Bool.not_eq_false, exists_prop]
  unfold ViewExact
  rw [htouched]
  tauto

/-- Both collectors have data. -/
def both_fetched : AList fun _ : String => Collector :=
  (AList.insert "kalshi" { total_fetches := 9 } ∅).insert "polymarket" { total_fetches := 9 }

/-- `view_agrees_iff` of the pair, with nothing wrong. -/
theorem view_agrees_two_venues :
    ((two_venues both_fetched []).view_ready "kalshi" "polymarket" = true ↔
        ((two_venues both_fetched []).allow_execution "kalshi" "polymarket").allowed = true) ↔
      (two_venues both_fetched []).ViewExact "kalshi" "polymarket" :=
  view_agrees_iff
    { live := rfl
      known := by decide +kernel
      between := .inl ⟨by decide +kernel, by decide +kernel⟩
      profitable := by decide +kernel
      validated := ⟨_, rfl, by decide +kernel⟩ }

/-- A critical incident of a venue. -/
def critical_at (platform incident_id : String) : ExecutionIncident where
  incident_id := incident_id
  arb_id := "ARB-000001"
  canonical_id := "HOUSE"
  severity := .critical
  message := "venue trouble"
  timestamp := 900
  metadata := { platform := platform }
  status := .opened

/-- Five incidents at ForecastEx, and an older one at Kalshi. -/
def sixth_at_kalshi : List ExecutionIncident :=
  ["INC-6", "INC-5", "INC-4", "INC-3", "INC-2"].map (critical_at "forecastex") ++
    [critical_at "kalshi" "INC-1"]

/-- The view lists five incidents and is ready; the gate reads the sixth and refuses. -/
theorem sixth_incident_not_in_view :
    (two_venues both_fetched sixth_at_kalshi).Compared "kalshi" "polymarket" "kalshi"
        "polymarket" ∧
      (two_venues both_fetched sixth_at_kalshi).view_ready "kalshi" "polymarket" = true ∧
      ((two_venues both_fetched sixth_at_kalshi).allow_execution "kalshi" "polymarket").allowed =
        false := by
  refine ⟨?_, by decide +kernel, by decide +kernel⟩
  exact
    { live := rfl
      known := by decide +kernel
      between := .inl ⟨by decide +kernel, by decide +kernel⟩
      profitable := by decide +kernel
      validated := ⟨_, rfl, by decide +kernel⟩ }

/-! ## Section 4: The bootstrap window -/

/-- The window is open: the validator is collecting evidence, fewer trades than
    `PHASE5_BOOTSTRAP_TRADES` are completed, and every other check passes. -/
structure Bootstrap (r : Runtime) (cfg : ProfitabilityConfig) (o : Observed) : Prop where
  live : r.dry_run = false
  validator : r.profitability = some (Profitability.refresh cfg o)
  others : ∀ c ∈ r.checks, c.key ≠ .profitability → c.status = .pass
  verdict : (Profitability.refresh cfg o).verdict = .collecting_evidence
  window : ∃ n : ℤ, r.bootstrap_trades = some n ∧ 1 ≤ n ∧ n ≤ 500 ∧
    (Profitability.refresh cfg o).completed_executions < n

/-- In the window the check of the validator does not block. -/
theorem bootstrap_check_passes {cfg : ProfitabilityConfig} {o : Observed} (h : r.Bootstrap cfg o) :
    r.check_profitability.blocks = false := by
  obtain ⟨n, hn, hlow, hhigh, hcompleted⟩ := h.window
  have hremaining : r.bootstrap_remaining (Profitability.refresh cfg o) =
      some (n - (Profitability.refresh cfg o).completed_executions) := by
    simp [bootstrap_remaining, hn, h.verdict, hlow, hhigh, hcompleted]
  simp [check_profitability, h.validator, hremaining, ReadinessCheck.blocks]

/-- A sample there is, and it validates its scope. -/
def SampleValidates (cfg : ProfitabilityConfig) (key : String) (sample : List ArbExecution) :
    Prop :=
  sample ≠ [] ∧ score_execution_scope cfg key sample = .validated_profitable

/-- The completed executions of each platform and of the pair validate them. -/
def SamplesValidate (cfg : ProfitabilityConfig) (o : Observed)
    (yes_platform no_platform : String) : Prop :=
  let completed := completed_executions o.executions
  let platforms := clean_names [yes_platform, no_platform]
  (∀ platform ∈ platforms, SampleValidates cfg platform (platform_sample completed platform)) ∧
    SampleValidates cfg (pair_key platforms) (pair_sample completed (pair_key platforms))

theorem scope_verdict_iff {cfg : ProfitabilityConfig} {key : String} {sample : List ArbExecution} :
    scope_verdict cfg key sample = some .validated_profitable ↔ SampleValidates cfg key sample := by
  unfold scope_verdict SampleValidates
  by_cases hnil : sample = [] <;> simp [hnil]

/-- In the window the check of the validator passes, but the gate asks for the samples all the
    same: the trade goes through exactly where both platforms and their pair are validated
    already. -/
theorem bootstrap_allows_iff {cfg : ProfitabilityConfig} {o : Observed} (h : r.Bootstrap cfg o)
    (yes_platform no_platform : String) :
    (r.allow_execution yes_platform no_platform).allowed = true ↔
      SamplesValidate cfg o yes_platform no_platform := by
  have hpass : ∀ c ∈ r.checks, c.key ≠ .profitability → c.blocks = false := by
    intro c hc hkey
    simp [ReadinessCheck.blocks, h.others c hc hkey]
  have hscopes : (∃ s, r.profitability = some s ∧ ScopesValidated s yes_platform no_platform) ↔
      SamplesValidate cfg o yes_platform no_platform := by
    simp only [h.validator, Option.some_inj, exists_eq_left']
    exact and_congr (forall₂_congr fun _ _ => scope_verdict_iff) scope_verdict_iff
  have hincidents : r.check_incidents.blocks = false := hpass _ (by simp [checks]) (by simp)
  have hbalances : r.check_balances.blocks = false := hpass _ (by simp [checks]) (by simp)
  have hcollectors : r.check_collectors.blocks = false := hpass _ (by simp [checks]) (by simp)
  rw [allowed_iff_passes h.live, ← hscopes]
  refine ⟨fun hp => hp.scope, fun hscope => ⟨⟨hpass _ (by simp [checks]) (by simp),
    hpass _ (by simp [checks]) (by simp), hpass _ (by simp [checks]) (by simp),
    hpass _ (by simp [checks]) (by simp), hscope, ?_, ?_, ?_⟩, ?_⟩⟩
  · intro i hi hopen
    exact absurd (incidents_block_iff.mpr ⟨i, hi, hopen⟩) (by simp [hincidents])
  · exact fun hb => absurd hb (by simp [hbalances])
  · exact low_platforms_eq_nil (Text.toLower_toLower _) (Text.toLower_toLower _)
      fun hb => absurd hb (by simp [hbalances])
  · exact fun hb => absurd hb (by simp [hcollectors])

/-- A system that has traded nothing. -/
def fresh : Observed where
  scan_count := 0
  published := 0
  executions := []
  incidents := []
  total_executions := 0
  aborted := 0
  audit_pass_rate := 1

/-- Five bootstrap trades are allowed, every check passes, and the validator is fresh. -/
def fresh_runtime : Runtime :=
  { two_venues both_fetched [] with
    bootstrap_trades := some 5
    profitability := some (Profitability.refresh {} fresh)
    price_store := some ⟨30, [("kalshi", 990), ("polymarket", 990)]⟩
    reconciler := some (some ⟨false, []⟩) }

theorem fresh_bootstrap : fresh_runtime.Bootstrap {} fresh where
  live := rfl
  validator := rfl
  others := by
    have hall : fresh_runtime.checks.all fun c => c.key = .profitability || c.status = .pass := by
      decide +kernel
    intro c hc hkey
    simpa [hkey] using List.all_eq_true.mp hall c hc
  verdict := by decide +kernel
  window := ⟨5, rfl, by decide, by decide, by decide +kernel⟩

/-- `bootstrap_allows_iff` of the first trade. -/
theorem bootstrap_allows_fresh :
    (fresh_runtime.allow_execution "kalshi" "polymarket").allowed = true ↔
      SamplesValidate {} fresh "kalshi" "polymarket" :=
  bootstrap_allows_iff fresh_bootstrap "kalshi" "polymarket"

/-- The first of five bootstrap trades is refused. -/
theorem first_bootstrap_trade_refused :
    fresh_runtime.Bootstrap {} fresh ∧
      (fresh_runtime.allow_execution "kalshi" "polymarket").allowed = false :=
  ⟨fresh_bootstrap, by decide +kernel⟩

end Runtime

end Readiness
