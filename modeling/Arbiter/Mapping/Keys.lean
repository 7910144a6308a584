import Arbiter.Mapping.Fingerprint

/-! # Keys

  A key keeps what a Kalshi fingerprint holds: no part has a colon, but the entity of a
  championship, which has one. So a key and a source are of one fingerprint (`Keyed.eq`).

  ## Contents

  - Section 1: texts without a colon.
  - Section 2: the parts of a key.
-/

namespace Fingerprint

open Regex Teams Sports Mapping

/-! ## Section 1: Texts without a colon -/

/-- The text has no colon. -/
def Bare (s : String) : Prop := ':' ∉ s.toList

instance (s : String) : Decidable (Bare s) := by unfold Bare; infer_instance

namespace Bare

variable {s t : String}

theorem append (hs : Bare s) (ht : Bare t) : Bare (s ++ t) := by
  rw [Bare, String.toList_append, List.mem_append, not_or]
  exact ⟨hs, ht⟩

theorem ofList {l : List Char} (h : ':' ∉ l) : Bare (String.ofList l) := by
  rwa [Bare, String.toList_ofList]

theorem strip (hs : Bare s) : Bare (Text.strip s) := by
  refine ofList fun h => hs ?_
  rw [List.mem_reverse] at h
  exact List.dropWhile_sublist _ |>.subset (List.mem_reverse.mp (List.dropWhile_sublist _ |>.subset h))

theorem toLower (hs : Bare s) : Bare s.toLower := by
  intro h
  rw [Text.toList_toLower, List.mem_map] at h
  obtain ⟨c, hc, hcolon⟩ := h
  obtain hsame | ⟨-, hlower⟩ := Text.toLower_cases c
  · exact hs (by rwa [← hcolon, hsame])
  · rw [hcolon] at hlower
    exact absurd hlower (by decide)

/-- What a table of such texts has, or the text itself. -/
theorem aliased {table : List (String × String)} (htable : ∀ entry ∈ table, Bare entry.2)
    (hs : Bare s) : Bare ((table.lookup s).getD s) := by
  cases hlookup : table.lookup s with
  | none => exact hs
  | some value =>
      obtain ⟨before, after, rfl, -⟩ := List.lookup_eq_some_iff.mp hlookup
      exact htable (s, value) (by simp)

end Bare

theorem team_aliases_bare : ∀ entry ∈ team_aliases, Bare entry.2 := by
  decide +kernel

theorem normalize_entity_code_bare {s : String} (hs : Bare s) : Bare (normalize_entity_code s) :=
  .aliased team_aliases_bare hs.strip.toLower

theorem canonical_pair_bare {a b : String} (ha : Bare a) (hb : Bare b) :
    Bare (canonical_pair a b) := by
  have hdash : Bare "-" := by
    decide
  unfold canonical_pair
  dsimp only
  split_ifs
  · exact ((normalize_entity_code_bare hb).append hdash).append (normalize_entity_code_bare ha)
  · exact ((normalize_entity_code_bare ha).append hdash).append (normalize_entity_code_bare hb)

theorem mem_of_first_split {l : List (String × String)} {p : String × String}
    (h : first_split l = some p) : p ∈ l := by
  -- every step takes the pair, or keeps what is held
  have hfold : ∀ (step : Option (String × String) → String × String → Option (String × String)),
      (∀ best q, step best q = some q ∨ step best q = best) →
        ∀ (l : List (String × String)) best, l.foldl step best = some p → p ∈ l ∨ best = some p := by
    intro step hstep l
    induction l with
    | nil => exact fun _ => .inr
    | cons q l ih =>
        intro best h
        obtain hmem | hbest := ih _ h
        · exact .inl (List.mem_cons_of_mem _ hmem)
        · rcases hstep best q with htaken | hkept
          · obtain rfl := Option.some.inj (htaken.symm.trans hbest)
            exact .inl List.mem_cons_self
          · exact .inr (hkept.symm.trans hbest)
  refine (hfold _ (fun best q => ?_) l none h).resolve_right (by simp)
  cases best with
  | none => exact .inl rfl
  | some held =>
      dsimp only
      split_ifs
      · exact .inl rfl
      · exact .inr rfl

theorem split_compound_code_bare {value : String} (hvalue : Bare value)
    {participants : String × String} (h : split_compound_code value = some participants) :
    Bare participants.1 ∧ Bare participants.2 := by
  have htext : Bare (Text.strip value).toLower := hvalue.strip.toLower
  unfold split_compound_code at h
  dsimp only at h
  split_ifs at h
  obtain ⟨idx, -, hsplit⟩ := List.mem_filterMap.mp (mem_of_first_split h)
  split_ifs at hsplit
  obtain rfl := Option.some.inj hsplit
  exact ⟨normalize_entity_code_bare (.ofList fun hc => htext (List.mem_of_mem_take hc)),
    normalize_entity_code_bare (.ofList fun hc => htext (List.mem_of_mem_drop hc))⟩

/-! ### Numbers -/

/-- What is written in digits and points. -/
theorem bare_of_digits {s : String} (h : ∀ c ∈ s.toList, c.isDigit = true ∨ c = '.') : Bare s := by
  intro hc
  exact absurd (h ':' hc) (by decide)

theorem toString_bare (n : ℕ) : Bare (toString n) := by
  exact bare_of_digits fun c hc => .inl (Text.isDigit_of_mem_toString hc)

theorem short_decimal_bare (q : ℚ≥0) : Bare (short_decimal q) := by
  refine bare_of_digits fun c hc => Decimal.isDigit_of_mem_fixed (k := 4) (q := q) ?_
  rw [short_decimal, String.toList_ofList] at hc
  exact (List.rdropWhile_prefix _ _).subset ((List.rdropWhile_prefix _ _).subset hc)

theorem replace_bare {pat new s : String} (hnew : Bare new) (hs : Bare s) :
    Bare (Text.replace pat new s) :=
  fun hc => (Text.mem_replace hc).elim hnew hs

theorem normalize_decimal_bare {value : String} (h : Bare value) :
    Bare (normalize_decimal value) := by
  have htext : Bare (Text.replace "pt" "." value.toLower) :=
    replace_bare (by decide) h.toLower
  unfold normalize_decimal
  dsimp only
  cases Decimal.read (Text.replace "pt" "." value.toLower) with
  | none => exact htext
  | some number =>
      dsimp only
      split_ifs
      · exact toString_bare _
      · exact short_decimal_bare _

theorem normalize_percent_bucket_bare {value : String} (h : Bare value) :
    Bare (normalize_percent_bucket value) := by
  have hempty : Bare "" := by
    decide
  have htext : Bare (Text.replace "%" "" (Text.replace "pct" "" value.toLower)) :=
    replace_bare hempty (replace_bare hempty h.toLower)
  unfold normalize_percent_bucket
  dsimp only
  cases hstart : ["gte", "lte", "t"].find?
      (Text.starts_with · (Text.replace "%" "" (Text.replace "pct" "" value.toLower))) with
  | none => exact normalize_decimal_bare htext
  | some start =>
      have hbare : ∀ start ∈ ["gte", "lte", "t"], Bare start := by
        decide
      exact (hbare start (List.mem_of_find?_eq_some hstart)).append
        (normalize_decimal_bare (.ofList fun hc => htext (List.mem_of_mem_drop hc)))

/-! ### Groups -/

/-- The groups of a match have no colon. -/
def BareMatch (m : Match) : Prop := ∀ name, Bare (m.text name)

theorem at_start_bare {r : Re} (hr : r.avoids ':' = true) {s : String} {m : Match}
    (h : r.at_start s = some m) : BareMatch m :=
  at_start_avoids hr h

/-- A date of a ticker. -/
theorem months_bare : ∀ entry ∈ months, Bare entry.2 := by
  decide

theorem kalshi_months_bare : ∀ entry ∈ kalshi_months, Bare entry.2 := by
  decide

/-- What such a table has. -/
theorem lookup_bare {table : List (String × String)} (htable : ∀ entry ∈ table, Bare entry.2)
    {key value : String} (h : table.lookup key = some value) : Bare value := by
  obtain ⟨before, after, rfl, -⟩ := List.lookup_eq_some_iff.mp h
  exact htable (key, value) (by simp)

/-! ## Section 2: The parts of a key -/

/-- The parts of a key. -/
def MarketFingerprint.parts (f : MarketFingerprint) : List String :=
  f.event_parts ++ [f.direction, f.outcome]

theorem market_key_eq (f : MarketFingerprint) : f.market_key = ":".intercalate f.parts := by
  simp [MarketFingerprint.market_key, MarketFingerprint.event_key, MarketFingerprint.parts,
    MarketFingerprint.event_parts, String.append_assoc]

/-- No part has a colon. -/
def Plain (f : MarketFingerprint) : Prop := ∀ x ∈ f.parts, Bare x

/-- The parts of the key of a championship, whose entity is two of them. -/
def championship_parts (canonical_comp team_code year : String) : List String :=
  ["sports", "championship", canonical_comp, team_code, year, "championship-winner", "futures",
    "same", "yes"]

theorem championship_key (canonical_comp team_code year : String) :
    (championship canonical_comp team_code year).market_key =
      ":".intercalate (championship_parts canonical_comp team_code year) := by
  simp [championship_parts, market_key_eq, championship, MarketFingerprint.parts,
    MarketFingerprint.event_parts, String.append_assoc]

theorem championship_parts_bare {canonical_comp team_code year : String}
    (hcomp : Bare canonical_comp) (hteam : Bare team_code) (hyear : Bare year) :
    ∀ x ∈ championship_parts canonical_comp team_code year, Bare x := by
  have hrest : Bare "sports" ∧ Bare "championship" ∧ Bare "championship-winner" ∧
      Bare "futures" ∧ Bare "same" ∧ Bare "yes" := by
    decide
  simp [championship_parts, hcomp, hteam, hyear, hrest]

/-- Parts without a colon can be told apart. -/
theorem parts_eq {xs ys : List String} (hxs : ∀ x ∈ xs, Bare x) (hys : ∀ y ∈ ys, Bare y)
    (hx : xs ≠ []) (hy : ys ≠ []) (h : ":".intercalate xs = ":".intercalate ys) : xs = ys :=
  Text.join_injective (c := ':') hxs hys hx hy h

/-- The fingerprints of Kalshi markets. -/
inductive Keyed : MarketFingerprint → Prop
  | plain {f : MarketFingerprint} (h : Plain f) : Keyed f
  | futures {canonical_comp team_code year : String} (hcomp : Bare canonical_comp)
      (hteam : Bare team_code) (hyear : Bare year) :
      Keyed (championship canonical_comp team_code year)

/-- The key of a championship has a part more. -/
theorem plain_key_ne {f : MarketFingerprint} (hf : Plain f) {canonical_comp team_code year : String}
    (hcomp : Bare canonical_comp) (hteam : Bare team_code) (hyear : Bare year) :
    f.market_key ≠ (championship canonical_comp team_code year).market_key := by
  intro hkey
  rw [market_key_eq, championship_key] at hkey
  have hparts := congrArg List.length (parts_eq hf (championship_parts_bare hcomp hteam hyear)
    (by simp [MarketFingerprint.parts]) (by simp [championship_parts]) hkey)
  simp [MarketFingerprint.parts, MarketFingerprint.event_parts, championship_parts] at hparts

/-- A key and a source are of one fingerprint without a colon. -/
theorem plain_eq {f g : MarketFingerprint} (hf : Plain f) (hg : Plain g)
    (hkey : f.market_key = g.market_key) (hsource : f.source = g.source) : f = g := by
  rw [market_key_eq, market_key_eq] at hkey
  have hparts := parts_eq hf hg (by simp [MarketFingerprint.parts])
    (by simp [MarketFingerprint.parts]) hkey
  simp only [MarketFingerprint.parts, MarketFingerprint.event_parts, List.cons_append,
    List.nil_append, List.cons.injEq, and_true] at hparts
  obtain ⟨hcategory, hsubcategory, hentity, hdate, hmetric, hthreshold, hdirection, houtcome⟩ :=
    hparts
  cases f
  cases g
  simp_all

/-- **A key and a source are of one fingerprint**. -/
theorem Keyed.eq {f g : MarketFingerprint} (hf : Keyed f) (hg : Keyed g)
    (hkey : f.market_key = g.market_key) (hsource : f.source = g.source) : f = g := by
  cases hf with
  | plain hf =>
      cases hg with
      | plain hg => exact plain_eq hf hg hkey hsource
      | futures hcomp hteam hyear => exact absurd hkey (plain_key_ne hf hcomp hteam hyear)
  | futures hcomp hteam hyear =>
      cases hg with
      | plain hg => exact absurd hkey.symm (plain_key_ne hg hcomp hteam hyear)
      | futures hcomp' hteam' hyear' =>
          rw [championship_key, championship_key] at hkey
          have hparts := parts_eq (championship_parts_bare hcomp hteam hyear)
            (championship_parts_bare hcomp' hteam' hyear') (by simp [championship_parts])
            (by simp [championship_parts]) hkey
          simp only [championship_parts, List.cons.injEq, true_and, and_true] at hparts
          obtain ⟨rfl, rfl, rfl⟩ := hparts
          rfl

/-! ### Parsers -/

/-- A day, of parts without a colon. -/
theorem day_bare {year month day : String} (hyear : Bare year) (hmonth : Bare month)
    (hday : Bare day) : Bare ("20" ++ year ++ "-" ++ month ++ "-" ++ day) := by
  have htwenty : Bare "20" := by
    decide
  have hdash : Bare "-" := by
    decide
  exact ((((htwenty.append hyear).append hdash).append hmonth).append hdash).append hday

section parsers

variable {market : KalshiMarket} {f : MarketFingerprint}

theorem kalshi_sports_market_bare {m : Match} (hm : BareMatch m) {participants side : String}
    {parsed : KalshiSportsMarket} (h : kalshi_sports_market m participants side = some parsed) :
    Bare parsed.poly_sport ∧ Bare parsed.date ∧ Bare parsed.participants_raw ∧
      Bare parsed.side := by
  unfold kalshi_sports_market at h
  simp only [Option.bind_eq_bind, Option.bind_eq_some_iff, Option.pure_def,
    Option.some.injEq] at h
  obtain ⟨date, hdate, poly_sport, hsport, rfl⟩ := h
  have hsports : ∀ entry ∈ kalshi_sport_to_poly, Bare entry.2 := by
    decide
  refine ⟨lookup_bare hsports hsport, ?_, (hm _).toLower, (hm _).toLower⟩
  obtain ⟨number, hnumber, rfl⟩ := Option.map_eq_some_iff.mp hdate
  exact day_bare (hm _) (lookup_bare months_bare hnumber) (hm _)

/-- A parsed ticker is a match of one of the two patterns. -/
theorem kalshi_ticker_match {ticker : String} {parsed : KalshiSportsMarket}
    (h : parse_kalshi_sports_ticker ticker = some parsed) :
    ∃ m participants side, BareMatch m ∧ kalshi_sports_market m participants side = some parsed := by
  unfold parse_kalshi_sports_ticker at h
  dsimp only at h
  cases hgame : kalshi_game_re.at_start (Text.strip ticker).toUpper with
  | some m =>
      rw [hgame] at h
      exact ⟨m, _, _, at_start_bare (by decide) hgame, h⟩
  | none =>
      rw [hgame] at h
      cases hmatch : kalshi_match_re.at_start (Text.strip ticker).toUpper with
      | some m =>
          rw [hmatch] at h
          exact ⟨m, _, _, at_start_bare (by decide) hmatch, h⟩
      | none =>
          rw [hmatch] at h
          cases h

theorem plain_iff : Plain f ↔ (Bare f.category ∧ Bare f.subcategory ∧ Bare f.entity ∧ Bare f.date) ∧
    Bare f.metric ∧ Bare f.threshold ∧ Bare f.direction ∧ Bare f.outcome := by
  simp [Plain, MarketFingerprint.parts, MarketFingerprint.event_parts, and_assoc]

theorem kalshi_sports_plain (h : fingerprint_kalshi_sports market = some f) : Plain f := by
  unfold fingerprint_kalshi_sports at h
  simp only [Option.bind_eq_bind, Option.bind_eq_some_iff, Option.pure_def,
    Option.some.injEq] at h
  obtain ⟨parsed, hparsed, participants, hsplit, rfl⟩ := h
  obtain ⟨m, _, _, hm, hmarket⟩ := kalshi_ticker_match hparsed
  obtain ⟨hsport, hdate, hraw, hside⟩ := kalshi_sports_market_bare hm hmarket
  obtain ⟨hone, htwo⟩ := split_compound_code_bare hraw hsplit
  rw [plain_iff]
  refine ⟨⟨?_, hsport, canonical_pair_bare hone htwo, hdate⟩, ?_, ?_, ?_,
    normalize_entity_code_bare hside⟩
  all_goals
    dsimp only
    decide

theorem kalshi_championship_keyed (h : fingerprint_kalshi_championship market = some f) :
    Keyed f := by
  unfold fingerprint_kalshi_championship at h
  simp only [Option.bind_eq_bind, Option.bind_eq_some_iff, Option.pure_def,
    Option.some.injEq] at h
  obtain ⟨m, hm, canonical_comp, hcomp, -, -, rfl⟩ := h
  have hbare := at_start_bare (r := kalshi_champ_re) (by decide +kernel) hm
  have hmap : ∀ entry ∈ kalshi_champ_map, Bare entry.2 := by
    decide +kernel
  exact .futures (lookup_bare hmap hcomp) (normalize_entity_code_bare (hbare _))
    (.append (by decide +kernel) (hbare _))

theorem party_control_plain {chamber date party : String} (hchamber : Bare chamber)
    (hdate : Bare date) (hparty : Bare party) : Plain (party_control chamber date party) := by
  rw [plain_iff]
  refine ⟨⟨?_, ?_, hchamber, hdate⟩, ?_, ?_, ?_, hparty⟩
  all_goals
    dsimp only [party_control]
    decide

theorem kalshi_politics_plain (h : fingerprint_kalshi_politics market = some f) : Plain f := by
  unfold fingerprint_kalshi_politics at h
  obtain ⟨m, hm, rfl⟩ := Option.map_eq_some_iff.mp h
  have hbare := at_start_bare (r := politics_kalshi_control_re) (by decide) hm
  refine party_control_plain ?_ (.append (hbare _) (by decide)) ?_
  all_goals
    split_ifs <;> decide

theorem price_above_plain {asset date threshold : String} (hasset : Bare asset)
    (hdate : Bare date) (hthreshold : Bare threshold) :
    Plain (price_above asset date threshold) := by
  rw [plain_iff]
  refine ⟨⟨?_, hasset, ?_, hdate⟩, ?_, hthreshold, ?_, ?_⟩
  all_goals
    dsimp only [price_above]
    decide

theorem kalshi_crypto_plain (h : fingerprint_kalshi_crypto market = some f) : Plain f := by
  unfold fingerprint_kalshi_crypto at h
  simp only [Option.bind_eq_bind, Option.bind_eq_some_iff, Option.pure_def,
    Option.some.injEq] at h
  obtain ⟨m, hm, month, hmonth, rfl⟩ := h
  have hbare := at_start_bare (r := crypto_kalshi_re) (by decide) hm
  have hassets : ∀ entry ∈ asset_aliases, Bare entry.2 := by
    decide
  exact price_above_plain (.aliased hassets (hbare _).toLower)
    (day_bare (hbare _) (lookup_bare kalshi_months_bare hmonth) (hbare _))
    (normalize_decimal_bare (hbare _))

/-- The parts of a figure of the economy. -/
theorem economic_plain {entity date metric threshold outcome source : String}
    (hentity : Bare entity) (hdate : Bare date) (hmetric : Bare metric) (hthreshold : Bare threshold)
    (houtcome : Bare outcome) : Plain (economic entity date metric threshold outcome source) := by
  rw [plain_iff]
  refine ⟨⟨?_, ?_, hentity, hdate⟩, hmetric, hthreshold, ?_, houtcome⟩
  all_goals
    dsimp only [economic]
    decide

theorem ticker_date_bare {m : Match} (hm : BareMatch m) : Bare (ticker_date m) := by
  unfold ticker_date
  cases hdate : kalshi_date (m.text "yy") (m.text "mon") (m.text "dd") with
  | none => decide
  | some date =>
      obtain ⟨number, hnumber, rfl⟩ := Option.map_eq_some_iff.mp hdate
      exact day_bare (hm _) (lookup_bare kalshi_months_bare hnumber) (hm _)

theorem kalshi_gdp_plain (h : fingerprint_kalshi_gdp market = some f) : Plain f := by
  have hdirection (c d : Prop) [Decidable c] [Decidable d] :
      Bare (if c then "below" else "above") ∧
        Bare (if c then "below" else if d then "between" else "above") := by
    split_ifs <;> decide
  unfold fingerprint_kalshi_gdp at h
  dsimp only at h
  cases hquarter : gdp_kalshi_re.at_start market.ticker.toUpper with
  | some m =>
      rw [hquarter] at h
      obtain rfl := Option.some.inj h
      have hbare := at_start_bare (r := gdp_kalshi_re) (by decide) hquarter
      refine economic_plain (.append (by decide) ?_) (ticker_date_bare hbare)
        (hdirection _ True).1 (normalize_decimal_bare (hbare _)) (by decide)
      -- the period is the quarter of the headline, or the year of the ticker
      cases hsearch : quarter_re.search (headline market) with
      | none => exact .append (by decide) (hbare _)
      | some p =>
          have hp := search_avoids (c := ':') (r := quarter_re) (by decide) hsearch
          exact .append (.append (hp _) (by decide)) (hp _)
  | none =>
      rw [hquarter] at h
      obtain ⟨m, hyear, rfl⟩ := Option.map_eq_some_iff.mp h
      have hbare := at_start_bare (r := gdp_kalshi_year_re) (by decide) hyear
      exact economic_plain (.append (by decide) (hbare _)) (by decide)
        (hdirection _ _).2 (normalize_decimal_bare (hbare _)) (by decide)

theorem kalshi_fed_decision_plain (h : fingerprint_kalshi_fed_decision market = some f) :
    Plain f := by
  unfold fingerprint_kalshi_fed_decision at h
  simp only [Option.bind_eq_bind, Option.bind_eq_some_iff, Option.pure_def,
    Option.some.injEq] at h
  obtain ⟨m, hm, -, -, rfl⟩ := h
  have hbare := at_start_bare (r := fed_kalshi_re) (by decide) hm
  exact economic_plain (by decide) (ticker_date_bare hbare) (by decide)
    (by decide) (.aliased (by decide) (hbare _).toLower)

theorem kalshi_fed_rate_plain (h : fingerprint_kalshi_fed_rate market = some f) : Plain f := by
  unfold fingerprint_kalshi_fed_rate at h
  simp only [Option.bind_eq_bind, Option.bind_eq_some_iff, Option.pure_def,
    Option.some.injEq] at h
  obtain ⟨m, hm, month, hmonth, rfl⟩ := h
  have hbare := at_start_bare (r := fed_kalshi_rate_re) (by decide) hm
  exact economic_plain (by decide)
    (.append (.append (.append (by decide) (hbare _)) (by decide))
      (lookup_bare kalshi_months_bare hmonth))
    (by decide) (normalize_decimal_bare (hbare _)) (by decide)

theorem month_abbrev_bare {month name : String} (h : month_abbrev month = some name) :
    Bare name := by
  obtain ⟨entry, hentry, rfl⟩ := Option.map_eq_some_iff.mp h
  have hnames : ∀ entry ∈ month_names, Bare entry.1 := by
    decide
  exact hnames entry (List.mem_of_find?_eq_some hentry)

theorem period_bare (release_date : String) :
    Bare (period_from_text_or_release market release_date) := by
  unfold period_from_text_or_release
  dsimp only
  generalize hnamed : (do
    let m ← period_re.search (market_text
      [market.title, market.subtitle, market.rules_primary, market.description])
    let month ← month_names.lookup (m.text "1")
    return (← month_abbrev month) ++ m.text "2" : Option String) = named
  cases named with
  | some period =>
      simp only [Option.bind_eq_bind, Option.bind_eq_some_iff, Option.pure_def,
        Option.some.injEq] at hnamed
      obtain ⟨m, hm, month, -, name, hname, rfl⟩ := hnamed
      exact (month_abbrev_bare hname).append
        (search_avoids (c := ':') (r := period_re) (by decide) hm _)
  | none =>
      cases hbefore : period_before_release release_date with
      | none => decide
      | some period =>
          unfold period_before_release at hbefore
          dsimp only at hbefore
          split_ifs at hbefore
          · cases hbefore
          · simp only [Option.bind_eq_bind, Option.bind_eq_some_iff, Option.pure_def,
              Option.some.injEq] at hbefore
            obtain ⟨year, -, month, -, name, hname, rfl⟩ := hbefore
            exact (month_abbrev_bare hname).append (toString_bare _)

theorem kalshi_cpi_plain (h : fingerprint_kalshi_cpi market = some f) : Plain f := by
  obtain ⟨m, hm, rfl⟩ := Option.map_eq_some_iff.mp h
  have hbare := at_start_bare (r := cpi_kalshi_re) (by decide) hm
  have hbasis : Bare ((m.group "basis").getD "YOY").toLower := by
    refine Bare.toLower ?_
    cases hgroup : m.group "basis" with
    | none => decide
    | some basis =>
        have htext := hbare "basis"
        rwa [Match.text, hgroup] at htext
  exact economic_plain (.append (.append (.append (by decide) hbasis) (by decide))
    (period_bare _)) (ticker_date_bare hbare) (by decide)
    (normalize_percent_bucket_bare (hbare _)) (by decide)

theorem kalshi_unemployment_plain (h : fingerprint_kalshi_unemployment market = some f) :
    Plain f := by
  obtain ⟨m, hm, rfl⟩ := Option.map_eq_some_iff.mp h
  have hbare := at_start_bare (r := unemployment_kalshi_re) (by decide) hm
  exact economic_plain (.append (by decide) (period_bare _)) (ticker_date_bare hbare)
    (by decide) (normalize_percent_bucket_bare (hbare _)) (by decide)

/-- What any parser of Kalshi markets reads is keyed. -/
theorem kalshi_keyed (h : fingerprint_kalshi_market market = some f) : Keyed f := by
  obtain ⟨parser, hparser, hf⟩ := List.exists_of_findSome?_eq_some h
  simp only [kalshi_parsers, List.mem_cons, List.not_mem_nil, or_false] at hparser
  obtain rfl | rfl | rfl | rfl | rfl | rfl | rfl | rfl | rfl := hparser
  · exact .plain (kalshi_sports_plain hf)
  · exact kalshi_championship_keyed hf
  · exact .plain (kalshi_politics_plain hf)
  · exact .plain (kalshi_crypto_plain hf)
  · exact .plain (kalshi_gdp_plain hf)
  · exact .plain (kalshi_fed_decision_plain hf)
  · exact .plain (kalshi_fed_rate_plain hf)
  · exact .plain (kalshi_cpi_plain hf)
  · exact .plain (kalshi_unemployment_plain hf)

end parsers

end Fingerprint
