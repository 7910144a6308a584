import Arbiter.Mapping.Candidates

/-! # What Operations Keep

  The rules by which an invariant of the world between upserts is kept by the operations
  that upsert: one premise for each kind of row they write, in the world where they write it.
-/

namespace Mapping

open Effect

variable {ok : World → (c : Call) → Answer c → Prop} {digest : String → String}
         {spelled : Json ℚ → String}

/-! ### Runs under conditions -/

/-- A condition on the items that passes turn to. -/
def AtTurns (cond : World → Turn → Prop) : World → (c : Call) → Answer c → Prop
  | w, .turn_to turn, _ => cond w turn
  | _, _, _ => True

/-- The statement raised. -/
def Raised : (c : Call) → Answer c → Prop
  | .select _, a => a = none
  | .select_exact_pair _ _, a => a = none
  | .select_platform _ _, a => a = none
  | .select_status _ _, a => a = none
  | .select_confirmed, a => a = none
  | .select_active _, a => a = none
  | .insert _, a => a = none
  | .insert_seed _, a => a = none
  | .expire_exact_pair _ _ _, a => a = none
  | .expire_ranked, a => a = none
  | .disable _ _, a => a = none
  | .mark_unavailable _ _, a => a = none
  | .set_conid _ _ _, a => a = none
  | .delete _, a => a = none
  | .runtime_put _ _, _ | .runtime_drop _, _ | .runtime_replace _, _ | .turn_to _, _ => False

/-- Statements are carried out, save an `INSERT` of `upsert`: its criteria may be
    unreadable. -/
def Answered (_ : World) (c : Call) (a : Answer c) : Prop := Raised c a → ∃ m, c = .insert m

/-- An upsert is then carried out as a whole or not at all. -/
theorem upsert_answered_ends {m : MarketMapping} {w w' : World} {result : Option MarketMapping}
    (h : Raising.Ends (store_env.restrict Answered) (upsert spelled m) w result w') :
    (result = none ∧ w' = w) ∨ ∃ (stamp stamp' : ℤ) (ids : List String),
      result = some (enforce_auto_trade_safety spelled m) ∧
      w'.table = retire_duplicates stamp' (enforce_auto_trade_safety spelled m)
        (w.table.put ((enforce_auto_trade_safety spelled m).inserted stamp
          (w.table.find m.canonical_id))) ∧
      (∀ c, c ∉ ids → w'.table.find c = (w.table.put ((enforce_auto_trade_safety spelled
        m).inserted stamp (w.table.find m.canonical_id))).find c) ∧
      w'.runtime = fun c =>
        if c = m.canonical_id then some (enforce_auto_trade_safety spelled m).to_dict
        else if c ∈ ids then none else w.runtime c := by
  obtain hnone | ⟨stamp, t, rfl, ⟨-, -, id, k, p, hok⟩ | ⟨stamp', ids, hdone⟩⟩ := upsert_ends h
  · exact .inl hnone
  · obtain ⟨m', hm'⟩ := hok rfl
    cases hm'
  · exact .inr ⟨stamp, stamp', ids, hdone⟩

/-! ### What a candidate is merged into -/

/-- The first of the rows a query selects, in the order of the lookups. -/
def LooksUp (t : Mappings) (p : MarketMapping → Bool) (found : Option MarketMapping) : Prop :=
  ∃ rows, found = List.head? rows ∧ t.Ordered p MarketMapping.outranks rows

theorem LooksUp.mem {t : Mappings} {p : MarketMapping → Bool} {m : MarketMapping}
    (h : LooksUp t p (some m)) : m ∈ t.rows ∧ p m = true := by
  obtain ⟨rows, hfound, hordered⟩ := h
  cases rows with
  | nil => simp at hfound
  | cons r rows =>
      simp only [List.head?_cons, Option.some.injEq] at hfound
      subst hfound
      exact hordered.mem_iff.mp (by simp)

theorem LooksUp.none {t : Mappings} {p : MarketMapping → Bool} (h : LooksUp t p none) :
    ∀ r ∈ t.rows, p r = false := by
  obtain ⟨rows, hfound, hordered⟩ := h
  cases rows with
  | nil =>
      intro r hr
      by_contra hp
      exact absurd (hordered.mem_iff.mpr ⟨hr, by simpa using hp⟩) (by simp)
  | cons r rows => simp at hfound

/-- A candidate is written to the row of its pair, found as such or by both contracts, or to
    a row that is not confirmed: one that was looked up, or a fresh one. -/
theorem existing_mapping_cases {c : Candidate} {p k q : Option MarketMapping}
    {existing : MarketMapping} (h : existing_mapping digest c p k q = some existing) :
    p = some existing ∨
      (k = some existing ∧ ∃ m, q = some m ∧ m.canonical_id = existing.canonical_id) ∨
      existing.status ≠ .confirmed ∧
        (k = some existing ∨ q = some existing ∨ existing = fresh_mapping digest c) := by
  unfold existing_mapping at h
  cases p with
  | some m => exact .inl h
  | none =>
      simp only at h
      split_ifs at h
      have h := Option.some.inj h
      -- by both contracts, by the Kalshi one, by the Polymarket one, or a fresh row
      cases hboth : (k.filter fun k => q.any (·.canonical_id = k.canonical_id)) with
      | some m =>
          obtain rfl : m = existing := by simpa only [hboth, Option.some_or, Option.getD_some] using h
          obtain ⟨rfl, hsame⟩ := Option.filter_eq_some_iff.mp hboth
          obtain ⟨m', rfl, hid⟩ := (Option.any_eq_true _ _).mp hsame
          exact .inr (.inl ⟨rfl, m', rfl, of_decide_eq_true hid⟩)
      | none =>
          simp only [hboth, Option.none_or] at h
          cases hk : (k.filter fun k => k.polymarket_slug = "" && k.status ≠ .confirmed) with
          | some m =>
              obtain rfl : m = existing := by simpa only [hk, Option.some_or, Option.getD_some] using h
              obtain ⟨rfl, hopen⟩ := Option.filter_eq_some_iff.mp hk
              exact .inr (.inr ⟨by simp at hopen; exact hopen.2, .inl rfl⟩)
          | none =>
              simp only [hk, Option.none_or] at h
              cases hq : (q.filter fun q => q.kalshi_market_id = "" && q.status ≠ .confirmed) with
              | some m =>
                  obtain rfl : m = existing := by simpa only [hq, Option.getD_some] using h
                  obtain ⟨rfl, hopen⟩ := Option.filter_eq_some_iff.mp hq
                  exact .inr (.inr ⟨by simp at hopen; exact hopen.2, .inr (.inl rfl)⟩)
              | none =>
                  obtain rfl : fresh_mapping digest c = existing := by
                    simpa only [hq, Option.getD_none] using h
                  exact .inr (.inr ⟨nofun, .inr (.inr rfl)⟩)

/-- A candidate is written to `existing`, in a table. -/
def Resolves (digest : String → String) (t : Mappings) (c : Candidate)
    (existing : MarketMapping) : Prop :=
  c.paired = true ∧ ∃ pair_mapping kalshi_mapping poly_mapping,
    LooksUp t (fun r => r.kalshi_market_id = c.pair.1 && r.polymarket_slug = c.pair.2)
      pair_mapping ∧
    LooksUp t (fun r => r.platform_id .kalshi = c.pair.1 && c.pair.1 ≠ "") kalshi_mapping ∧
    LooksUp t (fun r => r.platform_id .polymarket = c.pair.2 && c.pair.2 ≠ "") poly_mapping ∧
    existing_mapping digest c pair_mapping kalshi_mapping poly_mapping = some existing

/-- A candidate is merged into a confirmed row only where that binds its pair. -/
theorem Resolves.pair_of_confirmed {t : Mappings} {c : Candidate} {existing : MarketMapping}
    (h : Resolves digest t c existing) (hstatus : existing.status = .confirmed) :
    existing ∈ t.rows ∧ existing.pair = c.pair := by
  obtain ⟨-, p, k, q, hp, hk, hq, hexisting⟩ := h
  obtain rfl | ⟨rfl, m, rfl, hid⟩ | ⟨hopen, -⟩ := existing_mapping_cases hexisting
  · obtain ⟨hmem, hpair⟩ := hp.mem
    simp only [Bool.and_eq_true, decide_eq_true_eq] at hpair
    exact ⟨hmem, Prod.ext hpair.1 hpair.2⟩
  · obtain ⟨hmem, hkalshi⟩ := hk.mem
    obtain ⟨hmem', hpoly⟩ := hq.mem
    obtain rfl : m = existing := by
      have hfind := Table.find_of_mem hmem'
      rw [hid, Table.find_of_mem hmem] at hfind
      exact (Option.some.inj hfind).symm
    exact ⟨hmem, Prod.ext (of_decide_eq_true (Bool.and_eq_true_iff.mp hkalshi).1)
      (of_decide_eq_true (Bool.and_eq_true_iff.mp hpoly).1)⟩
  · exact absurd hstatus hopen

theorem mapping_from_candidate_ends {c : Candidate} {w w' : World}
    {result : Option (Option MarketMapping)}
    (h : Raising.Ends (store_env.restrict ok) (mapping_from_candidate digest c) w result w') :
    w' = w ∧ ∀ m, result = some (some m) →
      ∃ existing, Resolves digest w.table c existing ∧ m = merge_candidate c existing := by
  unfold mapping_from_candidate at h
  by_cases hpaired : c.paired = true
  · rw [if_neg (by simp [hpaired])] at h
    obtain ⟨pair_mapping, w₁, hpair, hlookups⟩ | ⟨rfl, hpair⟩ := Raising.ends_bind.1 h
    · obtain ⟨-, rfl, hnone | ⟨rows, hrows, hordered⟩⟩ := ends_statement.1 hpair
      · cases hnone
      obtain ⟨kalshi_mapping, w₂, hkalshi, hlater⟩ | ⟨rfl, hkalshi⟩ := Raising.ends_bind.1 hlookups
      · obtain ⟨-, rfl, hnone | ⟨rows', hrows', hordered'⟩⟩ := ends_statement.1 hkalshi
        · cases hnone
        obtain ⟨poly_mapping, w₃, hpoly, hlast⟩ | ⟨rfl, hpoly⟩ := Raising.ends_bind.1 hlater
        · obtain ⟨-, rfl, hnone | ⟨rows'', hrows'', hordered''⟩⟩ := ends_statement.1 hpoly
          · cases hnone
          obtain ⟨rfl, rfl⟩ := Raising.ends_pure.1 hlast
          refine ⟨rfl, fun m hm => ?_⟩
          obtain ⟨existing, hexisting, rfl⟩ := Option.map_eq_some_iff.mp (Option.some.inj hm)
          exact ⟨existing, ⟨hpaired, pair_mapping, kalshi_mapping, poly_mapping,
            ⟨rows, Option.some.inj hrows, hordered⟩, ⟨rows', Option.some.inj hrows', hordered'⟩,
            ⟨rows'', Option.some.inj hrows'', hordered''⟩, hexisting⟩, rfl⟩
        · exact ⟨(ends_statement.1 hpoly).2.1, by simp⟩
      · exact ⟨(ends_statement.1 hkalshi).2.1, by simp⟩
    · exact ⟨(ends_statement.1 hpair).2.1, by simp⟩
  · rw [if_pos (by simpa using hpaired)] at h
    obtain ⟨rfl, rfl⟩ := Raising.ends_pure.1 h
    exact ⟨rfl, by simp⟩

/-! ### Rules -/

/-- What every upsert of a merged candidate keeps. -/
theorem write_candidates_keeps {J : World → Prop}
    (candidates : List Candidate)
    (hmerge : ∀ w, ∀ c ∈ candidates, ∀ existing, J w → ok w (.turn_to (.candidate c)) () →
      Resolves digest w.table c existing →
      Raising.wp (store_env.restrict ok) (upsert spelled (merge_candidate c existing))
        (fun _ => J) w)
    {w : World} (hw : J w) :
    Raising.wp (store_env.restrict ok) (write_candidates digest spelled candidates)
      (fun _ => J) w := by
  refine Raising.wp_foldlM (fun written c hc w hw => ?_) 0 hw
  refine Raising.wp_bind.2 fun result w₁ hturn => ?_
  obtain ⟨rfl, hok, rfl⟩ := ends_turn_to hturn
  refine ⟨fun _ _ => ?_, by simp⟩
  refine Raising.wp_bind.2 fun found w₂ hfound => ?_
  obtain ⟨rfl, hresolves⟩ := mapping_from_candidate_ends hfound
  refine ⟨fun found' hsome => ?_, fun _ => hw⟩
  cases found' with
  | none => exact Raising.wp_pure.2 hw
  | some m =>
      obtain ⟨existing, hexisting, rfl⟩ := hresolves m hsome
      exact Raising.wp_map_keeps (hmerge _ c hc existing hw hok hexisting)

/-- What is kept besides by every upsert of a row that is read before and expired. -/
theorem sync_candidates_keeps {J : World → Prop} (good : MarketMapping → Prop)
    (candidates : List Candidate)
    (hmerge : ∀ w, ∀ c ∈ candidates, ∀ existing, J w → ok w (.turn_to (.candidate c)) () →
      Resolves digest w.table c existing →
      Raising.wp (store_env.restrict ok) (upsert spelled (merge_candidate c existing))
        (fun _ => J) w)
    (hread : ∀ w, J w → ∀ r ∈ w.table.rows, good r)
    (hstale : ∀ w m, J w → good m → m.status = .candidate → ok w (.turn_to (.stale m)) () →
      Raising.wp (store_env.restrict ok) (upsert spelled { m with
        status := .expired
        allow_auto_trade := false
        review_note := "Expired by latest discovery sync." }) (fun _ => J) w)
    {w : World} (hw : J w) :
    Raising.wp (store_env.restrict ok) (sync_candidates digest spelled candidates)
      (fun _ => J) w := by
  refine Raising.wp_bind_keeps (write_candidates_keeps candidates hmerge hw) fun written w₁ hw₁ => ?_
  refine Raising.wp_bind.2 fun result w₂ hall => ?_
  obtain ⟨-, rfl, hrows⟩ := ends_statement.1 hall
  refine ⟨fun existing hsome => ?_, fun _ => hw₁⟩
  -- the rows that may be stale were read as candidates, and are written back as read
  have hgood : ∀ m ∈ existing, good m ∧ m.status = .candidate := by
    intro m hm
    obtain hnone | ⟨rows, hrows, hordered⟩ := hrows
    · rw [hsome] at hnone
      cases hnone
    · rw [hsome] at hrows
      cases hrows
      obtain ⟨hmem, hstatus⟩ := hordered.mem_iff.mp (List.mem_of_mem_take hm)
      exact ⟨hread w₂ hw₁ m hmem, by simpa using hstatus⟩
  refine Raising.wp_map_keeps (Raising.wp_foldlM (fun _ m hm w hw => ?_) () hw₁)
  unfold expire_stale
  split_ifs
  · refine Raising.wp_bind.2 fun result w₃ hturn => ?_
    obtain ⟨rfl, hok, rfl⟩ := ends_turn_to hturn
    refine ⟨fun _ _ => ?_, by simp⟩
    exact Raising.wp_map_keeps (hstale _ m hw (hgood m hm).1 (hgood m hm).2 hok)
  · exact Raising.wp_pure.2 hw

/-- What the upsert of the row it updates keeps. -/
theorem update_status_keeps {J : World → Prop} {id : String} {status : MappingStatus}
    {review_note : String} {allow_auto_trade : Option Bool} {w : World} (hw : J w)
    (hupdate : ∀ m, w.table.find id = some m →
      Raising.wp (store_env.restrict ok) (upsert spelled { m with
        status
        review_note
        allow_auto_trade := allow_auto_trade.getD m.allow_auto_trade }) (fun _ => J) w) :
    Raising.wp (store_env.restrict ok)
      (update_status spelled id status review_note allow_auto_trade) (fun _ => J) w := by
  intro result w' h
  obtain ⟨rfl, -⟩ | ⟨m, upserted, hfind, -, hupsert⟩ := update_status_ends h
  · exact hw
  · exact hupdate m hfind upserted w' hupsert

end Mapping
