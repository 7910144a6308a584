import Arbiter.Mapping.Replay

/-! # What Is Traded Without an Operator

  Every row that is written has passed `_enforce_auto_trade_safety`, and no other statement
  gives the permission. So at any moment of any sequence of operations a row that may be
  traded has identical resolution, and in sports sides of the same polarity that settle on
  the same day; letter case aside.
-/

namespace Mapping

open Effect LTS

variable {digest : String → String} {spelled : Json ℚ → String}

/-! ### Statements -/

/-- A row that is written is safe. -/
def WritesSafely (spelled : Json ℚ → String) : Call → Prop
  | .insert m | .insert_seed m => m.Safe spelled
  | _ => True

/-- Every row of the table is safe. -/
def AllSafe (spelled : Json ℚ → String) (t : Mappings) : Prop :=
  ∀ r ∈ t.rows, r.Safe spelled

theorem inserted_safe {m : MarketMapping} (stamp : ℤ) (old : Option MarketMapping)
    (h : m.Safe spelled) : (m.inserted stamp old).Safe spelled := by
  intro hallow
  obtain ⟨hidentical, hsports⟩ := h hallow
  refine ⟨?_, hsports⟩
  have hnamed : m.resolution_match_status ≠ "" := by
    intro hempty
    rw [MarketMapping.is_identical, hempty] at hidentical
    exact absurd hidentical (by decide +kernel)
  simpa [MarketMapping.is_identical, MarketMapping.inserted, hnamed] using hidentical

/-- An update that gives no permission, and leaves what the check reads, keeps every row
    safe. -/
theorem update_where_safe {t : Mappings} {p : MarketMapping → Bool}
    {f : MarketMapping → MarketMapping} (hf : ∀ r, (f r).canonical_id = r.canonical_id)
    (h : AllSafe spelled t) (hsafe : ∀ r, r.Safe spelled → (f r).Safe spelled) :
    AllSafe spelled (update_where t p f hf) :=
  forall_update_where h hsafe

/-- A statement that writes safely keeps every row safe. -/
theorem store_serve_safe {w w' : World} {c : Call} {a : Answer c} (hc : WritesSafely spelled c)
    (hserve : store_serve w c a w') (h : AllSafe spelled w.table) : AllSafe spelled w'.table := by
  -- of each statement: it raises and leaves the table, or it writes
  cases c with
  | insert m =>
      obtain ⟨-, rfl⟩ | ⟨-, -, stamp, rfl⟩ := hserve
      · exact h
      · intro r hr
        obtain rfl | ⟨hr, -⟩ := Table.mem_put.mp hr
        · exact inserted_safe stamp _ hc
        · exact h r hr
  | insert_seed m =>
      obtain ⟨-, rfl⟩ | ⟨-, stamp, rfl⟩ := hserve
      · exact h
      · intro r hr
        obtain rfl | ⟨hr, -⟩ := Table.mem_put.mp hr
        · exact inserted_safe stamp (w.table.find m.canonical_id) hc
        · exact h r hr
  -- a retired or disabled row has no permission that could be unsafe
  | expire_exact_pair id k p =>
      obtain ⟨-, rfl⟩ | ⟨stamp, rfl, -⟩ := hserve
      · exact h
      · exact update_where_safe (MarketMapping.retire_id stamp) h fun r _ => by
          simp [MarketMapping.Safe, MarketMapping.retire]
  | expire_ranked =>
      obtain ⟨-, rfl⟩ | ⟨stamp, keep, -, rfl, -⟩ := hserve
      · exact h
      · exact update_where_safe (MarketMapping.retire_id stamp) h fun r _ => by
          simp [MarketMapping.Safe, MarketMapping.retire]
  | disable id reason =>
      obtain ⟨-, rfl⟩ | ⟨stamp, time, rfl, -⟩ := hserve
      · exact h
      · exact update_where_safe (MarketMapping.disable_id stamp _) h fun r _ => by
          simp [MarketMapping.Safe, MarketMapping.disable]
  | mark_unavailable id unavailable =>
      obtain ⟨-, rfl⟩ | ⟨stamp, rfl, -⟩ := hserve
      · exact h
      · exact update_where_safe (MarketMapping.mark_id stamp unavailable) h fun r hr => hr
  | set_conid id conid no_side =>
      obtain ⟨-, rfl⟩ | ⟨stamp, rfl, -⟩ := hserve
      · exact h
      · refine update_where_safe (MarketMapping.rebind_id stamp conid no_side) h fun r hr => ?_
        cases no_side <;> exact hr
  | delete id =>
      obtain ⟨-, rfl⟩ | ⟨rfl, -⟩ := hserve
      · exact h
      · intro r hr
        exact h r (List.mem_of_mem_filter hr)
  | select _ | select_exact_pair _ _ | select_platform _ _ | select_status _ _
  | select_confirmed | select_active _ =>
      obtain ⟨rfl, -⟩ := hserve
      exact h
  | runtime_put _ _ | runtime_drop _ | runtime_replace _ | turn_to _ =>
      cases hserve
      exact h

/-! ### Operations -/

theorem upsert_writes_safely (m : MarketMapping) :
    Raising.Calls (WritesSafely spelled) (upsert spelled m) := by
  refine Raising.Calls.bind ⟨enforce_safe spelled m, fun _ => trivial⟩ fun _ => ?_
  refine Raising.Calls.bind ?_ fun ids => ?_
  · obtain ⟨-, -, -, hsent⟩ | ⟨-, hnothing⟩ :=
      expire_duplicates_eq (enforce_auto_trade_safety spelled m)
    · rw [hsent]
      exact ⟨trivial, fun _ => trivial⟩
    · rw [hnothing]
      exact trivial
  · refine Raising.Calls.bind (Raising.Calls.lift ⟨trivial, fun _ => trivial⟩) fun _ => ?_
    exact Raising.Calls.bind (Raising.Calls.lift ⟨trivial, fun _ => trivial⟩) fun _ => trivial

theorem update_status_writes_safely (id : String) (status : MappingStatus) (review_note : String)
    (allow_auto_trade : Option Bool) : Raising.Calls (WritesSafely spelled)
      (update_status spelled id status review_note allow_auto_trade) := by
  refine Raising.Calls.bind ⟨trivial, fun _ => trivial⟩ fun found => ?_
  cases found with
  | none => exact trivial
  | some m => exact Raising.Calls.bind (upsert_writes_safely _) fun _ => trivial

theorem refresh_writes_safely :
    Raising.Calls (WritesSafely spelled) refresh_runtime_cache := by
  refine Raising.Calls.bind ?_ fun _ => ?_
  · refine Raising.Calls.bind ⟨trivial, fun _ => trivial⟩ fun _ => ?_
    exact Raising.Calls.bind (Raising.Calls.lift ⟨trivial, fun _ => trivial⟩) fun _ => trivial
  · refine Raising.Calls.bind ⟨trivial, fun _ => trivial⟩ fun _ => ?_
    exact Raising.Calls.bind (Raising.Calls.lift ⟨trivial, fun _ => trivial⟩) fun _ => trivial

theorem seed_writes_safely (records : List MarketMappingRecord) (overwrite : Bool) :
    Raising.Calls (WritesSafely spelled) (seed_from_records spelled records overwrite) := by
  refine Raising.Calls.bind (Raising.Calls.foldlM ?_ 0) fun inserted => ?_
  · intro inserted record _
    refine Raising.Calls.bind ⟨trivial, fun _ => trivial⟩ fun existing => ?_
    split_ifs
    · exact trivial
    · exact Raising.Calls.bind ⟨enforce_safe spelled _, fun _ => trivial⟩ fun _ => trivial
  · exact Raising.Calls.bind refresh_writes_safely fun _ => trivial

/-- A candidate is merged by reads alone. -/
theorem mapping_from_candidate_writes_safely (c : Candidate) :
    Raising.Calls (WritesSafely spelled) (mapping_from_candidate digest c) := by
  unfold mapping_from_candidate
  split_ifs
  · exact trivial
  · refine Raising.Calls.bind ⟨trivial, fun _ => trivial⟩ fun _ => ?_
    refine Raising.Calls.bind ⟨trivial, fun _ => trivial⟩ fun _ => ?_
    exact Raising.Calls.bind ⟨trivial, fun _ => trivial⟩ fun _ => trivial

theorem write_candidates_writes_safely (candidates : List Candidate) :
    Raising.Calls (WritesSafely spelled) (write_candidates digest spelled candidates) := by
  refine Raising.Calls.foldlM (fun written c _ => ?_) 0
  refine Raising.Calls.bind (Raising.Calls.lift ⟨trivial, fun _ => trivial⟩) fun _ => ?_
  apply Raising.Calls.bind (mapping_from_candidate_writes_safely c)
  intro found
  cases found with
  | none => exact trivial
  | some m => exact Raising.Calls.bind (upsert_writes_safely m) fun _ => trivial

theorem sync_candidates_writes_safely (candidates : List Candidate) :
    Raising.Calls (WritesSafely spelled) (sync_candidates digest spelled candidates) := by
  refine Raising.Calls.bind (write_candidates_writes_safely candidates) fun written => ?_
  refine Raising.Calls.bind ⟨trivial, fun _ => trivial⟩ fun existing => ?_
  refine Raising.Calls.bind (Raising.Calls.foldlM (fun _ m _ => ?_) ()) fun _ => trivial
  unfold expire_stale
  split_ifs
  · refine Raising.Calls.bind (Raising.Calls.lift ⟨trivial, fun _ => trivial⟩) fun _ => ?_
    exact Raising.Calls.bind (upsert_writes_safely _) fun _ => trivial
  · exact trivial

/-- Every operation writes safe rows only. -/
theorem run_writes_safely (op : StoreOp) :
    Raising.Calls (WritesSafely spelled) (op.run digest spelled) := by
  cases op with
  | seed_from_records records overwrite =>
      exact Raising.Calls.bind (seed_writes_safely records overwrite) fun _ => trivial
  | upsert m => exact Raising.Calls.bind (upsert_writes_safely m) fun _ => trivial
  | update_status id status review_note allow_auto_trade =>
      exact Raising.Calls.bind
        (update_status_writes_safely id status review_note allow_auto_trade) fun _ => trivial
  | write_candidates candidates =>
      exact Raising.Calls.bind (write_candidates_writes_safely candidates) fun _ => trivial
  | sync_candidates candidates =>
      exact Raising.Calls.bind (sync_candidates_writes_safely candidates) fun _ => trivial
  | expire_duplicate_active_pairs =>
      refine Raising.Calls.bind (Raising.Calls.bind ⟨trivial, fun _ => trivial⟩ fun _ => ?_)
        fun _ => trivial
      exact Raising.Calls.bind (Raising.Calls.lift ⟨trivial, fun _ => trivial⟩) fun _ => trivial
  | refresh_runtime_cache => exact Raising.Calls.bind refresh_writes_safely fun _ => trivial
  | delete id =>
      refine Raising.Calls.bind (Raising.Calls.bind ⟨trivial, fun _ => trivial⟩ fun deleted => ?_)
        fun _ => trivial
      split_ifs
      · exact Raising.Calls.bind (Raising.Calls.lift ⟨trivial, fun _ => trivial⟩) fun _ => trivial
      · exact trivial
  | disable_auto_trade _ _ | mark_forecastex_unavailable _ _ | set_forecastex_conid _ _ _ =>
      exact Raising.Calls.bind ⟨trivial, fun _ => trivial⟩ fun _ => trivial

/-! ### Sequences of operations -/

/-- After any sequence of operations from an empty table, each whole or broken off where it
    raised: a row that may be traded has identical resolution, and if it is tagged as sports,
    criteria of the same polarity with equal settlement dates; letter case aside. -/
theorem traded_rows_safe {w : World}
    (hr : Reachable (store_runs digest spelled fun w => w.table = Table.empty) w) :
    ∀ r ∈ w.table.rows, r.allow_auto_trade = true →
      r.resolution_match_status.toLower = "identical" ∧
        ((∃ tag ∈ r.tags, tag.toLower = "sports") →
          says_same (r.resolution_criteria.object.get "polarity") = true ∧
            settlement_date spelled r.resolution_criteria.object "kalshi" ≠ "" ∧
            settlement_date spelled r.resolution_criteria.object "kalshi" =
              settlement_date spelled r.resolution_criteria.object "polymarket") := by
  have hinv : Invariant (store_runs digest spelled fun w => w.table = Table.empty)
      (fun w => AllSafe spelled w.table) := by
    refine Invariant.of_step ?_ ?_
    · intro w hempty r hr
      rw [hempty] at hr
      exact absurd hr (by simp [Table.empty])
    · rintro w op w' h ⟨result, hrun⟩
      exact (run_writes_safely op).keeps (J := fun w => AllSafe spelled w.table)
        (fun w c a w' hc hserve hw => store_serve_safe hc hserve hw) h result w' hrun
  intro r hmem hallow
  obtain ⟨hidentical, hsports⟩ := hinv w hr r hmem hallow
  refine ⟨by simpa [MarketMapping.is_identical] using hidentical, ?_⟩
  rintro ⟨tag, htag, hlower⟩
  have halike := hsports (List.any_eq_true.mpr ⟨tag, htag, by simpa using hlower⟩)
  simp only [Criteria.settle_alike, Bool.and_eq_true, decide_eq_true_eq] at halike
  exact ⟨halike.1.1, halike.1.2, halike.2⟩

/-! ### Runs -/

/-- A confirmed row whose match status is in capitals. -/
def capital_row : MarketMapping :=
  { canonical_id := "FED", description := "", status := .confirmed, allow_auto_trade := true
    kalshi_market_id := "K", polymarket_slug := "P", resolution_match_status := "IDENTICAL" }

/-- The store with that row. -/
def capital_world : World :=
  after (StoreOp.run (fun _ => "") (fun _ => "") (.upsert capital_row)) ⟨.empty, fun _ => none⟩

theorem capital_world_reached : Reachable
    (store_runs (fun _ => "") (fun _ => "") fun w => w.table = Table.empty) capital_world :=
  (Reachable.init rfl).step (l := .upsert capital_row) ⟨_, ends_after _ _⟩

theorem traded_rows_safe_capitals :
    capital_world.table.rows.any (·.allow_auto_trade) = true ∧
    ∀ r ∈ capital_world.table.rows, r.allow_auto_trade = true →
    r.resolution_match_status.toLower = "identical" ∧
      ((∃ tag ∈ r.tags, tag.toLower = "sports") →
        says_same (r.resolution_criteria.object.get "polarity") = true ∧
          settlement_date (fun _ => "") r.resolution_criteria.object "kalshi" ≠ "" ∧
          settlement_date (fun _ => "") r.resolution_criteria.object "kalshi" =
            settlement_date (fun _ => "") r.resolution_criteria.object "polymarket") :=
  ⟨by decide +kernel, traded_rows_safe capital_world_reached⟩

/-- The check does not look at case: a row is traded whose match status is `IDENTICAL`. -/
theorem capitals_are_traded : ∃ w, Reachable
    (store_runs (fun _ => "") (fun _ => "") fun w => w.table = Table.empty) w ∧
      ∃ r ∈ w.table.rows, r.allow_auto_trade = true ∧ r.resolution_match_status ≠ "identical" := by
  refine ⟨capital_world, capital_world_reached, ?_⟩
  decide +kernel

end Mapping
