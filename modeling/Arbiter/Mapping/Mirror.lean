import Arbiter.Mapping.Replay

/-! # The Map of the Process

  `MARKET_MAP` is in step with the store while everything it holds as tradable is a row of
  the store with the same state and ids. Upserts put the row they write into the map and
  take the rows they retire out; a deletion, and the sweep of duplicates, take rows out; a
  refresh loads the map anew.

  `disable_auto_trade` and `set_forecastex_conid` write the store alone.
-/

namespace Mapping

open Effect LTS

variable {digest : String → String} {spelled : Json ℚ → String}

/-! ### In step -/

/-- An entry is confirmed, and traded without an operator. -/
def RuntimeEntry.tradable (entry : RuntimeEntry) : Bool :=
  entry.status = .confirmed && entry.allow_auto_trade

/-- What the map holds as tradable is so in the store, with the same ids. -/
def InStep (w : World) : Prop :=
  ∀ c entry, w.runtime c = some entry → entry.tradable = true →
    ∃ r, w.table.find c = some r ∧ r.to_dict = entry

/-- Rows that are taken out of the map may change. -/
theorem InStep.dropped {w : World} (h : InStep w) {t : Mappings} {ids : List String}
    (hkept : ∀ c, c ∉ ids → t.find c = w.table.find c) :
    InStep ⟨t, fun c => if c ∈ ids then none else w.runtime c⟩ := by
  intro c entry hentry htradable
  by_cases hc : c ∈ ids
  · simp [hc] at hentry
  · obtain ⟨r, hr, hdict⟩ := h c entry (by simpa [hc] using hentry) htradable
    exact ⟨r, (hkept c hc).trans hr, hdict⟩

/-- Where the map lacks a tradable entry for a row, or the row's entry stays what it is, an
    update of the row keeps in step. -/
theorem InStep.update {w : World} (h : InStep w) {p : MarketMapping → Bool}
    {f : MarketMapping → MarketMapping} (hf : ∀ r, (f r).canonical_id = r.canonical_id)
    (hsame : ∀ r entry, w.table.find r.canonical_id = some r →
      w.runtime r.canonical_id = some entry → entry.tradable = true → p r = true →
      (f r).to_dict = r.to_dict) :
    InStep { w with table := update_where w.table p f hf } := by
  intro c entry hentry htradable
  obtain ⟨r, hr, hdict⟩ := h c entry hentry htradable
  have hkey : r.canonical_id = c := Table.find_key hr
  refine ⟨_, by rw [find_update_where, hr, Option.map_some], ?_⟩
  by_cases hp : p r = true
  · rw [if_pos hp, hsame r entry (by rw [hkey, hr]) (by rw [hkey]; exact hentry) htradable hp, hdict]
  · rw [if_neg hp, hdict]

/-! ### Operations -/

theorem upsert_in_step {m : MarketMapping} {w : World} (hw : InStep w) :
    Raising.wp (store_env.restrict Answered) (upsert spelled m) (fun _ => InStep) w := by
  intro result w' h
  obtain ⟨-, rfl⟩ | ⟨stamp, stamp', ids, -, htable, hkept, hmap⟩ := upsert_answered_ends h
  · exact hw
  have hid : (enforce_auto_trade_safety spelled m).canonical_id = m.canonical_id := by
    obtain he | he := enforce_eq spelled m <;> rw [he]
  generalize enforce_auto_trade_safety spelled m = e at *
  intro c entry hentry htradable
  rw [hmap] at hentry
  by_cases hc : c = m.canonical_id
  · subst hc
    obtain rfl : e.to_dict = entry := by simpa using hentry
    refine ⟨e.inserted stamp (w.table.find m.canonical_id), ?_, rfl⟩
    rw [htable, ← hid]
    exact find_upserted _ e stamp stamp' _
  · by_cases hdropped : c ∈ ids
    · simp [hc, hdropped] at hentry
    · obtain ⟨r, hr, hdict⟩ := hw c entry (by simpa [hc, hdropped] using hentry) htradable
      refine ⟨r, ?_, hdict⟩
      have hne : (e.inserted stamp (w.table.find m.canonical_id)).canonical_id ≠ c := by
        rw [show (e.inserted stamp (w.table.find m.canonical_id)).canonical_id = m.canonical_id
          from hid]
        exact Ne.symm hc
      rw [hkept c hdropped, Table.find_put_of_ne _ hne, hr]

/-- A map that is loaded anew is in step, whatever it held before. -/
theorem loaded_in_step {t : Mappings} {rows : List MarketMapping} (h : ∀ m ∈ rows, m ∈ t.rows) :
    InStep ⟨t, fun c => ((rows.map fun m => (m.canonical_id, m.to_dict)).reverse.find?
      (·.1 = c)).map Prod.snd⟩ := by
  intro c entry hentry _
  obtain ⟨⟨c', entry'⟩, hfind, rfl⟩ := Option.map_eq_some_iff.mp hentry
  have hmem := List.mem_of_find?_eq_some hfind
  obtain ⟨m, hm, hpair⟩ := List.mem_map.mp (List.mem_reverse.mp hmem)
  obtain ⟨rfl, rfl⟩ := Prod.mk.inj hpair
  have hkey : m.canonical_id = c := by simpa using List.find?_some hfind
  exact ⟨m, by rw [← hkey]; exact Table.find_of_mem (h m hm), rfl⟩

theorem expire_ranked_answered {w : World} :
    Raising.wp (store_env.restrict Answered) expire_duplicate_active_pairs
      (fun result w' => result ≠ none ∧ (InStep w → InStep w')) w := by
  refine Raising.wp_bind.2 fun expired w₁ hranked => ?_
  obtain ⟨hok, ⟨rfl, -⟩ | ⟨stamp, keep, -, rfl, rfl⟩⟩ := ends_statement.1 hranked
  · obtain ⟨m, hm⟩ := hok rfl
    cases hm
  refine ⟨fun ids hids => ?_, by simp⟩
  cases hids
  refine Raising.wp_bind.2 fun result w₂ hdrop => ?_
  obtain ⟨rfl, rfl⟩ := ends_runtime_drop hdrop
  refine ⟨fun _ _ => Raising.wp_pure.2 ⟨by simp, fun hw => ?_⟩, by simp⟩
  exact hw.dropped fun c hc => find_retire_where_of_not_mem hc

/-- After a refresh the map is in step, whatever it held before. -/
theorem refresh_in_step (w : World) :
    Raising.wp (store_env.restrict Answered) refresh_runtime_cache (fun _ => InStep) w := by
  refine Raising.wp_bind.2 (wp_mono expire_ranked_answered fun expired w₁ hexpired => ⟨?_, ?_⟩)
  swap
  · exact fun hnone => absurd hnone hexpired.1
  intro _ _
  refine Raising.wp_bind.2 fun merged w₂ hselect => ?_
  obtain ⟨hok, rfl, rfl | ⟨rows, rfl, hordered⟩⟩ := ends_statement.1 hselect
  · obtain ⟨m, hm⟩ := hok rfl
    cases hm
  refine ⟨fun rows' hrows => ?_, by simp⟩
  cases hrows
  refine Raising.wp_map_keeps fun _ w₃ hreplace => ?_
  obtain ⟨-, rfl⟩ := ends_runtime_replace hreplace
  exact loaded_in_step fun m hm => (hordered.mem_iff.mp (List.mem_of_mem_take hm)).1

/-- The seed ends with a refresh. -/
theorem seed_in_step (records : List MarketMappingRecord) (overwrite : Bool) (w : World) :
    Raising.wp (store_env.restrict Answered) (seed_from_records spelled records overwrite)
      (fun _ => InStep) w := by
  have hinserts := Raising.wp_foldlM_returns (E := store_env.restrict Answered)
    (J := fun _ => True) (f := seed_record spelled overwrite) (l := records) (w := w) ?_ 0 trivial
  · refine Raising.wp_bind.2 (wp_mono hinserts fun result w₁ h => ⟨fun _ _ => ?_, ?_⟩)
    · exact Raising.wp_map_keeps (refresh_in_step w₁)
    · exact fun hnone => absurd hnone h.1
  intro inserted record _ w _
  refine Raising.wp_bind.2 fun existing w₁ hget => ⟨fun found _ => ?_, fun hnone => ?_⟩
  · split_ifs
    · exact Raising.wp_pure.2 ⟨by simp, trivial⟩
    · refine Raising.wp_bind.2 fun result w₂ hinsert => ⟨fun _ _ => ?_, fun hnone => ?_⟩
      · exact Raising.wp_pure.2 ⟨by simp, trivial⟩
      · obtain ⟨m, hm⟩ := (ends_statement.1 hinsert).1 hnone
        cases hm
  · obtain ⟨m, hm⟩ := (ends_statement.1 hget).1 hnone
    cases hm

/-! ### Sequences of operations -/

/-- The condition: no row that the map holds as tradable is disabled, or given another conid
    than the map has. -/
def LeavesTraded (w : World) : StoreOp → Prop
  | .disable_auto_trade id _ => ∀ entry, w.runtime id = some entry → entry.tradable = false
  | .set_forecastex_conid id conid side => ∀ entry, w.runtime id = some entry →
      entry.tradable = true → (if side = "no" then entry.forecastex_no else entry.forecastex) = conid
  | _ => True

/-- An operation that leaves what is traded alone keeps the map in step. -/
theorem run_in_step {op : StoreOp} {w : World} (hop : LeavesTraded w op) (hw : InStep w) :
    Raising.wp (store_env.restrict Answered) (op.run digest spelled) (fun _ => InStep) w := by
  cases op with
  | seed_from_records records overwrite =>
      exact Raising.wp_map_keeps (seed_in_step records overwrite w)
  | upsert m =>
      exact Raising.wp_map_keeps (upsert_in_step hw)
  | update_status id status review_note allow_auto_trade =>
      exact Raising.wp_map_keeps (update_status_keeps hw fun m _ => upsert_in_step hw)
  | write_candidates candidates =>
      exact Raising.wp_map_keeps (write_candidates_keeps candidates
        (fun w c _ existing hw _ _ => upsert_in_step hw) hw)
  | sync_candidates candidates =>
      exact Raising.wp_map_keeps (sync_candidates_keeps (fun _ => True) candidates
        (fun w c _ existing hw _ _ => upsert_in_step hw) (fun _ _ _ _ => trivial)
        (fun w m hw _ _ _ => upsert_in_step hw) hw)
  | refresh_runtime_cache =>
      exact Raising.wp_map_keeps (refresh_in_step w)
  | expire_duplicate_active_pairs =>
      exact Raising.wp_map_keeps (wp_mono expire_ranked_answered fun _ _ h => h.2 hw)
  | delete id =>
      refine Raising.wp_map_keeps (Raising.wp_bind.2 fun result w₁ hdelete => ?_)
      obtain ⟨hok, ⟨rfl, -⟩ | ⟨rfl, rfl⟩⟩ := ends_statement.1 hdelete
      · -- only the insert of a mapping may fail to answer
        obtain ⟨m, hm⟩ := hok rfl
        cases hm
      refine ⟨fun deleted hdeleted => ?_, by simp⟩
      cases hdeleted
      split_ifs with hfound
      · refine Raising.wp_map_keeps fun _ w₂ hdrop => ?_
        obtain ⟨-, rfl⟩ := ends_runtime_drop hdrop
        exact hw.dropped fun c hc => by rw [Table.find_erase, if_neg (by simpa using hc)]
      · refine Raising.wp_pure.2 fun c entry hentry htradable => ?_
        obtain ⟨r, hr, hdict⟩ := hw c entry hentry htradable
        refine ⟨r, ?_, hdict⟩
        rw [Table.find_erase, if_neg, hr]
        rintro rfl
        simp [hr] at hfound
  | disable_auto_trade id reason =>
      refine Raising.wp_map_keeps fun _ w₁ hupdate => ?_
      obtain ⟨-, ⟨-, rfl⟩ | ⟨stamp, time, rfl, -⟩⟩ := ends_statement.1 hupdate
      · exact hw
      · -- an entry that says the mapping trades has been ruled out
        refine hw.update (MarketMapping.disable_id stamp _) fun r entry hr hentry htradable hp => ?_
        simp only [Bool.and_eq_true, decide_eq_true_eq] at hp
        rw [hop entry (by rw [← hp.1]; exact hentry)] at htradable
        cases htradable
  | mark_forecastex_unavailable id unavailable =>
      refine Raising.wp_map_keeps fun _ w₁ hupdate => ?_
      obtain ⟨-, ⟨-, rfl⟩ | ⟨stamp, rfl, -⟩⟩ := ends_statement.1 hupdate
      · exact hw
      · exact hw.update (MarketMapping.mark_id stamp unavailable) fun _ _ _ _ _ _ => rfl
  | set_forecastex_conid id conid side =>
      refine Raising.wp_map_keeps fun _ w₁ hupdate => ?_
      obtain ⟨-, ⟨-, rfl⟩ | ⟨stamp, rfl, -⟩⟩ := ends_statement.1 hupdate
      · exact hw
      · refine hw.update (MarketMapping.rebind_id stamp conid _)
          fun r entry hr hentry htradable hp => ?_
        -- the conid is the one of the entry, so the row still is what the entry says
        obtain ⟨r', hr', rfl⟩ := hw _ entry hentry htradable
        obtain rfl : r' = r := by rw [hr'] at hr; exact Option.some.inj hr
        obtain rfl : r'.canonical_id = id := by simpa using hp
        have hconid := hop r'.to_dict hentry htradable
        by_cases hside : side = "no" <;>
          simp_all [MarketMapping.rebind, MarketMapping.to_dict]

/-- The store and the map, operation after operation, from where they are in step, in which
    only inserts raise. -/
def mirror_runs (digest : String → String) (spelled : Json ℚ → String) :
    LTS.System World StoreOp where
  init := InStep
  step := fun w op w' =>
    ∃ result, Raising.Ends (store_env.restrict Answered) (op.run digest spelled) w result w'

/-- In every run in which no row that the map holds as tradable is disabled or given another
    conid, the map never trades more than the store. -/
theorem map_in_step {w : World}
    (hr : Reachable ((mirror_runs digest spelled).restrict LeavesTraded) w) :
    ∀ c entry, w.runtime c = some entry → entry.status = .confirmed →
      entry.allow_auto_trade = true →
      ∃ r, w.table.find c = some r ∧ r.status = .confirmed ∧ r.allow_auto_trade = true ∧
        r.kalshi_market_id = entry.kalshi ∧ r.polymarket_slug = entry.polymarket ∧
        r.forecastex_contract_id = entry.forecastex ∧
        r.forecastex_no_contract_id = entry.forecastex_no := by
  have hinv : Invariant ((mirror_runs digest spelled).restrict LeavesTraded) InStep := by
    refine Invariant.of_step (fun w hw => hw) ?_
    rintro w op w' h ⟨hop, result, hrun⟩
    exact run_in_step hop h result w' hrun
  intro c entry hentry hstatus hallow
  obtain ⟨r, hfind, rfl⟩ := hinv w hr c entry hentry (by simp [RuntimeEntry.tradable, hstatus, hallow])
  exact ⟨r, hfind, hstatus, hallow, rfl, rfl, rfl, rfl⟩

/-! ### Runs -/

/-- A world in which a row was upserted that is traded. -/
def traded_world : World :=
  after (StoreOp.run (fun _ => "") (fun _ => "") (.upsert traded_row)) ⟨.empty, fun _ => none⟩

theorem empty_in_step : InStep ⟨.empty, fun _ => none⟩ := by
  intro c entry h
  cases h

theorem map_in_step_upserted : (traded_world.runtime "FED").any (·.allow_auto_trade) = true ∧
    ∀ c entry, traded_world.runtime c = some entry →
    entry.status = .confirmed → entry.allow_auto_trade = true →
    ∃ r, traded_world.table.find c = some r ∧ r.status = .confirmed ∧
      r.allow_auto_trade = true ∧ r.kalshi_market_id = entry.kalshi ∧
      r.polymarket_slug = entry.polymarket ∧ r.forecastex_contract_id = entry.forecastex ∧
      r.forecastex_no_contract_id = entry.forecastex_no := by
  have hr : Reachable ((mirror_runs (fun _ => "") fun _ => "").restrict LeavesTraded)
      traded_world :=
    (Reachable.init empty_in_step).step (l := .upsert traded_row)
      ⟨trivial, _, ends_after_answered _ _⟩
  exact ⟨by decide +kernel, map_in_step hr⟩

/-- The store after the row was disabled. -/
def disabled_world : World :=
  after (StoreOp.run (fun _ => "") (fun _ => "") (.disable_auto_trade "FED" "loss streak"))
    traded_world

/-- The map still trades a row after it was disabled. -/
theorem map_outtrades_store : ∃ w, Reachable (mirror_runs (fun _ => "") fun _ => "") w ∧
    ∃ entry, w.runtime "FED" = some entry ∧ entry.status = .confirmed ∧
      entry.allow_auto_trade = true ∧
      ∀ r, w.table.find "FED" = some r → r.allow_auto_trade = false := by
  refine ⟨disabled_world, ?_, traded_row.to_dict, by decide +kernel, rfl, rfl, ?_⟩
  · have hfirst : Reachable (mirror_runs (fun _ => "") fun _ => "") traded_world :=
      (Reachable.init empty_in_step).step (l := .upsert traded_row) ⟨_, ends_after_answered _ _⟩
    exact hfirst.step (l := .disable_auto_trade "FED" "loss streak") ⟨_, ends_after_answered _ _⟩
  · have hfind : (disabled_world.table.find "FED").map (·.allow_auto_trade) = some false := by
      decide +kernel
    intro r hr
    simpa [hr] using hfind

end Mapping
