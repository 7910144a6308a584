import Arbiter.Mapping.Keeps
import Arbiter.Mapping.Promotion

/-! # What Passes Keep

  The rules by which an invariant of the world between upserts is kept by the passes that
  promote, insert, attach and expire: one premise for each row that is written, in the world
  where it is written. What a pass has read at its start is known of the rows it goes over.
-/

namespace Mapping

open Effect

variable {ok : World → (c : Call) → Answer c → Prop} {sp : Spelling} {J : World → Prop}
         {good : MarketMapping → Prop}

/-! ### Reads -/

/-- A query of rows leaves the world, and what it answers are rows. -/
theorem iter_confirmed_ends {w w' : World} {result : Option (List MarketMapping)}
    (h : Raising.Ends (store_env.restrict ok) iter_confirmed w result w') :
    w' = w ∧ ∀ rows, result = some rows → ∀ m ∈ rows, m ∈ w.table.rows ∧ m.status = .confirmed := by
  obtain ⟨-, rfl, rfl | ⟨rows, rfl, hordered⟩⟩ := ends_statement.1 h
  · exact ⟨rfl, nofun⟩
  · refine ⟨rfl, fun listed hlisted m hm => ?_⟩
    cases hlisted
    simpa using hordered.mem_iff.mp hm

theorem all_ends {status : MappingStatus} {limit : ℕ} {w w' : World}
    {result : Option (List MarketMapping)}
    (h : Raising.Ends (store_env.restrict ok) (all status limit) w result w') :
    w' = w ∧ ∀ rows, result = some rows → ∀ m ∈ rows, m ∈ w.table.rows ∧ m.status = status := by
  obtain ⟨-, rfl, rfl | ⟨rows, rfl, hordered⟩⟩ := ends_statement.1 h
  · exact ⟨rfl, nofun⟩
  · refine ⟨rfl, fun listed hlisted m hm => ?_⟩
    cases hlisted
    simpa using hordered.mem_iff.mp (List.mem_of_mem_take hm)

/-- Counting leaves the world. -/
theorem counted_keeps {α : Type} {count : MarketMapping → List α} {w : World} (hw : J w) :
    Raising.wp (store_env.restrict ok) (counted (do
      let rows ← iter_confirmed
      pure (rows.flatMap count))) (fun _ => J) w := by
  refine Raising.wp_map_keeps (Raising.wp_attempt.2 (Raising.wp_map_keeps ?_))
  intro result w' h
  rw [(iter_confirmed_ends h).1]
  exact hw

/-! ### Updates -/

theorem try_update_status_keeps {id : String} {status : MappingStatus} {note : String}
    {allow : Bool} {w : World} (hw : J w)
    (hupdate : ∀ r, w.table.find id = some r → Raising.wp (store_env.restrict ok)
      (upsert sp.spelled { r with status, review_note := note, allow_auto_trade := allow })
      (fun _ => J) w) :
    Raising.wp (store_env.restrict ok) (try_update_status sp.spelled id status note allow)
      (fun _ => J) w :=
  Raising.wp_map_keeps (Raising.wp_attempt.2 (update_status_keeps hw hupdate))

/-- A turn to an item, which meets the condition. -/
theorem turn_to_keeps {α : Type} {turn : Turn} {p : Op α} {w : World}
    (hp : ok w (.turn_to turn) () → Raising.wp (store_env.restrict ok) p (fun _ => J) w) :
    Raising.wp (store_env.restrict ok) (do turn_to turn; p) (fun _ => J) w := by
  refine Raising.wp_bind.2 fun result w' h => ?_
  obtain ⟨rfl, hok, rfl⟩ := ends_turn_to h
  exact ⟨fun _ _ => hp hok, nofun⟩

/-! ### Passes -/

/-- `structural_fast_promote`: the rows it promotes were read as unmarked candidates or in
    review. -/
theorem structural_fast_promote_keeps (hread : ∀ w, J w → ∀ r ∈ w.table.rows, good r)
    (hpromote : ∀ w m r note counts, J w → good m → m.marked = false →
      (m.status = .candidate ∨ m.status = .review) →
      shared_market_owner_conflict sp.quoted m.kalshi_market_id m.polymarket_slug counts = none →
      ok w (.turn_to (.fast_promote m counts)) () →
      w.table.find m.canonical_id = some r → Raising.wp (store_env.restrict ok)
        (upsert sp.spelled { r with
          status := .confirmed, review_note := note, allow_auto_trade := true }) (fun _ => J) w)
    (min_score : ℚ) (limit : ℕ) {w : World} (hw : J w) :
    Raising.wp (store_env.restrict ok)
      (structural_fast_promote sp.spelled sp.fixed sp.quoted min_score limit) (fun _ => J) w := by
  refine Raising.wp_bind_keeps (counted_keeps hw) fun owner_counts w hw => ?_
  refine Raising.wp_bind_keeps (counted_keeps hw) fun market_counts w hw => ?_
  refine Raising.wp_foldlM (fun promoted status hstatus w hw => ?_) 0 hw
  refine Raising.wp_bind.2 (Raising.wp_attempt.2 fun result w' hall => ?_)
  obtain ⟨rfl, hrows⟩ := all_ends hall
  refine ⟨fun answered hanswered => ?_, nofun⟩
  cases hanswered
  refine Raising.wp_foldlM (fun promoted m hm w hw => ?_) promoted hw
  -- the row is promoted as it was listed, whatever was written since
  have hread_m : good m ∧ m.status = status := by
    cases result with
    | none => cases hm
    | some rows => exact ⟨hread _ ‹J w'› m (hrows rows rfl m hm).1, (hrows rows rfl m hm).2⟩
  unfold fast_promote_row
  split_ifs with hguards
  · simp only [fast_promotes, Bool.and_eq_true, Bool.not_eq_true'] at hguards
    have hopen : m.status = .candidate ∨ m.status = .review := by
      rw [hread_m.2]
      simpa using hstatus
    refine turn_to_keeps fun hok => ?_
    refine Raising.wp_map_keeps (try_update_status_keeps hw fun r hr => ?_)
    exact hpromote w m r _ _ hw hread_m.1 hguards.1.1.1 hopen
      (Option.isNone_iff_eq_none.mp hguards.1.2) hok hr
  · exact Raising.wp_pure.2 hw

/-- A row that the validator promotes is unmarked, and its markets have no counted owner. -/
theorem promoted_guards {settings : ValidatorSettings} {counts : List (String × String)}
    {vr : ValidationResult} {m : MarketMapping}
    (h : validated_verdict sp.quoted settings counts vr m = .promote) :
    m.marked = false ∧ shared_market_owner_conflict sp.quoted m.kalshi_market_id
      m.polymarket_slug counts = none := by
  unfold validated_verdict at h
  split_ifs at h with hscore hresolution hmarked
  refine ⟨by simpa using hmarked, ?_⟩
  cases hconflict : shared_market_owner_conflict sp.quoted m.kalshi_market_id m.polymarket_slug
      counts with
  | none => rfl
  | some conflict => simp [hconflict] at h

/-- `auto_promote_validated`: the rows it promotes are read just before. -/
theorem auto_promote_validated_keeps
    (hpromote : ∀ w id r note counts, J w → r.marked = false →
      shared_market_owner_conflict sp.quoted r.kalshi_market_id r.polymarket_slug counts = none →
      ok w (.turn_to (.validated id counts)) () → w.table.find id = some r →
      Raising.wp (store_env.restrict ok) (upsert sp.spelled { r with
        status := .confirmed, review_note := note, allow_auto_trade := true }) (fun _ => J) w)
    (hquarantine : ∀ w r reason, J w → r ∈ w.table.rows → Raising.wp (store_env.restrict ok)
      (upsert sp.spelled { r with
        review_note := "[no-auto-promote] " ++ reason, allow_auto_trade := false })
      (fun _ => J) w)
    (hrefresh : ∀ w, J w →
      Raising.wp (store_env.restrict ok) refresh_runtime_cache (fun _ => J) w)
    (settings : ValidatorSettings) (results : List ValidationResult) {w : World} (hw : J w) :
    Raising.wp (store_env.restrict ok)
      (auto_promote_validated sp.spelled sp.fixed sp.quoted settings results) (fun _ => J) w := by
  refine Raising.wp_bind_keeps (counted_keeps hw) fun market_counts w hw => ?_
  refine Raising.wp_bind_keeps (Raising.wp_foldlM (fun promoted vr _ w hw => ?_) [] hw)
    fun promoted w hw => ?_
  · unfold promote_validated
    split_ifs
    · exact Raising.wp_pure.2 hw
    · exact Raising.wp_pure.2 hw
    -- the verdict is on the row as it is read here, and `update_status` reads the same
    refine Raising.wp_bind.2 fun found w' hget => ?_
    obtain ⟨rfl, hfound⟩ := get_ends hget
    refine ⟨fun row hrow => ?_, fun _ => hw⟩
    cases row with
    | none => exact Raising.wp_pure.2 hw
    | some m =>
        have hm : w'.table.find vr.canonical_id = some m := by
          obtain hnone | hsome := hfound
          · rw [hrow] at hnone
            cases hnone
          · rw [hrow] at hsome
            exact (Option.some.inj hsome).symm
        cases hverdict : validated_verdict sp.quoted settings market_counts vr m with
        | skip => simpa only [hverdict] using Raising.wp_pure.2 hw
        | quarantine reason =>
            simp only [hverdict]
            refine Raising.wp_map_keeps (try_update_status_keeps hw fun r hr => ?_)
            obtain rfl : r = m := Option.some.inj (hr.symm.trans hm)
            exact hquarantine w' r reason hw (Table.mem_of_find hr)
        | promote =>
            simp only [hverdict]
            refine turn_to_keeps fun hok => ?_
            refine Raising.wp_map_keeps (try_update_status_keeps hw fun r hr => ?_)
            obtain rfl : r = m := Option.some.inj (hr.symm.trans hm)
            obtain ⟨hmarked, hconflict⟩ := promoted_guards hverdict
            exact hpromote w' _ r _ _ hw hmarked hconflict hok hr
  · split_ifs
    · exact Raising.wp_pure.2 hw
    · exact Raising.wp_map_keeps (hrefresh w hw)

/-- `insert_verified_mappings`: it writes no row whose id is confirmed. -/
theorem insert_verified_mappings_keeps
    (now : String)
    (hmatched : ∀ w found counts, J w →
      shared_market_owner_conflict sp.quoted found.kalshi_ticker "" counts = none →
      ok w (.turn_to (.matched (match_mapping now found) counts)) () →
      (∀ r, w.table.find found.canonical_id = some r → r.status ≠ .confirmed) →
      Raising.wp (store_env.restrict ok) (upsert sp.spelled (match_mapping now found))
        (fun _ => J) w)
    (matches_found : List MatchResult) (dry_run : Bool) {w : World} (hw : J w) :
    Raising.wp (store_env.restrict ok)
      (insert_verified_mappings sp.spelled sp.quoted now matches_found dry_run) (fun _ => J) w := by
  refine Raising.wp_bind_keeps (counted_keeps hw) fun market_counts w hw => ?_
  refine Raising.wp_foldlM (fun inserted match_result _ w hw => ?_) 0 hw
  refine Raising.wp_bind.2 fun found w' hget => ?_
  obtain ⟨rfl, hfound⟩ := get_ends hget
  refine ⟨fun existing hexisting => ?_, fun _ => hw⟩
  obtain rfl : existing = w'.table.find match_result.canonical_id := by
    rw [hexisting] at hfound
    simpa using hfound
  split_ifs with hconfirmed hconflict
  · exact Raising.wp_pure.2 hw
  · exact Raising.wp_pure.2 hw
  · exact Raising.wp_pure.2 hw
  · exact Raising.wp_pure.2 hw
  · refine turn_to_keeps fun hok => ?_
    have hfree := Option.not_isSome_iff_eq_none.mp hconflict
    refine Raising.wp_map_keeps (Raising.wp_attempt.2 (hmatched w' _ _ hw hfree hok fun r hr => ?_))
    intro hstatus
    exact hconfirmed (by simp [hr, hstatus])

/-- `discover`: the rows it writes back were read as confirmed. -/
theorem discover_keeps (hread : ∀ w, J w → ∀ r ∈ w.table.rows, good r)
    (hattach : ∀ w m yes no, J w → good m → m.status = .confirmed →
      ok w (.turn_to (.attach { m with
        forecastex_contract_id := yes, forecastex_no_contract_id := no })) () →
      Raising.wp (store_env.restrict ok) (upsert sp.spelled { m with
        forecastex_contract_id := yes, forecastex_no_contract_id := no }) (fun _ => J) w)
    (hmark : ∀ w id unavailable, J w → Raising.wp (store_env.restrict ok)
      (mark_forecastex_unavailable id unavailable) (fun _ => J) w)
    (client : FxClient) (events : List FxEvent) (dry_run : Bool) {w : World} (hw : J w) :
    Raising.wp (store_env.restrict ok) (discover client sp.spelled events dry_run)
      (fun _ => J) w := by
  refine Raising.wp_bind.2 fun result w' hrows => ?_
  obtain ⟨rfl, hrows⟩ := iter_confirmed_ends hrows
  refine ⟨fun confirmed hconfirmed => ?_, fun _ => hw⟩
  have hgood : ∀ m ∈ confirmed, good m ∧ m.status = .confirmed := fun m hm =>
    ⟨hread w' hw m (hrows confirmed hconfirmed m hm).1, (hrows confirmed hconfirmed m hm).2⟩
  have hwrite (m : MarketMapping) (hm : m ∈ confirmed) (yes no : String) (w : World) (hw : J w) :
      Raising.wp (store_env.restrict ok) (write_back sp.spelled { m with
        forecastex_contract_id := yes, forecastex_no_contract_id := no }) (fun _ => J) w := by
    refine turn_to_keeps fun hok => ?_
    exact Raising.wp_map_keeps
      (Raising.wp_attempt.2 (hattach w m yes no hw (hgood m hm).1 (hgood m hm).2 hok))
  refine Raising.wp_bind_keeps (Raising.wp_foldlM (fun matched m hm w hw => ?_) 0 hw)
    fun matched w hw => ?_
  -- the first loop looks for both contracts, where there are any events
  · have hmem : m ∈ confirmed := by
      split_ifs at hm
      · cases hm
      · exact List.mem_of_mem_filter (List.mem_of_mem_filter hm)
    unfold attach_conids
    split
    · exact Raising.wp_pure.2 hw
    · split_ifs
      · exact Raising.wp_pure.2 hw
      · exact Raising.wp_map_keeps (Raising.wp_attempt.2 (hmark w _ true hw))
    · split_ifs
      · exact Raising.wp_pure.2 hw
      · exact Raising.wp_map_keeps (hwrite m hmem _ _ w hw)
  -- the second adds what is missing of the NO side
  · refine Raising.wp_map_keeps (Raising.wp_foldlM (fun _ m hm w hw => ?_) () hw)
    have hmem : m ∈ confirmed := List.mem_of_mem_filter (List.mem_of_mem_filter hm)
    unfold backfill_conid
    split
    · exact Raising.wp_pure.2 hw
    · split_ifs
      · exact Raising.wp_pure.2 hw
      · exact Raising.wp_map_keeps (hwrite m hmem m.forecastex_contract_id _ w hw)

section expiries

variable (hexpire : ∀ w id r note, J w → ok w (.turn_to (.expiry id)) () →
      w.table.find id = some r → Raising.wp (store_env.restrict ok) (upsert sp.spelled { r with
        status := .expired, review_note := note, allow_auto_trade := false }) (fun _ => J) w)

include hexpire

theorem expire_row_keeps (id note : String) {w : World} (hw : J w) :
    Raising.wp (store_env.restrict ok) (expire_row sp.spelled id note) (fun _ => J) w :=
  turn_to_keeps fun hok => try_update_status_keeps hw fun r hr => hexpire w id r note hw hok hr

theorem auto_expire_dead_keeps
    (hrefresh : ∀ w, J w →
      Raising.wp (store_env.restrict ok) refresh_runtime_cache (fun _ => J) w)
    (results : List ValidationResult) {w : World} (hw : J w) :
    Raising.wp (store_env.restrict ok) (auto_expire_dead sp.spelled results) (fun _ => J) w := by
  refine Raising.wp_bind_keeps (Raising.wp_foldlM (fun expired vr _ w hw => ?_) [] hw)
    fun expired w hw => ?_
  · unfold expire_dead
    split_ifs
    · exact Raising.wp_pure.2 hw
    · exact Raising.wp_map_keeps (expire_row_keeps hexpire _ _ hw)
  · split_ifs
    · exact Raising.wp_pure.2 hw
    · exact Raising.wp_map_keeps (hrefresh w hw)

theorem expire_settled_keeps (cutoff : String) (settled : String → Option String) {w : World}
    (hw : J w) : Raising.wp (store_env.restrict ok)
      (expire_settled_confirmed_mappings sp.spelled cutoff settled) (fun _ => J) w := by
  refine Raising.wp_bind_keeps ?_ fun confirmed w hw =>
    Raising.wp_foldlM (fun expired m _ w hw => ?_) [] hw
  · intro result w' h
    rw [(iter_confirmed_ends h).1]
    exact hw
  · unfold expire_settled
    split
    · exact Raising.wp_pure.2 hw
    · exact Raising.wp_map_keeps (expire_row_keeps hexpire _ _ hw)

end expiries

/-! ### Invariants of the table -/

section table

variable {T : Mappings → Prop} (hretire : ∀ t p stamp, T t → T (retire_where t p stamp))

include hretire

/-- Retiring rows keeps it, so an upsert does where the row it puts does. -/
theorem upsert_keeps {m : MarketMapping} {w : World} (hw : T w.table)
    (hput : ∀ stamp, T (w.table.put ((enforce_auto_trade_safety sp.spelled m).inserted stamp
      (w.table.find m.canonical_id)))) :
    Raising.wp (store_env.restrict ok) (upsert sp.spelled m) (fun _ w' => T w'.table) w := by
  intro result w' h
  obtain ⟨-, rfl⟩ | ⟨stamp, t, rfl, ⟨-, rfl, -⟩ | ⟨stamp', ids, -, htable, -⟩⟩ := upsert_ends h
  · exact hw
  · exact hput stamp
  · rw [htable, retire_duplicates]
    split_ifs
    · exact hretire _ _ _ (hput stamp)
    · exact hput stamp

theorem refresh_keeps {w : World} (hw : T w.table) :
    Raising.wp (store_env.restrict ok) refresh_runtime_cache (fun _ w' => T w'.table) w := by
  refine Raising.wp_bind_keeps (Raising.wp_bind_keeps ?_ fun ids w hw => ?_) fun _ w hw => ?_
  · intro result w' h
    obtain ⟨-, ⟨-, rfl⟩ | ⟨stamp, keep, -, rfl, -⟩⟩ := ends_statement.1 h
    · exact hw
    · exact hretire _ _ _ hw
  · exact Raising.wp_map_keeps (runtime_drop_keeps ids hw)
  · refine Raising.wp_bind_keeps (fun result w' h => ?_) fun rows w hw => ?_
    · obtain ⟨-, rfl, -⟩ := ends_statement.1 h
      exact hw
    · exact Raising.wp_map_keeps (runtime_replace_keeps _ hw)

end table

theorem mark_keeps {T : Mappings → Prop} {id : String} {unavailable : Bool} {w : World}
    (hw : T w.table)
    (hmark : ∀ stamp, T (update_where w.table (·.canonical_id = id) (·.mark stamp unavailable)
      (MarketMapping.mark_id stamp unavailable))) :
    Raising.wp (store_env.restrict ok) (mark_forecastex_unavailable id unavailable)
      (fun _ w' => T w'.table) w := by
  intro result w' h
  obtain ⟨-, ⟨-, rfl⟩ | ⟨stamp, rfl, -⟩⟩ := ends_statement.1 h
  · exact hw
  · exact hmark stamp

/-! ### Sequences of passes -/

/-- The passes, one after the other in any order; one may raise on the way. The items they
    turn to meet `cond`. -/
def auto_runs (sp : Spelling) (cond : World → Turn → Prop) (start : World → Prop) :
    LTS.System World AutoPass where
  init := start
  step := fun w pass w' => ∃ result,
    Raising.Ends (store_env.restrict (AtTurns cond)) (pass.run sp) w result w'

/-- An upsert's `INSERT` of `m` keeps `T`. -/
def Puts (sp : Spelling) (T : Mappings → Prop) (t : Mappings) (m : MarketMapping) : Prop :=
  ∀ stamp, T (t.put ((enforce_auto_trade_safety sp.spelled m).inserted stamp
    (t.find m.canonical_id)))

/-- What a table keeps under the passes whose items meet `cond`: a premise for each kind of
    row that is written. Rows that are read are `good`, candidates `admitted`. -/
structure Kept (sp : Spelling) (cond : World → Turn → Prop) (T : Mappings → Prop)
    (good : MarketMapping → Prop) (admitted : Candidate → Prop) : Prop where
  read : ∀ t, T t → ∀ r ∈ t.rows, good r
  retire : ∀ t p stamp, T t → T (retire_where t p stamp)
  mark : ∀ t id unavailable stamp, T t → T (update_where t (·.canonical_id = id)
    (·.mark stamp unavailable) (MarketMapping.mark_id stamp unavailable))
  candidate : ∀ w c existing, T w.table → admitted c → cond w (.candidate c) →
    Resolves sp.digest w.table c existing → Puts sp T w.table (merge_candidate c existing)
  stale : ∀ w m, T w.table → good m → m.status = .candidate → cond w (.stale m) →
    Puts sp T w.table { m with
      status := .expired
      allow_auto_trade := false
      review_note := "Expired by latest discovery sync." }
  fast_promote : ∀ w m r note counts, T w.table → good m → m.marked = false →
    (m.status = .candidate ∨ m.status = .review) → cond w (.fast_promote m counts) →
    w.table.find m.canonical_id = some r → Puts sp T w.table { r with
      status := .confirmed, review_note := note, allow_auto_trade := true }
  validated : ∀ w id r note counts, T w.table → r.marked = false →
    cond w (.validated id counts) → w.table.find id = some r → Puts sp T w.table { r with
      status := .confirmed, review_note := note, allow_auto_trade := true }
  quarantine : ∀ t r reason, T t → r ∈ t.rows → Puts sp T t { r with
    review_note := "[no-auto-promote] " ++ reason, allow_auto_trade := false }
  matched : ∀ w now found counts, T w.table →
    cond w (.matched (match_mapping now found) counts) →
    (∀ r, w.table.find found.canonical_id = some r → r.status ≠ .confirmed) →
    Puts sp T w.table (match_mapping now found)
  attach : ∀ w m yes no, T w.table → good m → m.status = .confirmed →
    cond w (.attach { m with
      forecastex_contract_id := yes, forecastex_no_contract_id := no }) →
    Puts sp T w.table { m with
      forecastex_contract_id := yes, forecastex_no_contract_id := no }
  expire : ∀ w id r note, T w.table → cond w (.expiry id) → w.table.find id = some r →
    Puts sp T w.table { r with
      status := .expired, review_note := note, allow_auto_trade := false }

/-- What every written row keeps, every pass keeps. -/
theorem Kept.pass {sp : Spelling} {cond : World → Turn → Prop} {T : Mappings → Prop}
    {good : MarketMapping → Prop} {admitted : Candidate → Prop}
    (h : Kept sp cond T good admitted) (pass : AutoPass)
    (hpass : ∀ c ∈ pass.candidates, admitted c) {w : World} (hw : T w.table) :
    Raising.wp (store_env.restrict (AtTurns cond)) (pass.run sp) (fun _ w' => T w'.table) w := by
  have hupsert (w : World) (m : MarketMapping) (hw : T w.table) (hput : Puts sp T w.table m) :
      Raising.wp (store_env.restrict (AtTurns cond)) (upsert sp.spelled m)
        (fun _ w' => T w'.table) w := upsert_keeps h.retire hw hput
  have hread : ∀ w : World, T w.table → ∀ r ∈ w.table.rows, good r := fun w => h.read w.table
  have hrefresh (w : World) (hw : T w.table) :
      Raising.wp (store_env.restrict (AtTurns cond)) refresh_runtime_cache
        (fun _ w' => T w'.table) w := refresh_keeps h.retire hw
  have hcandidate (w : World) (c : Candidate) (hc : c ∈ pass.candidates)
      (existing : MarketMapping) (hw : T w.table) (hcond : cond w (.candidate c))
      (hexisting : Resolves sp.digest w.table c existing) :=
    hupsert w (merge_candidate c existing) hw
      (h.candidate w c existing hw (hpass c hc) hcond hexisting)
  cases pass with
  | write_candidates candidates =>
      -- discovery writes the rows it merged into what the candidate resolves to
      refine Raising.wp_map_keeps (write_candidates_keeps candidates ?_ hw)
      exact hcandidate
  | sync_candidates candidates =>
      -- and expires the candidates it did not find again
      refine Raising.wp_map_keeps (sync_candidates_keeps good candidates ?_
        hread ?_ hw)
      · exact hcandidate
      · exact fun w m hw hm hstatus hcond => hupsert w _ hw (h.stale w m hw hm hstatus hcond)
  | structural_fast_promote min_score limit =>
      refine Raising.wp_map_keeps (structural_fast_promote_keeps hread ?_ min_score limit hw)
      exact fun w m r note counts hw hm hmarked hstatus _ hcond hr =>
        hupsert w _ hw (h.fast_promote w m r note counts hw hm hmarked hstatus hcond hr)
  | auto_promote_validated settings results =>
      refine Raising.wp_map_keeps (auto_promote_validated_keeps ?_ ?_ hrefresh settings results hw)
      · exact fun w id r note counts hw hmarked _ hcond hr =>
          hupsert w _ hw (h.validated w id r note counts hw hmarked hcond hr)
      · exact fun w r reason hw hr => hupsert w _ hw (h.quarantine w.table r reason hw hr)
  | insert_verified_mappings now matches_found dry_run =>
      refine Raising.wp_map_keeps
        (insert_verified_mappings_keeps now ?_ matches_found dry_run hw)
      exact fun w found counts hw _ hcond hopen =>
        hupsert w _ hw (h.matched w now found counts hw hcond hopen)
  | discover client events dry_run =>
      refine Raising.wp_map_keeps (discover_keeps hread ?_ ?_ client events dry_run hw)
      · exact fun w m yes no hw hm hstatus hcond =>
          hupsert w _ hw (h.attach w m yes no hw hm hstatus hcond)
      · exact fun w id unavailable hw =>
          mark_keeps hw fun stamp => h.mark w.table id unavailable stamp hw
  | auto_expire_dead results =>
      refine Raising.wp_map_keeps (auto_expire_dead_keeps ?_ hrefresh results hw)
      exact fun w id r note hw hcond hr => hupsert w _ hw (h.expire w id r note hw hcond hr)
  | expire_settled_confirmed_mappings cutoff settled =>
      refine Raising.wp_map_keeps (expire_settled_keeps ?_ cutoff settled hw)
      exact fun w id r note hw hcond hr => hupsert w _ hw (h.expire w id r note hw hcond hr)

/-- What every written row keeps, every sequence of passes keeps. -/
theorem Kept.runs {sp : Spelling} {cond : World → Turn → Prop} {T : Mappings → Prop}
    {good : MarketMapping → Prop} (h : Kept sp cond T good fun _ => True) {start : World → Prop}
    (hstart : ∀ w, start w → T w.table) :
    LTS.Invariant (auto_runs sp cond start) fun w => T w.table := by
  refine LTS.Invariant.of_step hstart fun w pass w' hw hstep => ?_
  obtain ⟨result, hends⟩ := hstep
  exact h.pass pass (fun _ _ => trivial) hw result w' hends

end Mapping
