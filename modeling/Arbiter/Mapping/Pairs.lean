import Arbiter.Mapping.Replay

/-! # One Confirmed Row per Pair

  A pair of contracts is bound by at most one confirmed row. An upsert of a confirmed row
  retires the active rows of its pair; a seed writes rows without that, and the ranking that
  ends it leaves one active row of each pair.

  The ids that rows bind are free of surrounding whitespace: the upsert looks for its
  duplicates by the stripped ids.
-/

namespace Mapping

open Effect LTS

variable {digest : String → String} {spelled : Json ℚ → String}

/-! ### Rows -/

/-- The ids of a row are free of surrounding whitespace. -/
def MarketMapping.Trimmed (m : MarketMapping) : Prop :=
  Text.strip m.kalshi_market_id = m.kalshi_market_id ∧
    Text.strip m.polymarket_slug = m.polymarket_slug

theorem MarketMapping.Trimmed.of_pair {m m' : MarketMapping} (hm : m.Trimmed)
    (hpair : m'.pair = m.pair) : m'.Trimmed := by
  obtain ⟨hkalshi, hpoly⟩ := Prod.mk.inj hpair
  unfold MarketMapping.Trimmed
  rw [hkalshi, hpoly]
  exact hm

/-- Rows of a table with the same key are one. -/
theorem row_eq_of_id {t : Mappings} {r s : MarketMapping} (hr : r ∈ t.rows) (hs : s ∈ t.rows)
    (h : r.canonical_id = s.canonical_id) : r = s :=
  List.inj_on_of_nodup_map t.nodup hr hs h

/-- A row that is active after a retirement was there before, and was not to be retired. -/
theorem mem_retire_where_active {t : Mappings} {p : MarketMapping → Bool} {stamp : ℤ}
    {s : MarketMapping} (hs : s ∈ (retire_where t p stamp).rows) (hactive : s.status.active = true) :
    s ∈ t.rows ∧ p s = false := by
  rw [retire_where, update_where, Table.mem_modify] at hs
  obtain ⟨r, hr, rfl⟩ := hs
  by_cases hp : p r = true
  · rw [if_pos hp] at hactive
    exact absurd hactive (by simp [MarketMapping.retire, MappingStatus.active])
  · rw [if_neg hp]
    exact ⟨hr, by simpa using hp⟩

theorem mem_retire_where_of_not {t : Mappings} {p : MarketMapping → Bool} {stamp : ℤ}
    {s : MarketMapping} (hs : s ∈ t.rows) (hp : p s = false) :
    s ∈ (retire_where t p stamp).rows := by
  rw [retire_where, update_where, Table.mem_modify]
  exact ⟨s, hs, by simp [hp]⟩

theorem confirmed_active {m : MarketMapping} (h : m.status = .confirmed) :
    m.status.active = true := by
  simp [h, MappingStatus.active]

theorem MarketMapping.paired_iff (m : MarketMapping) :
    m.paired = true ↔ m.kalshi_market_id ≠ "" ∧ m.polymarket_slug ≠ "" := by
  simp [MarketMapping.paired]

theorem MarketMapping.paired_of_pair_eq {m m' : MarketMapping} (h : m.paired = true)
    (hsame : m.pair = m'.pair) : m'.paired = true := by
  rw [paired_iff] at h ⊢
  obtain ⟨hkalshi, hpoly⟩ := Prod.mk.inj hsame
  rwa [hkalshi, hpoly] at h

/-! ### Tables -/

/-- No two confirmed rows bind the same pair. -/
def OnePerPair (t : Mappings) : Prop :=
  ∀ r ∈ t.rows, ∀ s ∈ t.rows, r.status = .confirmed → s.status = .confirmed →
    r.paired = true → r.pair = s.pair → r = s

/-- The rows between two operations. -/
structure PairsKept (t : Mappings) : Prop where
  trimmed : ∀ r ∈ t.rows, r.Trimmed
  one : OnePerPair t

theorem trimmed_put {t : Mappings} {m : MarketMapping} (ht : ∀ r ∈ t.rows, r.Trimmed)
    (hm : m.Trimmed) : ∀ r ∈ (t.put m).rows, r.Trimmed := by
  intro r hr
  obtain rfl | ⟨hr, -⟩ := Table.mem_put.mp hr
  · exact hm
  · exact ht r hr

theorem trimmed_update {t : Mappings} {p : MarketMapping → Bool}
    {f : MarketMapping → MarketMapping} (hf : ∀ r, (f r).canonical_id = r.canonical_id)
    (hpair : ∀ r, (f r).pair = r.pair) (ht : ∀ r ∈ t.rows, r.Trimmed) :
    ∀ r ∈ (update_where t p f hf).rows, r.Trimmed :=
  forall_update_where ht fun r hr => hr.of_pair (hpair r)

/-- An update of other columns keeps the pairs. -/
theorem PairsKept.update {t : Mappings} {p : MarketMapping → Bool}
    {f : MarketMapping → MarketMapping} (hf : ∀ r, (f r).canonical_id = r.canonical_id)
    (hpair : ∀ r, (f r).pair = r.pair) (hstatus : ∀ r, (f r).status = r.status)
    (h : PairsKept t) : PairsKept (update_where t p f hf) := by
  refine ⟨trimmed_update hf hpair h.trimmed, ?_⟩
  have hold (s : MarketMapping) (hs : s ∈ (update_where t p f hf).rows) :
      ∃ r ∈ t.rows, s = (if p r then f r else r) ∧ s.pair = r.pair ∧ s.status = r.status := by
    rw [update_where, Table.mem_modify] at hs
    obtain ⟨r, hr, rfl⟩ := hs
    refine ⟨r, hr, rfl, ?_⟩
    split_ifs
    · exact ⟨hpair r, hstatus r⟩
    · exact ⟨rfl, rfl⟩
  intro r hr s hs hrc hsc hpaired hsame
  obtain ⟨r₀, hr₀, hr_eq, hrpair, hrstatus⟩ := hold r hr
  obtain ⟨s₀, hs₀, hs_eq, hspair, hsstatus⟩ := hold s hs
  have hpaired₀ : r₀.paired = true := MarketMapping.paired_of_pair_eq hpaired hrpair
  have hrows : r₀ = s₀ := h.one r₀ hr₀ s₀ hs₀ (hrstatus ▸ hrc) (hsstatus ▸ hsc) hpaired₀
    (by rw [← hrpair, ← hspair, hsame])
  rw [hr_eq, hs_eq, hrows]

/-- Retiring rows keeps the pairs. -/
theorem PairsKept.retire {t : Mappings} (h : PairsKept t) (p : MarketMapping → Bool) (stamp : ℤ) :
    PairsKept (retire_where t p stamp) := by
  refine ⟨trimmed_update (MarketMapping.retire_id stamp) (fun _ => rfl) h.trimmed, ?_⟩
  intro r hr s hs hrc hsc
  exact h.one r (mem_retire_where_active hr (confirmed_active hrc)).1
    s (mem_retire_where_active hs (confirmed_active hsc)).1 hrc hsc

theorem PairsKept.erase {t : Mappings} (h : PairsKept t) (id : String) :
    PairsKept (t.erase id) := by
  refine ⟨fun r hr => h.trimmed r (List.mem_of_mem_filter hr), ?_⟩
  intro r hr s hs
  exact h.one r (List.mem_of_mem_filter hr) s (List.mem_of_mem_filter hs)

/-- The ranking leaves one row of each pair. -/
theorem PairsKept.ranked {t : Mappings} (ht : ∀ r ∈ t.rows, r.Trimmed)
    (keep : String × String → String) (stamp : ℤ) :
    PairsKept (retire_where t (ranked_out keep) stamp) := by
  refine ⟨trimmed_update (MarketMapping.retire_id stamp) (fun _ => rfl) ht, ?_⟩
  intro r hr s hs hrc hsc hpaired hsame
  obtain ⟨hr, hrkept⟩ := mem_retire_where_active hr (confirmed_active hrc)
  obtain ⟨hs, hskept⟩ := mem_retire_where_active hs (confirmed_active hsc)
  have hspaired : s.paired = true := MarketMapping.paired_of_pair_eq hpaired hsame
  have hrid : r.canonical_id = keep r.pair := by
    simpa [ranked_out, confirmed_active hrc, hpaired] using hrkept
  have hsid : s.canonical_id = keep s.pair := by
    simpa [ranked_out, confirmed_active hsc, hspaired] using hskept
  exact row_eq_of_id hr hs (by rw [hrid, hsid, hsame])

/-- An upsert writes a row and retires the other active rows of its pair if the row is
    confirmed. -/
theorem PairsKept.upserted {t : Mappings} (h : PairsKept t) {m : MarketMapping}
    (hm : m.Trimmed) (stamp stamp' : ℤ) (old : Option MarketMapping) :
    PairsKept (retire_duplicates stamp' m (t.put (m.inserted stamp old))) := by
  have htrimmed : ∀ r ∈ (t.put (m.inserted stamp old)).rows, r.Trimmed :=
    trimmed_put h.trimmed hm
  simp only [retire_duplicates]
  split_ifs with hconfirmed
  · refine ⟨trimmed_update (MarketMapping.retire_id stamp') (fun _ => rfl) htrimmed, ?_⟩
    -- a row that stays is the one written, or binds another pair
    have hcase (s : MarketMapping) (hs : s ∈ (retire_where (t.put (m.inserted stamp old))
        (duplicates m.canonical_id (Text.strip m.kalshi_market_id)
          (Text.strip m.polymarket_slug)) stamp').rows) (hsc : s.status = .confirmed) :
        s = m.inserted stamp old ∨ (s ∈ t.rows ∧ s.pair ≠ m.pair) := by
      obtain ⟨hs, hkept⟩ := mem_retire_where_active hs (confirmed_active hsc)
      obtain rfl | ⟨hs, hne⟩ := Table.mem_put.mp hs
      · exact .inl rfl
      · refine .inr ⟨hs, fun hpair => ?_⟩
        obtain ⟨hkalshi, hpoly⟩ := Prod.mk.inj hpair
        have hid : s.canonical_id ≠ m.canonical_id := hne
        rw [hm.1, hm.2] at hkept
        simp [duplicates, hid, hkalshi, hpoly, confirmed_active hsc] at hkept
    intro r hr s hs hrc hsc hpaired hsame
    obtain rfl | ⟨hr, hrpair⟩ := hcase r hr hrc
    · obtain rfl | ⟨-, hspair⟩ := hcase s hs hsc
      · rfl
      · exact absurd hsame.symm hspair
    · obtain rfl | ⟨hs, -⟩ := hcase s hs hsc
      · exact absurd hsame hrpair
      · exact h.one r hr s hs hrc hsc hpaired hsame
  · refine ⟨htrimmed, ?_⟩
    -- the row written is not confirmed, or lacks a contract
    have hcase (s : MarketMapping) (hs : s ∈ (t.put (m.inserted stamp old)).rows)
        (hsc : s.status = .confirmed) (hpaired : s.paired = true) : s ∈ t.rows := by
      obtain rfl | ⟨hs, -⟩ := Table.mem_put.mp hs
      · rw [MarketMapping.paired_iff] at hpaired
        exact absurd ⟨hsc, by rw [hm.1]; exact hpaired.1, by rw [hm.2]; exact hpaired.2⟩ hconfirmed
      · exact hs
    intro r hr s hs hrc hsc hpaired hsame
    have hspaired : s.paired = true := MarketMapping.paired_of_pair_eq hpaired hsame
    exact h.one r (hcase r hr hrc hpaired) s (hcase s hs hsc hspaired) hrc hsc hpaired hsame

/-! ### Operations -/

theorem enforce_pair (spelled : Json ℚ → String) (m : MarketMapping) :
    (enforce_auto_trade_safety spelled m).canonical_id = m.canonical_id ∧
      (enforce_auto_trade_safety spelled m).pair = m.pair ∧
      (enforce_auto_trade_safety spelled m).status = m.status := by
  obtain h | h := enforce_eq spelled m <;> rw [h] <;> exact ⟨rfl, rfl, rfl⟩

theorem enforce_trimmed {m : MarketMapping} (hm : m.Trimmed) :
    (enforce_auto_trade_safety spelled m).Trimmed := by
  obtain h | h := enforce_eq spelled m <;> rw [h] <;> exact hm

theorem upsert_keeps_pairs {m : MarketMapping} (hm : m.Trimmed) {w : World}
    (hw : PairsKept w.table) :
    Raising.wp (store_env.restrict Answered) (upsert spelled m)
      (fun _ w' => PairsKept w'.table) w := by
  intro result w' h
  obtain ⟨-, rfl⟩ | ⟨stamp, stamp', ids, -, htable, -⟩ := upsert_answered_ends h
  · exact hw
  · rw [htable]
    exact hw.upserted (enforce_trimmed hm) stamp stamp' _

theorem merge_trimmed (c : Candidate) (existing : MarketMapping) :
    (merge_candidate c existing).Trimmed :=
  ⟨Text.strip_strip _, Text.strip_strip _⟩

theorem refresh_keeps_pairs {w : World} (hw : ∀ r ∈ w.table.rows, r.Trimmed) :
    Raising.wp (store_env.restrict Answered) refresh_runtime_cache
      (fun _ w' => PairsKept w'.table) w := by
  refine Raising.wp_bind.2 fun expired w₁ hexpire => ?_
  have hkept : PairsKept w₁.table ∧ expired ≠ none := by
    obtain ⟨ids, w₂, hranked, hdrop⟩ | ⟨-, hranked⟩ := Raising.ends_bind.1 hexpire
    · obtain ⟨-, ⟨hnone, -⟩ | ⟨stamp, keep, -, rfl, -⟩⟩ := ends_statement.1 hranked
      · cases hnone
      obtain ⟨_, w₃, hdrop, hlast⟩ | ⟨-, hdrop⟩ := Raising.ends_bind.1 hdrop
      · obtain ⟨-, rfl⟩ := ends_runtime_drop hdrop
        obtain ⟨rfl, rfl⟩ := Raising.ends_pure.1 hlast
        exact ⟨.ranked hw keep stamp, by simp⟩
      · exact absurd (ends_runtime_drop hdrop).1 (by simp)
    · obtain ⟨hok, -⟩ := ends_statement.1 hranked
      obtain ⟨m, hm⟩ := hok rfl
      cases hm
  refine ⟨fun _ _ => ?_, fun _ => hkept.1⟩
  refine Raising.wp_bind.2 fun merged w₂ hselect => ?_
  obtain ⟨-, rfl, -⟩ := ends_statement.1 hselect
  refine ⟨fun rows _ => ?_, fun _ => hkept.1⟩
  exact Raising.wp_map_keeps (runtime_replace_keeps _ hkept.1)

/-- The ids of a record are free of surrounding whitespace. -/
def MarketMappingRecord.Trimmed (record : MarketMappingRecord) : Prop :=
  Text.strip record.kalshi = record.kalshi ∧ Text.strip record.polymarket = record.polymarket

theorem seed_keeps_pairs {records : List MarketMappingRecord} (overwrite : Bool)
    (hrecords : ∀ record ∈ records, record.Trimmed) {w : World} (hw : PairsKept w.table) :
    Raising.wp (store_env.restrict Answered) (seed_from_records spelled records overwrite)
      (fun _ w' => PairsKept w'.table) w := by
  have hinserts := Raising.wp_foldlM_returns (E := store_env.restrict Answered)
    (J := fun w => ∀ r ∈ w.table.rows, r.Trimmed) (f := seed_record spelled overwrite)
    (l := records) ?_ 0 hw.trimmed
  · refine Raising.wp_bind.2 (wp_mono hinserts fun result w₁ h => ⟨fun _ _ => ?_, ?_⟩)
    · exact Raising.wp_map_keeps (refresh_keeps_pairs h.2)
    · exact fun hnone => absurd hnone h.1
  intro inserted record hrecord w hw
  refine Raising.wp_bind.2 fun existing w₁ hget => ?_
  have hfound : existing ≠ none := by
    rintro rfl
    obtain ⟨m, hm⟩ := (ends_statement.1 hget).1 rfl
    cases hm
  obtain ⟨rfl, -⟩ := get_ends hget
  refine ⟨fun found _ => ?_, fun hnone => absurd hnone hfound⟩
  split_ifs
  · exact Raising.wp_pure.2 ⟨by simp, hw⟩
  · refine Raising.wp_bind.2 fun result w₂ hinsert => ?_
    obtain ⟨hok, ⟨rfl, -⟩ | ⟨rfl, stamp, rfl⟩⟩ := ends_statement.1 hinsert
    · obtain ⟨m, hm⟩ := hok rfl
      cases hm
    · refine ⟨fun _ _ => Raising.wp_pure.2 ⟨by simp, ?_⟩, by simp⟩
      have hm : (MarketMapping.from_record record).Trimmed := hrecords record hrecord
      exact trimmed_put hw (m := (enforce_auto_trade_safety spelled (.from_record record)).seeded
        stamp _) (enforce_trimmed hm)

/-- The ids an operation is given are free of surrounding whitespace; those of candidates are
    stripped anyway. -/
def StoreOp.Trimmed : StoreOp → Prop
  | .seed_from_records records _ => ∀ record ∈ records, record.Trimmed
  | .upsert m => m.Trimmed
  | _ => True

theorem run_keeps_pairs {op : StoreOp} (hop : op.Trimmed) {w : World} (hw : PairsKept w.table) :
    Raising.wp (store_env.restrict Answered) (op.run digest spelled)
      (fun _ w' => PairsKept w'.table) w := by
  cases op with
  | seed_from_records records overwrite =>
      exact Raising.wp_map_keeps (seed_keeps_pairs overwrite hop hw)
  | upsert m =>
      exact Raising.wp_map_keeps (upsert_keeps_pairs hop hw)
  | update_status id status review_note allow_auto_trade =>
      refine Raising.wp_map_keeps (update_status_keeps hw fun m hm => ?_)
      -- the row is written back with the markets it was read with
      refine upsert_keeps_pairs ?_ hw
      exact (hw.trimmed m (Table.mem_of_find hm)).of_pair rfl
  | write_candidates candidates =>
      refine Raising.wp_map_keeps (write_candidates_keeps candidates ?_ hw)
      exact fun w c _ existing hw _ _ => upsert_keeps_pairs (merge_trimmed c existing) hw
  | sync_candidates candidates =>
      refine Raising.wp_map_keeps (sync_candidates_keeps MarketMapping.Trimmed
        candidates ?_ (fun w hw => hw.trimmed) ?_ hw)
      · exact fun w c _ existing hw _ _ => upsert_keeps_pairs (merge_trimmed c existing) hw
      · intro w m hw hm _ _
        refine upsert_keeps_pairs ?_ hw
        exact hm.of_pair rfl
  | refresh_runtime_cache =>
      exact Raising.wp_map_keeps (refresh_keeps_pairs hw.trimmed)
  | expire_duplicate_active_pairs =>
      refine Raising.wp_map_keeps
        (Raising.wp_bind_keeps (J := fun w : World => PairsKept w.table) ?_ ?_)
      -- the statement retires rows, and the map drops them
      · intro result w₁ hranked
        obtain ⟨-, ⟨-, rfl⟩ | ⟨stamp, keep, -, rfl, -⟩⟩ := ends_statement.1 hranked
        · exact hw
        · exact .ranked hw.trimmed keep stamp
      · intro expired w₁ hJ
        exact Raising.wp_map_keeps (runtime_drop_keeps expired hJ)
  | delete id =>
      refine Raising.wp_map_keeps
        (Raising.wp_bind_keeps (J := fun w : World => PairsKept w.table) ?_ ?_)
      · intro result w₁ hdelete
        obtain ⟨-, ⟨-, rfl⟩ | ⟨rfl, -⟩⟩ := ends_statement.1 hdelete
        · exact hw
        · exact hw.erase id
      · intro deleted w₁ hJ
        split_ifs
        · exact Raising.wp_map_keeps (runtime_drop_keeps [id] hJ)
        · exact Raising.wp_pure.2 hJ
  -- the last three write columns that are no part of a pair
  | disable_auto_trade id reason =>
      refine Raising.wp_map_keeps fun _ w₁ hupdate => ?_
      obtain ⟨-, ⟨-, rfl⟩ | ⟨stamp, time, rfl, -⟩⟩ := ends_statement.1 hupdate
      · exact hw
      · exact hw.update (MarketMapping.disable_id stamp _) (fun _ => rfl) fun _ => rfl
  | mark_forecastex_unavailable id unavailable =>
      refine Raising.wp_map_keeps fun _ w₁ hupdate => ?_
      obtain ⟨-, ⟨-, rfl⟩ | ⟨stamp, rfl, -⟩⟩ := ends_statement.1 hupdate
      · exact hw
      · exact hw.update (MarketMapping.mark_id stamp unavailable) (fun _ => rfl) fun _ => rfl
  | set_forecastex_conid id conid side =>
      refine Raising.wp_map_keeps fun _ w₁ hupdate => ?_
      obtain ⟨-, ⟨-, rfl⟩ | ⟨stamp, rfl, -⟩⟩ := ends_statement.1 hupdate
      · exact hw
      · refine hw.update (MarketMapping.rebind_id stamp conid _) (fun r => ?_) fun r => ?_ <;>
          by_cases hside : side = "no" <;> simp [MarketMapping.rebind, MarketMapping.pair, hside]

/-! ### Sequences of operations -/

/-- The store, operation after operation, of what is given trimmed ids and in which only
    inserts raise. -/
def pair_runs (digest : String → String) (spelled : Json ℚ → String) :
    LTS.System World StoreOp where
  init := fun w => w.table = Table.empty
  step := fun w op w' => op.Trimmed ∧
    ∃ result, Raising.Ends (store_env.restrict Answered) (op.run digest spelled) w result w'

theorem pairs_kept : Invariant (pair_runs digest spelled) (fun w => PairsKept w.table) := by
  refine Invariant.of_step ?_ ?_
  · intro w hempty
    rw [hempty]
    exact ⟨by simp [Table.empty], by simp [OnePerPair, Table.empty]⟩
  · rintro w op w' h ⟨hop, result, hrun⟩
    exact run_keeps_pairs hop h result w' hrun

/-- Of the active rows of a confirmed row's pair the row alone remains. -/
def Survives (t : Mappings) (id : String) : Prop :=
  ∃ r, t.find id = some r ∧ r.status = .confirmed ∧
    (r.paired = true → ∀ s ∈ t.rows, s.status.active = true → s.pair = r.pair → s = r)

theorem upsert_survives {m m' : MarketMapping} (hm : m.Trimmed) (hstatus : m.status = .confirmed)
    {w w' : World}
    (h : Raising.Ends (store_env.restrict Answered) (upsert spelled m) w (some m') w') :
    Survives w'.table m.canonical_id ∧
      ∀ r, w'.table.find m.canonical_id = some r → r.pair = m.pair := by
  obtain ⟨hnone, -⟩ | ⟨stamp, stamp', ids, -, htable, -⟩ := upsert_answered_ends h
  · cases hnone
  obtain ⟨hid, hpair, hsame⟩ := enforce_pair spelled m
  have hem : (enforce_auto_trade_safety spelled m).Trimmed := enforce_trimmed hm
  generalize enforce_auto_trade_safety spelled m = e at *
  generalize hold : w.table.find m.canonical_id = old at htable
  obtain ⟨hkalshi, hpoly⟩ := Prod.mk.inj hpair
  have hrow : w'.table.find m.canonical_id = some (e.inserted stamp old) := by
    rw [htable, ← hid]
    exact find_upserted _ e stamp stamp' old
  refine ⟨⟨_, hrow, hsame.trans hstatus, fun hpaired s hs hactive hspair => ?_⟩, ?_⟩
  · rw [MarketMapping.paired_iff] at hpaired
    have hpaired : e.kalshi_market_id ≠ "" ∧ e.polymarket_slug ≠ "" := hpaired
    have hconfirmed : e.status = .confirmed ∧ Text.strip e.kalshi_market_id ≠ "" ∧
        Text.strip e.polymarket_slug ≠ "" := by
      rw [hem.1, hem.2]
      exact ⟨hsame.trans hstatus, hpaired⟩
    -- any other row of the pair was a duplicate, and is not active any more
    rw [htable] at hs
    simp only [retire_duplicates, if_pos hconfirmed] at hs
    obtain ⟨hs, hkept⟩ := mem_retire_where_active hs hactive
    obtain rfl | ⟨hs, hne⟩ := Table.mem_put.mp hs
    · rfl
    · obtain ⟨hskalshi, hspoly⟩ := Prod.mk.inj hspair
      have hne : s.canonical_id ≠ e.canonical_id := hne
      rw [hem.1, hem.2] at hkept
      simp [duplicates, hne, hskalshi, hspoly, hactive, MarketMapping.inserted] at hkept
  · intro r hr
    rw [hrow] at hr
    cases hr
    exact hpair

/-- Exactly one row of a pair is active. -/
def OneActive (t : Mappings) (pair : String × String) : Prop :=
  ∃! r, r ∈ t.rows ∧ r.status.active = true ∧ r.pair = pair

theorem expire_leaves_one {w w' : World} {n : ℕ}
    (h : Raising.Ends (store_env.restrict Answered) expire_duplicate_active_pairs w (some n) w')
    {pair : String × String} (hkalshi : pair.1 ≠ "") (hpoly : pair.2 ≠ "")
    {r : MarketMapping} (hr : r ∈ w.table.rows) (hactive : r.status.active = true)
    (hpair : r.pair = pair) :
    OneActive w'.table pair ∧ (r.status = .confirmed →
      ∀ s ∈ w'.table.rows, s.status.active = true → s.pair = pair → s.status = .confirmed) := by
  obtain ⟨ids, w₁, hranked, hdrop⟩ | ⟨hnone, -⟩ := Raising.ends_bind.1 h
  swap
  · cases hnone
  obtain ⟨-, ⟨hnone, -⟩ | ⟨stamp, keep, hfirst, rfl, -⟩⟩ := ends_statement.1 hranked
  · cases hnone
  obtain ⟨_, w₂, hdrop, hlast⟩ | ⟨hnone, -⟩ := Raising.ends_bind.1 hdrop
  swap
  · cases hnone
  obtain ⟨-, rfl⟩ := ends_runtime_drop hdrop
  obtain ⟨-, rfl⟩ := Raising.ends_pure.1 hlast
  subst hpair
  have hpaired : r.paired = true := r.paired_iff.mpr ⟨hkalshi, hpoly⟩
  obtain ⟨s, hs, hsactive, hspair, hsid, hbest⟩ := hfirst r hr hactive hpaired
  -- an active row of the pair that stays is the one that ranks first
  have honly (q : MarketMapping) (hq : q ∈ (retire_where w.table (ranked_out keep) stamp).rows)
      (hqactive : q.status.active = true) (hqpair : q.pair = r.pair) : q = s := by
    obtain ⟨hq, hkept⟩ := mem_retire_where_active hq hqactive
    have hqpaired : q.paired = true := by
      obtain ⟨hk, hp⟩ := Prod.mk.inj hqpair
      rw [MarketMapping.paired_iff, hk, hp]
      exact ⟨hkalshi, hpoly⟩
    have hqid : q.canonical_id = keep q.pair := by
      simpa [ranked_out, hqactive, hqpaired] using hkept
    exact row_eq_of_id hq hs (by rw [hqid, hsid, hqpair])
  refine ⟨⟨s, ⟨mem_retire_where_of_not hs ?_, hsactive, hspair⟩, ?_⟩, ?_⟩
  · simp [ranked_out, hspair, hsid]
  · rintro q ⟨hq, hqactive, hqpair⟩
    exact honly q hq hqactive hqpair
  · intro hconfirmed q hq hqactive hqpair
    rw [honly q hq hqactive hqpair]
    -- a confirmed row would outrank one that is not
    have hrank := hbest r hr hactive rfl
    by_contra hne
    refine hrank (.inl ?_)
    cases hstatus : s.status <;>
      simp_all [MarketMapping.rank, MappingStatus.active]

/-- What is said of the pairs after an operation. -/
structure UniquePairs (spelled : Json ℚ → String) (w : World) : Prop where
  /-- No two confirmed rows bind the same two contracts. -/
  one : ∀ r ∈ w.table.rows, ∀ s ∈ w.table.rows, r.status = .confirmed → s.status = .confirmed →
    r.kalshi_market_id ≠ "" → r.polymarket_slug ≠ "" →
    r.kalshi_market_id = s.kalshi_market_id → r.polymarket_slug = s.polymarket_slug → r = s
  /-- A row that is upserted as confirmed survives. -/
  upserted : ∀ m m' w', m.Trimmed → m.status = .confirmed →
    Raising.Ends (store_env.restrict Answered) (upsert spelled m) w (some m') w' →
    Survives w'.table m.canonical_id ∧
      ∀ r, w'.table.find m.canonical_id = some r → r.pair = m.pair
  /-- So does one whose status is updated to confirmed. -/
  updated : ∀ id review_note allow_auto_trade m' w',
    Raising.Ends (store_env.restrict Answered)
      (update_status spelled id .confirmed review_note allow_auto_trade) w (some (some m')) w' →
    Survives w'.table id
  /-- The sweep leaves one active row of each pair, a confirmed one if there was any. -/
  swept : ∀ n w',
    Raising.Ends (store_env.restrict Answered) expire_duplicate_active_pairs w (some n) w' →
    ∀ pair : String × String, pair.1 ≠ "" → pair.2 ≠ "" →
      (∃ r ∈ w.table.rows, r.status.active = true ∧ r.pair = pair) →
      OneActive w'.table pair ∧
        ((∃ r ∈ w.table.rows, r.status = .confirmed ∧ r.pair = pair) →
          ∀ s ∈ w'.table.rows, s.status.active = true → s.pair = pair → s.status = .confirmed)

/-- After any sequence of operations with trimmed ids from an empty table the pairs are
    unique. -/
theorem one_confirmed_row {w : World} (hr : Reachable (pair_runs digest spelled) w) :
    UniquePairs spelled w := by
  have hkept := pairs_kept w hr
  refine ⟨?_, fun m m' w' hm hstatus h => upsert_survives hm hstatus h, ?_, ?_⟩
  · intro r hr s hs hrc hsc hkalshi hpoly hk hp
    exact hkept.one r hr s hs hrc hsc (r.paired_iff.mpr ⟨hkalshi, hpoly⟩) (Prod.ext hk hp)
  · intro id review_note allow_auto_trade m' w' h
    obtain ⟨-, hnone⟩ | ⟨m, upserted, hfind, hresult, hupsert⟩ := update_status_ends h
    · exact absurd rfl (hnone m')
    · cases upserted with
      | none => cases hresult
      | some m'' =>
          have hid : m.canonical_id = id := Table.find_key hfind
          rw [← hid]
          refine (upsert_survives ?_ rfl hupsert).1
          exact (hkept.trimmed m (Table.mem_of_find hfind)).of_pair rfl
  · rintro n w' h pair hkalshi hpoly ⟨r, hr, hactive, hpair⟩
    refine ⟨(expire_leaves_one h hkalshi hpoly hr hactive hpair).1, ?_⟩
    rintro ⟨r', hr', hconfirmed, hpair'⟩
    exact (expire_leaves_one h hkalshi hpoly hr' (confirmed_active hconfirmed) hpair').2 hconfirmed

/-- A row of a pair. -/
def pair_row (id : String) : MarketMapping :=
  { canonical_id := id, description := "", status := .confirmed
    kalshi_market_id := "KX", polymarket_slug := "px" }

/-- Two rows of one pair, written one after the other. -/
def pair_world : World :=
  after (StoreOp.run (fun _ => "") (fun _ => "") (.upsert (pair_row "GAME_1")))
    (after (StoreOp.run (fun _ => "") (fun _ => "") (.upsert (pair_row "AUTO_1")))
      ⟨.empty, fun _ => none⟩)

theorem one_confirmed_row_upserted : UniquePairs (fun _ => "") pair_world := by
  have htrimmed (id : String) : (pair_row id).Trimmed :=
    ⟨by simp only [pair_row]; decide +kernel, by simp only [pair_row]; decide +kernel⟩
  have hfirst : Reachable (pair_runs (fun _ => "") (fun _ => "")) _ :=
    (Reachable.init (s := ⟨Table.empty, fun _ => none⟩) rfl).step
      (l := .upsert (pair_row "AUTO_1")) ⟨htrimmed _, _, ends_after_answered _ _⟩
  have hsecond : Reachable (pair_runs (fun _ => "") (fun _ => "")) pair_world :=
    hfirst.step (l := .upsert (pair_row "GAME_1")) ⟨htrimmed _, _, ends_after_answered _ _⟩
  exact one_confirmed_row hsecond

end Mapping
