import Arbiter.Mapping.Passes
import Arbiter.Mapping.Replay

/-! # One Owner per Market

  A market of Kalshi or Polymarket, and a conid of ForecastEx, is to be used by one
  confirmed mapping. The passes that promote count the owners of markets once, before their
  loop, and turn no row to a market that has one; conids are let through with one owner by
  the fast path, and are not looked at by the validator, the matcher and the discovery.

  What is left to ask of a run: that a row which is confirmed has no conid of another, and
  no market that was given an owner since they were counted.
-/

namespace Mapping

open Effect LTS

variable {sp : Spelling} {t t₀ : Mappings}

/-! ### Owners -/

namespace MarketMapping

/-- The markets a mapping uses. -/
def market_keys (m : MarketMapping) : List (String × String) :=
  Mapping.market_keys m.kalshi_market_id m.polymarket_slug

/-- The markets and the conids a mapping uses. -/
def used_keys (m : MarketMapping) : List (String × String) :=
  m.market_keys ++ m.counted_conids.map fun conid => ("forecastex", conid)

end MarketMapping

/-- No market and no conid is used by two confirmed mappings. -/
def OneOwner (t : Mappings) : Prop :=
  ∀ r ∈ t.rows, ∀ s ∈ t.rows, r.status = .confirmed → s.status = .confirmed →
    r.canonical_id ≠ s.canonical_id → ∀ key ∈ r.used_keys, key ∉ s.used_keys

/-- No other confirmed mapping uses a market or a conid of `m`. -/
def Unclaimed (t : Mappings) (m : MarketMapping) : Prop :=
  ∀ s ∈ t.rows, s.status = .confirmed → s.canonical_id ≠ m.canonical_id →
    ∀ key ∈ m.used_keys, key ∉ s.used_keys

/-! ### The condition -/

/-- No other confirmed mapping uses a conid of `m`. -/
def OwnConids (t : Mappings) (m : MarketMapping) : Prop :=
  ∀ s ∈ t.rows, s.status = .confirmed → s.canonical_id ≠ m.canonical_id →
    ∀ conid ∈ m.counted_conids, conid ∉ s.counted_conids

/-- Other confirmed mappings that use a market of `m` were counted as its owners. -/
def OwnersCounted (t : Mappings) (m : MarketMapping) (counts : List (String × String)) : Prop :=
  ∀ s ∈ t.rows, s.status = .confirmed → s.canonical_id ≠ m.canonical_id →
    ∀ key ∈ m.market_keys, key ∈ s.market_keys → key ∈ counts

/-- The row a pass writes has its conids for itself, and where the pass asks for the owners
    of its markets, the answer is up to date. -/
def CountsHold (w : World) : Turn → Prop
  | .fast_promote m counts => ∀ r, w.table.find m.canonical_id = some r →
      OwnConids w.table r ∧ OwnersCounted w.table r counts
  | .validated id counts => ∀ r, w.table.find id = some r →
      OwnConids w.table r ∧ OwnersCounted w.table r counts
  | .matched m counts => OwnConids w.table m ∧ OwnersCounted w.table m counts
  | .attach m => OwnConids w.table m
  | _ => True

/-! ### Keys -/

theorem mem_used_keys {m : MarketMapping} {key : String × String} :
    key ∈ m.used_keys ↔
      key ∈ m.market_keys ∨ ∃ conid ∈ m.counted_conids, key = ("forecastex", conid) := by
  simp only [MarketMapping.used_keys, List.mem_append, List.mem_map, eq_comm]

theorem venue_of_market_key {m : MarketMapping} {key : String × String} (h : key ∈ m.market_keys) :
    key.1 ≠ "forecastex" := by
  simp only [MarketMapping.market_keys, market_keys, List.mem_filter, List.mem_cons,
    List.not_mem_nil, or_false] at h
  obtain ⟨rfl | rfl, -⟩ := h <;> simp

/-- A market and a conid are never the same key. -/
theorem disjoint_keys {m s : MarketMapping}
    (hmarkets : ∀ key ∈ m.market_keys, key ∉ s.market_keys)
    (hconids : ∀ conid ∈ m.counted_conids, conid ∉ s.counted_conids) :
    ∀ key ∈ m.used_keys, key ∉ s.used_keys := by
  intro key hm hs
  obtain hmarket | ⟨conid, hconid, rfl⟩ := mem_used_keys.mp hm <;>
    obtain hmarket' | ⟨conid', hconid', heq⟩ := mem_used_keys.mp hs
  · exact hmarkets key hmarket hmarket'
  · exact venue_of_market_key hmarket (by rw [heq])
  · exact venue_of_market_key hmarket' rfl
  · obtain ⟨-, rfl⟩ := Prod.mk.inj heq
    exact hconids conid hconid hconid'

/-- A row that passes the guard has no market that was counted. -/
theorem not_mem_counts {quoted : String → String} {k p : String} {counts : List (String × String)}
    (h : shared_market_owner_conflict quoted k p counts = none) :
    ∀ key ∈ market_keys k p, key ∉ counts := by
  intro key hkey hcounted
  have hfree := List.findSome?_eq_none_iff.mp h key hkey
  have hpos : 1 ≤ counts.count key := List.count_pos_iff.mpr hcounted
  simp [hpos] at hfree

/-- Where the guard passes and the counts hold, a row is unclaimed. -/
theorem unclaimed_of_counts {m : MarketMapping} {counts : List (String × String)}
    (hconids : OwnConids t m) (hcounted : OwnersCounted t m counts)
    (hfree : ∀ key ∈ m.market_keys, key ∉ counts) : Unclaimed t m := by
  intro s hs hstatus hother
  refine disjoint_keys (fun key hkey hshared => ?_) (hconids s hs hstatus hother)
  exact hfree key hkey (hcounted s hs hstatus hother key hkey hshared)

/-! ### Writes -/

theorem OneOwner.puts (ht : OneOwner t) {m : MarketMapping}
    (hm : m.status = .confirmed → Unclaimed t m) : Puts sp OneOwner t m := by
  intro stamp
  set m' := (enforce_auto_trade_safety sp.spelled m).inserted stamp (t.find m.canonical_id) with hm'
  have hsame : m'.canonical_id = m.canonical_id ∧ m'.status = m.status ∧
      m'.used_keys = m.used_keys := by
    obtain he | he := enforce_eq sp.spelled m <;> rw [hm', he] <;> exact ⟨rfl, rfl, rfl⟩
  have hwritten (s : MarketMapping) (hs : s ∈ t.rows) (hstatus : s.status = .confirmed)
      (hstatus' : m'.status = .confirmed) (hne : s.canonical_id ≠ m'.canonical_id) :
      ∀ key ∈ m'.used_keys, key ∉ s.used_keys := by
    rw [hsame.2.2]
    exact hm (hsame.2.1.symm.trans hstatus') s hs hstatus (hsame.1 ▸ hne)
  intro r hr s hs hstatus hstatus' hne
  obtain rfl | ⟨hr, -⟩ := Table.mem_put.mp hr <;> obtain rfl | ⟨hs, -⟩ := Table.mem_put.mp hs
  · exact absurd rfl hne
  · exact hwritten s hs hstatus' hstatus (Ne.symm hne)
  · exact fun key hkey hkey' => hwritten r hr hstatus hstatus' hne key hkey' hkey
  · exact ht r hr s hs hstatus hstatus' hne

/-- An update that confirms nothing and leaves the contracts keeps the owners. -/
theorem OneOwner.update (ht : OneOwner t) {p : MarketMapping → Bool}
    {f : MarketMapping → MarketMapping} (hf : ∀ r, (f r).canonical_id = r.canonical_id)
    (hstatus : ∀ r, (f r).status = .confirmed → r.status = .confirmed)
    (hkeys : ∀ r, (f r).used_keys = r.used_keys) : OneOwner (update_where t p f hf) := by
  have hold (s : MarketMapping) (hs : s ∈ (update_where t p f hf).rows)
      (hconfirmed : s.status = .confirmed) : ∃ r ∈ t.rows, r.status = .confirmed ∧
        r.canonical_id = s.canonical_id ∧ r.used_keys = s.used_keys := by
    rw [update_where, Table.mem_modify] at hs
    obtain ⟨r, hr, rfl⟩ := hs
    by_cases hp : p r = true
    · rw [if_pos hp] at hconfirmed ⊢
      exact ⟨r, hr, hstatus r hconfirmed, (hf r).symm, (hkeys r).symm⟩
    · rw [if_neg hp] at hconfirmed ⊢
      exact ⟨r, hr, hconfirmed, rfl, rfl⟩
  intro r hr s hs hr' hs' hne
  obtain ⟨r₀, hr₀, hstatus₀, hid, hkeys₀⟩ := hold r hr hr'
  obtain ⟨s₀, hs₀, hstatus₀', hid', hkeys₀'⟩ := hold s hs hs'
  rw [← hkeys₀, ← hkeys₀']
  exact ht r₀ hr₀ s₀ hs₀ hstatus₀ hstatus₀' (by rwa [hid, hid'])

theorem OneOwner.retire (ht : OneOwner t) (p : MarketMapping → Bool) (stamp : ℤ) :
    OneOwner (retire_where t p stamp) :=
  ht.update (MarketMapping.retire_id stamp) (fun _ h => by cases h) fun _ => rfl

theorem OneOwner.mark (ht : OneOwner t) (id : String) (unavailable : Bool) (stamp : ℤ) :
    OneOwner (update_where t (·.canonical_id = id) (·.mark stamp unavailable)
      (MarketMapping.mark_id stamp unavailable)) :=
  ht.update (MarketMapping.mark_id stamp unavailable) (fun _ h => h) fun _ => rfl

/-! ### Rows since the start of a pass -/

/-- A row of `t₀` has the id and the markets of `m`; with `settled`, a confirmed `m` was
    confirmed there. -/
def Stems (t₀ : Mappings) (settled : Bool) (m : MarketMapping) : Prop :=
  ∃ r₀ ∈ t₀.rows, r₀.canonical_id = m.canonical_id ∧ r₀.market_keys = m.market_keys ∧
    (settled = true → m.status = .confirmed → r₀.status = .confirmed)

/-- One owner each, and every row stems from the start. -/
structure Owned (t₀ : Mappings) (settled : Bool) (t : Mappings) : Prop where
  one_owner : OneOwner t
  stems : ∀ r ∈ t.rows, Stems t₀ settled r

variable {settled : Bool}

theorem Owned.start (ht : OneOwner t) : Owned t settled t :=
  ⟨ht, fun r hr => ⟨r, hr, rfl, rfl, fun _ h => h⟩⟩

/-- The markets of a row are those of any other reading of it. -/
theorem Owned.market_keys_eq (ht : Owned t₀ settled t) {m r : MarketMapping}
    (hm : Stems t₀ settled m) (hr : t.find m.canonical_id = some r) :
    r.market_keys = m.market_keys := by
  obtain ⟨r₀, hr₀, hid, hkeys, -⟩ := hm
  obtain ⟨r₁, hr₁, hid', hkeys', -⟩ := ht.stems r (Table.mem_of_find hr)
  have hsame : r₁ = r₀ := by
    have hfind := Table.find_of_mem hr₁
    rw [hid', Table.find_key hr, ← hid, Table.find_of_mem hr₀] at hfind
    exact (Option.some.inj hfind).symm
  rw [← hkeys, ← hkeys', hsame]

theorem Owned.puts (ht : Owned t₀ settled t) {m : MarketMapping} (hm : Stems t₀ settled m)
    (hunclaimed : m.status = .confirmed → Unclaimed t m) : Puts sp (Owned t₀ settled) t m := by
  intro stamp
  refine ⟨ht.one_owner.puts hunclaimed stamp, fun r hr => ?_⟩
  obtain rfl | ⟨hr, -⟩ := Table.mem_put.mp hr
  · obtain he | he := enforce_eq sp.spelled m <;> rw [he] <;> exact hm
  · exact ht.stems r hr

theorem Owned.update (ht : Owned t₀ settled t) {p : MarketMapping → Bool}
    {f : MarketMapping → MarketMapping} (hf : ∀ r, (f r).canonical_id = r.canonical_id)
    (hone : OneOwner (update_where t p f hf))
    (hstems : ∀ r, Stems t₀ settled r → Stems t₀ settled (f r)) :
    Owned t₀ settled (update_where t p f hf) := by
  exact ⟨hone, forall_update_where ht.stems hstems⟩

theorem Owned.retire (ht : Owned t₀ settled t) (p : MarketMapping → Bool) (stamp : ℤ) :
    Owned t₀ settled (retire_where t p stamp) :=
  ht.update (MarketMapping.retire_id stamp) (ht.one_owner.retire p stamp)
    fun _ ⟨r₀, hr₀, hid, hkeys, _⟩ => ⟨r₀, hr₀, hid, hkeys, fun _ h => by cases h⟩

theorem Owned.mark (ht : Owned t₀ settled t) (id : String) (unavailable : Bool) (stamp : ℤ) :
    Owned t₀ settled (update_where t (·.canonical_id = id) (·.mark stamp unavailable)
      (MarketMapping.mark_id stamp unavailable)) :=
  ht.update (MarketMapping.mark_id stamp unavailable) (ht.one_owner.mark id unavailable stamp)
    fun _ h => h

/-! ### Passes -/

/-- The passes that promote, insert and attach. -/
def AutoPass.promotes : AutoPass → Bool
  | .structural_fast_promote _ _ | .auto_promote_validated _ _ | .insert_verified_mappings _ _ _
  | .discover _ _ _ => true
  | _ => false

/-- These passes, one after the other; one may raise on the way. The items they turn to meet
    `cond`. -/
def promotion_runs (sp : Spelling) (cond : World → Turn → Prop) (start : World → Prop) :
    LTS.System World AutoPass where
  init := start
  step := fun w pass w' => pass.promotes = true ∧ ∃ result,
    Raising.Ends (store_env.restrict (AtTurns cond)) (pass.run sp) w result w'

variable {w : World}

/-- The fast path: the markets of a row are those it was read with, which the guard has
    looked up. -/
theorem fast_promote_owners (min_score : ℚ) (limit : ℕ) (hw : OneOwner w.table) :
    Raising.wp (store_env.restrict (AtTurns CountsHold))
      (structural_fast_promote sp.spelled sp.fixed sp.quoted min_score limit)
      (fun _ w' => OneOwner w'.table) w := by
  suffices hkept : Raising.wp (store_env.restrict (AtTurns CountsHold))
      (structural_fast_promote sp.spelled sp.fixed sp.quoted min_score limit)
      (fun _ w' => Owned w.table false w'.table) w from wp_mono hkept fun _ _ h => h.one_owner
  refine structural_fast_promote_keeps (fun _ h => h.stems) ?_ min_score limit (Owned.start hw)
  intro w' m r note counts hw' hm _ _ hfree hcounts hr
  obtain ⟨hconids, hcounted⟩ := hcounts r hr
  have hkeys := hw'.market_keys_eq hm hr
  refine upsert_keeps (fun _ p stamp h => h.retire p stamp) hw'
    (hw'.puts ?_ fun _ => ?_)
  · obtain ⟨r₀, hr₀, hid, hkeys₀, -⟩ := hw'.stems r (Table.mem_of_find hr)
    exact ⟨r₀, hr₀, hid, hkeys₀, nofun⟩
  · refine unclaimed_of_counts hconids hcounted fun key hkey => ?_
    rw [show MarketMapping.market_keys { r with
      status := .confirmed, review_note := note, allow_auto_trade := true } = r.market_keys from rfl,
      hkeys] at hkey
    exact not_mem_counts hfree key hkey

/-- The validator asks for the owners of the row as it is. -/
theorem promote_validated_owners (settings : ValidatorSettings) (results : List ValidationResult)
    (hw : OneOwner w.table) : Raising.wp (store_env.restrict (AtTurns CountsHold))
      (auto_promote_validated sp.spelled sp.fixed sp.quoted settings results)
      (fun _ w' => OneOwner w'.table) w := by
  refine auto_promote_validated_keeps ?_ ?_ ?_ settings results hw
  · intro w' id r note counts hw' _ hfree hcounts hr
    obtain ⟨hconids, hcounted⟩ := hcounts r hr
    refine upsert_keeps (fun _ p stamp h => h.retire p stamp) hw' (hw'.puts fun _ => ?_)
    exact unclaimed_of_counts hconids hcounted (not_mem_counts hfree)
  · intro w' r reason hw' hr
    refine upsert_keeps (fun _ p stamp h => h.retire p stamp) hw' (hw'.puts fun hstatus => ?_)
    exact fun s hs hstatus' hne => hw' r hr s hs hstatus hstatus' (Ne.symm hne)
  · exact fun w' hw' => refresh_keeps (fun _ p stamp h => h.retire p stamp) hw'

/-- The matcher asks for the owners of its contract of Kalshi; it has no other market. -/
theorem insert_matches_owners (now : String) (matches_found : List MatchResult) (dry_run : Bool)
    (hw : OneOwner w.table) : Raising.wp (store_env.restrict (AtTurns CountsHold))
      (insert_verified_mappings sp.spelled sp.quoted now matches_found dry_run)
      (fun _ w' => OneOwner w'.table) w := by
  refine insert_verified_mappings_keeps now ?_ matches_found dry_run hw
  intro w' found counts hw' hfree hcounts _
  refine upsert_keeps (fun _ p stamp h => h.retire p stamp) hw' (hw'.puts fun _ => ?_)
  exact unclaimed_of_counts hcounts.1 hcounts.2 (not_mem_counts hfree)

/-- The discovery of conids: markets keep the owners they had when the rows were read. -/
theorem discover_owners (client : FxClient) (events : List FxEvent) (dry_run : Bool)
    (hw : OneOwner w.table) : Raising.wp (store_env.restrict (AtTurns CountsHold))
      (discover client sp.spelled events dry_run) (fun _ w' => OneOwner w'.table) w := by
  suffices hkept : Raising.wp (store_env.restrict (AtTurns CountsHold))
      (discover client sp.spelled events dry_run)
      (fun _ w' => Owned w.table true w'.table) w from wp_mono hkept fun _ _ h => h.one_owner
  refine discover_keeps (fun _ h => h.stems) ?_ ?_ client events dry_run (Owned.start hw)
  · intro w' m yes no hw' hm hstatus hconids
    refine upsert_keeps (fun _ p stamp h => h.retire p stamp) hw' (hw'.puts hm fun _ => ?_)
    intro s hs hstatus' hne
    refine disjoint_keys (fun key hkey hshared => ?_) (hconids s hs hstatus' hne)
    obtain ⟨m₀, hm₀, hid, hkeys, hsettled⟩ := hm
    obtain ⟨s₀, hs₀, hid', hkeys', hsettled'⟩ := hw'.stems s hs
    refine hw m₀ hm₀ s₀ hs₀ (hsettled rfl hstatus) (hsettled' rfl hstatus') ?_ key
      (mem_used_keys.mpr (.inl (hkeys ▸ hkey))) (mem_used_keys.mpr (.inl (hkeys' ▸ hshared)))
    rw [hid, hid']
    exact Ne.symm hne
  · exact fun w' id unavailable hw' => mark_keeps hw' fun stamp => hw'.mark id unavailable stamp

instance : Decidable (OneOwner t) := by
  unfold OneOwner
  infer_instance

instance (m : MarketMapping) : Decidable (OwnConids t m) := by
  unfold OwnConids
  infer_instance

instance (m : MarketMapping) (counts : List (String × String)) :
    Decidable (OwnersCounted t m counts) := by
  unfold OwnersCounted
  infer_instance

/-- A row that the fast path promotes. -/
def ready_row (id polymarket_slug : String) : MarketMapping :=
  { canonical_id := id, description := "Fed", status := .review
    kalshi_market_id := "KXFED", polymarket_slug
    mapping_score := 1, resolution_match_status := "identical" }

/-- The store with one such row. -/
def one_ready : World := ⟨⟨[ready_row "FED" "fed"], by decide⟩, fun _ => none⟩

/-- The store with two, of one contract of Kalshi. -/
def two_ready : World :=
  ⟨⟨[ready_row "FED" "fed", ready_row "FOMC" "fomc"], by decide⟩, fun _ => none⟩

/-- The fast path, as it is run at every start. -/
def startup_pass : AutoPass := .structural_fast_promote (19 / 20) 1000

end Mapping
