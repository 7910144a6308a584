import Arbiter.Mapping.Passes
import Arbiter.Mapping.Replay

/-! # Rows that Are Held

  A row an operator rejected, and a row with the quarantine marker, are to stay out of the
  market: no pass confirms one for trading, and none takes the marker off. The marker is a
  piece of `review_note` or `notes`, which the passes overwrite; some look at neither marker
  nor status.

  The condition names the items that get past: a candidate or an expiry that overwrites the
  field with the marker, a candidate that confirms the row, the validator on a rejected or
  expired row, the matcher on any held row.
-/

namespace Mapping

open Effect LTS

variable {sp : Spelling} {id : String} {r₀ : MarketMapping}

/-! ### The condition -/

/-- The text carries the quarantine marker. -/
abbrev carries_marker (text : String) : Prop := Text.occurs MarketMapping.no_auto_promote text = true

/-- The review note's marker outlasts the candidate, or the candidate's note brings one. -/
def keeps_note_marker (c : Candidate) (r : MarketMapping) : Prop :=
  carries_marker r.review_note ∧ (r.status.protected = true ∨ c.review_note = none ∧
      ¬ (c.asked = .confirmed ∧ "Expired".toList.isPrefixOf r.review_note.toList = true)) ∨
    (r.status.protected = false ∨ r.review_note = "") ∧
      ∃ note, c.review_note = some note ∧ carries_marker note

/-- The marker is in a field the candidate leaves alone, or the candidate brings one. -/
def keeps_marker (c : Candidate) (r : MarketMapping) : Prop :=
  keeps_note_marker c r ∨ carries_marker r.notes ∧ c.notes = "" ∨ carries_marker c.notes

/-- An item leaves the row with id `id` held: whatever else it may do. -/
def Spares (digest : String → String) (id : String) (w : World) : Turn → Prop
  | .candidate c => ∀ existing r, Resolves digest w.table c existing →
      existing.canonical_id = id → w.table.find id = some r → existing = r ∧
        (r.marked = true → keeps_marker c r ∧
          (r.status = .candidate → c.asked = .confirmed → c.allow_auto_trade = false))
  | .stale m => m.canonical_id = id → m.marked = true → carries_marker m.notes
  | .expiry id' => id' = id → ∀ r, w.table.find id = some r → r.marked = true →
      carries_marker r.notes
  | .validated id' _ => id' = id → ∀ r, w.table.find id = some r →
      r.status ≠ .rejected ∧ r.status ≠ .expired
  | .matched m _ => m.canonical_id = id → ∀ r, w.table.find id = some r →
      r.status ≠ .rejected ∧ r.status ≠ .expired ∧ r.marked = false
  | .fast_promote _ _ | .attach _ => True

/-! ### Held rows -/

/-- What stays of a row that was `r₀`. -/
structure Still (r₀ r : MarketMapping) : Prop where
  rejected : r₀.status = .rejected → r.status = .rejected ∨ r.status = .expired
  marked : r₀.marked = true → r.marked = true
  untraded : r₀.marked = true → r₀.tradable = false → r.tradable = false

/-- The row with an id is still held. -/
def StillHeld (id : String) (r₀ : MarketMapping) (t : Mappings) : Prop :=
  ∃ r, t.find id = some r ∧ Still r₀ r

theorem Still.refl (r₀ : MarketMapping) : Still r₀ r₀ := ⟨.inl, fun h => h, fun _ h => h⟩

/-- The safety check and the columns an upsert fills in change nothing of it. -/
theorem Still.inserted {spelled : Json ℚ → String} {m : MarketMapping} (h : Still r₀ m)
    (stamp : ℤ) (old : Option MarketMapping) :
    Still r₀ ((enforce_auto_trade_safety spelled m).inserted stamp old) := by
  obtain he | he := enforce_eq spelled m <;> rw [he]
  · exact ⟨h.rejected, h.marked, h.untraded⟩
  · refine ⟨h.rejected, h.marked, fun _ _ => ?_⟩
    simp [MarketMapping.tradable, MarketMapping.inserted]

theorem Still.retire {r : MarketMapping} (h : Still r₀ r) (stamp : ℤ) :
    Still r₀ (r.retire stamp) := by
  refine ⟨fun _ => .inr rfl, fun hmarked => ?_, fun _ _ => by
    simp [MarketMapping.tradable, MarketMapping.retire]⟩
  have hr := (MarketMapping.marked_iff r).mp (h.marked hmarked)
  refine (MarketMapping.marked_iff _).mpr (hr.imp (fun hnote => ?_) id)
  have hne : r.review_note ≠ "" := by
    intro hempty
    rw [hempty] at hnote
    exact absurd hnote (by decide)
  simpa [MarketMapping.retire, hne] using hnote

/-- A row that is expired with its marker in the notes. -/
theorem Still.expire {r : MarketMapping} (h : Still r₀ r)
    (hnotes : r.marked = true → carries_marker r.notes) (note : String) :
    Still r₀ { r with status := .expired, allow_auto_trade := false, review_note := note } :=
  ⟨fun _ => .inr rfl, fun hmarked =>
    (MarketMapping.marked_iff _).mpr (.inr (hnotes (h.marked hmarked))),
    fun _ _ => by simp [MarketMapping.tradable]⟩

theorem StillHeld.good {t : Mappings} (h : StillHeld id r₀ t) :
    ∀ r ∈ t.rows, r.canonical_id = id → Still r₀ r := by
  rintro r hr rfl
  obtain ⟨s, hs, hstill⟩ := h
  rw [Table.find_of_mem hr] at hs
  obtain rfl := Option.some.inj hs
  exact hstill

/-- A written row with the id of the held one is still held. -/
theorem StillHeld.puts {t : Mappings} {m : MarketMapping} (ht : StillHeld id r₀ t)
    (hm : m.canonical_id = id → Still r₀ m) : Puts sp (StillHeld id r₀) t m := by
  intro stamp
  have hkey : ((enforce_auto_trade_safety sp.spelled m).inserted stamp
      (t.find m.canonical_id)).canonical_id = m.canonical_id := by
    obtain he | he := enforce_eq sp.spelled m <;> rw [he] <;> rfl
  by_cases hid : m.canonical_id = id
  · exact ⟨_, by rw [Table.find_put, if_pos (hkey.trans hid)], (hm hid).inserted stamp _⟩
  · obtain ⟨r, hr, hstill⟩ := ht
    exact ⟨r, by rw [Table.find_put, if_neg (by rwa [hkey]), hr], hstill⟩

/-- Rows that are updated one by one, each still held. -/
theorem StillHeld.update {t : Mappings} {p : MarketMapping → Bool}
    {f : MarketMapping → MarketMapping} (hf : ∀ r, (f r).canonical_id = r.canonical_id)
    (ht : StillHeld id r₀ t) (hstill : ∀ r, Still r₀ r → Still r₀ (f r)) :
    StillHeld id r₀ (update_where t p f hf) := by
  obtain ⟨r, hr, hr₀⟩ := ht
  refine ⟨_, by rw [find_update_where, hr, Option.map_some], ?_⟩
  split_ifs
  · exact hstill r hr₀
  · exact hr₀

/-! ### Candidates -/

theorem ne_of_carries_marker {text : String} (h : carries_marker text) : text ≠ "" := by
  rintro rfl
  exact absurd h (by decide)

theorem merged_note_marked {c : Candidate} {r : MarketMapping} :
    carries_marker (merged_review_note c r) ↔ keeps_note_marker c r := by
  have hempty : ¬ carries_marker "" := fun h => ne_of_carries_marker h rfl
  unfold merged_review_note keeps_note_marker
  by_cases hnote : r.review_note = ""
  · cases hc : c.review_note <;> simp [hnote, hempty]
  · cases hprotected : r.status.protected
    · cases hc : c.review_note with
      | none =>
          have hnone : ¬ ∃ note, (none : Option String) = some note ∧ carries_marker note := by
            simp
          simp only [Bool.false_and, Bool.false_eq_true, if_false, false_or, true_and]
          split_ifs with hfresh <;> tauto
      | some note => simp
    · simp [hnote]

/-- The row a candidate makes of `r` has the marker where the candidate keeps it. -/
theorem merge_marked {c : Candidate} {r : MarketMapping} :
    (merge_candidate c r).marked = true ↔ keeps_marker c r := by
  have hempty : ¬ carries_marker "" := fun h => ne_of_carries_marker h rfl
  have hdefault : ¬ carries_marker "Auto-discovered candidate mapping." := by decide
  rw [MarketMapping.marked_iff, keeps_marker]
  refine or_congr merged_note_marked ?_
  change carries_marker (or_text c.notes (or_text r.notes _)) ↔ _
  by_cases hc : c.notes = ""
  · by_cases hr : r.notes = "" <;> simp [or_text, hc, hr, hempty, hdefault]
  · simp [or_text, hc]

/-- A candidate gives no permission to a row, save to a candidate it confirms. -/
theorem merge_untraded {c : Candidate} {r : MarketMapping} (hr : r.tradable = false)
    (hc : r.status = .candidate → c.asked = .confirmed → c.allow_auto_trade = false) :
    (merge_candidate c r).tradable = false := by
  have hmerged : (merge_candidate c r).tradable =
      ((merged_status c r).1 = .confirmed && (merged_status c r).2) := rfl
  rw [hmerged]
  unfold merged_status
  cases hstatus : r.status with
  | candidate =>
      cases hasked : c.asked <;> simp [MappingStatus.protected, hc hstatus, hasked]
  | confirmed => simpa [MappingStatus.protected, MarketMapping.tradable, hstatus] using hr
  | review | rejected | expired => simp [MappingStatus.protected]

theorem Still.merge {c : Candidate} {r : MarketMapping} (h : Still r₀ r)
    (hc : r.marked = true → keeps_marker c r ∧
      (r.status = .candidate → c.asked = .confirmed → c.allow_auto_trade = false)) :
    Still r₀ (merge_candidate c r) := by
  refine ⟨fun hrejected => ?_, fun hmarked => merge_marked.mpr (hc (h.marked hmarked)).1,
    fun hmarked htradable =>
      merge_untraded (h.untraded hmarked htradable) (hc (h.marked hmarked)).2⟩
  rw [show (merge_candidate c r).status = (merged_status c r).1 from rfl]
  obtain hstatus | hstatus := h.rejected hrejected
  · exact .inl (by simp [merged_status, MappingStatus.protected, hstatus])
  · exact .inr (by simp [merged_status, MappingStatus.protected, hstatus])

/-! ### Passes -/

/-- What is held stays held: of the items of the passes that get at it, each spares it. -/
theorem held_kept (hheld : r₀.status = .rejected ∨ r₀.marked = true) :
    Kept sp (Spares sp.digest id) (StillHeld id r₀) (fun m => m.canonical_id = id → Still r₀ m)
      fun _ => True where
  read := fun t ht => ht.good
  retire := fun t p stamp ht => ht.update (MarketMapping.retire_id stamp) fun r h => h.retire stamp
  mark := fun t id' unavailable stamp ht =>
    ht.update (MarketMapping.mark_id stamp unavailable) fun r h => ⟨h.rejected, h.marked, h.untraded⟩
  candidate := by
    intro w c existing hw _ hspares hexisting
    refine hw.puts fun hid => ?_
    obtain ⟨r, hr, hstill⟩ := hw
    obtain ⟨rfl, hmerge⟩ := hspares existing r hexisting hid hr
    exact hstill.merge hmerge
  stale := fun w m hw hm _ hspares =>
    hw.puts fun hid => (hm hid).expire (hspares hid) _
  fast_promote := by
    intro w m r note counts hw hm hmarked hopen _ hr
    refine hw.puts fun hid => ?_
    have hid : m.canonical_id = id := (Table.find_key hr).symm.trans hid
    -- it promotes candidates and those in review only, and none that carries the marker
    obtain hrejected | hheld := hheld
    · obtain hstatus | hstatus := (hm hid).rejected hrejected <;> simp [hstatus] at hopen
    · simp [(hm hid).marked hheld] at hmarked
  validated := by
    intro w id' r note counts hw hmarked hspares hr
    refine hw.puts fun hid => ?_
    have hid' : id' = id := (Table.find_key hr).symm.trans hid
    subst hid'
    have hstill := hw.good r (Table.mem_of_find hr) (Table.find_key hr)
    obtain hrejected | hheld := hheld
    · obtain ⟨hnot, hnot'⟩ := hspares rfl r hr
      obtain hstatus | hstatus := hstill.rejected hrejected
      · exact absurd hstatus hnot
      · exact absurd hstatus hnot'
    · simp [hstill.marked hheld] at hmarked
  quarantine := by
    intro t r reason ht hr
    refine ht.puts fun hid => ⟨(ht.good r hr hid).rejected, fun _ => ?_, fun _ _ => ?_⟩
    · refine (MarketMapping.marked_iff _).mpr (.inl ?_)
      have hnote : Text.occurs MarketMapping.no_auto_promote "[no-auto-promote] " = true := by decide
      exact Text.occurs_append_left _ _ reason hnote
    · simp [MarketMapping.tradable]
  matched := by
    intro w now found counts hw hspares _
    refine hw.puts fun hid => ?_
    obtain ⟨r, hr, hstill⟩ := hw
    obtain ⟨hnot, hnot', hmarked⟩ := hspares hid r hr
    obtain hrejected | hheld := hheld
    · obtain hstatus | hstatus := hstill.rejected hrejected
      · exact absurd hstatus hnot
      · exact absurd hstatus hnot'
    · simp [hstill.marked hheld] at hmarked
  attach := fun w m yes no hw hm _ _ =>
    hw.puts fun hid => ⟨(hm hid).rejected, (hm hid).marked, (hm hid).untraded⟩
  expire := by
    intro w id' r note hw hspares hr
    refine hw.puts fun hid => ?_
    have hid' : id' = id := (Table.find_key hr).symm.trans hid
    exact (hw.good r (Table.mem_of_find hr) hid).expire (hspares hid' r (hid' ▸ hr)) note

/-- A row that is rejected or carries the quarantine marker, after any sequence of passes,
    each whole or broken off where it raised, whose items spare it: it is not traded unless
    it was, and it carries the marker if it did. -/
theorem held_row_stays {w₀ w : World} (hfind : w₀.table.find id = some r₀)
    (hheld : r₀.status = .rejected ∨ r₀.marked = true)
    (hr : Reachable (auto_runs sp (Spares sp.digest id) (· = w₀)) w) :
    ∃ r, w.table.find id = some r ∧ (r₀.tradable = false → r.tradable = false) ∧
      (r₀.marked = true → r.marked = true) := by
  have hstart : ∀ w, w = w₀ → StillHeld id r₀ w.table := by
    rintro _ rfl
    exact ⟨r₀, hfind, Still.refl r₀⟩
  obtain ⟨r, hfind', hstill⟩ := (held_kept hheld).runs hstart w hr
  refine ⟨r, hfind', fun huntraded => ?_, hstill.marked⟩
  obtain hrejected | hmarked := hheld
  · obtain hstatus | hstatus := hstill.rejected hrejected <;>
      simp [MarketMapping.tradable, hstatus]
  · exact hstill.untraded hmarked huntraded

/-! ### Runs -/

/-- A row that is held. -/
def held_row (status : MappingStatus) : MarketMapping :=
  { canonical_id := "FX_CPI", description := "CPI", status
    kalshi_market_id := "KXCPI", polymarket_slug := "cpi"
    review_note := "[no-auto-promote] wrong contract"
    mapping_score := 1, resolution_match_status := "identical" }

/-- A row that is not. -/
def open_row : MarketMapping :=
  { canonical_id := "FED", description := "Fed", status := .review
    kalshi_market_id := "KXFED", polymarket_slug := "fed"
    mapping_score := 1, resolution_match_status := "identical" }

/-- The store with both rows. -/
def held_world (status : MappingStatus) : World where
  table := ⟨[held_row status, open_row], by simp [held_row, open_row]⟩
  runtime := fun _ => none

/-- The fast path, over both rows. -/
def fast_pass : AutoPass := .structural_fast_promote (19 / 20) 1000

/-- The fast path promotes the other row only. -/
theorem held_row_stays_unpromoted : ∃ r,
    (after (fast_pass.run plain_spelling) (held_world .review)).table.find "FX_CPI" = some r ∧
      ((held_row .review).tradable = false → r.tradable = false) ∧
        ((held_row .review).marked = true → r.marked = true) := by
  have hfind : (held_world .review).table.find "FX_CPI" = some (held_row .review) := rfl
  suffices hreached : Reachable (auto_runs plain_spelling (Spares plain_spelling.digest "FX_CPI")
      (· = held_world .review)) (after (fast_pass.run plain_spelling) (held_world .review)) from
    held_row_stays hfind (.inr (by decide)) hreached
  refine (Reachable.init rfl).step (l := fast_pass) ⟨_, ends_after_turns
    (fun _ turn => match turn with
      | .fast_promote _ _ => true
      | _ => false) (fun w turn hturn => ?_) ?_⟩
  · cases turn <;> first | exact trivial | cases hturn
  · decide +kernel

/-- A contract of ForecastEx and one of Kalshi, matched under the id of a rejected row. -/
def held_match : MatchResult where
  fx_contract := ⟨"CPI", "3.0", "above", "2026-08", "C"⟩
  kalshi_contract := ⟨"KXCPI", "3.0", "above", "2026-08", ""⟩
  family_name := "CPI"
  family_tags := ["economics"]
  canonical_id := "FX_CPI"
  description := "CPI above 3.0"
  match_quality := "exact"
  fx_yes_conid := "101"
  fx_no_conid := "102"
  kalshi_ticker := "KXCPI-26AUG-T3.0"

/-- The matcher, over that match. -/
def match_pass : AutoPass := .insert_verified_mappings "2026-08-01" [held_match] false

/-- The matcher asks whether the id is confirmed, not whether it is held: it confirms a row
    that was rejected and carried the marker. -/
theorem rejected_row_is_resurrected : ∃ w₀ w r₀ r, w₀.table.find "FX_CPI" = some r₀ ∧
    r₀.status = .rejected ∧ r₀.marked = true ∧
    Reachable (auto_runs plain_spelling (fun _ _ => True) (· = w₀)) w ∧
    w.table.find "FX_CPI" = some r ∧ r.tradable = true ∧ r.marked = false := by
  have hrow : ((after (match_pass.run plain_spelling) (held_world .rejected)).table.find
      "FX_CPI").any (fun r => r.tradable && !r.marked) = true := by decide +kernel
  obtain ⟨r, hr, hresurrected⟩ := (Option.any_eq_true _ _).mp hrow
  refine ⟨held_world .rejected, after (match_pass.run plain_spelling) (held_world .rejected),
    held_row .rejected, r, rfl, rfl, by decide, ?_, hr, ?_⟩
  · refine (Reachable.init rfl).step (l := match_pass)
      ⟨_, ends_after_turns (fun _ _ => true) (fun _ _ _ => trivial) ?_⟩
    decide +kernel
  · simpa using hresurrected

end Mapping
