import Arbiter.Framework.System
import Arbiter.Framework.Tally
import Arbiter.Mapping.Passes
import Arbiter.Mapping.Validation

/-! # Release from Quarantine

  `sweep_quarantine_releases`: a row that carries the quarantine marker is released after
  enough consecutive cycles in which it passes every gate. The cycles are counted in a tag
  of the row's note: a cycle that passes writes the next count, one that fails deletes the
  tag. A cycle that passes over the row does neither.

  ## Contents

  - Section 1: the tag in the note.
  - Section 2: the gates, and the sweep.
  - Section 3: what a sweep does to the row in the store.
  - Section 4: the runs of cycles over a row.
-/

namespace Mapping

open Effect LTS

/-! ## Section 1: The tag -/

/-- What the tag opens with. -/
def streak_label : List Char := "quarantine-release-streak ".toList

/-- `int(match.group(1)) if match else 0`. -/
def streak_of (note : String) : ℕ := (Tally.find streak_label note.toList).getD 0

/-- `_strip_streak`. -/
def strip_streak (text : String) : String :=
  Text.strip (String.ofList (Tally.erase streak_label text.toList))

/-- The note with the tag for `streak` of `needed` cycles. -/
def with_streak (note : String) (streak needed : ℕ) : String :=
  Text.strip (strip_streak note ++ " " ++ String.ofList (Tally.tag streak_label streak needed))

/-- The note carries no tag. -/
def Untagged (note : String) : Prop := Tally.Free streak_label note.toList

/-- The note carries one tag at most, at its end. -/
def TagAtEnd (note : String) : Prop :=
  Untagged note ∨ ∃ before streak needed, Tally.Free streak_label before ∧
    note.toList = before ++ Tally.tag streak_label streak needed

theorem Untagged.streak {note : String} (h : Untagged note) : streak_of note = 0 := by
  unfold streak_of
  rw [show Tally.find streak_label note.toList = none from h, Option.getD_none]

theorem strip_toList (s : String) : (Text.strip s).toList =
    (s.toList.dropWhile Char.isWhitespace).rdropWhile Char.isWhitespace := by
  simp [Text.strip, List.rdropWhile]

/-- Stripping adds no tag. -/
theorem untagged_strip {s : String} (h : Untagged s) : Untagged (Text.strip s) := by
  have hsuffix : Tally.Free streak_label (s.toList.dropWhile Char.isWhitespace) :=
    Tally.Free.of_end h (List.dropWhile_suffix _)
  unfold Untagged
  rw [strip_toList]
  exact Tally.Free.of_start hsuffix (List.rdropWhile_prefix Char.isWhitespace _)

/-- Deleting the tag leaves what was before it, with the marks that were in the note. -/
theorem TagAtEnd.erase {note : String} (h : TagAtEnd note) :
    Tally.Free streak_label (Tally.erase streak_label note.toList) ∧
      (MarketMapping.no_auto_promote.toList <:+: note.toList →
        MarketMapping.no_auto_promote.toList <:+: Tally.erase streak_label note.toList) := by
  obtain hfree | ⟨before, streak, needed, hfree, hlist⟩ := h
  · rw [Tally.Free.erase hfree]
    exact ⟨hfree, id⟩
  · rw [hlist, hfree.erase_tag (by decide)]
    refine ⟨hfree, Tally.infix_of_append_tag (by decide)
      (by decide : '[' ∉ "no-auto-promote]".toList) ?_⟩
    intro hopens
    obtain ⟨rest, hrest⟩ := hopens
    cases (List.cons.inj (List.cons.inj hrest).2).1

/-- What starts with a character that is not dropped stays. -/
theorem infix_dropWhile {c : Char} {mark l : List Char} (hc : c.isWhitespace = false)
    (h : c :: mark <:+: l) : c :: mark <:+: l.dropWhile Char.isWhitespace := by
  induction l with
  | nil => simp at h
  | cons d l ih =>
      rw [List.dropWhile_cons]
      split_ifs with hd
      · obtain hopens | h := List.infix_cons_iff.mp h
        · obtain ⟨rest, hrest⟩ := hopens
          obtain ⟨rfl, -⟩ := List.cons.inj hrest
          rw [hd] at hc
          cases hc
        · exact ih h
      · exact h

/-- The marker survives stripping. -/
theorem infix_strip {s : String}
    (h : MarketMapping.no_auto_promote.toList <:+: s.toList) :
    MarketMapping.no_auto_promote.toList <:+: (Text.strip s).toList := by
  have hfront : '[' :: "no-auto-promote]".toList <:+: s.toList.dropWhile Char.isWhitespace :=
    infix_dropWhile (by decide) h
  have hback : ']' :: "[no-auto-promote".toList.reverse <:+:
      (s.toList.dropWhile Char.isWhitespace).reverse.dropWhile Char.isWhitespace :=
    infix_dropWhile (by decide) (List.reverse_infix.mpr hfront)
  rw [strip_toList, List.rdropWhile, ← List.reverse_infix, List.reverse_reverse]
  exact hback

theorem TagAtEnd.stripped {note : String} (h : TagAtEnd note) :
    Untagged (strip_streak note) ∧
      (Text.occurs MarketMapping.no_auto_promote note = true →
        Text.occurs MarketMapping.no_auto_promote (strip_streak note) = true) := by
  obtain ⟨hfree, hmark⟩ := h.erase
  refine ⟨untagged_strip ?_, fun hoccurs => ?_⟩
  · unfold Untagged
    rwa [String.toList_ofList]
  · rw [Text.occurs_iff] at hoccurs ⊢
    refine infix_strip ?_
    rw [String.toList_ofList]
    exact hmark hoccurs

/-- The new tag is the only one. -/
theorem TagAtEnd.tagged_toList {note : String} (h : TagAtEnd note) (streak needed : ℕ) :
    ∃ before, Tally.Free streak_label before ∧
      (with_streak note streak needed).toList = before ++ Tally.tag streak_label streak needed := by
  have hfree : Tally.Free streak_label ((strip_streak note).toList ++ [' ']) :=
    Tally.Free.concat h.stripped.1 (by decide)
  refine ⟨((strip_streak note).toList ++ [' ']).dropWhile Char.isWhitespace,
    hfree.of_end (List.dropWhile_suffix _), ?_⟩
  obtain ⟨body, htag⟩ : ∃ body, Tally.tag streak_label streak needed = '[' :: body ++ [']'] :=
    ⟨streak_label ++ (Nat.toDigits 10 streak ++ '/' :: Nat.toDigits 10 needed),
      by simp [Tally.tag]⟩
  have hopen (l : List Char) :
      (l ++ ('[' :: body ++ [']'])).dropWhile Char.isWhitespace =
        l.dropWhile Char.isWhitespace ++ ('[' :: body ++ [']']) := by
    rw [List.dropWhile_append]
    split_ifs with hempty
    · rw [List.isEmpty_iff.mp hempty]
      rfl
    · rfl
  rw [with_streak, strip_toList, htag]
  simp only [String.toList_append, String.toList_ofList]
  rw [show " ".toList = [' '] from rfl, hopen, ← List.append_assoc, List.rdropWhile_concat_neg]
  simp

theorem TagAtEnd.tagged {note : String} (h : TagAtEnd note) (streak needed : ℕ) :
    TagAtEnd (with_streak note streak needed) ∧
      streak_of (with_streak note streak needed) = streak ∧
      (Text.occurs MarketMapping.no_auto_promote note = true →
        Text.occurs MarketMapping.no_auto_promote (with_streak note streak needed) = true) := by
  obtain ⟨before, hfree, hlist⟩ := h.tagged_toList streak needed
  refine ⟨.inr ⟨before, streak, needed, hfree, hlist⟩, ?_, fun hoccurs => ?_⟩
  · unfold streak_of
    rw [hlist, hfree.find_tag (by decide), Option.getD_some]
  · have hkept := h.stripped.2 hoccurs
    rw [Text.occurs_iff] at hkept ⊢
    refine infix_strip ?_
    rw [String.toList_append, String.toList_append, List.append_assoc]
    exact hkept.trans (List.prefix_append _ _).isInfix

/-! ## Section 2: The sweep -/

/-- What the environment sets for the sweep. -/
structure ReleaseSettings where
  quarantine_auto_release_enabled : Bool := false
  quarantine_release_cycles : ℤ := 3
  max_yes_divergence : ℚ := 2 / 25

/-- `needed`. -/
def ReleaseSettings.needed (settings : ReleaseSettings) : ℕ :=
  (max 1 settings.quarantine_release_cycles).toNat

/-- A quote of the price store. -/
structure VenueQuote where
  yes_price : ℚ
  age_seconds : ℚ

/-- What a sweep reads beside the store: the result for a row, the quotes where they can be
    read, the verdict where the reviewers give one, the owners of markets and the date. -/
structure SweepReads where
  platforms : List PlatformCheck
  quotes : Option (List VenueQuote) := none
  llm_verify : String → String → Option String
  owner_counts : List (String × String) := []
  stamp : String := ""

/-- The verdict of the gates. -/
inductive ReleaseGate
  /-- The row is passed over. -/
  | skipped
  | failed
  | passed (divergence : ℚ)

section sweep

variable (sp : Spelling) (settings : ReleaseSettings)

/-- The prices of the venues that quote, from the store or else from the checks. -/
def live_yes (reads : SweepReads) : List ℚ :=
  let quoted := ((reads.quotes.getD []).filter fun q =>
    0 < q.yes_price && q.age_seconds ≤ 120).map (·.yes_price)
  if quoted.length < 2 then
    (reads.platforms.filter fun p => p.is_open && p.has_quotes && 0 < p.yes_price).map (·.yes_price)
  else quoted

/-- The contract of ForecastEx is not shown to be of the canonical's party. -/
def party_unproven (m : MarketMapping) (reads : SweepReads) : Bool :=
  let canonical_text := " ".intercalate (m.canonical_id :: m.description :: m.aliases)
  let symbol := ((reads.platforms.find? (·.platform = "forecastex")).map (·.contract_symbol)).getD ""
  (canonical_party canonical_text).isSome && m.forecastex_contract_id ≠ "" &&
    (symbol = "" || (party_conflict sp.quoted canonical_text symbol).isSome)

/-- What the reviewers are asked. -/
def review_questions (m : MarketMapping) : String × String :=
  (m.description ++ " — kalshi market id: " ++ or_text m.kalshi_market_id "n/a",
    "polymarket market id: " ++ or_text m.polymarket_slug "n/a" ++
      if m.forecastex_contract_id = "" then ""
      else " / forecastex contract: " ++ m.forecastex_contract_id)

/-- The gates, of a row that carries the marker. -/
def release_gates (reads : SweepReads) (m : MarketMapping) : ReleaseGate :=
  let live := live_yes reads
  let divergence := Mapping.max_yes_divergence live
  let (kalshi_q, poly_q) := review_questions m
  if m.resolution_match_status ≠ "identical" then .skipped
  else if (shared_market_owner_conflict sp.quoted m.kalshi_market_id m.polymarket_slug
      reads.owner_counts).isSome then .failed
  else if live.length < 2 then .failed
  else if settings.max_yes_divergence < divergence then .failed
  else if party_unproven sp m reads then .failed
  else if reads.llm_verify kalshi_q poly_q ≠ some "YES" then .failed
  else .passed divergence

/-- `s.replace(pat, "")`. -/
def remove_all (pat : List Char) : ℕ → List Char → List Char
  | 0, l => l
  | _ + 1, [] => []
  | fuel + 1, c :: l =>
      if pat.isPrefixOf (c :: l) then remove_all pat fuel ((c :: l).drop pat.length)
      else c :: remove_all pat fuel l

/-- The note without the markers of the quarantine. -/
def unmarked_note (note : String) : String :=
  let l := remove_all MarketMapping.no_auto_promote.toList note.length note.toList
  String.ofList (remove_all "[coherence-quarantine]".toList l.length l)

/-- The note of a released row. -/
def released_note (note stamp : String) (divergence : ℚ) : String :=
  Text.strip (Text.strip (strip_streak (unmarked_note note)) ++ " [quarantine-released " ++ stamp ++
    " dual-llm-yes divergence=" ++ sp.fixed 4 divergence ++ " streak=" ++
    toString settings.needed ++ "]")

/-- What the sweep does with a row: the note it writes, if it writes one, and whether it
    releases the row. -/
def sweep_note (reads : SweepReads) (m : MarketMapping) : Option (String × Bool) :=
  if !m.marked then none
  else
    match release_gates sp settings reads m with
    | .skipped => none
    | .failed =>
        if (Tally.find streak_label m.review_note.toList).isSome then
          some (strip_streak m.review_note, false)
        else none
    | .passed divergence =>
        let streak := streak_of m.review_note + 1
        if streak < settings.needed then
          some (with_streak m.review_note streak settings.needed, false)
        else some (released_note sp settings m.review_note reads.stamp divergence, true)

/-- One result of the sweep. -/
def sweep_row (released : List String) (result : String × SweepReads) : Op (List String) := do
  let found ← Raising.attempt (get result.1)
  match found.join with
  | none => pure released
  | some m =>
      match sweep_note sp settings result.2 m with
      | none => pure released
      | some (new_note, releases) => do
          let _ ← update_status sp.spelled result.1 m.status new_note none
          pure (if releases then released ++ [result.1] else released)

/-- `sweep_quarantine_releases`; the owners are counted once for all results. -/
def sweep_quarantine_releases (results : List (String × SweepReads)) : Op (List String) :=
  if !settings.quarantine_auto_release_enabled then pure []
  else do
    let owner_counts ← counted market_owner_counts
    (results.map fun (id, reads) => (id, { reads with owner_counts })).foldlM
      (sweep_row sp settings) []

end sweep

/-! ## Section 3: The row in the store -/

section store

variable {spelled : Json ℚ → String}

/-- A row that is there is read. -/
theorem get_answered {id : String} {m : MarketMapping} {found : Option (Option MarketMapping)}
    {w w' : World} (hm : w.table.find id = some m)
    (h : Raising.Ends (store_env.restrict Answered) (get id) w found w') :
    found = some (some m) ∧ w' = w := by
  obtain ⟨hanswered, rfl, rfl | rfl⟩ := ends_statement.1 h
  · obtain ⟨_, hinsert⟩ := hanswered rfl
    cases hinsert
  · exact ⟨by rw [hm], rfl⟩

/-- An upsert that comes through writes the notes. -/
theorem upsert_notes {m upserted : MarketMapping} {w w' : World}
    (h : Raising.Ends (store_env.restrict Answered) (upsert spelled m) w (some upserted) w') :
    ∃ m', w'.table.find m.canonical_id = some m' ∧ m'.notes = m.notes ∧
      m'.review_note = m.review_note := by
  obtain ⟨hnone, -⟩ | ⟨stamp, stamp', ids, -, htable, -⟩ := upsert_answered_ends h
  · cases hnone
  · have hfind := find_upserted w.table (enforce_auto_trade_safety spelled m) stamp stamp'
      (w.table.find m.canonical_id)
    rw [← htable] at hfind
    obtain he | he := enforce_eq spelled m <;> rw [he] at hfind <;> exact ⟨_, hfind, rfl, rfl⟩

/-- An update of a status that comes through writes the note. -/
theorem update_status_note {id : String} {m : MarketMapping} {new_note : String}
    {updated : Option MarketMapping} {w w' : World} (hm : w.table.find id = some m)
    (h : Raising.Ends (store_env.restrict Answered)
      (update_status spelled id m.status new_note none) w (some updated) w') :
    ∃ m', w'.table.find id = some m' ∧ m'.notes = m.notes ∧ m'.review_note = new_note := by
  obtain ⟨found, w₁, hget, hrest⟩ | ⟨hnone, -⟩ := Raising.ends_bind.1 h
  · obtain ⟨hfound, rfl⟩ := get_answered hm hget
    cases hfound
    obtain ⟨upserted, w₂, hupsert, hlast⟩ | ⟨hnone, -⟩ := Raising.ends_bind.1 hrest
    · obtain ⟨-, rfl⟩ := Raising.ends_pure.1 hlast
      have hnotes := upsert_notes hupsert
      rwa [show MarketMapping.canonical_id _ = id from Table.find_key hm] at hnotes
    · cases hnone
  · cases hnone

/-- A turn of the sweep does to the row's note what its gates say. -/
theorem sweep_row_note {sp : Spelling} {settings : ReleaseSettings} {id : String}
    {reads : SweepReads} {m : MarketMapping} {released released' : List String} {w w' : World}
    (hm : w.table.find id = some m)
    (h : Raising.Ends (store_env.restrict Answered)
      (sweep_row sp settings released (id, reads)) w (some released') w') :
    ∃ m', w'.table.find id = some m' ∧ m'.notes = m.notes ∧
      m'.review_note = ((sweep_note sp settings reads m).map (·.1)).getD m.review_note ∧
      released' = released ++
        if ((sweep_note sp settings reads m).map (·.2)).getD false then [id] else [] := by
  obtain ⟨tried, w₁, hget, hrest⟩ | ⟨hnone, -⟩ := Raising.ends_bind.1 h
  · obtain ⟨found, htried, hget⟩ := Raising.ends_attempt.1 hget
    obtain ⟨rfl, rfl⟩ := get_answered hm hget
    cases htried
    simp only [Option.join_some] at hrest
    -- without a new note the row is left alone
    cases hsweep : sweep_note sp settings reads m with
    | none =>
        simp only [hsweep] at hrest
        obtain ⟨hreleased, rfl⟩ := Raising.ends_pure.1 hrest
        cases hreleased
        exact ⟨m, hm, rfl, rfl, by simp⟩
    | some swept =>
        obtain ⟨new_note, releases⟩ := swept
        simp only [hsweep] at hrest
        obtain ⟨updated, w₂, hupdate, hlast⟩ | ⟨hnone, -⟩ := Raising.ends_bind.1 hrest
        · obtain ⟨hreleased, rfl⟩ := Raising.ends_pure.1 hlast
          obtain ⟨m', hm', hnotes, hnote⟩ := update_status_note hm hupdate
          cases hreleased
          refine ⟨m', hm', hnotes, hnote, ?_⟩
          cases releases <;> simp
        · cases hnone
  · cases hnone

end store

/-! ## Section 4: Cycles -/

/-- What a cycle brings for the row: its resolution, and what the sweep reads where the row is
    among the results. -/
structure ReleaseCycle where
  resolution_match_status : String
  reads : Option SweepReads

/-- A row in quarantine: as it is stored, whether the cycles so far passed every gate, the
    last one first, and whether it was released. -/
structure Quarantined where
  row : MarketMapping
  passed : List Bool := []
  released : Bool := false

namespace Quarantined

/-- The consecutive cycles up to the last in which every gate passed. -/
def run (s : Quarantined) : ℕ := (s.passed.takeWhile id).length

end Quarantined

section cycles

variable (sp : Spelling) (settings : ReleaseSettings)

/-- The row as the cycle reads it. -/
def ReleaseCycle.row (cycle : ReleaseCycle) (s : Quarantined) : MarketMapping :=
  { s.row with resolution_match_status := cycle.resolution_match_status }

/-- Every gate passes for the row. -/
def ReleaseCycle.passes (cycle : ReleaseCycle) (s : Quarantined) : Bool :=
  match cycle.reads with
  | none => false
  | some reads =>
      match release_gates sp settings reads (cycle.row s) with
      | .passed _ => true
      | _ => false

/-- The row after the cycle's sweep. -/
def ReleaseCycle.after (cycle : ReleaseCycle) (s : Quarantined) : Quarantined :=
  let swept := cycle.reads.bind fun reads => sweep_note sp settings reads (cycle.row s)
  { row := { cycle.row s with review_note := (swept.map (·.1)).getD s.row.review_note }
    passed := cycle.passes sp settings s :: s.passed
    released := (swept.map (·.2)).getD false }

/-- A cycle counts for the row: it has no tag to be deleted, or it is among the results with
    an identical resolution. -/
def ReleaseCycle.Counts (cycle : ReleaseCycle) (s : Quarantined) : Prop :=
  Tally.find streak_label s.row.review_note.toList = none ∨
    cycle.reads.isSome = true ∧ cycle.resolution_match_status = "identical"

/-- The cycles over a row that carries the marker, until it is released. Its note has no tag
    to begin with. -/
def quarantine (cond : Quarantined → ReleaseCycle → Prop) : System Quarantined ReleaseCycle where
  init s := s.row.marked = true ∧ Untagged s.row.review_note ∧ s.passed = [] ∧ s.released = false
  step s cycle s' := cond s cycle ∧ s.released = false ∧ s' = cycle.after sp settings s

end cycles

section runs

variable {sp : Spelling} {settings : ReleaseSettings} {s : Quarantined} {cycle : ReleaseCycle}

/-- A row that is still held carries the marker and a tag that counts no more cycles than
    have passed; one that is released has passed as many as are needed. -/
structure Counted (settings : ReleaseSettings) (s : Quarantined) : Prop where
  held : s.released = false → s.row.marked = true ∧ TagAtEnd s.row.review_note ∧
    streak_of s.row.review_note ≤ s.run
  freed : s.released = true → settings.needed ≤ s.run

/-- Only a row whose resolution is not identical is passed over. -/
theorem skipped_iff {reads : SweepReads} {m : MarketMapping} :
    release_gates sp settings reads m = .skipped ↔ m.resolution_match_status ≠ "identical" := by
  simp only [release_gates]
  split_ifs <;> simp_all

/-- A note without a tag counts nothing. -/
theorem streak_of_none {note : String} (h : Tally.find streak_label note.toList = none) :
    streak_of note = 0 := by
  rw [streak_of, h, Option.getD_none]

/-- A row keeps its marker with its notes. -/
theorem marked_of_notes {m m' : MarketMapping} (hm : m.marked = true) (hnotes : m'.notes = m.notes)
    (hnote : Text.occurs MarketMapping.no_auto_promote m.review_note = true →
      Text.occurs MarketMapping.no_auto_promote m'.review_note = true) : m'.marked = true := by
  rw [MarketMapping.marked_iff] at hm ⊢
  rw [hnotes]
  exact hm.imp hnote id

/-- A cycle after which the row stays held, where its note is left as it is. -/
theorem Counted.untouched (h : Counted settings s) (hheld : s.released = false)
    (huntagged : Tally.find streak_label s.row.review_note.toList = none) (passed : List Bool) :
    Counted settings ⟨cycle.row s, passed, false⟩ := by
  obtain ⟨hmarked, htag, -⟩ := h.held hheld
  refine ⟨fun _ => ⟨hmarked, htag, ?_⟩, nofun⟩
  exact (streak_of_none huntagged).trans_le (Nat.zero_le _)

/-- A cycle that leaves the note as it is. -/
theorem ReleaseCycle.after_kept
    (h : (cycle.reads.bind fun reads => sweep_note sp settings reads (cycle.row s)) = none) :
    cycle.after sp settings s = ⟨cycle.row s, cycle.passes sp settings s :: s.passed, false⟩ := by
  simp only [ReleaseCycle.after, h, Option.map_none, Option.getD_none]
  rfl

/-- A cycle that writes the note. -/
theorem ReleaseCycle.after_swept (swept : String × Bool)
    (h : (cycle.reads.bind fun reads => sweep_note sp settings reads (cycle.row s)) = some swept) :
    cycle.after sp settings s = ⟨{ cycle.row s with review_note := swept.1 },
      cycle.passes sp settings s :: s.passed, swept.2⟩ := by
  simp only [ReleaseCycle.after, h, Option.map_some, Option.getD_some]

/-- A cycle that counts for the row keeps what its tag counts. -/
theorem Counted.after (h : Counted settings s) (hheld : s.released = false)
    (hcounts : cycle.Counts s) : Counted settings (cycle.after sp settings s) := by
  obtain ⟨hmarked, htag, hstreak⟩ := h.held hheld
  have hrow : (cycle.row s).marked = true := hmarked
  cases hreads : cycle.reads with
  | none =>
      obtain huntagged | ⟨hsome, -⟩ := hcounts
      · rw [ReleaseCycle.after_kept (by rw [hreads, Option.bind_none])]
        exact h.untouched hheld huntagged _
      · rw [hreads] at hsome
        cases hsome
  | some reads =>
      cases hgates : release_gates sp settings reads (cycle.row s) with
      | skipped =>
          obtain huntagged | ⟨-, hidentical⟩ := hcounts
          · rw [ReleaseCycle.after_kept (by simp [hreads, sweep_note, hrow, hgates])]
            exact h.untouched hheld huntagged _
          · exact absurd hidentical (skipped_iff.mp hgates)
      | failed =>
          cases hfind : Tally.find streak_label s.row.review_note.toList with
          | none =>
              have hkept : (cycle.row s).review_note = s.row.review_note := rfl
              rw [ReleaseCycle.after_kept (by simp [hreads, sweep_note, hrow, hgates, hkept, hfind])]
              exact h.untouched hheld hfind _
          | some streak =>
              have hkept : (cycle.row s).review_note = s.row.review_note := rfl
              rw [ReleaseCycle.after_swept (strip_streak s.row.review_note, false)
                (by simp [hreads, sweep_note, hrow, hgates, hkept, hfind])]
              obtain ⟨huntagged, hmark⟩ := htag.stripped
              refine ⟨fun _ => ⟨marked_of_notes hmarked rfl hmark, .inl huntagged, ?_⟩, nofun⟩
              exact huntagged.streak.trans_le (Nat.zero_le _)
      | passed divergence =>
          have hkept : (cycle.row s).review_note = s.row.review_note := rfl
          have hpasses : cycle.passes sp settings s = true := by
            simp only [ReleaseCycle.passes, hreads, hgates]
          -- the run of passing cycles is one longer, and so is the count
          have hrun (row : MarketMapping) (released : Bool) :
              (⟨row, true :: s.passed, released⟩ : Quarantined).run = s.run + 1 := by
            simp [Quarantined.run]
          by_cases hneeded : streak_of s.row.review_note + 1 < settings.needed
          · rw [ReleaseCycle.after_swept
              (with_streak s.row.review_note (streak_of s.row.review_note + 1) settings.needed,
                false)
              (by simp [hreads, sweep_note, hrow, hgates, hkept, hneeded]), hpasses]
            obtain ⟨htag', hstreak', hmark⟩ :=
              htag.tagged (streak_of s.row.review_note + 1) settings.needed
            refine ⟨fun _ => ⟨marked_of_notes hmarked rfl hmark, htag', ?_⟩, nofun⟩
            rw [hrun]
            exact hstreak'.trans_le (Nat.succ_le_succ hstreak)
          · rw [ReleaseCycle.after_swept
              (released_note sp settings s.row.review_note reads.stamp divergence, true)
              (by simp [hreads, sweep_note, hrow, hgates, hkept, hneeded]), hpasses]
            refine ⟨nofun, fun _ => ?_⟩
            have hlimit : settings.needed ≤ streak_of s.row.review_note + 1 := not_lt.mp hneeded
            rw [hrun]
            exact hlimit.trans (Nat.succ_le_succ hstreak)

/-- In a run whose cycles all count for the row, it is released, or loses its marker, only
    after as many consecutive cycles that pass every gate as are needed; its tag never
    counts more than these. -/
theorem released_after_streak
    (hr : Reachable (quarantine sp settings fun s cycle => cycle.Counts s) s) :
    (s.released = true ∨ s.row.marked = false → settings.needed ≤ s.run) ∧
      (s.released = false → streak_of s.row.review_note ≤ s.run) := by
  have hinv : Invariant (quarantine sp settings fun s cycle => cycle.Counts s)
      (Counted settings) := by
    refine Invariant.of_step ?_ ?_
    · rintro s ⟨hmarked, huntagged, -, hheld⟩
      refine ⟨fun _ => ⟨hmarked, .inl huntagged, ?_⟩, fun hfreed => ?_⟩
      · exact huntagged.streak.trans_le (Nat.zero_le _)
      · rw [hheld] at hfreed
        cases hfreed
    · rintro s cycle _ h ⟨hcounts, hheld, rfl⟩
      exact h.after hheld hcounts
  have h := hinv s hr
  refine ⟨?_, fun hheld => (h.held hheld).2.2⟩
  rintro (hfreed | hunmarked)
  · exact h.freed hfreed
  · cases hreleased : s.released with
    | true => exact h.freed hreleased
    | false =>
        rw [(h.held hreleased).1] at hunmarked
        cases hunmarked

end runs

/-! ### A run of two cycles -/

/-- A row in quarantine. -/
def quarantined_row : MarketMapping := { traded_row with
  status := .candidate
  allow_auto_trade := false
  review_note := "[no-auto-promote] held" }

/-- Two cycles are needed. -/
def two_cycles : ReleaseSettings where
  quarantine_auto_release_enabled := true
  quarantine_release_cycles := 2

/-- Two venues that agree, and reviewers that do. -/
def agreeing : SweepReads where
  platforms := []
  quotes := some [⟨2 / 5, 3⟩, ⟨2 / 5, 3⟩]
  llm_verify := fun _ _ => some "YES"
  stamp := "2026-08-03"

/-- A cycle in which every gate passes. -/
def passing_cycle : ReleaseCycle := ⟨"identical", some agreeing⟩

/-- A cycle in which the resolution waits for an operator. -/
def pending_cycle : ReleaseCycle := ⟨"pending_operator_review", some agreeing⟩

/-- The state after the cycles, the last one first. -/
def after_cycles : List ReleaseCycle → Quarantined
  | [] => ⟨quarantined_row, [], false⟩
  | cycle :: cycles => cycle.after plain_spelling two_cycles (after_cycles cycles)

theorem reachable_nil {cond : Quarantined → ReleaseCycle → Prop} :
    Reachable (quarantine plain_spelling two_cycles cond) (after_cycles []) :=
  .init ⟨by decide, by unfold Untagged Tally.Free; decide, rfl, rfl⟩

theorem reachable_cons {cond : Quarantined → ReleaseCycle → Prop} {cycle : ReleaseCycle}
    {cycles : List ReleaseCycle}
    (hr : Reachable (quarantine plain_spelling two_cycles cond) (after_cycles cycles))
    (hcond : cond (after_cycles cycles) cycle) (hheld : (after_cycles cycles).released = false) :
    Reachable (quarantine plain_spelling two_cycles cond) (after_cycles (cycle :: cycles)) :=
  .step (l := cycle) hr ⟨hcond, hheld, rfl⟩

/-- A row whose cycles all pass is released after two. -/
theorem released_after_streak_two :
    Reachable (quarantine plain_spelling two_cycles fun s cycle => cycle.Counts s)
        (after_cycles [passing_cycle, passing_cycle]) ∧
      (after_cycles [passing_cycle, passing_cycle]).released = true ∧
      two_cycles.needed ≤ (after_cycles [passing_cycle, passing_cycle]).run := by
  have hr : Reachable (quarantine plain_spelling two_cycles fun s cycle => cycle.Counts s)
      (after_cycles [passing_cycle, passing_cycle]) := by
    refine reachable_cons (reachable_cons reachable_nil (.inr ⟨rfl, rfl⟩) rfl) (.inr ⟨rfl, rfl⟩) ?_
    decide +kernel
  have hreleased : (after_cycles [passing_cycle, passing_cycle]).released = true := by
    decide +kernel
  exact ⟨hr, hreleased, (released_after_streak hr).1 (.inl hreleased)⟩

/-- A cycle whose resolution is pending does not reset the count: the row is released after
    one cycle that passed since. -/
theorem released_after_skip :
    Reachable (quarantine plain_spelling two_cycles fun _ _ => True)
        (after_cycles [passing_cycle, pending_cycle, passing_cycle]) ∧
      (after_cycles [passing_cycle, pending_cycle, passing_cycle]).released = true ∧
      (after_cycles [passing_cycle, pending_cycle, passing_cycle]).row.marked = false ∧
      (after_cycles [passing_cycle, pending_cycle, passing_cycle]).run < two_cycles.needed := by
  have hr : Reachable (quarantine plain_spelling two_cycles fun _ _ => True)
      (after_cycles [passing_cycle, pending_cycle, passing_cycle]) := by
    refine reachable_cons (reachable_cons (reachable_cons reachable_nil trivial rfl) trivial ?_)
      trivial ?_
    · decide +kernel
    · decide +kernel
  refine ⟨hr, ?_, ?_, ?_⟩
  · decide +kernel
  · decide +kernel
  · decide +kernel

end Mapping
