import Arbiter.Framework.Text
import Arbiter.Scanner.Scan

/-! # Publishing

  An opportunity is published once it has been built by enough scans in a row, and not again
  for half a minute. The scanner counts the scans and remembers the times by the key of the
  opportunity, and forgets both when a scan does not build it: one that is missed by a single
  scan comes back without the time of its last publication.

  ## Contents

  - Section 1: what a scan builds, and what it offers.
  - Section 2: what a scan leaves.
  - Section 3: keys tell opportunities apart.
  - Section 4: built in a row.
  - Section 5: half a minute apart.
-/

namespace Scanner

open Execution (OppStatus)

/-! ## Section 1: What a scan builds -/

/-- The opportunities a scan builds, each with the mapping of its market, in order. -/
def built_by (cfg : ScannerConfig) (markets : List Market) :
    List (Mapping × ArbitrageOpportunity) :=
  (scan_pairs markets).filterMap fun p =>
    (p.1.build cfg p.2.1 p.2.2).map fun built => (p.1.mapping, built)

/-- The keys of what a scan builds. -/
def built_keys (cfg : ScannerConfig) (markets : List Market) : List String :=
  (built_by cfg markets).map fun b => b.2.key

/-- What a scan makes of an opportunity it has built, starting at `s`: its status, after one more
    scan in a row. -/
def ScannerState.resolve (s : ScannerState) (cfg : ScannerConfig)
    (b : Mapping × ArbitrageOpportunity) : ArbitrageOpportunity :=
  resolved cfg b.1 (s.stable_keys b.2.key + 1) b.2

/-- It may be traded, by the executor or by hand. -/
def Offered (opp : ArbitrageOpportunity) : Prop := opp.status = .tradable ∨ opp.status = .manual

instance (opp : ArbitrageOpportunity) : Decidable (Offered opp) :=
  inferInstanceAs (Decidable (_ ∨ _))

/-- What is published of it. -/
def ScannerState.publish (s : ScannerState) (cfg : ScannerConfig)
    (b : Mapping × ArbitrageOpportunity) : Option ArbitrageOpportunity :=
  if Offered (s.resolve cfg b) ∧ s.should_publish (s.resolve cfg b) then some (s.resolve cfg b)
  else none

/-- What a scan publishes, newest first. -/
def ScannerState.publications (s : ScannerState) (cfg : ScannerConfig) (markets : List Market) :
    List ArbitrageOpportunity :=
  ((built_by cfg markets).filterMap (s.publish cfg)).reverse

section scan

variable {cfg : ScannerConfig} {markets : List Market} {s : ScannerState}
         {b : Mapping × ArbitrageOpportunity} {opp : ArbitrageOpportunity}

@[simp] theorem resolve_key : (s.resolve cfg b).key = b.2.key := rfl

@[simp] theorem resolve_timestamp : (s.resolve cfg b).timestamp = b.2.timestamp := rfl

theorem publish_eq_some_iff : s.publish cfg b = some opp ↔
    opp = s.resolve cfg b ∧ Offered opp ∧ s.should_publish opp = true := by
  unfold ScannerState.publish
  constructor
  · intro h
    split at h
    · next hoffered =>
      obtain rfl := Option.some.inj h
      exact ⟨rfl, hoffered⟩
    · cases h
  · rintro ⟨rfl, hoffered⟩
    exact if_pos hoffered

theorem mem_publications : opp ∈ s.publications cfg markets ↔
    ∃ b ∈ built_by cfg markets, s.publish cfg b = some opp := by
  rw [ScannerState.publications, List.mem_reverse, List.mem_filterMap]

/-- An opportunity is published when the scanner remembers no time, or an old one. -/
theorem should_publish_iff : s.should_publish opp = true ↔
    s.recent_publish_time opp.key = 0 ∨
      30 ≤ opp.timestamp - s.recent_publish_time opp.key := by
  simp [ScannerState.should_publish]

/-- An opportunity is counted and listed. -/
def Progress.list (t : Progress) (opp : ArbitrageOpportunity) (count : ℕ) : Progress :=
  { t with
      seen_keys := opp.key :: t.seen_keys
      stable_keys := Function.update t.stable_keys opp.key count
      opportunities := t.opportunities ++ [opp] }

/-- An opportunity is published. -/
def Progress.offer (t : Progress) (opp : ArbitrageOpportunity) : Progress :=
  { t with
      recent_publish_time := Function.update t.recent_publish_time opp.key opp.timestamp
      published := opp :: t.published }

theorem consider_eq_ite (t : Progress) (mapping : Mapping) (built : ArbitrageOpportunity) :
    t.consider cfg mapping built =
      let count := t.stable_keys built.key + 1
      let opp := resolved cfg mapping count built
      if Offered opp ∧ (t.list opp count).should_publish opp then (t.list opp count).offer opp
      else t.list opp count :=
  rfl

/-- A scan goes through what it builds. -/
theorem foldl_pair_eq (s : Progress) :
    (scan_pairs markets).foldl (Progress.pair cfg) s =
      (built_by cfg markets).foldl (fun s b => s.consider cfg b.1 b.2) s := by
  rw [built_by, List.foldl_filterMap]
  congr 1
  funext s p
  rw [Progress.pair]
  cases p.1.build cfg p.2.1 p.2.2 <;> rfl

/-! ## Section 2: What a scan leaves -/

/-- The scanner in the middle of a scan that began at `s`, having gone through `l`. -/
structure Progress.Through (cfg : ScannerConfig) (s : ScannerState)
    (l : List (Mapping × ArbitrageOpportunity)) (t : Progress) : Prop where
  seen : ∀ key, key ∈ t.seen_keys ↔ key ∈ l.map fun b => b.2.key
  stable : ∀ key, t.stable_keys key =
    if key ∈ l.map fun b => b.2.key then s.stable_keys key + 1 else s.stable_keys key
  published : t.published = (l.filterMap (s.publish cfg)).reverse ++ s.published
  /-- The time of what was published is remembered, the others are as they were. -/
  recent : ∀ b ∈ l, t.recent_publish_time b.2.key =
    if (s.publish cfg b).isSome then b.2.timestamp else s.recent_publish_time b.2.key
  untouched : ∀ key, key ∉ l.map (fun b => b.2.key) →
    t.recent_publish_time key = s.recent_publish_time key

/-- An opportunity whose key is new in this scan is counted, and published as from the start. -/
theorem Progress.Through.consider_eq {l : List (Mapping × ArbitrageOpportunity)} {t : Progress}
    (h : t.Through cfg s l) (hnew : b.2.key ∉ l.map fun b => b.2.key) :
    (t.consider cfg b.1 b.2).seen_keys = b.2.key :: t.seen_keys ∧
      (t.consider cfg b.1 b.2).stable_keys =
        Function.update t.stable_keys b.2.key (s.stable_keys b.2.key + 1) ∧
      (t.consider cfg b.1 b.2).published = (s.publish cfg b).toList ++ t.published ∧
      (t.consider cfg b.1 b.2).recent_publish_time =
        if (s.publish cfg b).isSome then
          Function.update t.recent_publish_time b.2.key b.2.timestamp
        else t.recent_publish_time := by
  have hstable : t.stable_keys b.2.key = s.stable_keys b.2.key := by rw [h.stable, if_neg hnew]
  have hshould (u : ScannerState) (hu : u.recent_publish_time = t.recent_publish_time) :
      u.should_publish (s.resolve cfg b) = s.should_publish (s.resolve cfg b) := by
    rw [Bool.eq_iff_iff, should_publish_iff, should_publish_iff, resolve_key, hu,
      h.untouched _ hnew]
  obtain ⟨u, hu⟩ : ∃ u, u = t.list (s.resolve cfg b) (s.stable_keys b.2.key + 1) := ⟨_, rfl⟩
  have hconsider : t.consider cfg b.1 b.2 =
      if Offered (s.resolve cfg b) ∧ s.should_publish (s.resolve cfg b) then
        u.offer (s.resolve cfg b) else u := by
    rw [← hshould u.toScannerState (by rw [hu]; rfl), hu, consider_eq_ite, hstable]
    rfl
  rw [hconsider]
  by_cases hpub : Offered (s.resolve cfg b) ∧ s.should_publish (s.resolve cfg b)
  · have hsome : s.publish cfg b = some (s.resolve cfg b) := if_pos hpub
    rw [if_pos hpub, hsome, hu]
    exact ⟨rfl, rfl, rfl, rfl⟩
  · have hnone : s.publish cfg b = none := if_neg hpub
    rw [if_neg hpub, hnone, hu]
    exact ⟨rfl, rfl, rfl, rfl⟩

/-- The step: what has been gone through grows by it. -/
theorem Progress.Through.consider {l : List (Mapping × ArbitrageOpportunity)} {t : Progress}
    (h : t.Through cfg s l) (hnew : b.2.key ∉ l.map fun b => b.2.key) :
    (t.consider cfg b.1 b.2).Through cfg s (l ++ [b]) := by
  obtain ⟨hseen, hstable, hpublished, hrecent⟩ := h.consider_eq hnew
  have hmem (key : String) : key ∈ (l ++ [b]).map (fun b => b.2.key) ↔
      key ∈ l.map (fun b => b.2.key) ∨ key = b.2.key := by simp [or_comm]
  constructor
  · intro key
    rw [hseen, List.mem_cons, h.seen, hmem, or_comm]
  · intro key
    rw [hstable]
    by_cases hkey : key = b.2.key
    · rw [hkey, Function.update_self, if_pos ((hmem _).mpr (.inr rfl))]
    · have hiff : key ∈ (l ++ [b]).map (fun b => b.2.key) ↔ key ∈ l.map fun b => b.2.key := by
        rw [hmem, or_iff_left hkey]
      rw [Function.update_of_ne hkey, h.stable]
      simp only [hiff]
  · rw [hpublished, h.published, List.filterMap_append, List.reverse_append]
    cases hpub : s.publish cfg b with
    | none => simp [hpub]
    | some opp => simp [hpub]
  -- what is recent of a key is written in its own turn, and in no other
  · intro c hc
    rw [hrecent]
    rcases List.mem_append.mp hc with hold | hlast
    · have hne : c.2.key ≠ b.2.key := fun heq => hnew (heq ▸ List.mem_map_of_mem hold)
      rw [← h.recent c hold]
      split
      · exact Function.update_of_ne hne _ _
      · rfl
    · obtain rfl := List.mem_singleton.mp hlast
      split
      · exact Function.update_self _ _ _
      · exact h.untouched _ hnew
  · intro key hkey
    rw [hmem, not_or] at hkey
    rw [hrecent, ← h.untouched key hkey.1]
    split
    · exact Function.update_of_ne hkey.2 _ _
    · rfl

/-- The scan: all it has built, if no two have one key. -/
theorem through_foldl {l rest : List (Mapping × ArbitrageOpportunity)} {t : Progress}
    (h : t.Through cfg s l) (hdistinct : ((l ++ rest).map fun b => b.2.key).Nodup) :
    (rest.foldl (fun s b => s.consider cfg b.1 b.2) t).Through cfg s (l ++ rest) := by
  induction rest generalizing l t with
  | nil => simpa using h
  | cons b rest ih =>
    have hnew : b.2.key ∉ l.map fun b => b.2.key := by
      rw [List.map_append, List.map_cons, List.nodup_append] at hdistinct
      intro hmem
      exact hdistinct.2.2 _ hmem _ List.mem_cons_self rfl
    rw [List.append_cons] at hdistinct ⊢
    exact ih (h.consider hnew) hdistinct

/-- **What a scan leaves**, if no two opportunities it builds have one key. -/
structure Scanned (cfg : ScannerConfig) (markets : List Market) (s s' : ScannerState) : Prop where
  stable : ∀ key, s'.stable_keys key =
    if key ∈ built_keys cfg markets then s.stable_keys key + 1 else 0
  published : s'.published = s.publications cfg markets ++ s.published
  recent : ∀ b ∈ built_by cfg markets, s'.recent_publish_time b.2.key =
    if (s.publish cfg b).isSome then b.2.timestamp else s.recent_publish_time b.2.key
  forgotten : ∀ key, key ∉ built_keys cfg markets → s'.recent_publish_time key = 0

theorem scan_once_scanned (hdistinct : (built_keys cfg markets).Nodup) :
    Scanned cfg markets s (scan_once cfg markets s) := by
  have hstart : ({ s with opportunities := [], seen_keys := [] } : Progress).Through cfg s [] :=
    ⟨fun key => Iff.rfl, fun key => rfl, rfl, fun b hb => absurd hb List.not_mem_nil,
      fun key _ => rfl⟩
  have hdone : Progress.Through cfg s (built_by cfg markets)
      ((built_by cfg markets).foldl (fun s b => s.consider cfg b.1 b.2) _) :=
    through_foldl hstart hdistinct
  rw [← foldl_pair_eq] at hdone
  constructor
  · intro key
    show (if _ then _ else _) = _
    simp only [hdone.seen, hdone.stable]
    unfold built_keys
    split
    · rfl
    · rfl
  · exact hdone.published
  · intro b hb
    have hkey : b.2.key ∈ (built_by cfg markets).map fun b => b.2.key := List.mem_map_of_mem hb
    show (if _ then _ else _) = _
    rw [if_pos ((hdone.seen _).mpr hkey)]
    exact hdone.recent b hb
  · intro key hkey
    exact if_neg fun hseen => hkey ((hdone.seen key).mp hseen)

end scan

/-! ## Section 3: Keys -/

section keys

/-- No colon occurs in the text. -/
def Plain (text : String) : Prop := ':' ∉ text.toList

instance (text : String) : Decidable (Plain text) := inferInstanceAs (Decidable (¬ _))

/-- The ids of a price point hold no colon. -/
structure PricePoint.PlainIds (p : PricePoint) : Prop where
  platform : Plain p.platform
  yes_market_id : Plain p.yes_market_id
  no_market_id : Plain p.no_market_id
  raw_market_id : Plain p.raw_market_id

/-- The key of an opportunity names its market and its legs, where the ids hold no colon. -/
theorem pair_of_key {opp opp' : ArbitrageOpportunity}
    (h : Plain opp.no_market_id ∧ Plain opp.yes_market_id ∧ Plain opp.no_platform ∧
      Plain opp.yes_platform)
    (h' : Plain opp'.no_market_id ∧ Plain opp'.yes_market_id ∧ Plain opp'.no_platform ∧
      Plain opp'.yes_platform) (hkey : opp.key = opp'.key) :
    opp.canonical_id = opp'.canonical_id ∧ opp.yes_platform = opp'.yes_platform ∧
      opp.no_platform = opp'.no_platform := by
  obtain ⟨hrest, -⟩ := Text.append_sep_inj rfl h.1 h'.1 hkey
  obtain ⟨hrest, -⟩ := Text.append_sep_inj rfl h.2.1 h'.2.1 hrest
  obtain ⟨hrest, hno⟩ := Text.append_sep_inj rfl h.2.2.1 h'.2.2.1 hrest
  obtain ⟨hid, hyes⟩ := Text.append_sep_inj rfl h.2.2.2 h'.2.2.2 hrest
  exact ⟨hid, hyes, hno⟩

theorem plain_or_text {a b : String} (ha : Plain a) (hb : Plain b) : Plain (or_text a b) := by
  unfold or_text
  split
  · exact hb
  · exact ha

/-- What is built of a pair is of its market and its venues, at the time it is built. -/
theorem build_names {cfg : ScannerConfig} {m : Market} {yes no : PricePoint}
    {built : ArbitrageOpportunity} (h : m.build cfg yes no = some built) :
    built.canonical_id = m.canonical_id ∧ built.yes_platform = yes.platform ∧
      built.no_platform = no.platform ∧ built.timestamp = m.now yes no ∧
      built.yes_market_id = or_text yes.yes_market_id yes.raw_market_id ∧
      built.no_market_id = or_text no.no_market_id no.raw_market_id := by
  obtain ⟨-, rfl⟩ := build_eq_some_iff.1 h
  exact ⟨rfl, rfl, rfl, rfl, rfl, rfl⟩

theorem build_plain {cfg : ScannerConfig} {m : Market} {yes no : PricePoint}
    {built : ArbitrageOpportunity} (h : m.build cfg yes no = some built) (hyes : yes.PlainIds)
    (hno : no.PlainIds) : Plain built.no_market_id ∧ Plain built.yes_market_id ∧
      Plain built.no_platform ∧ Plain built.yes_platform := by
  obtain ⟨-, hyes_platform, hno_platform, -, hyes_id, hno_id⟩ := build_names h
  rw [hyes_platform, hno_platform, hyes_id, hno_id]
  exact ⟨plain_or_text hno.no_market_id hno.raw_market_id,
    plain_or_text hyes.yes_market_id hyes.raw_market_id, hno.platform, hyes.platform⟩

/-- The ordered pairs of a market are different ones. -/
theorem pairs_nodup (m : Market) : m.pairs.Nodup := by
  have hprices := m.distinct.of_map
  exact (hprices.product hprices).filter _

/-- **No two opportunities of a scan have one key**, where no id holds a colon and the markets
    are those of a dictionary. -/
theorem built_keys_nodup {cfg : ScannerConfig} {markets : List Market}
    (hmarkets : (markets.map Market.canonical_id).Nodup)
    (hplain : ∀ m ∈ markets, ∀ p ∈ m.prices, p.PlainIds) : (built_keys cfg markets).Nodup := by
  have hkeys : built_keys cfg markets = (scan_pairs markets).filterMap fun p =>
      (p.1.build cfg p.2.1 p.2.2).map ArbitrageOpportunity.key := by
    rw [built_keys, built_by, List.map_filterMap]
    congr 1
    funext p
    rw [Option.map_map]
    rfl
  rw [hkeys]
  have hpairs : (scan_pairs markets).Nodup := by
    have hmarkets' := hmarkets.of_map
    rw [scan_pairs, List.nodup_flatMap]
    constructor
    · intro m _
      exact (pairs_nodup m).map fun p q hpq => (Prod.mk.inj hpq).2
    · refine (hmarkets'.filter _).imp fun hne => ?_
      rintro ⟨m, pair⟩ hleft hright
      simp only [List.mem_map, Prod.mk.injEq, exists_eq_right_right] at hleft hright
      exact hne (hleft.2.trans hright.2.symm)
  have hapart : (scan_pairs markets).Pairwise fun p q =>
      ∀ key ∈ (p.1.build cfg p.2.1 p.2.2).map ArbitrageOpportunity.key,
      ∀ key' ∈ (q.1.build cfg q.2.1 q.2.2).map ArbitrageOpportunity.key, key ≠ key' := by
    refine hpairs.imp_of_mem fun {p q} hp hq hne key hkey key' hkey' heq => hne ?_
    obtain ⟨m, yes, no⟩ := p
    obtain ⟨m', yes', no'⟩ := q
    obtain ⟨hm, hyes, hno, -⟩ := mem_scan_pairs hp
    obtain ⟨hm', hyes', hno', -⟩ := mem_scan_pairs hq
    obtain ⟨built, hbuilt, rfl⟩ := Option.map_eq_some_iff.mp hkey
    obtain ⟨built', hbuilt', rfl⟩ := Option.map_eq_some_iff.mp hkey'
    -- one key: the same market, and the same venue on each leg
    obtain ⟨hid, hyes_platform, hno_platform⟩ := pair_of_key
      (build_plain hbuilt (hplain m hm yes hyes) (hplain m hm no hno))
      (build_plain hbuilt' (hplain m' hm' yes' hyes') (hplain m' hm' no' hno')) heq
    have hnames := build_names hbuilt
    have hnames' := build_names hbuilt'
    rw [hnames.1, hnames'.1] at hid
    obtain rfl := List.inj_on_of_nodup_map hmarkets hm hm' hid
    rw [hnames.2.1, hnames'.2.1] at hyes_platform
    rw [hnames.2.2.1, hnames'.2.2.1] at hno_platform
    rw [List.inj_on_of_nodup_map m.distinct hyes hyes' hyes_platform,
      List.inj_on_of_nodup_map m.distinct hno hno' hno_platform]
  exact hapart.filterMap _ fun p q h => h

/-- `built_keys_nodup` of one market. -/
theorem built_keys_nodup_house : (built_keys one_scan_config [house_market]).Nodup := by
  refine built_keys_nodup (by decide) fun m hm p hp => ?_
  rw [List.mem_singleton.mp hm] at hp
  rcases List.mem_pair.mp hp with rfl | rfl
  · exact ⟨by decide, by decide, by decide, by decide⟩
  · exact ⟨by decide, by decide, by decide, by decide⟩

end keys

/-! ## Section 4: Built in a row -/

/-- The scanner before the `i`th scan of a sequence. -/
def scanner_at (cfg : ScannerConfig) (scans : List (List Market)) (i : ℕ) : ScannerState :=
  (scans.take i).foldl (fun s markets => scan_once cfg markets s) ⟨fun _ => 0, fun _ => 0, [], []⟩

/-- The `i`th scan publishes the opportunity. -/
def PublishedIn (cfg : ScannerConfig) (scans : List (List Market)) (i : ℕ)
    (opp : ArbitrageOpportunity) : Prop :=
  ∃ new, (scanner_at cfg scans (i + 1)).published = new ++ (scanner_at cfg scans i).published ∧
    opp ∈ new

/-- The `i`th scan builds an opportunity with the key. -/
def BuiltIn (cfg : ScannerConfig) (scans : List (List Market)) (i : ℕ) (key : String) : Prop :=
  ∃ markets, scans[i]? = some markets ∧ key ∈ built_keys cfg markets

section sequence

variable {cfg : ScannerConfig} {scans : List (List Market)} {i : ℕ} {markets : List Market}
         {opp : ArbitrageOpportunity} {key : String}

theorem scanner_at_succ (h : scans[i]? = some markets) :
    scanner_at cfg scans (i + 1) = scan_once cfg markets (scanner_at cfg scans i) := by
  obtain ⟨hi, rfl⟩ := List.getElem?_eq_some_iff.mp h
  rw [scanner_at, List.take_add_one, List.getElem?_eq_getElem hi, List.foldl_append]
  rfl

theorem scanner_at_of_length_le (h : scans.length ≤ i) :
    scanner_at cfg scans i = scanner_at cfg scans scans.length := by
  rw [scanner_at, scanner_at, List.take_of_length_le h, List.take_length]

/-- A scan of the sequence, and what it leaves. -/
theorem scanned_at (hdistinct : ∀ markets ∈ scans, (built_keys cfg markets).Nodup)
    (h : scans[i]? = some markets) :
    Scanned cfg markets (scanner_at cfg scans i) (scanner_at cfg scans (i + 1)) := by
  rw [scanner_at_succ h]
  exact scan_once_scanned (hdistinct markets (List.mem_of_getElem? h))

/-- A scan that publishes something is one of the sequence. -/
theorem published_in_iff (hdistinct : ∀ markets ∈ scans, (built_keys cfg markets).Nodup) :
    PublishedIn cfg scans i opp ↔ ∃ markets, scans[i]? = some markets ∧
      opp ∈ (scanner_at cfg scans i).publications cfg markets := by
  constructor
  · rintro ⟨new, hnew, hopp⟩
    cases hi : scans[i]? with
    | none =>
      rw [List.getElem?_eq_none_iff] at hi
      rw [scanner_at_of_length_le (by omega), scanner_at_of_length_le hi,
        List.self_eq_append_left] at hnew
      rw [hnew] at hopp
      exact absurd hopp List.not_mem_nil
    | some markets =>
      rw [(scanned_at hdistinct hi).published, List.append_cancel_right_eq] at hnew
      exact ⟨markets, rfl, hnew ▸ hopp⟩
  · rintro ⟨markets, hi, hopp⟩
    exact ⟨_, (scanned_at hdistinct hi).published, hopp⟩

/-- The counter counts scans in a row: there have been as many, each with the key. -/
theorem built_of_stable (hdistinct : ∀ markets ∈ scans, (built_keys cfg markets).Nodup)
    (hi : i ≤ scans.length) (key : String) :
    (scanner_at cfg scans i).stable_keys key ≤ i ∧
      ∀ j < i, i ≤ j + (scanner_at cfg scans i).stable_keys key → BuiltIn cfg scans j key := by
  induction i with
  | zero => exact ⟨le_rfl, fun j hj => absurd hj (by omega)⟩
  | succ i ih =>
    obtain ⟨hle, hbuilt⟩ := ih (by omega)
    obtain ⟨markets, hmarkets⟩ : ∃ markets, scans[i]? = some markets :=
      ⟨_, List.getElem?_eq_getElem hi⟩
    rw [(scanned_at hdistinct hmarkets).stable]
    by_cases hkey : key ∈ built_keys cfg markets
    · rw [if_pos hkey]
      refine ⟨by omega, fun j hj hcount => ?_⟩
      rcases Nat.lt_succ_iff_lt_or_eq.mp hj with hlt | rfl
      · exact hbuilt j hlt (by omega)
      · exact ⟨_, hmarkets, hkey⟩
    · -- the row is broken
      rw [if_neg hkey]
      exact ⟨by omega, fun j hj hcount => absurd hcount (by omega)⟩

/-- What may be traded has been seen often enough. -/
theorem persistent_of_offered {s : ScannerState} {b : Mapping × ArbitrageOpportunity}
    (h : Offered (s.resolve cfg b)) : cfg.persistence_scans ≤ s.stable_keys b.2.key + 1 := by
  by_contra hfew
  have hcandidate : ∀ {t : OppStatus}, t = .tradable ∨ t = .manual →
      resolve_status cfg b.1 { b.2 with persistence_count := s.stable_keys b.2.key + 1 } ≠ t := by
    intro t ht heq
    simp only [resolve_status] at heq
    rw [if_pos (not_le.mp hfew)] at heq
    rcases ht with rfl | rfl
    · split_ifs at heq
    · split_ifs at heq
  rcases h with h | h
  · exact hcandidate (.inl rfl) h
  · exact hcandidate (.inr rfl) h

/-- **What is published was built by enough scans in a row.** -/
theorem published_built (hdistinct : ∀ markets ∈ scans, (built_keys cfg markets).Nodup)
    (hpub : PublishedIn cfg scans i opp) :
    cfg.persistence_scans ≤ i + 1 ∧
      ∀ j ≤ i, i < j + cfg.persistence_scans → BuiltIn cfg scans j opp.key := by
  obtain ⟨markets, hi, hopp⟩ := (published_in_iff hdistinct).mp hpub
  obtain ⟨b, hb, hpublish⟩ := mem_publications.mp hopp
  obtain ⟨rfl, hoffered, -⟩ := publish_eq_some_iff.mp hpublish
  have hcount := persistent_of_offered hoffered
  have hkey : b.2.key ∈ built_keys cfg markets := List.mem_map_of_mem hb
  obtain ⟨hlength, -⟩ := List.getElem?_eq_some_iff.mp hi
  obtain ⟨hle, hbuilt⟩ := built_of_stable hdistinct (i := i + 1) (by omega) b.2.key
  rw [(scanned_at hdistinct hi).stable, if_pos hkey] at hle hbuilt
  exact ⟨by omega, fun j hj hrow => hbuilt j (by omega) (by omega)⟩

end sequence

/-! ## Section 5: Half a minute apart -/

/-- What is asked of a sequence of scans: what a scan publishes has been built by it and the
    scans before it, as many as are asked for; and one key is not published twice within half a
    minute. -/
structure Disciplined (cfg : ScannerConfig) (scans : List (List Market)) : Prop where
  persistent : ∀ i opp, PublishedIn cfg scans i opp → cfg.persistence_scans ≤ i + 1 ∧
    ∀ j ≤ i, i < j + cfg.persistence_scans → BuiltIn cfg scans j opp.key
  throttled : (scanner_at cfg scans scans.length).published.Pairwise fun later earlier =>
    later.key = earlier.key → 30 ≤ later.timestamp - earlier.timestamp

/-- In a scan an opportunity that may be traded comes back: it was published less than half a
    minute ago, and the scanner does not remember. -/
def ComesBack (cfg : ScannerConfig) (s : ScannerState) (markets : List Market) : Prop :=
  ∃ b ∈ built_by cfg markets, Offered (s.resolve cfg b) ∧ s.recent_publish_time b.2.key = 0 ∧
    ∃ old ∈ s.published, old.key = b.2.key ∧ b.2.timestamp - old.timestamp < 30

section throttle

variable {cfg : ScannerConfig} {scans : List (List Market)} {i : ℕ} {markets : List Market}
         {opp : ArbitrageOpportunity} {s s' : ScannerState}

/-- What holds between scans: publications of one key are half a minute apart, and a time that
    is remembered is that of the last. -/
structure ScannerState.Throttled (s : ScannerState) : Prop where
  apart : s.published.Pairwise fun later earlier =>
    later.key = earlier.key → 30 ≤ later.timestamp - earlier.timestamp
  last : ∀ opp ∈ s.published, s.recent_publish_time opp.key = 0 ∨
    opp.timestamp ≤ s.recent_publish_time opp.key

/-- A publication is half a minute later than the earlier ones of its key, unless it comes
    back. -/
theorem Throttled.apart_of_published (hs : s.Throttled) (hback : ¬ ComesBack cfg s markets)
    (hopp : opp ∈ s.publications cfg markets) {old : ArbitrageOpportunity}
    (hold : old ∈ s.published) (hkey : opp.key = old.key) :
    30 ≤ opp.timestamp - old.timestamp := by
  obtain ⟨b, hb, hpublish⟩ := mem_publications.mp hopp
  obtain ⟨rfl, hoffered, hshould⟩ := publish_eq_some_iff.mp hpublish
  rcases hs.last old hold with hzero | hle
  · -- the time is forgotten
    rw [← hkey] at hzero
    by_contra hclose
    exact hback ⟨b, hb, hoffered, hzero, old, hold, hkey.symm, not_le.mp hclose⟩
  · rw [← hkey] at hle
    rcases should_publish_iff.mp hshould with hzero | hlong
    · by_contra hclose
      exact hback ⟨b, hb, hoffered, hzero, old, hold, hkey.symm, not_le.mp hclose⟩
    · linarith

/-- The keys of what one scan publishes are different. -/
theorem publications_pairwise (hdistinct : (built_keys cfg markets).Nodup) :
    (s.publications cfg markets).Pairwise fun later earlier => later.key ≠ earlier.key := by
  rw [ScannerState.publications, List.pairwise_reverse]
  have hkeys : (built_by cfg markets).Pairwise fun b c => b.2.key ≠ c.2.key :=
    List.pairwise_map.mp hdistinct
  refine hkeys.filterMap _ fun b c hne opp hopp opp' hopp' heq => hne ?_
  obtain ⟨rfl, -⟩ := publish_eq_some_iff.mp hopp
  obtain ⟨rfl, -⟩ := publish_eq_some_iff.mp hopp'
  exact heq.symm

/-- The step: a scan in which nothing comes back. -/
theorem Throttled.scan (hs : s.Throttled) (hscan : Scanned cfg markets s s')
    (hdistinct : (built_keys cfg markets).Nodup) (hback : ¬ ComesBack cfg s markets) :
    s'.Throttled := by
  constructor
  · rw [hscan.published, List.pairwise_append]
    refine ⟨?_, hs.apart, ?_⟩
    · exact (publications_pairwise hdistinct).imp fun hne heq => absurd heq hne
    · intro opp hopp old hold hkey
      exact Throttled.apart_of_published hs hback hopp hold hkey
  · intro opp hopp
    by_cases hbuilt : opp.key ∈ built_keys cfg markets
    · obtain ⟨b, hb, hkey⟩ := List.mem_map.mp hbuilt
      have hrecent := hscan.recent b hb
      rw [hkey] at hrecent
      rw [hrecent]
      rw [hscan.published, List.mem_append] at hopp
      by_cases hpub : (s.publish cfg b).isSome
      · right
        rw [if_pos hpub]
        obtain ⟨new, hnew⟩ := Option.isSome_iff_exists.mp hpub
        obtain ⟨rfl, -⟩ := publish_eq_some_iff.mp hnew
        rcases hopp with hopp | hold
        · -- it is the one that was published
          obtain ⟨c, hc, hc'⟩ := mem_publications.mp hopp
          obtain ⟨rfl, -⟩ := publish_eq_some_iff.mp hc'
          rw [List.inj_on_of_nodup_map hdistinct hc hb hkey.symm]
          exact le_rfl
        · have hapart := Throttled.apart_of_published hs hback
            (mem_publications.mpr ⟨b, hb, hnew⟩) hold hkey
          rw [resolve_timestamp] at hapart
          linarith
      · rw [if_neg hpub]
        rcases hopp with hopp | hold
        · obtain ⟨c, hc, hc'⟩ := mem_publications.mp hopp
          have hsame : c = b := by
            obtain ⟨rfl, -⟩ := publish_eq_some_iff.mp hc'
            exact List.inj_on_of_nodup_map hdistinct hc hb hkey.symm
          rw [hsame] at hc'
          exact absurd (Option.isSome_iff_exists.mpr ⟨_, hc'⟩) hpub
        · exact hs.last opp hold
    · exact .inl (hscan.forgotten _ hbuilt)

/-- The run: a sequence in which nothing comes back. -/
theorem throttled_at (hdistinct : ∀ markets ∈ scans, (built_keys cfg markets).Nodup)
    (hback : ∀ i markets, scans[i]? = some markets →
      ¬ ComesBack cfg (scanner_at cfg scans i) markets)
    (hi : i ≤ scans.length) : (scanner_at cfg scans i).Throttled := by
  induction i with
  | zero => exact ⟨.nil, fun opp hopp => absurd hopp List.not_mem_nil⟩
  | succ i ih =>
    obtain ⟨markets, hmarkets⟩ : ∃ markets, scans[i]? = some markets :=
      ⟨_, List.getElem?_eq_getElem hi⟩
    exact Throttled.scan (ih (by omega)) (scanned_at hdistinct hmarkets)
      (hdistinct markets (List.mem_of_getElem? hmarkets)) (hback i markets hmarkets)

/-- What has been published stays on the list. -/
theorem published_suffix (hdistinct : ∀ markets ∈ scans, (built_keys cfg markets).Nodup)
    {j : ℕ} (hij : i ≤ j) (hj : j ≤ scans.length) :
    (scanner_at cfg scans i).published <:+ (scanner_at cfg scans j).published := by
  induction j, hij using Nat.le_induction with
  | base => exact List.suffix_rfl
  | succ j hij ih =>
    obtain ⟨markets, hmarkets⟩ : ∃ markets, scans[j]? = some markets :=
      ⟨_, List.getElem?_eq_getElem hj⟩
    rw [(scanned_at hdistinct hmarkets).published]
    exact (ih (by omega)).trans (List.suffix_append _ _)

/-- **When publishing is disciplined**: exactly when no opportunity comes back. -/
theorem disciplined_iff (hdistinct : ∀ markets ∈ scans, (built_keys cfg markets).Nodup) :
    Disciplined cfg scans ↔ ∀ i markets, scans[i]? = some markets →
      ¬ ComesBack cfg (scanner_at cfg scans i) markets := by
  constructor
  · rintro hall i markets hmarkets ⟨b, hb, hoffered, hzero, old, hold, hkey, hclose⟩
    -- it is published again
    have hpublish : (scanner_at cfg scans i).publish cfg b =
        some ((scanner_at cfg scans i).resolve cfg b) :=
      if_pos ⟨hoffered, should_publish_iff.mpr (.inl hzero)⟩
    have hnew := mem_publications.mpr ⟨b, hb, hpublish⟩
    obtain ⟨hi, -⟩ := List.getElem?_eq_some_iff.mp hmarkets
    have hlist := hall.throttled.sublist
      (published_suffix hdistinct (i := i + 1) (by omega) le_rfl).sublist
    rw [(scanned_at hdistinct hmarkets).published, List.pairwise_append] at hlist
    exact absurd (hlist.2.2 _ hnew old hold hkey.symm) (not_le.mpr hclose)
  · intro hback
    exact ⟨fun i opp hpub => published_built hdistinct hpub,
      (throttled_at hdistinct hback le_rfl).apart⟩

/-- What the scanner has forgotten, some scan since has not built: no time is zero. -/
theorem missed_of_forgotten (hdistinct : ∀ markets ∈ scans, (built_keys cfg markets).Nodup)
    (hclock : ∀ markets ∈ scans, ∀ b ∈ built_by cfg markets, b.2.timestamp ≠ 0)
    {j : ℕ} (hpub : PublishedIn cfg scans j opp) (hij : j < i) (hi : i ≤ scans.length)
    (hzero : (scanner_at cfg scans i).recent_publish_time opp.key = 0) :
    ∃ m, j < m ∧ m < i ∧ ¬ BuiltIn cfg scans m opp.key := by
  by_contra hnone
  have hnonzero : (scanner_at cfg scans i).recent_publish_time opp.key ≠ 0 := by
    clear hzero
    induction i, hij using Nat.le_induction with
    | base =>
      obtain ⟨markets, hmarkets, hopp⟩ := (published_in_iff hdistinct).mp hpub
      obtain ⟨b, hb, hpublish⟩ := mem_publications.mp hopp
      obtain ⟨rfl, -⟩ := publish_eq_some_iff.mp hpublish
      rw [resolve_key, (scanned_at hdistinct hmarkets).recent b hb, hpublish]
      exact hclock markets (List.mem_of_getElem? hmarkets) b hb
    | succ i hij ih =>
      have hbuilt : BuiltIn cfg scans i opp.key := by
        by_contra hmissed
        exact hnone ⟨i, hij, by omega, hmissed⟩
      obtain ⟨markets, hmarkets, hkey⟩ := hbuilt
      obtain ⟨b, hb, hbkey⟩ := List.mem_map.mp hkey
      rw [← hbkey, (scanned_at hdistinct hmarkets).recent b hb]
      split
      · exact hclock markets (List.mem_of_getElem? hmarkets) b hb
      · rw [hbkey]
        refine ih (by omega) fun ⟨m, hjm, hmi, hmissed⟩ => ?_
        exact hnone ⟨m, hjm, by omega, hmissed⟩
  exact hnonzero hzero

end throttle

/-! ### A market that flickers -/

/-- The house at a time. -/
def house_at (now : ℚ) : Market := { house_market with now := fun _ _ => now }

/-- It is there, then for one scan it is not, and two seconds after the first it is again. -/
def flickering_scans : List (List Market) := [[house_at 1000], [], [house_at 1002]]

/-- It is published in the first scan and in the third. -/
theorem flickering_published_twice :
    (∀ markets ∈ flickering_scans, (built_keys one_scan_config markets).Nodup) ∧
      ¬ Disciplined one_scan_config flickering_scans := by
  constructor
  · decide +kernel
  · intro hall
    have hapart := hall.throttled
    revert hapart
    decide +kernel

/-- The house in three scans, two seconds and a minute later. -/
def steady_scans : List (List Market) := [[house_at 1000], [house_at 1002], [house_at 1060]]

/-- `disciplined_iff` of three scans that all build it. -/
theorem disciplined_steady : Disciplined one_scan_config steady_scans ↔
    ∀ i markets, steady_scans[i]? = some markets →
      ¬ ComesBack one_scan_config (scanner_at one_scan_config steady_scans i) markets :=
  disciplined_iff (by decide +kernel)

end Scanner
