import Arbiter.Mapping.Conids
import Arbiter.Scanner.ForecastexQuotes

/-! # The Child Resolver

  A mapping may be bound to an event of ForecastEx, which cannot be traded. The resolver asks for
  the children of the event, takes one of the Calls by the id of the mapping, a Put beside it,
  and writes both to the row.

  The id of the mapping is searched for a party only. What else a proposition says, a threshold
  or a period, is not looked at.

  ## Contents

  - Section 1: the Call and the Put.
  - Section 2: one mapping.
  - Section 3: cycles.
  - Section 4: what was stored, and from which children.
  - Section 5: when every mapping has its own contract.
-/

namespace ChildResolver

open LTS
open Forecastex (Child is_valid_conid strike_f near_strike takes put_rights)
open Mapping (MarketMapping child_conid is_blocklisted_forecastex_conid)
open ForecastexQuotes (is_tradeable_snapshot)

/-! ## Section 1: The Call and the Put -/

/-- `float(c.get("strike") or 0)`; `none` where it raises. -/
def strike_key (c : Child) : Option ℚ := (c.strike.orElse (.num 0)).float

/-- The Calls among the children, by strike. One that does not convert leaves them as listed. -/
def sorted_calls (children : List Child) : List Child :=
  let calls := children.filter (·.right.toUpper = "C")
  if calls.all fun c => (strike_key c).isSome then
    calls.insertionSort fun a b => (strike_key a).getD 0 ≤ (strike_key b).getD 0
  else calls

/-- The party that the id of a mapping names. -/
inductive Hint
  | democrat
  | republican
  | unhinted
  deriving DecidableEq

/-- The texts that are searched for in `canonical_id.upper()`. -/
def hint (canonical_id : String) : Hint :=
  let upper_cid := canonical_id.toUpper
  if Text.occurs "DEM_" upper_cid || Text.occurs "DEMOCRAT" upper_cid then .democrat
  else if Text.occurs "GOP_" upper_cid || Text.occurs "REP_" upper_cid ||
      Text.occurs "REPUBLICAN" upper_cid then .republican
  else .unhinted

/-- `next((c for c in calls if test(strike)), default)`. It raises at a strike that does not
    convert, unless one before it meets the test. -/
def next_by_strike (test : ℚ → Bool) (default : Child) : List Child → Option Child
  | [] => some default
  | c :: calls =>
      match strike_key c with
      | none => none
      | some strike => if test strike then some c else next_by_strike test default calls

/-- The strike of a Democratic win, or below. -/
def democratic_strike (strike : ℚ) : Bool := strike ≤ 10001 / 10000

/-- The strike of a Republican win, or above. -/
def republican_strike (strike : ℚ) : Bool := 19999 / 10000 ≤ strike

/-- `_select_yes_child`: no Call, or the Call; the outer `none` where it raises. -/
def select_yes_child (canonical_id : String) (children : List Child) : Option (Option Child) :=
  match sorted_calls children with
  | [] => some none
  | first :: rest =>
      match hint canonical_id with
      | .democrat => (next_by_strike democratic_strike first (first :: rest)).map some
      | .republican =>
          let last := (first :: rest).getLastD first
          (next_by_strike republican_strike last (first :: rest)).map some
      | .unhinted => some (some first)

/-- The NO beside the YES that was taken; empty where no Put is. -/
def no_child_conid (children : List Child) (yes_child : Child) : String :=
  let no_child := children.find?
    (takes (child_conid yes_child) put_rights (strike_f yes_child.strike))
  (no_child.map child_conid).getD ""

/-! ## Section 2: One mapping -/

/-- What the outside answers while one mapping is resolved. `none` where it raises. -/
structure Answers where
  /-- `market_snapshot` of the event, three times at most. -/
  parent_snapshots : List (Option (Json ℚ))
  /-- `resolve_event_children`, or the status of its error. -/
  children : Except (Option ℕ) (List Child)
  /-- `market_snapshot` of the Call, three times at most. -/
  child_snapshots : List (Option (Json ℚ))
  /-- `mapping_store.get`. -/
  row : Option (Option MarketMapping)
  /-- `mapping_store.upsert` does not raise. -/
  upserted : Bool
  /-- `mapping_store.mark_forecastex_unavailable`. -/
  marked : Option Bool

/-- The outcome of an attempt. -/
inductive Outcome
  | resolved
  | reactivated_child
  | dry_run
  | marked_unavailable
  | no_children
  | ibkr_503
  | ibkr_400
  | exception
  deriving DecidableEq

/-- The children of an event were stored on a row. -/
structure Attached where
  canonical_id : String
  parent_conid : String
  /-- The row as it was read. -/
  read : MarketMapping
  /-- The row as it was written. -/
  written : MarketMapping

/-- The resolver. An absent entry of a dictionary is empty, or zero. -/
structure Resolver where
  strikes_cache : String → List Child
  no_children_counts : String → ℕ
  /-- Ghost: all that was stored, newest first. -/
  attached : List Attached

/-- `_NO_CHILDREN_MARK_THRESHOLD` -/
def no_children_mark_threshold : ℕ := 3

section resolve

variable (float_text : String → Option ℚ) (dry_run : Bool)

/-- One of the first three snapshots has a price. The first that raises ends the tries. -/
def tradeable_within (snapshots : List (Option (Json ℚ))) : Option Bool :=
  go (snapshots.take 3)
where
  go : List (Option (Json ℚ)) → Option Bool
    | [] => some false
    | none :: _ => none
    | some snapshot :: rest =>
        if is_tradeable_snapshot float_text snapshot then some true else go rest

/-- `_resolve_event_children_cached`: an answer is kept for good, unless it is empty. -/
def Resolver.event_children_cached (a : Answers) (parent_conid : String) (s : Resolver) :
    Resolver × Except (Option ℕ) (List Child) :=
  if s.strikes_cache parent_conid ≠ [] then (s, .ok (s.strikes_cache parent_conid))
  else
    match a.children with
    | .error status => (s, .error status)
    | .ok [] => (s, .ok [])
    | .ok (child :: rest) =>
        ({ s with
            strikes_cache := Function.update s.strikes_cache parent_conid (child :: rest) },
          .ok (child :: rest))

/-- The outcome of an error with a status. -/
def error_outcome (status : Option ℕ) : Outcome :=
  if status = some 503 then .ibkr_503
  else if status = some 400 then .ibkr_400
  else .exception

/-- `_mark_unavailable` -/
def mark_unavailable (a : Answers) : Outcome :=
  if dry_run then .dry_run
  else if a.marked = some true then .marked_unavailable
  else .exception

/-- The row with the children of the event. A NO that is not found leaves what was there. -/
def with_children (m : MarketMapping) (child_conid no_child_conid : String) : MarketMapping :=
  { m with
    forecastex_contract_id := child_conid
    forecastex_no_contract_id :=
      if no_child_conid ≠ "" then no_child_conid else m.forecastex_no_contract_id
    forecastex_not_available := false }

/-- The rest of `_resolve_one`, of children that are not empty. Without an outcome, it raised. -/
def Resolver.attach (a : Answers) (canonical_id parent_conid : String) (children : List Child)
    (s : Resolver) : Resolver × Option Outcome :=
  match select_yes_child canonical_id children with
  | none => (s, none)
  | some none => (s, some (mark_unavailable dry_run a))
  | some (some yes_child) =>
      let conid := child_conid yes_child
      if !is_valid_conid conid then (s, some (mark_unavailable dry_run a))
      else if is_blocklisted_forecastex_conid conid ||
          is_blocklisted_forecastex_conid parent_conid then
        (s, some (mark_unavailable dry_run a))
      else if dry_run then (s, some .dry_run)
      else
        match tradeable_within float_text a.child_snapshots, a.row with
        | none, _ => (s, some .exception)
        | some false, _ => (s, some (mark_unavailable dry_run a))
        | some true, some (some m) =>
            if a.upserted then
              let written := with_children m conid (no_child_conid children yes_child)
              ({ s with attached := ⟨canonical_id, parent_conid, m, written⟩ :: s.attached },
                some .resolved)
            else (s, some .exception)
        -- the row is gone, or cannot be read
        | some true, _ => (s, some .exception)

/-- `_resolve_one`. The collector's list of inactive conids is not followed. -/
def Resolver.resolve_one (a : Answers) (canonical_id parent_conid : String) (s : Resolver) :
    Resolver × Option Outcome :=
  -- the conid may be a child that was disabled by mistake
  if tradeable_within float_text a.parent_snapshots = some true then
    (s, some .reactivated_child)
  else
    let fetched := s.event_children_cached a parent_conid
    match fetched.2 with
    | .error status => (fetched.1, some (error_outcome status))
    | .ok [] =>
        let count := fetched.1.no_children_counts parent_conid + 1
        if no_children_mark_threshold ≤ count then
          ({ fetched.1 with
              no_children_counts := Function.update fetched.1.no_children_counts parent_conid 0 },
            some (mark_unavailable dry_run a))
        else
          ({ fetched.1 with
              no_children_counts :=
                Function.update fetched.1.no_children_counts parent_conid count },
            some .no_children)
    | .ok (child :: rest) =>
        Resolver.attach float_text dry_run a canonical_id parent_conid (child :: rest)
          { fetched.1 with
            no_children_counts := Function.update fetched.1.no_children_counts parent_conid 0 }

/-! ## Section 3: Cycles -/

/-- IBKR answered. -/
def Outcome.healthy (outcome : Outcome) : Bool :=
  outcome ∈ [.resolved, .reactivated_child, .dry_run, .marked_unavailable]

/-- The loop of `run_once`, after some failures in a row. An attempt that raises ends it. -/
def Resolver.run_candidates (answers : String → Answers) (s : Resolver) (failures : ℕ) :
    List (String × String) → Resolver
  | [] => s
  | (canonical_id, parent_conid) :: rest =>
      if 3 ≤ failures then Resolver.run_candidates answers s failures rest
      else
        match s.resolve_one float_text dry_run (answers canonical_id) canonical_id parent_conid with
        | (s, none) => s
        | (s, some outcome) =>
            Resolver.run_candidates answers s (if outcome.healthy then 0 else failures + 1) rest

/-- A cycle: the mappings that are left of `_candidate_canonical_ids`, each with its conid, and
    what the outside answers. -/
structure Cycle where
  candidates : List (String × String)
  answers : String → Answers

/-- `run_once` -/
def Resolver.run_once (s : Resolver) (c : Cycle) : Resolver :=
  Resolver.run_candidates float_text dry_run c.answers s 0
    (c.candidates.insertionSort fun p q => p.2 ≤ q.2)

/-- Nothing is known. -/
def Resolver.fresh : Resolver := ⟨fun _ => [], fun _ => 0, []⟩

/-- The resolver starts with empty dictionaries and runs cycle after cycle. -/
def resolver : System Resolver Cycle where
  init := fun s => s = Resolver.fresh
  step := fun s c s' => s' = s.run_once float_text dry_run c

end resolve

/-! ## Section 4: What was stored, and from which children -/

/-- The strike of the child converts, and meets the test. -/
def at_strike (test : ℚ → Bool) (c : Child) : Bool := (strike_key c).any test

/-- The Call that a hint leads to: by its strike, or else the first or the last. -/
def Hint.call (h : Hint) (calls : List Child) : Option Child :=
  match h with
  | .democrat => (calls.find? (at_strike democratic_strike)).or calls.head?
  | .republican => (calls.find? (at_strike republican_strike)).or calls.getLast?
  | .unhinted => calls.head?

theorem next_by_strike_eq_some {test : ℚ → Bool} {default c : Child} {calls : List Child}
    (h : next_by_strike test default calls = some c) :
    (calls.find? (at_strike test)).or (some default) = some c := by
  induction calls with
  | nil => simpa [next_by_strike] using h
  | cons first rest ih =>
    unfold next_by_strike at h
    split at h
    · cases h
    · rename_i strike hstrike
      by_cases htest : test strike = true
      · rw [if_pos htest] at h
        have hfirst : at_strike test first = true := by simp [at_strike, hstrike, htest]
        rw [List.find?_cons_of_pos hfirst]
        exact h
      · rw [if_neg htest] at h
        have hfirst : ¬ at_strike test first = true := by simp [at_strike, hstrike, htest]
        rw [List.find?_cons_of_neg hfirst]
        exact ih h

/-- The Call that is taken is the one the id's hint leads to. -/
theorem select_yes_child_eq_some {canonical_id : String} {children : List Child} {c : Child}
    (h : select_yes_child canonical_id children = some (some c)) :
    (hint canonical_id).call (sorted_calls children) = some c := by
  unfold select_yes_child at h
  split at h
  · cases h
  · rename_i first rest hcalls
    rw [hcalls]
    cases hhint : hint canonical_id with
    | democrat =>
      simp only [hhint, Option.map_eq_some_iff, Option.some.injEq, exists_eq_right] at h
      exact next_by_strike_eq_some h
    | republican =>
      simp only [hhint, Option.map_eq_some_iff, Option.some.injEq, exists_eq_right] at h
      have hlast : (first :: rest).getLast? = some ((first :: rest).getLastD first) := by
        simp [List.getLast?_cons]
      show (List.find? _ _).or (first :: rest).getLast? = some c
      rw [hlast]
      exact next_by_strike_eq_some h
    | unhinted =>
      simp only [hhint, Option.some.injEq] at h
      exact congrArg some h

theorem mem_sorted_calls {children : List Child} {c : Child} :
    c ∈ sorted_calls children ↔ c ∈ children ∧ c.right.toUpper = "C" := by
  unfold sorted_calls
  dsimp only
  split
  · rw [List.mem_insertionSort, List.mem_filter, decide_eq_true_eq]
  · rw [List.mem_filter, decide_eq_true_eq]

/-- The Calls are in the order of their strikes, where these convert. -/
theorem sorted_calls_sorted {children : List Child}
    (hnumbers : ∀ c ∈ children, c.right.toUpper = "C" → (strike_key c).isSome) :
    (sorted_calls children).Pairwise fun a b =>
      (strike_key a).getD 0 ≤ (strike_key b).getD 0 := by
  let below (a b : Child) : Prop := (strike_key a).getD 0 ≤ (strike_key b).getD 0
  have hall : ((children.filter (·.right.toUpper = "C")).all
      fun c => (strike_key c).isSome) = true := by
    rw [List.all_eq_true]
    intro c hc
    rw [List.mem_filter, decide_eq_true_eq] at hc
    exact hnumbers c hc.1 hc.2
  have : Std.Total below := ⟨fun a b => le_total _ _⟩
  have : IsTrans Child below := ⟨fun a b c => le_trans⟩
  unfold sorted_calls
  rw [if_pos hall]
  exact List.pairwise_insertionSort below _

/-- With strikes that convert, the Democratic Call is the lowest, as is that of no hint. -/
theorem democrat_call_of_numbers {children : List Child}
    (hnumbers : ∀ c ∈ children, c.right.toUpper = "C" → (strike_key c).isSome) :
    Hint.democrat.call (sorted_calls children) = Hint.unhinted.call (sorted_calls children) := by
  have hsorted := sorted_calls_sorted hnumbers
  have hconvert : ∀ c ∈ sorted_calls children, ∃ strike, strike_key c = some strike := by
    intro c hc
    rw [mem_sorted_calls] at hc
    exact Option.isSome_iff_exists.1 (hnumbers c hc.1 hc.2)
  cases hcalls : sorted_calls children with
  | nil => rfl
  | cons first rest =>
    rw [hcalls] at hsorted hconvert
    show (List.find? (at_strike democratic_strike) (first :: rest)).or (some first) = some first
    by_cases hfirst : at_strike democratic_strike first = true
    · rw [List.find?_cons_of_pos hfirst]
      rfl
    · -- where the lowest is too high, all are
      have hnone : List.find? (at_strike democratic_strike) (first :: rest) = none := by
        rw [List.find?_eq_none]
        intro c hc hat
        rcases List.mem_cons.1 hc with rfl | hrest
        · exact hfirst hat
        · obtain ⟨q, hq⟩ := hconvert first (List.mem_cons_self ..)
          obtain ⟨r, hr⟩ := hconvert c hc
          have hle := List.rel_of_pairwise_cons hsorted hrest
          simp only [at_strike, democratic_strike, hq, hr, Option.any_some, Option.getD_some,
            decide_eq_true_eq] at hfirst hat hle
          exact hfirst (hle.trans hat)
      rw [hnone]
      rfl


/-- It was taken from the children that are kept of its event. -/
structure Attached.Fits (cache : String → List Child) (a : Attached) : Prop where
  known : cache a.parent_conid ≠ []
  taken : ∃ yes_child,
    (hint a.canonical_id).call (sorted_calls (cache a.parent_conid)) = some yes_child ∧
      a.written = with_children a.read (child_conid yes_child)
        (no_child_conid (cache a.parent_conid) yes_child)

/-- All that was stored was. -/
def Resolver.Kept (s : Resolver) : Prop := ∀ a ∈ s.attached, a.Fits s.strikes_cache

section kept

variable {float_text : String → Option ℚ} {dry_run : Bool} {a : Answers}
  {canonical_id parent_conid : String} {s : Resolver}

/-- Asking for children changes nothing of what is known, and keeps what is new. -/
theorem event_children_cached_spec (a : Answers) (parent_conid : String) (s : Resolver) :
    (s.event_children_cached a parent_conid).1.attached = s.attached ∧
      (∀ parent, s.strikes_cache parent ≠ [] →
        (s.event_children_cached a parent_conid).1.strikes_cache parent =
          s.strikes_cache parent) ∧
      ∀ child rest, (s.event_children_cached a parent_conid).2 = .ok (child :: rest) →
        (s.event_children_cached a parent_conid).1.strikes_cache parent_conid =
          child :: rest := by
  unfold Resolver.event_children_cached
  by_cases hknown : s.strikes_cache parent_conid ≠ []
  · rw [if_pos hknown]
    refine ⟨rfl, fun _ _ => rfl, ?_⟩
    intro child rest h
    exact Except.ok.inj h
  · rw [if_neg hknown]
    rcases a.children with status | (_ | ⟨child, rest⟩)
    · exact ⟨rfl, fun _ _ => rfl, by simp⟩
    · exact ⟨rfl, fun _ _ => rfl, by simp⟩
    · refine ⟨rfl, ?_, ?_⟩
      · intro parent hparent
        have hne : parent ≠ parent_conid := by
          rintro rfl
          exact hknown hparent
        exact Function.update_of_ne hne _ _
      · intro child' rest' h
        rw [← Except.ok.inj h]
        exact Function.update_self _ _ _

/-- What is kept stays kept while more is known. -/
theorem Resolver.Kept.of_more {s' : Resolver} (h : s.Kept) (hattached : s'.attached = s.attached)
    (hcache : ∀ parent, s.strikes_cache parent ≠ [] →
      s'.strikes_cache parent = s.strikes_cache parent) : s'.Kept := by
  intro a ha
  rw [hattached] at ha
  have hfits := h a ha
  have hsame := hcache a.parent_conid hfits.known
  exact ⟨by rw [hsame]; exact hfits.known, by rw [hsame]; exact hfits.taken⟩

/-- A row is written from the children of its event. -/
theorem attach_kept {child : Child} {rest : List Child} (h : s.Kept)
    (hcache : s.strikes_cache parent_conid = child :: rest) :
    (s.attach float_text dry_run a canonical_id parent_conid (child :: rest)).1.Kept := by
  unfold Resolver.attach
  split
  · exact h
  · exact h
  · rename_i yes_child hyes
    dsimp only
    split
    · exact h
    split
    · exact h
    split
    · exact h
    split
    · exact h
    · exact h
    · split
      · -- the one case that stores
        intro b hb
        rcases List.mem_cons.1 hb with rfl | hold
        · refine ⟨by simp [hcache], yes_child, ?_, ?_⟩
          · rw [hcache]
            exact select_yes_child_eq_some hyes
          · rw [hcache]
        · exact h b hold
      · exact h
    · exact h

theorem resolve_one_kept (h : s.Kept) :
    (s.resolve_one float_text dry_run a canonical_id parent_conid).1.Kept := by
  obtain ⟨hattached, hcache, hnew⟩ := event_children_cached_spec a parent_conid s
  have hfetched : (s.event_children_cached a parent_conid).1.Kept := h.of_more hattached hcache
  unfold Resolver.resolve_one
  split
  · exact h
  dsimp only
  split
  · exact hfetched
  · split <;> exact hfetched
  · rename_i child rest hreply
    exact attach_kept hfetched (hnew child rest hreply)

theorem run_candidates_kept {answers : String → Answers} {failures : ℕ}
    {candidates : List (String × String)} (h : s.Kept) :
    (s.run_candidates float_text dry_run answers failures candidates).Kept := by
  induction candidates generalizing s failures with
  | nil => exact h
  | cons candidate rest ih =>
    obtain ⟨canonical_id, parent_conid⟩ := candidate
    have hone : (s.resolve_one float_text dry_run (answers canonical_id) canonical_id
        parent_conid).1.Kept := resolve_one_kept h
    unfold Resolver.run_candidates
    split
    · exact ih h
    · split
      · rename_i s' hresolved
        rw [hresolved] at hone
        exact hone
      · rename_i s' outcome hresolved
        rw [hresolved] at hone
        exact ih hone

/-- In every run of the resolver, each row it wrote was written from the children it keeps of
    the row's event. -/
theorem resolver_kept (float_text : String → Option ℚ) (dry_run : Bool) :
    Invariant (resolver float_text dry_run) Resolver.Kept := by
  apply Invariant.of_step
  · intro s hinit
    obtain rfl : s = Resolver.fresh := hinit
    intro a ha
    cases ha
  · intro s c s' h hstep
    obtain rfl : s' = s.run_once float_text dry_run c := hstep
    exact run_candidates_kept h

end kept


/-! ## Section 5: When every mapping has its own contract -/

/-- The children are at one strike and of one maturity. -/
def OneMarket (c d : Child) : Prop :=
  (c.strike = d.strike ∨ ∃ q, strike_f c.strike = some q ∧ strike_f d.strike = some q) ∧
    c.maturity_date = d.maturity_date

/-- A Call and a Put of one market are listed under the conids. -/
def PairOf (children : List Child) (yes no : String) : Prop :=
  ∃ call ∈ children, ∃ put ∈ children, child_conid call = yes ∧ child_conid put = no ∧
    call.right.toUpper = "C" ∧ put.right.toUpper ∈ put_rights ∧ OneMarket call put

/-- Of the mappings that were bound to an event, those of different propositions have different
    YES conids, and each has the two conids of one market. What a mapping's proposition is, is
    not in what the resolver reads. -/
structure OwnContracts {ι : Type} (proposition : String → ι) (s : Resolver) (parent : String) :
    Prop where
  apart : ∀ a ∈ s.attached, ∀ b ∈ s.attached, a.parent_conid = parent →
    b.parent_conid = parent → proposition a.canonical_id ≠ proposition b.canonical_id →
      a.written.forecastex_contract_id ≠ b.written.forecastex_contract_id
  paired : ∀ a ∈ s.attached, a.parent_conid = parent → a.written.forecastex_no_contract_id ≠ "" →
    PairOf (s.strikes_cache parent) a.written.forecastex_contract_id
      a.written.forecastex_no_contract_id

/-- The hints lead to Calls of different conids. -/
def Apart (children : List Child) (h h' : Hint) : Prop :=
  (h.call (sorted_calls children)).map child_conid ≠
    (h'.call (sorted_calls children)).map child_conid

/-- The first Put that is near the Call's strike is of its market; without one, the NO that was
    there is. -/
def PutFits (children : List Child) (yes_child : Child) (old_no : String) : Prop :=
  match children.find? (takes (child_conid yes_child) put_rights (strike_f yes_child.strike)) with
  | some put => PairOf children (child_conid yes_child) (child_conid put)
  | none => old_no ≠ "" → PairOf children (child_conid yes_child) old_no

/-- The hints of different propositions lead apart, and a Put fits the Call that each leads
    to. -/
structure LedApart {ι : Type} (proposition : String → ι) (s : Resolver) (parent : String) :
    Prop where
  apart : ∀ a ∈ s.attached, ∀ b ∈ s.attached, a.parent_conid = parent →
    b.parent_conid = parent → proposition a.canonical_id ≠ proposition b.canonical_id →
      Apart (s.strikes_cache parent) (hint a.canonical_id) (hint b.canonical_id)
  paired : ∀ a ∈ s.attached, a.parent_conid = parent → ∀ yes_child,
    (hint a.canonical_id).call (sorted_calls (s.strikes_cache parent)) = some yes_child →
      PutFits (s.strikes_cache parent) yes_child a.read.forecastex_no_contract_id

/-- With strikes that convert, two hints lead apart if just one of them is Republican and the
    Republican Call is not the lowest. -/
theorem apart_iff_of_numbers {children : List Child} (h h' : Hint)
    (hnumbers : ∀ c ∈ children, c.right.toUpper = "C" → (strike_key c).isSome) :
    Apart children h h' ↔ (h = .republican ↔ h' ≠ .republican) ∧
      Apart children .republican .unhinted := by
  have hdemocrat := democrat_call_of_numbers hnumbers
  unfold Apart
  cases h <;> cases h' <;> simp [hdemocrat, eq_comm]

/-- Where no two children share a conid, a Put is paired with a Call if they are of one
    market. -/
theorem pair_of_iff_of_distinct {children : List Child} {yes put : Child}
    (hone : ∀ c ∈ children, ∀ d ∈ children, child_conid c = child_conid d → c = d)
    (hyes : yes ∈ children) (hput : put ∈ children) :
    PairOf children (child_conid yes) (child_conid put) ↔
      yes.right.toUpper = "C" ∧ put.right.toUpper ∈ put_rights ∧ OneMarket yes put := by
  constructor
  · rintro ⟨c, hc, p, hp, hcyes, hpput, hpair⟩
    obtain rfl := hone c hc yes hyes hcyes
    obtain rfl := hone p hp put hput hpput
    exact hpair
  · intro hpair
    exact ⟨yes, hyes, put, hput, rfl, rfl, hpair⟩

/-- The NO that is written is a pair of the YES exactly if a Put fits. -/
theorem with_children_paired_iff {children : List Child} {yes_child : Child}
    {m : MarketMapping} :
    ((with_children m (child_conid yes_child)
        (no_child_conid children yes_child)).forecastex_no_contract_id ≠ "" →
      PairOf children (child_conid yes_child) (with_children m (child_conid yes_child)
        (no_child_conid children yes_child)).forecastex_no_contract_id) ↔
      PutFits children yes_child m.forecastex_no_contract_id := by
  unfold PutFits with_children no_child_conid
  cases hput : children.find? (takes (child_conid yes_child) put_rights
      (strike_f yes_child.strike)) with
  | none => simp
  | some put =>
    -- a Put that is taken has a conid
    have htaken := List.find?_some hput
    have hconid : child_conid put ≠ "" := by
      unfold takes at htaken
      simp only [Bool.and_eq_true, decide_eq_true_eq] at htaken
      exact htaken.1.2
    simp [hconid]

/-- **Each mapping has its own contract exactly if the hints lead apart and the Puts fit.** In
    every run of the resolver and for every event, those of its mappings that differ in what they
    propose have different YES conids, and each a Call and a Put of one strike and maturity, if
    and only if their hints lead to different Calls, and the first Put listed near the strike of
    each of these Calls is of its market. -/
theorem own_contracts_iff {ι : Type} {float_text : String → Option ℚ} {dry_run : Bool}
    {s : Resolver} (hreach : Reachable (resolver float_text dry_run) s) (proposition : String → ι)
    (parent : String) : OwnContracts proposition s parent ↔ LedApart proposition s parent := by
  have hkept := resolver_kept float_text dry_run s hreach
  have hfits : ∀ a ∈ s.attached, a.parent_conid = parent → ∃ yes_child,
      (hint a.canonical_id).call (sorted_calls (s.strikes_cache parent)) = some yes_child ∧
        a.written = with_children a.read (child_conid yes_child)
          (no_child_conid (s.strikes_cache parent) yes_child) := by
    rintro a ha rfl
    exact (hkept a ha).taken
  -- the conid that is written is that of the hint's Call
  have hdiffer : ∀ a ∈ s.attached, ∀ b ∈ s.attached, a.parent_conid = parent →
      b.parent_conid = parent →
      (a.written.forecastex_contract_id ≠ b.written.forecastex_contract_id ↔
        Apart (s.strikes_cache parent) (hint a.canonical_id) (hint b.canonical_id)) := by
    intro a ha b hb hpa hpb
    obtain ⟨yes_a, hcall_a, hwritten_a⟩ := hfits a ha hpa
    obtain ⟨yes_b, hcall_b, hwritten_b⟩ := hfits b hb hpb
    rw [Apart, hcall_a, hcall_b, hwritten_a, hwritten_b, Option.map_some, Option.map_some]
    exact not_congr Option.some_inj.symm
  constructor
  · intro h
    constructor
    · intro a ha b hb hpa hpb hne
      exact (hdiffer a ha b hb hpa hpb).1 (h.apart a ha b hb hpa hpb hne)
    · intro a ha hpa yes_child hcall
      obtain ⟨yes, hcall_a, hwritten⟩ := hfits a ha hpa
      obtain rfl : yes = yes_child := Option.some_inj.1 (hcall_a.symm.trans hcall)
      have hpaired := h.paired a ha hpa
      rw [hwritten] at hpaired
      exact with_children_paired_iff.1 hpaired
  · intro h
    constructor
    · intro a ha b hb hpa hpb hne
      exact (hdiffer a ha b hb hpa hpb).2 (h.apart a ha b hb hpa hpb hne)
    · intro a ha hpa
      obtain ⟨yes, hcall, hwritten⟩ := hfits a ha hpa
      rw [hwritten]
      exact with_children_paired_iff.2 (h.paired a ha hpa yes hcall)


/-! ### Two mappings of one event -/

/-- A child that matures at the end of 2026. -/
def listed (conid right : String) (strike : ℚ) : Child where
  conid := conid
  right := right
  strike := .num strike
  maturity_date := .str "20261231" none
  desc := .str "" none

/-- The children are listed, the Call has a price, and the row is there. -/
def answered (children : List Child) (canonical_id : String) : Answers where
  parent_snapshots := [some (.obj [])]
  children := .ok children
  child_snapshots := [some (.obj [("31", .num (1 / 2))])]
  row := some (some { canonical_id, description := "", status := .confirmed })
  upserted := true
  marked := none

/-- The resolver after a cycle over two mappings of the event 900. -/
def after_cycle (children : List Child) (id id' : String) : Resolver :=
  Resolver.fresh.run_once (fun _ => none) false
    { candidates := [(id, "900"), (id', "900")], answers := answered children }

theorem after_cycle_reachable (children : List Child) (id id' : String) :
    Reachable (resolver (fun _ => none) false) (after_cycle children id id') :=
  .step (.init rfl) rfl

/-- The Calls and Puts of two strikes. -/
def two_strikes (low high : ℚ) : List Child :=
  [listed "901" "C" low, listed "902" "P" low, listed "903" "C" high, listed "904" "P" high]

/-- `own_contracts_iff` of the two parties. -/
theorem own_contracts_iff_house :
    OwnContracts id (after_cycle (two_strikes 1 2) "DEM_HOUSE_2026" "GOP_HOUSE_2026") "900" ↔
      LedApart id (after_cycle (two_strikes 1 2) "DEM_HOUSE_2026" "GOP_HOUSE_2026") "900" :=
  own_contracts_iff (after_cycle_reachable _ _ _) id "900"

/-- The threshold that each of two mappings is about. -/
def threshold (canonical_id : String) : ℕ := if canonical_id = "US_CPI_ABOVE_3" then 3 else 4

/-- Two thresholds of an index: no hint is found in either id, and both are given the Call of
    the lowest strike. -/
theorem thresholds_share_a_call :
    let s := after_cycle (two_strikes 3 4) "US_CPI_ABOVE_3" "US_CPI_ABOVE_4"
    Reachable (resolver (fun _ => none) false) s ∧ ¬ OwnContracts threshold s "900" := by
  intro s
  refine ⟨after_cycle_reachable _ _ _, fun h => ?_⟩
  have hattached : s.attached.map (fun a => (a.canonical_id, a.parent_conid,
      a.written.forecastex_contract_id)) =
        [("US_CPI_ABOVE_4", "900", "901"), ("US_CPI_ABOVE_3", "900", "901")] := by
    decide +kernel
  obtain ⟨a, rest, hs, ha, hrest⟩ := List.map_eq_cons_iff.1 hattached
  obtain ⟨b, _, rfl, hb, -⟩ := List.map_eq_cons_iff.1 hrest
  simp only [Prod.mk.injEq] at ha hb
  have hmem_a : a ∈ s.attached := by simp [hs]
  have hmem_b : b ∈ s.attached := by simp [hs]
  have hne : threshold a.canonical_id ≠ threshold b.canonical_id := by
    rw [ha.1, hb.1]
    decide
  exact h.apart a hmem_a b hmem_b ha.2.1 hb.2.1 hne (ha.2.2.trans hb.2.2.symm)


end ChildResolver
