import Arbiter.Mapping.ChildResolver

/-! # Parents without Children

  The resolver counts how often in a row the children of a parent came back empty, and gives
  the parent up at the third time. It counts lookups, and not cycles: every mapping of the
  parent makes one of its own, and none that raises starts the count again.

  ## Contents

  - Section 1: probes, and the count they lead to.
  - Section 2: what a cycle does with its candidates.
  - Section 3: runs, and when a parent is given up.
  - Section 4: orderly runs.
-/

namespace ChildResolver

open LTS
open Forecastex (Child)

/-! ## Section 1: Probes -/

/-- What is found of the conid of a candidate: it has a price itself, or it is looked up as a
    parent. -/
inductive Probe
  | reactivated
  | children
  | empty
  | raised
  deriving DecidableEq

/-- The children were looked up. -/
def Probe.lookup (p : Probe) : Bool := p ≠ .reactivated

/-- What is found while a candidate is resolved. -/
def Resolver.probe (float_text : String → Option ℚ) (a : Answers) (parent_conid : String)
    (s : Resolver) : Probe :=
  if tradeable_within float_text a.parent_snapshots = some true then .reactivated
  else
    match (s.event_children_cached a parent_conid).2 with
    | .error _ => .raised
    | .ok [] => .empty
    | .ok (_ :: _) => .children

/-- The count of a parent after a probe. -/
def advance (count : ℕ) : Probe → ℕ
  | .reactivated => count
  | .children => 0
  | .empty => if no_children_mark_threshold ≤ count + 1 then 0 else count + 1
  -- an error is passed over: it neither counts nor starts the count again
  | .raised => count

/-- The count depends on the lookups alone. -/
theorem foldl_advance_lookups (count : ℕ) (probes : List Probe) :
    (probes.filter Probe.lookup).foldl advance count = probes.foldl advance count := by
  rw [List.foldl_filter]
  congr 1
  funext n p
  cases p <;> rfl

/-- Without an empty lookup the count stays, or starts again. -/
theorem foldl_advance_of_not_empty {probes : List Probe} (h : Probe.empty ∉ probes) (count : ℕ) :
    probes.foldl advance count = if Probe.children ∈ probes then 0 else count := by
  induction probes generalizing count with
  | nil => rfl
  | cons p probes ih =>
    rw [List.mem_cons, not_or] at h
    rw [List.foldl_cons, ih h.2]
    cases p with
    | empty => exact absurd rfl h.1
    | children => simp [advance]
    | reactivated => simp [advance]
    | raised => simp [advance]

section resolve

variable {float_text : String → Option ℚ} {dry_run : Bool} {a : Answers}
         {canonical_id parent_conid : String} {s : Resolver}

/-- To look up children leaves the counts. -/
theorem cached_counts (a : Answers) (parent_conid : String) (s : Resolver) :
    (s.event_children_cached a parent_conid).1.no_children_counts = s.no_children_counts := by
  unfold Resolver.event_children_cached
  split
  · rfl
  · split <;> rfl

/-- What is done with children leaves the counts. -/
theorem attach_counts (children : List Child) :
    (s.attach float_text dry_run a canonical_id parent_conid children).1.no_children_counts =
      s.no_children_counts := by
  unfold Resolver.attach
  split
  · rfl
  · rfl
  · dsimp only
    split
    · rfl
    split
    · rfl
    split
    · rfl
    split
    · rfl
    · rfl
    · split <;> rfl
    · rfl

/-- A candidate moves the count of its own parent, by what is found. -/
theorem resolve_one_counts (parent : String) :
    (s.resolve_one float_text dry_run a canonical_id parent_conid).1.no_children_counts parent =
      if parent = parent_conid then
        advance (s.no_children_counts parent) (s.probe float_text a parent_conid)
      else s.no_children_counts parent := by
  have hcached := cached_counts a parent_conid s
  unfold Resolver.resolve_one Resolver.probe
  by_cases hchild : tradeable_within float_text a.parent_snapshots = some true
  · rw [if_pos hchild, if_pos hchild]
    split <;> rfl
  · rw [if_neg hchild, if_neg hchild]
    dsimp only
    cases hreply : (s.event_children_cached a parent_conid).2 with
    | error status =>
      show (s.event_children_cached a parent_conid).1.no_children_counts parent = _
      rw [hcached]
      split <;> rfl
    | ok children =>
      cases children with
      | nil =>
        dsimp only
        rw [hcached]
        by_cases hparent : parent = parent_conid
        · subst hparent
          rw [if_pos rfl, advance]
          split <;> exact Function.update_self ..
        · rw [if_neg hparent]
          split <;> exact Function.update_of_ne hparent _ _
      | cons child rest =>
        dsimp only
        rw [attach_counts, hcached]
        by_cases hparent : parent = parent_conid
        · subst hparent
          rw [if_pos rfl]
          exact Function.update_self ..
        · rw [if_neg hparent]
          exact Function.update_of_ne hparent _ _

/-- A candidate is marked for an empty lookup at the threshold alone. -/
theorem marked_at_threshold (hempty : s.probe float_text a parent_conid = .empty)
    (hmarked : (s.resolve_one float_text dry_run a canonical_id parent_conid).2 =
      some .marked_unavailable) :
    no_children_mark_threshold ≤ s.no_children_counts parent_conid + 1 := by
  unfold Resolver.probe at hempty
  unfold Resolver.resolve_one at hmarked
  by_cases hchild : tradeable_within float_text a.parent_snapshots = some true
  · rw [if_pos hchild] at hempty
    cases hempty
  · rw [if_neg hchild] at hempty hmarked
    dsimp only at hmarked
    cases hreply : (s.event_children_cached a parent_conid).2 with
    | error status =>
      rw [hreply] at hempty
      cases hempty
    | ok children =>
      cases children with
      | cons child rest =>
        rw [hreply] at hempty
        cases hempty
      | nil =>
        rw [hreply] at hmarked
        dsimp only at hmarked
        rw [cached_counts] at hmarked
        by_contra hbelow
        rw [if_neg hbelow] at hmarked
        cases hmarked

end resolve

/-! ## Section 2: A cycle -/

/-- A candidate that a cycle comes to, what is found of its conid, and how its attempt ends.
    Candidates after three failures in a row are not come to. -/
structure Turn where
  canonical_id : String
  parent_conid : String
  probe : Probe
  outcome : Option Outcome
  deriving DecidableEq

/-- Its mapping is marked, and because the lookup of the parent was empty. -/
def Turn.given_up (t : Turn) : Prop :=
  t.probe = .empty ∧ t.outcome = some .marked_unavailable

instance (t : Turn) : Decidable t.given_up := inferInstanceAs (Decidable (_ ∧ _))

/-- The turns of `run_candidates`. -/
def Resolver.turns (float_text : String → Option ℚ) (dry_run : Bool) (answers : String → Answers)
    (s : Resolver) (failures : ℕ) : List (String × String) → List Turn
  | [] => []
  | (canonical_id, parent_conid) :: rest =>
      if 3 ≤ failures then Resolver.turns float_text dry_run answers s failures rest
      else
        let probe := s.probe float_text (answers canonical_id) parent_conid
        match s.resolve_one float_text dry_run (answers canonical_id) canonical_id parent_conid with
        -- the cycle ends with an attempt that raises
        | (_, none) => [⟨canonical_id, parent_conid, probe, none⟩]
        | (s, some outcome) =>
            ⟨canonical_id, parent_conid, probe, some outcome⟩ ::
              Resolver.turns float_text dry_run answers s
                (if outcome.healthy then 0 else failures + 1) rest

/-- The turns of `run_once`. -/
def Resolver.cycle_turns (float_text : String → Option ℚ) (dry_run : Bool) (s : Resolver)
    (c : Cycle) : List Turn :=
  s.turns float_text dry_run c.answers 0 (c.candidates.insertionSort fun p q => p.2 ≤ q.2)

/-- What a cycle finds of a parent, in order. -/
def probes (parent : String) (turns : List Turn) : List Probe :=
  (turns.filter (·.parent_conid = parent)).map (·.probe)

/-- What its lookups find. -/
def lookups (parent : String) (turns : List Turn) : List Probe :=
  (probes parent turns).filter Probe.lookup

theorem probes_cons (parent : String) (t : Turn) (turns : List Turn) :
    probes parent (t :: turns) =
      if t.parent_conid = parent then t.probe :: probes parent turns else probes parent turns := by
  unfold probes
  by_cases h : t.parent_conid = parent
  · rw [if_pos h, List.filter_cons_of_pos (by simpa using h)]
    rfl
  · rw [if_neg h, List.filter_cons_of_neg (by simpa using h)]

theorem probe_mem_probes {t : Turn} {turns : List Turn} (h : t ∈ turns) :
    t.probe ∈ probes t.parent_conid turns :=
  List.mem_map_of_mem (List.mem_filter.mpr ⟨h, by simp⟩)

section cycle

variable {float_text : String → Option ℚ} {dry_run : Bool} {answers : String → Answers}
         {s : Resolver} {failures : ℕ} {candidates : List (String × String)}

/-- The loop moves the count of a parent by what it finds of it. -/
theorem run_candidates_counts (parent : String) :
    (s.run_candidates float_text dry_run answers failures candidates).no_children_counts parent =
      (probes parent (s.turns float_text dry_run answers failures candidates)).foldl advance
        (s.no_children_counts parent) := by
  -- each candidate hands the resolver on to the next, so the resolver varies
  induction candidates generalizing s failures with
  | nil => rfl
  | cons candidate rest ih =>
    obtain ⟨canonical_id, parent_conid⟩ := candidate
    have hone := @resolve_one_counts float_text dry_run (answers canonical_id) canonical_id
      parent_conid s parent
    rw [Resolver.run_candidates, Resolver.turns]
    by_cases hfailures : 3 ≤ failures
    · rw [if_pos hfailures, if_pos hfailures]
      exact ih
    · rw [if_neg hfailures, if_neg hfailures]
      rcases hresolve : s.resolve_one float_text dry_run (answers canonical_id) canonical_id
        parent_conid with ⟨s', _ | outcome⟩
      all_goals
        rw [hresolve] at hone
        dsimp only at hone ⊢
        rw [probes_cons]
      · by_cases hparent : parent_conid = parent
        · rw [if_pos hparent.symm] at hone
          rw [if_pos hparent, hone]
          subst hparent
          rfl
        · rw [if_neg (Ne.symm hparent)] at hone
          rw [if_neg hparent, hone]
          rfl
      · rw [ih, hone]
        by_cases hparent : parent_conid = parent
        · subst hparent
          rw [if_pos rfl, if_pos rfl, List.foldl_cons]
        · rw [if_neg (Ne.symm hparent), if_neg hparent]

/-- Where a mapping is given up, the probes of its parent before it had brought the count
    to the threshold. -/
theorem given_up_at {t : Turn}
    (ht : t ∈ s.turns float_text dry_run answers failures candidates) (h : t.given_up) :
    ∃ before after, probes t.parent_conid (s.turns float_text dry_run answers failures candidates) =
        before ++ .empty :: after ∧
      no_children_mark_threshold ≤
        before.foldl advance (s.no_children_counts t.parent_conid) + 1 := by
  induction candidates generalizing s failures with
  | nil => cases ht
  | cons candidate rest ih =>
    obtain ⟨canonical_id, parent_conid⟩ := candidate
    rw [Resolver.turns] at ht ⊢
    by_cases hfailures : 3 ≤ failures
    · rw [if_pos hfailures] at ht ⊢
      exact ih ht
    · rw [if_neg hfailures] at ht ⊢
      have hone := @resolve_one_counts float_text dry_run (answers canonical_id) canonical_id
        parent_conid s t.parent_conid
      rcases hresolve : s.resolve_one float_text dry_run (answers canonical_id) canonical_id
        parent_conid with ⟨s', _ | outcome⟩
      · rw [hresolve] at ht
        obtain rfl := List.mem_singleton.mp ht
        cases h.2
      · rw [hresolve] at ht hone
        dsimp only at ht hone ⊢
        rw [probes_cons]
        rcases List.mem_cons.mp ht with rfl | hrest
        · -- this is the turn: nothing was found of the parent before
          obtain ⟨hempty, hmarked⟩ := h
          dsimp only at hempty hmarked ⊢
          refine ⟨[], _, by rw [if_pos rfl, hempty]; rfl, ?_⟩
          refine @marked_at_threshold float_text dry_run (answers canonical_id) canonical_id
            parent_conid s hempty ?_
          rw [hresolve, hmarked]
        · -- a later turn: this one is a probe before it if it is of the same parent
          obtain ⟨before, after, hprobes, hreached⟩ := ih hrest
          by_cases hparent : parent_conid = t.parent_conid
          · rw [if_pos hparent.symm] at hone
            rw [if_pos hparent, hprobes]
            refine ⟨_ :: before, after, rfl, ?_⟩
            rw [List.foldl_cons, ← hparent]
            rw [hone, ← hparent] at hreached
            exact hreached
          · rw [if_neg (Ne.symm hparent)] at hone
            rw [if_neg hparent]
            exact ⟨before, after, hprobes, by rwa [hone] at hreached⟩

end cycle

/-! ## Section 3: Runs -/

/-- The resolver, and what its cycles came to, the latest first. -/
structure Watched where
  resolver : Resolver
  cycles : List (List Turn)

/-- Cycle after cycle, each with any candidates and any answers. -/
def watched (float_text : String → Option ℚ) (dry_run : Bool) : System Watched Cycle where
  init := fun w => w = ⟨Resolver.fresh, []⟩
  step := fun w c w' => w' = ⟨w.resolver.run_once float_text dry_run c,
    w.resolver.cycle_turns float_text dry_run c :: w.cycles⟩

/-- The lookups of a parent, for each cycle in which there were any. -/
def looked_up (parent : String) (cycles : List (List Turn)) : List (List Probe) :=
  (cycles.map (lookups parent)).filter (· ≠ [])

/-- In each of the last three cycles with lookups of the parent, all of them were empty. -/
def ThreeEmpty (parent : String) (cycles : List (List Turn)) : Prop :=
  3 ≤ (looked_up parent cycles).length ∧
    ∀ found ∈ (looked_up parent cycles).take 3, ∀ p ∈ found, p = .empty

instance (parent : String) (cycles : List (List Turn)) : Decidable (ThreeEmpty parent cycles) :=
  inferInstanceAs (Decidable (_ ∧ _))

/-- **A parent is given up after three empty cycles**, and all its mappings that a cycle comes to
    with it. -/
def RightlyGivenUp : List (List Turn) → Prop
  | [] => True
  | turns :: earlier =>
      (∀ t ∈ turns, t.given_up → ThreeEmpty t.parent_conid (turns :: earlier) ∧
        ∀ u ∈ turns, u.parent_conid = t.parent_conid → u.outcome = some .marked_unavailable) ∧
        RightlyGivenUp earlier

/-- An empty lookup is the only one of its parent in the cycle, and nothing else is found of the
    parent where it is the third in a row. A lookup raises only where none was empty since the
    last that was not, or where the cycle finds children after all. -/
structure Orderly (float_text : String → Option ℚ) (dry_run : Bool) (w : Watched) (c : Cycle) :
    Prop where
  alone : ∀ parent,
    .empty ∈ probes parent (w.resolver.cycle_turns float_text dry_run c) →
      lookups parent (w.resolver.cycle_turns float_text dry_run c) = [.empty]
  final : ∀ parent, no_children_mark_threshold ≤ w.resolver.no_children_counts parent + 1 →
    .empty ∈ probes parent (w.resolver.cycle_turns float_text dry_run c) →
      probes parent (w.resolver.cycle_turns float_text dry_run c) = [.empty]
  unbroken : ∀ parent,
    .raised ∈ probes parent (w.resolver.cycle_turns float_text dry_run c) →
      w.resolver.no_children_counts parent = 0 ∨
        .children ∈ probes parent (w.resolver.cycle_turns float_text dry_run c)

/-! ## Section 4: Orderly runs -/

/-- The count is below the threshold, and so many cycles in a row were empty. -/
structure Tallied (count : ℕ) (history : List (List Probe)) : Prop where
  below : count < no_children_mark_threshold
  within : count ≤ history.length
  empty : ∀ found ∈ history.take count, ∀ p ∈ found, p = .empty

section tallied

variable {count : ℕ} {history : List (List Probe)}

theorem Tallied.zero : Tallied 0 history :=
  ⟨by decide, Nat.zero_le _, fun found hfound => by simp at hfound⟩

/-- An empty cycle adds one, or starts the count again. -/
theorem Tallied.add (h : Tallied count history) :
    Tallied (advance count .empty) ([.empty] :: history) := by
  rw [advance]
  split
  · exact .zero
  · next hbelow =>
    refine ⟨not_le.mp hbelow, Nat.succ_le_succ h.within, ?_⟩
    intro found hfound p hp
    rcases List.mem_cons.mp hfound with rfl | hrest
    · exact List.mem_singleton.mp hp
    · exact h.empty found hrest p hp

end tallied

/-- What a cycle adds to the lookups of a parent. -/
theorem looked_up_cons (parent : String) (turns : List Turn) (cycles : List (List Turn)) :
    looked_up parent (turns :: cycles) = if lookups parent turns = [] then looked_up parent cycles
      else lookups parent turns :: looked_up parent cycles := by
  unfold looked_up
  rw [List.map_cons, List.filter_cons]
  by_cases h : lookups parent turns = [] <;> simp [h]

section runs

variable {float_text : String → Option ℚ} {dry_run : Bool} {w : Watched} {c : Cycle}

/-- The counts after a cycle. -/
theorem run_once_counts (s : Resolver) (parent : String) :
    (s.run_once float_text dry_run c).no_children_counts parent =
      (probes parent (s.cycle_turns float_text dry_run c)).foldl advance
        (s.no_children_counts parent) :=
  run_candidates_counts parent

/-- What an orderly cycle keeps. -/
structure Counted (w : Watched) : Prop where
  tallied : ∀ parent, Tallied (w.resolver.no_children_counts parent) (looked_up parent w.cycles)
  rightly : RightlyGivenUp w.cycles

theorem tallied_step (h : Counted w) (hok : Orderly float_text dry_run w c) (parent : String) :
    Tallied ((w.resolver.run_once float_text dry_run c).no_children_counts parent)
      (looked_up parent (w.resolver.cycle_turns float_text dry_run c :: w.cycles)) := by
  have halone := hok.alone parent
  have hunbroken := hok.unbroken parent
  have hbefore := h.tallied parent
  rw [run_once_counts, looked_up_cons]
  generalize w.resolver.cycle_turns float_text dry_run c = turns at halone hunbroken ⊢
  by_cases hempty : Probe.empty ∈ probes parent turns
  · -- an empty lookup is the only one, and the cycle is an empty one
    rw [← foldl_advance_lookups]
    change Tallied ((lookups parent turns).foldl advance _) _
    rw [halone hempty, if_neg (by simp)]
    exact hbefore.add
  · rw [foldl_advance_of_not_empty hempty]
    by_cases hchildren : Probe.children ∈ probes parent turns
    · rw [if_pos hchildren]
      exact .zero
    · -- no lookup leaves the count, and so would an error
      rw [if_neg hchildren]
      by_cases hnone : lookups parent turns = []
      · rw [if_pos hnone]
        exact hbefore
      · -- a lookup raised, and the count is zero
        obtain ⟨p, hp⟩ := List.exists_mem_of_ne_nil _ hnone
        obtain ⟨hmem, hlookup⟩ := List.mem_filter.mp hp
        have hzero : w.resolver.no_children_counts parent = 0 := by
          cases p with
          | reactivated => cases hlookup
          | children => exact absurd hmem hchildren
          | empty => exact absurd hmem hempty
          | raised => exact (hunbroken hmem).resolve_right hchildren
        rw [hzero]
        exact .zero

/-- A mapping is given up at the third empty cycle, and nothing else was found of its parent. -/
theorem given_up_step (h : Counted w) (hok : Orderly float_text dry_run w c) {t : Turn}
    (ht : t ∈ w.resolver.cycle_turns float_text dry_run c) (hgiven : t.given_up) :
    probes t.parent_conid (w.resolver.cycle_turns float_text dry_run c) = [.empty] ∧
      ThreeEmpty t.parent_conid (w.resolver.cycle_turns float_text dry_run c :: w.cycles) := by
  have hempty : Probe.empty ∈ probes t.parent_conid
      (w.resolver.cycle_turns float_text dry_run c) := by
    rw [← hgiven.1]
    exact probe_mem_probes ht
  have halone := hok.alone _ hempty
  obtain ⟨before, after, hprobes, hreached⟩ := given_up_at ht hgiven
  -- the probes before the empty one are no lookups
  have hbefore : before.filter Probe.lookup = [] := by
    have hsplit : before.filter Probe.lookup ++ .empty :: after.filter Probe.lookup =
        [Probe.empty] := by
      rw [← halone, lookups, show probes t.parent_conid
        (w.resolver.cycle_turns float_text dry_run c) = before ++ .empty :: after from hprobes]
      simp [Probe.lookup]
    cases hfound : before.filter Probe.lookup with
    | nil => rfl
    | cons p rest =>
      rw [hfound] at hsplit
      simp at hsplit
  rw [← foldl_advance_lookups, hbefore] at hreached
  have hfinal := hok.final _ hreached hempty
  refine ⟨hfinal, ?_⟩
  obtain ⟨hbelow, hwithin, hrow⟩ := h.tallied t.parent_conid
  have hcount : w.resolver.no_children_counts t.parent_conid = 2 := by
    unfold no_children_mark_threshold at hbelow hreached
    rw [List.foldl_nil] at hreached
    omega
  rw [hcount] at hwithin hrow
  unfold ThreeEmpty
  rw [looked_up_cons, halone, if_neg (by simp)]
  refine ⟨Nat.succ_le_succ hwithin, ?_⟩
  intro found hfound p hp
  rcases List.mem_cons.mp hfound with rfl | hrest
  · exact List.mem_singleton.mp hp
  · exact hrow found hrest p hp

theorem Counted.step (h : Counted w) (hok : Orderly float_text dry_run w c) :
    Counted ⟨w.resolver.run_once float_text dry_run c,
      w.resolver.cycle_turns float_text dry_run c :: w.cycles⟩ where
  tallied := tallied_step h hok
  rightly := by
    refine ⟨fun t ht hgiven => ?_, h.rightly⟩
    obtain ⟨hprobes, hthree⟩ := given_up_step h hok ht hgiven
    refine ⟨hthree, fun u hu hparent => ?_⟩
    -- the cycle came to one mapping of the parent
    obtain ⟨only, honly, -⟩ := List.map_eq_singleton_iff.mp hprobes
    have hmem : ∀ v ∈ w.resolver.cycle_turns float_text dry_run c,
        v.parent_conid = t.parent_conid → v = only := by
      intro v hv hsame
      have hfilter : v ∈ (w.resolver.cycle_turns float_text dry_run c).filter
          (·.parent_conid = t.parent_conid) := List.mem_filter.mpr ⟨hv, decide_eq_true hsame⟩
      rw [honly] at hfilter
      exact List.mem_singleton.mp hfilter
    rw [hmem u hu hparent, ← hmem t ht rfl]
    exact hgiven.2

/-- In every orderly run, a parent is given up after three empty cycles in a row, and with it
    every mapping that the cycle comes to. -/
theorem given_up_rightly
    (hw : Reachable ((watched float_text dry_run).restrict (Orderly float_text dry_run)) w) :
    RightlyGivenUp w.cycles := by
  have hcounted : Invariant ((watched float_text dry_run).restrict (Orderly float_text dry_run))
      Counted := by
    apply Invariant.of_step
    · rintro w rfl
      exact ⟨fun parent => .zero, trivial⟩
    · rintro w c w' h ⟨hok, rfl⟩
      exact h.step hok
  exact (hcounted w hw).rightly

end runs

/-- A cycle that comes to one mapping is orderly, unless the lookup raises. -/
theorem orderly_of_one {float_text : String → Option ℚ} {dry_run : Bool} {w : Watched} {c : Cycle}
    {t : Turn} (h : w.resolver.cycle_turns float_text dry_run c = [t])
    (hraised : t.probe ≠ .raised) : Orderly float_text dry_run w c := by
  have hprobes : ∀ parent p, p ∈ probes parent [t] → probes parent [t] = [p] ∧ p = t.probe := by
    intro parent p hp
    rw [probes_cons] at hp ⊢
    split at hp
    · next hparent =>
      obtain rfl := List.mem_singleton.mp hp
      exact ⟨if_pos hparent, rfl⟩
    · cases hp
  rw [← h] at hprobes
  refine ⟨fun parent hempty => ?_, fun parent _ hempty => (hprobes parent _ hempty).1, ?_⟩
  · rw [lookups, (hprobes parent _ hempty).1]
    rfl
  · intro parent hmem
    exact absurd (hprobes parent _ hmem).2.symm hraised

/-! ### Mappings of one parent -/

/-- A lookup is answered, and the store marks what it is asked to. -/
def childless (reply : Except (Option ℕ) (List Child)) : Answers where
  parent_snapshots := [some (.obj [])]
  children := reply
  child_snapshots := []
  row := none
  upserted := true
  marked := some true

/-- A cycle over some mappings of the event 900. -/
def event_cycle (reply : Except (Option ℕ) (List Child)) (ids : List String) : Cycle where
  candidates := ids.map fun id => (id, "900")
  answers := fun _ => childless reply

/-- What a cycle leaves. -/
def Watched.next (w : Watched) (c : Cycle) : Watched :=
  ⟨w.resolver.run_once (fun _ => none) false c,
    w.resolver.cycle_turns (fun _ => none) false c :: w.cycles⟩

/-- Nothing was looked up. -/
def Watched.start : Watched := ⟨Resolver.fresh, []⟩

/-- The outcomes, the latest cycle first. -/
def Watched.outcomes (w : Watched) : List (List (String × Option Outcome)) :=
  w.cycles.map fun turns => turns.map fun t => (t.canonical_id, t.outcome)

/-- A mapping of a parent without children, cycle after cycle. -/
def empty_cycles : ℕ → Watched
  | 0 => .start
  | n + 1 => (empty_cycles n).next (event_cycle (.ok []) ["A"])

/-- `given_up_rightly` at the third cycle. -/
theorem given_up_rightly_third :
    (empty_cycles 3).outcomes = [[("A", some .marked_unavailable)], [("A", some .no_children)],
      [("A", some .no_children)]] ∧ RightlyGivenUp (empty_cycles 3).cycles := by
  have hstart : Reachable ((watched (fun _ => none) false).restrict
      (Orderly (fun _ => none) false)) .start := .init rfl
  have hturn (n : ℕ) (t : Turn) (hprobe : t.probe ≠ .raised)
      (h : (empty_cycles n).resolver.cycle_turns (fun _ => none) false
        (event_cycle (.ok []) ["A"]) = [t])
      (hr : Reachable ((watched (fun _ => none) false).restrict
        (Orderly (fun _ => none) false)) (empty_cycles n)) :
      Reachable ((watched (fun _ => none) false).restrict
        (Orderly (fun _ => none) false)) (empty_cycles (n + 1)) :=
    hr.step ⟨orderly_of_one h hprobe, rfl⟩
  have hone := hturn 0 ⟨"A", "900", .empty, some .no_children⟩ (by decide)
    (by decide +kernel) hstart
  have htwo := hturn 1 ⟨"A", "900", .empty, some .no_children⟩ (by decide)
    (by decide +kernel) hone
  have hthree := hturn 2 ⟨"A", "900", .empty, some .marked_unavailable⟩ (by decide)
    (by decide +kernel) htwo
  exact ⟨by decide +kernel, given_up_rightly hthree⟩

/-- Three mappings of a parent without children, in one cycle. -/
def three_mappings : Watched := Watched.start.next (event_cycle (.ok []) ["A", "B", "C"])

/-- One mapping, with an error after the first of three empty cycles. -/
def error_between : Watched :=
  let interrupted := (empty_cycles 1).next (event_cycle (.error (some 503)) ["A"])
  (interrupted.next (event_cycle (.ok []) ["A"])).next (event_cycle (.ok []) ["A"])

theorem not_rightly_given_up {cycles : List (List Turn)}
    (h : ∃ t ∈ cycles.headD [], t.given_up ∧ ¬ ThreeEmpty t.parent_conid cycles) :
    ¬ RightlyGivenUp cycles := by
  obtain ⟨t, ht, hgiven, hnot⟩ := h
  cases cycles with
  | nil => cases ht
  | cons turns earlier => exact fun hrightly => hnot (hrightly.1 t ht hgiven).1

/-- **A parent is given up too early.** Of three mappings that are looked up in one cycle, the
    last is marked, and the first two are not; and an error in between is passed over. -/
theorem given_up_early :
    (Reachable (watched (fun _ => none) false) three_mappings ∧
      three_mappings.outcomes = [[("A", some .no_children), ("B", some .no_children),
        ("C", some .marked_unavailable)]] ∧ ¬ RightlyGivenUp three_mappings.cycles) ∧
    Reachable (watched (fun _ => none) false) error_between ∧
      error_between.outcomes = [[("A", some .marked_unavailable)], [("A", some .no_children)],
        [("A", some .ibkr_503)], [("A", some .no_children)]] ∧
      ¬ RightlyGivenUp error_between.cycles := by
  have hstart : Reachable (watched (fun _ => none) false) .start := .init rfl
  refine ⟨⟨hstart.step rfl, by decide +kernel, ?_⟩,
    (((hstart.step rfl).step rfl).step rfl).step rfl, by decide +kernel, ?_⟩
  · exact not_rightly_given_up (by decide +kernel)
  · exact not_rightly_given_up (by decide +kernel)

end ChildResolver
