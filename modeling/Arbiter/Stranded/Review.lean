import Arbiter.Stranded.Runs

/-! # A Cycle after its Survey

  What a cycle of the reconciler makes of the lots it has read, lot by lot: what it knows of
  a lot is carried over, the hedged part is netted, the decision is taken. The rules hold in
  every environment that answers for the store and the engine.

  ## Contents

  - Section 1: lookups in the tracker.
  - Section 2: the lots of a cycle.
  - Section 3: the review of a lot.
  - Section 4: the cycle, from the survey on.
  - Section 5: what follows the review leaves the lots alone.
-/

namespace Stranded

open Effect Execution

/-! ## Section 1: Lookups -/

namespace Tracker

variable {t : Tracker} {pos : StrandedPosition} {key : Key}

theorem lookup_eq_some_iff : t.lookup key = some pos ↔ pos ∈ t.entries ∧ pos.key = key := by
  unfold lookup
  constructor
  · intro h
    exact ⟨List.mem_of_find?_eq_some h, by simpa using List.find?_some h⟩
  · rintro ⟨hmem, rfl⟩
    cases hfound : t.entries.find? fun p => p.key = pos.key with
    | none => simpa using List.find?_eq_none.mp hfound pos hmem
    | some other =>
      have hkey : other.key = pos.key := by simpa using List.find?_some hfound
      rw [List.inj_on_of_nodup_map t.nodup (List.mem_of_find?_eq_some hfound) hmem hkey]

theorem lookup_eq_none_iff : t.lookup key = none ↔ t.has key = false := by
  rw [has, Option.isSome_eq_false_iff, Option.isNone_iff_eq_none]

/-- A lot written in place is found under its own key only. -/
theorem find?_written (h : key ≠ pos.key) (l : List StrandedPosition) :
    (FirstMatch.update (fun p => decide (p.key = pos.key)) (fun _ => pos) l).find?
      (fun p => decide (p.key = key)) = l.find? fun p => decide (p.key = key) := by
  induction l with
  | nil => rfl
  | cons p l ih =>
    simp only [FirstMatch.update]
    split
    case isTrue hp => simp [of_decide_eq_true hp, Ne.symm h]
    case isFalse => simp only [List.find?_cons, ih]

theorem lookup_put_ne (h : key ≠ pos.key) : (t.put pos).lookup key = t.lookup key := by
  unfold put
  split
  · exact find?_written h t.entries
  · simp [lookup, List.find?_append, Ne.symm h]

theorem lookup_erase : (t.erase key).lookup key = none := by
  rw [lookup_eq_none_iff, ← Bool.not_eq_true, has_erase]
  exact fun h => h.2 rfl

theorem lookup_erase_ne {other : Key} (h : other ≠ key) :
    (t.erase key).lookup other = t.lookup other := by
  unfold lookup erase
  dsimp only
  rw [List.find?_filter]
  congr 1
  funext pos
  by_cases hkey : pos.key = other <;> simp [hkey, h]

theorem lookup_map {f : StrandedPosition → StrandedPosition} (hf : ∀ pos, (f pos).key = pos.key) :
    (t.map f hf).lookup key = (t.lookup key).map f := by
  unfold lookup map
  dsimp only
  rw [List.find?_map]
  simp only [Function.comp_def, hf]

end Tracker

/-! ## Section 2: The lots of a cycle -/

/-- The state once the venues are read. -/
def followed (sight : Sighting) (s : Reconciler) : Reconciler :=
  prune sight (merge s sight.observed)

/-- Lots after a cycle's reading: those that were seen, and those of a venue that was not
    read. -/
def lot_followed (sight : Sighting) (s : Reconciler) (key : Key) : Option StrandedPosition :=
  match sight.observed.lookup key with
  | some pos => some (carry_over (s.tracked.lookup key) pos)
  | none => if key.1 ∈ sight.failed_platforms then s.tracked.lookup key else none

section followed

variable {sight : Sighting} {s : Reconciler} {key : Key}

theorem merge_one_lookup (s : Reconciler) (pos : StrandedPosition) :
    (merge_one s pos).tracked.lookup pos.key =
      some (carry_over (s.tracked.lookup pos.key) pos) := by
  have hput := Tracker.lookup_put s.tracked (carry_over (s.tracked.lookup pos.key) pos)
  rwa [carry_over_key] at hput

theorem merge_one_lookup_ne {pos : StrandedPosition} (h : key ≠ pos.key) :
    (merge_one s pos).tracked.lookup key = s.tracked.lookup key :=
  Tracker.lookup_put_ne (by rwa [carry_over_key])

theorem foldl_merge_lookup {l : List StrandedPosition} (hnodup : (l.map (·.key)).Nodup) :
    (l.foldl merge_one s).tracked.lookup key =
      match l.find? fun pos => pos.key = key with
      | some pos => some (carry_over (s.tracked.lookup key) pos)
      | none => s.tracked.lookup key := by
  induction l generalizing s with
  | nil => rfl
  | cons pos l ih =>
    obtain ⟨hfresh, hrest⟩ := List.nodup_cons.mp hnodup
    rw [List.foldl_cons, ih hrest]
    by_cases hkey : pos.key = key
    · subst hkey
      -- the key does not come again
      have hnone : (l.find? fun p => p.key = pos.key) = none := by
        refine List.find?_eq_none.mpr fun p hp heq => hfresh ?_
        exact List.mem_map.mpr ⟨p, hp, of_decide_eq_true heq⟩
      rw [hnone, List.find?_cons_of_pos (by simp)]
      exact merge_one_lookup s pos
    · rw [List.find?_cons_of_neg (by simpa using hkey), merge_one_lookup_ne (Ne.symm hkey)]

theorem prune_one_lookup (pos : StrandedPosition) :
    (prune_one sight s pos).tracked.lookup key =
      if key = pos.key ∧ Gone sight key then none else s.tracked.lookup key := by
  by_cases hgone : Gone sight pos.key
  · have herased : (prune_one sight s pos).tracked = s.tracked.erase pos.key := by
      have hkept : ¬ (pos.platform ∈ sight.failed_platforms ∨ sight.observed.has pos.key = true) :=
        not_or.mpr ⟨hgone.1, Bool.not_eq_true _ ▸ hgone.2⟩
      unfold prune_one
      rw [if_neg hkept]
      dsimp only
      split <;> rfl
    rw [herased]
    by_cases hkey : key = pos.key
    · rw [if_pos ⟨hkey, hkey ▸ hgone⟩, hkey]
      exact Tracker.lookup_erase
    · rw [if_neg fun h => hkey h.1]
      exact Tracker.lookup_erase_ne hkey
  · rw [prune_one_of_not_gone hgone, if_neg]
    rintro ⟨rfl, h⟩
    exact hgone h

theorem foldl_prune_lookup (l : List StrandedPosition) :
    (l.foldl (prune_one sight) s).tracked.lookup key =
      if key ∈ l.map (·.key) ∧ Gone sight key then none else s.tracked.lookup key := by
  induction l generalizing s with
  | nil => simp
  | cons pos l ih =>
    rw [List.foldl_cons, ih, prune_one_lookup, List.map_cons]
    by_cases hgone : Gone sight key
    · simp only [hgone, and_true, List.mem_cons]
      by_cases hkey : key = pos.key
      · rw [if_pos hkey, if_pos (.inl hkey : key = pos.key ∨ _), ite_self]
      · simp only [hkey, if_false, false_or]
    · simp only [hgone, and_false, if_false]

theorem followed_lookup : (followed sight s).tracked.lookup key = lot_followed sight s key := by
  have hmerged : (merge s sight.observed).tracked.lookup key =
      match sight.observed.lookup key with
      | some pos => some (carry_over (s.tracked.lookup key) pos)
      | none => s.tracked.lookup key := foldl_merge_lookup sight.observed.nodup
  unfold followed prune lot_followed
  rw [foldl_prune_lookup]
  cases hseen : sight.observed.lookup key with
  | some pos =>
    rw [hseen] at hmerged
    have hhas : sight.observed.has key = true := by simp [Tracker.has, hseen]
    have hkept : ¬ Gone sight key := fun h => absurd h.2 (by simp [hhas])
    rw [if_neg fun h => hkept h.2, hmerged]
  | none =>
    rw [hseen] at hmerged
    have hhas : sight.observed.has key = false := Tracker.lookup_eq_none_iff.mp hseen
    by_cases hfailed : key.1 ∈ sight.failed_platforms
    · rw [if_neg fun h => h.2.1 hfailed, hmerged]
      exact (if_pos hfailed).symm
    · dsimp only
      rw [if_neg hfailed, ite_eq_left_iff]
      intro h
      have hgone : Gone sight key := ⟨hfailed, hhas⟩
      refine Tracker.lookup_eq_none_iff.mpr ((Bool.not_eq_true _).mp fun hhas => ?_)
      exact h ⟨(Tracker.has_iff _ _).mp hhas, hgone⟩

end followed

/-! ## Section 3: Reviews -/

/-- What the store and the engine say in one cycle. -/
structure Opinions where
  inventory : Option Inventory
  decision : StrandedPosition → Option MitigationDecision

/-- The inventory the netting goes by. -/
def Opinions.paired (cfg : Config) (o : Opinions) : Inventory :=
  if cfg.has_store then o.inventory.getD fun _ _ _ => 0 else fun _ _ _ => 0

/-- A lot with its hedged part. -/
def netted (inventory : Inventory) (pos : StrandedPosition) : StrandedPosition :=
  { pos with paired_qty := covered_qty pos inventory }

/-- A lot with the engine's decision on it, unless it is hedged. -/
def decided (decision : StrandedPosition → Option MitigationDecision) (pos : StrandedPosition) :
    StrandedPosition :=
  if pos.fully_paired then pos
  else
    match decision (residual_view pos) with
    | none => pos
    | some d => { pos with mitigation_decision := some d }

/-- What the refresh of the decisions makes of a lot. -/
def refreshed (cfg : Config) (o : Opinions) (deferred : Bool) (pos : StrandedPosition) :
    StrandedPosition :=
  if deferred then pos
  else if cfg.has_mitigation_engine then decided o.decision (hold_paired pos)
  else hold_paired pos

/-- What a cycle makes of a lot it follows. -/
def reviewed_lot (cfg : Config) (o : Opinions) (deferred : Bool) (pos : StrandedPosition) :
    StrandedPosition :=
  refreshed cfg o deferred (netted (o.paired cfg) pos)

theorem decided_key (decision : StrandedPosition → Option MitigationDecision)
    (pos : StrandedPosition) : (decided decision pos).key = pos.key := by
  unfold decided
  split
  · rfl
  · cases decision (residual_view pos) <;> rfl

theorem refreshed_key (cfg : Config) (o : Opinions) (deferred : Bool) (pos : StrandedPosition) :
    (refreshed cfg o deferred pos).key = pos.key := by
  unfold refreshed
  split_ifs
  · rfl
  · exact (decided_key _ _).trans (hold_paired_key _)
  · exact hold_paired_key _

theorem reviewed_lot_key (cfg : Config) (o : Opinions) (deferred : Bool)
    (pos : StrandedPosition) : (reviewed_lot cfg o deferred pos).key = pos.key :=
  refreshed_key _ _ _ _

/-- A venue could not be read. -/
def Sighting.deferred (sight : Sighting) : Bool := !sight.failed_platforms.isEmpty

/-- The state once every lot is reviewed. -/
def reviewed (cfg : Config) (o : Opinions) (sight : Sighting) (s : Reconciler) : Reconciler :=
  { followed sight s with
    tracked := (followed sight s).tracked.map (reviewed_lot cfg o sight.deferred)
      (reviewed_lot_key cfg o sight.deferred) }

theorem reviewed_lookup {cfg : Config} {o : Opinions} {sight : Sighting} {s : Reconciler}
    {key : Key} : (reviewed cfg o sight s).tracked.lookup key =
      (lot_followed sight s key).map (reviewed_lot cfg o sight.deferred) := by
  rw [← followed_lookup]
  exact Tracker.lookup_map (reviewed_lot_key cfg o sight.deferred)

/-! ## Section 4: From the survey on -/

/-- A cycle once the lots are reviewed. `s₀` is the state it began with. -/
def after_review (cfg : Config) (s₀ : Reconciler) (sight : Sighting) (s : Reconciler) :
    Recon Reconciler := do
  announce_all cfg ((new_keys s₀ sight.observed).filterMap s.tracked.lookup)
  let s ← mitigate cfg sight.deferred s
  sweep_phantom_records cfg (sight.observed.entries.map (·.key)) sight.failed_platforms s

/-- A cycle once the venues are read. -/
def after_survey (cfg : Config) (s₀ : Reconciler) (sight : Sighting) : Recon Reconciler := do
  let s ← net cfg (followed sight s₀)
  let s ← refresh_decisions cfg sight.deferred s
  after_review cfg s₀ sight s

/-- A cycle is a survey, and what follows it. -/
theorem run_once_eq (cfg : Config) (s : Reconciler) :
    run_once cfg s = survey cfg >>= after_survey cfg s := rfl

section rules

universe u

variable {W : Type u} {E : Env Call Answer W} {cfg : Config} {o : Opinions} {s : Reconciler}
  {sight : Sighting} {w : W}

/-- In the environment the store and the engine say that, and asking changes nothing. -/
structure Says (E : Env Call Answer W) (o : Opinions) : Prop where
  inventory : ∀ w a w', E.serve w .paired_inventory_by_market a w' → a = o.inventory ∧ w' = w
  decision : ∀ w view a w', E.serve w (.decide view) a w' → a = o.decision view ∧ w' = w

theorem load_paired_inventory_tells (h : Says E o) :
    wp E (load_paired_inventory cfg) (fun inventory w' => inventory = o.paired cfg ∧ w' = w) w := by
  unfold load_paired_inventory Opinions.paired
  rw [wp_ite]
  refine ⟨fun hstore => ?_, fun hstore => wp_pure.2 ⟨(if_neg hstore).symm, rfl⟩⟩
  rw [wp_bind, wp_send, if_pos hstore]
  intro a w' hs
  obtain ⟨rfl, rfl⟩ := h.inventory _ _ _ hs
  exact wp_pure.2 ⟨rfl, rfl⟩

theorem net_tells (h : Says E o) :
    wp E (net cfg s) (fun s' w' =>
      s' = { s with tracked := s.tracked.map (netted (o.paired cfg)) fun _ => rfl } ∧ w' = w) w := by
  unfold net
  rw [wp_bind]
  refine wp_mono (load_paired_inventory_tells h) fun inventory w' hi => ?_
  obtain ⟨rfl, rfl⟩ := hi
  exact wp_pure.2 ⟨rfl, rfl⟩

theorem decide_one_tells (h : Says E o) (pos : StrandedPosition) :
    wp E (decide_one pos) (fun pos' w' => pos' = decided o.decision pos ∧ w' = w) w := by
  unfold decide_one decided
  rw [wp_ite]
  refine ⟨fun hpaired => ?_, fun hpaired => ?_⟩
  · rw [if_pos hpaired]
    exact wp_pure.2 ⟨rfl, rfl⟩
  · rw [wp_bind, wp_send, if_neg hpaired]
    intro a w' hs
    obtain ⟨rfl, rfl⟩ := h.decision _ _ _ _ hs
    cases o.decision (residual_view pos) with
    | none => exact wp_pure.2 ⟨rfl, rfl⟩
    | some d => exact wp_pure.2 ⟨rfl, rfl⟩

/-- Writing the next lot of a list in place. -/
theorem put_next {t : Tracker} {done rest : List StrandedPosition} {pos pos' : StrandedPosition}
    (ht : t.entries = done ++ pos :: rest) (hkey : pos'.key = pos.key) :
    (t.put pos').entries = done ++ pos' :: rest := by
  have hhas : t.has pos'.key = true := by
    rw [Tracker.has_iff, ht, hkey]
    simp
  have hdone : ∀ p ∈ done, p.key ≠ pos'.key := by
    intro p hp heq
    have hnodup := t.nodup
    rw [ht, List.map_append, List.nodup_append] at hnodup
    exact hnodup.2.2 p.key (List.mem_map_of_mem hp) pos.key (by simp) (heq.trans hkey)
  unfold Tracker.put
  rw [dif_pos hhas]
  show FirstMatch.update _ _ t.entries = _
  rw [ht]
  clear ht hhas
  induction done with
  | nil => simp [FirstMatch.update, hkey]
  | cons p done ih =>
    have hp := hdone p List.mem_cons_self
    simp only [List.cons_append, FirstMatch.update, hp, decide_false, Bool.false_eq_true, if_false]
    rw [ih fun q hq => hdone q (List.mem_cons_of_mem _ hq)]

theorem decide_all_tells (h : Says E o) {l done : List StrandedPosition} {t : Tracker}
    (ht : t.entries = done ++ l) :
    wp E (decide_all l t) (fun t' w' =>
      t'.entries = done ++ l.map (decided o.decision) ∧ w' = w) w := by
  induction l generalizing t done with
  | nil => exact wp_pure.2 ⟨ht, rfl⟩
  | cons pos l ih =>
    unfold decide_all
    rw [wp_bind]
    refine wp_mono (decide_one_tells h pos) fun pos' w' hpos => ?_
    obtain ⟨rfl, rfl⟩ := hpos
    have hput := put_next ht (decided_key o.decision pos)
    rw [List.append_cons] at hput
    refine wp_mono (ih hput) fun t' w' h' => ?_
    rwa [List.append_assoc] at h'

/-- Trackers with the same entries are the same. -/
theorem same_tracked {t t' : Tracker} (h : t.entries = t'.entries) :
    ({ s with tracked := t } : Reconciler) = { s with tracked := t' } := by
  cases t
  cases t'
  cases h
  rfl

theorem refresh_tells (h : Says E o) (deferred : Bool) :
    wp E (refresh_decisions cfg deferred s) (fun s' w' =>
      s' = { s with
        tracked := s.tracked.map (refreshed cfg o deferred) (refreshed_key cfg o deferred) } ∧
      w' = w) w := by
  unfold refresh_decisions
  simp only [wp_ite]
  refine ⟨fun hdeferred => ?_, fun hdeferred => ⟨fun hengine => ?_, fun hengine => ?_⟩⟩
  · have hsame : s.tracked.entries.map (refreshed cfg o deferred) = s.tracked.entries.map id :=
      List.map_congr_left fun pos _ => if_pos hdeferred
    exact wp_pure.2 ⟨same_tracked (s := s) (hsame.trans (List.map_id _)).symm, rfl⟩
  · rw [wp_bind]
    refine wp_mono (decide_all_tells h (List.nil_append _).symm) fun t w' ht => wp_pure.2 ?_
    refine ⟨same_tracked (ht.1.trans ?_), ht.2⟩
    show List.map _ (List.map _ _) = _
    rw [List.map_map]
    exact List.map_congr_left fun pos _ => ((if_neg hdeferred).trans (if_pos hengine)).symm
  · refine wp_pure.2 ⟨same_tracked (List.map_congr_left fun pos _ => ?_), rfl⟩
    exact ((if_neg hdeferred).trans (if_neg hengine)).symm

/-- **The review**: it leaves the world alone, and does to every lot what its review says. -/
theorem review_says (h : Says E o) {Q : Reconciler → W → Prop}
    (hQ : wp E (after_review cfg s sight (reviewed cfg o sight s)) Q w) :
    wp E (after_survey cfg s sight) Q w := by
  unfold after_survey
  rw [wp_bind]
  refine wp_mono (net_tells h) fun s₁ w₁ h₁ => ?_
  obtain ⟨rfl, rfl⟩ := h₁
  rw [wp_bind]
  refine wp_mono (refresh_tells h sight.deferred) fun s₂ w₂ h₂ => ?_
  obtain ⟨rfl, rfl⟩ := h₂
  have hreviewed : reviewed cfg o sight s = { followed sight s with
      tracked := ((followed sight s).tracked.map (netted (o.paired cfg)) fun _ => rfl).map
        (refreshed cfg o sight.deferred) (refreshed_key cfg o sight.deferred) } := by
    refine same_tracked (s := followed sight s) ?_
    show List.map _ _ = List.map _ (List.map _ _)
    rw [List.map_map]
    rfl
  rwa [hreviewed] at hQ

/-! ## Section 5: What follows the review -/

/-- In any world, the lots are in the end what they were. -/
def LeavesLots (E : Env Call Answer W) (s : Reconciler) (p : Recon Reconciler) : Prop :=
  ∀ w, wp E p (fun s' _ => s'.tracked = s.tracked) w

theorem leaves_ret {s s₁ : Reconciler} (h : s₁.tracked = s.tracked) :
    LeavesLots E s (.ret s₁) := fun _ => wp_ret.2 h

/-- What comes before may be anything. -/
theorem leaves_bind {β : Type} {p : Recon β} {f : β → Recon Reconciler}
    (hf : ∀ b, LeavesLots E s (f b)) : LeavesLots E s (p >>= f) :=
  fun _ => wp_bind.2 fun b w' _ => hf b w'

/-- A program that leaves the lots alone, and another. -/
theorem LeavesLots.bind {p : Recon Reconciler} {f : Reconciler → Recon Reconciler}
    (hp : LeavesLots E s p) (hf : ∀ s₁, s₁.tracked = s.tracked → LeavesLots E s (f s₁)) :
    LeavesLots E s (p >>= f) :=
  fun w => wp_bind.2 (wp_mono (hp w) fun s₁ w₁ h₁ => hf s₁ h₁ w₁)

theorem leaves_ite {c : Prop} [Decidable c] {p q : Recon Reconciler}
    (hp : c → LeavesLots E s p) (hq : ¬ c → LeavesLots E s q) :
    LeavesLots E s (if c then p else q) := by
  by_cases hc : c
  · rw [if_pos hc]
    exact hp hc
  · rw [if_neg hc]
    exact hq hc

theorem mark_close_attempt_leaves {s₁ : Reconciler} (h : s₁.tracked = s.tracked) (key : Key) :
    LeavesLots E s (mark_close_attempt s₁ key) :=
  leaves_bind fun _ => leaves_ret h

theorem submit_leaves {pos : StrandedPosition} {qty : ℕ} {place : Recon Placement} :
    LeavesLots E s (submit cfg s pos qty place) := by
  have hcap : ∀ w, wp E (cum_cap_allows cfg s pos qty)
      (fun r _ => r.1.tracked = s.tracked) w := by
    intro w
    unfold cum_cap_allows
    dsimp only
    rw [wp_ite]
    refine ⟨fun _ => wp_pure.2 rfl, fun _ => ?_⟩
    rw [wp_bind]
    refine wp_mono (mark_close_attempt_leaves ?_ pos.key w) fun s₁ w₁ (h₁ : _ = s.tracked) => ?_
    · exact rfl
    rw [wp_ite]
    exact ⟨fun _ => wp_bind.2 fun _ _ _ => wp_pure.2 h₁, fun _ => wp_pure.2 h₁⟩
  intro w
  unfold submit
  rw [wp_bind]
  refine wp_mono (hcap w) fun r w₁ h₁ => ?_
  obtain ⟨s₁, allowed⟩ := r
  refine leaves_ite (fun _ => leaves_ret h₁) (fun _ => leaves_bind fun placement => ?_) w₁
  cases placement with
  | returned order =>
    exact (mark_close_attempt_leaves h₁ pos.key).bind fun s₂ h₂ =>
      leaves_bind fun _ => leaves_ret h₂
  | raised err accepted => exact mark_close_attempt_leaves h₁ pos.key

theorem act_on_leaves {pos : StrandedPosition} : LeavesLots E s (act_on cfg s pos) := by
  have hmark : LeavesLots E s (mark_close_attempt s pos.key) := mark_close_attempt_leaves rfl _
  unfold act_on
  split
  · unfold execute_decision
    split
    · unfold execute_complete_arb
      refine leaves_ite (fun _ => hmark) fun _ => leaves_ite (fun _ => ?_) fun _ => submit_leaves
      exact leaves_bind fun quotes => leaves_ite (fun _ => submit_leaves) fun _ => hmark
    · exact leaves_ite (fun _ => hmark) fun _ => submit_leaves
    · exact leaves_ret rfl
  · exact leaves_ite (fun _ => submit_leaves) fun _ => leaves_ret rfl

theorem mitigate_one_leaves {pos : StrandedPosition} :
    LeavesLots E s (mitigate_one cfg s pos) :=
  leaves_ite (fun _ => leaves_ret rfl) fun _ => leaves_bind fun _ =>
    leaves_ite (fun _ => leaves_ret rfl) fun _ => leaves_bind fun _ =>
      leaves_ite (fun _ => act_on_leaves) fun _ => leaves_ret rfl

theorem mitigate_leaves {deferred : Bool} : LeavesLots E s (mitigate cfg deferred s) := by
  have hall (lots : List StrandedPosition) {s₁ : Reconciler} (h : s₁.tracked = s.tracked) :
      LeavesLots E s (mitigate_all cfg lots s₁) := by
    induction lots generalizing s₁ with
    | nil => exact leaves_ret h
    | cons pos lots ih =>
      refine fun w => wp_bind.2 (wp_mono (mitigate_one_leaves w) fun s₂ w₂ h₂ => ?_)
      exact ih (h₂.trans h) w₂
  exact leaves_ite (fun _ => hall _ rfl) fun _ => leaves_ret rfl

theorem sweep_arbs_leaves {covered : List String} {raw : List Key} (arbs : List ListedArb)
    {resolved : ℕ} {seen : List String} {s₁ : Reconciler} (h : s₁.tracked = s.tracked) (w : W) :
    wp E (sweep_arbs cfg covered raw arbs resolved seen s₁)
      (fun r _ => r.1.tracked = s.tracked) w := by
  induction arbs generalizing resolved seen s₁ w with
  | nil => exact wp_pure.2 h
  | cons arb rest ih =>
    unfold sweep_arbs
    simp only [wp_ite]
    refine ⟨fun _ => ih h w, fun _ => ⟨fun _ => ih (by exact h) w, fun _ =>
      ⟨fun _ => ih (by exact h) w, fun _ => ?_⟩⟩⟩
    rw [wp_bind, wp_send]
    intro answer w₁ _
    cases answer with
    | none => exact wp_pure.2 h
    | some _ =>
      dsimp only
      rw [wp_bind]
      intro _ w₂ _
      rw [wp_ite]
      exact ⟨fun _ => wp_pure.2 h, fun _ => ih (by exact h) w₂⟩

theorem sweep_leaves {raw : List Key} {failed_platforms : List String} :
    LeavesLots E s (sweep_phantom_records cfg raw failed_platforms s) := by
  refine leaves_ite (fun _ => leaves_ret rfl) fun _ => leaves_bind fun covered =>
    leaves_bind fun answer => ?_
  cases answer with
  | none => exact leaves_ret rfl
  | some arbs =>
    refine fun w => wp_bind.2 (wp_mono (sweep_arbs_leaves arbs rfl w) fun r w₁ h₁ => ?_)
    obtain ⟨s₁, seen⟩ := r
    cases seen <;> exact wp_pure.2 h₁

theorem after_review_leaves {s₀ : Reconciler} : LeavesLots E s (after_review cfg s₀ sight s) :=
  leaves_bind fun _ => mitigate_leaves.bind fun _ h => fun w =>
    wp_mono (sweep_leaves w) fun _ _ h' => h'.trans h

end rules

end Stranded
