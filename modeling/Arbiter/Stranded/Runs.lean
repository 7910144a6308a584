import Arbiter.Framework.System
import Arbiter.Stranded.Cycle

/-! # Runs of the Reconciler

  What the venues and the store say in one cycle, what the cycle does, and the
  system of all sequences of cycles.

  ## Contents

  - Section 1: the inputs of a cycle.
  - Section 2: the deeds of a cycle, and its environment.
  - Section 3: what a survey brings.
  - Section 4: merging and pruning.
  - Section 5: netting and deciding leave the books alone.
  - Section 6: sequences of cycles.
-/

namespace Stranded

open Effect Execution LTS

/-! ## Section 1: Inputs -/

/-- What the venues and the store say in one cycle. -/
structure Inputs where
  /-- The credentials, as the fetchers find them. -/
  configured : String → Bool
  kalshi : Option Response
  polymarket : Option (Json ℚ)
  forecastex : Option (List (Json ℚ))
  /-- The credentials, as the sweep finds them. -/
  available : String → Bool
  /-- The non-terminal arbs, when listing them does not raise. -/
  records : Option (List ListedArb)
  /-- `arb_id` is the primary key. -/
  records_nodup : ∀ arbs, records = some arbs → (arbs.map (·.arb_id)).Nodup
  /-- Closing the record raises. -/
  update_raises : ListedArb → Bool

/-- Where no arbs are listed, none is listed twice. -/
theorem no_records_nodup : ∀ arbs : List ListedArb, some [] = some arbs →
    (arbs.map (·.arb_id)).Nodup := by
  intro arbs h
  cases h
  exact List.nodup_nil

/-- The venues, in the order they are fetched. -/
def platforms : List String := ["kalshi", "polymarket", "forecastex"]

namespace Inputs

/-- The lots a platform's fetch brings; nothing when it raises. -/
def fetched (cfg : Config) (inp : Inputs) (platform : String) : Option (List Lot) :=
  if platform = "kalshi" then
    if inp.configured "kalshi" then inp.kalshi.bind (kalshi_lots cfg) else some []
  else if platform = "polymarket" then
    if cfg.polymarket_us = false then some []
    else if inp.configured "polymarket" then inp.polymarket.bind (polymarket_lots cfg)
    else some []
  else if platform = "forecastex" then
    if inp.configured "forecastex" then inp.forecastex.bind (forecastex_lots cfg) else some []
  else some []

/-- The platforms whose fetch raises. -/
def failed (cfg : Config) (inp : Inputs) : List String :=
  platforms.filter fun platform => (inp.fetched cfg platform).isNone

/-- Key and quantity of a lot. -/
def sized (platform : String) (lot : Lot) : Key × ℚ := ((platform, lot.market_id), lot.qty)

/-- Every lot that is listed, with its quantity. -/
def lots (cfg : Config) (inp : Inputs) : List (Key × ℚ) :=
  platforms.flatMap fun platform => ((inp.fetched cfg platform).getD []).map (sized platform)

/-- A lot under the key is listed. -/
def lists (cfg : Config) (inp : Inputs) (key : Key) : Prop := key ∈ (inp.lots cfg).map Prod.fst

instance (cfg : Config) (inp : Inputs) (key : Key) : Decidable (inp.lists cfg key) := by
  unfold lists; infer_instance

/-- The venue was read: asked with credentials, and it answered with its portfolio. -/
def reads (cfg : Config) (inp : Inputs) (platform : String) : Prop :=
  platform ∈ platforms ∧ inp.configured platform = true ∧
    (platform = "polymarket" → cfg.polymarket_us = true) ∧
    (platform = "kalshi" → inp.kalshi.map Response.status = some 200) ∧
    inp.fetched cfg platform ≠ none

instance (cfg : Config) (inp : Inputs) (platform : String) : Decidable (inp.reads cfg platform) := by
  unfold reads
  exact decidable_of_iff (platform ∈ platforms ∧ inp.configured platform = true ∧
    (platform = "polymarket" → cfg.polymarket_us = true) ∧
    (platform = "kalshi" → inp.kalshi.map Response.status = some 200) ∧
    (inp.fetched cfg platform).isSome = true) (by simp [Option.isSome_iff_ne_none])

/-- The venue of the key was read, and has no lot there. -/
def reports_flat (cfg : Config) (inp : Inputs) (key : Key) : Prop :=
  inp.reads cfg key.1 ∧ ¬ inp.lists cfg key

instance (cfg : Config) (inp : Inputs) (key : Key) : Decidable (inp.reports_flat cfg key) := by
  unfold reports_flat; infer_instance

/-- The platforms the sweep takes for authoritative. -/
def covered (cfg : Config) (inp : Inputs) : List String :=
  platforms.filter fun platform => platform ∉ inp.failed cfg ∧ inp.available platform

/-- The answers a cycle can get. -/
def answers (inp : Inputs) : (c : Call) → Answer c → Prop
  | .configured platform, a => a = inp.configured platform
  | .kalshi_positions, a => a = inp.kalshi
  | .polymarket_positions, a => a = inp.polymarket
  | .forecastex_positions, a => a = inp.forecastex
  | .venue_truth_available platform, a => a = inp.available platform
  | .list_stuck_arbs _, a => a = inp.records
  | .close_phantom_record arb, a => a = if inp.update_raises arb then none else some ()
  | _, _ => True

end Inputs

/-! ## Section 2: Deeds -/

/-- What a cycle has done so far. -/
structure Deeds where
  /-- The orders that reached a venue. -/
  submitted : List MitigationOrder
  /-- Those of them whose placement raised. -/
  lost : List MitigationOrder
  /-- The records closed as phantoms. -/
  closed : List ListedArb

/-- Nothing done yet. -/
def Deeds.none : Deeds := { submitted := [], lost := [], closed := [] }

/-- The deeds after a placement. -/
def Deeds.place (w : Deeds) (order : MitigationOrder) : Placement → Deeds
  | .returned _ => { w with submitted := order :: w.submitted }
  | .raised _ true => { w with submitted := order :: w.submitted, lost := order :: w.lost }
  | .raised _ false => w

/-- The deeds after one call. -/
def Deeds.after (w : Deeds) : (c : Call) → Answer c → Deeds
  | .place_fok _ order, a => w.place order a
  | .place_unwind_sell _ order, a => w.place order a
  | .close_phantom_record arb, _ => { w with closed := arb :: w.closed }
  | _, _ => w

/-- The environment of a cycle. -/
def venues (inp : Inputs) : Env Call Answer Deeds where
  serve := fun w c a w' => inp.answers c a ∧ w' = w.after c a

/-- Calls that do nothing. -/
def Idle : Call → Prop
  | .place_fok .. => False
  | .place_unwind_sell .. => False
  | .close_phantom_record _ => False
  | _ => True

theorem Idle.after {c : Call} (h : Idle c) (w : Deeds) (a : Answer c) : w.after c a = w := by
  cases c <;> first | rfl | exact h.elim

/-- A program of idle calls does nothing. -/
theorem idle_keeps {inp : Inputs} {α : Type} {p : Recon α} (hp : p.Calls Idle) (w : Deeds) :
    wp (venues inp) p (fun _ w' => w' = w) w := by
  have hkeep : ∀ w₁ c a w₂, Idle c → (venues inp).serve w₁ c a w₂ → w₁ = w → w₂ = w := by
    intro w₁ c a w₂ hc hs hw
    rw [hs.2, hc.after, hw]
  exact hp.keeps hkeep rfl

/-! ## Section 3: Surveys -/

section survey

variable {cfg : Config} {inp : Inputs} {w : Deeds}

/-- Key and quantity of a position. -/
def StrandedPosition.sized (pos : StrandedPosition) : Key × ℚ := (pos.key, pos.qty)

theorem quoted_sized {platform : String} {mtm : Lot → Quote → ℚ} {ask : Lot → Recon Quote}
    (hask : ∀ lot, (ask lot).Calls Idle) (lots : List Lot) :
    wp (venues inp) (quoted platform mtm ask lots)
      (fun ps w' => ps.map (·.sized) = lots.map (Inputs.sized platform) ∧ w' = w) w := by
  induction lots with
  | nil => simp [quoted]
  | cons lot rest ih =>
    unfold quoted
    rw [wp_bind]
    refine wp_mono (idle_keeps (hask lot) w) fun quote w₁ h₁ => ?_
    subst h₁
    rw [wp_bind, wp_send]
    rintro now w₂ ⟨-, rfl⟩
    rw [wp_bind]
    refine wp_mono ih fun later w₃ h₃ => ?_
    rw [wp_pure, List.map_cons, List.map_cons, h₃.1]
    exact ⟨rfl, h₃.2⟩

/-- A fetch brings the lots of the portfolio, or raises with it. -/
theorem fetch_sized {platform : String} {portfolio : Recon (Option (List Lot))}
    {mtm : Lot → Quote → ℚ} {ask : Lot → Recon Quote} {listed : Option (List Lot)}
    (hask : ∀ lot, (ask lot).Calls Idle)
    (hportfolio : wp (venues inp) portfolio (fun r w' => r = listed ∧ w' = w) w) :
    wp (venues inp) (fetch platform portfolio mtm ask)
      (fun r w' => r.map (List.map (·.sized)) =
        (if inp.configured platform then listed else some []).map
          (List.map (Inputs.sized platform)) ∧ w' = w) w := by
  unfold fetch
  rw [wp_bind, wp_send]
  rintro configured w₁ ⟨hconfigured, rfl⟩
  have hsame : configured = inp.configured platform := hconfigured
  rw [← hsame]
  cases configured with
  | false => exact wp_pure.2 ⟨rfl, rfl⟩
  | true =>
    show wp _ (portfolio >>= _) _ _
    rw [wp_bind]
    refine wp_mono hportfolio fun r w₂ h₂ => ?_
    rcases h₂ with ⟨rfl, rfl⟩
    cases r with
    | none => exact wp_pure.2 ⟨rfl, rfl⟩
    | some lots =>
      dsimp only
      rw [wp_bind]
      refine wp_mono (quoted_sized hask lots) fun ps w₃ h₃ => wp_pure.2 ?_
      exact ⟨congrArg some h₃.1, h₃.2⟩

/-- A platform's part of the survey is what its portfolio lists. -/
def Brings (cfg : Config) (inp : Inputs) (platform : String)
    (r : Option (List StrandedPosition)) : Prop :=
  r.map (List.map (·.sized)) = (inp.fetched cfg platform).map (List.map (Inputs.sized platform))

theorem fetch_kalshi_brings :
    wp (venues inp) (fetch_kalshi_positions cfg) (fun r w' => Brings cfg inp "kalshi" r ∧ w' = w)
      w := by
  have hportfolio : wp (venues inp)
      (do return (← .send Call.kalshi_positions).bind (kalshi_lots cfg))
      (fun r w' => r = inp.kalshi.bind (kalshi_lots cfg) ∧ w' = w) w := by
    rw [wp_bind, wp_send]
    rintro a w₁ ⟨ha, rfl⟩
    have hsame : a = inp.kalshi := ha
    exact wp_pure.2 ⟨by rw [hsame], rfl⟩
  refine wp_mono (fetch_sized (fun lot => ?_) hportfolio) fun r w' h => ?_
  · exact .bind (calls_send.2 trivial) fun _ => calls_pure _
  · exact ⟨by simpa [Brings, Inputs.fetched] using h.1, h.2⟩

theorem fetch_polymarket_brings :
    wp (venues inp) (fetch_polymarket_us_positions cfg)
      (fun r w' => Brings cfg inp "polymarket" r ∧ w' = w) w := by
  unfold fetch_polymarket_us_positions
  by_cases hus : cfg.polymarket_us = false
  · rw [if_pos hus]
    simp [Brings, Inputs.fetched, hus]
  · have hportfolio : wp (venues inp)
        (do return (← .send Call.polymarket_positions).bind (polymarket_lots cfg))
        (fun r w' => r = inp.polymarket.bind (polymarket_lots cfg) ∧ w' = w) w := by
      rw [wp_bind, wp_send]
      rintro a w₁ ⟨ha, rfl⟩
      have hsame : a = inp.polymarket := ha
      exact wp_pure.2 ⟨by rw [hsame], rfl⟩
    rw [if_neg hus]
    refine wp_mono (fetch_sized (fun lot => ?_) hportfolio) fun r w' h => ?_
    · exact .bind (calls_send.2 trivial) fun _ => calls_pure _
    · exact ⟨by simpa [Brings, Inputs.fetched, hus] using h.1, h.2⟩

theorem fetch_forecastex_brings :
    wp (venues inp) (fetch_forecastex_positions cfg)
      (fun r w' => Brings cfg inp "forecastex" r ∧ w' = w) w := by
  have hportfolio : wp (venues inp)
      (do return (← .send Call.forecastex_positions).bind (forecastex_lots cfg))
      (fun r w' => r = inp.forecastex.bind (forecastex_lots cfg) ∧ w' = w) w := by
    rw [wp_bind, wp_send]
    rintro a w₁ ⟨ha, rfl⟩
    have hsame : a = inp.forecastex := ha
    exact wp_pure.2 ⟨by rw [hsame], rfl⟩
  refine wp_mono (fetch_sized (fun lot => ?_) hportfolio) fun r w' h => ?_
  · exact .bind (calls_send.2 trivial) fun _ => calls_pure _
  · exact ⟨by simpa [Brings, Inputs.fetched] using h.1, h.2⟩

/-- What a survey saw is what the inputs list. -/
structure Sights (cfg : Config) (inp : Inputs) (sight : Sighting) : Prop where
  failed : sight.failed_platforms = inp.failed cfg
  sized : ∀ pos ∈ sight.observed.entries, pos.sized ∈ inp.lots cfg
  seen : ∀ key, sight.observed.has key = true ↔ inp.lists cfg key

/-- A fetch that raises or not, and the lots it lists. -/
theorem Brings.isNone {platform : String} {r : Option (List StrandedPosition)}
    (h : Brings cfg inp platform r) : r.isNone = (inp.fetched cfg platform).isNone := by
  unfold Brings at h
  cases r <;> cases hf : inp.fetched cfg platform <;> simp_all

theorem Brings.sized {platform : String} {r : Option (List StrandedPosition)}
    (h : Brings cfg inp platform r) :
    (r.getD []).map (·.sized) = ((inp.fetched cfg platform).getD []).map (Inputs.sized platform) := by
  unfold Brings at h
  cases r <;> cases hf : inp.fetched cfg platform <;> simp_all

/-- What the three list is what the venues hold. -/
theorem brought_lots {kalshi polymarket forecastex : Option (List StrandedPosition)}
    (hk : Brings cfg inp "kalshi" kalshi) (hp : Brings cfg inp "polymarket" polymarket)
    (hf : Brings cfg inp "forecastex" forecastex) :
    ([("kalshi", kalshi), ("polymarket", polymarket), ("forecastex", forecastex)].flatMap
      fun f => f.2.getD []).map (·.sized) = inp.lots cfg := by
  simp [Inputs.lots, platforms, hk.sized, hp.sized, hf.sized]

theorem sighting_sights {kalshi polymarket forecastex : Option (List StrandedPosition)}
    (hk : Brings cfg inp "kalshi" kalshi) (hp : Brings cfg inp "polymarket" polymarket)
    (hf : Brings cfg inp "forecastex" forecastex) :
    Sights cfg inp
      (sighting [("kalshi", kalshi), ("polymarket", polymarket), ("forecastex", forecastex)]) := by
  have hlots := brought_lots hk hp hf
  have hkeys : ([("kalshi", kalshi), ("polymarket", polymarket), ("forecastex", forecastex)].flatMap
      fun f => f.2.getD []).map (·.key) = (inp.lots cfg).map Prod.fst := by
    rw [← hlots, List.map_map]
    rfl
  refine ⟨?_, ?_, ?_⟩
  · simp [sighting, Inputs.failed, platforms, List.filter_cons, hk.isNone, hp.isNone, hf.isNone]
    split_ifs <;> rfl
  · intro pos hpos
    rcases Tracker.mem_foldl_put hpos with hmem | hempty
    · rw [← hlots]
      exact List.mem_map_of_mem hmem
    · exact absurd hempty List.not_mem_nil
  · intro key
    show ((List.foldl _ _ _ : Tracker).has key = true) ↔ _
    rw [Tracker.has_foldl_put, hkeys]
    simp [Tracker.has, Tracker.lookup, Tracker.empty, Inputs.lists]

/-- A survey ends as it does for what the three fetches bring. -/
theorem survey_brings {P : Sighting → Prop}
    (hbrought : ∀ {kalshi polymarket forecastex}, Brings cfg inp "kalshi" kalshi →
      Brings cfg inp "polymarket" polymarket → Brings cfg inp "forecastex" forecastex →
        P (sighting [("kalshi", kalshi), ("polymarket", polymarket), ("forecastex", forecastex)])) :
    wp (venues inp) (survey cfg) (fun sight w' => P sight ∧ w' = w) w := by
  unfold survey
  rw [wp_bind]
  refine wp_mono fetch_kalshi_brings fun kalshi w₁ hk => ?_
  rw [wp_bind]
  refine wp_mono fetch_polymarket_brings fun polymarket w₂ hp => ?_
  rw [wp_bind]
  refine wp_mono fetch_forecastex_brings fun forecastex w₃ hf => ?_
  exact wp_pure.2 ⟨hbrought hk.1 hp.1 hf.1, hf.2.trans (hp.2.trans hk.2)⟩

theorem survey_sights :
    wp (venues inp) (survey cfg) (fun sight w' => Sights cfg inp sight ∧ w' = w) w :=
  survey_brings sighting_sights

end survey

/-! ## Section 4: The tracker through a cycle -/

/-- The accounts of the reconciler stand as they were. -/
structure SameAccounts (s s' : Reconciler) : Prop where
  submitted : s'.cum_close_submitted = s.cum_close_submitted
  largest : s'.max_observed_qty = s.max_observed_qty
  phantom : s'.phantom_absent = s.phantom_absent

theorem SameAccounts.refl (s : Reconciler) : SameAccounts s s := ⟨rfl, rfl, rfl⟩

theorem SameAccounts.trans {s s' s'' : Reconciler} (h : SameAccounts s s')
    (h' : SameAccounts s' s'') : SameAccounts s s'' :=
  ⟨h'.submitted.trans h.submitted, h'.largest.trans h.largest, h'.phantom.trans h.phantom⟩

/-- A lot that is tracked has no absences. -/
def Tidy (s : Reconciler) : Prop :=
  ∀ key, s.tracked.has key = true → s.cap_absent_cycles key = 0

theorem carry_over_sized (existing : Option StrandedPosition) (pos : StrandedPosition) :
    (carry_over existing pos).sized = pos.sized := by
  cases existing <;> rfl

theorem carry_over_key (existing : Option StrandedPosition) (pos : StrandedPosition) :
    (carry_over existing pos).key = pos.key :=
  congrArg Prod.fst (carry_over_sized existing pos)

section tracker

variable {s : Reconciler} {sight : Sighting}

/-- What the merge of some lots does. -/
structure Merged (l : List StrandedPosition) (s s' : Reconciler) : Prop where
  accounts : SameAccounts s s'
  has : ∀ key, s'.tracked.has key = true ↔ key ∈ l.map (·.key) ∨ s.tracked.has key = true
  absent : ∀ key, s'.cap_absent_cycles key = if key ∈ l.map (·.key) then 0 else s.cap_absent_cycles key
  sized : ∀ pos ∈ s'.tracked.entries, pos.sized ∈ l.map (·.sized) ∨
    (pos ∈ s.tracked.entries ∧ pos.key ∉ l.map (·.key))

theorem merge_one_merged (s : Reconciler) (pos : StrandedPosition) :
    Merged [pos] s (merge_one s pos) := by
  refine ⟨⟨rfl, rfl, rfl⟩, fun key => ?_, fun key => ?_, fun pos' hpos => ?_⟩
  · simp [merge_one, Tracker.has_put, carry_over_key]
  · simp [merge_one, Function.update_apply]
  · rcases Tracker.mem_put hpos with rfl | hold
    · left
      simp [carry_over_sized]
    · right
      simpa [carry_over_key] using hold

theorem foldl_merge_merged (l : List StrandedPosition) (s : Reconciler) :
    Merged l s (l.foldl merge_one s) := by
  induction l generalizing s with
  | nil => exact ⟨.refl s, by simp, by simp, fun _ h => .inr ⟨h, List.not_mem_nil⟩⟩
  | cons pos l ih =>
    have hfirst := merge_one_merged s pos
    have hrest := ih (merge_one s pos)
    refine ⟨hfirst.accounts.trans hrest.accounts, fun key => ?_, fun key => ?_, fun pos' hpos => ?_⟩
    · rw [List.foldl_cons, hrest.has, hfirst.has]
      simp only [List.map_cons, List.map_nil, List.mem_cons, List.not_mem_nil, or_false]
      tauto
    · rw [List.foldl_cons, hrest.absent, hfirst.absent]
      simp only [List.map_cons, List.map_nil, List.mem_cons, List.not_mem_nil, or_false]
      split_ifs <;> tauto
    · rcases hrest.sized pos' hpos with hmem | hold
      · exact .inl (List.mem_cons_of_mem _ hmem)
      · rcases hfirst.sized pos' hold.1 with hmem | hkept
        · left
          rw [List.map_cons]
          exact List.mem_cons.2 (.inl (List.mem_singleton.1 hmem))
        · right
          refine ⟨hkept.1, ?_⟩
          rw [List.map_cons, List.mem_cons, not_or]
          exact ⟨fun heq => hkept.2 (List.mem_singleton.2 heq), hold.2⟩

/-- A lot that vanished: its venue answered, and does not have it. -/
def Gone (sight : Sighting) (key : Key) : Prop :=
  key.1 ∉ sight.failed_platforms ∧ sight.observed.has key = false

instance (sight : Sighting) (key : Key) : Decidable (Gone sight key) := by
  unfold Gone; infer_instance

theorem prune_one_of_gone {pos : StrandedPosition} (hgone : Gone sight pos.key)
    (hzero : s.cap_absent_cycles pos.key = 0) :
    prune_one sight s pos =
      { s with
        tracked := s.tracked.erase pos.key
        cap_absent_cycles := Function.update s.cap_absent_cycles pos.key 1 } := by
  have hplatform : pos.platform ∉ sight.failed_platforms := hgone.1
  simp [prune_one, hplatform, hgone.2, hzero, cap_absent_limit]

theorem prune_one_of_not_gone {pos : StrandedPosition} (hgone : ¬ Gone sight pos.key) :
    prune_one sight s pos = s := by
  unfold prune_one
  apply if_pos
  by_cases hfailed : pos.platform ∈ sight.failed_platforms
  · exact .inl hfailed
  · right
    by_contra hno
    exact hgone ⟨hfailed, by simpa using hno⟩

theorem Tracker.has_erase (t : Tracker) (key key' : Key) :
    (t.erase key).has key' = true ↔ t.has key' = true ∧ key' ≠ key := by
  simp only [Tracker.has_iff, Tracker.erase, List.mem_map, List.mem_filter, decide_eq_true_eq]
  constructor
  · rintro ⟨pos, ⟨hpos, hne⟩, rfl⟩
    exact ⟨⟨pos, hpos, rfl⟩, hne⟩
  · rintro ⟨⟨pos, hpos, rfl⟩, hne⟩
    exact ⟨pos, ⟨hpos, hne⟩, rfl⟩

/-- What the pruning of some lots does, when none of them has absences yet. -/
structure Pruned (sight : Sighting) (keys : List Key) (s s' : Reconciler) : Prop where
  accounts : SameAccounts s s'
  has : ∀ key, s'.tracked.has key = true ↔
    s.tracked.has key = true ∧ ¬ (key ∈ keys ∧ Gone sight key)
  absent : ∀ key, s'.cap_absent_cycles key =
    if key ∈ keys ∧ Gone sight key then 1 else s.cap_absent_cycles key
  sub : ∀ pos ∈ s'.tracked.entries, pos ∈ s.tracked.entries

theorem foldl_prune_pruned (sight : Sighting) (l : List StrandedPosition) (hnodup : (l.map (·.key)).Nodup)
    (s : Reconciler) (hzero : ∀ pos ∈ l, s.cap_absent_cycles pos.key = 0) :
    Pruned sight (l.map (·.key)) s (l.foldl (prune_one sight) s) := by
  induction l generalizing s with
  | nil => exact ⟨.refl s, by simp, by simp, fun _ h => h⟩
  | cons pos l ih =>
    rw [List.map_cons, List.nodup_cons] at hnodup
    rw [List.foldl_cons, List.map_cons]
    have hhead := hzero pos List.mem_cons_self
    by_cases hgone : Gone sight pos.key
    · -- the lot goes; its key does not come again in the list
      rw [prune_one_of_gone hgone hhead]
      have hrest := ih hnodup.2
        { s with
          tracked := s.tracked.erase pos.key
          cap_absent_cycles := Function.update s.cap_absent_cycles pos.key 1 }
        (fun other hother => by
          have hne : other.key ≠ pos.key := fun heq => hnodup.1 (heq ▸ List.mem_map_of_mem hother)
          simpa [Function.update_apply, hne] using hzero other (List.mem_cons_of_mem _ hother))
      refine ⟨⟨hrest.accounts.submitted, hrest.accounts.largest, hrest.accounts.phantom⟩,
        fun key => ?_, fun key => ?_, fun pos' hpos => ?_⟩
      · rw [hrest.has, Tracker.has_erase, List.mem_cons]
        by_cases heq : key = pos.key
        · subst heq
          simp [hgone]
        · simp [heq]
      · rw [hrest.absent]
        simp only [List.mem_cons]
        by_cases heq : key = pos.key
        · subst heq
          simp [hgone]
        · simp [heq]
      · exact (List.mem_filter.1 (hrest.sub pos' hpos)).1
    · -- the lot stays, and its key is not among those that go
      rw [prune_one_of_not_gone hgone]
      have hrest := ih hnodup.2 s fun other hother => hzero other (List.mem_cons_of_mem _ hother)
      have hkeys : ∀ key, (key ∈ pos.key :: l.map (·.key) ∧ Gone sight key) ↔
          (key ∈ l.map (·.key) ∧ Gone sight key) := by
        intro key
        rw [List.mem_cons]
        constructor
        · rintro ⟨rfl | hmem, hkey⟩
          · exact absurd hkey hgone
          · exact ⟨hmem, hkey⟩
        · rintro ⟨hmem, hkey⟩
          exact ⟨.inr hmem, hkey⟩
      refine ⟨hrest.accounts, fun key => ?_, fun key => ?_, hrest.sub⟩
      · rw [hrest.has, hkeys]
      · rw [hrest.absent]
        simp only [hkeys]

/-- The tracker of a cycle, once the venues were read. -/
structure Tracks (cfg : Config) (inp : Inputs) (s s' : Reconciler) : Prop where
  accounts : SameAccounts s s'
  tidy : Tidy s'
  has : ∀ key, s'.tracked.has key = true ↔
    inp.lists cfg key ∨ (s.tracked.has key = true ∧ key.1 ∈ inp.failed cfg)
  sized : ∀ pos ∈ s'.tracked.entries,
    pos.sized ∈ inp.lots cfg ∨ (pos ∈ s.tracked.entries ∧ pos.platform ∈ inp.failed cfg)

theorem prune_merge_tracks {cfg : Config} {inp : Inputs} (hsight : Sights cfg inp sight)
    (htidy : Tidy s) : Tracks cfg inp s (prune sight (merge s sight.observed)) := by
  have hmerged := foldl_merge_merged sight.observed.entries s
  have hseen : ∀ key, key ∈ sight.observed.entries.map (·.key) ↔ inp.lists cfg key := fun key => by
    rw [← Tracker.has_iff, hsight.seen]
  have hgone : ∀ key, Gone sight key ↔ key.1 ∉ inp.failed cfg ∧ ¬ inp.lists cfg key := fun key => by
    rw [Gone, hsight.failed, ← hsight.seen]
    simp
  -- merging starts no count of absent cycles, so the counts stay where they were
  have hmerged_tidy : Tidy (merge s sight.observed) := by
    intro key hkey
    rw [merge, hmerged.absent]
    split
    · rfl
    · rename_i hno
      exact htidy key (((hmerged.has key).1 hkey).resolve_left hno)
  have hpruned := foldl_prune_pruned sight (merge s sight.observed).tracked.entries
    (merge s sight.observed).tracked.nodup (merge s sight.observed)
    fun pos hpos => hmerged_tidy _ ((Tracker.has_iff _ _).2 (List.mem_map_of_mem hpos))
  have hkeys : ∀ key, key ∈ (merge s sight.observed).tracked.entries.map (·.key) ↔
      inp.lists cfg key ∨ s.tracked.has key = true := fun key => by
    rw [← Tracker.has_iff, merge, hmerged.has, hseen]
  -- what is left is listed now, or its venue could not be read
  have hhas : ∀ key, (prune sight (merge s sight.observed)).tracked.has key = true ↔
      inp.lists cfg key ∨ (s.tracked.has key = true ∧ key.1 ∈ inp.failed cfg) := by
    intro key
    rw [prune, hpruned.has, Tracker.has_iff, hkeys, hgone]
    tauto
  refine ⟨hmerged.accounts.trans hpruned.accounts, fun key hkey => ?_, hhas, fun pos hpos => ?_⟩
  · rw [prune, hpruned.absent, if_neg]
    · exact hmerged_tidy key ((hpruned.has key).1 hkey).1
    · exact ((hpruned.has key).1 hkey).2
  · rcases hmerged.sized pos (hpruned.sub pos hpos) with hmem | hold
    · rcases List.mem_map.1 hmem with ⟨seen, hin, heq⟩
      rw [← heq]
      exact .inl (hsight.sized seen hin)
    · have hkey : (prune sight (merge s sight.observed)).tracked.has pos.key = true :=
        (Tracker.has_iff _ _).2 (List.mem_map_of_mem hpos)
      rcases (hhas pos.key).1 hkey with hlists | hfailed
      · exact absurd ((hseen pos.key).2 hlists) hold.2
      · exact .inr ⟨hold.1, hfailed.2⟩

end tracker

/-! ## Section 5: Netting, deciding, announcing -/

/-- The same lots at the same sizes, and the same accounts. -/
structure SameLots (s s' : Reconciler) : Prop where
  accounts : SameAccounts s s'
  absent : s'.cap_absent_cycles = s.cap_absent_cycles
  has : ∀ key, s'.tracked.has key = s.tracked.has key
  sized : ∀ pos ∈ s'.tracked.entries, pos.sized ∈ s.tracked.entries.map (·.sized)

theorem SameLots.refl (s : Reconciler) : SameLots s s :=
  ⟨.refl s, rfl, fun _ => rfl, fun _ hpos => List.mem_map_of_mem hpos⟩

theorem SameLots.trans {s s' s'' : Reconciler} (h : SameLots s s') (h' : SameLots s' s'') :
    SameLots s s'' := by
  refine ⟨h.accounts.trans h'.accounts, h'.absent.trans h.absent,
    fun key => (h'.has key).trans (h.has key), fun pos hpos => ?_⟩
  rcases List.mem_map.1 (h'.sized pos hpos) with ⟨before, hbefore, heq⟩
  rw [← heq]
  exact h.sized before hbefore

section decisions

variable {cfg : Config} {inp : Inputs} {s : Reconciler} {w : Deeds}

/-- Lots changed in place, at the same size. -/
theorem same_lots_map {f : StrandedPosition → StrandedPosition}
    (hkey : ∀ pos, (f pos).key = pos.key) (hsized : ∀ pos, (f pos).sized = pos.sized) :
    SameLots s { s with tracked := s.tracked.map f hkey } := by
  refine ⟨⟨rfl, rfl, rfl⟩, rfl, fun key => ?_, fun pos hpos => ?_⟩
  · rw [Bool.eq_iff_iff, Tracker.has_iff, Tracker.has_iff, Tracker.map, List.map_map]
    simp only [Function.comp_def, hkey]
  · rcases List.mem_map.1 hpos with ⟨before, hbefore, rfl⟩
    rw [hsized]
    exact List.mem_map_of_mem hbefore

/-- Writing a lot back where one is adds no key. -/
theorem has_put_of_has {t : Tracker} {pos : StrandedPosition} (hpos : t.has pos.key = true)
    (key : Key) : (t.put pos).has key = t.has key := by
  rw [Bool.eq_iff_iff, Tracker.has_put]
  constructor
  · rintro (rfl | hhas)
    · exact hpos
    · exact hhas
  · exact .inr

theorem net_same_lots :
    wp (venues inp) (net cfg s) (fun s' w' => SameLots s s' ∧ w' = w) w := by
  have hcalls : (load_paired_inventory cfg).Calls Idle := by
    unfold load_paired_inventory
    rw [calls_ite]
    exact ⟨fun _ => .bind (calls_send.2 trivial) fun _ => calls_pure _, fun _ => calls_pure _⟩
  unfold net
  rw [wp_bind]
  refine wp_mono (idle_keeps hcalls w) fun inventory w' hw => wp_pure.2 ⟨?_, hw⟩
  apply same_lots_map
  intro pos
  rfl

theorem decide_one_sized (pos : StrandedPosition) :
    wp (venues inp) (decide_one pos) (fun pos' w' => pos'.sized = pos.sized ∧ w' = w) w := by
  unfold decide_one
  rw [wp_ite]
  refine ⟨fun _ => wp_pure.2 ⟨rfl, rfl⟩, fun _ => ?_⟩
  rw [wp_bind, wp_send]
  rintro answer w' ⟨-, rfl⟩
  cases answer with
  | none => exact wp_pure.2 ⟨rfl, rfl⟩
  | some decision => exact wp_pure.2 ⟨rfl, rfl⟩

/-- The decisions leave the keys, and the sizes within what they were. -/
theorem decide_all_sized (sizes : List (Key × ℚ)) (l : List StrandedPosition) (t : Tracker)
    (hl : ∀ pos ∈ l, pos.sized ∈ sizes ∧ t.has pos.key = true)
    (ht : ∀ pos ∈ t.entries, pos.sized ∈ sizes) :
    wp (venues inp) (decide_all l t) (fun t' w' => (∀ key, t'.has key = t.has key) ∧
      (∀ pos ∈ t'.entries, pos.sized ∈ sizes) ∧ w' = w) w := by
  induction l generalizing t w with
  | nil => exact wp_pure.2 ⟨fun _ => rfl, ht, rfl⟩
  | cons pos l ih =>
    unfold decide_all
    rw [wp_bind]
    refine wp_mono (decide_one_sized pos) fun decided w₁ h₁ => ?_
    rcases h₁ with ⟨hsized, rfl⟩
    have hhere := hl pos List.mem_cons_self
    have hdecided : t.has decided.key = true := by
      rw [show decided.key = pos.key from congrArg Prod.fst hsized]
      exact hhere.2
    have hsame := has_put_of_has hdecided
    have hrest := ih (w := w₁) (t.put decided)
      (fun other hother => by
        rw [hsame]
        exact hl other (List.mem_cons_of_mem _ hother))
      (fun other hother => by
        rcases Tracker.mem_put hother with rfl | hold
        · rw [hsized]
          exact hhere.1
        · exact ht other hold.1)
    refine wp_mono hrest fun t' w' h => ⟨fun key => ?_, h.2⟩
    rw [h.1, hsame]

theorem refresh_decisions_same_lots (deferred : Bool) :
    wp (venues inp) (refresh_decisions cfg deferred s) (fun s' w' => SameLots s s' ∧ w' = w) w := by
  have hheld : SameLots s { s with tracked := s.tracked.map hold_paired hold_paired_key } := by
    apply same_lots_map
    intro pos
    unfold hold_paired
    split <;> rfl
  unfold refresh_decisions
  simp only [wp_ite]
  refine ⟨fun _ => wp_pure.2 ⟨.refl s, rfl⟩, fun _ => ⟨fun _ => ?_, fun _ => wp_pure.2 ⟨hheld, rfl⟩⟩⟩
  rw [wp_bind]
  have hhere : ∀ pos ∈ (s.tracked.map hold_paired hold_paired_key).entries,
      pos.sized ∈ s.tracked.entries.map (·.sized) ∧
        (s.tracked.map hold_paired hold_paired_key).has pos.key = true :=
    fun pos hpos => ⟨hheld.sized pos hpos, (Tracker.has_iff _ _).2 (List.mem_map_of_mem hpos)⟩
  refine wp_mono (decide_all_sized _ _ _ hhere hheld.sized) fun t' w' h => wp_pure.2 ⟨?_, h.2.2⟩
  exact ⟨⟨rfl, rfl, rfl⟩, rfl, fun key => (h.1 key).trans (hheld.has key), h.2.1⟩

theorem emit_stranded_incident_idle (pos : StrandedPosition) :
    (emit_stranded_incident cfg pos).Calls Idle := by
  unfold emit_stranded_incident
  simp only [calls_ite]
  refine ⟨fun _ => calls_pure _, fun _ => ⟨fun _ => ?_, fun _ => calls_send.2 trivial⟩⟩
  refine .bind (calls_send.2 trivial) fun listed => ?_
  rw [calls_ite]
  exact ⟨fun _ => calls_pure _, fun _ => calls_send.2 trivial⟩

theorem announce_all_idle (l : List StrandedPosition) : (announce_all cfg l).Calls Idle := by
  induction l with
  | nil => exact calls_pure _
  | cons pos l ih =>
    refine .bind ?_ fun _ => ih
    unfold announce
    rw [calls_ite]
    refine ⟨fun _ => calls_ret _, fun _ => ?_⟩
    cases pos.mitigation_decision with
    | none => exact emit_stranded_incident_idle pos
    | some decision =>
      rw [calls_ite]
      exact ⟨fun _ => calls_ret _, fun _ => emit_stranded_incident_idle pos⟩

end decisions

/-! ## Section 6: Mitigation -/

/-- What mitigation leaves alone. -/
structure SameView (s s' : Reconciler) : Prop where
  tracked : s'.tracked = s.tracked
  absent : s'.cap_absent_cycles = s.cap_absent_cycles
  phantom : s'.phantom_absent = s.phantom_absent

theorem SameView.refl (s : Reconciler) : SameView s s := ⟨rfl, rfl, rfl⟩

theorem SameView.trans {s s' s'' : Reconciler} (h : SameView s s') (h' : SameView s' s'') :
    SameView s s'' :=
  ⟨h'.tracked.trans h.tracked, h'.absent.trans h.absent, h'.phantom.trans h.phantom⟩

/-- The size the cap of a lot goes by. -/
def cap_base (s : Reconciler) (pos : StrandedPosition) : ℚ :=
  max (s.max_observed_qty pos.key) |pos.qty|

/-- The cap check passes. -/
def fits (cfg : Config) (s : Reconciler) (pos : StrandedPosition) (qty : ℕ) : Prop :=
  ((s.cum_close_submitted pos.key + qty : ℕ) : ℚ) ≤
    cfg.max_cum_close_mult * cap_base s pos + 1 / 10 ^ 9

/-- The accounts with the size of a lot noted. -/
structure Weighed (s : Reconciler) (pos : StrandedPosition) (s' : Reconciler) : Prop where
  view : SameView s s'
  submitted : s'.cum_close_submitted = s.cum_close_submitted
  largest : s'.max_observed_qty = Function.update s.max_observed_qty pos.key (cap_base s pos)

/-- Everything one lot of the mitigation pass can do: nothing to the accounts, its size
    noted, or an order that fits under the cap. -/
inductive Mitigates (cfg : Config) (s : Reconciler) (pos : StrandedPosition) (w : Deeds) :
    Reconciler → Deeds → Prop
  | nothing {s' : Reconciler} (h : SameView s s')
      (hsubmitted : s'.cum_close_submitted = s.cum_close_submitted)
      (hlargest : s'.max_observed_qty = s.max_observed_qty) : Mitigates cfg s pos w s' w
  /-- Over the cap, or the placement raised before it reached the venue. -/
  | weighed {s' : Reconciler} (h : Weighed s pos s') : Mitigates cfg s pos w s' w
  /-- The placement raised after it reached the venue: it is not counted. -/
  | lost {s' : Reconciler} {order : MitigationOrder} {err : String} (h : Weighed s pos s')
      (hstrand : order.strand = pos.key) (hfits : fits cfg s pos order.qty) :
      Mitigates cfg s pos w s' (w.place order (.raised err true))
  | counted {s' s'' : Reconciler} {order : MitigationOrder} (placed : Order ℚ)
      (h : Weighed s pos s') (hstrand : order.strand = pos.key) (hfits : fits cfg s pos order.qty)
      (hcounted : s'' = note_mitigation_submitted s' pos.key order.qty) :
      Mitigates cfg s pos w s'' (w.place order (.returned placed))

section mitigation

variable {cfg : Config} {inp : Inputs} {s : Reconciler} {pos : StrandedPosition} {w : Deeds}

/-- A state in which only the attempt is marked. -/
structure Marked (s s' : Reconciler) : Prop where
  view : SameView s s'
  submitted : s'.cum_close_submitted = s.cum_close_submitted
  largest : s'.max_observed_qty = s.max_observed_qty

theorem mark_close_attempt_marked (key : Key) :
    wp (venues inp) (mark_close_attempt s key) (fun s' w' => Marked s s' ∧ w' = w) w := by
  unfold mark_close_attempt
  rw [wp_bind, wp_send]
  rintro now w' ⟨-, rfl⟩
  exact wp_pure.2 ⟨⟨⟨rfl, rfl, rfl⟩, rfl, rfl⟩, rfl⟩

theorem Marked.mitigates {s' : Reconciler} (h : Marked s s') : Mitigates cfg s pos w s' w :=
  .nothing h.view h.submitted h.largest

theorem Weighed.marked {s' s'' : Reconciler} (h : Weighed s pos s') (hm : Marked s' s'') :
    Weighed s pos s'' :=
  ⟨h.view.trans hm.view, hm.submitted.trans h.submitted, hm.largest.trans h.largest⟩

theorem cum_cap_allows_weighed (qty : ℕ) :
    wp (venues inp) (cum_cap_allows cfg s pos qty)
      (fun r w' => (Weighed s pos r.1 ∧ (r.2 = true → fits cfg s pos qty)) ∧ w' = w) w := by
  have hweighed : Weighed s pos
      { s with max_observed_qty := Function.update s.max_observed_qty pos.key (cap_base s pos) } :=
    ⟨⟨rfl, rfl, rfl⟩, rfl, rfl⟩
  unfold cum_cap_allows
  simp only [wp_ite]
  refine ⟨fun hfits => wp_pure.2 ⟨⟨hweighed, fun _ => hfits⟩, rfl⟩, fun _ => ?_⟩
  rw [wp_bind]
  refine wp_mono (mark_close_attempt_marked pos.key) fun s₁ w₁ h₁ => ?_
  rcases h₁ with ⟨hmarked, rfl⟩
  have hdone := hweighed.marked hmarked
  rw [wp_ite]
  refine ⟨fun _ => ?_, fun _ => wp_pure.2 ⟨⟨hdone, fun h => Bool.noConfusion h⟩, rfl⟩⟩
  rw [wp_bind, wp_send]
  rintro _ w₂ ⟨-, rfl⟩
  refine wp_pure.2 ⟨⟨?_, fun h => Bool.noConfusion h⟩, rfl⟩
  exact hdone.marked ⟨⟨rfl, rfl, rfl⟩, rfl, rfl⟩

/-- The one inversion lemma of the three paths that submit. -/
theorem submit_mitigates (order : MitigationOrder) {place : Recon Placement}
    (hstrand : order.strand = pos.key)
    (hplace : wp (venues inp) place (fun a w' => w' = w.place order a) w) :
    wp (venues inp) (submit cfg s pos order.qty place) (Mitigates cfg s pos w) w := by
  unfold submit
  rw [wp_bind]
  refine wp_mono (cum_cap_allows_weighed order.qty) fun r w₁ h₁ => ?_
  obtain ⟨s₁, allowed⟩ := r
  rcases h₁ with ⟨⟨hweighed, hallowed⟩, rfl⟩
  dsimp only
  rw [wp_ite]
  refine ⟨fun _ => wp_pure.2 (.weighed hweighed), fun hno => ?_⟩
  have hfits : fits cfg s pos order.qty := hallowed (by simpa using hno)
  rw [wp_bind]
  refine wp_mono hplace fun placement w₂ h₂ => ?_
  subst h₂
  cases placement with
  | returned placed =>
    dsimp only
    rw [wp_bind]
    refine wp_mono (mark_close_attempt_marked pos.key) fun s₂ w₃ h₃ => ?_
    rcases h₃ with ⟨hmarked, rfl⟩
    rw [wp_bind, wp_send]
    rintro _ w₄ ⟨-, rfl⟩
    exact wp_pure.2 (.counted placed (hweighed.marked hmarked) hstrand hfits rfl)
  | raised err accepted =>
    -- the venue may have accepted what raised, and nothing counts it
    refine wp_mono (mark_close_attempt_marked pos.key) fun s₂ w₃ h₃ => ?_
    rcases h₃ with ⟨hmarked, rfl⟩
    cases accepted with
    | true => exact .lost (hweighed.marked hmarked) hstrand hfits
    | false => exact .weighed (hweighed.marked hmarked)

theorem close_lot_mitigates : wp (venues inp) (close_lot cfg s pos) (Mitigates cfg s pos w) w := by
  have hplace : wp (venues inp)
      (.send (Call.place_unwind_sell pos.platform (close_order pos)))
      (fun a w' => w' = w.place (close_order pos) a) w := by
    rw [wp_send]
    exact fun a w' hs => hs.2
  exact submit_mitigates (close_order pos) rfl hplace

theorem execute_complete_arb_mitigates (info : MissingLeg) :
    wp (venues inp) (execute_complete_arb cfg s pos info) (Mitigates cfg s pos w) w := by
  have hmark : ∀ w, wp (venues inp) (mark_close_attempt s pos.key) (Mitigates cfg s pos w) w :=
    fun w => wp_mono (mark_close_attempt_marked pos.key) fun s' w' h => by
      rw [h.2]
      exact h.1.mitigates
  have hsubmit : ∀ w, wp (venues inp) (submit cfg s pos info.qty
      (.send (Call.place_fok info.venue (complete_order pos info)))) (Mitigates cfg s pos w) w := by
    intro w
    have hplace : wp (venues inp)
        (.send (Call.place_fok info.venue (complete_order pos info)))
        (fun a w' => w' = w.place (complete_order pos info) a) w := by
      rw [wp_send]
      exact fun a w' hs => hs.2
    exact submit_mitigates (complete_order pos info) rfl hplace
  unfold execute_complete_arb
  simp only [wp_ite]
  refine ⟨fun _ => hmark w, fun _ => ⟨fun _ => ?_, fun _ => hsubmit w⟩⟩
  rw [wp_bind, wp_send]
  rintro quotes w₁ ⟨-, rfl⟩
  rw [wp_ite]
  exact ⟨fun _ => hsubmit _, fun _ => hmark _⟩

theorem act_on_mitigates : wp (venues inp) (act_on cfg s pos) (Mitigates cfg s pos w) w := by
  have hnothing : wp (venues inp) (.ret s) (Mitigates cfg s pos w) w :=
    wp_ret.2 (.nothing (.refl s) rfl rfl)
  have hclose : wp (venues inp) (maybe_auto_close cfg s pos) (Mitigates cfg s pos w) w := by
    unfold maybe_auto_close
    rw [wp_ite]
    exact ⟨fun _ => close_lot_mitigates, fun _ => hnothing⟩
  unfold act_on
  split
  case h_1 decision _ _ =>
    unfold execute_decision
    split
    case h_1 info _ _ => exact execute_complete_arb_mitigates info
    case h_2 =>
      unfold execute_close_now
      rw [wp_ite]
      refine ⟨fun _ => ?_, fun _ => close_lot_mitigates⟩
      refine wp_mono (mark_close_attempt_marked pos.key) fun s' w' h => ?_
      rw [h.2]
      exact h.1.mitigates
    case h_3 => exact hnothing
  case h_2 => exact hclose

theorem mitigate_one_mitigates :
    wp (venues inp) (mitigate_one cfg s pos) (Mitigates cfg s pos w) w := by
  have hnothing : ∀ w, wp (venues inp) (pure s) (Mitigates cfg s pos w) w :=
    fun w => wp_pure.2 (.nothing (.refl s) rfl rfl)
  have hexecutions : (active_executions cfg).Calls Idle := by
    unfold active_executions
    rw [calls_ite]
    exact ⟨fun _ => calls_send.2 trivial, fun _ => calls_ret _⟩
  unfold mitigate_one
  rw [wp_ite]
  refine ⟨fun _ => hnothing w, fun _ => ?_⟩
  rw [wp_bind]
  refine wp_mono (idle_keeps hexecutions w) fun executions w₁ h₁ => ?_
  subst h₁
  rw [wp_ite]
  refine ⟨fun _ => hnothing _, fun _ => ?_⟩
  rw [wp_bind, wp_send]
  rintro now w₂ ⟨-, rfl⟩
  rw [wp_ite]
  exact ⟨fun _ => act_on_mitigates, fun _ => hnothing _⟩

/-- The rule of the mitigation pass: what every lot keeps, the pass keeps. -/
theorem mitigate_all_keeps {J : Reconciler → Deeds → Prop} (l : List StrandedPosition)
    (hstep : ∀ pos ∈ l, ∀ s w s' w', J s w → Mitigates cfg s pos w s' w' → J s' w')
    (h : J s w) : wp (venues inp) (mitigate_all cfg l s) J w := by
  induction l generalizing s w with
  | nil => exact wp_pure.2 h
  | cons pos l ih =>
    unfold mitigate_all
    rw [wp_bind]
    refine wp_mono mitigate_one_mitigates fun s₁ w₁ h₁ => ?_
    exact ih (fun other hother => hstep other (List.mem_cons_of_mem _ hother))
      (hstep pos List.mem_cons_self s w s₁ w₁ h h₁)

end mitigation

/-! ## Section 7: The cycle as a whole -/

/-- The state once the venues are read, the lots netted and decided on. -/
structure Begins (cfg : Config) (inp : Inputs) (s s' : Reconciler) : Prop where
  accounts : SameAccounts s s'
  tidy : Tidy s'
  has : ∀ key, s'.tracked.has key = true ↔
    inp.lists cfg key ∨ (s.tracked.has key = true ∧ key.1 ∈ inp.failed cfg)
  sized : ∀ pos ∈ s'.tracked.entries, pos.sized ∈ inp.lots cfg ∨ pos.platform ∈ inp.failed cfg

/-- What the sweep leaves alone. -/
structure SameBook (s s' : Reconciler) : Prop where
  tracked : s'.tracked = s.tracked
  absent : s'.cap_absent_cycles = s.cap_absent_cycles
  submitted : s'.cum_close_submitted = s.cum_close_submitted
  largest : s'.max_observed_qty = s.max_observed_qty

theorem SameBook.refl (s : Reconciler) : SameBook s s := ⟨rfl, rfl, rfl, rfl⟩

/-- The orders of the cycle stand as they were. -/
def SameOrders (w w' : Deeds) : Prop := w'.submitted = w.submitted ∧ w'.lost = w.lost

section cycle

variable {cfg : Config} {inp : Inputs} {s : Reconciler} {w : Deeds}

theorem Tracks.begins {s₁ s₂ : Reconciler} (h : Tracks cfg inp s s₁) (hsame : SameLots s₁ s₂) :
    Begins cfg inp s s₂ := by
  refine ⟨h.accounts.trans hsame.accounts, fun key hkey => ?_, fun key => ?_, fun pos hpos => ?_⟩
  · rw [hsame.absent]
    rw [hsame.has] at hkey
    exact h.tidy key hkey
  · rw [hsame.has]
    exact h.has key
  · rcases List.mem_map.1 (hsame.sized pos hpos) with ⟨before, hbefore, heq⟩
    have hplatform : before.platform = pos.platform := congrArg (fun size => size.1.1) heq
    rcases h.sized before hbefore with hlots | hold
    · exact .inl (heq ▸ hlots)
    · exact .inr (hplatform ▸ hold.2)

/-- The rule of a cycle: what holds once the venues are read, what mitigation keeps, and
    what the sweep makes of it. -/
theorem run_once_rule {J K : Reconciler → Deeds → Prop} (htidy : Tidy s)
    (hbegin : ∀ s₁, Begins cfg inp s s₁ → J s₁ w)
    (hstep : ∀ pos : StrandedPosition, pos.sized ∈ inp.lots cfg →
      ∀ s w s' w', J s w → Mitigates cfg s pos w s' w' → J s' w')
    (hsweep : ∀ raw s₂ w₂, (∀ key, key ∈ raw ↔ inp.lists cfg key) → J s₂ w₂ →
      wp (venues inp) (sweep_phantom_records cfg raw (inp.failed cfg) s₂) K w₂) :
    wp (venues inp) (run_once cfg s) K w := by
  unfold run_once
  rw [wp_bind]
  refine wp_mono survey_sights fun sight w₁ h₁ => ?_
  rcases h₁ with ⟨hsight, rfl⟩
  have htracks := prune_merge_tracks hsight htidy
  rw [wp_bind]
  refine wp_mono net_same_lots fun s₂ w₂ h₂ => ?_
  rcases h₂ with ⟨hnet, rfl⟩
  dsimp only
  rw [wp_bind]
  refine wp_mono (refresh_decisions_same_lots _) fun s₃ w₃ h₃ => ?_
  rcases h₃ with ⟨hdecided, rfl⟩
  have hbegins := htracks.begins (hnet.trans hdecided)
  rw [wp_bind]
  refine wp_mono (idle_keeps (announce_all_idle _) w₃) fun _ w₄ h₄ => ?_
  subst h₄
  rw [wp_bind]
  -- mitigation keeps `J` lot by lot
  have hmitigated : wp (venues inp)
      (mitigate cfg (!sight.failed_platforms.isEmpty) s₃) J w₄ := by
    unfold mitigate
    rw [wp_ite]
    refine ⟨fun hcond => ?_, fun _ => wp_ret.2 (hbegin s₃ hbegins)⟩
    -- no venue failed, so every tracked lot is one the venues have just listed
    have hnone : inp.failed cfg = [] := by
      rw [← hsight.failed]
      simpa using hcond.2
    apply mitigate_all_keeps _ _ (hbegin s₃ hbegins)
    intro pos hpos
    rcases hbegins.sized pos hpos with hlots | hfailed
    · exact hstep pos hlots
    · rw [hnone] at hfailed
      exact absurd hfailed List.not_mem_nil
  refine wp_mono hmitigated fun s₅ w₅ h₅ => ?_
  rw [hsight.failed]
  apply hsweep _ s₅ w₅ _ h₅
  intro key
  rw [← Tracker.has_iff]
  exact hsight.seen key

theorem covers_idle (failed_platforms : List String) (platform : String) :
    (covers failed_platforms platform).Calls Idle := by
  unfold covers
  rw [calls_ite]
  refine ⟨fun _ => calls_pure _, fun _ => .bind (calls_send.2 trivial) fun available => ?_⟩
  rw [calls_ite]
  exact ⟨fun _ => calls_pure _, fun _ => calls_pure _⟩

theorem covered_platforms_idle (failed_platforms : List String) :
    (covered_platforms failed_platforms).Calls Idle :=
  .bind (covers_idle _ _) fun _ => .bind (covers_idle _ _) fun _ => .bind (covers_idle _ _) fun _ =>
    calls_pure _

theorem announce_closed_idle {arb : ListedArb} : (announce_closed cfg arb).Calls Idle := by
  unfold announce_closed
  rw [calls_ite]
  exact ⟨fun _ => calls_send.2 trivial, fun _ => calls_ret _⟩

theorem sweep_arbs_book {covered : List String} {raw : List Key} (arbs : List ListedArb)
    (resolved : ℕ) (seen : List String) :
    wp (venues inp) (sweep_arbs cfg covered raw arbs resolved seen s)
      (fun r w' => SameBook s r.1 ∧ SameOrders w w') w := by
  induction arbs generalizing resolved seen s w with
  | nil => exact wp_pure.2 ⟨.refl s, rfl, rfl⟩
  | cons arb rest ih =>
    -- setting a streak touches no book
    have hset : ∀ (absents resolved : ℕ) (s₁ : Reconciler) (w₁ : Deeds), SameBook s s₁ →
        SameOrders w w₁ → wp (venues inp)
          (sweep_arbs cfg covered raw rest resolved (arb.arb_id :: seen)
            (s₁.set_absent arb.arb_id absents))
          (fun r w' => SameBook s r.1 ∧ SameOrders w w') w₁ := by
      intro absents resolved s₁ w₁ hbook horders
      refine wp_mono (ih _ _) fun r w' h => ⟨⟨?_, ?_, ?_, ?_⟩, ?_, ?_⟩
      · exact h.1.tracked.trans hbook.tracked
      · exact h.1.absent.trans hbook.absent
      · exact h.1.submitted.trans hbook.submitted
      · exact h.1.largest.trans hbook.largest
      · exact h.2.1.trans horders.1
      · exact h.2.2.trans horders.2
    unfold sweep_arbs
    simp only [wp_ite]
    refine ⟨fun _ => ih _ _, fun _ => ⟨fun _ => hset _ _ s w (.refl s) ⟨rfl, rfl⟩,
      fun _ => ⟨fun _ => hset _ _ s w (.refl s) ⟨rfl, rfl⟩, fun _ => ?_⟩⟩⟩
    rw [wp_bind, wp_send]
    intro answer w₁ hs
    have horders : SameOrders w w₁ := by
      rw [hs.2]
      exact ⟨rfl, rfl⟩
    cases answer with
    | none => exact wp_pure.2 ⟨⟨rfl, rfl, rfl, rfl⟩, horders⟩
    | some _ =>
      dsimp only
      rw [wp_bind]
      refine wp_mono (idle_keeps announce_closed_idle w₁) fun _ w₂ h₂ => ?_
      subst h₂
      rw [wp_ite]
      refine ⟨fun _ => wp_pure.2 ⟨⟨rfl, rfl, rfl, rfl⟩, horders⟩, fun _ => ?_⟩
      exact hset _ _ _ _ ⟨rfl, rfl, rfl, rfl⟩ horders

theorem sweep_book {raw : List Key} {failed_platforms : List String} :
    wp (venues inp) (sweep_phantom_records cfg raw failed_platforms s)
      (fun s' w' => SameBook s s' ∧ SameOrders w w') w := by
  unfold sweep_phantom_records
  rw [wp_ite]
  refine ⟨fun _ => wp_pure.2 ⟨.refl s, rfl, rfl⟩, fun _ => ?_⟩
  rw [wp_bind]
  refine wp_mono (idle_keeps (covered_platforms_idle _) w) fun covered w₁ h₁ => ?_
  subst h₁
  rw [wp_bind, wp_send]
  rintro answer w₂ ⟨-, rfl⟩
  cases answer with
  | none => exact wp_pure.2 ⟨.refl s, rfl, rfl⟩
  | some arbs =>
    dsimp only
    rw [wp_bind]
    refine wp_mono (sweep_arbs_book arbs 0 []) fun r w₃ h₃ => ?_
    obtain ⟨s₃, seen⟩ := r
    cases seen with
    | none => exact wp_pure.2 h₃
    | some seen =>
      exact wp_pure.2 ⟨⟨h₃.1.tracked, h₃.1.absent, h₃.1.submitted, h₃.1.largest⟩, h₃.2⟩

end cycle

/-! ## Section 8: Sequences of cycles -/

/-- One cycle of the past: the state it began in, what it was told, what it did. -/
structure Past where
  before : Reconciler
  inputs : Inputs
  deeds : Deeds

/-- A reconciler and its past, the last cycle first. -/
structure Trace where
  state : Reconciler
  past : List Past

/-- Every sequence of cycles of a new reconciler. -/
def cycles (cfg : Config) : System Trace (Inputs × Deeds) where
  init := fun t => t.state = .new ∧ t.past = []
  step := fun t l t' =>
    Exec (venues l.1) (run_once cfg t.state) .none t'.state l.2 ∧
      t'.past = { before := t.state, inputs := l.1, deeds := l.2 } :: t.past

theorem tidy_new : Tidy .new := fun _ _ => rfl

end Stranded
