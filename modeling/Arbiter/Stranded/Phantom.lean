import Arbiter.Stranded.Cap

/-! # Absence of Data and Absence of Position

  When the reconciler takes a lot for gone, and when it closes a record as a phantom:
  whether each follows three cycles in a row in which the venues were read and
  reported flat.

  ## Contents

  - Section 1: the claim, and the conditions under which it holds.
  - Section 2: what the sweep does to the streaks.
  - Section 3: one cycle.
  - Section 4: whole runs.
  - Section 5: a close over a cycle that read nothing.
-/

namespace Stranded

open Effect Execution LTS

/-! ## Section 1: Streaks -/

/-- Every filled leg of the arb is on a covered platform. -/
def Inputs.covers_arb (cfg : Config) (inp : Inputs) (arb : ListedArb) : Prop :=
  ∀ leg ∈ filled_legs arb, leg.1 ∈ inp.covered cfg

/-- The sweep finds no lot of the arb. -/
def Inputs.absent (cfg : Config) (inp : Inputs) (arb : ListedArb) : Prop :=
  filled_legs arb ≠ [] ∧ inp.covers_arb cfg arb ∧ ∀ leg ∈ filled_legs arb, ¬ inp.lists cfg leg

/-- The sweep comes to close the arb. -/
def Due (cfg : Config) (inp : Inputs) (s : Reconciler) (arb : ListedArb) : Prop :=
  inp.absent cfg arb ∧ phantom_absent_cycles ≤ s.phantom_absent arb.arb_id + 1

/-- The arbs a cycle lists. -/
def Inputs.listed (inp : Inputs) : List ListedArb := inp.records.getD []

/-- The filled legs under one id. -/
def legs_of (arbs : List ListedArb) (arb_id : String) : List Key :=
  (arbs.filter fun arb => arb.arb_id = arb_id).flatMap filled_legs

/-- The filled legs of an arb, as it was last listed. -/
def last_legs (arb_id : String) : List Past → List Key
  | [] => []
  | p :: rest =>
      match p.inputs.records with
      | none => last_legs arb_id rest
      | some arbs => legs_of arbs arb_id

/-- A lot is taken for gone: it leaves the tracker, or its accounting starts afresh. -/
def treats_gone (s s' : Reconciler) (key : Key) : Prop :=
  (s.tracked.has key = true ∧ s'.tracked.has key = false) ∨
    (s.cum_close_submitted key ≠ 0 ∧ s'.cum_close_submitted key = 0)

/-- The last cycle took for gone only lots reported flat for the third cycle in a row. -/
def GoneWhenFlat (cfg : Config) (s : Reconciler) : List Past → Prop
  | [] => True
  | p :: rest => ∀ key, treats_gone p.before s key →
      cap_absent_limit ≤ flat_streak cfg key (p :: rest)

/-- The last cycle closed only records whose filled legs were all reported flat for the
    third cycle in a row. -/
def ClosedWhenFlat (cfg : Config) (_ : Reconciler) : List Past → Prop
  | [] => True
  | p :: rest => ∀ arb ∈ p.deeds.closed, ∀ leg ∈ filled_legs arb,
      phantom_absent_cycles ≤ flat_streak cfg leg (p :: rest)

/-- Every tracked lot was listed in the last cycle, or its fetch raised. -/
def NothingVanishes (cfg : Config) (_ : Reconciler) : List Past → Prop
  | [] => True
  | p :: _ => ∀ key, p.before.tracked.has key = true →
      p.inputs.lists cfg key ∨ key.1 ∈ p.inputs.failed cfg

/-- One cycle lets no streak run over an unread venue. -/
structure Unbroken (cfg : Config) (p : Past) (rest : List Past) : Prop where
  /-- A cycle that cannot list the arbs reads the legs of those with a streak as flat. -/
  unlisted : p.inputs.records = none → ∀ arb_id, p.before.phantom_absent arb_id ≠ 0 →
    ∀ leg ∈ last_legs arb_id rest, p.inputs.reports_flat cfg leg
  /-- So does a cycle that passes over an arb with a streak. -/
  passed : ∀ arb ∈ p.inputs.listed, p.before.phantom_absent arb.arb_id ≠ 0 →
    ¬ p.inputs.covers_arb cfg arb → ∀ leg ∈ filled_legs arb, p.inputs.reports_flat cfg leg
  /-- No further leg fills while a streak runs. -/
  settled : ∀ arb ∈ p.inputs.listed, p.before.phantom_absent arb.arb_id ≠ 0 →
    ∀ leg ∈ filled_legs arb, leg ∈ last_legs arb.arb_id rest
  /-- Where the sweep finds no lot, the venues were read. -/
  read : ∀ arb ∈ p.inputs.listed, p.inputs.absent cfg arb →
    ∀ leg ∈ filled_legs arb, p.inputs.reads cfg leg.1
  /-- The close of a record does not raise. -/
  closes : ∀ arb ∈ p.inputs.listed, Due cfg p.inputs p.before arb →
    p.inputs.update_raises arb = false

/-- With a store, the last cycle let no streak run over an unread venue. -/
def StreaksUnbroken (cfg : Config) (_ : Reconciler) : List Past → Prop
  | [] => True
  | p :: rest => cfg.has_store = true → Unbroken cfg p rest

theorem mem_legs_of {arbs : List ListedArb} {arb_id : String} {leg : Key} :
    leg ∈ legs_of arbs arb_id ↔ ∃ arb ∈ arbs, arb.arb_id = arb_id ∧ leg ∈ filled_legs arb := by
  simp [legs_of, and_assoc]

/-! ## Section 2: The sweep -/

section sweep

variable {cfg : Config} {inp : Inputs} {s : Reconciler} {w : Deeds}

/-- What the sweep makes of one streak: it goes on, stands, or ends. -/
def Judged (cfg : Config) (inp : Inputs) (s s' : Reconciler) (arb : ListedArb) : Prop :=
  s'.phantom_absent arb.arb_id = 0 ∨
    (inp.absent cfg arb ∧ s'.phantom_absent arb.arb_id = s.phantom_absent arb.arb_id + 1) ∨
    ((filled_legs arb = [] ∨ ¬ inp.covers_arb cfg arb) ∧
      s'.phantom_absent arb.arb_id = s.phantom_absent arb.arb_id)

/-- Where the loop of the sweep stands. -/
structure Swept (cfg : Config) (inp : Inputs) (s s' : Reconciler) (seen : List String)
    (w : Deeds) : Prop where
  judged : ∀ arb_id ∈ seen, ∃ arb ∈ inp.listed, arb.arb_id = arb_id ∧ Judged cfg inp s s' arb
  closed : ∀ arb ∈ w.closed, arb ∈ inp.listed ∧ Due cfg inp s arb

theorem covers_spec {platform : String} (hplatform : platform ∈ platforms) :
    wp (venues inp) (covers (inp.failed cfg) platform)
      (fun l w' => l = (if platform ∈ inp.covered cfg then [platform] else []) ∧ w' = w) w := by
  have hiff : platform ∈ inp.covered cfg ↔
      platform ∉ inp.failed cfg ∧ inp.available platform = true := by
    simp [Inputs.covered, hplatform]
  unfold covers
  rw [wp_ite]
  constructor
  · intro hfailed
    simp [hiff, hfailed]
  · intro hfailed
    rw [wp_bind, wp_send]
    intro available w₁ hs
    have havailable : available = inp.available platform := hs.1
    have hw : w₁ = w := hs.2
    rw [hw, wp_ite, havailable]
    constructor
    · intro hyes
      simp [hiff, hfailed, hyes]
    · intro hno
      simp [hiff, hfailed, hno]

/-- The sweep covers what the inputs cover. -/
theorem covered_platforms_spec :
    wp (venues inp) (covered_platforms (inp.failed cfg))
      (fun covered w' => (∀ platform, platform ∈ covered ↔ platform ∈ inp.covered cfg) ∧ w' = w)
      w := by
  unfold covered_platforms
  rw [wp_bind]
  refine wp_mono (covers_spec (by decide)) fun kalshi w₁ hk => ?_
  rw [wp_bind]
  refine wp_mono (covers_spec (by decide)) fun polymarket w₂ hp => ?_
  rw [wp_bind]
  refine wp_mono (covers_spec (by decide)) fun forecastex w₃ hf => ?_
  rw [wp_pure]
  constructor
  · intro platform
    have hknown : platform ∈ inp.covered cfg → platform ∈ platforms := fun h =>
      (List.mem_filter.1 h).1
    have hcases : platform ∈ platforms ↔
        platform = "kalshi" ∨ platform = "polymarket" ∨ platform = "forecastex" := by
      simp [platforms]
    rw [hcases] at hknown
    rw [hk.1, hp.1, hf.1]
    constructor
    · simp only [List.mem_append]
      intro h
      rcases h with (h | h) | h <;> split_ifs at h <;> simp_all
    · intro h
      rcases hknown h with rfl | rfl | rfl <;> simp [h]
  · exact hf.2.trans (hp.2.trans hk.2)

/-- One more arb is judged. -/
theorem Swept.judge {arb : ListedArb} {s₁ : Reconciler} {seen : List String} {absents : ℕ}
    {w₁ : Deeds} (h : Swept cfg inp s s₁ seen w) (hlisted : arb ∈ inp.listed)
    (hjudged : Judged cfg inp s (s₁.set_absent arb.arb_id absents) arb)
    (hclosed : ∀ closed ∈ w₁.closed, closed ∈ inp.listed ∧ Due cfg inp s closed) :
    Swept cfg inp s (s₁.set_absent arb.arb_id absents) (arb.arb_id :: seen) w₁ := by
  refine ⟨fun arb_id hseen => ?_, hclosed⟩
  by_cases heq : arb_id = arb.arb_id
  · exact ⟨arb, hlisted, heq.symm, hjudged⟩
  · rcases h.judged arb_id ((List.mem_cons.1 hseen).resolve_left heq) with
      ⟨before, hbefore, hid, hold⟩
    refine ⟨before, hbefore, hid, ?_⟩
    simpa [Judged, Reconciler.set_absent, hid, heq] using hold

/-- A record that is due joins those closed before. -/
theorem Swept.close {arb : ListedArb} {s₁ : Reconciler} {seen : List String}
    (h : Swept cfg inp s s₁ seen w) (hlisted : arb ∈ inp.listed) (hdue : Due cfg inp s arb) :
    ∀ closed ∈ arb :: w.closed, closed ∈ inp.listed ∧ Due cfg inp s closed := by
  intro closed hmem
  rcases List.mem_cons.1 hmem with rfl | hold
  · exact ⟨hlisted, hdue⟩
  · exact h.closed closed hold

/-- The loop of the sweep judges each arb it sees, when no close raises. -/
theorem sweep_arbs_swept {covered : List String} {raw : List Key}
    (hcovered : ∀ platform, platform ∈ covered ↔ platform ∈ inp.covered cfg)
    (hraw : ∀ key, key ∈ raw ↔ inp.lists cfg key)
    (hcloses : ∀ arb ∈ inp.listed, Due cfg inp s arb → inp.update_raises arb = false)
    (arbs : List ListedArb) (harbs : ∀ arb ∈ arbs, arb ∈ inp.listed)
    (hnodup : (arbs.map (·.arb_id)).Nodup) (resolved : ℕ) (seen : List String) (s₁ : Reconciler)
    (hstreaks : ∀ arb ∈ arbs, s₁.phantom_absent arb.arb_id = s.phantom_absent arb.arb_id)
    (h : Swept cfg inp s s₁ seen w) :
    wp (venues inp) (sweep_arbs cfg covered raw arbs resolved seen s₁)
      (fun r w' => ∃ seen', r.2 = some seen' ∧ Swept cfg inp s r.1 seen' w') w := by
  induction arbs generalizing resolved seen s₁ w with
  | nil => exact wp_pure.2 ⟨seen, rfl, h⟩
  | cons arb rest ih =>
    have hlisted := harbs arb List.mem_cons_self
    have hhere := hstreaks arb List.mem_cons_self
    rw [List.map_cons, List.nodup_cons] at hnodup
    have hother : ∀ later ∈ rest, later.arb_id ≠ arb.arb_id := fun later hlater heq =>
      hnodup.1 (heq ▸ List.mem_map_of_mem hlater)
    -- the arb at hand is judged, and the loop goes on
    have hrest : ∀ (absents resolved : ℕ) (w₁ : Deeds),
        Judged cfg inp s (s₁.set_absent arb.arb_id absents) arb →
        (∀ closed ∈ w₁.closed, closed ∈ inp.listed ∧ Due cfg inp s closed) →
        wp (venues inp) (sweep_arbs cfg covered raw rest resolved (arb.arb_id :: seen)
          (s₁.set_absent arb.arb_id absents))
          (fun r w' => ∃ seen', r.2 = some seen' ∧ Swept cfg inp s r.1 seen' w') w₁ := by
      intro absents resolved w₁ hjudged hclosed
      apply ih (fun later hlater => harbs later (List.mem_cons_of_mem _ hlater)) hnodup.2
      · intro later hlater
        have hkept := hstreaks later (List.mem_cons_of_mem _ hlater)
        simpa [Reconciler.set_absent, hother later hlater] using hkept
      · exact h.judge hlisted hjudged hclosed
    unfold sweep_arbs
    simp only [wp_ite]
    constructor
    · -- passed over: the streak stands
      intro hpassed
      have hsame : s₁.set_absent arb.arb_id (s₁.phantom_absent arb.arb_id) = s₁ := by
        simp [Reconciler.set_absent]
      have hstands : Judged cfg inp s (s₁.set_absent arb.arb_id (s₁.phantom_absent arb.arb_id)) arb := by
        right; right
        refine ⟨hpassed.imp_right fun huncovered hall => ?_, by simp [Reconciler.set_absent, hhere]⟩
        rcases huncovered with ⟨leg, hleg, hno⟩
        exact hno ((hcovered _).2 (hall leg hleg))
      have hgoes := hrest (s₁.phantom_absent arb.arb_id) resolved w hstands h.closed
      rwa [hsame] at hgoes
    · intro hpassed
      push Not at hpassed
      constructor
      · -- a lot is held: the streak ends
        intro _
        exact hrest 0 resolved w (.inl (by simp [Reconciler.set_absent])) h.closed
      · intro hheld
        push Not at hheld
        have habsent : inp.absent cfg arb :=
          ⟨hpassed.1, fun leg hleg => (hcovered _).1 (hpassed.2 leg hleg),
            fun leg hleg hlists => hheld leg hleg ((hraw leg).2 hlists)⟩
        constructor
        · intro _
          apply hrest _ resolved w _ h.closed
          right; left
          exact ⟨habsent, by simp [Reconciler.set_absent, hhere]⟩
        · -- the third cycle: the record is closed
          intro hthird
          have hdue : Due cfg inp s arb := by
            refine ⟨habsent, ?_⟩
            rw [← hhere]
            omega
          rw [wp_bind, wp_send]
          intro answer w₁ hs
          have hanswer : answer = some () := by
            have htold : answer = if inp.update_raises arb then none else some () := hs.1
            rw [htold, hcloses arb hlisted hdue]
            rfl
          have hclosed : ∀ closed ∈ w₁.closed, closed ∈ inp.listed ∧ Due cfg inp s closed := by
            rw [hs.2]
            exact h.close hlisted hdue
          subst hanswer
          dsimp only
          rw [wp_bind]
          refine wp_mono (idle_keeps announce_closed_idle w₁) fun _ w₂ hw => ?_
          subst hw
          have htwice : (s₁.set_absent arb.arb_id (s₁.phantom_absent arb.arb_id + 1)).set_absent
              arb.arb_id 0 = s₁.set_absent arb.arb_id 0 := by
            simp [Reconciler.set_absent]
          have hended : Judged cfg inp s (s₁.set_absent arb.arb_id 0) arb :=
            .inl (by simp [Reconciler.set_absent])
          rw [htwice, wp_ite]
          constructor
          · intro _
            exact wp_pure.2 ⟨_, rfl, h.judge hlisted hended hclosed⟩
          · intro _
            exact hrest 0 (resolved + 1) _ hended hclosed

/-- What the sweep of a cycle leaves: streaks that went on or stood, and records closed
    when they were due. -/
structure SweptOnce (cfg : Config) (inp : Inputs) (s s' : Reconciler) (w : Deeds) : Prop where
  streaks : ∀ arb_id, s'.phantom_absent arb_id ≠ 0 →
    (inp.records = none ∧ s'.phantom_absent arb_id = s.phantom_absent arb_id) ∨
      ∃ arb ∈ inp.listed, arb.arb_id = arb_id ∧ Judged cfg inp s s' arb
  closed : ∀ arb ∈ w.closed, arb ∈ inp.listed ∧ Due cfg inp s arb

theorem sweep_phantom_records_swept {raw : List Key} (hstore : cfg.has_store = true)
    (hraw : ∀ key, key ∈ raw ↔ inp.lists cfg key)
    (hcloses : ∀ arb ∈ inp.listed, Due cfg inp s arb → inp.update_raises arb = false)
    (hw : w.closed = []) :
    wp (venues inp) (sweep_phantom_records cfg raw (inp.failed cfg) s)
      (fun s' w' => SweptOnce cfg inp s s' w') w := by
  have hnone : ∀ arb ∈ w.closed, arb ∈ inp.listed ∧ Due cfg inp s arb := by simp [hw]
  unfold sweep_phantom_records
  rw [wp_ite]
  constructor
  · intro hno
    rw [hstore] at hno
    exact absurd hno (by decide)
  · intro _
    rw [wp_bind]
    refine wp_mono covered_platforms_spec fun covered w₁ h₁ => ?_
    rcases h₁ with ⟨hcovered, rfl⟩
    rw [wp_bind, wp_send]
    intro answer w₂ hs
    have hanswer : answer = inp.records := hs.1
    have hw₂ : w₂ = w₁ := hs.2
    rw [hw₂]
    cases hrecords : inp.records with
    | none =>
      rw [hanswer, hrecords]
      exact wp_pure.2 ⟨fun _ _ => .inl ⟨hrecords, rfl⟩, hnone⟩
    | some arbs =>
      rw [hanswer, hrecords]
      dsimp only
      have hlisted : inp.listed = arbs := by simp [Inputs.listed, hrecords]
      rw [wp_bind]
      -- an answer is a list of records, each with an id of its own
      have hloop := sweep_arbs_swept (s := s) (w := w₁) hcovered hraw hcloses arbs
        (fun arb harb => by rwa [hlisted]) (inp.records_nodup arbs hrecords) 0 [] s
        (fun _ _ => rfl) ⟨by simp, hnone⟩
      refine wp_mono hloop fun r w₃ h₃ => ?_
      obtain ⟨s₃, answered⟩ := r
      rcases h₃ with ⟨seen, hseen, hswept⟩
      have hgiven : answered = some seen := hseen
      rw [hgiven]
      refine wp_pure.2 ⟨fun arb_id hstreak => .inr ?_, hswept.closed⟩
      have hin : arb_id ∈ seen := by
        by_contra hno
        exact hstreak (if_neg hno)
      rcases hswept.judged arb_id hin with ⟨arb, harb, hid, hjudged⟩
      refine ⟨arb, harb, hid, ?_⟩
      simpa [Judged, hid, hin] using hjudged

end sweep

/-! ## Section 3: One cycle -/

/-- What a cycle makes of the tracker and the accounting. -/
structure Booked (cfg : Config) (inp : Inputs) (s s' : Reconciler) : Prop where
  tidy : Tidy s'
  has : ∀ key, s'.tracked.has key = true ↔
    inp.lists cfg key ∨ (s.tracked.has key = true ∧ key.1 ∈ inp.failed cfg)
  grows : ∀ key, s.cum_close_submitted key ≤ s'.cum_close_submitted key

/-- What holds of a cycle before its sweep. -/
structure Unswept (cfg : Config) (inp : Inputs) (s s' : Reconciler) (w : Deeds) : Prop
    extends Booked cfg inp s s' where
  phantom : s'.phantom_absent = s.phantom_absent
  closed : w.closed = []

/-- What one cycle does to the tracker, the accounting and the streaks. -/
structure Cycled (cfg : Config) (inp : Inputs) (s s' : Reconciler) (w : Deeds) : Prop
    extends Booked cfg inp s s' where
  swept : cfg.has_store = true →
    (∀ arb ∈ inp.listed, Due cfg inp s arb → inp.update_raises arb = false) →
      SweptOnce cfg inp s s' w
  unswept : cfg.has_store = false → s'.phantom_absent = s.phantom_absent ∧ w.closed = []

section cycle

variable {cfg : Config} {inp : Inputs} {s s' : Reconciler} {w w' : Deeds}

theorem Deeds.place_closed (w : Deeds) (order : MitigationOrder) (placement : Placement) :
    (w.place order placement).closed = w.closed := by
  cases placement with
  | returned _ => rfl
  | raised _ accepted => cases accepted <;> rfl

theorem Mitigates.closed {pos : StrandedPosition} (h : Mitigates cfg s pos w s' w') :
    w'.closed = w.closed := by
  cases h with
  | nothing => rfl
  | weighed => rfl
  | lost => exact Deeds.place_closed w _ _
  | counted => exact Deeds.place_closed w _ _

theorem Begins.unswept {s₁ : Reconciler} (h : Begins cfg inp s s₁) (hw : w.closed = []) :
    Unswept cfg inp s s₁ w where
  tidy := h.tidy
  has := h.has
  grows := fun key => by rw [h.accounts.submitted]
  phantom := h.accounts.phantom
  closed := hw

/-- The tracker and the accounting, where only the counts may have grown since. -/
theorem Booked.later {s₁ s₂ : Reconciler} (h : Booked cfg inp s s₁)
    (htracked : s₂.tracked = s₁.tracked) (habsent : s₂.cap_absent_cycles = s₁.cap_absent_cycles)
    (hgrows : ∀ key, s₁.cum_close_submitted key ≤ s₂.cum_close_submitted key) :
    Booked cfg inp s s₂ := by
  constructor
  · intro key hkey
    rw [habsent]
    rw [htracked] at hkey
    exact h.tidy key hkey
  · intro key
    rw [htracked]
    exact h.has key
  · intro key
    exact (h.grows key).trans (hgrows key)

theorem Unswept.mitigates {pos : StrandedPosition} {s₁ s₂ : Reconciler} {w₁ w₂ : Deeds}
    (h : Unswept cfg inp s s₁ w₁) (hm : Mitigates cfg s₁ pos w₁ s₂ w₂) :
    Unswept cfg inp s s₂ w₂ where
  toBooked := h.toBooked.later hm.view.tracked hm.view.absent hm.grows
  phantom := hm.view.phantom.trans h.phantom
  closed := hm.closed.trans h.closed

/-- The streaks that matter to the sweep are those the cycle began with. -/
theorem SweptOnce.of_phantom {s₁ : Reconciler} (h : SweptOnce cfg inp s₁ s' w)
    (hsame : s₁.phantom_absent = s.phantom_absent) : SweptOnce cfg inp s s' w := by
  constructor
  · intro arb_id hstreak
    have hjudged := h.streaks arb_id hstreak
    simp only [Judged, hsame] at hjudged
    exact hjudged
  · intro arb harb
    have hclosed := h.closed arb harb
    simp only [Due, hsame] at hclosed
    exact hclosed

theorem Unswept.swept {raw : List Key} (h : Unswept cfg inp s s' w)
    (hraw : ∀ key, key ∈ raw ↔ inp.lists cfg key) :
    wp (venues inp) (sweep_phantom_records cfg raw (inp.failed cfg) s') (Cycled cfg inp s) w := by
  have hbooked : ∀ s₂, SameBook s' s₂ → Booked cfg inp s s₂ := fun s₂ hsame =>
    h.toBooked.later hsame.tracked hsame.absent fun key => by rw [hsame.submitted]
  intro s₂ w₂ hrun
  have hsame := (sweep_book s₂ w₂ hrun).1
  refine { toBooked := hbooked s₂ hsame, swept := fun hstore hcloses => ?_, unswept := fun hoff => ?_ }
  · have hdue : ∀ arb ∈ inp.listed, Due cfg inp s' arb → inp.update_raises arb = false := by
      intro arb harb hdue
      simp only [Due, h.phantom] at hdue
      exact hcloses arb harb hdue
    have hswept := sweep_phantom_records_swept hstore hraw hdue h.closed s₂ w₂ hrun
    exact hswept.of_phantom h.phantom
  · have hidle : wp (venues inp) (sweep_phantom_records cfg raw (inp.failed cfg) s')
        (fun s₂ w₂ => s₂ = s' ∧ w₂ = w) w := by
      unfold sweep_phantom_records
      rw [if_pos hoff]
      simp
    rcases hidle s₂ w₂ hrun with ⟨rfl, rfl⟩
    exact ⟨h.phantom, h.closed⟩

theorem run_once_cycled (htidy : Tidy s) (hw : w.closed = []) :
    wp (venues inp) (run_once cfg s) (Cycled cfg inp s) w := by
  refine run_once_rule (J := Unswept cfg inp s) (K := Cycled cfg inp s) htidy ?_ ?_ ?_
  · intro s₁ hb
    exact hb.unswept hw
  · intro pos _ s₁ w₁ s₂ w₂ h hm
    exact h.mitigates hm
  · intro raw s₂ w₂ hraw h
    exact h.swept hraw

end cycle

/-! ## Section 4: Whole runs -/

/-- Every streak counts cycles in which the legs of its arb were reported flat. -/
def Counted (cfg : Config) (s : Reconciler) (past : List Past) : Prop :=
  ∀ arb_id, s.phantom_absent arb_id ≠ 0 → cfg.has_store = true ∧
    ∀ leg ∈ last_legs arb_id past, s.phantom_absent arb_id ≤ flat_streak cfg leg past

section runs

variable {cfg : Config} {p : Past} {rest : List Past} {s' : Reconciler}

theorem flat_streak_flat {leg : Key} (h : p.inputs.reports_flat cfg leg) :
    flat_streak cfg leg (p :: rest) = flat_streak cfg leg rest + 1 := if_pos h

theorem flat_streak_not_flat {leg : Key} (h : ¬ p.inputs.reports_flat cfg leg) :
    flat_streak cfg leg (p :: rest) = 0 := if_neg h

/-- The legs of an arb that is listed are its own. -/
theorem mem_last_legs {arb : ListedArb} (harb : arb ∈ p.inputs.listed) {leg : Key} :
    leg ∈ last_legs arb.arb_id (p :: rest) ↔ leg ∈ filled_legs arb := by
  cases hrecords : p.inputs.records with
  | none => simp [Inputs.listed, hrecords] at harb
  | some arbs =>
    have hin : arb ∈ arbs := by simpa [Inputs.listed, hrecords] using harb
    have hlegs : last_legs arb.arb_id (p :: rest) = legs_of arbs arb.arb_id := by
      simp [last_legs, hrecords]
    rw [hlegs, mem_legs_of]
    constructor
    · intro h
      rcases h with ⟨other, hother, hid, hleg⟩
      have hsame : other = arb :=
        List.inj_on_of_nodup_map (p.inputs.records_nodup arbs hrecords) hother hin hid
      rwa [← hsame]
    · intro hleg
      exact ⟨arb, hin, rfl, hleg⟩

/-- Where the sweep finds no lot of an arb, its legs are flat for one cycle more. -/
theorem Unbroken.absent (hu : Unbroken cfg p rest) (hold : Counted cfg p.before rest)
    {arb : ListedArb} (harb : arb ∈ p.inputs.listed) (habsent : p.inputs.absent cfg arb) :
    ∀ leg ∈ filled_legs arb,
      p.before.phantom_absent arb.arb_id + 1 ≤ flat_streak cfg leg (p :: rest) := by
  intro leg hleg
  have hflat : p.inputs.reports_flat cfg leg :=
    ⟨hu.read arb harb habsent leg hleg, habsent.2.2 leg hleg⟩
  rw [flat_streak_flat hflat]
  by_cases hzero : p.before.phantom_absent arb.arb_id = 0
  · omega
  · have hle := (hold _ hzero).2 leg (hu.settled arb harb hzero leg hleg)
    omega

/-- One unbroken cycle: the streaks still count flat cycles, and what it closes was flat
    for three of them. -/
theorem Cycled.counted (hc : Cycled cfg p.inputs p.before s' p.deeds)
    (hu : cfg.has_store = true → Unbroken cfg p rest) (hold : Counted cfg p.before rest) :
    Counted cfg s' (p :: rest) ∧ ClosedWhenFlat cfg s' (p :: rest) := by
  by_cases hstore : cfg.has_store = true
  · have hunbroken := hu hstore
    have hswept := hc.swept hstore hunbroken.closes
    constructor
    · intro arb_id hstreak
      refine ⟨hstore, fun leg hleg => ?_⟩
      rcases hswept.streaks arb_id hstreak with ⟨hnone, hsame⟩ | ⟨arb, harb, rfl, hjudged⟩
      · -- nothing was listed: the streak stands, and its legs were flat
        have hlast : last_legs arb_id (p :: rest) = last_legs arb_id rest := by
          simp [last_legs, hnone]
        rw [hlast] at hleg
        rw [hsame] at hstreak ⊢
        rw [flat_streak_flat (hunbroken.unlisted hnone arb_id hstreak leg hleg)]
        have hle := (hold arb_id hstreak).2 leg hleg
        omega
      · rw [mem_last_legs harb] at hleg
        rcases hjudged with hzero | ⟨habsent, hmore⟩ | ⟨hpassed, hsame⟩
        · exact absurd hzero hstreak
        · -- absent once more: one more flat cycle
          rw [hmore]
          exact hunbroken.absent hold harb habsent leg hleg
        · -- passed over: the streak stands, and the cycle is flat as well
          rw [hsame] at hstreak ⊢
          have huncovered : ¬ p.inputs.covers_arb cfg arb := by
            apply hpassed.resolve_left
            intro hempty
            rw [hempty] at hleg
            exact absurd hleg List.not_mem_nil
          rw [flat_streak_flat (hunbroken.passed arb harb hstreak huncovered leg hleg)]
          have hle := (hold _ hstreak).2 leg (hunbroken.settled arb harb hstreak leg hleg)
          omega
    · -- what was closed was due, after three such cycles
      intro arb hclosed leg hleg
      have hdue := hswept.closed arb hclosed
      have hle := hunbroken.absent hold hdue.1 hdue.2.1 leg hleg
      exact hdue.2.2.trans hle
  · have hoff : cfg.has_store = false := by simpa using hstore
    constructor
    · intro arb_id hstreak
      rw [(hc.unswept hoff).1] at hstreak
      exact absurd (hold arb_id hstreak).1 hstore
    · intro arb hclosed
      rw [(hc.unswept hoff).2] at hclosed
      exact absurd hclosed List.not_mem_nil

/-- A lot that a cycle takes for gone was not flat in the cycle before. -/
theorem Cycled.gone_iff (hc : Cycled cfg p.inputs p.before s' p.deeds)
    (hseen : ∀ key, p.before.tracked.has key = true → flat_streak cfg key rest = 0) :
    GoneWhenFlat cfg s' (p :: rest) ↔ NothingVanishes cfg s' (p :: rest) := by
  constructor
  · intro h key hkey
    by_contra hno
    push Not at hno
    have hdropped : s'.tracked.has key = false := by
      rw [Bool.eq_false_iff, Ne, hc.has]
      rintro (hlists | hfailed)
      · exact hno.1 hlists
      · exact hno.2 hfailed.2
    -- seen in the cycle before, it has been flat for one cycle at most
    have hthree := h key (.inl ⟨hkey, hdropped⟩)
    have hzero := hseen key hkey
    have hone : flat_streak cfg key (p :: rest) ≤ 1 := by
      by_cases hflat : p.inputs.reports_flat cfg key
      · rw [flat_streak_flat hflat, hzero]
      · rw [flat_streak_not_flat hflat]
        omega
    have hlimit : cap_absent_limit = 3 := rfl
    omega
  · intro h key hgone
    rcases hgone with ⟨hbefore, hafter⟩ | ⟨hbefore, hafter⟩
    · have hkept : s'.tracked.has key = true := by
        rw [hc.has]
        exact (h key hbefore).imp_right fun hfailed => ⟨hbefore, hfailed⟩
      rw [hafter] at hkept
      exact absurd hkept (by decide)
    · have hle := hc.grows key
      omega

/-- A tracked lot was listed in the last cycle, or its venue was not read. -/
theorem Cycled.seen (hc : Cycled cfg p.inputs p.before s' p.deeds) (key : Key)
    (hkey : s'.tracked.has key = true) : flat_streak cfg key (p :: rest) = 0 := by
  apply flat_streak_not_flat
  intro hflat
  rcases (hc.has key).1 hkey with hlists | ⟨-, hfailed⟩
  · exact hflat.2 hlists
  · have hnone : p.inputs.fetched cfg key.1 = none := by
      have hin := (List.mem_filter.1 hfailed).2
      simpa using hin
    exact hflat.1.2.2.2.2 hnone

end runs

/-- **Absence of data is never absence of position**: in every run, the lots taken for gone
    are flat for three cycles in a row throughout exactly when no tracked lot ever vanishes
    from a venue that answered, and the records closed are flat for three cycles in a row
    throughout when no cycle lets a streak run over a venue it did not read. -/
theorem absence_is_flat (cfg : Config) (t : Trace) (hr : Reachable (cycles cfg) t) :
    (Throughout (GoneWhenFlat cfg) t.state t.past ↔
        Throughout (NothingVanishes cfg) t.state t.past) ∧
      (Throughout (StreaksUnbroken cfg) t.state t.past →
        Throughout (ClosedWhenFlat cfg) t.state t.past) := by
  have hall : (Tidy t.state ∧
      ∀ key, t.state.tracked.has key = true → flat_streak cfg key t.past = 0) ∧
      (Throughout (GoneWhenFlat cfg) t.state t.past ↔
        Throughout (NothingVanishes cfg) t.state t.past) ∧
      (Throughout (StreaksUnbroken cfg) t.state t.past →
        Counted cfg t.state t.past ∧ Throughout (ClosedWhenFlat cfg) t.state t.past) := by
    -- a cycle adds its own condition to each side, and the invariant joins them
    induction hr with
    | @init t h =>
      obtain ⟨state, past⟩ := t
      obtain ⟨hstate, hpast⟩ := h
      cases hstate
      cases hpast
      exact ⟨⟨tidy_new, fun _ _ => rfl⟩, Iff.rfl, fun _ => ⟨fun _ h => absurd rfl h, trivial⟩⟩
    | @step t t' l _ hs ih =>
      obtain ⟨hrun, hpast⟩ := hs
      obtain ⟨⟨htidy, hseen⟩, hgone, hclosed⟩ := ih
      let p : Past := ⟨t.state, l.1, l.2⟩
      have hc : Cycled cfg p.inputs p.before t'.state p.deeds :=
        run_once_cycled htidy rfl t'.state l.2 hrun
      rw [hpast]
      refine ⟨⟨hc.tidy, fun key hkey => hc.seen key hkey⟩, ?_, ?_⟩
      · exact and_congr (hc.gone_iff hseen) hgone
      · intro hunbroken
        have hbefore := hclosed hunbroken.2
        have hafter := hc.counted hunbroken.1 hbefore.1
        exact ⟨hafter.1, hafter.2, hbefore.2⟩
  exact ⟨hall.2.1, fun hunbroken => (hall.2.2 hunbroken).2⟩

/-! ## Section 5: A record on Kalshi -/

/-- Production settings on Kalshi alone, with a store. -/
def stored_config : Config := { lone_config with has_store := true }

/-- Eight contracts that Kalshi filled. -/
def filled_row : OrderRow where
  arb_id := "ARB-1"
  client_order_id := none
  platform := "kalshi"
  market_id := "KX-1"
  canonical_id := "KX-1"
  side := .yes
  price := 1 / 2
  quantity := 8
  status := .filled
  fill_price := 1 / 2
  fill_qty := 8
  error := ""

/-- The record of an arb with that one leg filled. -/
def half_filled_arb : ListedArb where
  arb_id := "ARB-1"
  status := "recovering"
  legs := [("K-1", filled_row)]
  canonical_id := "KX-1"
  age_seconds := 9000

/-- A cycle that lists the record. -/
def Inputs.with_record (inp : Inputs) : Inputs :=
  { inp with
    records := some [half_filled_arb]
    records_nodup := by simp }

/-- Nothing is placed for the lot. -/
def let_settle : MitigationDecision := { action := .hold_to_settle, autonomous_ok := true }

/-- One more cycle with the record. -/
def Trace.sweeps (t : Trace) (inp : Inputs) : Trace :=
  t.then stored_config inp.with_record 1000 let_settle (.returned unfilled_sale)

/-- Kalshi does not answer. -/
def outage : Inputs := { nothing_held with kalshi := none }

/-- Three flat cycles: the record is closed. -/
def three_flat_cycles : Trace :=
  ((Trace.start.sweeps nothing_held).sweeps nothing_held).sweeps nothing_held

/-- The lot is there, then flat, then Kalshi is down, then flat twice. -/
def flat_around_outage : Trace :=
  ((((Trace.start.sweeps eight_contracts).sweeps nothing_held).sweeps outage).sweeps
    nothing_held).sweeps nothing_held

theorem sweeps_reachable {t : Trace} (h : Reachable (cycles stored_config) t) (inp : Inputs) :
    Reachable (cycles stored_config) (t.sweeps inp) :=
  h.step (step_then stored_config t inp.with_record 1000 let_settle (.returned unfilled_sale))

/-- A flat cycle breaks no streak, the first one or one that follows the record. -/
theorem unbroken_flat {s : Reconciler} {deeds : Deeds} {rest : List Past}
    (h : s.phantom_absent "ARB-1" = 0 ∨ ("kalshi", "KX-1") ∈ last_legs "ARB-1" rest) :
    Unbroken stored_config ⟨s, nothing_held.with_record, deeds⟩ rest := by
  have hlisted : nothing_held.with_record.listed = [half_filled_arb] := rfl
  have hlegs : filled_legs half_filled_arb = [("kalshi", "KX-1")] := by decide
  have hread : nothing_held.with_record.reads stored_config "kalshi" := by decide
  have hcovered : "kalshi" ∈ nothing_held.with_record.covered stored_config := by decide
  constructor
  · intro hnone
    exact absurd hnone (by simp [Inputs.with_record])
  · intro arb harb _ huncovered
    rw [hlisted, List.mem_singleton] at harb
    subst harb
    refine absurd (fun leg hleg => ?_) huncovered
    rw [hlegs, List.mem_singleton] at hleg
    rw [hleg]
    exact hcovered
  · intro arb harb hstreak leg hleg
    rw [hlisted, List.mem_singleton] at harb
    subst harb
    rw [hlegs, List.mem_singleton] at hleg
    rw [hleg]
    exact h.resolve_left hstreak
  · intro arb harb _ leg hleg
    rw [hlisted, List.mem_singleton] at harb
    subst harb
    rw [hlegs, List.mem_singleton] at hleg
    rw [hleg]
    exact hread
  · intro _ _ _
    rfl

theorem absence_is_flat_three_cycles :
    Throughout (ClosedWhenFlat stored_config) three_flat_cycles.state three_flat_cycles.past ∧
      three_flat_cycles.past.map (·.deeds.closed.length) = [1, 0, 0] := by
  have hstart : Reachable (cycles stored_config) .start := .init ⟨rfl, rfl⟩
  have hreach : Reachable (cycles stored_config) three_flat_cycles :=
    sweeps_reachable (sweeps_reachable (sweeps_reachable hstart _) _) _
  refine ⟨(absence_is_flat stored_config _ hreach).2 ?_, by decide⟩
  refine ⟨fun _ => unbroken_flat (.inr (by decide)),
    fun _ => unbroken_flat (.inr (by decide)), fun _ => unbroken_flat (.inl rfl), trivial⟩

/-- The lot is dropped at its first flat cycle, and the record is closed at the second flat
    cycle after an outage. -/
theorem absence_over_an_outage :
    Reachable (cycles stored_config) flat_around_outage ∧
      ¬ Throughout (GoneWhenFlat stored_config) flat_around_outage.state flat_around_outage.past ∧
      ¬ Throughout (ClosedWhenFlat stored_config) flat_around_outage.state
        flat_around_outage.past := by
  have hstart : Reachable (cycles stored_config) .start := .init ⟨rfl, rfl⟩
  refine ⟨?_, ?_, ?_⟩
  · exact sweeps_reachable (sweeps_reachable (sweeps_reachable (sweeps_reachable
      (sweeps_reachable hstart _) _) _) _) _
  · intro h
    have hdropped := h.2.2.2.1 ("kalshi", "KX-1") (.inl (by decide +kernel))
    exact absurd hdropped (by decide)
  · intro h
    have hclosed : ∃ arb ∈ (flat_around_outage.past.head?.map (·.deeds.closed)).getD [],
        ("kalshi", "KX-1") ∈ filled_legs arb := by decide +kernel
    rcases hclosed with ⟨arb, harb, hleg⟩
    exact absurd (h.1 arb harb ("kalshi", "KX-1") hleg) (by decide)

end Stranded
