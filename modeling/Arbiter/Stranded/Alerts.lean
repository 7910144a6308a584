import Arbiter.Framework.System
import Arbiter.Stranded.InFlight
import Arbiter.Stranded.Phantom
import Arbiter.Stranded.Review

/-! # Lots that Need an Operator

  A cycle raises an incident for a lot only when it sees the lot for the first time. What
  the lot is taken for, hedged, handled or left to the operator, is settled anew in every
  cycle.

  The main result says in which runs every lot that needs an operator has an incident.

  ## Contents

  - Section 1: lots that need an operator.
  - Section 2: cycles, and the incidents raised.
  - Section 3: the announcement of the new lots.
  - Section 4: runs.
  - Section 5: a lot that turns.
-/

namespace Stranded

open Effect Execution LTS

/-! ## Section 1: Who needs an operator -/

/-- The decision on the lot is one that is carried out, or held, without the operator. -/
def Handled (pos : StrandedPosition) : Prop :=
  ∃ decision, pos.mitigation_decision = some decision ∧ decision.autonomous_ok = true ∧
    decision.action.silent = true

/-- The lot is neither hedged nor handled. -/
def NeedsOperator (pos : StrandedPosition) : Prop := ¬ pos.fully_paired ∧ ¬ Handled pos

instance (pos : StrandedPosition) : Decidable (NeedsOperator pos) :=
  decidable_of_iff (¬ pos.fully_paired ∧ ¬ pos.mitigation_decision.any fun decision =>
    decision.autonomous_ok && decision.action.silent)
    (by simp [NeedsOperator, Handled, Option.any_eq_true])

/-- A lot that needs an operator is tracked under the key. -/
def Stands (s : Reconciler) (key : Key) : Prop :=
  ∃ lot, s.tracked.lookup key = some lot ∧ NeedsOperator lot

instance (s : Reconciler) (key : Key) : Decidable (Stands s key) :=
  decidable_of_iff ((s.tracked.lookup key).any fun lot => NeedsOperator lot)
    (by simp [Stands, Option.any_eq_true])

/-- Exactly those lots are announced. -/
theorem announce_eq (cfg : Config) (pos : StrandedPosition) :
    (NeedsOperator pos ∧ announce cfg pos = emit_stranded_incident cfg pos) ∨
      (¬ NeedsOperator pos ∧ announce cfg pos = .ret ()) := by
  unfold announce
  by_cases hpaired : pos.fully_paired
  · exact .inr ⟨fun h => h.1 hpaired, if_pos hpaired⟩
  rw [if_neg hpaired]
  cases hdecision : pos.mitigation_decision with
  | none =>
    refine .inl ⟨⟨hpaired, ?_⟩, rfl⟩
    rintro ⟨decision, hsome, -⟩
    exact absurd (hdecision.symm.trans hsome) nofun
  | some decision =>
    by_cases hsilent : decision.autonomous_ok = true ∧ decision.action.silent = true
    · exact .inr ⟨fun h => h.2 ⟨decision, hdecision, hsilent⟩, if_pos hsilent⟩
    · refine .inl ⟨⟨hpaired, ?_⟩, if_neg hsilent⟩
      rintro ⟨other, hsome, hother⟩
      rw [hdecision, Option.some_inj] at hsome
      exact hsilent (hsome ▸ hother)

/-! ## Section 2: Cycles -/

/-- What one cycle meets. -/
structure Watch where
  /-- What the survey sees. -/
  sight : Sighting
  inventory : Option Inventory
  /-- `decide`; nothing when it raises. -/
  decision : StrandedPosition → Option MitigationDecision
  /-- The lots with an open incident, as the store can list them during the cycle. -/
  open_incidents : Option (List Key) → Prop

/-- What the store and the engine say. -/
def Watch.opinions (l : Watch) : Opinions where
  inventory := l.inventory
  decision := l.decision

/-- The answers a cycle can get. -/
def Watch.answers (l : Watch) : (c : Call) → Answer c → Prop
  | .paired_inventory_by_market, a => a = l.inventory
  | .decide view, a => a = l.decision view
  | .list_open_incidents, a => l.open_incidents a
  | _, _ => True

/-- The lots an incident is raised for, after a call. -/
def raised_after (log : List Key) : Call → List Key
  | .record_incident (.stranded_position pos) => pos.key :: log
  | _ => log

/-- The environment of a cycle. -/
def newsroom (l : Watch) : Env Call Answer (List Key) where
  serve := fun log c a log' => l.answers c a ∧ log' = raised_after log c

theorem newsroom_tells (l : Watch) : Says (newsroom l) l.opinions :=
  ⟨fun _ _ _ hs => hs, fun _ _ _ _ hs => hs⟩

/-- A reconciler, and what its operator has been told. -/
structure Watcher where
  reconciler : Reconciler
  /-- An incident was raised for the lot since it last was hedged, handled or absent. -/
  reported : Key → Prop
  /-- The last cycle read every venue. -/
  complete : Bool

/-- Every sequence of cycles of a new reconciler. -/
def watching (cfg : Config) : System Watcher Watch where
  init := fun b => b.reconciler = .new ∧ ∀ key, ¬ b.reported key
  step := fun b l b' =>
    Exec (newsroom l) (survey cfg) [] l.sight [] ∧
      (∃ raised, Exec (newsroom l) (after_survey cfg b.reconciler l.sight) [] b'.reconciler raised ∧
        ∀ key, b'.reported key ↔ Stands b'.reconciler key ∧ (b.reported key ∨ key ∈ raised)) ∧
      b'.complete = !l.sight.deferred

/-- After a cycle that read every venue, each lot that needs an operator has its incident. -/
def Answered (b : Watcher) : Prop :=
  b.complete = true → ∀ key, Stands b.reconciler key → b.reported key

/-- No lot turns. A lot that needs an operator after the cycle is new and its incident can be
    raised (there is an engine, and the store knows of no open incident of the lot), or it
    needed one before. -/
structure NoneTurns (cfg : Config) (b : Watcher) (l : Watch) : Prop where
  new : ∀ key lot, b.reconciler.tracked.lookup key = none →
    lot_followed l.sight b.reconciler key = some lot →
    NeedsOperator (reviewed_lot cfg l.opinions l.sight.deferred lot) →
      cfg.has_engine = true ∧
        (cfg.has_store = true → ∀ listed, l.open_incidents listed → key ∉ listed.getD [])
  known : ∀ key before lot, b.reconciler.tracked.lookup key = some before →
    lot_followed l.sight b.reconciler key = some lot →
    NeedsOperator (reviewed_lot cfg l.opinions l.sight.deferred lot) → NeedsOperator before

/-! ## Section 3: Announcements -/

section announcements

variable {cfg : Config} {l : Watch} {log : List Key}

/-- No incident is taken back. -/
theorem newsroom_keeps {α : Type} {p : Recon α} {key : Key} (h : key ∈ log) :
    wp (newsroom l) p (fun _ log' => key ∈ log') log := by
  have hkeep : ∀ log₁ c a log₂, (newsroom l).serve log₁ c a log₂ → key ∈ log₁ → key ∈ log₂ := by
    rintro log₁ c a log₂ ⟨-, rfl⟩ hmem
    unfold raised_after
    split
    · exact List.mem_cons_of_mem _ hmem
    · exact hmem
  exact fun a log' hrun => Exec.keeps (J := fun log => key ∈ log) hkeep hrun h

theorem emit_raised {pos : StrandedPosition} (hengine : cfg.has_engine = true)
    (hopen : cfg.has_store = true → ∀ listed, l.open_incidents listed → pos.key ∉ listed.getD []) :
    wp (newsroom l) (emit_stranded_incident cfg pos) (fun _ log' => pos.key ∈ log') log := by
  have hrecord : ∀ log₁, wp (newsroom l) (.send (Call.record_incident (.stranded_position pos)))
      (fun _ log' => pos.key ∈ log') log₁ := by
    intro log₁
    rw [wp_send]
    rintro _ log₂ ⟨-, rfl⟩
    exact List.mem_cons_self
  unfold emit_stranded_incident
  simp only [wp_ite]
  refine ⟨fun hnone => absurd (hengine.symm.trans hnone) (by simp), fun _ => ⟨fun hstore => ?_,
    fun _ => hrecord log⟩⟩
  rw [wp_bind, wp_send]
  rintro listed log₁ ⟨hlisted, rfl⟩
  rw [wp_ite]
  exact ⟨fun hmem => absurd hmem (hopen hstore listed hlisted), fun _ => hrecord _⟩

theorem announce_all_raised {pos : StrandedPosition} {lots : List StrandedPosition}
    (hpos : pos ∈ lots) (hneeds : NeedsOperator pos) (hengine : cfg.has_engine = true)
    (hopen : cfg.has_store = true → ∀ listed, l.open_incidents listed → pos.key ∉ listed.getD []) :
    wp (newsroom l) (announce_all cfg lots) (fun _ log' => pos.key ∈ log') log := by
  induction lots generalizing log with
  | nil => exact absurd hpos List.not_mem_nil
  | cons first rest ih =>
    unfold announce_all
    rw [wp_bind]
    rcases List.mem_cons.mp hpos with rfl | hrest
    · rcases announce_eq cfg pos with ⟨-, heq⟩ | ⟨hno, -⟩
      · rw [heq]
        exact wp_mono (emit_raised hengine hopen) fun _ log₁ h₁ => newsroom_keeps h₁
      · exact absurd hneeds hno
    · exact fun _ log₁ _ => ih hrest

end announcements

/-! ## Section 4: Runs -/

section runs

variable {cfg : Config} {b b' : Watcher} {l : Watch}

/-- A lot that is new in the cycle is among those announced. -/
theorem new_lot_announced {sight : Sighting} {s s' : Reconciler} {key : Key}
    {lot pos : StrandedPosition} (hnew : s.tracked.lookup key = none)
    (hlot : lot_followed sight s key = some lot) (hpos : s'.tracked.lookup key = some pos) :
    pos ∈ (new_keys s sight.observed).filterMap s'.tracked.lookup := by
  have hobserved : sight.observed.has key = true := by
    unfold lot_followed at hlot
    cases hseen : sight.observed.lookup key with
    | some seen => simp [Tracker.has, hseen]
    | none =>
      rw [hseen] at hlot
      dsimp only at hlot
      split at hlot
      · exact absurd (hnew.symm.trans hlot) (by simp)
      · exact absurd hlot (by simp)
  have hkey : key ∈ new_keys s sight.observed := by
    refine List.mem_filter.mpr ⟨(Tracker.has_iff _ _).mp hobserved, ?_⟩
    simp [Tracker.has, hnew]
  exact List.mem_filterMap.mpr ⟨key, hkey, hpos⟩

/-- A cycle in which no lot turns: all who need an operator are reported on. -/
theorem watching_step (hturns : NoneTurns cfg b l) (hs : (watching cfg).step b l b')
    (h : ∀ key, Stands b.reconciler key → b.reported key) :
    ∀ key, Stands b'.reconciler key → b'.reported key := by
  obtain ⟨-, ⟨raised, hrun, hreported⟩, -⟩ := hs
  have htracked : b'.reconciler.tracked =
      (reviewed cfg l.opinions l.sight b.reconciler).tracked :=
    review_says (newsroom_tells l) (after_review_leaves []) _ _ hrun
  rintro key ⟨pos, hpos, hneeds⟩
  refine (hreported key).mpr ⟨⟨pos, hpos, hneeds⟩, ?_⟩
  rw [htracked] at hpos
  have hfollowed := hpos
  rw [reviewed_lookup] at hfollowed
  obtain ⟨lot, hlot, hlot_eq⟩ := Option.map_eq_some_iff.mp hfollowed
  subst hlot_eq
  cases hbefore : b.reconciler.tracked.lookup key with
  | some before => exact .inl (h key ⟨before, hbefore, hturns.known key before lot hbefore hlot hneeds⟩)
  | none =>
    right
    obtain ⟨hengine, hopen⟩ := hturns.new key lot hbefore hlot hneeds
    have hkey := (Tracker.lookup_eq_some_iff.mp hpos).2
    have hmem := new_lot_announced hbefore hlot hpos
    have hraised : wp (newsroom l) (after_survey cfg b.reconciler l.sight)
        (fun _ raised => key ∈ raised) [] := by
      refine review_says (newsroom_tells l) ?_
      unfold after_review
      rw [wp_bind]
      rw [← hkey] at hopen ⊢
      exact wp_mono (announce_all_raised hmem hneeds hengine hopen) fun _ _ h₁ => newsroom_keeps h₁
    exact hraised _ _ hrun

/-- **In which runs every lot that needs an operator has an incident.** -/
theorem operators_answered {b : Watcher}
    (hb : Reachable ((watching cfg).restrict (NoneTurns cfg)) b) : Answered b := by
  have hall : ∀ key, Stands b.reconciler key → b.reported key := by
    refine Invariant.of_step
      (P := fun b => ∀ key, Stands b.reconciler key → b.reported key) ?_ ?_ b hb
    · rintro b ⟨hnew, -⟩ key ⟨lot, hlot, -⟩
      rw [hnew] at hlot
      exact absurd hlot nofun
    · rintro b l b' h ⟨hturns, hs⟩
      exact watching_step hturns hs h
  exact fun _ => hall

end runs

/-! ## Section 5: A lot that turns -/

/-- Nothing can be done about the lot but by hand. -/
def ask_operator : MitigationDecision := { action := .manual_review, autonomous_ok := false }

/-- The answers of a cycle in which Kalshi lists eight contracts. -/
def watched_reply (decision : MitigationDecision) : (c : Call) → Answer c :=
  eight_contracts.reply 1000 decision (.returned unfilled_sale)

/-- The cycle. -/
def eight_watched (decision : MitigationDecision) : Watch where
  sight := (play (fun _ c => (watched_reply decision c, ())) (survey engine_config) ()).1
  inventory := none
  decision := fun _ => some decision
  open_incidents := fun listed => listed = none

/-- What the cycle makes of a reconciler, and the incidents it raises. -/
def watched_cycle (decision : MitigationDecision) (s : Reconciler) : Reconciler × List Key :=
  play (fun log c => (watched_reply decision c, raised_after log c))
    (after_survey engine_config s (eight_watched decision).sight) []

/-- A watcher after one more cycle. -/
def Watcher.watch (b : Watcher) (decision : MitigationDecision) : Watcher where
  reconciler := (watched_cycle decision b.reconciler).1
  reported := fun key => Stands (watched_cycle decision b.reconciler).1 key ∧
    (b.reported key ∨ key ∈ (watched_cycle decision b.reconciler).2)
  complete := true

/-- A watcher of a new reconciler. -/
def Watcher.start : Watcher := { reconciler := .new, reported := fun _ => False, complete := false }

theorem watched_serves (decision : MitigationDecision) (log : List Key) (c : Call) :
    (newsroom (eight_watched decision)).serve log c (watched_reply decision c)
      (raised_after log c) := by
  refine ⟨?_, rfl⟩
  cases c <;> first | rfl | trivial

/-- The survey sees the eight, and raises nothing. -/
theorem watched_survey (decision : MitigationDecision) :
    Exec (newsroom (eight_watched decision)) (survey engine_config) []
      (eight_watched decision).sight [] := by
  have hsurvey := exec_play (o := fun log c => (watched_reply decision c, raised_after log c))
    (watched_serves decision) (survey engine_config) []
  have hsame : (play (fun log c => (watched_reply decision c, raised_after log c))
      (survey engine_config) []).1 = (eight_watched decision).sight := play_answers _
  have hlog : (play (fun log c => (watched_reply decision c, raised_after log c))
      (survey engine_config) []).2 = [] := rfl
  rwa [hsame, hlog] at hsurvey

theorem watch_step (b : Watcher) (decision : MitigationDecision) :
    (watching engine_config).step b (eight_watched decision) (b.watch decision) := by
  have hafter := exec_play (o := fun log c => (watched_reply decision c, raised_after log c))
    (watched_serves decision) (after_survey engine_config b.reconciler
      (eight_watched decision).sight) []
  have hcomplete : (b.watch decision).complete = !(eight_watched decision).sight.deferred := rfl
  refine ⟨watched_survey decision, ?_, hcomplete⟩
  unfold Watcher.watch watched_cycle
  dsimp only
  generalize play _ _ _ = done at hafter ⊢
  exact ⟨done.2, hafter, fun key => Iff.rfl⟩

/-- The lot is left to the operator from the start: there is an incident. -/
theorem operators_answered_eight :
    Answered (Watcher.start.watch ask_operator) ∧
      Stands (Watcher.start.watch ask_operator).reconciler ("kalshi", "KX-1") := by
  have hstart : Reachable ((watching engine_config).restrict (NoneTurns engine_config)) .start :=
    .init ⟨rfl, fun _ => not_false⟩
  have hturns : NoneTurns engine_config .start (eight_watched ask_operator) := by
    constructor
    · exact fun _ _ _ _ _ => ⟨rfl, fun hstore => absurd hstore (by decide)⟩
    · exact fun _ _ _ hbefore => absurd hbefore nofun
  exact ⟨operators_answered (hstart.step ⟨hturns, watch_step _ _⟩), by decide +kernel⟩

/-- The lot is to be held at first, and then left to the operator: nobody is told. -/
theorem turned_unreported : ∃ b, Reachable (watching engine_config) b ∧ ¬ Answered b := by
  have hstart : Reachable (watching engine_config) .start := .init ⟨rfl, fun _ => not_false⟩
  refine ⟨_, (hstart.step (watch_step .start let_settle)).step (watch_step _ ask_operator), ?_⟩
  have hsilent : ¬ Stands (Watcher.start.watch let_settle).reconciler ("kalshi", "KX-1") := by
    decide +kernel
  have hstands : Stands ((Watcher.start.watch let_settle).watch ask_operator).reconciler
      ("kalshi", "KX-1") := by decide +kernel
  have hraised : ("kalshi", "KX-1") ∉ (watched_cycle ask_operator
      (Watcher.start.watch let_settle).reconciler).2 := by decide +kernel
  intro hanswered
  rcases (hanswered rfl _ hstands).2 with hbefore | hnow
  · exact hsilent hbefore.1
  · exact hraised hnow

end Stranded
