import Arbiter.Framework.System
import Arbiter.Execution.Recovery
import Arbiter.Reconcile.AutoResolver

/-! # Exposure That Stays Visible

  A recovery raises a critical incident before it unwinds. An unwind that sells anything
  resolves it, whatever is left, and leaves an incident of its own; one that sells nearly
  everything marks the arb as reconciled. The resolver takes any incident of an unwind for
  proof that everything was sold.

  ## Contents

  - Section 1: the incidents, the tables, and what is held.
  - Section 2: runs: a recovery, then passes of the resolver.
  - Section 3: what a recovery leaves.
  - Section 4: what passes leave.
-/

namespace AutoResolver

open Effect Execution LTS

/-! ## Section 1: Books -/

/-- An incident, as the engine keeps it. -/
structure KeptIncident where
  incident : Incident
  resolved : Bool := false

/-- The engine's incidents, newest first; those in the database, newest first; the tables;
    and what is held of an arb at the venue of each side. -/
structure Books where
  incidents : List KeptIncident
  recorded : List Incident
  store : Store
  held : Side → ℤ

/-- `appendleft`, of a deque that keeps 200. -/
def Books.push (w : Books) (l : List KeptIncident) : Books :=
  { w with incidents := (l ++ w.incidents).take 200 }

/-- The types of incidents that an unwind resolves. -/
def recovery_event_types : List String := ["one_leg_exposure", "soft_naked_leg", "auto_unwind"]

/-- An incident after the unwind of an arb. -/
def auto_resolved (arb_id : String) (k : KeptIncident) : KeptIncident :=
  if k.incident.arb_id = arb_id ∧ k.incident.event_type.toLower ∈ recovery_event_types then
    { k with resolved := true }
  else k

/-- `_auto_resolve_recovery_incidents`. -/
def Books.auto_resolve (w : Books) (arb_id : String) (unwound_qty : ℕ) : Books :=
  if unwound_qty = 0 then w
  else { w with incidents := w.incidents.map (auto_resolved arb_id) }

/-- The incident is what the resolver takes for proof: `LIKE 'Auto-unwind closed%'`. -/
def unwind_evidence (arb_id : String) (i : Incident) : Bool :=
  i.arb_id = arb_id && "Auto-unwind closed".toList.isPrefixOf i.message.toList

/-- Contracts are sold on a side. -/
def Books.sell (w : Books) (side : Side) (sold : ℕ) : Books :=
  { w with held := Function.update w.held side (w.held side - sold) }

/-- What the engine's calls do to the books. A write to the database that fails raises an
    incident of its own; an unwind sells what it reports, and one that raises anything. -/
def books_serve (w : Books) : (c : Execution.Call) → Execution.Answer c → Books → Prop
  | .record_incident i, _, w' => ∃ failures : List KeptIncident, failures.length ≤ 1 ∧
      ∃ recorded, (recorded = w.recorded ∨ recorded = i :: w.recorded) ∧
        w' = { w.push (failures ++ [{ incident := i }]) with recorded }
  | .handle_db_failure .., _, w' =>
      ∃ failures : List KeptIncident, failures.length ≤ 1 ∧ w' = w.push failures
  | .auto_resolve_recovery_incidents arb_id unwound_qty _, _, w' =>
      ∃ failures : List KeptIncident, failures.length ≤ 1 ∧
        w' = (w.auto_resolve arb_id unwound_qty).push failures
  | .mark_naked_leg_reconciled arb_id unwind_pnl note, a, w' =>
      (∃ err, a = .error err ∧ w' = w) ∨ (a = .ok () ∧
        w' = { w with store := w.store.mark_naked_leg_reconciled arb_id unwind_pnl note })
  | .upsert_order order arb_id client_order_id, a, w' =>
      (∃ err, a = .error err ∧ w' = w) ∨ (a = .ok () ∧ w' = { w with
        store := (w.store.upsert_order order.columns (some arb_id) client_order_id).getD w.store })
  | .smart_unwind _ leg _, a, w' => ∃ sold, w' = w.sell leg.side sold ∧
      ∀ order, a = .ok order → sold = order.fill_qty
  | _, _, w' => w' = w

/-- The engine's calls. -/
def books_env : Env Execution.Call Execution.Answer Books := ⟨books_serve⟩

/-- What the resolver's calls do to them. -/
def resolver_serve (created_at submitted_at : String → ℤ) (w : Books) :
    (c : Call) → Answer c → Books → Prop
  | .list_half_recorded_arbs, a, w' => w' = w ∧ ((∃ err, a = .error err) ∨
      a = .ok (w.store.list_half_recorded_arbs created_at submitted_at))
  | .lookup_auto_unwind_incident arb_id, a, w' => w' = w ∧ ((∃ err, a = .error err) ∨
      a = .ok none ∨ ∃ unwind, a = .ok (some unwind) ∧
        ∃ i ∈ w.recorded, unwind_evidence arb_id i = true)
  | .has_open_legs arb_id, a, w' => w' = w ∧ ((∃ err, a = .error err) ∨
      a = .ok false ∨ a = .ok (w.store.has_open_order arb_id))
  | .mark_naked_leg_reconciled arb_id unwind_pnl note, a, w' =>
      (∃ err, a = .error err ∧ w' = w) ∨ (a = .ok () ∧
        w' = { w with store := w.store.mark_naked_leg_reconciled arb_id unwind_pnl note })

/-- The resolver's calls. -/
def resolver_env (created_at submitted_at : String → ℤ) : Env Call Answer Books :=
  ⟨resolver_serve created_at submitted_at⟩

/-! ## Section 2: Runs -/

/-- No unwind has been noted of the arb, and it is neither reconciled nor closed. -/
structure Unmarked (arb_id : String) (w : Books) : Prop where
  unproven : ∀ i ∈ w.recorded, unwind_evidence arb_id i = false
  unmarked : ∀ row, w.store.arb arb_id = some row → row.reconciled = false ∧ row.status ≠ "closed"

/-- A pass of the resolver. -/
structure Pass where
  spelled : ℚ → String
  config : AutoResolverConfig
  now : ℚ
  created_at : String → ℤ
  submitted_at : String → ℤ

/-- A recovery of the arb, then passes of the resolver. -/
def recovered_runs (arb_id : String)
    (cond : Books → (c : Execution.Call) → Execution.Answer c → Prop) : System Books Pass where
  init w := ∃ eng opp leg_yes leg_no w₀ recovered, Unmarked arb_id w₀ ∧
    Exec (books_env.restrict cond) (recover_one_leg_risk eng arb_id opp leg_yes leg_no) w₀
      recovered w
  step w pass w' := ∃ results, Exec (resolver_env pass.created_at pass.submitted_at)
    (reconcile_half_recorded pass.spelled pass.config pass.now) w results w'

/-- The unwind sells nothing, or exactly what is unhedged. -/
def SellsExactly (w : Books) : (c : Execution.Call) → Execution.Answer c → Prop
  | .smart_unwind _ leg _, a => ∀ order, a = .ok order → 0 < order.fill_qty →
      w.held leg.side - order.fill_qty = w.held leg.side.other
  | _, _ => True

/-- An incident is critical and open. -/
def KeptIncident.Alarms (k : KeptIncident) (arb_id : String) : Prop :=
  k.incident.arb_id = arb_id ∧ k.incident.severity = .critical ∧ k.resolved = false

/-- While contracts are unhedged, a critical incident is open, and the arb is not marked. -/
def ExposureVisible (arb_id : String) (w : Books) : Prop :=
  w.held .yes ≠ w.held .no → (∃ k ∈ w.incidents, k.Alarms arb_id) ∧
    ∀ row, w.store.arb arb_id = some row → row.reconciled = false ∧ row.status ≠ "closed"

/-! ## Section 3: A recovery -/

section recovery

variable {arb_id : String} {w w' : Books} {n : ℕ} {eng : Engine} {opp : Opportunity}
         {cond : Books → (c : Execution.Call) → Execution.Answer c → Prop}

/-- A critical incident is open, among the newest `n`, and nothing marks the arb. -/
structure Pending (arb_id : String) (n : ℕ) (w : Books) : Prop extends Unmarked arb_id w where
  announced : ∃ k ∈ w.incidents.take n, k.Alarms arb_id

theorem Pending.mono {m : ℕ} (h : Pending arb_id n w) (hnm : n ≤ m) : Pending arb_id m w := by
  obtain ⟨k, hk, halarms⟩ := h.announced
  exact ⟨h.toUnmarked, k, List.take_subset_take_left _ hnm hk, halarms⟩

/-- What is raised later leaves the incident among the newest. -/
theorem Pending.push (h : Pending arb_id n w) {l : List KeptIncident} {m : ℕ}
    (hm : n + l.length ≤ m) (hkept : m ≤ 200) : Pending arb_id m (w.push l) := by
  obtain ⟨k, hk, halarms⟩ := h.announced
  refine ⟨⟨h.unproven, h.unmarked⟩, k, ?_, halarms⟩
  rw [Books.push, List.take_take, min_eq_left hkept, List.take_append]
  exact List.mem_append_right _ (List.take_subset_take_left _ (by omega) hk)

/-- The same number is held on both sides. -/
def Even (w : Books) : Prop := w.held .yes = w.held .no

/-- An incident that is no proof of an unwind leaves the arb unmarked. -/
theorem Unmarked.record (h : Unmarked arb_id w) {i : Incident}
    (hi : unwind_evidence arb_id i = false) {recorded : List Incident}
    (hrecorded : recorded = w.recorded ∨ recorded = i :: w.recorded) (l : List KeptIncident) :
    Unmarked arb_id { w.push l with recorded } := by
  refine ⟨?_, h.unmarked⟩
  obtain rfl | rfl := hrecorded
  · exact h.unproven
  · intro j hj
    obtain rfl | hj := List.mem_cons.mp hj
    · exact hi
    · exact h.unproven j hj

/-- What starts otherwise is no proof of an unwind. -/
theorem no_evidence {i : Incident} (hmessage : i.message.toList.head? ≠ some 'A') :
    unwind_evidence arb_id i = false := by
  unfold unwind_evidence
  rw [Bool.and_eq_false_iff]
  right
  cases hlist : i.message.toList with
  | nil => decide
  | cons c rest =>
      rw [hlist, List.head?_cons, ne_eq, Option.some.injEq] at hmessage
      have hproof : "Auto-unwind closed".toList = 'A' :: "uto-unwind closed".toList := by
        decide
      rw [hproof, List.isPrefixOf_cons_cons, beq_eq_false_iff_ne.mpr (Ne.symm hmessage),
        Bool.false_and]

/-- Raising another incident. -/
theorem record_pending (h : Pending arb_id n w) {i : Incident}
    (hi : unwind_evidence arb_id i = false) (hn : n + 2 ≤ 200) :
    wp (books_env.restrict cond) (record_incident i) (fun _ w' => Pending arb_id (n + 2) w') w := by
  rw [wp_send]
  rintro _ w' ⟨-, failures, hfailures, recorded, hrecorded, rfl⟩
  have hpushed : Pending arb_id (n + 2) (w.push (failures ++ [{ incident := i }])) :=
    h.push (by simpa using Nat.add_le_add_left (Nat.succ_le_succ hfailures) n) hn
  exact ⟨h.toUnmarked.record hi hrecorded _, hpushed.announced⟩

/-- Raising the critical incident of the arb. -/
theorem record_announces (h : Unmarked arb_id w) {i : Incident} (hid : i.arb_id = arb_id)
    (hsevere : i.severity = .critical) (hi : unwind_evidence arb_id i = false) :
    wp (books_env.restrict cond) (record_incident i) (fun _ w' => Pending arb_id 2 w') w := by
  rw [wp_send]
  rintro _ w' ⟨-, failures, hfailures, recorded, hrecorded, rfl⟩
  refine ⟨h.record hi hrecorded _, { incident := i }, ?_, hid, hsevere, rfl⟩
  have hmem : ({ incident := i } : KeptIncident) ∈ failures ++ [{ incident := i }] := by simp
  rw [Books.push, List.take_take, List.take_append]
  refine List.mem_append_left _ ?_
  rw [List.take_of_length_le (by simpa using Nat.succ_le_succ hfailures)]
  exact hmem

theorem announce_pending {leg_yes leg_no : Leg} (h : Unmarked arb_id w) :
    wp (books_env.restrict cond) (announce_exposure eng arb_id opp leg_yes leg_no)
      (fun _ w' => Pending arb_id 2 w') w := by
  have hone (filled failed : Leg) : wp (books_env.restrict cond)
      (announce_one_leg eng arb_id opp filled failed) (fun _ w' => Pending arb_id 2 w') w := by
    unfold announce_one_leg
    refine wp_bind.2 (wp_mono (record_announces h rfl rfl (no_evidence ?_)) ?_)
    · dsimp only
      decide +kernel
    intro _ w₁ h₁
    rw [wp_ite]
    refine ⟨fun _ => ?_, fun _ => wp_pure.2 h₁⟩
    rw [wp_bind, wp_send]
    rintro _ w₂ ⟨-, rfl⟩
    exact wp_pure.2 h₁
  unfold announce_exposure
  simp only [wp_ite]
  refine ⟨fun _ => hone _ _, fun _ => ⟨fun _ => hone _ _, fun _ => ?_⟩⟩
  refine record_announces h rfl rfl (no_evidence ?_)
  dsimp only
  decide +kernel

/-- Writing an order leaves the arbs. -/
theorem upsert_order_arb (s : Store) (order : Order ℚ) (given client_order_id : Option String) :
    ((s.upsert_order order given client_order_id).getD s).arb arb_id = s.arb arb_id := by
  unfold Store.upsert_order
  cases written_arb_id order given <;> rfl

theorem cancel_pending (leg : Leg) (h : Pending arb_id n w) (hn : n + 1 ≤ 200) :
    wp (books_env.restrict cond) (cancel_open_leg eng arb_id opp leg)
      (fun _ w' => Pending arb_id (n + 1) w') w := by
  have hdispatch : wp (books_env.restrict cond) (dispatch_cancel eng arb_id leg)
      (fun _ w' => Pending arb_id (n + 1) w') w := by
    unfold dispatch_cancel
    split
    · exact wp_pure.2 (h.mono (by omega))
    · rw [wp_bind, wp_send]
      rintro answer w₁ ⟨-, rfl⟩
      rw [wp_ite]
      refine ⟨fun _ => ?_, fun _ => wp_pure.2 (h.mono (by omega))⟩
      rw [wp_bind, wp_send]
      rintro written w₂ ⟨-, ⟨err, rfl, rfl⟩ | ⟨rfl, rfl⟩⟩
      · -- the write that fails is told as one incident
        rw [wp_bind, wp_send]
        rintro _ w₃ ⟨-, failures, hfailures, rfl⟩
        exact wp_pure.2 (h.push (by omega) hn)
      · refine wp_pure.2 ⟨⟨h.unproven, fun row hrow => ?_⟩, (h.mono (by omega)).announced⟩
        rw [upsert_order_arb] at hrow
        exact h.unmarked row hrow
  unfold cancel_open_leg
  rw [wp_ite]
  refine ⟨fun _ => ?_, fun _ => wp_pure.2 (h.mono (by omega))⟩
  refine wp_bind.2 (wp_mono hdispatch ?_)
  rintro ⟨cancelled, left⟩ w₁ h₁
  refine wp_bind.2 ?_
  unfold release_unfilled
  rw [wp_ite]
  refine ⟨fun _ => ?_, fun _ => wp_ret.2 (wp_pure.2 h₁)⟩
  rw [wp_send]
  rintro _ w₂ ⟨-, rfl⟩
  exact wp_pure.2 h₁

theorem verify_pending {unhedged_leg counterpart : Leg} {qty : ℕ} (h : Pending arb_id n w)
    (hn : n + 2 ≤ 200) :
    wp (books_env.restrict cond)
      (verify_before_unwind eng arb_id opp unhedged_leg counterpart qty)
      (fun _ w' => Pending arb_id (n + 2) w') w := by
  unfold verify_before_unwind
  rw [wp_ite]
  refine ⟨fun _ => ?_, fun _ => wp_pure.2 (h.mono (by omega))⟩
  have hverify : wp (books_env.restrict cond) (verify_leg_dead eng counterpart)
      (fun _ w' => Pending arb_id n w') w := by
    refine wp_verify_leg_dead h fun answer w₁ hread => ?_
    obtain ⟨-, rfl⟩ := hread
    cases answer <;> exact h
  refine wp_bind.2 (wp_mono hverify ?_)
  rintro ⟨verdict, left⟩ w₁ h₁
  cases verdict with
  | unproven =>
      refine wp_bind.2 (wp_mono (record_pending h₁ (no_evidence ?_) hn) fun _ _ h₂ => wp_pure.2 h₂)
      dsimp only
      decide +kernel
  | late_fill =>
      simp only [wp_ite]
      refine ⟨fun _ => ?_, fun _ => wp_pure.2 (h₁.mono (by omega))⟩
      refine wp_bind.2 (wp_mono (record_pending h₁ (no_evidence ?_) hn) fun _ _ h₂ => wp_pure.2 h₂)
      dsimp only
      decide +kernel
  | dead => exact wp_pure.2 (h₁.mono (by omega))

/-- What is held stays, but by a sale. -/
theorem books_serve_held {c : Execution.Call} {a : Execution.Answer c}
    (h : books_serve w c a w') (hc : ∀ arb_id leg qty, c ≠ .smart_unwind arb_id leg qty) :
    w'.held = w.held := by
  cases c with
  | smart_unwind arb_id leg qty => exact absurd rfl (hc arb_id leg qty)
  | record_incident i =>
      obtain ⟨_, -, _, -, rfl⟩ := h
      rfl
  | handle_db_failure _ _ _ _ =>
      obtain ⟨_, -, rfl⟩ := h
      rfl
  | auto_resolve_recovery_incidents id qty target =>
      obtain ⟨_, -, rfl⟩ := h
      unfold Books.auto_resolve
      split_ifs <;> rfl
  | mark_naked_leg_reconciled _ _ _ =>
      obtain ⟨_, -, rfl⟩ | ⟨-, rfl⟩ := h <;> rfl
  | upsert_order _ _ _ =>
      obtain ⟨_, -, rfl⟩ | ⟨-, rfl⟩ := h <;> rfl
  | _ =>
      obtain rfl := h
      rfl

/-- The call is no unwind. -/
def Holds : Execution.Call → Prop
  | .smart_unwind .. => False
  | _ => True

/-- What is even stays so, but by a sale. -/
theorem sells_nothing (w : Books) (c : Execution.Call) (a : Execution.Answer c) (w' : Books)
    (hc : Holds c) (h : (books_env.restrict cond).serve w c a w') (heven : Even w) : Even w' := by
  have hheld : w'.held = w.held := books_serve_held h.2 fun _ _ _ hsale => by
    rw [hsale] at hc
    exact hc
  rw [Even, hheld]
  exact heven

/-- An unwind that sells nothing, or exactly what is unhedged. -/
theorem unwind_pending {filled_leg : Leg} {qty : ℕ} (h : Pending arb_id n w) (hn : n + 2 ≤ 200) :
    wp (books_env.restrict SellsExactly) (unwind eng arb_id opp filled_leg qty)
      (fun _ w' => Pending arb_id (n + 2) w' ∨ Even w') w := by
  unfold unwind
  rw [wp_ite]
  refine ⟨fun _ => ?_, fun _ => wp_pure.2 (.inl (h.mono (by omega)))⟩
  rw [wp_bind, wp_send]
  rintro answer w₁ ⟨hexact, sold, rfl, hsold⟩
  have hsell : Pending arb_id n (w.sell filled_leg.side sold) :=
    ⟨⟨h.unproven, h.unmarked⟩, h.announced⟩
  cases answer with
  | error err =>
      rw [wp_bind, wp_send]
      rintro _ w₂ ⟨-, rfl⟩
      refine wp_bind.2 (wp_mono (record_pending hsell (no_evidence ?_) hn)
        fun _ _ h₂ => wp_pure.2 (.inl h₂))
      simp
  | ok unwind_order =>
      obtain rfl := hsold unwind_order rfl
      simp only [wp_ite]
      refine ⟨fun hpos => ?_, fun _ => wp_pure.2 (.inl (hsell.mono (by omega)))⟩
      have heven : Even (w.sell filled_leg.side unwind_order.fill_qty) := by
        have hleft := hexact unwind_order rfl hpos
        unfold Even Books.sell
        cases hside : filled_leg.side with
        | yes => simpa [hside, Function.update, Side.other] using hleft
        | no => simpa [hside, Function.update, Side.other] using hleft.symm
      -- nothing more is sold
      refine wp_mono (Prog.Calls.keeps ?_ sells_nothing heven) fun _ _ h => .inr h
      refine .bind (calls_send.2 trivial) fun _ => .bind (calls_send.2 trivial) fun _ =>
        .bind (calls_send.2 trivial) fun _ => ?_
      exact (reconcile_naked_leg_marks fun _ => trivial).bind fun _ => calls_pure _

theorem close_exposure_pending {unhedged_leg counterpart : Leg} {qty : ℕ}
    (h : Pending arb_id n w) (hn : n + 4 ≤ 200) :
    wp (books_env.restrict SellsExactly)
      (close_exposure eng arb_id opp unhedged_leg counterpart qty)
      (fun _ w' => Pending arb_id (n + 4) w' ∨ Even w') w := by
  unfold close_exposure
  refine wp_bind.2 (wp_mono (verify_pending h (by omega)) ?_)
  rintro ⟨target, notes, left⟩ w₁ h₁
  cases target with
  | none => exact wp_pure.2 (.inl (h₁.mono (by omega)))
  | some t => exact wp_bind.2 (wp_mono (unwind_pending h₁ (by omega)) fun _ _ h₂ => wp_pure.2 h₂)

/-- **What a recovery leaves**: its incident is open and the arb unmarked, or nothing is
    unhedged. -/
theorem recover_pending {leg_yes leg_no : Leg} (h : Unmarked arb_id w) :
    wp (books_env.restrict SellsExactly) (recover_one_leg_risk eng arb_id opp leg_yes leg_no)
      (fun _ w' => Pending arb_id 8 w' ∨ Even w') w := by
  unfold recover_one_leg_risk
  refine wp_bind.2 (wp_mono (announce_pending h) ?_)
  intro _ w₁ h₁
  refine wp_bind.2 (wp_mono (cancel_pending leg_yes h₁ (by omega)) ?_)
  rintro ⟨yes_notes, left_yes⟩ w₂ h₂
  refine wp_bind.2 (wp_mono (cancel_pending leg_no h₂ (by omega)) ?_)
  rintro ⟨no_notes, left_no⟩ w₃ h₃
  refine wp_close_unhedged (Side.rec left_yes left_no) ?_ ?_
  · intro _ _ _
    exact .inl (h₃.mono (by omega))
  · intro s qty _
    exact wp_mono (close_exposure_pending h₃ (by omega)) fun _ _ h₄ _ _ => h₄

end recovery

/-! ## Section 4: Passes -/

section passes

variable {arb_id : String} {w w' : Books} {created_at submitted_at : String → ℤ}
         {spelled : ℚ → String} {config : AutoResolverConfig} {now : ℚ}

/-- A critical incident is open, and nothing marks the arb. -/
structure Visible (arb_id : String) (w : Books) : Prop extends Unmarked arb_id w where
  alarmed : ∃ k ∈ w.incidents, k.Alarms arb_id

/-- What passes keep. -/
def Settled (arb_id : String) (w : Books) : Prop := Visible arb_id w ∨ Even w

theorem Pending.visible {n : ℕ} (h : Pending arb_id n w) : Visible arb_id w := by
  obtain ⟨k, hk, halarms⟩ := h.announced
  exact ⟨h.toUnmarked, k, List.mem_of_mem_take hk, halarms⟩

theorem Settled.exposure_visible (h : Settled arb_id w) : ExposureVisible arb_id w := by
  intro hheld
  obtain h | h := h
  · exact ⟨h.alarmed, h.unmarked⟩
  · exact absurd h hheld

/-- Marking another arb leaves the row of this one. -/
theorem mark_other (s : Store) {other : String} (hne : arb_id ≠ other) (unwind_pnl : ℚ)
    (note : String) :
    (s.mark_naked_leg_reconciled other unwind_pnl note).arb arb_id = s.arb arb_id := by
  unfold Store.mark_naked_leg_reconciled
  cases s.arb other with
  | none => rfl
  | some row => exact AList.lookup_insert_ne hne

/-- An arb without evidence is not marked; another is, or is not. -/
theorem mark_settled (h : Settled arb_id w) {other : String}
    (hne : Visible arb_id w → arb_id ≠ other) {unwind_pnl : ℚ} {note : String} :
    Settled arb_id
      { w with store := w.store.mark_naked_leg_reconciled other unwind_pnl note } := by
  obtain h | h := h
  · refine .inl ⟨⟨h.unproven, fun row hrow => ?_⟩, h.alarmed⟩
    rw [mark_other _ (hne h)] at hrow
    exact h.unmarked row hrow
  · exact .inr h

theorem reconcile_one_settled (arb : HalfRecordedArb) (h : Settled arb_id w) :
    wp (resolver_env created_at submitted_at) (reconcile_one spelled config now arb)
      (fun _ w' => Settled arb_id w') w := by
  unfold reconcile_one
  rw [wp_ite]
  refine ⟨fun _ => wp_pure.2 h, fun _ => ?_⟩
  rw [wp_bind, wp_send]
  rintro looked_up w₁ ⟨rfl, ⟨err, rfl⟩ | rfl | ⟨unwind, rfl, i, hi, hproof⟩⟩
  · exact wp_pure.2 h
  · exact wp_pure.2 h
  -- the evidence is of another arb
  have hne : Visible arb_id w₁ → arb_id ≠ arb.arb_id := by
    rintro hvisible rfl
    rw [hvisible.unproven i hi] at hproof
    exact Bool.false_ne_true hproof
  rw [wp_bind, wp_send]
  rintro legs w₂ ⟨rfl, hlegs⟩
  cases legs with
  | error err => exact wp_pure.2 h
  | ok legs_open =>
      cases legs_open with
      | true => exact wp_pure.2 h
      | false =>
          rw [wp_bind, wp_send]
          rintro marked w₃ (⟨err, rfl, rfl⟩ | ⟨rfl, rfl⟩)
          · exact wp_pure.2 h
          · exact wp_pure.2 (mark_settled h hne)

theorem reconcile_arbs_settled (arbs : List HalfRecordedArb) (h : Settled arb_id w) :
    wp (resolver_env created_at submitted_at) (reconcile_arbs spelled config now arbs)
      (fun _ w' => Settled arb_id w') w := by
  induction arbs generalizing w with
  | nil => exact wp_pure.2 h
  | cons arb arbs ih =>
      rw [reconcile_arbs, wp_ite]
      refine ⟨fun _ => ih h, fun _ => ?_⟩
      have hone : wp (resolver_env created_at submitted_at)
          (reconcile_or_report spelled config now arb) (fun _ w' => Settled arb_id w') w := by
        unfold reconcile_or_report
        refine wp_bind.2 (wp_mono (reconcile_one_settled arb h) ?_)
        rintro (err | result) w₁ h₁ <;> exact wp_pure.2 h₁
      refine wp_bind.2 (wp_mono hone fun _ w₁ h₁ => ?_)
      exact wp_bind.2 (wp_mono (ih h₁) fun _ _ h₂ => wp_pure.2 h₂)

/-- **One pass**: what is visible stays so. -/
theorem pass_settled (h : Settled arb_id w) :
    wp (resolver_env created_at submitted_at) (reconcile_half_recorded spelled config now)
      (fun _ w' => Settled arb_id w') w := by
  unfold reconcile_half_recorded
  rw [wp_bind, wp_send]
  rintro listed w₁ ⟨rfl, ⟨err, rfl⟩ | rfl⟩
  · exact wp_pure.2 h
  · exact reconcile_arbs_settled _ h

/-- Where an unwind sells nothing or exactly what is unhedged, exposure stays visible after
    the recovery and every pass. -/
theorem exposure_stays_visible (arb_id : String) (w : Books)
    (h : Reachable (recovered_runs arb_id SellsExactly) w) : ExposureVisible arb_id w := by
  refine Settled.exposure_visible (Invariant.of_step ?_ ?_ w h)
  · rintro w₁ ⟨eng, opp, leg_yes, leg_no, w₀, recovered, hstart, hrun⟩
    exact (recover_pending hstart recovered w₁ hrun).imp Pending.visible id
  · rintro w₁ pass w₂ hsettled ⟨results, hrun⟩
    exact pass_settled hsettled results w₂ hrun

end passes

/-! ### Two recoveries -/

/-- The leg that failed against `ten_filled`. -/
def failed_no : Leg := Order.synthetic "9f2" "kalshi" "KX-1" "mkt-1" .no (2 / 5) 10 .failed ""

/-- The row of the arb. -/
def failed_row : ArbRow := { ArbRow.stub "mkt-1" none with status := "failed" }

/-- Before the recovery: ten contracts are held, and the other leg has failed. -/
def ten_naked : Books where
  incidents := []
  recorded := []
  store :=
    { arbs := AList.insert "ARB-000001" failed_row ∅
      orders := AList.insert "9f2" (filled_leg .no 0) (AList.insert "9f1" (filled_leg .yes 10) ∅) }
  held
    | .yes => 10
    | .no => 0

/-- An incident is raised and written. -/
def Books.raised (w : Books) (i : Incident) : Books :=
  { w.push [{ incident := i }] with recorded := i :: w.recorded }

/-- The incident the recovery starts with. -/
def naked_incident : Incident where
  arb_id := "ARB-000001"
  canonical_id := "mkt-1"
  severity := .critical
  message := "One-leg exposure detected — naked position requires unwind"
  event_type := "one_leg_exposure"
  legs := [("kalshi", .yes), ("kalshi", .no)]

/-- The incident of an unwind that raised. -/
def exception_incident : Incident where
  arb_id := "ARB-000001"
  canonical_id := "mkt-1"
  severity := .critical
  message := "Smart-unwind raised on kalshi YES — manual review required"
  event_type := "auto_unwind_exception"
  legs := [("kalshi", .yes)]

/-- The incident of an unwind that has sold four of ten. -/
def part_incident : Incident where
  arb_id := "ARB-000001"
  canonical_id := "mkt-1"
  severity := .warning
  message := "Auto-unwind closed 4/10 contracts on kalshi"
  event_type := "auto_unwind"
  legs := [("kalshi", .yes)]

/-- After a recovery whose unwind raised. -/
def unwind_raised : Books := (ten_naked.raised naked_incident).raised exception_incident

/-- After one whose unwind has sold four. -/
def part_sold : Books :=
  ((((ten_naked.raised naked_incident).sell .yes 4).raised part_incident).auto_resolve
    "ARB-000001" 4).push []

theorem ten_naked_unmarked : Unmarked "ARB-000001" ten_naked where
  unproven := fun _ hi => absurd hi List.not_mem_nil
  unmarked := by
    intro row hrow
    have hlookup : ten_naked.store.arb "ARB-000001" =
        some failed_row := by decide
    rw [hlookup] at hrow
    cases hrow
    decide

section runs

variable {cond : Books → (c : Execution.Call) → Execution.Answer c → Prop}

theorem raises (w : Books) (i : Incident) (hcond : cond w (.record_incident i) ()) :
    (books_env.restrict cond).serve w (.record_incident i) () (w.raised i) :=
  ⟨hcond, [], Nat.zero_le _, _, .inr rfl, rfl⟩

theorem releases (w : Books) (exposure : ℚ≥0)
    (hcond : cond w (.release_trade "mkt-1" exposure (.single "kalshi")) ()) :
    (books_env.restrict cond).serve w (.release_trade "mkt-1" exposure (.single "kalshi")) () w :=
  ⟨hcond, rfl⟩

/-- The recovery hands the ten contracts over. -/
theorem recovers_of_unwind {w : Books} {r : List String × ℚ}
    (hraise : cond ten_naked (.record_incident naked_incident) ())
    (h : Exec (books_env.restrict cond)
      (unwind (kalshi_with_store true) "ARB-000001" ten_contracts ten_filled 10)
      (ten_naked.raised naked_incident) r w) :
    ∃ recovered, Exec (books_env.restrict cond)
      (recover_one_leg_risk (kalshi_with_store true) "ARB-000001" ten_contracts ten_filled
        failed_no) ten_naked recovered w := by
  have hdead : ¬ (failed_no.fill_qty = 0 ∧ possiblyLive failed_no) := by decide +kernel
  have hverify : verify_before_unwind (kalshi_with_store true) "ARB-000001" ten_contracts
      ten_filled failed_no 10 = pure (some 10, [], failed_no) := if_neg hdead
  have hclose : Exec (books_env.restrict cond)
      (close_exposure (kalshi_with_store true) "ARB-000001" ten_contracts ten_filled failed_no 10)
      (ten_naked.raised naked_incident) ([] ++ r.1, r.2, failed_no) w := by
    unfold close_exposure
    rw [hverify]
    exact exec_bind.2 ⟨_, _, .ret _ _, exec_bind.2 ⟨_, _, h, .ret _ _⟩⟩
  exact ⟨_, exec_bind.2 ⟨_, _, .call (raises _ _ hraise) (.ret _ _), exec_bind.2 ⟨_, _, .ret _ _,
    exec_bind.2 ⟨_, _, .ret _ _, exec_bind.2 ⟨_, _, hclose, .ret _ _⟩⟩⟩⟩⟩

end runs

/-- The unwind raises, and has sold nothing. -/
theorem unwind_raised_run :
    Exec (books_env.restrict SellsExactly)
      (unwind (kalshi_with_store true) "ARB-000001" ten_contracts ten_filled 10)
      (ten_naked.raised naked_incident) (["unwind-yes:exception"], 0) unwind_raised := by
  have hcan : can_sell (kalshi_with_store true) ten_filled = true := rfl
  have hsell : (books_env.restrict SellsExactly).serve (ten_naked.raised naked_incident)
      (.smart_unwind "ARB-000001" ten_filled 10) (.error "timeout")
      (ten_naked.raised naked_incident) := by
    refine ⟨(fun order h => by cases h), 0, ?_, (fun order h => by cases h)⟩
    unfold Books.sell
    simp
  unfold unwind
  rw [if_pos hcan]
  exact .call hsell (.call (releases _ _ trivial) (.call (raises _ _ trivial) (.ret _ _)))

/-- The unwind sells four of the ten. -/
theorem part_sold_run :
    ∃ r, Exec (books_env.restrict fun _ _ _ => True)
      (unwind (kalshi_with_store true) "ARB-000001" ten_contracts ten_filled 10)
      (ten_naked.raised naked_incident) r part_sold := by
  have hcan : can_sell (kalshi_with_store true) ten_filled = true := rfl
  have hsell : (books_env.restrict fun _ _ _ => True).serve (ten_naked.raised naked_incident)
      (.smart_unwind "ARB-000001" ten_filled 10) (.ok (unwind_order .partialFill 4))
      ((ten_naked.raised naked_incident).sell .yes 4) := by
    refine ⟨trivial, 4, rfl, ?_⟩
    rintro order ⟨⟩
    rfl
  have hresolve (w : Books) : (books_env.restrict fun _ _ _ => True).serve w
      (.auto_resolve_recovery_incidents "ARB-000001" 4 10) ()
      ((w.auto_resolve "ARB-000001" 4).push []) := ⟨trivial, [], Nat.zero_le _, rfl⟩
  have hpart : ¬ ((kalshi_with_store true).has_store ∧
      nearlyFull (unwind_order .partialFill 4) 10) := by decide +kernel
  have hmark (pnl : ℚ) : reconcile_naked_leg (kalshi_with_store true) "ARB-000001" ten_filled
      (unwind_order .partialFill 4) 10 pnl = pure () := if_neg hpart
  have hrest (notes : List String) (pnl : ℚ) : Exec (books_env.restrict fun _ _ _ => True)
      (do reconcile_naked_leg (kalshi_with_store true) "ARB-000001" ten_filled
            (unwind_order .partialFill 4) 10 pnl
          return (notes, pnl)) part_sold (notes, pnl) part_sold := by
    rw [hmark]
    exact exec_bind.2 ⟨_, _, .ret _ _, .ret _ _⟩
  unfold unwind
  rw [if_pos hcan]
  exact ⟨_, .call hsell (.call (releases _ _ trivial) (.call (raises _ part_incident trivial)
    (.call (hresolve _) (hrest _ _))))⟩

/-- A pass of the resolver, long after. -/
def late_pass : Pass where
  spelled := fun _ => "0"
  config := {}
  now := 10000
  created_at := fun _ => 0
  submitted_at := fun _ => 0

/-- The pass marks the arb. -/
def part_marked : Books :=
  { part_sold with
    store := part_sold.store.mark_naked_leg_reconciled "ARB-000001" 0
      ("AutoResolver (2026-05-22): unwind_pnl=0 sourced from auto_unwind incident metadata.") }

theorem part_listed : part_sold.store.list_half_recorded_arbs (fun _ => 0) (fun _ => 0) =
    [HalfRecordedArb.of (fun _ => 0) (fun _ => 0) "ARB-000001"
      failed_row
      (part_sold.store.legs "ARB-000001")] := by
  have hhalf : (part_sold.store.arbs.entries.filter fun arb =>
      half_recorded arb.2 (part_sold.store.legs arb.1)) =
        [⟨"ARB-000001", failed_row⟩] := by
    decide
  unfold Store.list_half_recorded_arbs
  rw [hhalf]
  exact List.mergeSort_singleton _

theorem part_marked_reachable :
    Reachable (recovered_runs "ARB-000001" fun _ _ _ => True) part_marked := by
  obtain ⟨r, hunwind⟩ := part_sold_run
  obtain ⟨recovered, hrecovery⟩ := recovers_of_unwind trivial hunwind
  refine .step (l := late_pass) (.init ⟨_, _, _, _, _, _, ten_naked_unmarked, hrecovery⟩) ?_
  -- the pass finds the incident of the unwind, no open leg, and marks the arb
  have hlookup : (resolver_env late_pass.created_at late_pass.submitted_at).serve part_sold
      (.lookup_auto_unwind_incident "ARB-000001") (.ok (some ⟨"INC-000002", .obj []⟩))
      part_sold := by
    refine ⟨rfl, .inr (.inr ⟨_, rfl, part_incident, List.mem_cons_self, ?_⟩)⟩
    decide
  have hlegs : (resolver_env late_pass.created_at late_pass.submitted_at).serve part_sold
      (.has_open_legs "ARB-000001") (.ok false) part_sold := ⟨rfl, .inr (.inl rfl)⟩
  have hmark : (resolver_env late_pass.created_at late_pass.submitted_at).serve part_sold
      (.mark_naked_leg_reconciled "ARB-000001" 0
        "AutoResolver (2026-05-22): unwind_pnl=0 sourced from auto_unwind incident metadata.")
      (.ok ()) part_marked := .inr ⟨rfl, rfl⟩
  have hone : Exec (resolver_env late_pass.created_at late_pass.submitted_at)
      (reconcile_one late_pass.spelled late_pass.config late_pass.now
        (.of (fun _ => 0) (fun _ => 0) "ARB-000001"
          failed_row
          (part_sold.store.legs "ARB-000001"))) part_sold
      (.ok { arb_id := "ARB-000001", outcome := .applied
             reason := "auto_unwind evidence present; sentinel applied", unwind_pnl := some 0 })
      part_marked := by
    unfold reconcile_one
    rw [if_neg (by decide +kernel)]
    exact .call hlookup (.call hlegs (.call hmark (.ret _ _)))
  have harbs : ∃ results, Exec (resolver_env late_pass.created_at late_pass.submitted_at)
      (reconcile_arbs late_pass.spelled late_pass.config late_pass.now
        (part_sold.store.list_half_recorded_arbs (fun _ => 0) (fun _ => 0)))
      part_sold results part_marked := by
    rw [part_listed, reconcile_arbs]
    exact ⟨_, exec_bind.2 ⟨_, _, exec_bind.2 ⟨_, _, hone, .ret _ _⟩,
      exec_bind.2 ⟨_, _, .ret _ _, .ret _ _⟩⟩⟩
  obtain ⟨results, harbs⟩ := harbs
  have hlist : (resolver_env late_pass.created_at late_pass.submitted_at).serve part_sold
      .list_half_recorded_arbs
      (.ok (part_sold.store.list_half_recorded_arbs (fun _ => 0) (fun _ => 0))) part_sold :=
    ⟨rfl, .inr rfl⟩
  exact ⟨results, .call hlist harbs⟩

/-- Six contracts stay unhedged: their incident is resolved, and the arb is marked. -/
theorem part_sold_hides_exposure :
    ¬ ∀ (arb_id : String) (w : Books),
      Reachable (recovered_runs arb_id fun _ _ _ => True) w → ExposureVisible arb_id w := by
  intro h
  have hheld : part_marked.held .yes ≠ part_marked.held .no := by decide
  obtain ⟨-, hrow⟩ := h _ _ part_marked_reachable hheld
  have hclosed : part_marked.store.arb "ARB-000001" = some
      { failed_row with
        status := "closed"
        recovery_notes := reconciled_notes "" ("AutoResolver (2026-05-22): unwind_pnl=0 " ++
          "sourced from auto_unwind incident metadata.") } := by
    decide
  exact (hrow _ hclosed).2 rfl

/-- The same after a recovery whose unwind raised and a pass that could not list. -/
theorem exposure_stays_visible_raised :
    unwind_raised.held .yes ≠ unwind_raised.held .no ∧
      ExposureVisible "ARB-000001" unwind_raised := by
  refine ⟨by decide, exposure_stays_visible _ _ ?_⟩
  obtain ⟨recovered, hrecovery⟩ := recovers_of_unwind trivial unwind_raised_run
  refine .step (l := late_pass) (.init ⟨_, _, _, _, _, _, ten_naked_unmarked, hrecovery⟩) ?_
  exact ⟨[], .call (a := .error "timeout") ⟨rfl, .inl ⟨_, rfl⟩⟩ (.ret _ _)⟩

end AutoResolver
