import Arbiter.Execution.Live
import Arbiter.Execution.Sends

/-! # Ambiguity and the End of an Execution

  An order whose submit timed out, or that was accepted and could be neither polled
  to an end nor cancelled, is unproven: it may be live at the venue. The result of
  its leg says so in a flag, and `_live_execution` looks at statuses and fills.

  ## Contents

  - Section 1: the log of a run, with the evidence for every order sent.
  - Section 2: when an unproven order surfaces.
  - Section 3: placing and the chain only add orders on their leg.
  - Section 4: what stands in the log when both legs are placed.
  - Section 5: exactness, and a run in which a timed-out order goes unseen.
-/

namespace Execution

open Effect

/-! ## Section 1: The log of a run -/

/-- One order sent to a venue. -/
structure Sent where
  platform : String
  side : Side
  /-- Its submit timed out or it was accepted, and no answer since has proved it over. -/
  unproven : Bool

/-- What a run of `_live_execution` leaves behind. -/
structure LiveLog where
  /-- Every order sent for the legs, newest first. -/
  orders : List Sent
  /-- The legs that critical incidents name. -/
  named : List (String × Side)
  /-- The result of the primary leg, once it is there. -/
  primary : Option Leg
  /-- The result of the secondary leg, when the chain came back with one. -/
  secondary : Option Leg
  /-- The recovery was entered. -/
  recovering : Bool
  /-- The status the execution was recorded with. -/
  ended : Option ExecStatus

namespace LiveLog

/-- Nothing happened yet. -/
def start : LiveLog where
  orders := []
  named := []
  primary := none
  secondary := none
  recovering := false
  ended := none

/-- One more order is sent. -/
def submit (w : LiveLog) (platform : String) (side : Side) (unproven : Bool) : LiveLog :=
  { w with orders := ⟨platform, side, unproven⟩ :: w.orders }

/-- An answer proves the newest order over, if `settled` says so. -/
def settle_newest (w : LiveLog) (settled : Bool) : LiveLog :=
  match w.orders with
  | [] => w
  | newest :: rest =>
      { w with orders := { newest with unproven := newest.unproven && !settled } :: rest }

/-- An incident is recorded. -/
def note (w : LiveLog) (i : Incident) : LiveLog :=
  if i.severity = .critical then { w with named := i.legs ++ w.named } else w

end LiveLog

/-- A placement leaves the order unproven when it timed out, or was only accepted. -/
def leaves_unproven : Except PlaceFailure Leg → Bool
  | .ok order => order.status = .submitted
  | .error .timeout => true
  | .error (.raised _) => false

/-- A reading shows the order at its end. -/
def shows_terminal : Except String Reading → Bool
  | .ok r => r.order.status.terminal
  | .error _ => false

/-- Every call may be answered in any way; the log keeps the evidence. Reads and
    cancels while a leg is placed are about the newest order. -/
def live_venue : Env Call Answer LiveLog where
  serve := fun w c a w' =>
    match c, a with
    | .place_fok platform req, a => w' = w.submit platform req.side (leaves_unproven a)
    | .place_ioc platform req, a => w' = w.submit platform req.side (leaves_unproven a)
    | .get_order _ _, a => w' = w.settle_newest (shows_terminal a)
    | .cancel_order _ _, a => w' = w.settle_newest (cancelled_ok a)
    | .record_incident i, _ => w' = w.note i
    | .append_execution execution, _ => w' = { w with ended := some execution.status }
    | _, _ => w' = w

/-- `_live_execution` at that venue: a leg is placed by a run of its program, and the
    recovery may do anything. -/
def live_log (eng : Engine) : Env Proc Outcomes LiveLog where
  serve := fun w p r w' =>
    match p, r with
    | .outside c, a => live_venue.serve w c a w'
    | .place_order_for_leg platform req use_ioc stub, r =>
        ∃ w₁, Exec live_venue (place_order_for_leg eng platform req use_ioc stub none) w r w₁ ∧
          w' = { w₁ with primary := r.toOption }
    | .execute_with_fallbacks leg skip, r =>
        ∃ w₁, Exec live_venue (execute_with_fallbacks eng leg skip) w r w₁ ∧
          w' = { w₁ with secondary := r.toOption.join }
    | .recover_one_leg_risk .., _ => w' = { w with recovering := true }

/-! ## Section 2: Surfacing -/

/-- The execution ends as `failed`, with no recovery. -/
def LiveLog.EndsClean (w : LiveLog) : Prop := w.ended = some .failed ∧ w.recovering = false

/-- Ambiguity surfaces: with an unproven order the execution does not end clean, and
    it is in recovery or a critical incident names the leg. -/
def LiveLog.Surfaces (w : LiveLog) : Prop :=
  ∀ o ∈ w.orders, o.unproven →
    ¬ w.EndsClean ∧ (w.recovering ∨ (o.platform, o.side) ∈ w.named)

/-- Every order sent was proven over. -/
def LiveLog.Proven (w : LiveLog) : Prop := ∀ o ∈ w.orders, o.unproven = false

/-- Two leg results go to recovery: one is dead and one survives, or none is dead and
    one is PARTIAL or soft-naked against the other. -/
def PairRecovers (p s : Leg) : Prop :=
  if p.status.terminalFailed ∨ s.status.terminalFailed then isSurvivor p ∨ isSurvivor s
  else p.status = .partialFill ∨ s.status = .partialFill ∨ softNaked p s ∨ softNaked s p

/-- The leg results by which an unproven order is seen: a primary that survives when
    there is no second result; else a second result that rests, or a pair that goes to
    recovery. No flag counts. -/
def SeenBy : Option Leg → Option Leg → Prop
  | some p, none => isSurvivor p
  | some p, some s => s.status = .submitted ∨ PairRecovers p s
  | none, _ => False

instance (p s : Leg) : Decidable (PairRecovers p s) := by unfold PairRecovers; infer_instance

/-- The classification does not care which leg is which. -/
theorem classify_comm (p s : Leg) : classify p s = classify s p := by
  unfold classify
  simp only [or_comm, and_comm]

/-- The classification recovers exactly these pairs. -/
theorem classify_recovers_iff (p s : Leg) : (classify p s).2 = true ↔ PairRecovers p s := by
  unfold classify PairRecovers
  by_cases hdead : p.status.terminalFailed ∨ s.status.terminalFailed
  · rw [if_pos hdead, if_pos hdead]
    split <;> simp_all
  · rw [if_neg hdead, if_neg hdead]
    by_cases hpart : p.status = .partialFill ∨ s.status = .partialFill
    · rw [if_pos hpart]
      tauto
    · rw [if_neg hpart]
      by_cases hfilled : p.status = .filled ∧ s.status = .filled
      · have hsoft : ¬ softNaked p s ∧ ¬ softNaked s p := by
          simp [softNaked, hfilled.1, hfilled.2]
        rw [if_pos hfilled]
        tauto
      · rw [if_neg hfilled]
        split <;> simp_all

/-- It calls the execution failed only when no leg survives. -/
theorem classify_failed {p s : Leg} (h : (classify p s).1 = .failed) :
    ¬ isSurvivor p ∧ ¬ isSurvivor s := by
  unfold classify at h
  by_cases hdead : p.status.terminalFailed ∨ s.status.terminalFailed
  · rw [if_pos hdead] at h
    by_cases hs : isSurvivor p ∨ isSurvivor s
    · rw [if_pos hs] at h
      cases h
    · exact not_or.1 hs
  · rw [if_neg hdead] at h
    split at h
    · cases h
    · split at h
      · cases h
      · split at h <;> cases h

/-- A dead leg and no survivor: the execution is called failed. -/
theorem classify_dead {p s : Leg} (hdead : s.status.terminalFailed) (hp : ¬ isSurvivor p)
    (hs : ¬ isSurvivor s) : classify p s = (.failed, false) := by
  rw [classify_of_dead (.inr hdead), if_neg (not_or.2 ⟨hp, hs⟩)]

/-! ## Section 3: What placing a leg leaves alone -/

/-- The calls of a program that places orders on `legs` and reports nothing. -/
def OnLegs (legs : List (String × Side)) : Call → Prop
  | .place_fok platform req => (platform, req.side) ∈ legs
  | .place_ioc platform req => (platform, req.side) ∈ legs
  | .record_incident _ => False
  | .append_execution _ => False
  | _ => True

/-- `w'` is `w` with other orders, all of them on `legs`. -/
def LiveLog.OrdersOn (legs : List (String × Side)) (w w' : LiveLog) : Prop :=
  ∃ orders, w' = { w with orders := orders } ∧ ∀ o ∈ orders, (o.platform, o.side) ∈ legs

namespace LiveLog

variable {legs : List (String × Side)} {w w' : LiveLog}

theorem OrdersOn.submit {platform : String} {side : Side} {unproven : Bool}
    (h : OrdersOn legs w w') (hleg : (platform, side) ∈ legs) :
    OrdersOn legs w (w'.submit platform side unproven) := by
  obtain ⟨orders, rfl, hon⟩ := h
  exact ⟨_, rfl, List.forall_mem_cons.2 ⟨hleg, hon⟩⟩

theorem OrdersOn.settle_newest {settled : Bool} (h : OrdersOn legs w w') :
    OrdersOn legs w (w'.settle_newest settled) := by
  obtain ⟨orders, rfl, hon⟩ := h
  cases orders with
  | nil => exact ⟨[], rfl, hon⟩
  | cons newest rest =>
    rw [List.forall_mem_cons] at hon
    exact ⟨_, rfl, List.forall_mem_cons.2 ⟨hon.1, hon.2⟩⟩

end LiveLog

/-- Such a call keeps the log but for orders on `legs`. -/
theorem OnLegs.keeps {legs : List (String × Side)} {w w₁ w₂ : LiveLog} {c : Call} {a : Answer c}
    (hc : OnLegs legs c) (hs : live_venue.serve w₁ c a w₂) (h : w.OrdersOn legs w₁) :
    w.OrdersOn legs w₂ := by
  cases c with
  | place_fok platform req =>
    change w₂ = _ at hs
    exact hs ▸ h.submit hc
  | place_ioc platform req =>
    change w₂ = _ at hs
    exact hs ▸ h.submit hc
  | get_order => 
    change w₂ = _ at hs
    exact hs ▸ h.settle_newest
  | cancel_order =>
    change w₂ = _ at hs
    exact hs ▸ h.settle_newest
  | record_incident => exact hc.elim
  | append_execution => exact hc.elim
  | _ =>
    change w₂ = _ at hs
    exact hs ▸ h

section calls

variable {eng : Engine} {legs : List (String × Side)} {platform : String}

/-- Orders on `legs` and what goes with them. -/
private theorem sends_on_legs {sends : String → OrderRequest → Prop}
    (h : ∀ platform req, sends platform req → (platform, req.side) ∈ legs) {c : Call}
    (hc : Sends sends c) : OnLegs legs c := by
  cases c with
  | place_fok platform req => exact h platform req hc
  | place_ioc platform req => exact h platform req hc
  | record_incident => exact hc
  | append_execution => exact hc
  | _ => trivial

/-- Placing a leg reports nothing and orders on that leg only. -/
private theorem place_leg_on_legs {req : OrderRequest} {use_ioc : Bool} {stub : Option Stub}
    {persist_arb_id : Option String} (hleg : (platform, req.side) ∈ legs) :
    (place_order_for_leg eng platform req use_ioc stub persist_arb_id).Calls (OnLegs legs) := by
  have hsent : (place_order_for_leg eng platform req use_ioc stub persist_arb_id).Calls
      (Sends fun p r => (p, r.side) ∈ legs) := place_order_for_leg_calls hleg
  exact hsent.mono fun _ => sends_on_legs fun _ _ h => h

/-- So does the secondary chain. -/
private theorem chain_on_legs {leg : SecondaryLeg} {skip : Bool}
    (hleg : (leg.platform, leg.side) ∈ legs) :
    (execute_with_fallbacks eng leg skip).Calls (OnLegs legs) := by
  have hsent : (execute_with_fallbacks eng leg skip).Calls
      (Sends fun p r => (p, r.side) ∈ legs) :=
    execute_with_fallbacks_calls fun req hr => by
      rw [hr.of_leg.2]
      exact hleg
  exact hsent.mono fun _ => sends_on_legs fun _ _ h => h

/-- A run of allowed calls adds orders on `legs`, and nothing else to the log. -/
theorem orders_on_of_calls {α : Type} {p : Exe α} {r : α} {w₀ w w' : LiveLog}
    (hrun : Exec live_venue p w r w') (hp : p.Calls (OnLegs legs)) (hw : w₀.OrdersOn legs w) :
    w₀.OrdersOn legs w' :=
  hp.keeps (fun _ _ _ _ hc hs h => hc.keeps hs h) hw r w' hrun

end calls

/-! ## Section 4: The log when both legs are placed -/

/-- The log without its orders, while the legs are placed. -/
def LiveLog.placing (primary secondary : Option Leg) (named : List (String × Side)) : LiveLog :=
  { LiveLog.start with primary := primary, secondary := secondary, named := named }

/-- The legs an accepted second result is reported for. -/
def soft_naked_legs (legs : List (String × Side)) (s : Leg) : List (String × Side) :=
  if s.status = .submitted ∨ s.status = .partialFill then legs else []

/-- The log of two placed legs: the second is made up by the engine and ABORTED, or it
    is what the chain came back with, and its report is in. -/
def LiveLog.Logs (legs : List (String × Side)) (p s : Leg) (w : LiveLog) : Prop :=
  (s.status = .aborted ∧ ∃ named, (placing (some p) none named).OrdersOn legs w) ∨
    (placing (some p) (some s) (soft_naked_legs legs s)).OrdersOn legs w

/-- The first critical incident is noted. -/
theorem LiveLog.note_on {legs : List (String × Side)} {primary secondary : Option Leg}
    {w : LiveLog} {i : Incident} (hi : i.severity = .critical)
    (h : (placing primary secondary []).OrdersOn legs w) :
    (placing primary secondary i.legs).OrdersOn legs (w.note i) := by
  obtain ⟨orders, rfl, hon⟩ := h
  refine ⟨orders, ?_, hon⟩
  simp [note, hi, placing, start]

/-- The calls the log does not see. -/
def Unlogged : Proc → Prop
  | .outside (.place_fok ..) => False
  | .outside (.place_ioc ..) => False
  | .outside (.get_order ..) => False
  | .outside (.cancel_order ..) => False
  | .outside (.record_incident i) => i.severity ≠ .critical
  | .outside (.append_execution _) => False
  | .outside _ => True
  | _ => False

theorem Unlogged.keeps {eng : Engine} {w w' : LiveLog} {p : Proc} {r : Outcomes p}
    (hp : Unlogged p) (hs : (live_log eng).serve w p r w') : w' = w := by
  cases p with
  | outside c =>
    cases c with
    | place_fok => exact hp.elim
    | place_ioc => exact hp.elim
    | get_order => exact hp.elim
    | cancel_order => exact hp.elim
    | append_execution => exact hp.elim
    | record_incident i =>
      change w' = w.note i at hs
      rw [hs, LiveLog.note, if_neg hp]
    | _ => exact hs
  | _ => exact hp.elim

theorem Asks.unlogged {p : Proc} (h : Asks p) : Unlogged p := by
  cases p with
  | outside c => cases c <;> first | exact h.elim | exact trivial
  | _ => exact h.elim

section placing

variable {eng : Engine} {cfg : LiveConfig} {arb_id : String} {opp : Opportunity}
variable {α β : Type} {w : LiveLog}

/-- A program of unlogged calls goes first: the log is as it was. -/
theorem wp_unlogged {p : Live α} {f : α → Live β} {Q : β → LiveLog → Prop}
    (hp : p.Calls Unlogged) (hf : ∀ a, wp (live_log eng) (f a) Q w) :
    wp (live_log eng) (p >>= f) Q w :=
  hp.wp_bind (fun _ _ _ _ hc hs => hc.keeps hs) hf

/-- So does one that only asks. -/
theorem wp_asking {p : Live α} {f : α → Live β} {Q : β → LiveLog → Prop}
    (hp : p.Calls Asks) (hf : ∀ a, wp (live_log eng) (f a) Q w) :
    wp (live_log eng) (p >>= f) Q w :=
  wp_unlogged (hp.mono fun _ hc => hc.unlogged) hf

private theorem book_execution_calls {pnl : ℚ} {b : Option RiskManager.Booked} :
    (book_execution opp pnl b).Calls Unlogged := by
  cases b with
  | none => exact calls_ret _
  | some b => exact calls_send.2 trivial

/-! ### The primary leg -/

/-- The primary is placed on one of `legs`; the log has its result. -/
private theorem place_primary_spec {side : Side} {qty : ℕ} {price : ℚ≥0}
    {legs : List (String × Side)} (hleg : (opp.platform side, side) ∈ legs) :
    wp (live_log eng) (place_primary cfg arb_id opp side qty price)
      (fun r w => (LiveLog.placing r.toOption none []).OrdersOn legs w) .start := by
  rw [place_primary, call_place_order_for_leg, wp_send]
  rintro r w ⟨w₁, hrun, rfl⟩
  have hstart : LiveLog.start.OrdersOn legs .start := ⟨[], rfl, by simp⟩
  obtain ⟨orders, rfl, hon⟩ := 
    orders_on_of_calls hrun (place_leg_on_legs hleg) hstart
  exact ⟨orders, rfl, hon⟩

/-! ### The secondary leg -/

variable {p : Leg} {side : Side} {qty : ℕ} {legs : List (String × Side)}

/-- The chain comes back with a result, or one is made up. -/
private theorem secondary_at_spec {walked : ℚ≥0} (hleg : (opp.platform side, side) ∈ legs)
    (hw : (LiveLog.placing (some p) none []).OrdersOn legs w) :
    wp (live_log eng) (secondary_at cfg arb_id opp p side qty walked)
      (fun r w' => match r with
        | .error _ => (LiveLog.placing (some p) none []).OrdersOn legs w'
        | .ok s => (s.status = .aborted ∧
              (LiveLog.placing (some p) none []).OrdersOn legs w') ∨
            (LiveLog.placing (some p) (some s) []).OrdersOn legs w') w := by
  unfold secondary_at
  rw [wp_bind, call_execute_with_fallbacks, wp_send]
  rintro r w' ⟨w₁, hrun, rfl⟩
  obtain ⟨orders, rfl, hon⟩ := 
    orders_on_of_calls hrun (chain_on_legs hleg) hw
  match r with
  | .error err => exact wp_pure.2 ⟨orders, rfl, hon⟩
  | .ok (some s) => exact wp_pure.2 (.inr ⟨orders, rfl, hon⟩)
  | .ok none => exact wp_pure.2 (.inl ⟨rfl, orders, rfl, hon⟩)

/-- The same for the block that may raise. -/
private theorem try_secondary_spec (hleg : (opp.platform side, side) ∈ legs)
    (hw : (LiveLog.placing (some p) none []).OrdersOn legs w) :
    wp (live_log eng) (try_secondary eng cfg arb_id opp p side qty)
      (fun r w' => match r with
        | .error _ => (LiveLog.placing (some p) none []).OrdersOn legs w'
        | .ok s => (s.status = .aborted ∧
              (LiveLog.placing (some p) none []).OrdersOn legs w') ∨
            (LiveLog.placing (some p) (some s) []).OrdersOn legs w') w := by
  unfold try_secondary
  refine wp_asking (asking inter_leg_delay_calls) fun _ => ?_
  refine wp_asking (asking walk_secondary_calls) fun walk => ?_
  cases walk with
  | error err => exact wp_pure.2 hw
  | ok walked => exact secondary_at_spec hleg hw

/-- A raise is reported, with an ABORTED leg made up for it. -/
private theorem secondary_or_placeholder_spec (hleg : (opp.platform side, side) ∈ legs)
    (hw : (LiveLog.placing (some p) none []).OrdersOn legs w) :
    wp (live_log eng) (secondary_or_placeholder eng cfg arb_id opp p side qty)
      (fun r w' =>
        (r.1.status = .aborted ∧ ∃ named, (LiveLog.placing (some p) none named).OrdersOn legs w') ∨
          (LiveLog.placing (some p) (some r.1) []).OrdersOn legs w') w := by
  unfold secondary_or_placeholder
  refine wp_bind.2 (wp_mono (try_secondary_spec hleg hw) fun r w' h => ?_)
  cases r with
  | ok s =>
    refine wp_pure.2 ?_
    rcases h with ⟨hs, hlog⟩ | hlog
    · exact .inl ⟨hs, [], hlog⟩
    · exact .inr hlog
  | error err =>
    rw [wp_bind, wp_send]
    rintro _ w₁ rfl
    exact wp_pure.2 (.inl ⟨rfl, named_legs opp side, LiveLog.note_on rfl h⟩)

/-- An ABORTED second result needs no report. -/
private theorem report_soft_naked_aborted {s : Leg} (hs : s.status = .aborted) :
    wp (live_log eng) (report_soft_naked eng arb_id opp p s side) (fun _ w' => w' = w) w := by
  unfold report_soft_naked
  simp [hs]

/-- A second result that is accepted and not filled is reported, naming both legs. -/
private theorem report_soft_naked_spec {s : Leg}
    (hw : (LiveLog.placing (some p) (some s) []).OrdersOn (named_legs opp side) w) :
    wp (live_log eng) (report_soft_naked eng arb_id opp p s side)
      (fun _ w' => (LiveLog.placing (some p) (some s)
        (soft_naked_legs (named_legs opp side) s)).OrdersOn (named_legs opp side) w') w := by
  unfold report_soft_naked soft_naked_legs
  rw [wp_ite]
  constructor
  · intro hresting
    rw [if_pos hresting, wp_bind, wp_send]
    rintro _ w₁ rfl
    rw [wp_ite]
    constructor
    · intro _
      exact wp_unlogged (calls_send.2 trivial) fun _ => wp_pure.2 (LiveLog.note_on rfl hw)
    · intro _
      exact wp_pure.2 (LiveLog.note_on rfl hw)
  · intro hresting
    rw [if_neg hresting]
    exact wp_pure.2 hw

/-- Both legs are placed, and the log has what their results are. -/
private theorem place_secondary_spec (hw : (LiveLog.placing (some p) none []).OrdersOn
      (named_legs opp side) w) :
    wp (live_log eng) (place_secondary eng cfg arb_id opp side p qty)
      (fun r w' => r.primary_side = side.other ∧
        LiveLog.Logs (named_legs opp side) r.primary r.secondary w') w := by
  have hleg : (opp.platform side, side) ∈ named_legs opp side := by simp [named_legs]
  unfold place_secondary
  rw [wp_ite]
  constructor
  · intro _
    exact wp_pure.2 ⟨rfl, .inl ⟨rfl, [], hw⟩⟩
  · intro _
    refine wp_bind.2 (wp_mono (secondary_or_placeholder_spec hleg hw) fun r w₁ h => ?_)
    rcases h with ⟨haborted, hlog⟩ | hlog
    · refine wp_bind.2 (wp_mono (report_soft_naked_aborted haborted) fun _ w₂ heq => ?_)
      exact wp_pure.2 ⟨rfl, .inl ⟨haborted, heq ▸ hlog⟩⟩
    · refine wp_bind.2 (wp_mono (report_soft_naked_spec hlog) fun _ w₂ hlog => ?_)
      exact wp_pure.2 ⟨rfl, .inr hlog⟩

/-- What the log holds when the placing of the legs ends: orders only after a gate has
    let the arb through, and both results unless the primary raised. -/
def LegsLogged (r : Except String (Option Placed)) (w : LiveLog) : Prop :=
  w = .start ∨
    match r with
    | .ok (some placed) => ∃ legs, LiveLog.Logs legs placed.primary placed.secondary w
    | .ok none => False
    | .error _ => ∃ legs, (LiveLog.placing none none []).OrdersOn legs w

private theorem place_legs_spec :
    wp (live_log eng) (place_legs eng cfg arb_id opp) LegsLogged .start := by
  unfold place_legs
  refine wp_asking (asking depth_gate_calls) fun depth => ?_
  match depth with
  | .error err => exact wp_pure.2 (.inl rfl)
  | .ok none => exact wp_pure.2 (.inl rfl)
  | .ok (some effective_qty) =>
    refine wp_asking (asking walk_primary_calls) fun walk => ?_
    match walk with
    | .error err => exact wp_pure.2 (.inl rfl)
    | .ok none => exact wp_pure.2 (.inl rfl)
    | .ok (some price) =>
      have hleg : (opp.platform (primary_side cfg opp), primary_side cfg opp) ∈
          named_legs opp (primary_side cfg opp).other := by
        cases primary_side cfg opp <;> simp [named_legs, Side.other]
      refine wp_bind.2 (wp_mono (place_primary_spec hleg) fun r w₁ hlog => ?_)
      cases r with
      | error err => exact wp_pure.2 (.inr ⟨_, hlog⟩)
      | ok primary_leg =>
        refine wp_bind.2 (wp_mono (place_secondary_spec hlog) fun placed w₂ h => ?_)
        exact wp_pure.2 (.inr ⟨_, h.2⟩)

private theorem execute_legs_spec :
    wp (live_log eng) (execute_legs eng cfg arb_id opp) LegsLogged .start := by
  unfold execute_legs
  refine wp_asking (asking balance_gate_calls) fun short => ?_
  cases short with
  | some platform =>
    refine wp_unlogged (calls_send.2 ?_) fun _ => wp_pure.2 (.inl rfl)
    -- the gate reports with a warning
    exact Severity.noConfusion
  | none =>
    simp only [wp_ite, wp_pure]
    exact ⟨fun _ => .inl rfl, fun _ => place_legs_spec⟩

/-! ## Section 5: Exactness -/

/-- The log of an execution that ends: its status, and whether the recovery ran. -/
def LiveLog.conclude (w : LiveLog) (outcome : ExecStatus × Bool) : LiveLog :=
  { w with ended := some outcome.1, recovering := w.recovering || outcome.2 }

/-- Classification, booking and recovery leave the outcome, and nothing else. -/
private theorem settle_spec {leg_yes leg_no : Leg} :
    wp (live_log eng) (settle eng arb_id opp leg_yes leg_no)
      (fun _ w' => w' = w.conclude (classify leg_yes leg_no)) w := by
  unfold settle
  rcases classify leg_yes leg_no with ⟨status, needs_recovery⟩
  simp only
  rw [wp_bind, wp_send]
  rintro _ w₁ rfl
  refine wp_unlogged book_execution_calls fun _ => ?_
  have hrecover : wp (live_log eng)
      (recover_if_needed needs_recovery arb_id opp leg_yes leg_no)
      (fun _ w' => w' = w.conclude (status, needs_recovery)) { w with ended := some status } := by
    cases needs_recovery with
    | true =>
      rw [recover_if_needed, if_pos rfl, call_recover_one_leg_risk, wp_send]
      rintro _ w₂ rfl
      simp [LiveLog.conclude]
    | false =>
      rw [recover_if_needed, if_neg Bool.false_ne_true, wp_ret]
      simp [LiveLog.conclude]
  refine wp_bind.2 (wp_mono hrecover fun recovered w₂ h => ?_)
  refine wp_unlogged (calls_send.2 trivial) fun _ => ?_
  exact wp_asking persist_arb_calls fun _ => wp_pure.2 h

end placing

theorem LiveLog.Proven.surfaces {w : LiveLog} (h : w.Proven) : w.Surfaces := by
  intro o ho hunproven
  rw [h o ho] at hunproven
  cases hunproven

/-- An unproven order in a log that surfaces it. -/
theorem LiveLog.Surfaces.of_not_proven {w : LiveLog} (h : w.Surfaces) (hnot : ¬ w.Proven) :
    ∃ o ∈ w.orders, ¬ w.EndsClean ∧ (w.recovering ∨ (o.platform, o.side) ∈ w.named) := by
  unfold LiveLog.Proven at hnot
  push Not at hnot
  obtain ⟨o, ho, hunproven⟩ := hnot
  exact ⟨o, ho, h o ho (by simpa using hunproven)⟩

/-- An execution that recovers surfaces everything. -/
theorem LiveLog.surfaces_of_recovering {w : LiveLog} (h : w.recovering = true) : w.Surfaces := by
  intro o ho hunproven
  refine ⟨fun hclean => ?_, .inl h⟩
  rw [hclean.2] at h
  cases h

section conclude

variable {legs : List (String × Side)} {p s : Leg} {w : LiveLog}

/-- With a second result made up by the engine, the primary decides. -/
private theorem surfaces_iff_of_aborted {named : List (String × Side)} (hs : s.status = .aborted)
    (hw : (LiveLog.placing (some p) none named).OrdersOn legs w) :
    (w.conclude (classify p s)).Surfaces ↔
      (w.conclude (classify p s)).Proven ∨ isSurvivor p := by
  obtain ⟨orders, rfl, hon⟩ := hw
  have hdead : s.status.terminalFailed := .inr (.inr hs)
  have hnot : ¬ isSurvivor s := by simp [isSurvivor, OrderStatus.surviving, hs]
  constructor
  · intro hsurf
    by_contra hneither
    rw [not_or] at hneither
    obtain ⟨o, ho, hends, -⟩ := hsurf.of_not_proven hneither.1
    rw [classify_dead hdead hneither.2 hnot] at hends
    exact hends ⟨rfl, rfl⟩
  · rintro (hproven | hsurvives)
    · exact hproven.surfaces
    · apply LiveLog.surfaces_of_recovering
      have hrec : (classify p s).2 = true := by
        rw [classify_recovers_iff, PairRecovers, if_pos (.inr hdead)]
        exact .inl hsurvives
      simp [LiveLog.conclude, hrec]

/-- With the result of the chain, its status or the pair decides. -/
private theorem surfaces_iff_of_returned
    (hw : (LiveLog.placing (some p) (some s) (soft_naked_legs legs s)).OrdersOn legs w) :
    (w.conclude (classify p s)).Surfaces ↔
      (w.conclude (classify p s)).Proven ∨ s.status = .submitted ∨ PairRecovers p s := by
  obtain ⟨orders, rfl, hon⟩ := hw
  constructor
  · intro hsurf
    by_cases hproven : (LiveLog.conclude
        { LiveLog.placing (some p) (some s) (soft_naked_legs legs s) with orders := orders }
        (classify p s)).Proven
    · exact .inl hproven
    · right
      obtain ⟨o, ho, -, hrec | hnamed⟩ := hsurf.of_not_proven hproven
      · right
        rw [← classify_recovers_iff]
        simpa [LiveLog.conclude, LiveLog.placing, LiveLog.start] using hrec
      · -- only an accepted second result is reported, and a PARTIAL one recovers
        have hreported : (o.platform, o.side) ∈ soft_naked_legs legs s := hnamed
        unfold soft_naked_legs at hreported
        split at hreported
        · rename_i hresting
          rcases hresting with hsub | hpart
          · exact .inl hsub
          · right
            unfold PairRecovers
            split
            · exact .inr ⟨by simp [OrderStatus.surviving, hpart], by simp [hpart]⟩
            · exact .inr (.inl hpart)
        · cases hreported
  · rintro (hproven | hsub | hpair)
    · exact hproven.surfaces
    · intro o ho _
      constructor
      · -- a resting second leg keeps the execution from failing, and is reported by name
        rintro ⟨hfailed, -⟩
        have hend : (classify p s).1 = .failed := Option.some.inj hfailed
        exact (classify_failed hend).2
          ⟨by simp [OrderStatus.surviving, hsub], by simp [hsub]⟩
      · right
        show (o.platform, o.side) ∈ soft_naked_legs legs s
        rw [soft_naked_legs, if_pos (.inl hsub)]
        exact hon o ho
    · apply LiveLog.surfaces_of_recovering
      have hrec := (classify_recovers_iff p s).2 hpair
      simp [LiveLog.conclude, hrec]

/-- Once both results are in, an unproven order surfaces exactly as they say. -/
private theorem LiveLog.Logs.surfaces_iff (hw : LiveLog.Logs legs p s w) :
    (w.conclude (classify p s)).Surfaces ↔
      (w.conclude (classify p s)).Proven ∨ SeenBy w.primary w.secondary := by
  rcases hw with ⟨haborted, named, hlog⟩ | hlog
  · have hresults : w.primary = some p ∧ w.secondary = none := by
      obtain ⟨orders, rfl, -⟩ := hlog
      exact ⟨rfl, rfl⟩
    rw [hresults.1, hresults.2]
    exact surfaces_iff_of_aborted haborted hlog
  · have hresults : w.primary = some p ∧ w.secondary = some s := by
      obtain ⟨orders, rfl, -⟩ := hlog
      exact ⟨rfl, rfl⟩
    rw [hresults.1, hresults.2]
    exact surfaces_iff_of_returned hlog

end conclude

/-- The legs by side are the two legs placed, in one order or the other. -/
private theorem classify_placed (placed : Placed) :
    classify placed.leg_yes placed.leg_no = classify placed.primary placed.secondary := by
  unfold Placed.leg_yes Placed.leg_no
  cases placed.primary_side with
  | yes => rfl
  | no => exact classify_comm _ _

/-- **Ambiguity is seen exactly through statuses**: in every run of `_live_execution`,
    every unproven order surfaces if and only if there is none or the leg results are
    of the kinds that are seen. -/
theorem ambiguity_surfaces_iff (eng : Engine) (cfg : LiveConfig) (arb_id : String)
    (opp : Opportunity) (r : Except String (Option ArbExecution)) (w : LiveLog)
    (hrun : Exec (live_log eng) (live_execution eng cfg arb_id opp) .start r w) :
    w.Surfaces ↔ w.Proven ∨ SeenBy w.primary w.secondary := by
  have hspec : wp (live_log eng) (live_execution eng cfg arb_id opp)
      (fun _ w' => w'.Surfaces ↔ w'.Proven ∨ SeenBy w'.primary w'.secondary) .start := by
    unfold live_execution
    refine wp_bind.2 (wp_mono execute_legs_spec fun r w₁ hlegs => ?_)
    -- without an order there is nothing to prove and nothing to surface
    have hempty : ∀ {w' : LiveLog}, w'.orders = [] →
        (w'.Surfaces ↔ w'.Proven ∨ SeenBy w'.primary w'.secondary) := by
      intro w' horders
      have hproven : w'.Proven := by simp [LiveLog.Proven, horders]
      exact ⟨fun _ => .inl hproven, fun _ => hproven.surfaces⟩
    match r with
    | .error err =>
      refine wp_pure.2 ?_
      rcases hlegs with rfl | ⟨legs, orders, rfl, hon⟩
      · exact hempty rfl
      · -- the primary raised: nothing is recorded, so nothing is seen
        constructor
        · intro hsurf
          by_contra hneither
          rw [not_or] at hneither
          obtain ⟨o, ho, -, hrec | hnamed⟩ := hsurf.of_not_proven hneither.1
          · cases hrec
          · cases hnamed
        · rintro (hproven | hseen)
          · exact hproven.surfaces
          · exact hseen.elim
    | .ok none =>
      refine wp_pure.2 ?_
      rcases hlegs with rfl | hfalse
      · exact hempty rfl
      · exact hfalse.elim
    | .ok (some placed) =>
      refine wp_bind.2 (wp_mono settle_spec fun execution w₂ hend => ?_)
      rw [classify_placed] at hend
      -- what the conclusion records is decided by the two legs alone
      have hconcluded : w₂.Surfaces ↔ w₂.Proven ∨ SeenBy w₂.primary w₂.secondary := by
        rw [hend]
        rcases hlegs with rfl | ⟨legs, hlogs⟩
        · exact hempty rfl
        · exact hlogs.surfaces_iff
      cases placed.secondary_exception with
      | some err => exact wp_pure.2 hconcluded
      | none => exact wp_pure.2 hconcluded
  exact hspec r w hrun

/-! ### A run that hides a timed-out order -/

/-- What is kept of that primary when its submit timed out and no order was found. -/
def timed_out_primary : Leg :=
  timed_out_order
    { Order.synthetic ("ARB-000001" ++ "-" ++ Side.yes.upper ++ "-" ++ "kalshi".toUpper) "kalshi"
        "KX-1" "mkt-1" .yes (2 / 5) 10 .pending ("local timeout after " ++ "10.0" ++ "s") with
      idempotency_ambiguous := true } 0 false

/-- The log of the execution that ends there. -/
def timed_out_log : LiveLog :=
  { LiveLog.start with
    orders := [⟨"kalshi", .yes, true⟩], primary := some timed_out_primary, ended := some .failed }

/-- The submit times out, and the lookup finds nothing. -/
private theorem timed_out_primary_run :
    Exec live_venue (place_order_for_leg (kalshi_engine true) "kalshi" ten_across_primary true
      (some ⟨ten_across, some (1 / 5)⟩) none) .start (.ok timed_out_primary)
      (LiveLog.start.submit "kalshi" .yes true) := by
  have hunblocked : live_venue.serve .start .db_write_failed false .start := rfl
  have htimeout : live_venue.serve .start (.place_ioc "kalshi" ten_across_primary)
      (.error .timeout) (LiveLog.start.submit "kalshi" .yes true) := rfl
  have hlookup : live_venue.serve (LiveLog.start.submit "kalshi" .yes true)
      (.list_open_orders_by_client_id "kalshi" "ARB-000001-YES-") (.ok [])
      (LiveLog.start.submit "kalshi" .yes true) := rfl
  exact .call hunblocked (.call htimeout (.call hlookup (.ret _ _)))

/-- The legs of that execution: the second is skipped. -/
def timed_out_placed : Placed where
  primary_side := .yes
  primary := timed_out_primary
  secondary := placeholder "ARB-000001" "SKIPPED" ten_across .no (2 / 5) 10
    "Skipped: primary leg did not fill (sequential execution)"
  secondary_exception := none

/-- The gates let `ten_across` through, its primary times out, its secondary is skipped. -/
private theorem timed_out_legs_run :
    Exec (live_log (kalshi_engine true))
      (execute_legs (kalshi_engine true) kalshi_first_config "ARB-000001" ten_across) .start
      (.ok (some timed_out_placed)) { timed_out_log with ended := none } := by
  have hplace : (live_log (kalshi_engine true)).serve .start
      (.place_order_for_leg "kalshi" ten_across_primary true (some ⟨ten_across, some (1 / 5)⟩))
      (.ok timed_out_primary) { timed_out_log with ended := none } :=
    ⟨_, timed_out_primary_run, rfl⟩
  exact ten_across_run (trading_engine false) rfl (1 / 5) (fun _ => rfl) rfl rfl hplace (.ret _ _)

/-- The whole execution: it ends as failed. -/
private theorem timed_out_run :
    ∃ r, Exec (live_log (kalshi_engine true))
      (live_execution (kalshi_engine true) kalshi_first_config "ARB-000001" ten_across) .start r
      timed_out_log := by
  have hended : ∀ execution : ArbExecution, execution.status = .failed →
      (live_log (kalshi_engine true)).serve { timed_out_log with ended := none }
        (.outside (.append_execution execution)) () timed_out_log := by
    intro execution hstatus
    show timed_out_log = { timed_out_log with ended := some execution.status }
    rw [hstatus]
    rfl
  have hhalt : (live_log (kalshi_engine true)).serve timed_out_log
      (.outside (.maybe_halt_on_daily_loss 0)) () timed_out_log := rfl
  exact ⟨_, exec_bind.2 ⟨_, _, timed_out_legs_run, .call (hended _ rfl) (.call hhalt (.ret _ _))⟩⟩

/-- The timed-out primary goes unseen, as its result says. -/
theorem ambiguity_surfaces_iff_timed_out :
    timed_out_log.Surfaces ↔
      timed_out_log.Proven ∨ SeenBy (some timed_out_primary) none := by
  obtain ⟨r, hrun⟩ := timed_out_run
  exact ambiguity_surfaces_iff _ _ _ _ r _ hrun

/-- A primary whose submit timed out is FAILED with nothing filled: the secondary is
    skipped, and the execution ends as failed with no recovery and no incident. -/
theorem timed_out_primary_goes_unseen :
    ¬ ∀ (eng : Engine) (cfg : LiveConfig) (arb_id : String) (opp : Opportunity)
        (r : Except String (Option ArbExecution)) (w : LiveLog),
      Exec (live_log eng) (live_execution eng cfg arb_id opp) .start r w → w.Surfaces := by
  intro h
  obtain ⟨r, hrun⟩ := timed_out_run
  have hsurf := h _ _ _ _ r _ hrun ⟨"kalshi", .yes, true⟩ (List.mem_cons_self ..) rfl
  exact hsurf.1 ⟨rfl, rfl⟩

end Execution
