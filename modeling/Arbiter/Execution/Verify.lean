import Arbiter.Execution.Poll
import Arbiter.Execution.Recovery

/-! # Verify before Unwind

  A recovery sells a filled leg back on the strength of what it believes of the other
  leg: what that leg's order says of itself, or, where it says it may be live, what a
  last reading says. Neither need be true at the venue.

  The main result says in which recoveries every sale is against a counterpart that is
  over, and for the exact difference.
-/

namespace Execution

open Effect

/-! ## Section 1: Recoveries, with the truth -/

/-- What is handed to the unwind. -/
structure Sale where
  side : Side
  qty : ℕ
  /-- The fill of the leg that is sold. -/
  held : ℕ
  /-- The order on the other side, at its venue, as the sale begins. -/
  other : VenueOrder

/-- The orders at their venues, the answers so far, and the sales. -/
structure VerifyLog where
  truth : Side → VenueOrder
  /-- The cancel of the leg was answered True. -/
  cancelled : Side → Bool
  /-- The reading of the verification, and whether the venue said it. -/
  heard : Option (Reading × Bool)
  sales : List Sale
  /-- The critical incident of a blocked unwind is raised. -/
  blocked : Bool

/-- Nothing answered yet. -/
def VerifyLog.start (truth : Side → VenueOrder) : VerifyLog :=
  ⟨truth, fun _ => false, none, [], false⟩

/-- The orders move on before every answer, and answers may be anything the adapters
    give. -/
def verified : Env Call Answer VerifyLog where
  serve := fun w c a w' => ∃ v : Side → VenueOrder, (∀ s, (w.truth s).Moves (v s)) ∧
    match c, a with
    | .cancel_order _ leg, a =>
        w' = { w with
          truth := v, cancelled := Function.update w.cancelled leg.side (cancelled_ok a) }
    | .get_order platform leg, a => ∃ said, AnswersOn platform leg a said ∧
        w' = match a with
          | .ok r => { w with truth := v, heard := some (r, said) }
          | .error _ => { w with truth := v }
    | .smart_unwind _ leg qty, _ =>
        w' = { w with
          truth := v, sales := w.sales ++ [⟨leg.side, qty, leg.fill_qty, v leg.side.other⟩] }
    | .record_incident i, _ =>
        w' = { w with
          truth := v
          blocked := w.blocked || (i.severity = .critical &&
            i.event_type = "unwind_blocked_ambiguous_secondary") }
    | _, _ => w' = { w with truth := v }

/-- A leg as the cancel loop leaves it. -/
def left_leg (eng : Engine) (legs : LegPair) (w : VerifyLog) (s : Side) : Leg :=
  after_cancel eng (w.cancelled s) (legs.leg s)

/-- The leg is verified before the other one is sold. -/
def doubtful (leg : Leg) : Prop := leg.fill_qty = 0 ∧ possiblyLive leg

/-- The late fill a reading wrote into the leg. -/
def late_count (r : Reading) : ℕ := if r.in_place then r.order.fill_qty else 0

/-- What the unwind has to meet: every sale is against an order that is over, for the
    exact difference, and where the venue said nothing of a doubtful counterpart the
    unwind is blocked. -/
structure UnwindsSound (eng : Engine) (legs : LegPair) (w : VerifyLog) : Prop where
  ended : ∀ sale ∈ w.sales, sale.other.ended = true
  exact : ∀ sale ∈ w.sales, sale.qty + sale.other.filled = sale.held
  blocked : ∀ s qty, unhedged (left_leg eng legs w .yes) (left_leg eng legs w .no) = some (s, qty) →
    doubtful (left_leg eng legs w s.other) → (∀ r, w.heard ≠ some (r, true)) →
    w.sales = [] ∧ w.blocked = true

/-- What the recovery believes is true: an order that is not doubted is over with the
    fill its status shows; a reading that settles the doubt is the venue's own, of an
    order that is over with the late fill the reading wrote into the leg. -/
structure BeliefsTrue (eng : Engine) (legs : LegPair) (w : VerifyLog) : Prop where
  undoubted : w.heard = none → ∀ sale ∈ w.sales, sale.other.ended = true ∧
    visible_fills (left_leg eng legs w sale.side.other) = sale.other.filled
  read : ∀ r said, w.heard = some (r, said) → verdict_of r.order ≠ .unproven →
    said = true ∧ ∀ sale ∈ w.sales, sale.other.ended = true ∧ late_count r = sale.other.filled

/-! ## Section 2: What a recovery does -/

/-- How a recovery ends. -/
structure Verified (eng : Engine) (legs : LegPair) (w : VerifyLog) : Prop where
  /-- A sale is of the unhedged leg, less the late fill that was heard of. -/
  sale : ∀ sale ∈ w.sales, ∃ qty,
    unhedged (left_leg eng legs w .yes) (left_leg eng legs w .no) = some (sale.side, qty) ∧
    sale.held = (left_leg eng legs w sale.side).fill_qty ∧
    sale.qty + (match w.heard with | none => 0 | some (r, _) => late_count r) = qty
  /-- Only a doubtful counterpart is read. -/
  asked : w.heard ≠ none → ∃ s qty,
    unhedged (left_leg eng legs w .yes) (left_leg eng legs w .no) = some (s, qty) ∧
    doubtful (left_leg eng legs w s.other)
  /-- Without an answer on it, the unwind is blocked. -/
  unheard : ∀ s qty,
    unhedged (left_leg eng legs w .yes) (left_leg eng legs w .no) = some (s, qty) →
    doubtful (left_leg eng legs w s.other) → w.heard = none → w.sales = [] ∧ w.blocked = true
  unproven : ∀ r said, w.heard = some (r, said) → verdict_of r.order = .unproven →
    w.sales = [] ∧ w.blocked = true
  proven : ∀ r said, w.heard = some (r, said) → verdict_of r.order ≠ .unproven →
    w.blocked = false

section iff

variable {eng : Engine} {legs : LegPair} {w : VerifyLog}

/-- The unhedged quantity is the fill of the leg less what the other one shows. -/
theorem unhedged_qty {s : Side} {qty : ℕ}
    (h : unhedged (left_leg eng legs w .yes) (left_leg eng legs w .no) = some (s, qty)) :
    qty + visible_fills (left_leg eng legs w s.other) = (left_leg eng legs w s).fill_qty := by
  obtain ⟨hlt, rfl⟩ := unhedged_eq_some (left_leg eng legs w) h
  have hvisible := visible_fills_eq (left_leg eng legs w s)
  omega

theorem doubtful.visible {leg : Leg} (h : doubtful leg) : visible_fills leg = 0 := by
  have hvisible := visible_fills_eq leg
  rw [h.1] at hvisible
  exact hvisible.elim id id

/-- Unheard, what is sold and what the other leg shows make up what was held. -/
theorem Verified.sold_unheard (h : Verified eng legs w) (hnone : w.heard = none) {sale : Sale}
    (hmem : sale ∈ w.sales) :
    sale.qty + visible_fills (left_leg eng legs w sale.side.other) = sale.held := by
  obtain ⟨qty, hunhedged, hheld, hqty⟩ := h.sale sale hmem
  have hdifference := unhedged_qty hunhedged
  rw [hnone] at hqty
  dsimp only at hqty
  omega

/-- Once heard of, the other leg shows nothing, and its late fill takes the place. -/
theorem Verified.sold_heard (h : Verified eng legs w) {r : Reading} {said : Bool}
    (hheard : w.heard = some (r, said)) {sale : Sale} (hmem : sale ∈ w.sales) :
    sale.qty + late_count r = sale.held := by
  obtain ⟨s, qty, hunhedged, hdoubtful⟩ := h.asked (by simp [hheard])
  obtain ⟨qty', hunhedged', hheld, hqty⟩ := h.sale sale hmem
  -- There is one unhedged leg, so the doubtful one is the other leg of the sale.
  obtain ⟨rfl, rfl⟩ := Prod.mk.inj (Option.some.inj (hunhedged.symm.trans hunhedged'))
  have hdifference := unhedged_qty hunhedged
  rw [hdoubtful.visible] at hdifference
  rw [hheard] at hqty
  dsimp only at hqty
  omega

/-- A sound recovery went by a reading of the venue's own, or was blocked. -/
theorem Verified.said_of_sound (h : Verified eng legs w) (hsound : UnwindsSound eng legs w)
    {r : Reading} {said : Bool} (hheard : w.heard = some (r, said))
    (hproven : verdict_of r.order ≠ .unproven) : said = true := by
  obtain ⟨s, qty, hunhedged, hdoubtful⟩ := h.asked (by simp [hheard])
  by_contra hsaid
  have hunsaid : ∀ r', w.heard ≠ some (r', true) := by
    intro r' heq
    rw [hheard] at heq
    exact hsaid (Prod.mk.inj (Option.some.inj heq)).2
  have hblocked := (hsound.blocked s qty hunhedged hdoubtful hunsaid).2
  rw [h.proven r said hheard hproven] at hblocked
  cases hblocked

/-- A sound recovery believes what is true. -/
theorem Verified.believes (h : Verified eng legs w) (hsound : UnwindsSound eng legs w) :
    BeliefsTrue eng legs w where
  undoubted := by
    intro hnone sale hmem
    have hexact := hsound.exact sale hmem
    have hsold := h.sold_unheard hnone hmem
    exact ⟨hsound.ended sale hmem, by omega⟩
  read := by
    intro r said hheard hproven
    refine ⟨h.said_of_sound hsound hheard hproven, fun sale hmem => ?_⟩
    have hexact := hsound.exact sale hmem
    have hsold := h.sold_heard hheard hmem
    exact ⟨hsound.ended sale hmem, by omega⟩

/-- A recovery that believes what is true is sound. -/
theorem Verified.sound (h : Verified eng legs w) (htrue : BeliefsTrue eng legs w) :
    UnwindsSound eng legs w := by
  cases hheard : w.heard with
  | none =>
    have hbelief := htrue.undoubted hheard
    refine ⟨fun sale hmem => (hbelief sale hmem).1, fun sale hmem => ?_,
      fun s qty hunhedged hdoubtful _ => h.unheard s qty hunhedged hdoubtful hheard⟩
    have hcount := (hbelief sale hmem).2
    have hsold := h.sold_unheard hheard hmem
    omega
  | some answer =>
    obtain ⟨r, said⟩ := answer
    by_cases hproven : verdict_of r.order = .unproven
    · -- Nothing is sold on an answer that proves nothing.
      obtain ⟨hnone, hblocked⟩ := h.unproven r said hheard hproven
      have hno : ∀ sale, sale ∉ w.sales := by
        intro sale hmem
        rw [hnone] at hmem
        cases hmem
      exact ⟨fun sale hmem => absurd hmem (hno sale), fun sale hmem => absurd hmem (hno sale),
        fun _ _ _ _ _ => ⟨hnone, hblocked⟩⟩
    · obtain ⟨hsaid, hbelief⟩ := htrue.read r said hheard hproven
      refine ⟨fun sale hmem => (hbelief sale hmem).1, fun sale hmem => ?_,
        fun _ _ _ _ hunsaid => ?_⟩
      · have hcount := (hbelief sale hmem).2
        have hsold := h.sold_heard hheard hmem
        omega
      · rw [hheard, hsaid] at hunsaid
        exact absurd rfl (hunsaid r)

/-- A recovery is sound exactly if what it believes is true. -/
theorem Verified.iff (h : Verified eng legs w) :
    UnwindsSound eng legs w ↔ BeliefsTrue eng legs w :=
  ⟨h.believes, h.sound⟩

end iff

/-! ## Section 3: Every recovery -/

/-- The calls that change nothing but the orders at their venues. -/
def Quiet : Call → Prop
  | .record_incident i => i.event_type ≠ "unwind_blocked_ambiguous_secondary"
  | .handle_one_leg_exposure .. => True
  | .upsert_order .. => True
  | .handle_db_failure .. => True
  | .release_trade .. => True
  | .auto_resolve_recovery_incidents .. => True
  | .mark_naked_leg_reconciled .. => True
  | _ => False

/-- The answers and the sales are the same. -/
structure SameAnswers (w w' : VerifyLog) : Prop where
  cancelled : w'.cancelled = w.cancelled
  heard : w'.heard = w.heard
  sales : w'.sales = w.sales
  blocked : w'.blocked = w.blocked

theorem SameAnswers.refl (w : VerifyLog) : SameAnswers w w := ⟨rfl, rfl, rfl, rfl⟩

theorem SameAnswers.trans {w w' w'' : VerifyLog} (h : SameAnswers w w') (h' : SameAnswers w' w'') :
    SameAnswers w w'' :=
  ⟨h'.cancelled.trans h.cancelled, h'.heard.trans h.heard, h'.sales.trans h.sales,
    h'.blocked.trans h.blocked⟩

section recovery

variable {eng : Engine} {arb_id : String} {opp : Opportunity} {w : VerifyLog}

theorem quiet_serve {c : Call} {a : Answer c} {w' : VerifyLog} (hc : Quiet c)
    (hs : verified.serve w c a w') : SameAnswers w w' := by
  obtain ⟨v, -, hs⟩ := hs
  cases c with
  | record_incident i =>
    have hother : (i.event_type = "unwind_blocked_ambiguous_secondary") = False :=
      eq_false hc
    have hw : w' = { w with
        truth := v
        blocked := w.blocked || (i.severity = .critical &&
          i.event_type = "unwind_blocked_ambiguous_secondary") } := hs
    rw [hw]
    refine ⟨rfl, rfl, rfl, ?_⟩
    simp [hother]
  | handle_one_leg_exposure | upsert_order | handle_db_failure | release_trade
  | auto_resolve_recovery_incidents | mark_naked_leg_reconciled =>
    have hw : w' = { w with truth := v } := hs
    rw [hw]
    exact ⟨rfl, rfl, rfl, rfl⟩
  | _ => exact hc.elim

/-- A program of such calls leaves the answers alone. -/
theorem quiet_keeps {α : Type} {p : Exe α} (hp : p.Calls Quiet) :
    wp verified p (fun _ w' => SameAnswers w w') w :=
  hp.keeps (fun _ _ _ _ hc hs h => h.trans (quiet_serve hc hs)) (.refl w)

theorem quiet_incident {i : Incident}
    (h : i.event_type ≠ "unwind_blocked_ambiguous_secondary") :
    (record_incident i).Calls Quiet :=
  calls_send.2 h

theorem announce_exposure_quiet {leg_yes leg_no : Leg} :
    (announce_exposure eng arb_id opp leg_yes leg_no).Calls Quiet := by
  have one_leg_text : "one_leg_exposure" ≠ "unwind_blocked_ambiguous_secondary" := by decide
  have empty_text : "" ≠ "unwind_blocked_ambiguous_secondary" := by decide
  refine announce_exposure_calls ?_ fun _ _ _ => trivial
  -- Neither kind of incident is that of a blocked unwind.
  intro i hkind
  show i.event_type ≠ "unwind_blocked_ambiguous_secondary"
  rcases hkind with hkind | hkind
  · rw [hkind]
    exact one_leg_text
  · rw [hkind]
    exact empty_text

/-- One answer to a cancel is noted, the rest stays. -/
structure Cancels (s : Side) (answer : Bool) (w w' : VerifyLog) : Prop where
  cancelled : w'.cancelled = Function.update w.cancelled s answer
  heard : w'.heard = w.heard
  sales : w'.sales = w.sales
  blocked : w'.blocked = w.blocked

theorem Cancels.none {s : Side} (h : w.cancelled s = false) : Cancels s false w w := by
  refine ⟨?_, rfl, rfl, rfl⟩
  rw [← h, Function.update_eq_self]

theorem Cancels.same {s : Side} {answer : Bool} {w₁ w₂ : VerifyLog} (h : Cancels s answer w w₁)
    (hsame : SameAnswers w₁ w₂) : Cancels s answer w w₂ :=
  ⟨hsame.cancelled.trans h.cancelled, hsame.heard.trans h.heard, hsame.sales.trans h.sales,
    hsame.blocked.trans h.blocked⟩

/-- One turn of the cancel loop. -/
theorem cancel_open_leg_cancels {leg : Leg} (h : w.cancelled leg.side = false) :
    wp verified (cancel_open_leg eng arb_id opp leg)
      (fun r w' => ∃ answer, Cancels leg.side answer w w' ∧ r.2 = after_cancel eng answer leg) w := by
  have hdispatch : wp verified (dispatch_cancel eng arb_id leg)
      (fun r w' => Cancels leg.side r.1 w w' ∧
        r.2 = if r.1 ∧ eng.has_store then { leg with status := .cancelled } else leg) w := by
    unfold dispatch_cancel
    cases eng.adapters leg.platform with
    | none => exact wp_pure.2 ⟨.none h, by simp⟩
    | some _ =>
      -- the venue is asked once; what is saved of it afterwards is no answer of a venue
      refine wp_bind.2 (wp_send.2 fun answer w₁ hs => ?_)
      have h₁ : Cancels leg.side (cancelled_ok answer) w w₁ := by
        obtain ⟨v, -, rfl⟩ := hs
        exact ⟨rfl, rfl, rfl, rfl⟩
      refine wp_ite.2 ⟨fun hstore => ?_, fun hstore => ?_⟩
      · rw [hstore.1] at h₁
        refine wp_bind.2 (wp_send.2 fun saved w₂ hs => ?_)
        have h₂ : SameAnswers w₁ w₂ := quiet_serve (c := .upsert_order ..) trivial hs
        cases saved with
        | ok _ => exact wp_pure.2 ⟨h₁.same h₂, by simp [hstore.2]⟩
        | error _ =>
          refine wp_bind.2 (wp_send.2 fun _ w₃ hs => ?_)
          have h₃ : SameAnswers w₂ w₃ := quiet_serve (c := .handle_db_failure ..) trivial hs
          exact wp_pure.2 ⟨h₁.same (h₂.trans h₃), by simp [hstore.2]⟩
      · refine wp_pure.2 ⟨h₁, ?_⟩
        rw [if_neg hstore]
  unfold cancel_open_leg
  rw [wp_ite]
  constructor
  · intro hopen
    refine wp_bind.2 (wp_mono hdispatch ?_)
    rintro r w₁ ⟨hcancels, hleft⟩
    have hrelease : (release_unfilled opp leg r.1).Calls Quiet :=
      release_unfilled_calls fun _ _ _ => trivial
    refine wp_bind.2 (wp_mono (quiet_keeps hrelease) fun _ w₂ hsame => wp_pure.2 ?_)
    refine ⟨r.1, hcancels.same hsame, ?_⟩
    simp [after_cancel, hopen, hleft]
  · intro hclosed
    refine wp_pure.2 ⟨false, .none h, ?_⟩
    simp [after_cancel, hclosed]

/-- Nothing is read and nothing is sold. -/
structure Unread (w : VerifyLog) : Prop where
  heard : w.heard = none
  sales : w.sales = []
  blocked : w.blocked = false

theorem Unread.same {w' : VerifyLog} (h : Unread w) (hsame : SameAnswers w w') : Unread w' :=
  ⟨hsame.heard.trans h.heard, hsame.sales.trans h.sales, hsame.blocked.trans h.blocked⟩

/-- What the verification of a counterpart ends with. -/
def Verifies (counterpart : Leg) (qty : ℕ) (target : Option ℕ) (w' : VerifyLog) : Prop :=
  (¬ doubtful counterpart ∧ w'.heard = none ∧ w'.blocked = false ∧ target = some qty) ∨
  (doubtful counterpart ∧ w'.blocked = true ∧ target = none ∧
    ∀ r said, w'.heard = some (r, said) → verdict_of r.order = .unproven) ∨
  (doubtful counterpart ∧ w'.blocked = false ∧ ∃ r said, w'.heard = some (r, said) ∧
    verdict_of r.order ≠ .unproven ∧
    target = if late_count r < qty then some (qty - late_count r) else none)

/-- The reading of a leg: none that proves anything, or the one it is judged by. -/
theorem verify_leg_dead_reads {leg : Leg} (hw : Unread w) :
    wp verified (verify_leg_dead eng leg) (fun v w' => w'.cancelled = w.cancelled ∧
      w'.sales = [] ∧ w'.blocked = false ∧
      ((v = (.unproven, leg) ∧ w'.heard = none) ∨
        ∃ r said, w'.heard = some (r, said) ∧ v = (verdict_of r.order, r.held leg))) w := by
  refine wp_verify_leg_dead ⟨rfl, hw.sales, hw.blocked, .inl ⟨rfl, hw.heard⟩⟩ fun answer w₁ hs => ?_
  obtain ⟨v, -, said, -, rfl⟩ := hs
  cases answer with
  | error _ => exact ⟨rfl, hw.sales, hw.blocked, .inl ⟨rfl, hw.heard⟩⟩
  | ok r => exact ⟨rfl, hw.sales, hw.blocked, .inr ⟨r, said, rfl, rfl⟩⟩

/-- An incident raised in the verification. -/
theorem record_incident_raises {i : Incident} :
    wp verified (record_incident i) (fun _ w' => w'.cancelled = w.cancelled ∧
      w'.heard = w.heard ∧ w'.sales = w.sales ∧
      w'.blocked = (w.blocked || (i.severity = .critical &&
        i.event_type = "unwind_blocked_ambiguous_secondary"))) w := by
  refine wp_send.2 fun _ w' hs => ?_
  obtain ⟨v, -, rfl⟩ := hs
  exact ⟨rfl, rfl, rfl, rfl⟩

/-- Verify before unwind: blocked, or what is left to sell. -/
theorem verify_before_unwind_verifies {unhedged_leg counterpart : Leg} {qty : ℕ}
    (hw : Unread w) (hqty : 0 < qty) :
    wp verified (verify_before_unwind eng arb_id opp unhedged_leg counterpart qty)
      (fun r w' => w'.cancelled = w.cancelled ∧ w'.sales = [] ∧
        Verifies counterpart qty r.1 w') w := by
  unfold verify_before_unwind
  refine wp_ite.2 ⟨fun hdoubtful => ?_, fun hsure => ?_⟩
  · refine wp_bind.2 (wp_mono (verify_leg_dead_reads hw) ?_)
    rintro v w₁ ⟨hcancelled, hsales, hblocked, hread⟩
    obtain ⟨verdict, left⟩ := v
    cases verdict with
    -- the sell is blocked, and the critical incident says so
    | unproven =>
      refine wp_bind.2 (wp_mono record_incident_raises ?_)
      rintro _ w₂ ⟨hcancelled₂, hheard₂, hsales₂, hblocked₂⟩
      refine wp_pure.2 ⟨hcancelled₂.trans hcancelled, hsales₂.trans hsales, .inr (.inl ?_)⟩
      refine ⟨hdoubtful, ?_, rfl, ?_⟩
      · rw [hblocked₂]
        simp
      · intro r said hheard
        rw [hheard₂] at hheard
        rcases hread with ⟨-, hnone⟩ | ⟨r', said', hsome, hverdict⟩
        · rw [hnone] at hheard
          cases hheard
        · rw [hsome] at hheard
          obtain ⟨rfl, rfl⟩ := Prod.mk.inj (Option.some.inj hheard)
          exact (Prod.mk.inj hverdict).1.symm
    -- the leg carries the late count from here on, and only the rest is sold
    | late_fill =>
      obtain ⟨r, said, hheard, hverdict⟩ := hread.resolve_left (by simp)
      obtain ⟨hlate, hleft⟩ := Prod.mk.inj hverdict
      have hproven : verdict_of r.order ≠ .unproven := by
        rw [← hlate]
        decide
      have hcount : left.fill_qty = late_count r := by
        rw [hleft]
        exact r.held_fill_qty hdoubtful.1
      -- a late fill of the whole quantity pairs the position: nothing is left to sell
      refine wp_ite.2 ⟨fun hpaired => ?_, fun hpaired => ?_⟩
      · refine wp_bind.2 (wp_mono record_incident_raises ?_)
        rintro _ w₂ ⟨hcancelled₂, hheard₂, hsales₂, hblocked₂⟩
        refine wp_pure.2 ⟨hcancelled₂.trans hcancelled, hsales₂.trans hsales, .inr (.inr ?_)⟩
        refine ⟨hdoubtful, ?_, r, said, hheard₂.trans hheard, hproven, ?_⟩
        · rw [hblocked₂, hblocked]
          rfl
        · rw [if_neg]
          rw [← hcount]
          omega
      · refine wp_pure.2 ⟨hcancelled, hsales, .inr (.inr ?_)⟩
        refine ⟨hdoubtful, hblocked, r, said, hheard, hproven, ?_⟩
        rw [hcount] at hpaired
        rw [if_pos (by omega), hcount]
    -- nothing filled late: the whole quantity stays to be sold
    | dead =>
      obtain ⟨r, said, hheard, hverdict⟩ := hread.resolve_left (by simp)
      obtain ⟨hdead, -⟩ := Prod.mk.inj hverdict
      have hproven : verdict_of r.order ≠ .unproven := by
        rw [← hdead]
        decide
      have hcount : late_count r = 0 := by
        unfold late_count
        rw [verdict_of_dead hdead.symm, ite_self]
      refine wp_pure.2 ⟨hcancelled, hsales, .inr (.inr ?_)⟩
      refine ⟨hdoubtful, hblocked, r, said, hheard, hproven, ?_⟩
      rw [hcount, if_pos hqty, Nat.sub_zero]
  · exact wp_pure.2 ⟨rfl, hw.sales, .inl ⟨hsure, hw.heard, hw.blocked, rfl⟩⟩

/-- The unwind sells what it is given, once, where the venue can be sold at. -/
theorem unwind_sells {filled_leg : Leg} {target : ℕ} :
    wp verified (unwind eng arb_id opp filled_leg target) (fun _ w' =>
      w'.cancelled = w.cancelled ∧ w'.heard = w.heard ∧ w'.blocked = w.blocked ∧
      (w'.sales = w.sales ∨ ∃ other,
        w'.sales = w.sales ++ [⟨filled_leg.side, target, filled_leg.fill_qty, other⟩])) w := by
  unfold unwind
  refine wp_ite.2 ⟨fun _ => ?_, fun _ => wp_pure.2 ⟨rfl, rfl, rfl, .inl rfl⟩⟩
  refine wp_bind.2 (wp_send.2 fun answer w₁ hs => ?_)
  obtain ⟨v, -, rfl⟩ := hs
  -- whatever follows the sale is bookkeeping
  have hafter : ∀ {α : Type} {p : Exe α} {w₁ : VerifyLog}, p.Calls Quiet →
      w₁.cancelled = w.cancelled → w₁.heard = w.heard → w₁.blocked = w.blocked →
      w₁.sales = w.sales ++ [⟨filled_leg.side, target, filled_leg.fill_qty,
        v filled_leg.side.other⟩] →
      wp verified p (fun _ w' => w'.cancelled = w.cancelled ∧ w'.heard = w.heard ∧
        w'.blocked = w.blocked ∧ (w'.sales = w.sales ∨ ∃ other,
          w'.sales = w.sales ++ [⟨filled_leg.side, target, filled_leg.fill_qty, other⟩])) w₁ := by
    intro α p w₁ hquiet hcancelled hheard hblocked hsales
    refine wp_mono (quiet_keeps hquiet) fun _ w' hsame => ?_
    exact ⟨hsame.cancelled.trans hcancelled, hsame.heard.trans hheard,
      hsame.blocked.trans hblocked, .inr ⟨_, hsame.sales.trans hsales⟩⟩
  have exception_text : "auto_unwind_exception" ≠ "unwind_blocked_ambiguous_secondary" := by
    decide
  have unwind_text : "auto_unwind" ≠ "unwind_blocked_ambiguous_secondary" := by decide
  cases answer with
  | error _ =>
    refine hafter ?_ ?_ ?_ ?_ ?_
    · exact .bind (calls_send.2 trivial) fun _ =>
        .bind (quiet_incident exception_text) fun _ => calls_pure _
    all_goals rfl
  | ok unwind_order =>
    refine hafter ?_ ?_ ?_ ?_ ?_
    · simp only [calls_ite]
      constructor
      · intro _
        apply Prog.Calls.bind (calls_send.2 trivial)
        intro _
        refine Prog.Calls.bind (quiet_incident unwind_text) fun _ => ?_
        apply Prog.Calls.bind (calls_send.2 trivial)
        intro _
        exact (reconcile_naked_leg_marks fun _ => trivial).bind fun _ => calls_pure _
      · intro _
        exact calls_pure _
    all_goals rfl

/-- How closing the exposure of a leg ends. -/
structure Closed (unhedged_leg counterpart : Leg) (qty : ℕ) (w : VerifyLog) : Prop where
  sale : ∀ sale ∈ w.sales, sale.side = unhedged_leg.side ∧ sale.held = unhedged_leg.fill_qty ∧
    sale.qty + (match w.heard with | none => 0 | some (r, _) => late_count r) = qty
  asked : w.heard ≠ none → doubtful counterpart
  unheard : doubtful counterpart → w.heard = none → w.sales = [] ∧ w.blocked = true
  unproven : ∀ r said, w.heard = some (r, said) → verdict_of r.order = .unproven →
    w.sales = [] ∧ w.blocked = true
  proven : ∀ r said, w.heard = some (r, said) → verdict_of r.order ≠ .unproven →
    w.blocked = false

/-- A verification that leaves nothing to sell. -/
theorem Verifies.closed {unhedged_leg counterpart : Leg} {qty : ℕ}
    (h : Verifies counterpart qty none w) (hsales : w.sales = []) :
    Closed unhedged_leg counterpart qty w := by
  have hnone : ∀ sale ∈ w.sales, sale.side = unhedged_leg.side ∧
      sale.held = unhedged_leg.fill_qty ∧
      sale.qty + (match w.heard with | none => 0 | some (r, _) => late_count r) = qty := by
    intro sale hmem
    rw [hsales] at hmem
    cases hmem
  -- without a doubt there would be a target: only the other two endings remain
  rcases h with ⟨-, -, -, htarget⟩ | ⟨hdoubtful, hblocked, -, hunproven⟩ |
    ⟨hdoubtful, hblocked, r, said, hheard, hproven, -⟩
  · cases htarget
  · refine ⟨hnone, fun _ => hdoubtful, fun _ _ => ⟨hsales, hblocked⟩,
      fun _ _ _ _ => ⟨hsales, hblocked⟩, ?_⟩
    intro r said hheard hproven
    exact absurd (hunproven r said hheard) hproven
  · refine ⟨hnone, fun _ => hdoubtful, ?_, ?_, fun _ _ _ _ => hblocked⟩
    · intro _ hno
      rw [hheard] at hno
      cases hno
    · intro r' said' hheard' hunproven
      rw [hheard] at hheard'
      obtain ⟨rfl, rfl⟩ := Prod.mk.inj (Option.some.inj hheard')
      exact absurd hunproven hproven

/-- A verification that leaves `target` to sell, and the sale after it. -/
theorem Verifies.sold {unhedged_leg counterpart : Leg} {qty target : ℕ} {w' : VerifyLog}
    (h : Verifies counterpart qty (some target) w) (hheard : w'.heard = w.heard)
    (hblocked : w'.blocked = w.blocked) (hsales : ∀ sale ∈ w'.sales,
      sale.side = unhedged_leg.side ∧ sale.held = unhedged_leg.fill_qty ∧ sale.qty = target) :
    Closed unhedged_leg counterpart qty w' := by
  -- one case for each way the verification ends; a blocked one leaves no target
  rcases h with ⟨hsure, hnone, hunblocked, htarget⟩ | ⟨-, -, htarget, -⟩ |
    ⟨hdoubtful, hunblocked, r, said, hsome, hproven, htarget⟩
  · have hqty : target = qty := Option.some.inj htarget
    rw [← hheard] at hnone
    refine ⟨?_, fun hno => absurd hnone hno, fun hdoubtful => absurd hdoubtful hsure, ?_, ?_⟩
    · intro sale hmem
      obtain ⟨hside, hheld, htarget⟩ := hsales sale hmem
      rw [hnone]
      exact ⟨hside, hheld, htarget.trans hqty⟩
    · intro r said hsome
      rw [hnone] at hsome
      cases hsome
    · intro r said hsome
      rw [hnone] at hsome
      cases hsome
  · cases htarget
  · rw [← hheard] at hsome
    rw [← hblocked] at hunblocked
    split_ifs at htarget with hlt
    have hqty : target = qty - late_count r := Option.some.inj htarget
    refine ⟨?_, fun _ => hdoubtful, ?_, ?_, fun _ _ _ _ => hunblocked⟩
    · intro sale hmem
      obtain ⟨hside, hheld, htarget⟩ := hsales sale hmem
      rw [hsome]
      refine ⟨hside, hheld, ?_⟩
      dsimp only
      omega
    · intro _ hno
      rw [hsome] at hno
      cases hno
    · intro r' said' hsome' hunproven
      rw [hsome] at hsome'
      obtain ⟨rfl, rfl⟩ := Prod.mk.inj (Option.some.inj hsome')
      exact absurd hunproven hproven

theorem close_exposure_closes {unhedged_leg counterpart : Leg} {qty : ℕ} (hw : Unread w)
    (hqty : 0 < qty) :
    wp verified (close_exposure eng arb_id opp unhedged_leg counterpart qty)
      (fun _ w' => w'.cancelled = w.cancelled ∧ Closed unhedged_leg counterpart qty w') w := by
  unfold close_exposure
  refine wp_bind.2 (wp_mono (verify_before_unwind_verifies hw hqty) ?_)
  rintro ⟨target, notes, left⟩ w₁ ⟨hcancelled, hsales, hverifies⟩
  cases target with
  | none => exact wp_pure.2 ⟨hcancelled, hverifies.closed hsales⟩
  | some target =>
    refine wp_bind.2 (wp_mono unwind_sells ?_)
    rintro r w₂ ⟨hcancelled₂, hheard₂, hblocked₂, hsales₂⟩
    refine wp_pure.2 ⟨hcancelled₂.trans hcancelled, hverifies.sold hheard₂ hblocked₂ ?_⟩
    intro sale hmem
    rw [hsales] at hsales₂
    rcases hsales₂ with hnone | ⟨other, hone⟩
    · rw [hnone] at hmem
      cases hmem
    · rw [hone, List.nil_append] at hmem
      obtain rfl := List.mem_singleton.1 hmem
      exact ⟨rfl, rfl, rfl⟩

/-- Closing the exposure of the unhedged leg is what a recovery does. -/
theorem Closed.verified {legs : LegPair} {s : Side} {qty : ℕ}
    (hunhedged : unhedged (left_leg eng legs w .yes) (left_leg eng legs w .no) = some (s, qty))
    (h : Closed (left_leg eng legs w s) (left_leg eng legs w s.other) qty w) :
    Verified eng legs w where
  sale := by
    intro sale hmem
    obtain ⟨hside, hheld, hqty⟩ := h.sale sale hmem
    have hs : sale.side = s := by
      rw [hside]
      exact (after_cancel_side ..).trans (legs.leg_side s)
    rw [hs]
    exact ⟨qty, hunhedged, hheld, hqty⟩
  asked := fun hheard => ⟨s, qty, hunhedged, h.asked hheard⟩
  unheard := by
    intro s' qty' hunhedged' hdoubtful hheard
    obtain ⟨rfl, rfl⟩ := Prod.mk.inj (Option.some.inj (hunhedged.symm.trans hunhedged'))
    exact h.unheard hdoubtful hheard
  unproven := h.unproven
  proven := h.proven

/-- Nothing is unhedged, nothing happens. -/
theorem Unread.verified {legs : LegPair} (hw : Unread w)
    (hhedged : unhedged (left_leg eng legs w .yes) (left_leg eng legs w .no) = none) :
    Verified eng legs w where
  sale := by
    intro sale hmem
    rw [hw.sales] at hmem
    cases hmem
  asked := fun hheard => absurd hw.heard hheard
  unheard := by
    intro s qty hunhedged
    rw [hhedged] at hunhedged
    cases hunhedged
  unproven := by
    intro r said hheard
    rw [hw.heard] at hheard
    cases hheard
  proven := by
    intro r said hheard
    rw [hw.heard] at hheard
    cases hheard

/-- The recovery after the cancel loop. -/
theorem close_unhedged_verified {legs : LegPair} {notes : List String} (hw : Unread w) :
    wp verified (close_unhedged eng arb_id opp notes (left_leg eng legs w .yes)
      (left_leg eng legs w .no)) (fun _ w' => Verified eng legs w') w := by
  refine wp_close_unhedged (left_leg eng legs w) ?_ ?_
  · intro hnone _ _
    exact hw.verified hnone
  · intro s qty hsome
    obtain ⟨hlt, hqty⟩ := unhedged_eq_some (left_leg eng legs w) hsome
    refine wp_mono (close_exposure_closes hw (by omega)) fun r w' hclosed _ _ => ?_
    obtain ⟨hcancelled, hclosed⟩ := hclosed
    -- nothing is cancelled any more: the legs are the ones the verdict was on
    have hleft : left_leg eng legs w' = left_leg eng legs w := by
      funext s
      unfold left_leg
      rw [hcancelled]
    rw [← hleft] at hsome hclosed
    exact Closed.verified hsome hclosed

/-- Every recovery. -/
theorem recover_one_leg_risk_verified {legs : LegPair} (truth : Side → VenueOrder) :
    wp verified (recover_one_leg_risk eng arb_id opp legs.yes legs.no)
      (fun _ w => Verified eng legs w) (.start truth) := by
  unfold recover_one_leg_risk
  refine wp_bind.2 (wp_mono (quiet_keeps announce_exposure_quiet) fun _ w₁ h₁ => ?_)
  have hw₁ : Unread w₁ := Unread.same ⟨rfl, rfl, rfl⟩ h₁
  have hyes : w₁.cancelled legs.yes.side = false := by
    rw [h₁.cancelled]
    rfl
  refine wp_bind.2 (wp_mono (cancel_open_leg_cancels hyes) ?_)
  rintro ry w₂ ⟨yes_ok, h₂, hleft_yes⟩
  rw [legs.yes_side] at h₂
  have hno : w₂.cancelled legs.no.side = false := by
    rw [h₂.cancelled, legs.no_side, Function.update_of_ne (by decide), h₁.cancelled]
    rfl
  refine wp_bind.2 (wp_mono (cancel_open_leg_cancels hno) ?_)
  rintro rn w₃ ⟨no_ok, h₃, hleft_no⟩
  rw [legs.no_side] at h₃
  have hw₃ : Unread w₃ :=
    ⟨h₃.heard.trans (h₂.heard.trans hw₁.heard), h₃.sales.trans (h₂.sales.trans hw₁.sales),
      h₃.blocked.trans (h₂.blocked.trans hw₁.blocked)⟩
  -- the legs the second half works on are the ones the cancel loop handed over
  have hyes_left : left_leg eng legs w₃ .yes = ry.2 := by
    unfold left_leg
    rw [h₃.cancelled, Function.update_of_ne (by decide), h₂.cancelled, Function.update_self,
      hleft_yes]
    rfl
  have hno_left : left_leg eng legs w₃ .no = rn.2 := by
    unfold left_leg
    rw [h₃.cancelled, Function.update_self, hleft_no]
    rfl
  have hspec : wp verified (close_unhedged eng arb_id opp (ry.1 ++ rn.1)
      (left_leg eng legs w₃ .yes) (left_leg eng legs w₃ .no)) (fun _ w => Verified eng legs w) w₃ :=
    close_unhedged_verified hw₃
  rw [hyes_left, hno_left] at hspec
  exact hspec

end recovery

/-- Ten YES contracts filled, and a NO order that a poll returned from a rate limit. -/
def against_rate_limited : LegPair where
  yes := ten_filled
  no := Kalshi.get_order true (.ok rate_limited) resting_on_kalshi
  yes_side := ten_filled_side
  no_side := rfl

/-- The ten contracts are filled, and `v` is true of the NO order. -/
def beside (v : VenueOrder) : Side → VenueOrder
  | .yes => ⟨true, 10⟩
  | .no => v

/-- All ten contracts are sold, whatever became of the NO order. -/
def ten_bought_back (v : VenueOrder) : VerifyLog :=
  { VerifyLog.start (beside v) with sales := [⟨.yes, 10, 10, v⟩] }

/-- The run on these legs. -/
theorem against_rate_limited_run (v : VenueOrder) : ∃ r, Exec verified
    (recover_one_leg_risk (kalshi_engine true) "ARB-000001" ten_contracts
      against_rate_limited.yes against_rate_limited.no) (.start (beside v)) r (ten_bought_back v) := by
  have hstill : ∀ w : VerifyLog, ∀ s, (w.truth s).Moves (w.truth s) := fun _ _ => .refl _
  have hincident : ∀ (i : Incident) (w : VerifyLog), w.blocked = false →
      i.event_type ≠ "unwind_blocked_ambiguous_secondary" →
      verified.serve w (.record_incident i) () w := by
    intro i w hblocked htext
    refine ⟨w.truth, hstill w, ?_⟩
    show w = { w with blocked := w.blocked || (_ && _) }
    rw [decide_eq_false htext, Bool.and_false, Bool.or_false]
  -- the exposure is announced, no leg is open for a cancel, and none is doubtful
  have hannounce : Exec verified (announce_exposure (kalshi_engine true) "ARB-000001"
      ten_contracts against_rate_limited.yes against_rate_limited.no) (.start (beside v)) ()
      (.start (beside v)) := by
    have hone : confirmedFilled against_rate_limited.yes ∧
        ¬ confirmedFilled against_rate_limited.no := by decide
    unfold announce_exposure
    rw [if_pos hone]
    exact .call (hincident _ _ rfl (by decide)) (.ret _ _)
  have hclosed : ∀ leg : Leg, ¬ leg.status.mayStillFill → ∀ w, Exec verified
      (cancel_open_leg (kalshi_engine true) "ARB-000001" ten_contracts leg) w ([], leg) w := by
    intro leg hover w
    unfold cancel_open_leg
    rw [if_neg hover]
    exact .ret _ _
  have hverify : Exec verified (verify_before_unwind (kalshi_engine true) "ARB-000001"
      ten_contracts against_rate_limited.yes against_rate_limited.no 10) (.start (beside v))
      (some 10, [], against_rate_limited.no) (.start (beside v)) := by
    have hsure : ¬ (against_rate_limited.no.fill_qty = 0 ∧ possiblyLive against_rate_limited.no) := by
      decide +kernel
    unfold verify_before_unwind
    rw [if_neg hsure]
    exact .ret _ _
  have hunwind : ∃ notes, Exec verified (unwind (kalshi_engine true) "ARB-000001" ten_contracts
      against_rate_limited.yes 10) (.start (beside v)) (notes, 0) (ten_bought_back v) := by
    have hsell : can_sell (kalshi_engine true) against_rate_limited.yes = true := rfl
    have hcall : verified.serve (.start (beside v))
        (.smart_unwind "ARB-000001" against_rate_limited.yes 10) (.error "timeout") (ten_bought_back v) :=
      ⟨beside v, fun _ => .refl _, rfl⟩
    have hrelease : verified.serve (ten_bought_back v)
        (.release_trade "mkt-1" ((10 : ℕ) * (2 / 5)) (.single "kalshi")) () (ten_bought_back v) :=
      ⟨beside v, fun _ => .refl _, rfl⟩
    unfold unwind
    rw [if_pos hsell]
    exact ⟨_, .call hcall (.call hrelease (.call (hincident _ _ rfl (by decide)) (.ret _ _)))⟩
  obtain ⟨notes, hunwind⟩ := hunwind
  have hexposed : unhedged against_rate_limited.yes against_rate_limited.no = some (.yes, 10) := by
    decide
  have hclose : Exec verified (close_exposure (kalshi_engine true) "ARB-000001" ten_contracts
      against_rate_limited.yes against_rate_limited.no 10) (.start (beside v))
      ([] ++ notes, 0, against_rate_limited.no) (ten_bought_back v) :=
    exec_bind.2 ⟨_, _, hverify, exec_bind.2 ⟨_, _, hunwind, .ret _ _⟩⟩
  have hunhedged : ∃ r, Exec verified (close_unhedged (kalshi_engine true) "ARB-000001"
      ten_contracts [] against_rate_limited.yes against_rate_limited.no) (.start (beside v)) r
      (ten_bought_back v) := by
    unfold close_unhedged
    rw [hexposed]
    exact ⟨_, exec_bind.2 ⟨_, _, hclose, .ret _ _⟩⟩
  obtain ⟨r, hunhedged⟩ := hunhedged
  exact ⟨r, exec_bind.2 ⟨_, _, hannounce, exec_bind.2 ⟨_, _, hclosed _ (by decide) _,
    exec_bind.2 ⟨_, _, hclosed _ (by decide) _, hunhedged⟩⟩⟩⟩

end Execution
