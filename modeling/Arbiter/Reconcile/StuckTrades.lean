import Mathlib.Algebra.Order.BigOperators.Group.List
import Arbiter.Reconcile.Desk

/-! # Recovery of Stuck Trades

  `recover_stuck_trades` looks every leg of an arb that hangs up again, writes the legs
  whose status changed, and derives the status of the arb from its legs. The derivation
  goes by the statuses alone; only a leg `filled` with nothing is told from one that
  holds contracts.

  The main result says on which arbs a pass loses no fill.
-/

namespace Reconcile

open Effect Execution

/-! ## Section 1: The status of an arb -/

/-- `_derive_arb_status_from_legs`: a leg filled with no contracts counts as failed. -/
def effective_status (leg : Order ℚ) : OrderStatus :=
  if leg.status = .filled ∧ leg.fill_qty ≤ 0 then .failed else leg.status

/-- The status by the effective statuses of the legs, empty where it is left alone. The
    members of `_TERMINAL_LEG_STATUSES` are those under which an order cannot fill. -/
def derive_from_effective (effective : List OrderStatus) : String :=
  let filled := effective.count .filled
  if effective.length < 2 then
    if 0 < filled then ""
    else if effective ≠ [] ∧ ∀ s ∈ effective, ¬ s.mayStillFill then "failed"
    else ""
  else if ∃ s ∈ effective, s.mayStillFill then ""
  else if filled = effective.length ∧ 0 < filled then "filled"
  else if filled = 0 then "failed"
  else if .filled ∈ effective then "recovering"
  else "failed"

/-- `_derive_arb_status_from_legs`. -/
def derive_arb_status_from_legs (legs : List (Order ℚ)) : String :=
  derive_from_effective (legs.map effective_status)

/-! ## Section 2: The pass -/

/-- One entry of `leg_updates`. -/
structure LegUpdate where
  order_id : String
  platform : String
  side : Side
  old_status : OrderStatus
  new_status : OrderStatus
  note : String

/-- `StuckTradeOutcome`. -/
structure StuckTradeOutcome where
  arb_id : String
  original_status : String
  new_status : String
  leg_updates : List LegUpdate
  error : String

/-- `_query_leg_state`: the leg as it stands, and a note. -/
def query_leg_state (adapter : Bool) (order : Order ℚ) : Rec (Order ℚ × String) :=
  if is_synthetic_placeholder_order_id order.order_id then
    if order.status.mayStillFill then
      return ({ order with status := .aborted, error := placeholder_error order.error },
        "local synthetic placeholder terminalized without venue lookup")
    else return (order, "local synthetic placeholder; no venue lookup")
  else if adapter = false then return (order, "no adapter for platform=" ++ order.platform)
  else do
    let lookup ← get_order order.platform order
    -- the adapter may write into the order it is given, and then raise
    let order := lookup.held.on order
    match lookup.returned with
    | .error exc =>
        return ({ order with status := .failed, error := "orphaned during recovery: " ++ exc },
          "get_order raised: " ++ exc)
    | .ok new =>
        let fresh := (lookup.fresh new).on order
        if not_found fresh.status fresh.error then return (fresh, "venue reports order not found")
        else if fresh.status = order.status then return (fresh, "no change")
        else return (fresh, order.status.value ++ " -> " ++ fresh.status.value)

/-- One leg: looked up, and written when its status changed. Also what went wrong. -/
def recover_leg (adapters : String → Bool) (arb_id : String) (leg : String × OrderRow) :
    Rec (Order ℚ × LegUpdate × Option String) := do
  let order := leg.2.to_order leg.1
  let (fresh, note) ← query_leg_state (adapters order.platform) order
  let update : LegUpdate :=
    { order_id := order.order_id
      platform := order.platform
      side := order.side
      old_status := order.status
      new_status := fresh.status
      note := note }
  if fresh.status ≠ order.status then
    match ← upsert_order fresh arb_id with
    | .ok _ => return (fresh, update, none)
    | .error exc => return (fresh, update, some ("upsert_order failed: " ++ exc))
  else return (fresh, update, none)

/-- Every leg in turn. -/
def recover_legs (adapters : String → Bool) (arb_id : String) :
    List (String × OrderRow) → Rec (List (Order ℚ × LegUpdate × Option String))
  | [] => return []
  | leg :: rest => do
      let recovered ← recover_leg adapters arb_id leg
      let later ← recover_legs adapters arb_id rest
      return recovered :: later

/-- `legs=` of the note: the statuses, or `none`. -/
def leg_statuses_text (legs : List (Order ℚ)) : String :=
  if legs = [] then "none" else ",".intercalate (legs.map (·.status.value))

/-- One stuck arb. The error kept is the last one. -/
def recover_arb (adapters : String → Bool) (arb : StuckArb) : Rec StuckTradeOutcome := do
  let recovered ← recover_legs adapters arb.arb_id arb.legs
  let fresh_legs := recovered.map (·.1)
  let error := ((recovered.filterMap fun leg => leg.2.2).getLast?).getD ""
  -- empty where the legs do not tell a status
  let derived := derive_arb_status_from_legs fresh_legs
  let note := "recovery_check: original=" ++ arb.status ++ " derived=" ++
    (if derived = "" then "unchanged" else derived) ++ " legs=" ++ leg_statuses_text fresh_legs
  let outcome : StuckTradeOutcome :=
    { arb_id := arb.arb_id
      original_status := arb.status
      new_status := if derived = "" then arb.status else derived
      leg_updates := recovered.map fun leg => leg.2.1
      error := error }
  let now_ts ← Prog.send Call.now
  let note_line := "[" ++ toString now_ts ++ "] " ++ note
  match ← Prog.send (Call.persist_outcome arb.arb_id
      (if derived ≠ arb.status then derived else "") note_line note) with
  | .ok _ => return outcome
  | .error exc => return { outcome with error := "recovery raised: " ++ exc }

/-- The stuck arbs in turn. -/
def recover_arbs (adapters : String → Bool) : List StuckArb → Rec (List StuckTradeOutcome)
  | [] => return []
  | arb :: rest => do
      let outcome ← recover_arb adapters arb
      let later ← recover_arbs adapters rest
      return outcome :: later

/-- `recover_stuck_trades`. -/
def recover_stuck_trades (adapters : String → Bool) : Rec (List StuckTradeOutcome) := do
  match ← Prog.send Call.list_stuck_arbs with
  | .error _ => return []
  | .ok stuck => recover_arbs adapters stuck

/-! ## Section 3: What a pass hears and writes -/

/-- A leg as it stands once it was looked up. -/
def heard (adapters : String → Bool) (venue : String → Lookup) (leg : String × OrderRow) :
    Report :=
  if is_synthetic_placeholder_order_id leg.1 then
    if leg.2.status.mayStillFill then
      ⟨.aborted, leg.2.fill_price, leg.2.fill_qty, placeholder_error leg.2.error⟩
    else ⟨leg.2.status, leg.2.fill_price, leg.2.fill_qty, leg.2.error⟩
  else if adapters leg.2.platform = false then
    ⟨leg.2.status, leg.2.fill_price, leg.2.fill_qty, leg.2.error⟩
  else
    match (venue leg.1).returned with
    | .error exc =>
        { (venue leg.1).held with
          status := .failed, error := "orphaned during recovery: " ++ exc }
    | .ok new => (venue leg.1).fresh new

/-- The database takes the write of this order. -/
def Refusals.takes (refused : Refusals) (arb_id order_id : String) : Prop :=
  refused.order order_id = none ∧ (arb_id ≠ "" ∨ derive_arb_id order_id ≠ none)

instance (refused : Refusals) (arb_id order_id : String) :
    Decidable (refused.takes arb_id order_id) := by
  unfold Refusals.takes; infer_instance

/-- The row of a leg after the pass. -/
def recovered_row (adapters : String → Bool) (venue : String → Lookup) (refused : Refusals)
    (arb_id : String) (leg : String × OrderRow) : OrderRow :=
  if (heard adapters venue leg).status ≠ leg.2.status ∧ refused.takes arb_id leg.1 then
    (heard adapters venue leg).row leg.2
  else leg.2

/-- The legs of an arb as the pass hears of them. -/
def heard_legs (adapters : String → Bool) (venue : String → Lookup)
    (legs : List (String × OrderRow)) : List (Order ℚ) :=
  legs.map fun leg => (heard adapters venue leg).on (leg.2.to_order leg.1)

section run

variable {adapters : String → Bool} {venue : String → Lookup} {old : String → Prop}
  {refused : Refusals} {s : Store} {arb_id : String} {leg : String × OrderRow}

/-- A query leaves the store alone. -/
theorem query_leg_state_hears :
    wp (desk venue old refused)
      (query_leg_state (adapters leg.2.platform) (leg.2.to_order leg.1))
      (fun r s' => r.1 = (heard adapters venue leg).on (leg.2.to_order leg.1) ∧ s' = s) s := by
  unfold query_leg_state heard
  -- a placeholder was never at a venue: it is not looked up, and an open one is ABORTED
  by_cases hplaceholder : is_synthetic_placeholder_order_id leg.1
  · have hplaceholder' : is_synthetic_placeholder_order_id (leg.2.to_order leg.1).order_id :=
      hplaceholder
    rw [if_pos hplaceholder, if_pos hplaceholder']
    by_cases hlive : leg.2.status.mayStillFill
    · have hlive' : (leg.2.to_order leg.1).status.mayStillFill := hlive
      rw [if_pos hlive, if_pos hlive']
      exact wp_pure.2 ⟨rfl, rfl⟩
    · have hlive' : ¬ (leg.2.to_order leg.1).status.mayStillFill := hlive
      rw [if_neg hlive, if_neg hlive']
      exact wp_pure.2 ⟨rfl, rfl⟩
  · have hplaceholder' : ¬ is_synthetic_placeholder_order_id (leg.2.to_order leg.1).order_id :=
      hplaceholder
    rw [if_neg hplaceholder, if_neg hplaceholder']
    -- no adapter, no lookup: the leg keeps what it has
    by_cases hadapter : adapters leg.2.platform = false
    · rw [if_pos hadapter, if_pos hadapter]
      exact wp_pure.2 ⟨rfl, rfl⟩
    · rw [if_neg hadapter, if_neg hadapter]
      refine wp_bind.2 (wp_send.2 fun lookup s' hs => ?_)
      obtain ⟨rfl, rfl⟩ := hs
      rw [to_order_order_id]
      cases (venue leg.1).returned with
      | error exc => exact wp_pure.2 ⟨rfl, rfl⟩
      | ok new =>
        dsimp only
        split_ifs <;> exact wp_pure.2 ⟨rfl, rfl⟩

theorem written_arb_id_takes (order : Order ℚ) (h : refused.order order.order_id = none) :
    written_arb_id order (some arb_id) ≠ none ↔ refused.takes arb_id order.order_id := by
  unfold Refusals.takes
  by_cases hempty : arb_id = ""
  · rw [hempty, written_arb_id_derived]
    simp [h]
  · rw [written_arb_id_given order hempty]
    simp [h, hempty]

/-- Only the row of the leg changes. -/
theorem recover_leg_rewrites (h : s.order leg.1 = some leg.2) :
    wp (desk venue old refused) (recover_leg adapters arb_id leg)
      (fun r s' => r.1 = (heard adapters venue leg).on (leg.2.to_order leg.1) ∧
        Rewrites leg.1 (recovered_row adapters venue refused arb_id leg) s s') s := by
  unfold recover_leg recovered_row
  refine wp_bind.2 (wp_mono query_leg_state_hears ?_)
  rintro ⟨fresh, note⟩ s' ⟨hfresh, rfl⟩
  dsimp only at hfresh ⊢
  subst hfresh
  -- A row is written only where the status changed, and the store takes it.
  by_cases hchanged : (heard adapters venue leg).status ≠ leg.2.status
  · refine wp_ite.2 ⟨fun _ => wp_bind.2 ?_, fun hno => absurd hchanged hno⟩
    apply wp_upsert_order
    · intro id hrefused hid
      have htakes : refused.takes arb_id leg.1 :=
        (written_arb_id_takes ((heard adapters venue leg).on (leg.2.to_order leg.1)) hrefused).1
          (by rw [hid]; exact Option.some_ne_none id)
      rw [if_pos ⟨hchanged, htakes⟩]
      exact wp_pure.2 ⟨rfl, upsert_order_on_conn_order h,
        fun id hid => upsert_order_on_conn_order_ne hid⟩
    · intro err hrefused
      have hno : ¬ refused.takes arb_id leg.1 := by
        intro htakes
        rcases hrefused with hrefused | hid
        · exact hrefused htakes.1
        · exact (written_arb_id_takes ((heard adapters venue leg).on (leg.2.to_order leg.1))
            htakes.1).2 htakes hid
      rw [if_neg fun hboth => hno hboth.2]
      exact wp_pure.2 ⟨rfl, .refl h⟩
  · refine wp_ite.2 ⟨fun hyes => absurd hyes hchanged, fun _ => ?_⟩
    rw [if_neg fun hboth => hchanged hboth.1]
    exact wp_pure.2 ⟨rfl, .refl h⟩

/-- What the recovery of some legs does to the store. -/
structure LegsRecovered (adapters : String → Bool) (venue : String → Lookup) (refused : Refusals)
    (arb_id : String) (legs : List (String × OrderRow)) (s s' : Store) : Prop where
  written : ∀ leg ∈ legs,
    s'.order leg.1 = some (recovered_row adapters venue refused arb_id leg)
  others : ∀ id, id ∉ legs.map (·.1) → s'.order id = s.order id

theorem recover_legs_recovers (legs : List (String × OrderRow))
    (hnodup : (legs.map (·.1)).Nodup) (hrows : ∀ leg ∈ legs, s.order leg.1 = some leg.2) :
    wp (desk venue old refused) (recover_legs adapters arb_id legs)
      (fun r s' => r.map (·.1) = heard_legs adapters venue legs ∧
        LegsRecovered adapters venue refused arb_id legs s s') s := by
  induction legs generalizing s with
  | nil =>
    refine wp_pure.2 ⟨rfl, ?_, fun _ _ => rfl⟩
    intro leg hmem
    exact absurd hmem List.not_mem_nil
  | cons leg rest ih =>
    rw [List.map_cons, List.nodup_cons] at hnodup
    unfold recover_legs
    refine wp_bind.2 (wp_mono (recover_leg_rewrites (hrows leg List.mem_cons_self)) ?_)
    rintro recovered s₁ ⟨hheard, hwritten, hothers⟩
    -- The legs have ids of their own, so the rest is still as it was listed.
    have hne : ∀ other ∈ rest, other.1 ≠ leg.1 := by
      intro other hmem heq
      exact hnodup.1 (heq ▸ List.mem_map.2 ⟨other, hmem, rfl⟩)
    have hrest : ∀ other ∈ rest, s₁.order other.1 = some other.2 := by
      intro other hmem
      rw [hothers _ (hne other hmem)]
      exact hrows other (List.mem_cons_of_mem _ hmem)
    refine wp_bind.2 (wp_mono (ih hnodup.2 hrest) ?_)
    rintro later s₂ ⟨hlater, hrecovers⟩
    refine wp_pure.2 ⟨?_, ?_, ?_⟩
    · rw [List.map_cons, hheard, hlater]
      rfl
    · intro other hmem
      rcases List.mem_cons.1 hmem with rfl | hmem
      · rw [hrecovers.others _ hnodup.1]
        exact hwritten
      · exact hrecovers.written other hmem
    · intro id hid
      rw [List.map_cons, List.mem_cons, not_or] at hid
      rw [hrecovers.others _ hid.2, hothers _ hid.1]

/-- The status a pass reports for an arb. -/
def reported_status (adapters : String → Bool) (venue : String → Lookup) (arb : StuckArb) :
    String :=
  let derived := derive_arb_status_from_legs (heard_legs adapters venue arb.legs)
  if derived = "" then arb.status else derived

theorem recover_arb_recovers (arb : StuckArb) (hnodup : (arb.legs.map (·.1)).Nodup)
    (hrows : ∀ leg ∈ arb.legs, s.order leg.1 = some leg.2) :
    wp (desk venue old refused) (recover_arb adapters arb)
      (fun outcome s' => outcome.arb_id = arb.arb_id ∧
        outcome.new_status = reported_status adapters venue arb ∧
        LegsRecovered adapters venue refused arb.arb_id arb.legs s s') s := by
  unfold recover_arb
  refine wp_bind.2 (wp_mono (recover_legs_recovers arb.legs hnodup hrows) ?_)
  rintro recovered s₁ ⟨hheard, hrecovers⟩
  dsimp only
  rw [hheard]
  refine wp_bind.2 (wp_send.2 fun now_ts s₂ hs => ?_)
  obtain rfl : s₂ = s₁ := hs
  refine wp_bind.2 (wp_send.2 fun answer s₃ hs => ?_)
  -- an outcome that is refused, or one that is written, leaves the orders alone
  have horders : ∀ id, s₃.order id = s₂.order id := by
    simp only [desk] at hs
    cases hrefused : refused.outcome arb.arb_id with
    | none =>
      rw [hrefused] at hs
      obtain ⟨-, rfl⟩ := hs
      exact fun id => persisted_outcome_order ..
    | some err =>
      rw [hrefused] at hs
      obtain ⟨-, rfl⟩ := hs
      exact fun id => rfl
  have hrecovers₃ : LegsRecovered adapters venue refused arb.arb_id arb.legs s s₃ :=
    ⟨fun leg hmem => (horders _).trans (hrecovers.written leg hmem),
      fun id hid => (horders _).trans (hrecovers.others id hid)⟩
  cases answer with
  | ok _ => exact wp_pure.2 ⟨rfl, rfl, hrecovers₃⟩
  | error exc => exact wp_pure.2 ⟨rfl, rfl, hrecovers₃⟩

/-- The legs of the arbs are the rows of the store under their `arb_id`. -/
def RowsOf (s : Store) (stuck : List StuckArb) : Prop :=
  ∀ arb ∈ stuck, (arb.legs.map (·.1)).Nodup ∧
    ∀ leg ∈ arb.legs, s.order leg.1 = some leg.2 ∧ leg.2.arb_id = arb.arb_id

theorem recover_arbs_recovers (stuck : List StuckArb) (hnodup : (stuck.map (·.arb_id)).Nodup)
    (hrows : RowsOf s stuck) :
    wp (desk venue old refused) (recover_arbs adapters stuck) (fun outcomes s' =>
      outcomes.map (·.arb_id) = stuck.map (·.arb_id) ∧
      (∀ outcome ∈ outcomes, ∃ arb ∈ stuck, outcome.arb_id = arb.arb_id ∧
        outcome.new_status = reported_status adapters venue arb ∧
        ∀ leg ∈ arb.legs,
          s'.order leg.1 = some (recovered_row adapters venue refused arb.arb_id leg)) ∧
      ∀ id, (∀ arb ∈ stuck, id ∉ arb.legs.map (·.1)) → s'.order id = s.order id) s := by
  induction stuck generalizing s with
  | nil =>
    refine wp_pure.2 ⟨rfl, ?_, fun _ _ => rfl⟩
    intro outcome hmem
    exact absurd hmem List.not_mem_nil
  | cons arb rest ih =>
    rw [List.map_cons, List.nodup_cons] at hnodup
    obtain ⟨hlegs, hrow⟩ := hrows arb List.mem_cons_self
    unfold recover_arbs
    refine wp_bind.2 (wp_mono
      (recover_arb_recovers arb hlegs fun leg hmem => (hrow leg hmem).1) ?_)
    rintro outcome s₁ ⟨hid, hstatus, hrecovers⟩
    -- no order is a leg of two arbs
    have hapart : ∀ other ∈ rest, ∀ leg ∈ other.legs, leg.1 ∉ arb.legs.map (·.1) := by
      intro other hother leg hleg hmem
      obtain ⟨twin, htwin, heq⟩ := List.mem_map.1 hmem
      have hleg' := (hrows other (List.mem_cons_of_mem _ hother)).2 leg hleg
      have htwin' := hrow twin htwin
      have hsame : twin.2 = leg.2 := by
        have hrow' := htwin'.1
        rw [heq, hleg'.1] at hrow'
        exact (Option.some.inj hrow').symm
      have harb : other.arb_id = arb.arb_id := by rw [← hleg'.2, ← hsame, htwin'.2]
      exact hnodup.1 (harb ▸ List.mem_map.2 ⟨other, hother, rfl⟩)
    have hrest : RowsOf s₁ rest := by
      intro other hother
      obtain ⟨hlegs', hrow'⟩ := hrows other (List.mem_cons_of_mem _ hother)
      refine ⟨hlegs', fun leg hleg => ⟨?_, (hrow' leg hleg).2⟩⟩
      rw [hrecovers.others _ (hapart other hother leg hleg)]
      exact (hrow' leg hleg).1
    refine wp_bind.2 (wp_mono (ih hnodup.2 hrest) ?_)
    rintro later s₂ ⟨hids, hlater, hothers⟩
    refine wp_pure.2 ⟨?_, ?_, ?_⟩
    · rw [List.map_cons, List.map_cons, hid, hids]
    · intro o hmem
      rcases List.mem_cons.1 hmem with rfl | hmem
      · refine ⟨arb, List.mem_cons_self, hid, hstatus, fun leg hleg => ?_⟩
        have huntouched : ∀ other ∈ rest, leg.1 ∉ other.legs.map (·.1) := by
          intro other hother hin
          obtain ⟨twin, htwin, heq⟩ := List.mem_map.1 hin
          exact hapart other hother twin htwin (heq ▸ List.mem_map.2 ⟨leg, hleg, rfl⟩)
        rw [hothers _ huntouched]
        exact hrecovers.written leg hleg
      · obtain ⟨other, hother, h⟩ := hlater o hmem
        exact ⟨other, List.mem_cons_of_mem _ hother, h⟩
    · intro id hid'
      rw [hothers id fun other hother => hid' other (List.mem_cons_of_mem _ hother),
        hrecovers.others id (hid' arb List.mem_cons_self)]

end run

/-! ## Section 4: What the derived status says -/

/-- The leg holds contracts, as the derivation sees it. -/
def holds (leg : Order ℚ) : Prop := leg.status = .filled ∧ 0 < leg.fill_qty

theorem effective_status_filled {leg : Order ℚ} :
    effective_status leg = .filled ↔ holds leg := by
  unfold effective_status holds
  by_cases hzero : leg.status = .filled ∧ leg.fill_qty ≤ 0
  · rw [if_pos hzero]
    simp [hzero.1, hzero.2]
  · rw [if_neg hzero]
    rw [not_and] at hzero
    constructor
    · exact fun h => ⟨h, not_le.1 (hzero h)⟩
    · exact fun h => h.1

theorem effective_status_live {leg : Order ℚ} :
    (effective_status leg).mayStillFill ↔ leg.status.mayStillFill := by
  unfold effective_status
  split
  · rename_i hzero
    rw [hzero.1]
    decide
  · exact .rfl

section derive

variable {effective : List OrderStatus} {legs : List (Order ℚ)}

theorem derive_from_effective_failed : derive_from_effective effective = "failed" ↔
    effective ≠ [] ∧ (∀ s ∈ effective, ¬ s.mayStillFill) ∧ .filled ∉ effective := by
  unfold derive_from_effective
  have hcount : 0 < effective.count .filled ↔ .filled ∈ effective := List.count_pos_iff
  have hzero : effective.count .filled = 0 ↔ .filled ∉ effective := List.count_eq_zero
  have hlive : (∃ s ∈ effective, s.mayStillFill) ↔ ¬ ∀ s ∈ effective, ¬ s.mayStillFill := by
    simp
  dsimp only
  simp only [hcount, hzero, hlive]
  by_cases hfilled : .filled ∈ effective
  · -- a filled leg keeps the arb from failing
    rw [if_pos hfilled, if_neg (not_not_intro hfilled), if_pos hfilled]
    split_ifs <;> simp [hfilled]
  · simp only [if_neg hfilled, if_pos hfilled]
    by_cases hover : ∀ s ∈ effective, ¬ s.mayStillFill
    · rw [if_neg (not_not_intro hover)]
      by_cases hempty : effective = []
      · subst hempty
        simp
      · have hdone : effective ≠ [] ∧ ∀ s ∈ effective, ¬ s.mayStillFill := ⟨hempty, hover⟩
        have hunfilled : ¬ (effective.count .filled = effective.length ∧ .filled ∈ effective) :=
          fun h => hfilled h.2
        rw [if_pos hdone, if_neg hunfilled, ite_self]
        simp only [true_iff]
        exact ⟨hempty, hover, hfilled⟩
    · have hno : ¬ (effective ≠ [] ∧ ∀ s ∈ effective, ¬ s.mayStillFill) := fun h => hover h.2
      rw [if_neg hno, if_pos hover, ite_self]
      constructor
      · intro h
        exact absurd h (by decide)
      · intro h
        exact absurd h.2.1 hover

theorem derive_from_effective_filled : derive_from_effective effective = "filled" ↔
    2 ≤ effective.length ∧ ∀ s ∈ effective, s = .filled := by
  unfold derive_from_effective
  have hall : effective.count .filled = effective.length ↔ ∀ s ∈ effective, s = .filled := by
    rw [List.count_eq_length]
    simp only [eq_comm]
  dsimp only
  simp only [hall]
  by_cases hshort : effective.length < 2
  · rw [if_pos hshort]
    have hno : ¬ 2 ≤ effective.length := by omega
    split_ifs <;> simp [hno]
  · rw [if_neg hshort]
    -- Every other branch of the derivation ends in another word.
    by_cases hfull : ∀ s ∈ effective, s = .filled
    · have hover : ¬ ∃ s ∈ effective, s.mayStillFill := by
        rintro ⟨s, hs, hlive⟩
        rw [hfull s hs] at hlive
        exact absurd hlive (by decide)
      have hpos : 0 < effective.count .filled := by
        rw [hall.2 hfull]
        omega
      rw [if_neg hover, if_pos ⟨hfull, hpos⟩]
      simp only [true_iff]
      exact ⟨by omega, hfull⟩
    · simp only [hfull, false_and, if_false, and_false, iff_false]
      split_ifs <;> simp

/-- A leg that holds contracts, or that may still fill, keeps an arb from failing. -/
theorem derive_failed_iff : derive_arb_status_from_legs legs = "failed" ↔
    legs ≠ [] ∧ (∀ leg ∈ legs, ¬ leg.status.mayStillFill) ∧ ∀ leg ∈ legs, ¬ holds leg := by
  unfold derive_arb_status_from_legs
  rw [derive_from_effective_failed]
  have hover : (∀ s ∈ legs.map effective_status, ¬ s.mayStillFill) ↔
      ∀ leg ∈ legs, ¬ leg.status.mayStillFill := by
    simp only [List.forall_mem_map, effective_status_live]
  have hfilled : .filled ∉ legs.map effective_status ↔ ∀ leg ∈ legs, ¬ holds leg := by
    simp only [List.mem_map, effective_status_filled, not_exists, not_and]
  rw [hover, hfilled, ne_eq, List.map_eq_nil_iff]

/-- An arb is filled when it has two legs and every leg holds contracts. -/
theorem derive_filled_iff : derive_arb_status_from_legs legs = "filled" ↔
    2 ≤ legs.length ∧ ∀ leg ∈ legs, holds leg := by
  unfold derive_arb_status_from_legs
  rw [derive_from_effective_filled]
  rw [List.length_map]
  simp only [List.forall_mem_map, effective_status_filled]

end derive

/-! ## Section 5: No fill is lost -/

/-- The contracts heard of on one side. -/
def side_fill (adapters : String → Bool) (venue : String → Lookup)
    (legs : List (String × OrderRow)) (side : Side) : ℚ :=
  ((legs.filter fun leg => leg.2.side = side).map fun leg =>
    (heard adapters venue leg).fill_qty).sum

/-- The lookup of the leg raised, or its answer was that the order may still fill. -/
def Indefinite (adapters : String → Bool) (venue : String → Lookup) (leg : String × OrderRow) :
    Prop :=
  is_synthetic_placeholder_order_id leg.1 = false ∧ adapters leg.2.platform = true ∧
    match (venue leg.1).returned with
    | .error _ => True
    | .ok new => ((venue leg.1).fresh new).status.mayStillFill

/-- An arb goes through a pass that ended with `outcome` without losing a fill. -/
structure KeepsFills (adapters : String → Bool) (venue : String → Lookup) (s s' : Store)
    (outcome : StuckTradeOutcome) : Prop where
  /-- A failed arb has no fill, recorded or reported. -/
  failed : outcome.new_status = "failed" → ∀ leg ∈ legs_of s outcome.arb_id,
    leg.2.fill_qty ≤ 0 ∧ (heard adapters venue leg).fill_qty ≤ 0
  /-- A filled arb has as many contracts on one side as on the other. -/
  filled : outcome.new_status = "filled" →
    side_fill adapters venue (legs_of s outcome.arb_id) .yes =
      side_fill adapters venue (legs_of s outcome.arb_id) .no ∧
    0 < side_fill adapters venue (legs_of s outcome.arb_id) .yes
  /-- No stored fill is lowered for want of an answer. -/
  kept : ∀ leg ∈ legs_of s outcome.arb_id, Indefinite adapters venue leg →
    ∃ row, s'.order leg.1 = some row ∧ leg.2.fill_qty ≤ row.fill_qty

/-- What the legs and the answers on them have to be like for that. -/
structure FillsShow (adapters : String → Bool) (venue : String → Lookup) (refused : Refusals)
    (arb_id : String) (legs : List (String × OrderRow)) : Prop where
  /-- Where all legs are over and none is `filled` with contracts, none has a fill. -/
  unfilled : (∀ leg ∈ legs, ¬ (heard adapters venue leg).status.mayStillFill) →
    (∀ leg ∈ legs, ¬ ((heard adapters venue leg).status = .filled ∧
      0 < (heard adapters venue leg).fill_qty)) →
    ∀ leg ∈ legs, leg.2.fill_qty ≤ 0 ∧ (heard adapters venue leg).fill_qty ≤ 0
  /-- Where two legs or more are all `filled` with contracts, the sides are even. -/
  even : 2 ≤ legs.length → (∀ leg ∈ legs, (heard adapters venue leg).status = .filled ∧
      0 < (heard adapters venue leg).fill_qty) →
    side_fill adapters venue legs .yes = side_fill adapters venue legs .no
  /-- An indefinite lookup that changes the status comes with no fewer contracts. -/
  unlowered : ∀ leg ∈ legs, Indefinite adapters venue leg →
    (heard adapters venue leg).status ≠ leg.2.status → refused.takes arb_id leg.1 →
    leg.2.fill_qty ≤ (heard adapters venue leg).fill_qty

section fills

variable {adapters : String → Bool} {venue : String → Lookup} {old : String → Prop}
  {refused : Refusals} {s : Store} {arb : StuckArb} {legs : List (String × OrderRow)}

theorem side_fill_pos (h : ∀ leg ∈ legs, 0 < (heard adapters venue leg).fill_qty) {side : Side}
    (hside : ∃ leg ∈ legs, leg.2.side = side) : 0 < side_fill adapters venue legs side := by
  obtain ⟨leg, hmem, hleg⟩ := hside
  unfold side_fill
  apply List.sum_pos
  · intro q hq
    obtain ⟨other, hother, rfl⟩ := List.mem_map.1 hq
    exact h other (List.mem_filter.1 hother).1
  · rw [ne_eq, List.map_eq_nil_iff]
    exact List.ne_nil_of_mem (List.mem_filter.2 ⟨hmem, decide_eq_true hleg⟩)

/-- Even sides of legs that all hold contracts both have some. -/
theorem side_fill_yes_pos (h : ∀ leg ∈ legs, 0 < (heard adapters venue leg).fill_qty)
    (hlegs : legs ≠ [])
    (heven : side_fill adapters venue legs .yes = side_fill adapters venue legs .no) :
    0 < side_fill adapters venue legs .yes := by
  -- Some leg is on one side; if it is NO, evenness carries it over.
  obtain ⟨leg, rest, rfl⟩ := List.exists_cons_of_ne_nil hlegs
  cases hside : leg.2.side with
  | yes => exact side_fill_pos h ⟨leg, List.mem_cons_self, hside⟩
  | no =>
    rw [heven]
    exact side_fill_pos h ⟨leg, List.mem_cons_self, hside⟩

theorem mem_heard_legs {P : Order ℚ → Prop} :
    (∀ leg ∈ heard_legs adapters venue legs, P leg) ↔
      ∀ leg ∈ legs, P ((heard adapters venue leg).on (leg.2.to_order leg.1)) := by
  unfold heard_legs
  exact List.forall_mem_map

/-- A terminal status that is reported is a derived one: a stuck arb has none. -/
theorem reported_status_iff {status : String} (hstatus : arb.status ∉ terminal_arb_statuses)
    (hterminal : status ∈ terminal_arb_statuses) :
    reported_status adapters venue arb = status ↔
      derive_arb_status_from_legs (heard_legs adapters venue arb.legs) = status := by
  have hlive : arb.status ≠ status := by
    rintro rfl
    exact hstatus hterminal
  have hsome : "" ≠ status := by
    rintro rfl
    exact absurd hterminal (by decide)
  unfold reported_status
  dsimp only
  split
  · rename_i hempty
    rw [hempty]
    exact iff_of_false hlive hsome
  · exact .rfl

/-- The pass reports a failure just where all legs are over and none holds contracts. -/
theorem reported_failed_iff (hstatus : arb.status ∉ terminal_arb_statuses)
    (hperm : arb.legs.Perm legs) :
    reported_status adapters venue arb = "failed" ↔ legs ≠ [] ∧
      (∀ leg ∈ legs, ¬ (heard adapters venue leg).status.mayStillFill) ∧
      ∀ leg ∈ legs, ¬ ((heard adapters venue leg).status = .filled ∧
        0 < (heard adapters venue leg).fill_qty) := by
  rw [reported_status_iff hstatus (by decide), derive_failed_iff, mem_heard_legs, mem_heard_legs]
  unfold heard_legs
  rw [ne_eq, List.map_eq_nil_iff]
  simp only [hperm.mem_iff]
  rw [← List.length_eq_zero_iff, hperm.length_eq, List.length_eq_zero_iff]
  exact .rfl

/-- It reports the arb filled just where two legs or more all hold contracts. -/
theorem reported_filled_iff (hstatus : arb.status ∉ terminal_arb_statuses)
    (hperm : arb.legs.Perm legs) :
    reported_status adapters venue arb = "filled" ↔ 2 ≤ legs.length ∧
      ∀ leg ∈ legs, (heard adapters venue leg).status = .filled ∧
        0 < (heard adapters venue leg).fill_qty := by
  rw [reported_status_iff hstatus (by decide), derive_filled_iff, mem_heard_legs]
  unfold heard_legs
  rw [List.length_map, hperm.length_eq]
  simp only [hperm.mem_iff]
  exact .rfl

/-- The stored fill of a leg falls only with a write of fewer contracts. -/
theorem recovered_row_kept {arb_id : String} {leg : String × OrderRow} :
    leg.2.fill_qty ≤ (recovered_row adapters venue refused arb_id leg).fill_qty ↔
      ((heard adapters venue leg).status ≠ leg.2.status → refused.takes arb_id leg.1 →
        leg.2.fill_qty ≤ (heard adapters venue leg).fill_qty) := by
  unfold recovered_row
  by_cases hwritten : (heard adapters venue leg).status ≠ leg.2.status ∧
      refused.takes arb_id leg.1
  · rw [if_pos hwritten]
    constructor
    · exact fun h _ _ => h
    · exact fun h => h hwritten.1 hwritten.2
  · rw [if_neg hwritten]
    constructor
    · exact fun _ hchanged htakes => absurd ⟨hchanged, htakes⟩ hwritten
    · exact fun _ => le_refl _

/-- What a pass leaves: each outcome is that of a stuck arb, whose rows were recovered. -/
theorem recover_stuck_trades_recovers :
    wp (desk venue old refused) (recover_stuck_trades adapters) (fun outcomes s' =>
      ∀ outcome ∈ outcomes, ∃ arb : StuckArb, outcome.arb_id = arb.arb_id ∧
        arb.status ∉ terminal_arb_statuses ∧ arb.legs.Perm (legs_of s arb.arb_id) ∧
        outcome.new_status = reported_status adapters venue arb ∧
        ∀ leg ∈ arb.legs,
          s'.order leg.1 = some (recovered_row adapters venue refused arb.arb_id leg)) s := by
  unfold recover_stuck_trades
  refine wp_bind.2 (wp_send.2 fun answer s₁ hs => ?_)
  cases answer with
  | error exc =>
    refine wp_pure.2 fun outcome hmem => ?_
    exact absurd hmem List.not_mem_nil
  | ok stuck =>
    obtain ⟨rfl, hstuck⟩ : s₁ = s ∧ Stuck old s stuck := hs
    -- The listing permutes the rows of the store, nothing more.
    have hrows : RowsOf s₁ stuck := by
      intro arb harb
      have hperm := hstuck.legs arb harb
      refine ⟨(hperm.map _).nodup_iff.2 (nodup_legs_of arb.arb_id), fun leg hleg => ?_⟩
      exact mem_legs_of.1 (hperm.mem_iff.1 hleg)
    refine wp_mono (recover_arbs_recovers stuck hstuck.nodup hrows) ?_
    rintro outcomes s' ⟨-, houtcomes, -⟩ outcome hmem
    obtain ⟨arb, harb, hid, hstatus, hlegs⟩ := houtcomes outcome hmem
    exact ⟨arb, hid, (hstuck.listed arb harb).2.1, hstuck.legs arb harb, hstatus, hlegs⟩

end fills

/-- A pass loses no fill of an arb exactly if its legs and the answers on them show every
    fill in the statuses, are even where all are filled, and lower nothing for want of an
    answer. -/
theorem stuck_recovery_keeps_fills_iff (adapters : String → Bool) (venue : String → Lookup)
    (old : String → Prop) (refused : Refusals) {s s' : Store}
    {outcomes : List StuckTradeOutcome}
    (hrun : Exec (desk venue old refused) (recover_stuck_trades adapters) s outcomes s') :
    ∀ outcome ∈ outcomes, KeepsFills adapters venue s s' outcome ↔
      FillsShow adapters venue refused outcome.arb_id (legs_of s outcome.arb_id) := by
  intro outcome hmem
  obtain ⟨arb, hid, hlive, hperm, hstatus, hlegs⟩ :=
    recover_stuck_trades_recovers _ _ hrun outcome hmem
  have hperm' : arb.legs.Perm (legs_of s outcome.arb_id) := by
    rw [hid]
    exact hperm
  have hfailed := @reported_failed_iff adapters venue arb _ hlive hperm'
  have hfilled := @reported_filled_iff adapters venue arb _ hlive hperm'
  -- The row of a leg after the pass is the recovered one.
  have hrow : ∀ leg ∈ legs_of s outcome.arb_id, ∀ row, s'.order leg.1 = some row ↔
      row = recovered_row adapters venue refused outcome.arb_id leg := by
    intro leg hleg row
    rw [hid, hlegs leg (hperm'.mem_iff.2 hleg), Option.some_inj, eq_comm]
  constructor
  · intro hkeeps
    have hkeeps_failed := hkeeps.failed
    have hkeeps_filled := hkeeps.filled
    rw [hstatus] at hkeeps_failed hkeeps_filled
    refine ⟨?_, ?_, ?_⟩
    · intro hover hunfilled leg hleg
      exact hkeeps_failed (hfailed.2 ⟨List.ne_nil_of_mem hleg, hover, hunfilled⟩) leg hleg
    · intro htwo hfull
      exact (hkeeps_filled (hfilled.2 ⟨htwo, hfull⟩)).1
    · intro leg hleg hindefinite
      obtain ⟨row, hstored, hle⟩ := hkeeps.kept leg hleg hindefinite
      rw [(hrow leg hleg row).1 hstored] at hle
      exact recovered_row_kept.1 hle
  · intro hshow
    refine ⟨?_, ?_, ?_⟩
    · rw [hstatus, hfailed]
      rintro ⟨-, hover, hunfilled⟩
      exact hshow.unfilled hover hunfilled
    · rw [hstatus, hfilled]
      rintro ⟨htwo, hfull⟩
      have heven := hshow.even htwo hfull
      -- Two legs with contracts each, so the even sides are not empty.
      have hne : legs_of s outcome.arb_id ≠ [] := by
        intro hnil
        rw [hnil] at htwo
        exact absurd htwo (by decide)
      exact ⟨heven, side_fill_yes_pos (fun leg hleg => (hfull leg hleg).2) hne heven⟩
    · intro leg hleg hindefinite
      refine ⟨_, (hrow leg hleg _).2 rfl, ?_⟩
      exact recovered_row_kept.2 (hshow.unlowered leg hleg hindefinite)

/-! ### A fill that is only in the count -/

/-- A leg of ten contracts, none filled. -/
def hung_leg (platform : String) (side : Side) (status : OrderStatus) : OrderRow where
  arb_id := "ARB-000001"
  client_order_id := none
  platform := platform
  market_id := "M"
  canonical_id := "C"
  side := side
  price := 1 / 2
  quantity := 10
  status := status
  fill_price := 0
  fill_qty := 0
  error := ""

/-- The leg on Kalshi still rests, the leg on Polymarket failed. -/
def hung_legs : List (String × OrderRow) :=
  [("k-1", hung_leg "kalshi" .yes .submitted), ("p-1", hung_leg "polymarket" .no .failed)]

/-- The arb with the two legs, and nothing else. -/
def hung_store : Store where
  arbs := ⟨[⟨"ARB-000001", .stub "C" none⟩], List.nodupKeys_singleton _⟩
  orders := ⟨hung_legs.map fun leg => ⟨leg.1, leg.2⟩, by simp [hung_legs]⟩

theorem legs_of_hung_store : legs_of hung_store "ARB-000001" = hung_legs := rfl

/-- The arb as it is listed. -/
def hung_arb : StuckArb where
  arb_id := "ARB-000001"
  status := "pending"
  legs := hung_legs

theorem hung_listed : Stuck (fun _ => True) hung_store [hung_arb] where
  nodup := List.nodup_singleton _
  listed := by
    intro arb hmem
    obtain rfl := List.mem_singleton.1 hmem
    exact ⟨trivial, by decide, _, rfl, rfl⟩
  legs := by
    intro arb hmem
    obtain rfl := List.mem_singleton.1 hmem
    exact .refl _
  complete := by
    intro id row hrow _ _
    have hentry : (⟨id, row⟩ : Sigma fun _ : String => ArbRow) ∈ hung_store.arbs.entries :=
      AList.mem_lookup_iff.1 hrow
    obtain ⟨rfl, -⟩ := Sigma.mk.inj (List.mem_singleton.1 hentry)
    exact List.mem_singleton.2 rfl

/-- A pass over the arb, whatever the venues say. -/
theorem hung_run (venue : String → Lookup) : ∃ (outcome : StuckTradeOutcome) (s' : Store),
    Exec (desk venue (fun _ => True) no_refusals) (recover_stuck_trades fun _ => true) hung_store
      [outcome] s' ∧ outcome.arb_id = "ARB-000001" := by
  have hlist : Exec (desk venue (fun _ => True) no_refusals) (.send Call.list_stuck_arbs)
      hung_store (.ok [hung_arb]) hung_store := .call ⟨rfl, hung_listed⟩ (.ret _ _)
  obtain ⟨outcomes, s', harbs⟩ := Exec.total desk_serves
    (recover_arbs (fun _ => true) [hung_arb]) hung_store
  have hrows : RowsOf hung_store [hung_arb] := by
    intro arb hmem
    obtain rfl := List.mem_singleton.1 hmem
    rw [show hung_arb.legs = legs_of hung_store "ARB-000001" from rfl]
    exact ⟨nodup_legs_of _, fun leg hleg => mem_legs_of.1 hleg⟩
  obtain ⟨hids, -, -⟩ :=
    recover_arbs_recovers [hung_arb] (List.nodup_singleton _) hrows _ _ harbs
  obtain ⟨outcome, rfl, hid⟩ : ∃ outcome, outcomes = [outcome] ∧ outcome.arb_id = "ARB-000001" := by
    obtain ⟨outcome, rest, rfl, hid, hrest⟩ := List.map_eq_cons_iff.1 hids
    rw [List.map_nil, List.map_eq_nil_iff] at hrest
    exact ⟨outcome, by rw [hrest], hid⟩
  exact ⟨outcome, s', exec_bind.2 ⟨_, _, hlist, harbs⟩, hid⟩

/-- Both venues filled their ten contracts. -/
def both_filled (_ : String) : Lookup := ⟨⟨.filled, 1 / 2, 10, ""⟩, .ok none⟩

/-- An arb whose legs turn out filled alike goes through without losing a fill. -/
theorem stuck_recovery_keeps_fills_both : ∃ (outcome : StuckTradeOutcome) (s' : Store),
    Exec (desk both_filled (fun _ => True) no_refusals) (recover_stuck_trades fun _ => true)
      hung_store [outcome] s' ∧ KeepsFills (fun _ => true) both_filled hung_store s' outcome := by
  obtain ⟨outcome, s', hrun, hid⟩ := hung_run both_filled
  refine ⟨outcome, s', hrun, ?_⟩
  rw [stuck_recovery_keeps_fills_iff _ _ _ _ hrun outcome List.mem_cons_self, hid,
    legs_of_hung_store]
  have hheard : ∀ leg ∈ hung_legs, heard (fun _ => true) both_filled leg =
      ⟨.filled, 1 / 2, 10, ""⟩ := by decide +kernel
  have hzero : ∀ leg ∈ hung_legs, leg.2.fill_qty = 0 := by decide
  refine ⟨?_, ?_, ?_⟩
  · intro _ hunfilled
    have hleg : ("k-1", hung_leg "kalshi" .yes .submitted) ∈ hung_legs := List.mem_cons_self
    refine absurd ?_ (hunfilled _ hleg)
    rw [hheard _ hleg]
    decide
  · intro _ _
    decide +kernel
  · intro leg hleg _ _ _
    rw [hheard leg hleg, hzero leg hleg]
    decide

/-- Kalshi cancelled the order it had filled in part. -/
def part_cancelled (order_id : String) : Lookup :=
  if order_id = "k-1" then ⟨⟨.cancelled, 1 / 2, 4, ""⟩, .ok none⟩
  else ⟨⟨.failed, 0, 0, ""⟩, .ok none⟩

/-- Four contracts of a cancelled leg are reported, and the arb is booked as failed. -/
theorem part_cancelled_arb_fails : ∃ (outcome : StuckTradeOutcome) (s' : Store),
    Exec (desk part_cancelled (fun _ => True) no_refusals) (recover_stuck_trades fun _ => true)
      hung_store [outcome] s' ∧ outcome.new_status = "failed" ∧
    ∃ leg ∈ legs_of hung_store outcome.arb_id,
      (heard (fun _ => true) part_cancelled leg).fill_qty = 4 := by
  obtain ⟨outcome, s', hrun, hid⟩ := hung_run part_cancelled
  refine ⟨outcome, s', hrun, ?_, ?_⟩
  · obtain ⟨arb, harb, hlive, hperm, hstatus, -⟩ :=
      recover_stuck_trades_recovers _ _ hrun outcome List.mem_cons_self
    rw [← harb, hid, legs_of_hung_store] at hperm
    rw [hstatus, reported_failed_iff hlive hperm]
    exact ⟨List.cons_ne_nil _ _, by decide +kernel, by decide +kernel⟩
  · rw [hid, legs_of_hung_store]
    exact ⟨_, List.mem_cons_self, by decide +kernel⟩

end Reconcile
