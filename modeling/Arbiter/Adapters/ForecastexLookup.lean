import Arbiter.Adapters.Forecastex

/-! # Orders without an Id

  When an acknowledgement carries no id, the adapter asks the broker for its live orders and
  takes the latest one that looks like the order it just placed: the contract, the side and
  the size are compared, and the time, where there are any. Orders of other submissions may
  look the same.

  ## Contents

  - Section 1: the id in an acknowledgement.
  - Section 2: the loop over the live orders.
  - Section 3: the two callers.
  - Section 4: which order the loop takes.
  - Section 5: when it is one of this submission.
-/

namespace Forecastex

open Execution
open PolymarketUs (Raised)

/-! ## Section 1: The id in an acknowledgement -/

/-- The value is one of `None`, `""`, `0` and `"0"`. -/
def is_no_id : Json ℚ → Bool
  | .null => true
  | .bool b => !b
  | .num q => q = 0
  | .str s _ => s = "" || s = "0"
  | _ => false

/-- The first item of a list under the key, where there is one. -/
def wrapped_first (response : Json ℚ) (key : String) : Option (Json ℚ) :=
  match response.get key with
  | .arr (first :: _) => some first
  | _ => none

section extract

/-- Items of a list and values of an object are smaller than it. -/
theorem sizeOf_wrapped_first {response first : Json ℚ} {key : String}
    (h : wrapped_first response key = some first) : sizeOf first < sizeOf response := by
  unfold wrapped_first at h
  split at h
  · rename_i items hget
    cases h
    cases response with
    | obj fields =>
        rw [Json.get, Json.getD, Json.get?] at hget
        cases hfind : fields.find? fun field => field.1 = key with
        | none => simp [hfind] at hget
        | some field =>
            have hvalue : field.2 = .arr (first :: items) := by simpa [hfind] using hget
            have hfield := List.sizeOf_lt_of_mem (List.mem_of_find?_eq_some hfind)
            have hsize : sizeOf field = 1 + sizeOf field.1 + sizeOf field.2 := by
              cases field
              rfl
            rw [hvalue] at hsize
            simp only [Json.arr.sizeOf_spec, List.cons.sizeOf_spec, Json.obj.sizeOf_spec] at *
            omega
    | _ => cases hget
  · cases h

variable (spelled : Json ℚ → String)

/-- `_extract_broker_order_id`. -/
def extract_broker_order_id (response : Json ℚ) : Option String :=
  match response with
  | .arr [] => none
  | .arr (first :: _) => extract_broker_order_id first
  | .obj fields =>
      let response : Json ℚ := .obj fields
      match (["order_id", "orderId"].map response.get).find? (!is_no_id ·) with
      | some value => some (value.text spelled)
      | none =>
          -- The `id` of a confirmation prompt is no order's.
          if (response.get "id").truthy && !(response.get "message").truthy then
            some ((response.get "id").text spelled)
          else
            let nested (key : String) : Option String :=
              match _h : wrapped_first (.obj fields) key with
              | some first => (extract_broker_order_id first).filter (· ≠ "")
              | none => none
            (nested "items").or (nested "orders")
  | _ => none
termination_by sizeOf response
decreasing_by
  · simp only [Json.arr.sizeOf_spec, List.cons.sizeOf_spec]
    omega
  · exact sizeOf_wrapped_first ‹_›

/-! ## Section 2: The loop over the live orders -/

/-- `str(v or "")`, stripped. -/
def stripped (v : Json ℚ) : String := Text.strip ((v.orElse (.str "" none)).text spelled)

/-- The contract of an entry, without its exchange. -/
def entry_conid (entry : Json ℚ) : String :=
  let conid := (entry.first ["conid", "conidEx"] (.str "" none)).text spelled
  Text.strip (String.ofList (conid.toList.takeWhile (· ≠ '@')))

/-- The side of an entry, empty where there is none. -/
def entry_side (entry : Json ℚ) : String :=
  (((entry.get "side").orElse (.str "" none)).text spelled).toUpper

/-- The size of an entry is `qty`, or it has none that can be read. -/
def same_size (entry : Json ℚ) (qty : ℕ) : Bool :=
  match entry.first ["totalSize", "size"] (entry.get "quantity") with
  | .null => true
  | size => size.float.all fun size => int size = qty

/-- The time of an entry in seconds, zero where there is none. -/
def entry_ts (entry : Json ℚ) : ℚ :=
  let ts := (entry.first ["lastExecutionTime_r", "lastExecutionTime"] (.num 0)).float.getD 0
  if ts > 1000000000000 then ts / 1000 else ts

/-- The broker's id of an entry. -/
def entry_order_id (entry : Json ℚ) : String :=
  stripped spelled (entry.first ["orderId", "order_id"] .null)

/-- What is looked for. -/
structure Wanted where
  market_id : String
  side : String
  qty : ℕ
  placed_after_ts : ℚ

/-- An entry the comparisons let through: its contract, its side and size where it has
    them, and its time where both are known. -/
def looks_alike (wanted : Wanted) (entry : Json ℚ) : Bool :=
  entry.is_obj && entry_conid spelled entry = Text.strip wanted.market_id &&
    (entry_side spelled entry = "" || entry_side spelled entry = wanted.side) &&
    same_size entry wanted.qty &&
    !(wanted.placed_after_ts ≠ 0 && entry_ts entry ≠ 0 &&
      entry_ts entry + 5 < wanted.placed_after_ts) &&
    entry_order_id spelled entry ≠ ""

/-- The best entry so far. -/
structure Best where
  id : Option String
  ts : ℚ

/-- One round of the loop: of two entries of one time the later one is taken. -/
def consider (wanted : Wanted) (best : Best) (entry : Json ℚ) : Best :=
  if looks_alike spelled wanted entry && best.ts ≤ entry_ts entry then
    ⟨some (entry_order_id spelled entry), entry_ts entry⟩
  else best

/-- `_lookup_broker_id_via_live_orders`: `live` is what `list_live_orders` answers, `none`
    where there is no such call or it raises. -/
def lookup_broker_id_via_live_orders (wanted : Wanted) (live : Option (Json ℚ)) :
    Option String :=
  match live with
  | some (.arr entries) => (entries.foldl (consider spelled wanted) ⟨none, -1⟩).id
  | _ => none

/-- The id of an order that was acknowledged: the acknowledgement's, else the one looked
    up; an empty one is none. -/
def find_broker_order_id (wanted : Wanted) (response : Json ℚ) (live : Option (Json ℚ)) :
    Option String :=
  match (extract_broker_order_id spelled response).filter (· ≠ "") with
  | some id => some id
  | none => (lookup_broker_id_via_live_orders spelled wanted live).filter (· ≠ "")

/-! ## Section 3: The two callers -/

/-- A placement: `place_fok` and `place_ioc` buy, `place_resting_sell` and
    `place_unwind_sell` buy the sibling. -/
inductive Placement
  | buy (cfg : Config) (op : String) (req : OrderRequest)
  | sell (op : String) (req : OrderRequest) (sibling_conid : String)

/-- What the placement looks for, when it was made at `placed_after_ts`. -/
def Placement.wanted (placed_after_ts : ℚ) : Placement → Wanted
  | .buy _ _ req => ⟨req.market_id, "BUY", req.qty, placed_after_ts⟩
  | .sell _ req sibling_conid => ⟨sibling_conid, "BUY", req.qty, placed_after_ts⟩

/-- Nothing is refused before the order is sent. -/
def Placement.sent : Placement → Prop
  | .buy cfg op req => refusal cfg op req = none
  | .sell _ _ _ => True

/-- `_order_from_response` for an exit: the fill price of the sibling is read inverted. -/
def inverted_order (req : OrderRequest) (sibling_conid broker_order_id : String) (ack : Json ℚ) :
    Order ℚ :=
  let snapped := snap_to_tick req.price
  let avg_px := normalized_price ((ack.first price_keys (.num 0)).float.getD 0)
  let inverted := Decimal.round_to 4 (1 - avg_px)
  { order_from_response spelled req snapped broker_order_id ack with
    market_id := sibling_conid
    fill_price := if avg_px = 0 ∨ inverted = 0 then snapped else inverted.toNNRat }

/-- `_submit_sell` once the sibling is known. -/
def submit_sibling (op : String) (req : OrderRequest) (sibling_conid : String)
    (answer : Except ClientRaised (Json ℚ)) (broker_order_id : Option String) : Order ℚ :=
  let snapped := snap_to_tick req.price
  match answer with
  | .error (.rejected exc) | .error (.other exc) =>
      lost_order req snapped ("forecastex " ++ op ++ " failed: " ++ exc)
  | .ok response =>
      match broker_order_id with
      | none =>
          { lost_order req snapped
              ("forecastex " ++ op ++ " broker_id unrecoverable from ack and " ++
                "live-orders lookup; cross-side exit BUY MAY be live at IBKR") with
            market_id := sibling_conid }
      | some broker_order_id =>
          inverted_order spelled req sibling_conid broker_order_id (acknowledgement response)

/-- What a placement that was answered ends with. -/
def Placement.outcome (placement : Placement) (placed_after_ts : ℚ) (response : Json ℚ)
    (live : Option (Json ℚ)) : Except Raised (Order ℚ) :=
  let id := find_broker_order_id spelled (placement.wanted placed_after_ts) response live
  match placement with
  | .buy cfg op req => submit spelled cfg op req (.ok response) id
  | .sell op req sibling_conid =>
      .ok (submit_sibling spelled op req sibling_conid (.ok response) id)

/-! ## Section 4: Which order the loop takes -/

variable {spelled}

/-- The loop ends with the last of the latest entries that look alike, where one is at
    least as late as what it starts with. -/
theorem consider_spec (wanted : Wanted) (entries : List (Json ℚ)) (best : Best) :
    (entries.foldl (consider spelled wanted) best = best ∧
        ∀ e ∈ entries, looks_alike spelled wanted e = true → entry_ts e < best.ts) ∨
      ∃ before e after, entries = before ++ e :: after ∧ looks_alike spelled wanted e = true ∧
        entries.foldl (consider spelled wanted) best =
          ⟨some (entry_order_id spelled e), entry_ts e⟩ ∧
        best.ts ≤ entry_ts e ∧
        (∀ c ∈ before, looks_alike spelled wanted c = true → entry_ts c ≤ entry_ts e) ∧
        ∀ c ∈ after, looks_alike spelled wanted c = true → entry_ts c < entry_ts e := by
  induction entries generalizing best with
  | nil => exact .inl ⟨rfl, by simp⟩
  | cons entry entries ih =>
      rw [List.foldl_cons]
      -- the entry is the best so far, or the loop goes on with what it had
      by_cases htaken : looks_alike spelled wanted entry = true ∧ best.ts ≤ entry_ts entry
      · have hstep : consider spelled wanted best entry =
            ⟨some (entry_order_id spelled entry), entry_ts entry⟩ := by
          simp [consider, htaken.1, htaken.2]
        rw [hstep]
        obtain ⟨hend, hearlier⟩ | ⟨before, e, after, rfl, halike, hend, hle, hbefore, hafter⟩ :=
          ih ⟨some (entry_order_id spelled entry), entry_ts entry⟩
        · exact .inr ⟨[], entry, entries, rfl, htaken.1, hend, htaken.2, by simp, hearlier⟩
        · refine .inr ⟨entry :: before, e, after, rfl, halike, hend, htaken.2.trans hle, ?_,
            hafter⟩
          intro c hc hcalike
          obtain rfl | hc := List.mem_cons.mp hc
          · exact hle
          · exact hbefore c hc hcalike
      · have hstep : consider spelled wanted best entry = best := by
          rw [consider, if_neg]
          simpa using htaken
        have hentry : looks_alike spelled wanted entry = true → entry_ts entry < best.ts := by
          intro halike
          by_contra hle
          exact htaken ⟨halike, not_lt.mp hle⟩
        rw [hstep]
        obtain ⟨hend, hearlier⟩ | ⟨before, e, after, rfl, halike, hend, hle, hbefore, hafter⟩ :=
          ih best
        · refine .inl ⟨hend, ?_⟩
          intro c hc hcalike
          obtain rfl | hc := List.mem_cons.mp hc
          · exact hentry hcalike
          · exact hearlier c hc hcalike
        · refine .inr ⟨entry :: before, e, after, rfl, halike, hend, hle, ?_, hafter⟩
          intro c hc hcalike
          obtain rfl | hc := List.mem_cons.mp hc
          · exact (hentry hcalike).le.trans hle
          · exact hbefore c hc hcalike

/-! ## Section 5: Adopting one's own order -/

/-- The orders the broker lists; none where it does not answer with a list. -/
def listed (live : Option (Json ℚ)) : List (Json ℚ) :=
  match live with
  | some (.arr entries) => entries
  | _ => []

/-- The order failed, and its text says that it may be live. -/
def ReportsLive (order : Order ℚ) : Prop :=
  order.status = .failed ∧ Text.occurs "MAY be live at IBKR" order.error = true

/-- The placement ends with an order of this submission, or with the report; `created` are
    the broker's ids of the orders of this submission. -/
def AdoptsOwn (created : String → Prop) (outcome : Except Raised (Order ℚ)) : Prop :=
  ∃ order, outcome = .ok order ∧ (created order.order_id ∨ ReportsLive order)

/-- The entry looks like the order, and the loop does not pass over it from the start. -/
def Candidate (spelled : Json ℚ → String) (wanted : Wanted) (entry : Json ℚ) : Prop :=
  looks_alike spelled wanted entry = true ∧ -1 ≤ entry_ts entry

/-- Every candidate of another submission is outdone by one of this submission: by a later
    one, or by one of the same time further down the list. -/
def OwnOutdoes (spelled : Json ℚ → String) (created : String → Prop) (wanted : Wanted)
    (entries : List (Json ℚ)) : Prop :=
  ∀ before e after, entries = before ++ e :: after → Candidate spelled wanted e →
    ¬ created (entry_order_id spelled e) →
      (∃ o ∈ before, Candidate spelled wanted o ∧ created (entry_order_id spelled o) ∧
        entry_ts e < entry_ts o) ∨
      ∃ o ∈ after, Candidate spelled wanted o ∧ created (entry_order_id spelled o) ∧
        entry_ts e ≤ entry_ts o

/-- The id that is looked up is one of this submission exactly if its candidates outdo the
    others. -/
theorem lookup_own_iff (created : String → Prop) (wanted : Wanted) (live : Option (Json ℚ)) :
    (∀ id ∈ (lookup_broker_id_via_live_orders spelled wanted live).filter (· ≠ ""), created id) ↔
      OwnOutdoes spelled created wanted (listed live) := by
  have hlookup : lookup_broker_id_via_live_orders spelled wanted live =
      ((listed live).foldl (consider spelled wanted) ⟨none, -1⟩).id := by
    unfold lookup_broker_id_via_live_orders listed
    split <;> rfl
  rw [hlookup]
  generalize listed live = entries
  obtain ⟨hend, hearlier⟩ | ⟨first, latest, last, rfl, halike, hend, hle, hfirst, hlast⟩ :=
    @consider_spec spelled wanted entries ⟨none, -1⟩
  · -- no candidate: nothing is adopted, and nothing had to be outdone
    rw [hend]
    refine ⟨fun _ => ?_, fun _ => by simp⟩
    rintro before e after rfl ⟨halike, hle⟩
    exact absurd (hearlier e (by simp) halike) (not_lt.mpr hle)
  · have hid : entry_order_id spelled latest ≠ "" := by
      simp only [looks_alike, Bool.and_eq_true, decide_eq_true_eq] at halike
      exact halike.2
    have hown : (∀ id ∈ Option.filter (· ≠ "")
        ((first ++ latest :: last).foldl (consider spelled wanted) ⟨none, -1⟩).id, created id) ↔
          created (entry_order_id spelled latest) := by
      simp [hend, hid]
    rw [hown]
    constructor
    · -- the latest is an own one: it stands before or after the stranger
      rintro hcreated before e after heq ⟨hcalike, -⟩ hother
      have hlatest : Candidate spelled wanted latest := ⟨halike, hle⟩
      obtain ⟨mid, rfl, htail⟩ | ⟨mid, rfl, htail⟩ := List.append_eq_append_iff.mp heq
      · cases mid with
        | nil =>
            obtain ⟨rfl, -⟩ := List.cons.inj htail
            exact absurd hcreated hother
        | cons c mid =>
            obtain ⟨rfl, rfl⟩ := List.cons.inj htail
            exact .inl ⟨latest, by simp, hlatest, hcreated, hlast e (by simp) hcalike⟩
      · cases mid with
        | nil =>
            obtain ⟨rfl, -⟩ := List.cons.inj htail
            exact absurd hcreated hother
        | cons c mid =>
            obtain ⟨rfl, rfl⟩ := List.cons.inj htail
            exact .inr ⟨latest, by simp, hlatest, hcreated, hfirst e (by simp) hcalike⟩
    · -- were the latest a stranger, no own entry could outdo it
      intro h
      by_contra hother
      obtain ⟨o, ho, ⟨hoalike, -⟩, -, hlt⟩ | ⟨o, ho, ⟨hoalike, -⟩, -, hge⟩ :=
        h first latest last rfl ⟨halike, hle⟩ hother
      · exact absurd (hfirst o ho hoalike) (not_le.mpr hlt)
      · exact absurd (hlast o ho hoalike) (not_lt.mpr hge)

/-- An order that reports nothing has to be one of the submission. -/
theorem adoptsOwn_ok_iff {created : String → Prop} {order : Order ℚ} (hquiet : order.error = "") :
    AdoptsOwn created (.ok order) ↔ created order.order_id := by
  constructor
  · rintro ⟨_, horder, hown⟩
    cases horder
    refine hown.resolve_right fun hreport => ?_
    have hlive := hreport.2
    rw [hquiet] at hlive
    revert hlive
    decide
  · intro h
    exact ⟨_, rfl, .inl h⟩

/-- What an answered placement ends with, by the id that is found. -/
theorem outcome_adoptsOwn_iff (created : String → Prop) {placement : Placement}
    (hsent : placement.sent) (placed_after_ts : ℚ) (response : Json ℚ) (live : Option (Json ℚ)) :
    AdoptsOwn created (placement.outcome spelled placed_after_ts response live) ↔
      ∀ id ∈ find_broker_order_id spelled (placement.wanted placed_after_ts) response live,
        created id := by
  unfold Placement.outcome
  simp only
  generalize find_broker_order_id spelled (placement.wanted placed_after_ts) response live = found
  cases placement with
  | buy cfg op req =>
      have hgo : refusal cfg op req = none := hsent
      simp only [submit, hgo]
      cases found with
      | none =>
          refine ⟨by simp, fun _ => ⟨_, rfl, .inr ⟨rfl, ?_⟩⟩⟩
          exact Text.occurs_append _
            "forecastex broker_id unrecoverable from ack and live-orders lookup; " _
            (by decide +kernel)
      | some id =>
          simp only [Option.mem_some_iff, forall_eq']
          exact adoptsOwn_ok_iff rfl
  | sell op req sibling_conid =>
      cases found with
      | none =>
          refine ⟨by simp, fun _ => ⟨_, rfl, .inr ⟨rfl, ?_⟩⟩⟩
          exact Text.occurs_append _ _ _ (by decide +kernel)
      | some id =>
          simp only [Option.mem_some_iff, forall_eq']
          exact adoptsOwn_ok_iff rfl

/-- A placement whose acknowledgement carries no id ends with an order of its own, or with
    the report that it may be live, exactly if every candidate of another submission is
    outdone by one of its own. -/
theorem adopts_own_iff (spelled : Json ℚ → String) (created : String → Prop)
    {placement : Placement} (hsent : placement.sent) (placed_after_ts : ℚ) {response : Json ℚ}
    (hno_id : extract_broker_order_id spelled response = none) (live : Option (Json ℚ)) :
    AdoptsOwn created (placement.outcome spelled placed_after_ts response live) ↔
      OwnOutdoes spelled created (placement.wanted placed_after_ts) (listed live) := by
  rw [outcome_adoptsOwn_iff created hsent, ← lookup_own_iff, find_broker_order_id, hno_id]
  rfl

end extract

/-! ### Two attempts of one leg -/

/-- An order as the gateway lists it, without a time. -/
def live_entry (id : String) : Json ℚ :=
  .obj [("conid", .str "101" none), ("side", .str "BUY" none), ("totalSize", .num 10),
    ("orderId", .str id none)]

/-- An order as listed, with the time of its last execution in milliseconds. -/
def timed_entry (id : String) (millis : ℚ) : Json ℚ :=
  .obj [("conid", .str "101" none), ("side", .str "BUY" none), ("totalSize", .num 10),
    ("lastExecutionTime_r", .num millis), ("orderId", .str id none)]

/-- A BUY of ten. -/
def ten_at_forty : Placement :=
  .buy ⟨none, none, false, none⟩ "place_fok" ⟨"ARB-1", "101", "M", .yes, 2 / 5, 10⟩

/-- An empty acknowledgement carries no id. -/
theorem extract_broker_order_id_empty (spelled : Json ℚ → String) :
    extract_broker_order_id spelled (.obj []) = none := by
  rw [extract_broker_order_id]
  rfl

/-- The second attempt created 7002, the broker lists 7002 and then 7001, which the first
    attempt left: the second attempt ends with 7001. -/
theorem earlier_attempt_is_adopted :
    extract_broker_order_id (fun _ => "") (.obj []) = none ∧
      ¬ AdoptsOwn (· = "7002") (ten_at_forty.outcome (fun _ => "") 1780000000 (.obj [])
        (some (.arr [live_entry "7002", live_entry "7001"]))) := by
  refine ⟨extract_broker_order_id_empty _, ?_⟩
  have hfound : find_broker_order_id (fun _ => "") (ten_at_forty.wanted 1780000000) (.obj [])
      (some (.arr [live_entry "7002", live_entry "7001"])) = some "7001" := by
    rw [find_broker_order_id, extract_broker_order_id_empty]
    decide +kernel
  have hsent : ten_at_forty.sent := by
    change refusal _ _ _ = none
    decide
  rw [outcome_adoptsOwn_iff _ hsent, hfound]
  simp

/-- Where the times are listed, the order of a minute ago is passed over. -/
theorem adopts_own_iff_timed :
    AdoptsOwn (· = "7002") (ten_at_forty.outcome (fun _ => "") 1780000000 (.obj [])
        (some (.arr [timed_entry "7002" 1780000001000, timed_entry "7001" 1779999940000]))) := by
  have hsent : ten_at_forty.sent := by
    change refusal _ _ _ = none
    decide
  rw [adopts_own_iff (fun _ => "") _ hsent 1780000000 (extract_broker_order_id_empty _)]
  have hold : looks_alike (fun _ => "") (ten_at_forty.wanted 1780000000)
      (timed_entry "7001" 1779999940000) = false := by decide +kernel
  have hnew : entry_order_id (fun _ => "") (timed_entry "7002" 1780000001000) = "7002" := by
    decide
  intro before e after heq halike hother
  have hmem : e ∈ [timed_entry "7002" 1780000001000, timed_entry "7001" 1779999940000] := by
    rw [listed] at heq
    simp [heq]
  simp only [List.mem_cons, List.not_mem_nil, or_false] at hmem
  obtain rfl | rfl := hmem
  · exact absurd hnew hother
  · simp [Candidate, hold] at halike

end Forecastex
