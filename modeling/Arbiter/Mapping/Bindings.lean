import Arbiter.Mapping.Conids
import Arbiter.Mapping.Pairs
import Arbiter.Mapping.Passes
import Arbiter.Mapping.Validation

/-! # Conids that Belong Together

  `forecastex_discovery.discover` binds a mapping to two contracts of ForecastEx, the call
  and the put of one market. The call is chosen among the children an event lists, the put
  by its right and, where it is told, its strike; the maturity is never compared, and an id
  that is not found anew stays as it was.

  ## Contents

  - Section 1: contracts, and listings that are true of them.
  - Section 2: what the discovery stores on a mapping.
  - Section 3: when this is the call and the put of one market.
  - Section 4: what a pass leaves in the store.
-/

namespace Mapping

open Effect
open Forecastex (Child Catalogue is_valid_conid)

/-! ## Section 1: Contracts -/

/-- The ids name the call and the put of one market. -/
def OneMarket (cat : Catalogue) (yes no : String) : Prop :=
  ∃ k l, cat (Text.strip yes) = some k ∧ cat (Text.strip no) = some l ∧ k.right = .call ∧
    l.right = .put ∧ l.parent = k.parent ∧ l.strike = k.strike ∧ l.maturity = k.maturity

/-- A listed contract is as it is told. -/
structure TellsTrue (child : Child) (k : Forecastex.Contract) : Prop where
  call : child.right.toUpper ∈ yes_rights → k.right = .call
  put : child.right.toUpper ∈ no_rights → k.right = .put
  strike : ∀ q, Forecastex.strike_f child.strike = some q → k.strike = some q

/-- What is listed is so. -/
structure ListsTruly (client : FxClient) (events : List FxEvent) (cat : Catalogue) : Prop where
  /-- What is listed together has one parent. -/
  listed : ∀ m conid children, client.children m conid = some children →
    ∃ parent, ∀ child ∈ children, ∃ k, cat (child_conid child) = some k ∧ k.parent = parent ∧
      TellsTrue child k
  /-- An event is no contract. -/
  event : ∀ e ∈ events, is_valid_conid e.conid = true ∧ cat (Text.strip e.conid) = none
  valid : ∀ id k, cat id = some k → is_valid_conid id = true

/-! ## Section 2: What is stored -/

/-- What the discovery finds for a mapping. -/
inductive Binding
  /-- An event without children: its own id is taken for the YES. -/
  | event (conid : String)
  /-- A YES without a NO. -/
  | alone (yes : Child)
  | both (yes no : Child)
  /-- A NO beside the YES that is bound, as this is listed with it. -/
  | beside (yes : Option Child) (no : Child)

namespace Binding

/-- The YES a mapping is left with. -/
def yes (m : MarketMapping) : Binding → String
  | .event conid => conid
  | .alone yes | .both yes _ => yes.conid
  | .beside _ _ => m.forecastex_contract_id

/-- The NO a mapping is left with: one that is not found stays as it was. -/
def no (m : MarketMapping) : Binding → String
  | .event _ | .alone _ => m.forecastex_no_contract_id
  | .both _ no | .beside _ no => child_conid no

end Binding

/-- What the children of an event say. -/
def listed_binding (event_conid : String) : List Child → Option Binding
  | [] => some (.event event_conid)
  | first :: rest =>
      let yes_child := ((first :: rest).find? (·.right.toUpper ∈ yes_rights)).getD first
      if is_blocklisted_forecastex_conid yes_child.conid then none
      else
        match (first :: rest).find? (Forecastex.takes yes_child.conid no_rights
          (Forecastex.strike_f yes_child.strike)) with
        | some no_child => some (.both yes_child no_child)
        | none => some (.alone yes_child)

section stored

variable (client : FxClient) (events : List FxEvent)

/-- What the discovery finds for a mapping without a YES. -/
def attached_binding (m : MarketMapping) : Option Binding :=
  match (scored_events client events m).find? (!is_blocklisted_forecastex_conid ·.conid) with
  | none => none
  | some best_event =>
      if client.score best_event.title m < client.min_score then none
      else listed_binding best_event.conid ((client.children m best_event.conid).getD [])

/-- What it finds for one without a NO. -/
def backfilled_binding (m : MarketMapping) : Option Binding :=
  let yes_conid := Text.strip m.forecastex_contract_id
  if yes_conid = "" || is_blocklisted_forecastex_conid yes_conid then none
  else
    let siblings := (client.children m yes_conid).getD []
    let yes_child := siblings.find? (child_conid · = yes_conid)
    let strike := yes_child.bind fun s => (s.strike.orElse (.num 0)).float
    (siblings.find? fun s => Forecastex.takes yes_conid no_rights strike s &&
      !is_blocklisted_forecastex_conid (child_conid s)).map (.beside yes_child)

/-- What it finds for a mapping. -/
def binding (m : MarketMapping) : Option Binding :=
  if m.forecastex_not_available then none
  else if !is_valid_conid m.forecastex_contract_id then
    if events = [] then none else attached_binding client events m
  else if !is_valid_conid m.forecastex_no_contract_id then backfilled_binding client m
  else none

end stored

variable {client : FxClient} {events : List FxEvent} {cat : Catalogue} {m : MarketMapping}

/-- A NO that is taken has an id. -/
theorem takes_ne {conid : String} {rights : List String} {strike : Option ℚ} {child : Child}
    (h : Forecastex.takes conid rights strike child = true) :
    child.right.toUpper ∈ rights ∧ child_conid child ≠ "" ∧ child_conid child ≠ conid := by
  simp only [Forecastex.takes, Bool.and_eq_true, decide_eq_true_eq] at h
  exact ⟨h.1.1.1, h.1.2, h.2⟩

/-- The ids that an event's children lead to are those of the binding. -/
theorem resolved_conids_eq (event_conid : String) (children : List Child) :
    resolved_conids event_conid children = .unavailable ∧
        listed_binding event_conid children = none ∨
      ∃ no b, resolved_conids event_conid children = .conids (b.yes m) no ∧
        listed_binding event_conid children = some b ∧
        or_text no m.forecastex_no_contract_id = b.no m := by
  cases children with
  | nil => exact .inr ⟨"", .event event_conid, rfl, rfl, rfl⟩
  | cons first rest =>
      simp only [resolved_conids, listed_binding]
      generalize ((first :: rest).find? (·.right.toUpper ∈ yes_rights)).getD first = yes_child
      by_cases hblocked : is_blocklisted_forecastex_conid yes_child.conid = true
      · exact .inl ⟨if_pos hblocked, if_pos hblocked⟩
      · rw [if_neg hblocked, if_neg hblocked]
        right
        cases hno : (first :: rest).find? (Forecastex.takes yes_child.conid no_rights
            (Forecastex.strike_f yes_child.strike)) with
        | none => exact ⟨"", .alone yes_child, rfl, rfl, rfl⟩
        | some no_child =>
            obtain ⟨-, hne, -⟩ := takes_ne (List.find?_some hno)
            exact ⟨child_conid no_child, .both yes_child no_child, rfl, rfl, if_neg hne⟩

/-- What an attachment writes is the binding. -/
theorem attachment_eq (client : FxClient) (events : List FxEvent) (m : MarketMapping) :
    (∀ yes no, attachment client events m ≠ .conids yes no) ∧
        attached_binding client events m = none ∨
      ∃ no b, attachment client events m = .conids (b.yes m) no ∧
        attached_binding client events m = some b ∧
        or_text no m.forecastex_no_contract_id = b.no m := by
  unfold attachment attached_binding
  cases (scored_events client events m).find? (!is_blocklisted_forecastex_conid ·.conid) with
  | none => exact .inl ⟨nofun, rfl⟩
  | some best_event =>
      by_cases hscore : client.score best_event.title m < client.min_score
      · simp only [if_pos hscore]
        exact .inl ⟨nofun, trivial⟩
      · simp only [if_neg hscore]
        obtain ⟨hconids, hnone⟩ | hsome := resolved_conids_eq (m := m) best_event.conid
          ((client.children m best_event.conid).getD [])
        · rw [hconids]
          exact .inl ⟨nofun, hnone⟩
        · exact .inr hsome

/-- What a backfill writes is the binding. -/
theorem no_candidate_eq (client : FxClient) (m : MarketMapping) :
    no_candidate client m = (backfilled_binding client m).map (Binding.no m) := by
  unfold no_candidate backfilled_binding
  simp only
  split_ifs
  · rfl
  · rw [Option.map_map]
    rfl

/-- A backfill leaves the YES. -/
theorem backfilled_yes {b : Binding} (hb : backfilled_binding client m = some b) :
    b.yes m = m.forecastex_contract_id := by
  unfold backfilled_binding at hb
  simp only at hb
  split_ifs at hb
  obtain ⟨no, -, rfl⟩ := Option.map_eq_some_iff.mp hb
  rfl

/-! ## Section 3: Bindings that are true -/

/-- What the comparisons between a YES and a NO that are listed together leave open is so:
    the YES is a call, and the NO has its strike and its maturity. -/
def LeftOpen (cat : Catalogue) (yes no : Child) : Prop :=
  ∀ k l, cat (child_conid yes) = some k → cat (child_conid no) = some l →
    (yes.right.toUpper ∈ yes_rights ∨ k.right = .call) ∧
      ((∃ q, Forecastex.strike_f yes.strike = some q ∧ Forecastex.strike_f no.strike = some q) ∨
        l.strike = k.strike) ∧
      l.maturity = k.maturity

/-- What the discovery does not look at is so: no id stays that belongs to another market,
    and what is compared is enough. -/
def Binding.Truly (cat : Catalogue) (m : MarketMapping) : Binding → Prop
  | .event _ => is_valid_conid m.forecastex_no_contract_id = false
  | .alone yes => is_valid_conid m.forecastex_no_contract_id = true →
      OneMarket cat yes.conid m.forecastex_no_contract_id
  | .both yes no => LeftOpen cat yes no
  | .beside none no => OneMarket cat m.forecastex_contract_id (child_conid no)
  | .beside (some yes) no => LeftOpen cat yes no

/-- A NO that is taken beside a YES of its listing is the put of its market where what is
    left open is so. -/
theorem oneMarket_iff_leftOpen (htrue : ListsTruly client events cat) {conid : String}
    {children : List Child} (hchildren : client.children m conid = some children)
    {yes no : Child} (hyes : yes ∈ children) (hno : no ∈ children)
    (hright : no.right.toUpper ∈ no_rights) :
    OneMarket cat (child_conid yes) (child_conid no) ↔ LeftOpen cat yes no := by
  obtain ⟨parent, hlisted⟩ := htrue.listed m conid children hchildren
  obtain ⟨k, hk, hkparent, hktold⟩ := hlisted yes hyes
  obtain ⟨l, hl, hlparent, hltold⟩ := hlisted no hno
  have hstripped (child : Child) : Text.strip (child_conid child) = child_conid child :=
    Text.strip_strip child.conid
  constructor
  · rintro ⟨k', l', hk', hl', hcall, -, -, hstrike, hmaturity⟩ k₁ l₁ hk₁ hl₁
    rw [hstripped, hk₁, Option.some.injEq] at hk'
    rw [hstripped, hl₁, Option.some.injEq] at hl'
    subst hk' hl'
    exact ⟨.inr hcall, .inr hstrike, hmaturity⟩
  · intro hopen
    obtain ⟨hcall, hstrike, hmaturity⟩ := hopen k l hk hl
    refine ⟨k, l, by rw [hstripped, hk], by rw [hstripped, hl], hcall.elim hktold.call id,
      hltold.put hright, by rw [hlparent, hkparent], ?_, hmaturity⟩
    obtain ⟨q, hq, hq'⟩ | hstrike := hstrike
    · rw [hltold.strike q hq', hktold.strike q hq]
    · exact hstrike

/-- Surrounding blanks do not matter. -/
theorem valid_child_conid (child : Child) :
    is_valid_conid (child_conid child) = is_valid_conid child.conid := by
  simp only [is_valid_conid, child_conid, Text.strip_strip]

/-- Where a binding comes from. -/
theorem binding_cases {b : Binding} (h : binding client events m = some b) :
    (is_valid_conid m.forecastex_contract_id = false ∧ ∃ e ∈ events,
      listed_binding e.conid ((client.children m e.conid).getD []) = some b) ∨
    (is_valid_conid m.forecastex_contract_id = true ∧ ∃ yes no, b = .beside yes no ∧
      ∃ children, client.children m (Text.strip m.forecastex_contract_id) = some children ∧
        children.find? (child_conid · = Text.strip m.forecastex_contract_id) = yes ∧
        no ∈ children ∧ no.right.toUpper ∈ no_rights) := by
  unfold binding at h
  split_ifs at h with hmarked hyes hempty hno
  · refine .inl ⟨by simpa using hyes, ?_⟩
    unfold attached_binding at h
    split at h
    · cases h
    · next best_event hbest =>
        split_ifs at h
        have hmem : best_event ∈ scored_events client events m := List.mem_of_find?_eq_some hbest
        rw [scored_events, List.mem_insertionSort] at hmem
        exact ⟨best_event, List.mem_of_mem_filter hmem, h⟩
  · -- the YES side is there already, and the NO side is one of the same parent's
    refine .inr ⟨by simpa using hyes, ?_⟩
    unfold backfilled_binding at h
    simp only at h
    split_ifs at h
    cases hchildren : client.children m (Text.strip m.forecastex_contract_id) with
    | none =>
        rw [hchildren] at h
        cases h
    | some children =>
        rw [hchildren, Option.getD_some] at h
        obtain ⟨no, hfind, rfl⟩ := Option.map_eq_some_iff.mp h
        have htaken := List.find?_some hfind
        rw [Bool.and_eq_true] at htaken
        exact ⟨_, no, rfl, children, rfl, rfl, List.mem_of_find?_eq_some hfind,
          (takes_ne htaken.1).1⟩

/-- What the children of an event lead to. -/
theorem listed_binding_cases {event_conid : String} {children : List Child} {b : Binding}
    (h : listed_binding event_conid children = some b) :
    (b = .event event_conid) ∨ (∃ yes ∈ children, b = .alone yes) ∨
      ∃ yes ∈ children, ∃ no ∈ children, b = .both yes no ∧ no.right.toUpper ∈ no_rights := by
  cases children with
  | nil => exact .inl (Option.some.inj h).symm
  | cons first rest =>
      right
      simp only [listed_binding] at h
      generalize hyes : ((first :: rest).find? (·.right.toUpper ∈ yes_rights)).getD first =
        yes_child at h
      have hmem : yes_child ∈ first :: rest := by
        rw [← hyes]
        cases hfind : (first :: rest).find? (·.right.toUpper ∈ yes_rights) with
        | none => exact List.mem_cons_self ..
        | some child => exact List.mem_of_find?_eq_some hfind
      split_ifs at h
      split at h
      · next no_child hno =>
          cases h
          exact .inr ⟨yes_child, hmem, no_child, List.mem_of_find?_eq_some hno, rfl,
            (takes_ne (List.find?_some hno)).1⟩
      · cases h
        exact .inl ⟨yes_child, hmem, rfl⟩

/-- The ids that are stored are the call and the put of one market exactly if the binding is
    true. -/
theorem oneMarket_iff_truly (htrue : ListsTruly client events cat) {b : Binding}
    (h : binding client events m = some b) :
    (is_valid_conid (b.yes m) = true → is_valid_conid (b.no m) = true →
      OneMarket cat (b.yes m) (b.no m)) ↔ b.Truly cat m := by
  have hvalid {m : MarketMapping} {conid : String} {children : List Child}
      (hchildren : client.children m conid = some children) {child : Child}
      (hchild : child ∈ children) : is_valid_conid (child_conid child) = true := by
    obtain ⟨parent, hlisted⟩ := htrue.listed m conid children hchildren
    obtain ⟨k, hk, -⟩ := hlisted child hchild
    exact htrue.valid _ k hk
  obtain ⟨-, e, he, hlist⟩ | ⟨hyes, yes, no, rfl, children, hchildren, hfind, hno, hright⟩ :=
    binding_cases h
  · obtain ⟨hevent, hcat⟩ := htrue.event e he
    obtain rfl | hlisted := listed_binding_cases hlist
    · -- the event's own id is no call
      simp only [Binding.yes, Binding.no, Binding.Truly, hevent, forall_true_left]
      refine ⟨fun hpair => ?_, fun hno hvalid => ?_⟩
      · by_contra hno
        obtain ⟨k, -, hk, -⟩ := hpair (by simpa using hno)
        rw [hcat] at hk
        cases hk
      · rw [hno] at hvalid
        cases hvalid
    · obtain ⟨children, hchildren⟩ : ∃ children, client.children m e.conid = some children := by
        cases hchildren : client.children m e.conid with
        | some children => exact ⟨children, rfl⟩
        | none =>
            rw [hchildren] at hlisted
            obtain ⟨_, hmem, -⟩ | ⟨_, hmem, -⟩ := hlisted <;> cases hmem
      rw [hchildren, Option.getD_some] at hlisted
      obtain ⟨yes, hyes, rfl⟩ | ⟨yes, hyes, no, hno, rfl, hright⟩ := hlisted
      · have hvalid_yes := hvalid hchildren hyes
        rw [valid_child_conid] at hvalid_yes
        simp only [Binding.yes, Binding.no, Binding.Truly, hvalid_yes, forall_true_left]
      · have hvalid_yes := hvalid hchildren hyes
        rw [valid_child_conid] at hvalid_yes
        rw [Binding.Truly, ← oneMarket_iff_leftOpen htrue hchildren hyes hno hright]
        simp only [Binding.yes, Binding.no, hvalid_yes, hvalid hchildren hno, forall_true_left]
        simp only [OneMarket, child_conid, Text.strip_strip]
  · have hvalid_no := hvalid hchildren hno
    simp only [Binding.yes, Binding.no, hyes, hvalid_no, forall_true_left]
    cases yes with
    | none => exact Iff.rfl
    | some yes =>
        have hself : child_conid yes = Text.strip m.forecastex_contract_id := by
          simpa using List.find?_some hfind
        rw [Binding.Truly, ← oneMarket_iff_leftOpen htrue hchildren
          (List.mem_of_find?_eq_some hfind) hno hright, hself]
        simp only [OneMarket, Text.strip_strip]

/-! ## Section 4: The store -/

/-- The ids of ForecastEx that the row of a mapping binds. -/
def conids (t : Mappings) (id : String) : Option (String × String) :=
  (t.find id).map fun r => (r.forecastex_contract_id, r.forecastex_no_contract_id)

/-- From `t` to `t'` rows have only come to bind the ids that `pairs` allows them. -/
def Rebinds (pairs : String → String × String → Prop) (t t' : Mappings) : Prop :=
  ∀ id, conids t' id = conids t id ∨ ∃ pair, pairs id pair ∧ conids t' id = some pair

section rebinds

variable {pairs : String → String × String → Prop} {t t₀ : Mappings} {w w' : World}
         {spelled : Json ℚ → String} {ok : World → (c : Call) → Answer c → Prop}

theorem Rebinds.refl (t : Mappings) : Rebinds pairs t t := fun _ => .inl rfl

theorem conids_update (t : Mappings) (p : MarketMapping → Bool)
    (f : MarketMapping → MarketMapping) (hf : ∀ r, (f r).canonical_id = r.canonical_id)
    (hkept : ∀ r, (f r).forecastex_contract_id = r.forecastex_contract_id ∧
      (f r).forecastex_no_contract_id = r.forecastex_no_contract_id) (id : String) :
    conids (update_where t p f hf) id = conids t id := by
  unfold conids
  rw [find_update_where, Option.map_map]
  refine congrArg (fun g => (t.find id).map g) (funext fun r => ?_)
  obtain ⟨hyes, hno⟩ := hkept r
  by_cases hp : p r = true <;> simp [hp, hyes, hno]

theorem Rebinds.update (h : Rebinds pairs t₀ t) (p : MarketMapping → Bool)
    (f : MarketMapping → MarketMapping) (hf : ∀ r, (f r).canonical_id = r.canonical_id)
    (hkept : ∀ r, (f r).forecastex_contract_id = r.forecastex_contract_id ∧
      (f r).forecastex_no_contract_id = r.forecastex_no_contract_id) :
    Rebinds pairs t₀ (update_where t p f hf) := by
  intro id
  rw [conids_update t p f hf hkept]
  exact h id

theorem Rebinds.retire (h : Rebinds pairs t₀ t) (p : MarketMapping → Bool) (stamp : ℤ) :
    Rebinds pairs t₀ (retire_where t p stamp) :=
  h.update p _ _ fun _ => ⟨rfl, rfl⟩

theorem Rebinds.put (h : Rebinds pairs t₀ t) {m : MarketMapping}
    (hm : pairs m.canonical_id (m.forecastex_contract_id, m.forecastex_no_contract_id)) :
    Rebinds pairs t₀ (t.put m) := by
  intro id
  unfold conids
  rw [Table.find_put]
  split_ifs with hid
  · exact .inr ⟨_, hid ▸ hm, rfl⟩
  · exact h id

/-- What an upsert writes keeps its ids. -/
theorem enforce_conids (spelled : Json ℚ → String) (m : MarketMapping) :
    (enforce_auto_trade_safety spelled m).canonical_id = m.canonical_id ∧
      (enforce_auto_trade_safety spelled m).forecastex_contract_id = m.forecastex_contract_id ∧
      (enforce_auto_trade_safety spelled m).forecastex_no_contract_id =
        m.forecastex_no_contract_id ∧
      (enforce_auto_trade_safety spelled m).resolution_criteria = m.resolution_criteria := by
  obtain he | he := enforce_eq spelled m <;> rw [he] <;> exact ⟨rfl, rfl, rfl, rfl⟩

/-- Writing a row back binds its ids, and no others. -/
theorem write_back_rebinds (hw : Rebinds pairs t₀ w.table) {m : MarketMapping}
    (hm : pairs m.canonical_id (m.forecastex_contract_id, m.forecastex_no_contract_id)) :
    Raising.wp (store_env.restrict ok) (write_back spelled m)
      (fun _ w' => Rebinds pairs t₀ w'.table) w := by
  refine turn_to_keeps fun _ => ?_
  refine Raising.wp_bind_keeps (Raising.wp_attempt.2 ?_) fun _ _ hw => Raising.wp_pure.2 hw
  intro result w' h
  obtain ⟨hid, hyes, hno, -⟩ := enforce_conids spelled m
  have hput (stamp : ℤ) (old : Option MarketMapping) :
      Rebinds pairs t₀
        (w.table.put ((enforce_auto_trade_safety spelled m).inserted stamp old)) := by
    refine hw.put ?_
    simp only [MarketMapping.inserted, hid, hyes, hno]
    exact hm
  obtain ⟨-, rfl⟩ | ⟨stamp, t, rfl, ⟨-, rfl, -⟩ | ⟨stamp', ids, -, htable, -⟩⟩ := upsert_ends h
  · exact hw
  · exact hput _ _
  · rw [htable]
    unfold retire_duplicates
    simp only
    split_ifs
    · exact (hput _ _).retire _ _
    · exact hput _ _

/-- The ids of a row are written back where its criteria can be read. -/
theorem write_back_stores (spelled : Json ℚ → String)
    (hread : m.resolution_criteria.readable = true) (w : World) :
    ∃ written w', Raising.Ends store_env (write_back spelled m) w (some written) w' ∧
      conids w'.table m.canonical_id =
        some (m.forecastex_contract_id, m.forecastex_no_contract_id) := by
  obtain ⟨hid, hyes, hno, hcriteria⟩ := enforce_conids spelled m
  obtain ⟨w₁, hw₁⟩ : ∃ w₁ : World, w₁ = { w with
      table := w.table.put ((enforce_auto_trade_safety spelled m).inserted 0
        (w.table.find (enforce_auto_trade_safety spelled m).canonical_id)) } := ⟨_, rfl⟩
  have hanswer :
      store_oracle w (.insert (enforce_auto_trade_safety spelled m)) = (some (), w₁) := by
    rw [hw₁]
    exact if_pos (by rw [hcriteria, hread])
  have hinsert := ends_after (insert (enforce_auto_trade_safety spelled m)) w
  change Raising.Ends store_env (insert _) w (store_oracle w (.insert _)).1
    (store_oracle w (.insert _)).2 at hinsert
  rw [hanswer] at hinsert
  -- what follows the insert retires rows only
  let follow : Op MarketMapping := do
    let expired_duplicate_ids ← expire_duplicate_exact_pair_mappings
      (enforce_auto_trade_safety spelled m)
    runtime_drop expired_duplicate_ids
    runtime_put (enforce_auto_trade_safety spelled m).canonical_id
      (enforce_auto_trade_safety spelled m).to_dict
    pure (enforce_auto_trade_safety spelled m)
  have hkeeps : Raising.wp (store_env.restrict fun _ _ _ => True) follow
      (fun _ w' => Rebinds (fun _ _ => False) w₁.table w'.table) w₁ := by
    refine Raising.wp_bind_keeps ?_ fun ids w₂ hw₂ => Raising.wp_bind_keeps ?_ fun _ w₃ hw₃ =>
      Raising.wp_bind_keeps ?_ fun _ w₄ hw₄ => Raising.wp_pure.2 hw₄
    · intro result w₂ h
      obtain ⟨-, rfl, -⟩ | ⟨stamp, ids, -, rfl, -⟩ := expire_duplicates_ends h
      · exact .refl _
      · simp only [retire_duplicates]
        split_ifs
        · exact (Rebinds.refl _).retire _ _
        · exact .refl _
    · intro result w₃ h
      obtain ⟨-, rfl⟩ := ends_runtime_drop h
      exact hw₂
    · intro result w₄ h
      obtain ⟨-, rfl⟩ := ends_runtime_put h
      exact hw₃
  have hfollow := ends_after follow w₁
  have hsame := hkeeps _ _ (by rwa [Env.restrict_true])
  refine ⟨_, _, Raising.ends_bind.2 (.inl ⟨(), w, ends_after (turn_to (.attach m)) w,
    Raising.ends_bind.2 (.inl ⟨_, _, Raising.ends_attempt.2 ⟨_, rfl,
      Raising.ends_bind.2 (.inl ⟨(), _, hinsert, hfollow⟩)⟩,
      Raising.ends_pure.2 ⟨rfl, rfl⟩⟩)⟩), ?_⟩
  obtain hsame | ⟨_, hfalse, -⟩ := hsame m.canonical_id
  · rw [hsame, hw₁, conids, Table.find_put, if_pos (by simp [MarketMapping.inserted, hid])]
    simp [MarketMapping.inserted, hyes, hno]
  · exact hfalse.elim

/-! ### One mapping -/

/-- A mapping without a YES comes to bind what is found for it. -/
theorem attach_rebinds (hw : Rebinds pairs t₀ w.table)
    (hm : ∀ b, attached_binding client events m = some b → pairs m.canonical_id (b.yes m, b.no m))
    (dry_run : Bool) (matched : ℕ) :
    Raising.wp (store_env.restrict ok) (attach_conids client spelled events dry_run matched m)
      (fun _ w' => Rebinds pairs t₀ w'.table) w := by
  unfold attach_conids
  split
  · exact Raising.wp_pure.2 hw
  · split_ifs
    · exact Raising.wp_pure.2 hw
    · refine Raising.wp_bind_keeps (Raising.wp_attempt.2 ?_) fun _ _ hw => Raising.wp_pure.2 hw
      intro result w' h
      obtain ⟨-, ⟨-, rfl⟩ | ⟨stamp, rfl, -⟩⟩ := ends_statement.1 h
      · exact hw
      · exact hw.update _ _ (MarketMapping.mark_id stamp true) fun _ => ⟨rfl, rfl⟩
  · next yes no hconids =>
      split_ifs
      · exact Raising.wp_pure.2 hw
      · refine Raising.wp_bind_keeps (write_back_rebinds hw ?_) fun _ _ hw => Raising.wp_pure.2 hw
        obtain ⟨hnone, -⟩ | ⟨no', b, hattach, hb, hno⟩ := attachment_eq client events m
        · exact absurd hconids (hnone yes no)
        · rw [hconids, Attachment.conids.injEq] at hattach
          obtain ⟨rfl, rfl⟩ := hattach
          rw [hno]
          exact hm b hb

/-- So does one without a NO. -/
theorem backfill_rebinds (hw : Rebinds pairs t₀ w.table)
    (hm : ∀ b, backfilled_binding client m = some b → pairs m.canonical_id (b.yes m, b.no m))
    (dry_run : Bool) :
    Raising.wp (store_env.restrict ok) (backfill_conid client spelled dry_run () m)
      (fun _ w' => Rebinds pairs t₀ w'.table) w := by
  unfold backfill_conid
  rw [no_candidate_eq]
  cases hb : backfilled_binding client m with
  | none => exact Raising.wp_pure.2 hw
  | some b =>
      simp only [Option.map_some]
      split_ifs
      · exact Raising.wp_pure.2 hw
      · refine Raising.wp_bind_keeps (write_back_rebinds hw ?_) fun _ _ hw => Raising.wp_pure.2 hw
        have hpair := hm b hb
        rwa [backfilled_yes hb] at hpair

/-- Neither raises. -/
theorem attach_returns (client : FxClient) (events : List FxEvent) (spelled : Json ℚ → String)
    (matched : ℕ) (m : MarketMapping) (w : World) : ∃ matched' w',
    Raising.Ends store_env (attach_conids client spelled events false matched m) w
      (some matched') w' := by
  unfold attach_conids
  split
  · exact ⟨_, w, Raising.ends_pure.2 ⟨rfl, rfl⟩⟩
  · exact ⟨_, _, Raising.ends_bind.2 (.inl ⟨_, _, Raising.ends_attempt.2 ⟨_, rfl,
      ends_after (mark_forecastex_unavailable m.canonical_id true) w⟩,
      Raising.ends_pure.2 ⟨rfl, rfl⟩⟩)⟩
  · exact ⟨_, _, Raising.ends_bind.2 (.inl ⟨_, _, Raising.ends_bind.2 (.inl ⟨(), w,
      ends_after (turn_to _) w, Raising.ends_bind.2 (.inl ⟨_, _, Raising.ends_attempt.2 ⟨_, rfl,
        ends_after (upsert spelled _) w⟩, Raising.ends_pure.2 ⟨rfl, rfl⟩⟩)⟩),
      Raising.ends_pure.2 ⟨rfl, rfl⟩⟩)⟩

theorem backfill_returns (client : FxClient) (spelled : Json ℚ → String) (done : Unit)
    (m : MarketMapping) (w : World) : ∃ done' w',
    Raising.Ends store_env (backfill_conid client spelled false done m) w (some done') w' := by
  unfold backfill_conid
  split
  · exact ⟨_, w, Raising.ends_pure.2 ⟨rfl, rfl⟩⟩
  · exact ⟨_, _, Raising.ends_bind.2 (.inl ⟨_, _, Raising.ends_bind.2 (.inl ⟨(), w,
      ends_after (turn_to _) w, Raising.ends_bind.2 (.inl ⟨_, _, Raising.ends_attempt.2 ⟨_, rfl,
        ends_after (upsert spelled _) w⟩, Raising.ends_pure.2 ⟨rfl, rfl⟩⟩)⟩),
      Raising.ends_pure.2 ⟨rfl, rfl⟩⟩)⟩

/-- What is found for a mapping is stored where its criteria can be read. -/
theorem attach_stores (hread : m.resolution_criteria.readable = true) {b : Binding}
    (hb : attached_binding client events m = some b) (matched : ℕ) (w : World) : ∃ matched' w',
    Raising.Ends store_env (attach_conids client spelled events false matched m) w
      (some matched') w' ∧ conids w'.table m.canonical_id = some (b.yes m, b.no m) := by
  obtain ⟨-, hnone⟩ | ⟨no, b', hattach, hb', hno⟩ := attachment_eq client events m
  · rw [hb] at hnone
    cases hnone
  · obtain rfl : b = b' := Option.some.inj (hb.symm.trans hb')
    obtain ⟨written, w', hwrite, hstored⟩ := write_back_stores spelled (m := { m with
      forecastex_contract_id := b.yes m
      forecastex_no_contract_id := b.no m }) hread w
    unfold attach_conids
    simp only [hattach, hno]
    exact ⟨_, w', Raising.ends_bind.2 (.inl ⟨_, _, hwrite, Raising.ends_pure.2 ⟨rfl, rfl⟩⟩),
      hstored⟩

theorem backfill_stores (hread : m.resolution_criteria.readable = true) {b : Binding}
    (hb : backfilled_binding client m = some b) (done : Unit) (w : World) : ∃ done' w',
    Raising.Ends store_env (backfill_conid client spelled false done m) w (some done') w' ∧
      conids w'.table m.canonical_id = some (b.yes m, b.no m) := by
  rw [backfilled_yes hb]
  obtain ⟨written, w', hwrite, hstored⟩ := write_back_stores spelled (m := { m with
    forecastex_no_contract_id := b.no m }) hread w
  unfold backfill_conid
  simp only [no_candidate_eq, hb, Option.map_some]
  exact ⟨_, w', Raising.ends_bind.2 (.inl ⟨_, _, hwrite, Raising.ends_pure.2 ⟨rfl, rfl⟩⟩),
    hstored⟩

/-! ### A pass -/

/-- What a pass finds for the mappings it goes over. -/
def Finds (client : FxClient) (events : List FxEvent) (t : Mappings) (id : String)
    (pair : String × String) : Prop :=
  ∃ m ∈ t.rows, m.status = .confirmed ∧ m.canonical_id = id ∧
    ∃ b, binding client events m = some b ∧ pair = (b.yes m, b.no m)

/-- What is found for a mapping without a YES, or with a YES but no NO. -/
theorem binding_of_attached {b : Binding} (hmarked : m.forecastex_not_available = false)
    (hyes : is_valid_conid m.forecastex_contract_id = false) (hevents : events ≠ [])
    (hb : attached_binding client events m = some b) : binding client events m = some b := by
  simp [binding, hmarked, hyes, hevents, hb]

theorem binding_of_backfilled {b : Binding} (hmarked : m.forecastex_not_available = false)
    (hyes : is_valid_conid m.forecastex_contract_id = true)
    (hno : is_valid_conid m.forecastex_no_contract_id = false)
    (hb : backfilled_binding client m = some b) : binding client events m = some b := by
  simp [binding, hmarked, hyes, hno, hb]

/-- A pass leaves the ids of every row, or those it finds. -/
theorem discover_rebinds (spelled : Json ℚ → String) (w : World) :
    Raising.wp (store_env.restrict ok) (discover client spelled events false)
      (fun _ w' => Rebinds (Finds client events w.table) w.table w'.table) w := by
  refine Raising.wp_bind.2 fun result w₁ hrows => ?_
  obtain ⟨rfl, hrows⟩ := iter_confirmed_ends hrows
  refine ⟨fun confirmed hconfirmed => ?_, fun _ => .refl _⟩
  have hread := hrows confirmed hconfirmed
  have hsearched (m : MarketMapping) (hm : m ∈ searched confirmed) :
      (m ∈ w₁.table.rows ∧ m.status = .confirmed) ∧ m.forecastex_not_available = false := by
    obtain ⟨hm, hmarked⟩ := List.mem_filter.mp hm
    exact ⟨hread m hm, by simpa using hmarked⟩
  refine Raising.wp_bind_keeps (Raising.wp_foldlM (J := fun w' : World =>
      Rebinds (Finds client events w₁.table) w₁.table w'.table)
      (fun matched m hm w hw => attach_rebinds hw (fun b hb => ?_) false matched) 0 (.refl _))
    fun matched w hw => Raising.wp_bind_keeps (Raising.wp_foldlM
      (fun _ m hm w hw => backfill_rebinds hw (fun b hb => ?_) false) () hw)
    fun _ _ hw => Raising.wp_pure.2 hw
  · split_ifs at hm with hevents
    · cases hm
    · obtain ⟨hm, hyes⟩ := List.mem_filter.mp hm
      obtain ⟨⟨hmem, hstatus⟩, hmarked⟩ := hsearched m hm
      exact ⟨m, hmem, hstatus, rfl, b,
        binding_of_attached hmarked (by simpa using hyes) hevents hb, rfl⟩
  · obtain ⟨hm, hids⟩ := List.mem_filter.mp hm
    obtain ⟨⟨hmem, hstatus⟩, hmarked⟩ := hsearched m hm
    simp only [Bool.and_eq_true, Bool.not_eq_true'] at hids
    exact ⟨m, hmem, hstatus, rfl, b, binding_of_backfilled hmarked hids.1 hids.2 hb, rfl⟩

/-- What does not let a row come to bind anything leaves its ids. -/
theorem Rebinds.kept {id : String} {pair : String × String}
    (h : Rebinds (fun c _ => c ≠ id) t t₀) (hpair : conids t id = some pair) :
    conids t₀ id = some pair := by
  obtain hsame | ⟨_, hne, -⟩ := h id
  · rw [hsame, hpair]
  · exact absurd rfl hne

/-- A loop over mappings can store the ids of one of them, and leaves them then. -/
theorem foldlM_stores {β : Type} {f : β → MarketMapping → Op β} {l : List MarketMapping}
    (hm : m ∈ l) (hnodup : (l.map (·.canonical_id)).Nodup) {pair : String × String}
    (hreturns : ∀ b x w, ∃ b' w', Raising.Ends store_env (f b x) w (some b') w')
    (hreach : ∀ b w, ∃ b' w', Raising.Ends store_env (f b m) w (some b') w' ∧
      conids w'.table m.canonical_id = some pair)
    (hkeep : ∀ b x w, x.canonical_id ≠ m.canonical_id →
      Raising.wp (store_env.restrict fun _ _ _ => True) (f b x)
        (fun _ w' => Rebinds (fun c _ => c ≠ m.canonical_id) w.table w'.table) w)
    (b : β) (w : World) : ∃ b' w', Raising.Ends store_env (l.foldlM f b) w (some b') w' ∧
      conids w'.table m.canonical_id = some pair := by
  obtain ⟨l₁, l₂, rfl⟩ := List.mem_iff_append.mp hm
  rw [List.map_append, List.map_cons, List.nodup_append] at hnodup
  refine Raising.ends_foldlM_reaches hreturns hreach (fun b x hx w result w' hpair h => ?_) b w
  have hne : x.canonical_id ≠ m.canonical_id := by
    intro hsame
    exact (List.nodup_cons.mp hnodup.2.1).1 (hsame ▸ List.mem_map_of_mem hx)
  exact (hkeep b x w hne result w' (by rwa [Env.restrict_true])).kept hpair

/-- What is found for a confirmed mapping whose criteria can be read can be stored. -/
theorem discover_stores (spelled : Json ℚ → String) (hm : m ∈ w.table.rows)
    (hstatus : m.status = .confirmed)
    (hread : m.resolution_criteria.readable = true) {b : Binding}
    (hb : binding client events m = some b) : ∃ matched w',
    Raising.Ends store_env (discover client spelled events false) w (some matched) w' ∧
      conids w'.table m.canonical_id = some (b.yes m, b.no m) := by
  have hrows := ends_after iter_confirmed w
  change Raising.Ends store_env iter_confirmed w
    (some (w.table.rows.filter fun r => r.status = .confirmed)) w at hrows
  obtain ⟨confirmed, hconfirmed⟩ : ∃ confirmed,
      confirmed = w.table.rows.filter fun r => r.status = .confirmed := ⟨_, rfl⟩
  rw [← hconfirmed] at hrows
  have hnodup (p : MarketMapping → Bool) :
      (((searched confirmed).filter p).map (·.canonical_id)).Nodup := by
    rw [hconfirmed]
    exact w.table.nodup.sublist (((List.filter_sublist.trans List.filter_sublist).trans
      List.filter_sublist).map _)
  have hattach (matched : ℕ) (x : MarketMapping) (w : World)
      (hne : x.canonical_id ≠ m.canonical_id) :
      Raising.wp (store_env.restrict fun _ _ _ => True)
        (attach_conids client spelled events false matched x)
        (fun _ w' => Rebinds (fun c _ => c ≠ m.canonical_id) w.table w'.table) w :=
    attach_rebinds (.refl _) (fun _ _ => hne) false matched
  have hbackfill (done : Unit) (x : MarketMapping) (w : World)
      (hne : x.canonical_id ≠ m.canonical_id) :
      Raising.wp (store_env.restrict fun _ _ _ => True)
        (backfill_conid client spelled false done x)
        (fun _ w' => Rebinds (fun c _ => c ≠ m.canonical_id) w.table w'.table) w :=
    backfill_rebinds (.refl _) (fun _ _ => hne) false
  have hmem (hmarked : m.forecastex_not_available = false) : m ∈ searched confirmed := by
    rw [hconfirmed]
    exact List.mem_filter.mpr ⟨List.mem_filter.mpr ⟨hm, by simpa using hstatus⟩, by simpa⟩
  have hfound := hb
  unfold binding at hfound
  split_ifs at hfound with hmarked hyes hevents hno
  · -- the first loop stores what is found, and the second does not come to the mapping
    have hfirst : m ∈ (searched confirmed).filter fun m =>
        !is_valid_conid m.forecastex_contract_id :=
      List.mem_filter.mpr ⟨hmem (by simpa using hmarked), hyes⟩
    obtain ⟨matched, w₁, hloop, hstored⟩ := foldlM_stores hfirst (hnodup _)
      (attach_returns client events spelled)
      (attach_stores hread hfound) hattach 0 w
    obtain ⟨done, w₂, hlater⟩ := Raising.ends_foldlM
      (backfill_returns client spelled)
      ((searched confirmed).filter fun m => is_valid_conid m.forecastex_contract_id &&
        !is_valid_conid m.forecastex_no_contract_id) () w₁
    refine ⟨matched, w₂, Raising.ends_bind.2 (.inl ⟨confirmed, w, hrows, Raising.ends_bind.2
      (.inl ⟨matched, w₁, ?_, Raising.ends_bind.2 (.inl ⟨done, w₂, hlater,
        Raising.ends_pure.2 ⟨rfl, rfl⟩⟩)⟩)⟩), ?_⟩
    · rw [if_neg hevents]
      exact hloop
    · refine Raising.wp_foldlM (E := store_env.restrict fun _ _ _ => True)
        (J := fun w' : World => conids w'.table m.canonical_id = some (b.yes m, b.no m))
        (fun done x hx w hpair result w' h => ?_) () hstored _ w₂ (by rwa [Env.restrict_true])
      have hne : x.canonical_id ≠ m.canonical_id := by
        intro hsame
        obtain ⟨hx, hvalid⟩ := List.mem_filter.mp hx
        rw [hconfirmed] at hx
        have hrow := List.mem_of_mem_filter (List.mem_of_mem_filter hx)
        rw [row_eq_of_id hrow hm hsame] at hvalid
        simp only [Bool.not_eq_true'] at hyes
        simp [hyes] at hvalid
      exact (hbackfill done x w hne result w' h).kept hpair
  · have hsecond : m ∈ (searched confirmed).filter fun m =>
        is_valid_conid m.forecastex_contract_id && !is_valid_conid m.forecastex_no_contract_id :=
      List.mem_filter.mpr ⟨hmem (by simpa using hmarked), by simpa [hno] using hyes⟩
    obtain ⟨matched, w₁, hloop⟩ := Raising.ends_foldlM
      (attach_returns client events spelled)
      (if events = [] then [] else (searched confirmed).filter fun m =>
        !is_valid_conid m.forecastex_contract_id) 0 w
    obtain ⟨done, w₂, hlater, hstored⟩ := foldlM_stores hsecond (hnodup _)
      (backfill_returns client spelled)
      (backfill_stores hread hfound) hbackfill () w₁
    exact ⟨matched, w₂, Raising.ends_bind.2 (.inl ⟨confirmed, w, hrows, Raising.ends_bind.2
      (.inl ⟨matched, w₁, hloop, Raising.ends_bind.2 (.inl ⟨done, w₂, hlater,
        Raising.ends_pure.2 ⟨rfl, rfl⟩⟩)⟩)⟩), hstored⟩

end rebinds

/-! ### Pairs in the store -/

/-- Where a row has come to bind two ids, they are the call and the put of one market. -/
def BindsPairs (cat : Catalogue) (t t' : Mappings) : Prop :=
  ∀ id yes no, conids t' id = some (yes, no) → conids t' id ≠ conids t id →
    is_valid_conid yes = true → is_valid_conid no = true → OneMarket cat yes no

/-- What is found changes the ids of a row. -/
theorem binding_changes {b : Binding} (hb : binding client events m = some b)
    (hyes : is_valid_conid (b.yes m) = true) (hno : is_valid_conid (b.no m) = true) :
    (b.yes m, b.no m) ≠ (m.forecastex_contract_id, m.forecastex_no_contract_id) := by
  intro hsame
  obtain ⟨hsame_yes, hsame_no⟩ := Prod.mk.inj hsame
  rw [hsame_yes] at hyes
  rw [hsame_no] at hno
  simp [binding, hyes, hno] at hb

/-- Every pass of the discovery binds pairs exactly if what it finds for the confirmed
    mappings is true. -/
theorem discovery_binds_pairs {spelled : Json ℚ → String} {w : World}
    (htrue : ListsTruly client events cat) (hread : Readable w.table) :
    (∀ matched w', Raising.Ends store_env (discover client spelled events false) w matched w' →
      BindsPairs cat w.table w'.table) ↔
    ∀ m ∈ w.table.rows, m.status = .confirmed → ∀ b, binding client events m = some b →
      b.Truly cat m := by
  constructor
  · intro hpasses m hm hstatus b hb
    refine (oneMarket_iff_truly htrue hb).mp fun hyes hno => ?_
    obtain ⟨matched, w', hpass, hstored⟩ :=
      discover_stores spelled hm hstatus (hread m hm) hb
    refine hpasses _ w' hpass _ _ _ hstored ?_ hyes hno
    rw [hstored, conids, Table.find_of_mem hm]
    exact fun hsame => binding_changes hb hyes hno (Option.some.inj hsame)
  · intro htruly matched w' hpass id yes no hstored hchanged hyes hno
    obtain hsame | ⟨pair, ⟨m, hm, hstatus, -, b, hb, rfl⟩, hpair⟩ :=
      discover_rebinds spelled w matched w' (by rwa [Env.restrict_true]) id
    · exact absurd hsame hchanged
    · rw [hstored] at hpair
      obtain ⟨rfl, rfl⟩ := Prod.mk.inj (Option.some.inj hpair)
      exact (oneMarket_iff_truly htrue hb).mpr (htruly m hm hstatus b hb) hyes hno

/-! ### Two events -/

/-- The House, and the Senate of which the mapping keeps an id. -/
def two_markets : Catalogue := fun id =>
  if id = "21" then some ⟨"2", some 1, "NOV26", .call⟩
  else if id = "22" then some ⟨"2", some 1, "NOV26", .put⟩
  else if id = "12" then some ⟨"1", some 1, "NOV26", .put⟩
  else none

/-- The YES of the House, and its NO. -/
def house_yes : Child := ⟨"21", "C", .num 1, .null, .null⟩
def house_no : Child := ⟨"22", "P", .num 1, .null, .null⟩

/-- The event of the House. -/
def house_event : FxEvent := ⟨"2", "US House Control"⟩

/-- The event scores, and lists these. -/
def house_client (children : List Child) : FxClient where
  score := fun _ _ => 1
  token_count := fun _ => 3
  children := fun _ conid => if conid = "2" then some children else some []
  min_score := 3 / 10

/-- A confirmed mapping that has lost its YES and kept its NO. -/
def half_bound : MarketMapping := { traded_row with forecastex_no_contract_id := "12" }

def half_bound_world : World := ⟨⟨[half_bound], by simp⟩, fun _ => none⟩

/-- The contracts of the two markets. -/
theorem two_markets_eq :
    two_markets (Text.strip "21") = some ⟨"2", some 1, "NOV26", .call⟩ ∧
      two_markets (Text.strip "22") = some ⟨"2", some 1, "NOV26", .put⟩ ∧
      two_markets (Text.strip "12") = some ⟨"1", some 1, "NOV26", .put⟩ := by
  have hstrip : Text.strip "21" = "21" ∧ Text.strip "22" = "22" ∧ Text.strip "12" = "12" := by
    decide
  rw [hstrip.1, hstrip.2.1, hstrip.2.2]
  exact ⟨rfl, rfl, rfl⟩

/-- What is listed of the House is so. -/
theorem house_lists_truly {children : List Child}
    (hlisted : ∀ c ∈ children, c = house_yes ∨ c = house_no) :
    ListsTruly (house_client children) [house_event] two_markets where
  listed := by
    intro m conid listed hanswer
    refine ⟨"2", fun child hchild => ?_⟩
    have hmem : child ∈ children := by
      simp only [house_client] at hanswer
      split_ifs at hanswer <;> cases hanswer
      · exact hchild
      · cases hchild
    obtain rfl | rfl := hlisted child hmem
    · refine ⟨⟨"2", some 1, "NOV26", .call⟩, two_markets_eq.1, rfl, fun _ => rfl,
        fun hput => ?_, fun q hq => hq.symm ▸ rfl⟩
      exact absurd hput (by decide +kernel)
    · refine ⟨⟨"2", some 1, "NOV26", .put⟩, two_markets_eq.2.1, rfl, fun hcall => ?_,
        fun _ => rfl, fun q hq => hq.symm ▸ rfl⟩
      exact absurd hcall (by decide +kernel)
  event := by
    intro e he
    obtain rfl := List.mem_singleton.mp he
    exact ⟨by decide, by decide⟩
  valid := by
    intro id k hk
    unfold two_markets at hk
    split_ifs at hk with h h h
    · exact h ▸ by decide
    · exact h ▸ by decide
    · exact h ▸ by decide

/-- The YES of one market is stored beside the NO that was kept of another. -/
theorem kept_no_is_of_another : ∃ matched w',
    Raising.Ends store_env (discover (house_client [house_yes]) (fun _ => "") [house_event] false)
      half_bound_world (some matched) w' ∧
    ¬ BindsPairs two_markets half_bound_world.table w'.table := by
  have hpair : (binding (house_client [house_yes]) [house_event] half_bound).map
      (fun b => (b.yes half_bound, b.no half_bound)) = some ("21", "12") := by
    decide +kernel
  obtain ⟨b, hb, hids⟩ := Option.map_eq_some_iff.mp hpair
  obtain ⟨matched, w', hpass, hstored⟩ := discover_stores (fun _ => "")
    (w := half_bound_world) (List.mem_singleton.mpr rfl) rfl rfl hb
  refine ⟨matched, w', hpass, fun hpairs => ?_⟩
  rw [hids] at hstored
  obtain ⟨k, l, hk, hl, -, -, hparent, -⟩ := hpairs _ _ _ hstored (by rw [hstored]; decide)
    (by decide) (by decide)
  cases hk.symm.trans two_markets_eq.1
  cases hl.symm.trans two_markets_eq.2.2
  exact absurd hparent (by decide)

/-- A mapping without ids. -/
def unbound_world : World := ⟨⟨[traded_row], traded_row_nodup⟩, fun _ => none⟩

/-- Both contracts of the House are listed, and bound. -/
theorem discovery_binds_pairs_house :
    ListsTruly (house_client [house_yes, house_no]) [house_event] two_markets ∧
      ∀ matched w', Raising.Ends store_env (discover (house_client [house_yes, house_no])
          (fun _ => "") [house_event] false) unbound_world matched w' →
        BindsPairs two_markets unbound_world.table w'.table := by
  have htrue : ListsTruly (house_client [house_yes, house_no]) [house_event] two_markets :=
    house_lists_truly (by simp)
  refine ⟨htrue, (discovery_binds_pairs htrue fun r hr => ?_).mpr fun m hm _ b hb => ?_⟩
  · obtain rfl := List.mem_singleton.mp hr
    rfl
  · obtain rfl := List.mem_singleton.mp hm
    have hpair : (binding (house_client [house_yes, house_no]) [house_event] traded_row).map
        (fun b => (b.yes traded_row, b.no traded_row)) = some ("21", "22") := by
      decide +kernel
    rw [hb, Option.map_some, Option.some.injEq, Prod.mk.injEq] at hpair
    refine (oneMarket_iff_truly htrue hb).mp fun _ _ => ?_
    rw [hpair.1, hpair.2]
    exact ⟨_, _, two_markets_eq.1, two_markets_eq.2.1, rfl, rfl, rfl, rfl, rfl⟩

end Mapping
