import Arbiter.Framework.System
import Arbiter.Execution.Incidents
import Arbiter.Execution.Recovery
import Arbiter.Execution.Store

/-! # The Sweepers of Stale Incidents

  Two loops close incidents by age: `run_incident_auto_resolve_loop` those of the deque,
  by their event type, and `AutoResolver.expire_stale_incidents` those of the table, by
  the orders of their arb. Both meet incidents that say contracts are unhedged.
-/

namespace StaleIncidents

open Execution LTS Effect

/-! ## Section 1: Reports of exposure -/

/-- What is reported because filled contracts are, or may be, unhedged. -/
inductive ExposureKind
  | one_leg_exposure
  | soft_naked_leg
  | partial_fill
  | unwind_blocked
  | unwind_exception
  | stranded_position
  deriving DecidableEq

/-- The `event_type` of its incident; a partial fill has none. -/
def ExposureKind.event_type : ExposureKind → String
  | .one_leg_exposure => "one_leg_exposure"
  | .soft_naked_leg => "soft_naked_leg"
  | .partial_fill => ""
  | .unwind_blocked => "unwind_blocked_ambiguous_secondary"
  | .unwind_exception => "auto_unwind_exception"
  | .stranded_position => "stranded_position"

/-- Only a stranded position is not reported as critical. -/
def ExposureKind.severity : ExposureKind → Severity
  | .stranded_position => .warning
  | _ => .critical

/-- The critical incidents of a recovery are of these kinds. -/
theorem recovery_reports_kind {eng : Engine} {arb_id : String} {opp : Opportunity}
    {leg_yes leg_no : Leg} :
    (recover_one_leg_risk eng arb_id opp leg_yes leg_no).Calls fun c =>
      ∀ i, c = .record_incident i → i.severity = .critical →
        ∃ kind : ExposureKind, kind.severity = i.severity ∧ kind.event_type = i.event_type := by
  refine recovery_reports_exposure.mono ?_
  rintro c hc i rfl hcritical
  have hmem : i.event_type ∈ exposure_event_types := hc hcritical
  simp only [exposure_event_types, List.mem_cons, List.not_mem_nil, or_false] at hmem
  obtain htype | htype | htype | htype := hmem
  · exact ⟨.one_leg_exposure, hcritical.symm, htype.symm⟩
  · exact ⟨.partial_fill, hcritical.symm, htype.symm⟩
  · exact ⟨.unwind_blocked, hcritical.symm, htype.symm⟩
  · exact ⟨.unwind_exception, hcritical.symm, htype.symm⟩

/-- `_strand_arb_id`; the digest is that of the market id. -/
def strand_arb_id (platform digest : String) : String :=
  "STRAND-" ++ (((if platform = "" then "UNK" else platform).toUpper.take 8).toString ++
    ("-" ++ digest))

/-- An incident that reports an exposure. -/
structure Exposure where
  kind : ExposureKind
  arb_id : String
  canonical_id : String
  message : String
  platform : String
  /-- A stranded position has no arb of its own. -/
  strand : kind = .stranded_position → ∃ digest, arb_id = strand_arb_id platform digest

/-- What `record_incident` is called with. -/
def Exposure.new (x : Exposure) : NewIncident where
  arb_id := x.arb_id
  canonical_id := x.canonical_id
  severity := x.kind.severity
  message := x.message
  metadata := { event_type := x.kind.event_type, platform := x.platform }

/-! ## Section 2: The sweepers -/

/-- `_MANUAL_CRITICAL_EVENT_TYPES`. -/
def manual_critical_event_types : List String :=
  ["half_recorded_arb", "half_recorded_arb_summary", "one_leg_exposure", "soft_naked_leg",
    "db_write_failure"]

/-- `_is_stale_auto_resolvable_incident`. -/
def is_stale_auto_resolvable_incident (incident : ExecutionIncident) (now max_age : ℚ) : Bool :=
  let inc_ts := if incident.timestamp = 0 then now else incident.timestamp
  incident.open_critical &&
    decide (incident.metadata.event_type.toLower ∉ manual_critical_event_types) &&
    decide (max_age < now - inc_ts)

/-- `resolve_incident`, of each. -/
def resolve_all (w : IncidentBooks) (now : ℚ) (incidents : List ExecutionIncident) :
    IncidentBooks :=
  incidents.foldl (fun w i => w.resolve_incident i.incident_id now) w

/-- A pass of `run_incident_auto_resolve_loop`, and the one at the start. -/
def auto_resolve_pass (w : IncidentBooks) (now max_age : ℚ) : IncidentBooks :=
  resolve_all w now
    (w.incidents.filter fun i => is_stale_auto_resolvable_incident i now max_age)

/-- `non_critical_expiry_seconds` and `critical_expiry_seconds`. -/
def expiry_seconds (severity : Severity) : ℚ :=
  if severity = .critical then 48 * 60 * 60 else 24 * 60 * 60

/-- The row is old enough, and its arb has no open leg. -/
def expires (store : Store) (now : ℚ) (row : IncidentRow) : Bool :=
  let arb_id := row.incident.arb_id
  let has_open :=
    Text.starts_with "STRAND-" arb_id || arb_id ≠ "" && store.has_open_order arb_id
  decide (expiry_seconds row.incident.severity ≤ now - row.created_at) && !has_open

/-- `expire_stale_incidents`. -/
def expire_stale_incidents (w : IncidentBooks) (store : Store) (now : ℚ) : IncidentBooks :=
  ((w.rows.rows.filter fun row => row.incident.status = .opened).filter (expires store now)).foldl
    (fun w row => w.expire_incident row.incident.incident_id) w

/-- `recovery_event_types` of `_auto_resolve_recovery_incidents`. -/
def recovery_event_types : List String := ["one_leg_exposure", "soft_naked_leg", "auto_unwind"]

/-- `_auto_resolve_recovery_incidents`, once contracts are sold. -/
def auto_resolve_recovery_incidents (w : IncidentBooks) (arb_id : String) (now unwound_qty : ℚ) :
    IncidentBooks :=
  if unwound_qty ≤ 0 then w
  else
    resolve_all w now (w.incidents.filter fun i =>
      i.arb_id = arb_id ∧ i.status ≠ .resolved ∧
        i.metadata.event_type.toLower ∈ recovery_event_types)

/-- The kinds the first sweeper takes for flags that go stale. -/
def swept_kinds : List ExposureKind := [.partial_fill, .unwind_blocked, .unwind_exception]

theorem mem_swept_kinds_iff (kind : ExposureKind) :
    kind ∈ swept_kinds ↔ kind.severity = .critical ∧
      kind.event_type.toLower ∉ manual_critical_event_types := by
  cases kind <;> decide +kernel

/-- Which reports of an exposure the first sweeper closes. -/
theorem stale_exposure_iff {x : Exposure} {incident_id : String} {made now max_age : ℚ} :
    is_stale_auto_resolvable_incident (x.new.incident incident_id made) now max_age = true ↔
      x.kind ∈ swept_kinds ∧ max_age < now - if made = 0 then now else made := by
  rw [mem_swept_kinds_iff]
  have hstale : is_stale_auto_resolvable_incident (x.new.incident incident_id made) now max_age =
      (decide (x.kind.severity = .critical) &&
        decide (x.kind.event_type.toLower ∉ manual_critical_event_types) &&
        decide (max_age < now - if made = 0 then now else made)) := rfl
  rw [hstale, Bool.and_eq_true, Bool.and_eq_true, decide_eq_true_iff, decide_eq_true_iff,
    decide_eq_true_iff]

/-- The row of a stranded position outlives the second. -/
theorem stranded_not_expired {store : Store} {now : ℚ} {x : Exposure} {row : IncidentRow}
    (hkind : x.kind = .stranded_position) (hrow : row.incident.arb_id = x.arb_id) :
    expires store now row = false := by
  obtain ⟨digest, hdigest⟩ := x.strand hkind
  have hstrand : Text.starts_with "STRAND-" row.incident.arb_id = true := by
    rw [hrow, hdigest, Text.starts_with, strand_arb_id, String.toList_append]
    exact List.isPrefixOf_iff_prefix.mpr (List.prefix_append _ _)
  simp [expires, hstrand]

/-! ## Section 3: Runs -/

/-- The incidents, the orders, and what has been reported as an exposure and is neither
    resolved by an operator nor recorded as closed. -/
structure Watch where
  books : IncidentBooks
  store : Store
  owed : List ExecutionIncident

/-- What happens to them. -/
inductive WatchStep
  | expose (incident_id : String) (now : ℚ) (x : Exposure)
  /-- Any other incident. -/
  | record (incident_id : String) (now : ℚ) (new : NewIncident)
  /-- The operator resolves. -/
  | resolve (incident_id : String) (now : ℚ)
  /-- An unwind has sold contracts of the arb. -/
  | unwound (arb_id : String) (now unwound_qty : ℚ)
  | reconciled (arb_id : String) (unwind_pnl : ℚ) (note : String)
  /-- The other writes of arbs and orders. -/
  | write (store : Store)
  /-- The process starts again; `listed` is what the table answers. -/
  | restart (listed : List ExecutionIncident)
  | auto_resolve_pass (now max_age : ℚ)
  | expire_pass (now : ℚ)

/-- One step; the store does not fail. -/
def WatchStep.run (w : Watch) : WatchStep → Watch → Prop
  | .expose incident_id now x, w' => w' =
      { w with
        books := w.books.record_incident incident_id now x.new
        owed := x.new.incident incident_id now :: w.owed }
  | .record incident_id now new, w' =>
      w' = { w with books := w.books.record_incident incident_id now new }
  | .resolve incident_id now, w' => w' =
      { w with
        books := w.books.resolve_incident incident_id now
        owed := w.owed.filter fun i => i.incident_id ≠ incident_id }
  | .unwound arb_id now unwound_qty, w' => w' =
      { w with
        books := auto_resolve_recovery_incidents w.books arb_id now unwound_qty
        owed := if unwound_qty ≤ 0 then w.owed else w.owed.filter fun i => i.arb_id ≠ arb_id }
  | .reconciled arb_id unwind_pnl note, w' => w' =
      { w with
        store := w.store.mark_naked_leg_reconciled arb_id unwind_pnl note
        owed := w.owed.filter fun i => i.arb_id ≠ arb_id }
  | .write store, w' => w' = { w with store := store }
  | .restart listed, w' => IncidentBooks.ListsOpen w.books.rows 200 listed ∧ w' =
      { w with
        books :=
          { w.books with incidents := IncidentBooks.rehydrate_open_incidents [] listed } }
  | .auto_resolve_pass now max_age, w' =>
      w' = { w with books := StaleIncidents.auto_resolve_pass w.books now max_age }
  | .expire_pass now, w' =>
      w' = { w with books := expire_stale_incidents w.books w.store now }

/-- Runs from a process without incidents. -/
def watch_system : System Watch WatchStep where
  init := fun w => w.books = ⟨[], Table.empty⟩ ∧ w.owed = []
  step := fun w s w' => s.run w w'

/-- No owed incident is closed: its row is open, and no entry of it is resolved. -/
def StaysOpen (w : Watch) : Prop :=
  ∀ i ∈ w.owed,
    (∃ row ∈ w.books.rows.rows, row.incident.incident_id = i.incident_id ∧
      row.incident.status = .opened) ∧
    ∀ e ∈ w.books.incidents, e.incident_id = i.incident_id → e.status ≠ .resolved

/-- The id is not in use. -/
def Fresh (w : IncidentBooks) (incident_id : String) : Prop :=
  (∀ row ∈ w.rows.rows, row.incident.incident_id ≠ incident_id) ∧
    ∀ e ∈ w.incidents, e.incident_id ≠ incident_id

/-- Ids are drawn once, and a sweeper finds every owed incident too young, of an event type
    that is to be resolved by hand, or with an open leg. -/
def SweepsNoExposure (w : Watch) : WatchStep → Prop
  | .expose incident_id _ _ => Fresh w.books incident_id
  | .record incident_id _ _ => Fresh w.books incident_id
  | .auto_resolve_pass now max_age => ∀ e ∈ w.books.incidents,
      (∃ i ∈ w.owed, i.incident_id = e.incident_id) →
        is_stale_auto_resolvable_incident e now max_age = false
  | .expire_pass now => ∀ row ∈ w.books.rows.rows,
      (∃ i ∈ w.owed, i.incident_id = row.incident.incident_id) →
        expires w.store now row = false
  | _ => True

/-! ## Section 4: What a step keeps -/

/-- The books keep an incident open, under its arb. -/
structure Tracks (w : IncidentBooks) (i : ExecutionIncident) : Prop where
  row : ∃ row ∈ w.rows.rows, row.incident.incident_id = i.incident_id ∧
    row.incident.arb_id = i.arb_id ∧ row.incident.status = .opened
  entries : ∀ e ∈ w.incidents, e.incident_id = i.incident_id →
    e.arb_id = i.arb_id ∧ e.status = .opened

section books

variable {w : IncidentBooks} {i : ExecutionIncident}

/-- A new incident is tracked. -/
theorem tracks_recorded {incident_id : String} {now : ℚ} {new : NewIncident}
    (hfresh : Fresh w incident_id) :
    Tracks (w.record_incident incident_id now new) (new.incident incident_id now) := by
  have hnone : w.rows.find (new.incident incident_id now).incident_id = none :=
    List.find?_eq_none.mpr fun row hrow hkey => hfresh.1 row hrow (of_decide_eq_true hkey)
  constructor
  · refine ⟨⟨new.incident incident_id now, now⟩, ?_, rfl, rfl, rfl⟩
    simp only [IncidentBooks.record_incident, insert_incident, hnone]
    exact Table.mem_put.mpr (.inl rfl)
  · intro e he hid
    obtain rfl | hold := List.mem_cons.mp (List.mem_of_mem_take he)
    · exact ⟨rfl, rfl⟩
    · exact absurd hid (hfresh.2 e hold)

/-- The others stay tracked. -/
theorem Tracks.record (h : Tracks w i) {incident_id : String} {now : ℚ} {new : NewIncident}
    (hne : i.incident_id ≠ incident_id) : Tracks (w.record_incident incident_id now new) i := by
  constructor
  · obtain ⟨row, hrow, hid, hrest⟩ := h.row
    exact ⟨row, mem_insert_incident_of_ne hrow (hid ▸ hne), hid, hrest⟩
  · intro e he hid
    obtain rfl | hold := List.mem_cons.mp (List.mem_of_mem_take he)
    · exact absurd hid.symm hne
    · exact h.entries e hold hid

theorem Tracks.resolve (h : Tracks w i) {incident_id : String} {now : ℚ}
    (hne : i.incident_id ≠ incident_id) : Tracks (w.resolve_incident incident_id now) i := by
  unfold IncidentBooks.resolve_incident
  cases hfind : w.incidents.find? (·.incident_id = incident_id) with
  | none => exact h
  | some existing =>
    have hexisting : existing.incident_id = incident_id := by simpa using List.find?_some hfind
    constructor
    · obtain ⟨row, hrow, hid, hrest⟩ := h.row
      refine ⟨row, mem_insert_incident_of_ne hrow ?_, hid, hrest⟩
      rw [hid]
      exact fun heq => hne (heq.trans hexisting)
    · intro e he hid
      obtain hold | ⟨_, _, rfl⟩ := FirstMatch.mem_update he
      · exact h.entries e hold hid
      · exact absurd (hid.symm.trans hexisting) hne

/-- By induction on the incidents that are resolved. -/
theorem Tracks.resolve_all (h : Tracks w i) {now : ℚ} {incidents : List ExecutionIncident}
    (hne : ∀ e ∈ incidents, e.incident_id ≠ i.incident_id) :
    Tracks (resolve_all w now incidents) i := by
  induction incidents generalizing w with
  | nil => exact h
  | cons e incidents ih =>
    exact ih (h.resolve (hne e List.mem_cons_self).symm) fun e' he' =>
      hne e' (List.mem_cons_of_mem _ he')

theorem Tracks.expire (h : Tracks w i) {incident_id : String}
    (hne : incident_id ≠ i.incident_id) : Tracks (w.expire_incident incident_id) i := by
  refine ⟨?_, h.entries⟩
  obtain ⟨row, hrow, hid, hrest⟩ := h.row
  have hsame : IncidentBooks.expired_row incident_id row = row :=
    if_neg fun hboth => hne (hboth.1.symm.trans hid)
  exact ⟨row, List.mem_map.mpr ⟨row, hrow, hsame⟩, hid, hrest⟩

theorem Tracks.expire_all (h : Tracks w i) {rows : List IncidentRow}
    (hne : ∀ row ∈ rows, row.incident.incident_id ≠ i.incident_id) :
    Tracks (rows.foldl (fun w row => w.expire_incident row.incident.incident_id) w) i := by
  induction rows generalizing w with
  | nil => exact h
  | cons row rows ih =>
    exact ih (h.expire (hne row List.mem_cons_self)) fun row' hrow' =>
      hne row' (List.mem_cons_of_mem _ hrow')

/-- What is in the deque after a restart was listed. -/
theorem mem_rehydrated {listed : List ExecutionIncident} {e : ExecutionIncident}
    (he : e ∈ IncidentBooks.rehydrate_open_incidents [] listed) : e ∈ listed := by
  have hfold (l kept : List ExecutionIncident)
      (hmem : e ∈ l.foldl (fun kept i => append_left i kept) kept) : e ∈ l ∨ e ∈ kept := by
    induction l generalizing kept with
    | nil => exact .inr hmem
    | cons i l ih =>
      obtain hl | hkept := ih _ hmem
      · exact .inl (List.mem_cons_of_mem _ hl)
      · obtain rfl | hold := List.mem_cons.mp (List.mem_of_mem_take hkept)
        · exact .inl List.mem_cons_self
        · exact .inr hold
  obtain hlisted | hnil := hfold _ _ he
  · exact List.mem_of_mem_filter hlisted
  · cases hnil

theorem Tracks.restart (h : Tracks w i) {listed : List ExecutionIncident}
    (hlisted : IncidentBooks.ListsOpen w.rows 200 listed) :
    Tracks { w with incidents := IncidentBooks.rehydrate_open_incidents [] listed } i := by
  refine ⟨h.row, fun e he hid => ?_⟩
  obtain ⟨answer, hanswer, rfl⟩ := hlisted
  obtain ⟨row, hrow, rfl⟩ := List.mem_map.mp (mem_rehydrated he)
  have hthere := List.mem_filter.mp (hanswer.1.mem_iff.mp (List.mem_of_mem_take hrow))
  obtain ⟨own, hown, hkey, harb, hopen⟩ := h.row
  -- an id has one row
  have hsame : w.rows.find i.incident_id = some own := hkey ▸ Table.find_of_mem hown
  have hrowid : row.incident.incident_id = i.incident_id := hid
  have hother : w.rows.find i.incident_id = some row :=
    hrowid ▸ Table.find_of_mem hthere.1
  obtain rfl := Option.some_inj.mp (hother.symm.trans hsame)
  exact ⟨harb, hopen⟩

end books

/-- Everything owed is tracked. -/
def TracksOwed (w : Watch) : Prop := ∀ i ∈ w.owed, Tracks w.books i

theorem TracksOwed.stays_open {w : Watch} (h : TracksOwed w) : StaysOpen w := by
  intro i hi
  obtain ⟨⟨row, hrow, hid, -, hopen⟩, hentries⟩ := h i hi
  refine ⟨⟨row, hrow, hid, hopen⟩, fun e he hkey hresolved => ?_⟩
  exact absurd ((hentries e he hkey).2.symm.trans hresolved) (by decide)

/-- What is owed has another id than one that is not in use. -/
theorem TracksOwed.ne_of_fresh {w : Watch} (h : TracksOwed w) {incident_id : String}
    (hfresh : Fresh w.books incident_id) {i : ExecutionIncident} (hi : i ∈ w.owed) :
    i.incident_id ≠ incident_id := by
  obtain ⟨row, hrow, hid, -⟩ := (h i hi).row
  exact fun heq => hfresh.1 row hrow (hid.trans heq)

/-- An unwind closes the incidents of its arb only. -/
theorem tracks_unwound {w : IncidentBooks} {i : ExecutionIncident} (h : Tracks w i)
    {arb_id : String} {now unwound_qty : ℚ} (hother : unwound_qty ≤ 0 ∨ i.arb_id ≠ arb_id) :
    Tracks (auto_resolve_recovery_incidents w arb_id now unwound_qty) i := by
  unfold auto_resolve_recovery_incidents
  split
  · exact h
  · next hsold =>
    refine h.resolve_all fun e he hid => ?_
    obtain ⟨hmem, hrecovery⟩ := List.mem_filter.mp he
    have harb : e.arb_id = arb_id := (of_decide_eq_true hrecovery).1
    exact (hother.resolve_left hsold) ((h.entries e hmem hid).1.symm.trans harb)

/-- A step that sweeps no exposure keeps everything owed tracked. -/
theorem tracks_step {w w' : Watch} {step : WatchStep} (h : TracksOwed w)
    (hok : SweepsNoExposure w step) (hstep : step.run w w') : TracksOwed w' := by
  cases step with
  | expose incident_id now x =>
    obtain rfl := hstep
    intro i hi
    -- the new incident is tracked as it is recorded, and no older one has its id
    obtain rfl | hold := List.mem_cons.mp hi
    · exact tracks_recorded hok
    · exact (h i hold).record (h.ne_of_fresh hok hold)
  | record incident_id now new =>
    obtain rfl := hstep
    exact fun i hi => (h i hi).record (h.ne_of_fresh hok hi)
  | resolve incident_id now =>
    obtain rfl := hstep
    intro i hi
    obtain ⟨hold, hne⟩ := List.mem_filter.mp hi
    exact (h i hold).resolve (of_decide_eq_true hne)
  | unwound arb_id now unwound_qty =>
    obtain rfl := hstep
    intro i hi
    -- where nothing was sold all of it is still owed, else the execution's own no more
    by_cases hsold : unwound_qty ≤ 0
    · rw [if_pos hsold] at hi
      exact tracks_unwound (h i hi) (.inl hsold)
    · rw [if_neg hsold] at hi
      obtain ⟨hold, hne⟩ := List.mem_filter.mp hi
      exact tracks_unwound (h i hold) (.inr (of_decide_eq_true hne))
  | reconciled arb_id unwind_pnl note =>
    obtain rfl := hstep
    exact fun i hi => h i (List.mem_of_mem_filter hi)
  | write store =>
    obtain rfl := hstep
    exact h
  | restart listed =>
    obtain ⟨hlisted, rfl⟩ := hstep
    exact fun i hi => (h i hi).restart hlisted
  -- both passes sweep by age, and by assumption nothing that is owed
  | auto_resolve_pass now max_age =>
    obtain rfl := hstep
    intro i hi
    refine (h i hi).resolve_all fun e he hid => ?_
    obtain ⟨hmem, hstale⟩ := List.mem_filter.mp he
    exact absurd (hstale.symm.trans (hok e hmem ⟨i, hi, hid.symm⟩)) (by decide)
  | expire_pass now =>
    obtain rfl := hstep
    intro i hi
    refine (h i hi).expire_all fun row hrow hid => ?_
    obtain ⟨hopen, hexpires⟩ := List.mem_filter.mp hrow
    exact absurd (hexpires.symm.trans (hok row (List.mem_of_mem_filter hopen) ⟨i, hi, hid.symm⟩))
      (by decide)

/-! ## Section 5: Whole runs -/

/-- The unwind of a filled leg has raised. -/
def unwind_raised : Exposure where
  kind := .unwind_exception
  arb_id := "ARB-000001"
  canonical_id := "HOUSE"
  message := "Smart-unwind raised on kalshi YES — manual review required"
  platform := "kalshi"
  strand := nofun

/-- The process has started. -/
def started : Watch := ⟨⟨[], Table.empty⟩, ⟨∅, ∅⟩, []⟩

/-- The incident is recorded. -/
def exposed : Watch where
  books := started.books.record_incident "INC-0" 1 unwind_raised.new
  store := started.store
  owed := [unwind_raised.new.incident "INC-0" 1]

end StaleIncidents
