import Arbiter.Framework.System
import Arbiter.Safety.LiveGate

/-! # Open Critical Incidents

  The gate reads the deque of incidents, which is shared by critical incidents and by
  floods of rejections, and which a restart fills from a page of the table. As long as
  nothing open and critical is pushed out of either, the gate stays closed for it.
-/

namespace Readiness

open Execution LTS

/-! ## Section 1: Runs -/

/-- What happens to the incidents. -/
inductive IncidentStep
  /-- An incident is recorded, under the id that was drawn. -/
  | record (incident_id : String) (now : ℚ) (new : NewIncident)
  | resolve (incident_id : String) (now : ℚ)
  | expire (incident_id : String)
  /-- The process starts again; `listed` is what the table answers. -/
  | restart (listed : List ExecutionIncident)

/-- One step of the incidents; the store does not fail. -/
def IncidentStep.run (w : IncidentBooks) : IncidentStep → IncidentBooks → Prop
  | .record incident_id now new, w' => w' = w.record_incident incident_id now new
  | .resolve incident_id now, w' => w' = w.resolve_incident incident_id now
  | .expire incident_id, w' => w' = w.expire_incident incident_id
  | .restart listed, w' => IncidentBooks.ListsOpen w.rows 200 listed ∧
      w' = { w with incidents := IncidentBooks.rehydrate_open_incidents [] listed }

/-- Runs from a process without incidents. -/
def incident_system : System IncidentBooks IncidentStep where
  init := fun w => w = ⟨[], Table.empty⟩
  step := fun w s w' => s.run w w'

/-- The row's incident is critical, and neither resolved nor expired. -/
def Outstanding (w : IncidentBooks) (row : IncidentRow) : Prop :=
  row ∈ w.rows.rows ∧ row.incident.status = .opened ∧ row.incident.severity = .critical

/-- The gate knows of every outstanding incident: its check blocks, and in live mode it
    refuses what the incident touches. -/
def GateHolds (w : IncidentBooks) : Prop :=
  ∀ row, Outstanding w row → ∀ r : Runtime, r.incidents = w.incidents →
    r.check_incidents.blocks = true ∧
      ∀ yes_platform no_platform, r.dry_run = false →
        incident_touches_opportunity row.incident
            [yes_platform.toLower, no_platform.toLower] = true →
          (r.allow_execution yes_platform no_platform).allowed = false

/-- Nothing outstanding is pushed out: a recorded incident has an id of its own and the entry
    it displaces is not outstanding, and after a restart every outstanding incident is among
    the 200 newest open ones. -/
def PushesOutNone (w : IncidentBooks) : IncidentStep → Prop
  | .record incident_id _ _ =>
      (∀ row ∈ w.rows.rows, row.incident.incident_id ≠ incident_id) ∧
        ∀ i ∈ w.incidents.drop 199, ∀ row, Outstanding w row →
          row.incident.incident_id ≠ i.incident_id
  | .restart _ => ∀ row, Outstanding w row →
      ((w.rows.rows.filter fun other => other.incident.status = .opened).filter fun other =>
        row.created_at ≤ other.created_at).length ≤ 200
  | _ => True

/-! ## Section 2: What a step keeps -/

/-- The deque has every outstanding incident, open and with its venue. -/
def Kept (w : IncidentBooks) : Prop :=
  ∀ row, Outstanding w row → ∃ i ∈ w.incidents, i.incident_id = row.incident.incident_id ∧
    i.open_critical = true ∧ i.metadata.platform = row.incident.metadata.platform

section steps

variable {w : IncidentBooks}

/-- Every step keeps the deque complete that pushes out nothing outstanding. -/
theorem kept_record {incident_id : String} {now : ℚ} {new : NewIncident} (h : Kept w)
    (hfresh : ∀ row ∈ w.rows.rows, row.incident.incident_id ≠ incident_id)
    (hout : ∀ i ∈ w.incidents.drop 199, ∀ row, Outstanding w row →
      row.incident.incident_id ≠ i.incident_id) :
    Kept (w.record_incident incident_id now new) := by
  have hnone : w.rows.find (new.incident incident_id now).incident_id = none := by
    exact List.find?_eq_none.mpr fun row hrow hkey => hfresh row hrow (of_decide_eq_true hkey)
  rintro row ⟨hrow, hopen, hcritical⟩
  simp only [IncidentBooks.record_incident, insert_incident, hnone] at hrow
  obtain rfl | ⟨hold, -⟩ := Table.mem_put.mp hrow
  · refine ⟨new.incident incident_id now, List.mem_cons_self, rfl, ?_, rfl⟩
    have hnew : new.severity = .critical := hcritical
    simp [ExecutionIncident.open_critical, NewIncident.incident, hnew]
  · obtain ⟨i, hi, hid, hrest⟩ := h row ⟨hold, hopen, hcritical⟩
    refine ⟨i, List.mem_cons_of_mem _ ?_, hid, hrest⟩
    have hsplit : i ∈ w.incidents.take 199 ++ w.incidents.drop 199 := by
      rwa [List.take_append_drop]
    obtain htake | hdrop := List.mem_append.mp hsplit
    · exact htake
    · exact absurd hid.symm (hout i hdrop row ⟨hold, hopen, hcritical⟩)

/-- A resolved incident is outstanding no more, and the entries of others stay. -/
theorem kept_resolve {incident_id : String} {now : ℚ} (h : Kept w) :
    Kept (w.resolve_incident incident_id now) := by
  unfold IncidentBooks.resolve_incident
  cases hfind : w.incidents.find? (·.incident_id = incident_id) with
  | none => exact h
  | some existing =>
    have hexisting : existing.incident_id = incident_id := by simpa using List.find?_some hfind
    rintro row ⟨hrow, hopen, hcritical⟩
    have hother : row ∈ w.rows.rows ∧ row.incident.incident_id ≠ incident_id := by
      simp only [insert_incident] at hrow
      cases hthere : w.rows.find existing.incident_id with
      | none =>
        simp only [hthere] at hrow
        obtain rfl | ⟨hold, hne⟩ := Table.mem_put.mp hrow
        · cases hopen
        · exact ⟨hold, fun heq => hne (heq.trans hexisting.symm)⟩
      | some there =>
        simp only [hthere] at hrow
        obtain rfl | ⟨hold, hne⟩ := Table.mem_put.mp hrow
        · cases hopen
        · exact ⟨hold, fun heq => hne (heq.trans (hexisting.symm.trans
            (Table.find_key hthere).symm))⟩
    obtain ⟨i, hi, hid, hrest⟩ := h row ⟨hother.1, hopen, hcritical⟩
    refine ⟨i, FirstMatch.mem_update_of_not hi ?_, hid, hrest⟩
    exact decide_eq_false fun heq => hother.2 (hid.symm.trans heq)

theorem kept_expire {incident_id : String} (h : Kept w) : Kept (w.expire_incident incident_id) := by
  rintro row ⟨hrow, hopen, hcritical⟩
  obtain ⟨old, hold, rfl⟩ := List.mem_map.mp hrow
  by_cases hthis : old.incident.incident_id = incident_id ∧ old.incident.status = .opened
  · simp [IncidentBooks.expired_row, hthis] at hopen
  · simp only [IncidentBooks.expired_row, if_neg hthis] at hopen hcritical ⊢
    exact h old ⟨hold, hopen, hcritical⟩

/-- What is listed fills an empty deque. -/
theorem rehydrated_eq {listed : List ExecutionIncident} (hfew : listed.length ≤ 200) :
    IncidentBooks.rehydrate_open_incidents [] listed = listed.reverse := by
  have hfold (l kept : List ExecutionIncident) (hl : l.length + kept.length ≤ 200) :
      l.foldl (fun kept i => append_left i kept) kept = l.reverse ++ kept := by
    induction l generalizing kept with
    | nil => rfl
    | cons i l ih =>
      have hshort : append_left i kept = i :: kept := by
        refine List.take_of_length_le ?_
        simp only [List.length_cons] at hl ⊢
        omega
      rw [List.foldl_cons, hshort, ih _ (by simp only [List.length_cons] at hl ⊢; omega),
        List.reverse_cons, List.append_assoc]
      rfl
  unfold IncidentBooks.rehydrate_open_incidents
  simpa using hfold listed [] (by simpa using hfew)

theorem kept_restart {listed : List ExecutionIncident}
    (hlisted : IncidentBooks.ListsOpen w.rows 200 listed)
    (hfew : ∀ row, Outstanding w row →
      ((w.rows.rows.filter fun other => other.incident.status = .opened).filter fun other =>
        row.created_at ≤ other.created_at).length ≤ 200) :
    Kept { w with incidents := IncidentBooks.rehydrate_open_incidents [] listed } := by
  obtain ⟨answer, hanswer, rfl⟩ := hlisted
  rintro row ⟨hrow, hopen, hcritical⟩
  have hmem : row ∈ w.rows.rows.filter fun other => other.incident.status = .opened :=
    List.mem_filter.mpr ⟨hrow, decide_eq_true hopen⟩
  have htake : row ∈ answer.take 200 :=
    Query.mem_take_of_few hanswer hmem (hfew row ⟨hrow, hopen, hcritical⟩)
  refine ⟨{ row.incident with timestamp := row.created_at }, ?_, rfl, ?_, rfl⟩
  · simp only [rehydrated_eq (show ((answer.take 200).map _).length ≤ 200 by simp)]
    exact List.mem_reverse.mpr (List.mem_map.mpr ⟨row, htake, rfl⟩)
  · simp [ExecutionIncident.open_critical, hopen, hcritical]

/-- A complete deque keeps the gate closed. -/
theorem Kept.gate_holds (h : Kept w) : GateHolds w := by
  intro row hrow r hr
  obtain ⟨i, hi, -, hopen, hplatform⟩ := h row hrow
  rw [← hr] at hi
  refine ⟨Runtime.incidents_block_iff.mpr ⟨i, hi, hopen⟩, ?_⟩
  intro yes_platform no_platform hlive htouch
  rw [← Bool.not_eq_true, Runtime.allowed_iff_passes hlive]
  intro hpasses
  have huntouched := hpasses.incidents i hi hopen
  unfold incident_touches_opportunity at htouch huntouched
  rw [hplatform, htouch] at huntouched
  cases huntouched

end steps

/-! ## Section 3: Whole runs -/

/-- A critical incident at Kalshi. -/
def kalshi_trouble : NewIncident where
  arb_id := "ARB-000001"
  canonical_id := "HOUSE"
  severity := .critical
  message := "one leg is open"
  metadata := { event_type := "one_leg_exposure", platform := "kalshi" }

/-- An opportunity the risk manager denied. -/
def denied : NewIncident where
  arb_id := "REJ-1"
  canonical_id := "HOUSE"
  severity := .info
  message := "Order rejected: Edge too thin"
  metadata := { event_type := "order_rejected" }

/-- The critical incident, then as many rejections. -/
def flood : ℕ → IncidentBooks
  | 0 => IncidentBooks.record_incident ⟨[], Table.empty⟩ "INC-0" 0 kalshi_trouble
  | n + 1 => (flood n).record_incident ("INC-r" ++ toString n) (n + 1) denied

theorem flood_reachable (n : ℕ) : Reachable incident_system (flood n) := by
  induction n with
  | zero => exact .step (.init rfl) (l := .record "INC-0" 0 kalshi_trouble) rfl
  | succ n ih => exact .step ih (l := .record ("INC-r" ++ toString n) (n + 1) denied) rfl

/-- The row of the critical incident is not touched by the flood. -/
theorem flood_outstanding (n : ℕ) :
    Outstanding (flood n) ⟨kalshi_trouble.incident "INC-0" 0, 0⟩ := by
  refine ⟨?_, rfl, rfl⟩
  induction n with
  | zero => exact Table.mem_put.mpr (.inl rfl)
  | succ n ih =>
    have hid : "INC-r" ++ toString n ≠ "INC-0" := by
      intro heq
      have hchar := congrArg (fun s => s.toList[4]?) heq
      simp at hchar
    exact mem_insert_incident_of_ne ih hid.symm

end Readiness
