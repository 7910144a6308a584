import Arbiter.Framework.FirstMatch
import Arbiter.Framework.Query
import Arbiter.Framework.Table
import Arbiter.Execution.Calls

/-! # Incidents of the Engine

  The engine keeps its incidents twice: in a deque of 200, which the readiness gate
  reads, and in the table `execution_incidents`, from which the deque is filled again
  after a restart. Resolution times and notes are left out, nothing modelled reads them.
-/

namespace Execution

/-! ### Incidents -/

/-- `status` of an incident. -/
inductive IncidentStatus
  | opened
  | resolved
  | expired
  deriving DecidableEq

/-- What is read of the metadata; a text is empty where the key is missing. -/
structure IncidentMetadata where
  event_type : String := ""
  platform : String := ""
  count : Option ℤ := none
  deriving DecidableEq

/-- `ExecutionIncident`. -/
structure ExecutionIncident where
  incident_id : String
  arb_id : String
  canonical_id : String
  severity : Severity
  message : String
  timestamp : ℚ
  metadata : IncidentMetadata
  status : IncidentStatus
  deriving DecidableEq

/-- The incident is critical, and not resolved. -/
def ExecutionIncident.open_critical (i : ExecutionIncident) : Bool :=
  i.status ≠ .resolved && i.severity = .critical

/-- What a critical incident counts for: a summary, for the arbs it sums up. -/
def critical_weight (i : ExecutionIncident) : ℕ :=
  if i.metadata.event_type.toLower = "half_recorded_arb_summary" then
    (max 1 (i.metadata.count.getD 1)).toNat
  else 1

/-- `effective_critical_incident_count`. -/
def effective_critical_incident_count (incidents : List ExecutionIncident) : ℕ :=
  ((incidents.filter fun i => i.severity = .critical).map critical_weight).sum

/-! ### The deque and the table -/

/-- A row of `execution_incidents`. -/
structure IncidentRow where
  incident : ExecutionIncident
  created_at : ℚ
  deriving DecidableEq

/-- The table, by `incident_id`. -/
abbrev IncidentTable := Table IncidentRow fun row => row.incident.incident_id

/-- `_incidents`, the newest first, and the table. -/
structure IncidentBooks where
  incidents : List ExecutionIncident
  rows : IncidentTable

/-- `appendleft`, of a deque that keeps 200. -/
def append_left (i : ExecutionIncident) (incidents : List ExecutionIncident) :
    List ExecutionIncident :=
  (i :: incidents).take 200

/-- `insert_incident`: what it was about and when stay with a row that is there. -/
def insert_incident (rows : IncidentTable) (now : ℚ) (i : ExecutionIncident) : IncidentTable :=
  match rows.find i.incident_id with
  | none => rows.put ⟨i, now⟩
  | some row =>
      rows.put
        { row with
          incident :=
            { row.incident with
              severity := i.severity
              message := i.message
              metadata := i.metadata
              status := i.status } }

/-- A row of another incident stays. -/
theorem mem_insert_incident_of_ne {rows : IncidentTable} {now : ℚ} {i : ExecutionIncident}
    {row : IncidentRow} (hrow : row ∈ rows.rows) (hne : row.incident.incident_id ≠ i.incident_id) :
    row ∈ (insert_incident rows now i).rows := by
  unfold insert_incident
  cases hthere : rows.find i.incident_id with
  | none => exact Table.mem_put.mpr (.inr ⟨hrow, hne⟩)
  | some there =>
    have hkey := Table.find_key hthere
    exact Table.mem_put.mpr (.inr ⟨hrow, fun heq => hne (heq.trans hkey)⟩)

/-- What `record_incident` is called with. -/
structure NewIncident where
  arb_id : String
  canonical_id : String
  severity : Severity
  message : String
  metadata : IncidentMetadata := {}

/-- The incident that is made of it, under the id that was drawn. -/
def NewIncident.incident (new : NewIncident) (incident_id : String) (now : ℚ) :
    ExecutionIncident where
  incident_id := incident_id
  arb_id := new.arb_id
  canonical_id := new.canonical_id
  severity := new.severity
  message := new.message
  timestamp := now
  metadata := new.metadata
  status := .opened

namespace IncidentBooks

/-- `record_incident`. -/
def record_incident (w : IncidentBooks) (incident_id : String) (now : ℚ) (new : NewIncident) :
    IncidentBooks where
  incidents := append_left (new.incident incident_id now) w.incidents
  rows := insert_incident w.rows now (new.incident incident_id now)

/-- `resolve_incident`: of the deque, and from there in the table. -/
def resolve_incident (w : IncidentBooks) (incident_id : String) (now : ℚ) : IncidentBooks :=
  match w.incidents.find? (·.incident_id = incident_id) with
  | none => w
  | some existing =>
      let updated := { existing with status := .resolved }
      { incidents :=
          FirstMatch.update (·.incident_id = incident_id) (fun _ => updated) w.incidents
        rows := insert_incident w.rows now updated }

/-- The row, expired where it is the open row of the incident. -/
def expired_row (incident_id : String) (row : IncidentRow) : IncidentRow :=
  if row.incident.incident_id = incident_id ∧ row.incident.status = .opened then
    { row with incident := { row.incident with status := .expired } }
  else row

theorem expired_row_id (incident_id : String) (row : IncidentRow) :
    (expired_row incident_id row).incident.incident_id = row.incident.incident_id := by
  unfold expired_row
  split <;> rfl

/-- The `UPDATE` of `expire_stale_incidents`, in the table only. -/
def expire_incident (w : IncidentBooks) (incident_id : String) : IncidentBooks :=
  { w with rows := w.rows.modify (expired_row incident_id) (expired_row_id incident_id) }

/-- `answer` is one of `list_incidents(status="open", limit=limit)`: the newest rows first. -/
def ListsOpen (rows : IncidentTable) (limit : ℕ) (answer : List ExecutionIncident) : Prop :=
  ∃ listed, Query.Answers (fun row : IncidentRow => OrderDual.toDual row.created_at)
      (rows.rows.filter fun row => row.incident.status = .opened) listed ∧
    answer = (listed.take limit).map fun row => { row.incident with timestamp := row.created_at }

/-- `rehydrate_open_incidents`, of the incidents that were listed. -/
def rehydrate_open_incidents (incidents listed : List ExecutionIncident) :
    List ExecutionIncident :=
  (listed.filter fun i => i.incident_id ∉ incidents.map (·.incident_id)).foldl
    (fun kept i => append_left i kept) incidents

end IncidentBooks

end Execution
