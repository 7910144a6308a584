import Arbiter.Adapters.ForecastexSiblings
import Arbiter.Mapping.Candidates

/-! # The Discovery of Conids

  `forecastex_discovery.discover`: the confirmed rows are read once; then, row after row,
  the conids that the gateway's answers lead to are written by an upsert of the whole row
  as it was read.

  What an event scores for a mapping is a parameter, and so is what the gateway answers.
-/

namespace Mapping

open Effect

/-- An event of ForecastEx, as enumerated. -/
structure FxEvent where
  conid : String
  title : String

/-- What the discovery is given. -/
structure FxClient where
  /-- `_score_event_against_mapping`. -/
  score : String → MarketMapping → ℚ
  /-- The number of tokens of a title. -/
  token_count : String → ℕ
  /-- `resolve_event_children`, while a mapping is looked at; `none` where it raises. -/
  children : MarketMapping → String → Option (List Forecastex.Child)
  min_score : ℚ

/-- `_BLOCKLISTED_FORECASTEX_CONIDS`. -/
def blocklisted_conids : List String :=
  ["860934996", "882351367", "831072023", "831072372", "831077453", "831078727", "841511353",
    "853400777", "853400816", "866500896", "881980037", "881980047", "882350597"]

/-- `is_blocklisted_forecastex_conid`. -/
def is_blocklisted_forecastex_conid (conid : String) : Bool :=
  Text.strip conid ∈ blocklisted_conids

/-- What the discovery does about a mapping. -/
inductive Attachment
  | near_miss
  | unavailable
  | conids (yes no : String)

section discovery

variable (client : FxClient)

/-- The events that score, the best first; of those that score the same, the shorter. -/
def scored_events (events : List FxEvent) (m : MarketMapping) : List FxEvent :=
  (events.filter fun e => 0 < client.score e.title m).insertionSort fun a b =>
    client.score b.title m < client.score a.title m ∨
      (client.score a.title m = client.score b.title m ∧
        client.token_count a.title ≤ client.token_count b.title)

def yes_rights : List String := ["Y", "C", "1", "YES"]

def no_rights : List String := ["P", "N", "0", "NO", "PUT"]

/-- The conid of a child, stripped. -/
def child_conid (child : Forecastex.Child) : String := Text.strip child.conid

/-- What the children of an event say its conids are. -/
def resolved_conids (event_conid : String) : List Forecastex.Child → Attachment
  | [] => .conids event_conid ""
  | first :: rest =>
      let yes_child := ((first :: rest).find? (·.right.toUpper ∈ yes_rights)).getD first
      if is_blocklisted_forecastex_conid yes_child.conid then .unavailable
      else
        let strike := Forecastex.strike_f yes_child.strike
        let no_child := (first :: rest).find? (Forecastex.takes yes_child.conid no_rights strike)
        .conids yes_child.conid ((no_child.map child_conid).getD "")

/-- What the events say of a mapping without a conid. -/
def attachment (events : List FxEvent) (m : MarketMapping) : Attachment :=
  match (scored_events client events m).find? (!is_blocklisted_forecastex_conid ·.conid) with
  | none => .unavailable
  | some best_event =>
      if client.score best_event.title m < client.min_score then .near_miss
      else resolved_conids best_event.conid ((client.children m best_event.conid).getD [])

/-- The NO beside a mapping's YES. -/
def no_candidate (m : MarketMapping) : Option String :=
  let yes_conid := Text.strip m.forecastex_contract_id
  if yes_conid = "" || is_blocklisted_forecastex_conid yes_conid then none
  else
    let siblings := (client.children m yes_conid).getD []
    let strike := (siblings.find? (child_conid · = yes_conid)).bind fun s =>
      (s.strike.orElse (.num 0)).float
    (siblings.find? fun s => Forecastex.takes yes_conid no_rights strike s &&
      !is_blocklisted_forecastex_conid (child_conid s)).map child_conid

variable (spelled : Json ℚ → String)

/-- `try: await mapping_store.upsert(mapping)`: whether it did not raise. -/
def write_back (m : MarketMapping) : Op Bool := do
  turn_to (.attach m)
  let upserted ← Raising.attempt (upsert spelled m)
  pure upserted.isSome

/-- One mapping without a conid. -/
def attach_conids (events : List FxEvent) (dry_run : Bool) (matched : ℕ) (m : MarketMapping) :
    Op ℕ :=
  match attachment client events m with
  | .near_miss => pure matched
  | .unavailable =>
      if dry_run then pure matched
      else do
        let _ ← Raising.attempt (mark_forecastex_unavailable m.canonical_id true)
        pure matched
  | .conids yes no =>
      if dry_run then pure (matched + 1)
      else do
        let written ← write_back spelled { m with
          forecastex_contract_id := yes
          forecastex_no_contract_id := or_text no m.forecastex_no_contract_id }
        pure (if written then matched + 1 else matched)

/-- One mapping with a YES but no NO. -/
def backfill_conid (dry_run : Bool) (_ : Unit) (m : MarketMapping) : Op Unit :=
  match no_candidate client m with
  | none => pure ()
  | some no =>
      if dry_run then pure ()
      else do
        let _ ← write_back spelled { m with forecastex_no_contract_id := no }
        pure ()

/-- The confirmed rows that are not known to lack an equivalent. -/
def searched (confirmed : List MarketMapping) : List MarketMapping :=
  confirmed.filter (!·.forecastex_not_available)

/-- `discover`, of the events it has enumerated. -/
def discover (events : List FxEvent) (dry_run : Bool) : Op ℕ := do
  let confirmed ← iter_confirmed
  let targets := (searched confirmed).filter fun m =>
    !Forecastex.is_valid_conid m.forecastex_contract_id
  let no_backfill_targets := (searched confirmed).filter fun m =>
    Forecastex.is_valid_conid m.forecastex_contract_id &&
      !Forecastex.is_valid_conid m.forecastex_no_contract_id
  let matched ← (if events = [] then [] else targets).foldlM
    (attach_conids client spelled events dry_run) 0
  no_backfill_targets.foldlM (backfill_conid client spelled dry_run) ()
  pure matched

end discovery

end Mapping
