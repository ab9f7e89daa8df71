-- SUMMARY: Damage to the case store from outside: overwritten texts and lost tables.
import TribunalListing.Json.Reader
import TribunalListing.Store.Ledger

/-!
# Damage

The store keeps cases, and the parts of audit events, as JSON text. Somebody else may overwrite
such a text, or drop a whole table. What cannot be read any more is only noticed when it is read.
-/

namespace TribunalListing

inductive TextColumn where
  /-- The snapshot of a case. -/
  | snapshot
  | actor
  | cause
  | action
  | before
  | after
  deriving DecidableEq

def TextColumn.ofName? : String → Option TextColumn
  | "snapshot_json" => some .snapshot
  | "actor_json" => some .actor
  | "cause_json" => some .cause
  | "action_json" => some .action
  | "before_snapshot_json" => some .before
  | "after_snapshot_json" => some .after
  | _ => none

inductive Table where
  | cases
  | auditEvents
  deriving DecidableEq

def Table.ofName? : String → Option Table
  | "cases" => some .cases
  | "audit_events" => some .auditEvents
  | _ => none

/-- The value that a stored text is read as. -/
def readStored {α : Type} [Wire α] (text : String) : Option α :=
  (Json.ofText? text).bind decode

/-- The row with the text of its snapshot overwritten. -/
def CaseRow.overwrite (text : String) (r : CaseRow) : CaseRow :=
  { r with snapshot := readStored text }

/-- The row with the text of a column overwritten; a column of another table is no matter. -/
def AuditRow.overwrite (column : TextColumn) (text : String) (r : AuditRow) : AuditRow :=
  match column with
  | .snapshot => r
  | .actor => { r with actor := readStored text }
  | .cause => { r with cause := readStored text }
  | .action => { r with action := readStored text }
  | .before => { r with before := readStored text }
  | .after => { r with after := readStored text }

namespace Ledger

/-- The store with a text overwritten in all rows of a case. -/
def overwrite (s : Ledger) (caseId : String) (column : TextColumn) (text : String) : Ledger :=
  if column = .snapshot then
    { s with cases := s.cases.map (·.map fun r =>
        if r.caseId = caseId then r.overwrite text else r) }
  else
    { s with events := s.events.map (·.map fun r =>
        if r.caseId = caseId then r.overwrite column text else r) }

def drop (s : Ledger) : Table → Ledger
  | .cases => { s with cases := none }
  | .auditEvents => { s with events := none }

end Ledger

end TribunalListing
