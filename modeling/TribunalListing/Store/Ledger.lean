-- SUMMARY: The case store: versioned cases and the audit events of their write-backs.
import TribunalListing.Exchange.Act
import TribunalListing.Store.Error

/-!
# The case store

The store keeps two tables: cases with their versions, and audit events. A case starts at version
one, and every write makes it one higher. A write-back states the version at which it expects the
case; it stores the case and its audit event together, or nothing at all.

What is stored can become unreadable, and a table can be lost, from outside. An unreadable value is
kept as `none`, and so is a lost table.
-/

namespace TribunalListing

/-! ## Tables -/

structure CaseRow where
  caseId : String
  /-- None once the stored text can no longer be read. -/
  snapshot : Option CaseSnapshot
  version : Int
  deriving DecidableEq

/-- An audit event in the store. Each part of it is stored by itself, and none once its text can no
longer be read. -/
structure AuditRow where
  eventId : Nat
  caseId : String
  caseVersion : Int
  actor : Option Actor
  cause : Option Cause
  action : Option AuditAction
  before : Option HistoryText
  after : Option HistoryText
  deriving DecidableEq

/-- An audit event as it is listed: with its id, and with the version that its write produced. -/
structure StoredAuditEvent where
  eventId : Nat
  caseVersion : Int
  event : AuditEvent
  deriving DecidableEq

def AuditRow.ofEvent (eventId : Nat) (caseVersion : Int) (e : AuditEvent) : AuditRow where
  eventId
  caseId := e.caseId
  caseVersion
  actor := some e.actor
  cause := some e.cause
  action := some e.action
  before := some e.before
  after := some e.after

/-- The event in a row, if every part of it can be read. -/
def AuditRow.stored? (r : AuditRow) : Option StoredAuditEvent := do
  let actor ← r.actor
  let cause ← r.cause
  let action ← r.action
  let before ← r.before
  let after ← r.after
  return ⟨r.eventId, r.caseVersion, ⟨r.caseId, actor, cause, action, before, after⟩⟩

structure Ledger where
  /-- The cases; none once the table is lost. -/
  cases : Option (List CaseRow)
  /-- The audit events in the order of their ids; none once the table is lost. -/
  events : Option (List AuditRow)
  /-- The id of the next audit event. -/
  nextEventId : Nat
  deriving DecidableEq

namespace Ledger

def empty : Ledger := ⟨some [], some [], 1⟩

/-! ## Reading -/

/-- The case table, unless it is lost. -/
def caseTable (s : Ledger) : Except PersistenceError (List CaseRow) :=
  match s.cases with
  | some rows => .ok rows
  | none => .error (.missingTable "cases")

/-- The audit table, unless it is lost. -/
def auditTable (s : Ledger) : Except PersistenceError (List AuditRow) :=
  match s.events with
  | some rows => .ok rows
  | none => .error (.missingTable "audit_events")

/-- The row of a case among the rows of the case table. -/
def findCase (rows : List CaseRow) (caseId : String) : Option CaseRow :=
  rows.find? (·.caseId == caseId)

def getCase (s : Ledger) (caseId : String) : Except PersistenceError VersionedCase := do
  let rows ← s.caseTable
  match findCase rows caseId with
  | none => throw (.caseNotFound caseId)
  | some row =>
    match row.snapshot with
    | some snapshot => return ⟨snapshot, row.version⟩
    | none => throw .unreadable

/-- The audit events of a case, oldest first. A single event that cannot be read fails them all. -/
def auditEvents (s : Ledger) (caseId : String) : Except PersistenceError (List StoredAuditEvent) :=
  do
    let rows ← s.auditTable
    match (rows.filter (·.caseId == caseId)).mapM (·.stored?) with
    | some events => return events
    | none => throw .unreadable

/-! ## Writing -/

/-- The rows with a snapshot and a version stored for a case. -/
def setCase (caseId : String) (snapshot : CaseSnapshot) (version : Int) :
    List CaseRow → List CaseRow
  | [] => [⟨caseId, some snapshot, version⟩]
  | row :: rows =>
    if row.caseId == caseId then ⟨caseId, some snapshot, version⟩ :: rows
    else row :: setCase caseId snapshot version rows

/-- Stores a case as it is, under its own id. Gives its version: one for a new case, otherwise one
more than before. -/
def putCase (s : Ledger) (snapshot : CaseSnapshot) : Except PersistenceError (Int × Ledger) := do
  let rows ← s.caseTable
  let version :=
    match findCase rows snapshot.caseId with
    | some row => row.version + 1
    | none => 1
  return (version, { s with cases := some (setCase snapshot.caseId snapshot version rows) })

/-- Stores a case that is at the expected version, together with its audit event. Gives the new
version. The event's own case has to be stored, too. -/
def writeCase (s : Ledger) (caseId : String) (snapshot : CaseSnapshot) (expectedVersion : Int)
    (event : AuditEvent) : Except PersistenceError (Int × Ledger) := do
  let rows ← s.caseTable
  match findCase rows caseId with
  | none => throw (.caseNotFound caseId)
  | some row =>
    if row.version ≠ expectedVersion then throw (.versionConflict caseId expectedVersion)
    let version := expectedVersion + 1
    let events ← s.auditTable
    if (findCase rows event.caseId).isNone then throw .foreignKey
    return (version,
      { cases := some (setCase caseId snapshot version rows)
        events := some (events ++ [.ofEvent s.nextEventId version event])
        nextEventId := s.nextEventId + 1 })

/-- A failed operation leaves the store as it was. -/
def commit {α : Type} (s : Ledger) (r : Except PersistenceError (α × Ledger)) :
    Except PersistenceError α × Ledger :=
  match r with
  | .ok (a, s') => (.ok a, s')
  | .error e => (.error e, s)

/-! ## Answering the engine -/

/-- Answers a call of the engine on the case store. -/
def answer (s : Ledger) : (c : StoreCall) → Except StoreError c.Answer × Ledger
  | .read caseId => ((s.getCase caseId).mapError (·.toStoreError), s)
  | .write caseId snapshot expectedVersion event =>
    let (result, s') := s.commit (s.writeCase caseId snapshot expectedVersion event)
    (result.mapError (·.toStoreError), s')

end Ledger

end TribunalListing
