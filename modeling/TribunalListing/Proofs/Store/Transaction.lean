-- SUMMARY: A write as two statements of one transaction, which takes back the first one if the second one fails.
import TribunalListing.Proofs.Store.Ledger

/-!
# Transactions

A write consists of two statements. The first one sets the row of the case, and the second one adds
the audit event. Either of them changes the tables at once, and so the row has been set already when
the event turns out to be one of a case that is not stored. It is the transaction around them that
gives back the tables as they were. `Ledger.writeCase` looks at everything before it changes
anything, and `transaction_writeStatements` says that this makes no difference.
-/

namespace TribunalListing.Ledger

/-- Statements on the tables. What they have changed before one of them fails stays changed. -/
abbrev Statements (α : Type) : Type := EStateM PersistenceError Ledger α

/-- Runs statements as one: the tables are as they were before, unless all of them succeed. -/
def transaction {α : Type} (x : Statements α) (s : Ledger) : Except PersistenceError α × Ledger :=
  match x.run s with
  | .ok a s' => (.ok a, s')
  | .error e _ => (.error e, s)

/-- Sets the row of a case that is at the expected version. Gives the next version. -/
def updateCase (caseId : String) (snapshot : CaseSnapshot) (expectedVersion : Int) :
    Statements Int := do
  let s ← get
  let rows ← MonadExcept.ofExcept s.caseTable
  match findCase rows caseId with
  | none => throw (.caseNotFound caseId)
  | some row =>
    if row.version ≠ expectedVersion then throw (.versionConflict caseId expectedVersion)
    set { s with cases := some (setCase caseId snapshot (expectedVersion + 1) rows) }
    return expectedVersion + 1

/-- Adds an audit event, whose case has to be stored. -/
def insertEvent (event : AuditEvent) (version : Int) : Statements Unit := do
  let s ← get
  let rows ← MonadExcept.ofExcept s.caseTable
  let events ← MonadExcept.ofExcept s.auditTable
  if (findCase rows event.caseId).isNone then throw .foreignKey
  set { s with
    events := some (events ++ [AuditRow.ofEvent s.nextEventId version event])
    nextEventId := s.nextEventId + 1 }

/-- The statements of a write. -/
def writeStatements (caseId : String) (snapshot : CaseSnapshot) (expectedVersion : Int)
    (event : AuditEvent) : Statements Int := do
  let version ← updateCase caseId snapshot expectedVersion
  insertEvent event version
  return version

variable {s : Ledger} {caseId : String} {snapshot : CaseSnapshot} {expected : Int}
  {event : AuditEvent}

/-! ## One statement at a time -/

theorem run_ofExcept {α : Type} (r : Except PersistenceError α) :
    (MonadExcept.ofExcept r : Statements α).run s =
      match r with
      | .ok a => .ok a s
      | .error e => .error e s := by
  cases r <;> rfl

theorem run_updateCase :
    (updateCase caseId snapshot expected).run s =
      match s.caseTable with
      | .error e => .error e s
      | .ok rows =>
        match findCase rows caseId with
        | none => .error (.caseNotFound caseId) s
        | some row =>
          if row.version ≠ expected then .error (.versionConflict caseId expected) s
          else .ok (expected + 1)
            { s with cases := some (setCase caseId snapshot (expected + 1) rows) } := by
  rw [updateCase]
  simp only [EStateM.run_bind, EStateM.run_get, run_ofExcept]
  cases s.caseTable with
  | error e => rfl
  | ok rows =>
    dsimp only
    cases findCase rows caseId with
    | none => rfl
    | some row =>
      dsimp only
      split <;> rfl

theorem run_insertEvent {rows : List CaseRow} {version : Int} (hcases : s.caseTable = .ok rows) :
    (insertEvent event version).run s =
      match s.auditTable with
      | .error e => .error e s
      | .ok events =>
        if (findCase rows event.caseId).isNone then .error .foreignKey s
        else .ok ()
          { s with
            events := some (events ++ [.ofEvent s.nextEventId version event])
            nextEventId := s.nextEventId + 1 } := by
  rw [insertEvent]
  simp only [EStateM.run_bind, EStateM.run_get, run_ofExcept, hcases]
  cases s.auditTable with
  | error e => rfl
  | ok events =>
    dsimp only
    split <;> rfl

/-! ## Both statements -/

/-- A write stops at the first statement if that one fails. -/
theorem run_writeStatements_of_error {e : PersistenceError}
    (h : (updateCase caseId snapshot expected).run s = .error e s) :
    (writeStatements caseId snapshot expected event).run s = .error e s := by
  rw [writeStatements, EStateM.run_bind, h]

section

variable {rows : List CaseRow} {row : CaseRow}

/-- A row that is set is the row of a case that was there before. -/
theorem isNone_findCase_setCase {version : Int} (hrow : findCase rows caseId = some row)
    (other : String) :
    (findCase (setCase caseId snapshot version rows) other).isNone =
      (findCase rows other).isNone := by
  rw [findCase_setCase]
  split
  next hother =>
    rw [hother, hrow]
    rfl
  next => rfl

/-- Once the row is set, it is the event that decides. -/
theorem run_writeStatements_of_row (hcases : s.caseTable = .ok rows)
    (hrow : findCase rows caseId = some row) (hversion : row.version = expected) :
    (writeStatements caseId snapshot expected event).run s =
      match s.auditTable with
      | .error e => .error e { s with cases := some (setCase caseId snapshot (expected + 1) rows) }
      | .ok events =>
        if (findCase rows event.caseId).isNone then
          .error .foreignKey
            { s with cases := some (setCase caseId snapshot (expected + 1) rows) }
        else .ok (expected + 1)
          { cases := some (setCase caseId snapshot (expected + 1) rows)
            events := some (events ++ [.ofEvent s.nextEventId (expected + 1) event])
            nextEventId := s.nextEventId + 1 } := by
  have hupdate : (updateCase caseId snapshot expected).run s = .ok (expected + 1)
      { s with cases := some (setCase caseId snapshot (expected + 1) rows) } := by
    simp only [run_updateCase, hcases, hrow]
    exact if_neg (not_not_intro hversion)
  have haudit : Ledger.auditTable
      { s with cases := some (setCase caseId snapshot (expected + 1) rows) } = s.auditTable := rfl
  rw [writeStatements, EStateM.run_bind, hupdate]
  dsimp only
  rw [EStateM.run_bind, run_insertEvent rfl, haudit, isNone_findCase_setCase hrow]
  cases s.auditTable with
  | error e => rfl
  | ok events => cases (findCase rows event.caseId).isNone <;> rfl

end

/-- A transaction of the statements of a write is the write. -/
theorem transaction_writeStatements :
    transaction (writeStatements caseId snapshot expected event) s =
      s.commit (s.writeCase caseId snapshot expected event) := by
  rw [writeCase_eq, transaction]
  cases hcases : s.caseTable with
  | error e =>
    have hstop : (updateCase caseId snapshot expected).run s = .error e s := by
      rw [run_updateCase, hcases]
    rw [run_writeStatements_of_error hstop]
    rfl
  | ok rows =>
    cases hrow : findCase rows caseId with
    | none =>
      have hstop : (updateCase caseId snapshot expected).run s =
          .error (.caseNotFound caseId) s := by
        simp only [run_updateCase, hcases, hrow]
      rw [run_writeStatements_of_error hstop]
      simp only [hrow]
      rfl
    | some row =>
      simp only [hrow]
      by_cases hversion : row.version = expected
      · rw [run_writeStatements_of_row hcases hrow hversion, if_neg (not_not_intro hversion)]
        cases s.auditTable with
        | error e => rfl
        | ok events => cases (findCase rows event.caseId).isNone <;> rfl
      · have hstop : (updateCase caseId snapshot expected).run s =
            .error (.versionConflict caseId expected) s := by
          simp only [run_updateCase, hcases, hrow]
          exact if_pos hversion
        rw [run_writeStatements_of_error hstop, if_pos hversion]
        rfl

end TribunalListing.Ledger
