-- SUMMARY: The ways in which the case store can fail.
import TribunalListing.Exchange.Call

/-!
# Store errors

What can go wrong inside the case store is richer than what the engine is told: the engine hears of
late writes and missing cases, and of all else as a failure of the store.
-/

namespace TribunalListing

inductive PersistenceError where
  | database (reason : String)
  | connection (reason : String)
  | migration (reason : String)
  | query (reason : String)
  | serialization (reason : String)
  | initialization (reason : String)
  | foreignKeysOff
  | lockPoisoned
  | caseNotFound (caseId : String)
  | versionConflict (caseId : String) (expectedVersion : Int)
  deriving DecidableEq

namespace PersistenceError

def message : PersistenceError → String
  | .database reason => s!"Database error: {reason}"
  | .connection reason => s!"Database connection failed: {reason}"
  | .migration reason => s!"Migration failed: {reason}"
  | .query reason => s!"Query failed: {reason}"
  | .serialization reason => s!"Serialization error: {reason}"
  | .initialization reason => s!"Initialization error: {reason}"
  | .foreignKeysOff => "Foreign key enforcement is not enabled"
  | .lockPoisoned => "Connection lock poisoned"
  | .caseNotFound caseId => s!"Case not found: {caseId}"
  | .versionConflict caseId expectedVersion =>
    s!"Case {caseId} is not at version {expectedVersion}"

/-- What the engine is told of the failure. -/
def toStoreError : PersistenceError → StoreError
  | .caseNotFound caseId => .notFound caseId
  | .versionConflict caseId expectedVersion => .conflict caseId expectedVersion
  | e => .backend e.message

/-- A table that is not there. -/
def missingTable (table : String) : PersistenceError :=
  .database s!"no such table: {table}"

/-- An audit event for a case that is not stored. -/
def foreignKey : PersistenceError :=
  .database "FOREIGN KEY constraint failed"

/-- A directory that is not there. -/
def cannotOpen : PersistenceError :=
  .connection "unable to open database file"

/-- A file that holds something else. -/
def notADatabase : PersistenceError :=
  .migration "file is not a database"

/-- A path that is not text. -/
def invalidPath : PersistenceError :=
  .initialization "Invalid database path"

/-- A database whose case table was made by somebody else. -/
def casesTableExists : PersistenceError :=
  .migration
    "Failed to run 2026-01-05-000000_create_cases with: table cases already exists"

/-- A stored text that cannot be read any more. -/
def unreadable : PersistenceError :=
  .serialization "stored text has the wrong shape"

end PersistenceError

end TribunalListing
