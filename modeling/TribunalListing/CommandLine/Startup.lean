-- SUMMARY: Starting the server: what is done in which order, what is logged, and what can go wrong.
import TribunalListing.CommandLine.Options
import TribunalListing.Reference.Wire
import TribunalListing.Store.Error

/-!
# Startup

The server opens its case store, loads its reference data, and starts to listen, in this order. The
first of these that fails ends the startup. Every step is logged before it is tried, except that the
reference data are logged once they are there.
-/

namespace TribunalListing.CommandLine

/-! ## Logging -/

inductive Severity where
  | error
  | warn
  | info
  deriving DecidableEq

namespace Severity

def label : Severity → String
  | .error => "ERROR"
  | .warn => "WARN"
  | .info => "INFO"

/-- The more serious, the lower. -/
def rank : Severity → Nat
  | .error => 1
  | .warn => 2
  | .info => 3

end Severity

structure LogLine where
  severity : Severity
  message : String
  deriving DecidableEq

def LogLine.text (line : LogLine) : String :=
  line.severity.label ++ " " ++ line.message

/-- The highest rank that is shown for a word that sets the log level. Without a word that is the
rank of information; a word that is no level shows nothing. -/
def shownRank : Option String → Nat
  | none => Severity.info.rank
  | some word =>
    match String.ofList (word.toList.map Char.toLower) with
    | "" => Severity.error.rank
    | "error" => Severity.error.rank
    | "warn" => Severity.warn.rank
    | "info" => Severity.info.rank
    | "debug" => Severity.info.rank
    | "trace" => Severity.info.rank
    | _ => 0

def shownLines (level : Option String) (lines : List LogLine) : List LogLine :=
  lines.filter fun line => line.severity.rank ≤ shownRank level

/-! ## Surroundings -/

/-- Why a file cannot be read. -/
inductive FileFailure where
  | missing
  | directory
  | other
  deriving DecidableEq

/-- Why the server does not run. -/
inductive StartFailure where
  | store (source : PersistenceError)
  | referenceFile (source : FileFailure)
  /-- The reference data have the wrong shape. -/
  | referenceShape
  /-- Somebody else listens on the port. -/
  | portTaken
  deriving DecidableEq

/-- What the server finds around it. -/
structure Surroundings (m : Type → Type) where
  /-- Opens a file as case store. -/
  openStore : String → m (Except PersistenceError Unit)
  /-- Reads a file. -/
  textOf : String → m (Except FileFailure String)
  /-- The port can be listened on. -/
  isFree : Nat → m Bool

/-! ## Starting -/

/-- A part of the startup: it logs, and it may fail. -/
abbrev Starting (m : Type → Type) := ExceptT StartFailure (StateT (List LogLine) m)

def log {m : Type → Type} [Monad m] (severity : Severity) (message : String) : Starting m Unit :=
  modify (· ++ [⟨severity, message⟩])

/-- Looks at the surroundings. -/
def probe {m : Type → Type} [Monad m] {α : Type} (x : m α) : Starting m α :=
  ExceptT.lift (StateT.lift x)

def openStore {m : Type → Type} [Monad m] (s : Surroundings m) (o : ServerOptions) :
    Starting m Unit :=
  match o.database with
  | none => log .info "Using in-memory database"
  | some path => do
    log .info s!"Using file-based database at: {path}"
    match ← probe (s.openStore path) with
    | .ok () => return ()
    | .error source => throw (.store source)

/-- Loads the reference data; without a file they are empty. -/
def loadReference {m : Type → Type} [Monad m] (s : Surroundings m) (o : ServerOptions) :
    Starting m ReferenceTables :=
  match o.referenceData with
  | none => do
    log .warn "No reference data given; every case will fall back to defaults"
    return {}
  | some path => do
    match ← probe (s.textOf path) with
    | .error source => throw (.referenceFile source)
    | .ok text =>
      match ReferenceTables.ofText? text with
      | none => throw .referenceShape
      | some tables =>
        log .info (s!"Loaded reference data path={path} venues={tables.venues.length} " ++
          s!"durations={tables.durations.length}")
        return tables

/-- The name of a look-up policy in the log. -/
def lookupPolicyName : LookupPolicy → String
  | .proceed => "ProceedToCreate"
  | .abort => "Abort"

def engineLine (config : EngineConfig) : String :=
  s!"Engine configured retry_attempts={config.retry.maxAttempts} " ++
    s!"lookup_policy={lookupPolicyName config.lookupPolicy} " ++ "adjournment_enabled=" ++
    (if config.derivation.adjournmentEnabled then "true" else "false")

/-- Gets the engine ready and makes sure that the port can be listened on. -/
def start {m : Type → Type} [Monad m] (s : Surroundings m) (o : ServerOptions) :
    Starting m Engine := do
  log .info "Initializing Hearing Sync Server"
  openStore s o
  let tables ← loadReference s o
  let engine : Engine := ⟨tables.data, o.engineConfig⟩
  log .info (engineLine engine.config)
  log .info s!"Server listening on 127.0.0.1:{o.port}"
  if ← probe (s.isFree o.port) then return engine else throw .portTaken

/-- Starts the server: the engine or what went wrong, and the lines that were logged. -/
def startup {m : Type → Type} [Monad m] (s : Surroundings m) (o : ServerOptions) :
    m (Except StartFailure Engine × List LogLine) :=
  (start s o).run.run []

end TribunalListing.CommandLine
