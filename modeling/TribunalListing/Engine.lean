-- SUMMARY: The engine: what each lifecycle trigger does at the hearing service and in the case store.
import TribunalListing.Request.Assembly
import TribunalListing.Sync.WriteBack

/-!
# The engine

Each trigger is one unit of work: read the case, derive the hearing request, make one call that
changes something at the hearing service, and write the outcome back. A derivation that fails stops
the work before that call. The engine keeps no state of its own: it goes by the hearing history of
the case, and by what the hearing service says.
-/

namespace TribunalListing

/-! ## Configuration -/

/-- What a create does when the look-up of existing hearings fails for the moment. -/
inductive LookupPolicy where
  /-- Create anyway; there may then be two outstanding hearings. -/
  | proceed
  /-- Fail without creating. -/
  | abort
  deriving DecidableEq

def LookupPolicy.ofWord? : String → Except String LookupPolicy
  | "proceed" => .ok .proceed
  | "proceed-to-create" => .ok .proceed
  | "abort" => .ok .abort
  | s => .error s!"unknown lookup policy '{s}'"

structure EngineConfig where
  retry : RetryPolicy := .standard
  derivation : DerivationOptions := {}
  lookupPolicy : LookupPolicy := .proceed
  /-- Recorded on every audit event. -/
  actor : Actor := .system
  deriving DecidableEq

structure Engine where
  reference : ReferenceData
  config : EngineConfig

inductive SyncResult where
  /-- A hearing action was performed and written back. -/
  | applied (action : HearingAction) (hearing : HearingRecord) (caseVersion : Int)
  /-- No hearing action was needed. -/
  | ignored
  deriving DecidableEq

/-- A unit of work: an act that ends with a result or an error. -/
abbrev Work (α : Type) := ExceptT EngineError Act α

/-- The name of the action of telling that parties were notified. -/
def partiesNotifiedAction : String := "PARTIES_NOTIFIED"

/-! ## Steps of the work -/

/-- Calls the hearing service; a failure ends the work. -/
def askService (caseId action : String) (c : ServiceCall) : Work c.Answer := do
  match ← (Act.service c : Act _) with
  | .ok answer => return answer
  | .error source => throw ⟨caseId, action, .hearingService source⟩

/-- Reads the case; a failure ends the work. -/
def readCase (caseId action : String) : Work CaseSnapshot := do
  match ← (Act.store (.read caseId) : Act _) with
  | .ok current => return current.snapshot
  | .error source => throw ⟨caseId, action, .caseStore source⟩

/-- Goes on with a derived value; a failed derivation ends the work. -/
def derive {α : Type} (caseId action : String) : Derived α → Work α
  | .ok value => return value
  | .error source => throw ⟨caseId, action, .derivation source⟩

/-- The hearing to act on: the latest outstanding one. -/
def outstandingHearing (caseId action : String) (c : CaseSnapshot) : Work HearingRecord :=
  match c.hearings.latestOutstanding? with
  | some target => return target
  | none => throw ⟨caseId, action, .noOutstandingHearing⟩

/-- The last of the listed hearings that can be updated, with its version. -/
def lastUpdatable? (listed : List ListedHearing) : Option (String × Int64) :=
  listed.reverse.findSome? fun h =>
    if h.isUpdatable then h.requestVersion.map (h.hearingId, ·) else none

namespace Engine

/-- Derives the request for a case and checks it against listing rules. -/
def assemble (e : Engine) (caseId : String) (action : HearingAction) (c : CaseSnapshot)
    (version : Option Int64) : Work AssembledRequest :=
  derive caseId action.name do
    let assembled ← assembleRequest c e.reference e.config.derivation version
    assembled.request.check
    return assembled

def writeBack (e : Engine) (caseId : String) (action : HearingAction) (reply : HearingReply)
    (derived : CaseSnapshot) (clearAdjournment : Bool) (cause : Cause) : Work SyncResult := do
  let outcome : Outcome := ⟨action, reply.record, derived, clearAdjournment⟩
  let version ←
    WriteBack.perform ⟨caseId, outcome, cause, e.config.actor, e.config.retry⟩
  return .applied action reply.record version

/-- Looks for an outstanding hearing that can be updated. A look-up that fails for the moment finds
none, where the policy is to proceed. -/
def findUpdatable (e : Engine) (caseId : String) : Work (Option (String × Int64)) := do
  match ← (Act.service (.list caseId) : Act _) with
  | .ok listed => return lastUpdatable? listed
  | .error source =>
    if source.isTransient && e.config.lookupPolicy = .proceed then return none
    else throw ⟨caseId, HearingAction.create.name, .hearingService source⟩

/-! ## Actions -/

/-- Updates a hearing of known version. -/
def updateHearing (e : Engine) (caseId : String) (c : CaseSnapshot) (hearingId : String)
    (version : Int64) (clearAdjournment : Bool) (cause : Cause) : Work SyncResult := do
  let assembled ← e.assemble caseId .update c (some version)
  let reply ← askService caseId HearingAction.update.name (.update hearingId assembled.request)
  e.writeBack caseId .update reply assembled.case clearAdjournment cause

def requestHearing (e : Engine) (caseId : String) (c : CaseSnapshot) (clearAdjournment : Bool)
    (cause : Cause) : Work SyncResult := do
  let assembled ← e.assemble caseId .create c none
  let reply ← askService caseId HearingAction.create.name (.create assembled.request)
  e.writeBack caseId .create reply assembled.case clearAdjournment cause

/-- Asks for a new hearing, or updates the outstanding one that the service lists. With `adjourn`,
the request is derived as if the adjournment were in progress, and the write-back ends it. -/
def create (e : Engine) (caseId : String) (adjourn : Bool) (cause : Cause) : Work SyncResult := do
  let stored ← readCase caseId HearingAction.create.name
  let c := if adjourn then { stored with adjournment.inProgress := true } else stored
  match ← e.findUpdatable caseId with
  | some (hearingId, version) => e.updateHearing caseId c hearingId version adjourn cause
  | none => e.requestHearing caseId c adjourn cause

/-- Updates the latest outstanding hearing. Where the service knows no version of it, the version
on the case is taken. -/
def update (e : Engine) (caseId : String) (cause : Cause) : Work SyncResult := do
  let c ← readCase caseId HearingAction.update.name
  let target ← outstandingHearing caseId HearingAction.update.name c
  let listed ← askService caseId HearingAction.update.name (.get target.hearingId)
  e.updateHearing caseId c target.hearingId (listed.requestVersion.getD target.version) false cause

/-- Cancels the latest outstanding hearing. Of all that can be derived, only the duration stands in
the way of a cancellation. -/
def cancel (e : Engine) (caseId : String) (reason : CancellationReason) (cause : Cause) :
    Work SyncResult := do
  let c ← readCase caseId HearingAction.cancel.name
  let target ← outstandingHearing caseId HearingAction.cancel.name c
  let _ ← derive caseId HearingAction.cancel.name (effectiveDuration c e.reference)
  let reply ← askService caseId HearingAction.cancel.name
    (.cancel target.hearingId (.because reason))
  e.writeBack caseId .cancel reply c false cause

def handle (e : Engine) (caseId : String) (trigger : Trigger) (cause : Cause) : Work SyncResult :=
  match trigger with
  | .createHearing => e.create caseId false cause
  | .adjournCreateHearing => e.create caseId true cause
  | .updateHearing => e.update caseId cause
  | .cancelHearing reason => e.cancel caseId reason cause
  | .ignored => return .ignored

end Engine

/-- Tells the hearing service that the parties to a hearing were notified of its current version.
Gives that version. -/
def notifyParties (caseId hearingId : String) (receivedAt : Instant) : Work Int64 := do
  let listed ← askService caseId partiesNotifiedAction (.get hearingId)
  match listed.requestVersion with
  | none => throw ⟨caseId, partiesNotifiedAction, .hearingVersionUnknown hearingId⟩
  | some version =>
    let _ ← askService caseId partiesNotifiedAction (.notify hearingId version receivedAt {})
    return version

end TribunalListing
