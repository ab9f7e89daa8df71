-- SUMMARY: The calls that the engine makes on the hearing service and on the case store, and their replies.
import TribunalListing.Audit
import TribunalListing.Calendar.Instant
import TribunalListing.Request.Payload

/-!
# Calls and replies

The engine deals with two partners: the hearing service, which schedules hearings, and the case
store, which keeps the cases. All that either of them can be asked is a `Call`, and `Call.Reply`
says what the answer to a call looks like.
-/

namespace TribunalListing

/-! ## The hearing service -/

inductive ServiceError where
  /-- The service turned the request down. -/
  | rejected (status : Nat) (reason : String)
  /-- The service failed. -/
  | failed (status : Nat) (reason : String)
  /-- The service could not be reached. -/
  | unreachable (reason : String)
  /-- The service replied with something that could not be read. -/
  | unreadable (reason : String)
  deriving DecidableEq

namespace ServiceError

/-- The failure may clear up on its own. -/
def isTransient : ServiceError → Bool
  | .failed .. | .unreachable _ => true
  | .rejected .. | .unreadable _ => false

def message : ServiceError → String
  | .rejected status reason =>
    s!"Hearing service rejected the request with status {status}: {reason}"
  | .failed status reason => s!"Hearing service failed with status {status}: {reason}"
  | .unreachable reason => s!"Hearing service unreachable: {reason}"
  | .unreadable reason => s!"Unreadable hearing service response: {reason}"

/-- The failure that a reply with an unsuccessful status tells of: from five hundred up it is the
service's, below it is the caller's. -/
def ofStatus (status : Nat) (reason : String) : ServiceError :=
  if 500 ≤ status then .failed status reason else .rejected status reason

end ServiceError

inductive ServiceCall where
  /-- Ask for a new hearing. -/
  | create (request : HearingRequest)
  /-- Update a hearing. -/
  | update (hearingId : String) (request : HearingRequest)
  /-- Cancel a hearing. -/
  | cancel (hearingId : String) (request : CancelRequest)
  /-- Look up one hearing. -/
  | get (hearingId : String)
  /-- List the hearings of a case. -/
  | list (caseId : String)
  /-- Tell that the parties to a version of a hearing were notified. -/
  | notify (hearingId : String) (version : Int64) (receivedAt : Instant) (body : PartiesNotified)
  deriving DecidableEq

abbrev ServiceCall.Answer : ServiceCall → Type
  | .create _ | .update _ _ | .cancel _ _ => HearingReply
  | .get _ => ListedHearing
  | .list _ => List ListedHearing
  | .notify _ _ _ _ => Unit

/-! ## The case store -/

/-- A case together with the version at which it was read. -/
structure VersionedCase where
  snapshot : CaseSnapshot
  version : Int
  deriving DecidableEq

inductive StoreError where
  /-- The case has changed since it was read. -/
  | conflict (caseId : String) (expectedVersion : Int)
  /-- There is no such case. -/
  | notFound (caseId : String)
  /-- The store itself failed. -/
  | backend (reason : String)
  deriving DecidableEq

namespace StoreError

/-- The write came too late: somebody else has changed the case. -/
def isConflict : StoreError → Bool
  | .conflict .. => true
  | .notFound _ | .backend _ => false

def message : StoreError → String
  | .conflict caseId expectedVersion =>
    s!"Case {caseId} was modified concurrently (expected version {expectedVersion})"
  | .notFound caseId => s!"Case {caseId} not found"
  | .backend reason => s!"Case store failure: {reason}"

end StoreError

inductive StoreCall where
  /-- Read a case. -/
  | read (caseId : String)
  /-- Write a case that is still at the expected version, and record an audit event with it. -/
  | write (caseId : String) (snapshot : CaseSnapshot) (expectedVersion : Int) (event : AuditEvent)
  deriving DecidableEq

/-- What a successful call on the case store gives: the case, or its new version. -/
abbrev StoreCall.Answer : StoreCall → Type
  | .read _ => VersionedCase
  | .write _ _ _ _ => Int

/-! ## Both -/

/-- A call on one of the engine's partners. -/
inductive Call where
  | service (call : ServiceCall)
  | store (call : StoreCall)
  deriving DecidableEq

abbrev Call.Reply : Call → Type
  | .service call => Except ServiceError call.Answer
  | .store call => Except StoreError call.Answer

end TribunalListing
