-- SUMMARY: The lifecycle status of a hearing.
import TribunalListing.Json.Wire

/-!
# Hearing status

The hearing service reports where a hearing stands. What matters most is whether the hearing is
still outstanding: an outstanding hearing stands in the way of a second request for its case.
-/

namespace TribunalListing

/-- The lifecycle status of a hearing, as the hearing service reports it. -/
inductive HearingStatus where
  | hearingRequested
  | awaitingListing
  | listed
  | updateRequested
  | updateSubmitted
  | exception
  | cancellationRequested
  | cancellationSubmitted
  | cancelled
  | awaitingActuals
  | completed
  | adjourned
  | closed
  deriving DecidableEq, Inhabited

namespace HearingStatus

def code : HearingStatus → String
  | .hearingRequested => "HEARING_REQUESTED"
  | .awaitingListing => "AWAITING_LISTING"
  | .listed => "LISTED"
  | .updateRequested => "UPDATE_REQUESTED"
  | .updateSubmitted => "UPDATE_SUBMITTED"
  | .exception => "EXCEPTION"
  | .cancellationRequested => "CANCELLATION_REQUESTED"
  | .cancellationSubmitted => "CANCELLATION_SUBMITTED"
  | .cancelled => "CANCELLED"
  | .awaitingActuals => "AWAITING_ACTUALS"
  | .completed => "COMPLETED"
  | .adjourned => "ADJOURNED"
  | .closed => "CLOSED"

instance : Vocabulary HearingStatus where
  terms := [.hearingRequested, .awaitingListing, .listed, .updateRequested, .updateSubmitted,
    .exception, .cancellationRequested, .cancellationSubmitted, .cancelled, .awaitingActuals,
    .completed, .adjourned, .closed]
  code := HearingStatus.code

def isOutstanding : HearingStatus → Bool
  | .hearingRequested | .awaitingListing | .listed | .updateRequested | .updateSubmitted
  | .exception | .awaitingActuals => true
  | .cancellationRequested | .cancellationSubmitted | .cancelled | .completed | .adjourned
  | .closed => false

end HearingStatus

end TribunalListing
