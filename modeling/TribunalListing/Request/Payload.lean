-- SUMMARY: The hearing request, and the other bodies that are sent to the hearing service.
import TribunalListing.Case.Role
import TribunalListing.Channel
import TribunalListing.Request.Panel

/-!
# Hearing requests

A hearing request is made afresh for every action and never changes once it has been sent.
-/

namespace TribunalListing

/-! ## Parties -/

/-- How much of a day a party is unavailable for. -/
inductive UnavailabilityType where
  | allDay
  deriving DecidableEq, Inhabited

/-- Dates on which a party is unavailable. -/
structure UnavailabilityRange where
  fromDate : Date
  toDate : Date
  unavailabilityType : UnavailabilityType
  deriving DecidableEq, Inhabited

/-- A link from a party to the party it acts for or is on the case beside. -/
structure RelatedParty where
  relatedPartyId : String
  relationshipType : String
  deriving DecidableEq, Inhabited

structure IndividualDetails where
  title : Option String
  firstName : String
  lastName : String
  channel : Channel
  interpreterLanguage : Option String
  vulnerable : Bool
  vulnerabilityDetails : Option String
  unacceptableBehaviour : Bool
  emails : List String
  phones : List String
  relatedParties : List RelatedParty
  adjustments : Option String
  deriving DecidableEq, Inhabited

structure OrganisationDetails where
  name : String
  relatedParties : List RelatedParty
  deriving DecidableEq, Inhabited

structure PartyDetails where
  partyId : String
  partyType : PartyType
  partyRole : PartyRole
  individual : Option IndividualDetails
  organisation : Option OrganisationDetails
  unavailability : List UnavailabilityRange
  deriving DecidableEq, Inhabited

/-- The channel of the party; organisations have none. -/
def PartyDetails.channel? (p : PartyDetails) : Option Channel :=
  p.individual.map (·.channel)

/-! ## The request -/

inductive HearingPriority where
  | urgent
  | standard
  deriving DecidableEq, Inhabited

/-- The kinds of locations that the hearing service knows. -/
inductive LocationType where
  | court
  deriving DecidableEq, Inhabited

structure HearingLocation where
  locationId : String
  locationType : LocationType
  deriving DecidableEq, Inhabited

structure HearingWindow where
  earliest : Date
  deriving DecidableEq, Inhabited

structure RequestDetails where
  /-- The version of the hearing that is updated; none for a new hearing. -/
  versionNumber : Option Int64
  deriving DecidableEq, Inhabited

structure CaseCategory where
  categoryType : String
  categoryValue : String
  categoryParent : Option String
  deriving DecidableEq, Inhabited

structure CaseDetails where
  serviceCode : String
  caseRef : String
  externalCaseReference : Option String
  internalCaseName : String
  publicCaseName : String
  additionalSecurity : Bool
  interpreterRequired : Bool
  categories : List CaseCategory
  managementLocation : Option String
  restricted : Bool
  slaStart : Option Date
  deriving DecidableEq, Inhabited

structure HearingDetails where
  autoList : Bool
  hearingType : String
  window : Option HearingWindow
  duration : Minutes
  priority : HearingPriority
  physicalAttendees : UInt32
  locations : List HearingLocation
  privateHearing : Bool
  isLinked : Bool
  panel : Panel
  channels : List Channel
  deriving DecidableEq, Inhabited

structure HearingRequest where
  request : RequestDetails
  hearing : HearingDetails
  case : CaseDetails
  parties : List PartyDetails
  deriving DecidableEq, Inhabited

/-! ## Cancellations and notices -/

/-- Why a hearing is cancelled. -/
inductive CancellationReason where
  | withdrawn
  | struckOut
  | lapsed
  | notReady
  | other
  deriving DecidableEq

/-- The hearing service's code for the reason. -/
def CancellationReason.code : CancellationReason → String
  | .withdrawn => "withdraw"
  | .struckOut => "struck"
  | .lapsed => "lapsed"
  | .notReady => "notready"
  | .other => "other"

structure CancelRequest where
  reasonCodes : List String
  deriving DecidableEq, Inhabited

def CancelRequest.because (reason : CancellationReason) : CancelRequest :=
  ⟨[reason.code]⟩

/-- What is told about the notice that the parties were given. -/
structure NoticeData where
  noticeGenerated : Bool := false
  deriving DecidableEq, Inhabited

/-- The body that tells that the parties were notified. -/
structure PartiesNotified where
  serviceData : NoticeData := {}
  deriving DecidableEq, Inhabited

/-- The hearing service's reply to a create, an update or a cancellation. -/
structure HearingReply where
  hearingId : String
  version : Int64
  status : HearingStatus
  deriving DecidableEq, Inhabited

/-- The reply as an entry of the hearing history. -/
def HearingReply.record (r : HearingReply) : HearingRecord :=
  ⟨r.hearingId, r.version, r.status⟩

end TribunalListing
