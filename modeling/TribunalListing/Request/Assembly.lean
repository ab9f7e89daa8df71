-- SUMMARY: The assembly of the hearing request from its parts.
import TribunalListing.Case.Identity
import TribunalListing.Request.Parties

/-!
# Assembly

Party ids are assigned on a copy of the case first, and all else is derived from that copy. Every
overridable field is read through the override cascade. The first failure ends the derivation.
-/

namespace TribunalListing

/-- A request, together with the case that it was derived from. -/
structure AssembledRequest where
  request : HearingRequest
  /-- The case with party ids assigned. -/
  case : CaseSnapshot
  /-- The ids that were handed out. -/
  assignedIds : List String
  deriving DecidableEq

/-- The categories of a case: its type, and its sub-type below it. -/
def caseCategories (c : CaseSnapshot) (serviceCode : String) : List CaseCategory :=
  let caseType := serviceCode ++ "-" ++ c.benefitCode
  [ ⟨"caseType", caseType, none⟩,
    ⟨"caseSubType", caseType ++ "-" ++ c.issueCode, some caseType⟩ ]

/-- The number of parties that attend face to face, or the largest count there is. -/
def physicalAttendees (parties : List PartyDetails) : UInt32 :=
  UInt32.ofNat (min (parties.filter fun p => p.channel? = some .faceToFace).length 4294967295)

/-- Where a duration came from, as it is named when the final check turns it down. -/
def durationSource (cascade : Cascade) : String :=
  if (honouredDuration cascade.overrides.duration).isSome then "override" else "duration"

def caseDetails (c : CaseSnapshot) (reference : ReferenceData) (options : DerivationOptions)
    (cascade : Cascade) : CaseDetails where
  serviceCode := options.serviceCode
  caseRef := c.caseId
  externalCaseReference := c.caseReference
  internalCaseName := c.caseName
  publicCaseName := c.caseName
  additionalSecurity := c.confidential || c.hasUnacceptableBehaviour
  interpreterRequired := cascade.interpreterRequired
  categories := caseCategories c options.serviceCode
  managementLocation := c.processingVenue.bind reference.locationOf?
  restricted := c.confidential
  slaStart := c.latestEvent? .appealReceived

def hearingDetails (c : CaseSnapshot) (options : DerivationOptions) (cascade : Cascade)
    (duration : Minutes) (parties : List PartyDetails) (locations : List String) (panel : Panel) :
    HearingDetails where
  autoList := cascade.autoList
  hearingType := options.serviceCode ++ "-SUB"
  window := cascade.windowStart.map (⟨·⟩)
  duration
  priority := if c.urgent then .urgent else .standard
  physicalAttendees := physicalAttendees parties
  locations := locations.map (⟨·, .court⟩)
  privateHearing := c.confidential
  isLinked := !c.linkedCases.isEmpty
  panel
  channels := [Channel.ofCase (parties.filterMap (·.channel?))]

/-- The request for a case whose parties have their ids. -/
def requestFor (c : CaseSnapshot) (reference : ReferenceData) (options : DerivationOptions)
    (version : Option Int64) : Derived HearingRequest := do
  let cascade ← Cascade.ofCase c reference options
  let duration ← checkDuration cascade.duration (durationSource cascade)
  let parties ← partyRecords c reference cascade options.channelPolicy
  let locations ← locationsOf reference cascade.venueIds
  let panel ← requiredPanel c reference cascade.interpreterRequired cascade.reservedJudge
    options.adjournmentEnabled
  return {
    request := ⟨version⟩
    hearing := hearingDetails c options cascade duration parties locations panel
    case := caseDetails c reference options cascade
    parties }

/-- The hearing request for a case. -/
def assembleRequest (c : CaseSnapshot) (reference : ReferenceData) (options : DerivationOptions)
    (version : Option Int64) : Derived AssembledRequest := do
  let (numbered, assignedIds) ← c.assignIds
  let request ← requestFor numbered reference options version
  return { request, case := numbered, assignedIds }

/-- Checks a request against listing rules. -/
def HearingRequest.check (r : HearingRequest) : Derived Unit := do
  let _ ← checkDuration r.hearing.duration "duration"

end TribunalListing
