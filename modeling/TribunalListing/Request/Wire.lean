-- SUMMARY: The JSON shapes of the hearing request and of the other messages of the hearing service.
import TribunalListing.Case.Wire
import TribunalListing.Request.Payload

/-!
# Hearing requests on the wire

The shapes are those of the hearing service. No member of a request has a default: only values that
can be absent may be missing.
-/

namespace TribunalListing

/-! ## Parties -/

instance : Vocabulary UnavailabilityType where
  terms := [.allDay]
  code
    | .allDay => "ALL_DAY"

def UnavailabilityRange.members (r : UnavailabilityRange) : Members :=
  [ ("unavailableFromDate", encode r.fromDate), ("unavailableToDate", encode r.toDate),
    ("unavailabilityType", encode r.unavailabilityType) ]

def UnavailabilityRange.ofMembers? (members : Members) : Option UnavailabilityRange := do
  let fromDate ← members.required "unavailableFromDate"
  let toDate ← members.required "unavailableToDate"
  let unavailabilityType ← members.required "unavailabilityType"
  return { fromDate, toDate, unavailabilityType }

instance : Wire UnavailabilityRange where
  encode r := .object r.members
  decode := decodeRecord UnavailabilityRange.members UnavailabilityRange.ofMembers?

def RelatedParty.members (p : RelatedParty) : Members :=
  [("relatedPartyId", encode p.relatedPartyId), ("relationshipType", encode p.relationshipType)]

def RelatedParty.ofMembers? (members : Members) : Option RelatedParty := do
  let relatedPartyId ← members.required "relatedPartyId"
  let relationshipType ← members.required "relationshipType"
  return { relatedPartyId, relationshipType }

instance : Wire RelatedParty where
  encode p := .object p.members
  decode := decodeRecord RelatedParty.members RelatedParty.ofMembers?

def IndividualDetails.members (d : IndividualDetails) : Members :=
  [ ("title", encodeOption d.title), ("firstName", encode d.firstName),
    ("lastName", encode d.lastName), ("preferredHearingChannel", encode d.channel),
    ("interpreterLanguage", encodeOption d.interpreterLanguage),
    ("vulnerableFlag", encode d.vulnerable),
    ("vulnerabilityDetails", encodeOption d.vulnerabilityDetails),
    ("unacceptableBehaviour", encode d.unacceptableBehaviour),
    ("hearingChannelEmail", encode d.emails), ("hearingChannelPhone", encode d.phones),
    ("relatedParties", encode d.relatedParties),
    ("otherReasonableAdjustmentDetails", encodeOption d.adjustments) ]

def IndividualDetails.ofMembers? (members : Members) : Option IndividualDetails := do
  let title ← members.optional "title"
  let firstName ← members.required "firstName"
  let lastName ← members.required "lastName"
  let channel ← members.required "preferredHearingChannel"
  let interpreterLanguage ← members.optional "interpreterLanguage"
  let vulnerable ← members.required "vulnerableFlag"
  let vulnerabilityDetails ← members.optional "vulnerabilityDetails"
  let unacceptableBehaviour ← members.required "unacceptableBehaviour"
  let emails ← members.required "hearingChannelEmail"
  let phones ← members.required "hearingChannelPhone"
  let relatedParties ← members.required "relatedParties"
  let adjustments ← members.optional "otherReasonableAdjustmentDetails"
  return { title, firstName, lastName, channel, interpreterLanguage, vulnerable,
           vulnerabilityDetails, unacceptableBehaviour, emails, phones, relatedParties,
           adjustments }

instance : Wire IndividualDetails where
  encode d := .object d.members
  decode := decodeRecord IndividualDetails.members IndividualDetails.ofMembers?

def OrganisationDetails.members (d : OrganisationDetails) : Members :=
  [("name", encode d.name), ("relatedParties", encode d.relatedParties)]

def OrganisationDetails.ofMembers? (members : Members) : Option OrganisationDetails := do
  let name ← members.required "name"
  let relatedParties ← members.required "relatedParties"
  return { name, relatedParties }

instance : Wire OrganisationDetails where
  encode d := .object d.members
  decode := decodeRecord OrganisationDetails.members OrganisationDetails.ofMembers?

def PartyDetails.members (p : PartyDetails) : Members :=
  [ ("partyId", encode p.partyId), ("partyType", encode p.partyType),
    ("partyRole", encode p.partyRole), ("individualDetails", encodeOption p.individual),
    ("organisationDetails", encodeOption p.organisation),
    ("unavailabilityRanges", encode p.unavailability) ]

def PartyDetails.ofMembers? (members : Members) : Option PartyDetails := do
  let partyId ← members.required "partyId"
  let partyType ← members.required "partyType"
  let partyRole ← members.required "partyRole"
  let individual ← members.optional "individualDetails"
  let organisation ← members.optional "organisationDetails"
  let unavailability ← members.required "unavailabilityRanges"
  return { partyId, partyType, partyRole, individual, organisation, unavailability }

instance : Wire PartyDetails where
  encode p := .object p.members
  decode := decodeRecord PartyDetails.members PartyDetails.ofMembers?

/-! ## The hearing -/

instance : Vocabulary HearingPriority where
  terms := [.urgent, .standard]
  code
    | .urgent => "Urgent"
    | .standard => "Standard"

instance : Vocabulary LocationType where
  terms := [.court]
  code
    | .court => "court"

def HearingLocation.members (l : HearingLocation) : Members :=
  [("locationId", encode l.locationId), ("locationType", encode l.locationType)]

def HearingLocation.ofMembers? (members : Members) : Option HearingLocation := do
  let locationId ← members.required "locationId"
  let locationType ← members.required "locationType"
  return { locationId, locationType }

instance : Wire HearingLocation where
  encode l := .object l.members
  decode := decodeRecord HearingLocation.members HearingLocation.ofMembers?

def HearingWindow.members (w : HearingWindow) : Members :=
  [("dateRangeStart", encode w.earliest)]

def HearingWindow.ofMembers? (members : Members) : Option HearingWindow := do
  let earliest ← members.required "dateRangeStart"
  return { earliest }

instance : Wire HearingWindow where
  encode w := .object w.members
  decode := decodeRecord HearingWindow.members HearingWindow.ofMembers?

def PanelPreference.members (p : PanelPreference) : Members :=
  [ ("memberId", encode p.memberId), ("memberType", encode p.memberType),
    ("requirementType", encode p.requirement) ]

def PanelPreference.ofMembers? (members : Members) : Option PanelPreference := do
  let memberId ← members.required "memberId"
  let memberType ← members.required "memberType"
  let requirement ← members.required "requirementType"
  return { memberId, memberType, requirement }

instance : Wire PanelPreference where
  encode p := .object p.members
  decode := decodeRecord PanelPreference.members PanelPreference.ofMembers?

def Panel.members (p : Panel) : Members :=
  [ ("roleTypes", encode p.roleTypes), ("authorisationSubTypes", encode p.authorisationSubTypes),
    ("panelSpecialisms", encode p.specialisms), ("panelPreferences", encode p.preferences) ]

def Panel.ofMembers? (members : Members) : Option Panel := do
  let roleTypes ← members.required "roleTypes"
  let authorisationSubTypes ← members.required "authorisationSubTypes"
  let specialisms ← members.required "panelSpecialisms"
  let preferences ← members.required "panelPreferences"
  return { roleTypes, authorisationSubTypes, specialisms, preferences }

instance : Wire Panel where
  encode p := .object p.members
  decode := decodeRecord Panel.members Panel.ofMembers?

def HearingDetails.members (h : HearingDetails) : Members :=
  [ ("autoListFlag", encode h.autoList), ("hearingType", encode h.hearingType),
    ("hearingWindow", encodeOption h.window), ("duration", encode h.duration),
    ("hearingPriorityType", encode h.priority),
    ("numberOfPhysicalAttendees", encode h.physicalAttendees),
    ("hearingLocations", encode h.locations),
    ("privateHearingRequiredFlag", encode h.privateHearing),
    ("hearingIsLinkedFlag", encode h.isLinked), ("panelRequirements", encode h.panel),
    ("hearingChannels", encode h.channels) ]

def HearingDetails.ofMembers? (members : Members) : Option HearingDetails := do
  let autoList ← members.required "autoListFlag"
  let hearingType ← members.required "hearingType"
  let window ← members.optional "hearingWindow"
  let duration ← members.required "duration"
  let priority ← members.required "hearingPriorityType"
  let physicalAttendees ← members.required "numberOfPhysicalAttendees"
  let locations ← members.required "hearingLocations"
  let privateHearing ← members.required "privateHearingRequiredFlag"
  let isLinked ← members.required "hearingIsLinkedFlag"
  let panel ← members.required "panelRequirements"
  let channels ← members.required "hearingChannels"
  return { autoList, hearingType, window, duration, priority, physicalAttendees, locations,
           privateHearing, isLinked, panel, channels }

instance : Wire HearingDetails where
  encode h := .object h.members
  decode := decodeRecord HearingDetails.members HearingDetails.ofMembers?

/-! ## The case and the request -/

def CaseCategory.members (c : CaseCategory) : Members :=
  [ ("categoryType", encode c.categoryType), ("categoryValue", encode c.categoryValue),
    ("categoryParent", encodeOption c.categoryParent) ]

def CaseCategory.ofMembers? (members : Members) : Option CaseCategory := do
  let categoryType ← members.required "categoryType"
  let categoryValue ← members.required "categoryValue"
  let categoryParent ← members.optional "categoryParent"
  return { categoryType, categoryValue, categoryParent }

instance : Wire CaseCategory where
  encode c := .object c.members
  decode := decodeRecord CaseCategory.members CaseCategory.ofMembers?

def CaseDetails.members (c : CaseDetails) : Members :=
  [ ("hmctsServiceCode", encode c.serviceCode), ("caseRef", encode c.caseRef),
    ("externalCaseReference", encodeOption c.externalCaseReference),
    ("hmctsInternalCaseName", encode c.internalCaseName),
    ("publicCaseName", encode c.publicCaseName),
    ("caseAdditionalSecurityFlag", encode c.additionalSecurity),
    ("caseInterpreterRequiredFlag", encode c.interpreterRequired),
    ("caseCategories", encode c.categories),
    ("caseManagementLocationCode", encodeOption c.managementLocation),
    ("caseRestrictedFlag", encode c.restricted), ("caseSlaStartDate", encodeOption c.slaStart) ]

def CaseDetails.ofMembers? (members : Members) : Option CaseDetails := do
  let serviceCode ← members.required "hmctsServiceCode"
  let caseRef ← members.required "caseRef"
  let externalCaseReference ← members.optional "externalCaseReference"
  let internalCaseName ← members.required "hmctsInternalCaseName"
  let publicCaseName ← members.required "publicCaseName"
  let additionalSecurity ← members.required "caseAdditionalSecurityFlag"
  let interpreterRequired ← members.required "caseInterpreterRequiredFlag"
  let categories ← members.required "caseCategories"
  let managementLocation ← members.optional "caseManagementLocationCode"
  let restricted ← members.required "caseRestrictedFlag"
  let slaStart ← members.optional "caseSlaStartDate"
  return { serviceCode, caseRef, externalCaseReference, internalCaseName, publicCaseName,
           additionalSecurity, interpreterRequired, categories, managementLocation, restricted,
           slaStart }

instance : Wire CaseDetails where
  encode c := .object c.members
  decode := decodeRecord CaseDetails.members CaseDetails.ofMembers?

def RequestDetails.members (r : RequestDetails) : Members :=
  [("versionNumber", encodeOption r.versionNumber)]

def RequestDetails.ofMembers? (members : Members) : Option RequestDetails := do
  let versionNumber ← members.optional "versionNumber"
  return { versionNumber }

instance : Wire RequestDetails where
  encode r := .object r.members
  decode := decodeRecord RequestDetails.members RequestDetails.ofMembers?

def HearingRequest.members (r : HearingRequest) : Members :=
  [ ("requestDetails", encode r.request), ("hearingDetails", encode r.hearing),
    ("caseDetails", encode r.case), ("partyDetails", encode r.parties) ]

def HearingRequest.ofMembers? (members : Members) : Option HearingRequest := do
  let request ← members.required "requestDetails"
  let hearing ← members.required "hearingDetails"
  let case ← members.required "caseDetails"
  let parties ← members.required "partyDetails"
  return { request, hearing, case, parties }

instance : Wire HearingRequest where
  encode r := .object r.members
  decode := decodeRecord HearingRequest.members HearingRequest.ofMembers?

/-! ## Cancellations, notices and replies -/

instance : Vocabulary CancellationReason where
  terms := [.withdrawn, .struckOut, .lapsed, .notReady, .other]
  code := CancellationReason.code

def CancelRequest.members (r : CancelRequest) : Members :=
  [("cancellationReasonCodes", encode r.reasonCodes)]

def CancelRequest.ofMembers? (members : Members) : Option CancelRequest := do
  let reasonCodes ← members.required "cancellationReasonCodes"
  return { reasonCodes }

instance : Wire CancelRequest where
  encode r := .object r.members
  decode := decodeRecord CancelRequest.members CancelRequest.ofMembers?

def NoticeData.members (n : NoticeData) : Members :=
  [("hearingNoticeGenerated", encode n.noticeGenerated)]

def NoticeData.ofMembers? (members : Members) : Option NoticeData := do
  let noticeGenerated ← members.required "hearingNoticeGenerated"
  return { noticeGenerated }

instance : Wire NoticeData where
  encode n := .object n.members
  decode := decodeRecord NoticeData.members NoticeData.ofMembers?

def PartiesNotified.members (p : PartiesNotified) : Members :=
  [("serviceData", encode p.serviceData)]

def PartiesNotified.ofMembers? (members : Members) : Option PartiesNotified := do
  let serviceData ← members.required "serviceData"
  return { serviceData }

instance : Wire PartiesNotified where
  encode p := .object p.members
  decode := decodeRecord PartiesNotified.members PartiesNotified.ofMembers?

def HearingReply.members (r : HearingReply) : Members :=
  [ ("hearingId", encode r.hearingId), ("versionNumber", encode r.version),
    ("status", encode r.status) ]

def HearingReply.ofMembers? (members : Members) : Option HearingReply := do
  let hearingId ← members.required "hearingId"
  let version ← members.required "versionNumber"
  let status ← members.required "status"
  return { hearingId, version, status }

instance : Wire HearingReply where
  encode r := .object r.members
  decode := decodeRecord HearingReply.members HearingReply.ofMembers?

end TribunalListing
