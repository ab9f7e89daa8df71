-- SUMMARY: The JSON shapes of a case and of everything on it.
import TribunalListing.Case.Snapshot

/-!
# Cases on the wire

Each record is written with all of its members, absent values as null. When a record is read,
absent values may be missing, and the members that have a default may be missing but not null.
A joint party is flat: the answer that flags it stands among the members of the person, and so it is
read from an object only.
-/

namespace TribunalListing

/-! ## People -/

def PersonName.members (n : PersonName) : Members :=
  [ ("title", encodeOption n.title), ("firstName", encode n.firstName),
    ("lastName", encode n.lastName) ]

def PersonName.ofMembers? (members : Members) : Option PersonName := do
  let title ← members.optional "title"
  let firstName ← members.required "firstName"
  let lastName ← members.required "lastName"
  return { title, firstName, lastName }

instance : Wire PersonName where
  encode n := .object n.members
  decode := decodeRecord PersonName.members PersonName.ofMembers?

def Contact.members (c : Contact) : Members :=
  [ ("email", encodeOption c.email), ("mobile", encodeOption c.mobile),
    ("phone", encodeOption c.phone) ]

def Contact.ofMembers? (members : Members) : Option Contact := do
  let email ← members.optional "email"
  let mobile ← members.optional "mobile"
  let phone ← members.optional "phone"
  return { email, mobile, phone }

instance : Wire Contact where
  encode c := .object c.members
  decode := decodeRecord Contact.members Contact.ofMembers?

def ExcludedDates.members (d : ExcludedDates) : Members :=
  [("start", encode d.first), ("end", encodeOption d.last)]

def ExcludedDates.ofMembers? (members : Members) : Option ExcludedDates := do
  let first ← members.required "start"
  let last ← members.optional "end"
  return { first, last }

instance : Wire ExcludedDates where
  encode d := .object d.members
  decode := decodeRecord ExcludedDates.members ExcludedDates.ofMembers?

def HearingOptions.members (o : HearingOptions) : Members :=
  [ ("wantsToAttend", encodeOption o.wantsToAttend),
    ("wantsHearingTypeFaceToFace", encodeOption o.wantsFaceToFace),
    ("wantsHearingTypeVideo", encodeOption o.wantsVideo),
    ("hearingVideoEmail", encodeOption o.videoEmail),
    ("wantsHearingTypeTelephone", encodeOption o.wantsTelephone),
    ("hearingTelephoneNumber", encodeOption o.telephoneNumber),
    ("languageInterpreter", encodeOption o.languageInterpreter),
    ("languages", encodeOption o.language), ("dialect", encodeOption o.dialect),
    ("signLanguageType", encodeOption o.signLanguage), ("excludedDates", encode o.excludedDates),
    ("other", encodeOption o.adjustments) ]

def HearingOptions.ofMembers? (members : Members) : Option HearingOptions := do
  let wantsToAttend ← members.optional "wantsToAttend"
  let wantsFaceToFace ← members.optional "wantsHearingTypeFaceToFace"
  let wantsVideo ← members.optional "wantsHearingTypeVideo"
  let videoEmail ← members.optional "hearingVideoEmail"
  let wantsTelephone ← members.optional "wantsHearingTypeTelephone"
  let telephoneNumber ← members.optional "hearingTelephoneNumber"
  let languageInterpreter ← members.optional "languageInterpreter"
  let language ← members.optional "languages"
  let dialect ← members.optional "dialect"
  let signLanguage ← members.optional "signLanguageType"
  let excludedDates ← members.withDefault "excludedDates" []
  let adjustments ← members.optional "other"
  return { wantsToAttend, wantsFaceToFace, wantsVideo, videoEmail, wantsTelephone,
           telephoneNumber, languageInterpreter, language, dialect, signLanguage, excludedDates,
           adjustments }

instance : Wire HearingOptions where
  encode o := .object o.members
  decode := decodeRecord HearingOptions.members HearingOptions.ofMembers?

def PartyFlags.members (f : PartyFlags) : Members :=
  [ ("unacceptableBehaviour", encode f.unacceptableBehaviour),
    ("disabilityNeeds", encode f.disabilityNeeds), ("medicalNeeds", encode f.medicalNeeds),
    ("vulnerabilityDetails", encodeOption f.vulnerabilityDetails) ]

def PartyFlags.ofMembers? (members : Members) : Option PartyFlags := do
  let unacceptableBehaviour ← members.withDefault "unacceptableBehaviour" false
  let disabilityNeeds ← members.withDefault "disabilityNeeds" false
  let medicalNeeds ← members.withDefault "medicalNeeds" false
  let vulnerabilityDetails ← members.optional "vulnerabilityDetails"
  return { unacceptableBehaviour, disabilityNeeds, medicalNeeds, vulnerabilityDetails }

instance : Wire PartyFlags where
  encode f := .object f.members
  decode := decodeRecord PartyFlags.members PartyFlags.ofMembers?

def Person.members (p : Person) : Members :=
  [ ("id", encodeOption p.id), ("name", encode p.name), ("contact", encode p.contact),
    ("hearingOptions", encodeOption p.hearingOptions), ("flags", encode p.flags) ]

def Person.ofMembers? (members : Members) : Option Person := do
  let id ← members.optional "id"
  let name ← members.withDefault "name" {}
  let contact ← members.withDefault "contact" {}
  let hearingOptions ← members.optional "hearingOptions"
  let flags ← members.withDefault "flags" {}
  return { id, name, contact, hearingOptions, flags }

instance : Wire Person where
  encode p := .object p.members
  decode := decodeRecord Person.members Person.ofMembers? 1

def Representative.members (r : Representative) : Members :=
  [ ("hasRepresentative", encodeOption r.hasRepresentative), ("id", encodeOption r.id),
    ("name", encodeOption r.name), ("organisation", encodeOption r.organisation),
    ("contact", encode r.contact), ("hearingOptions", encodeOption r.hearingOptions) ]

def Representative.ofMembers? (members : Members) : Option Representative := do
  let hasRepresentative ← members.optional "hasRepresentative"
  let id ← members.optional "id"
  let name ← members.optional "name"
  let organisation ← members.optional "organisation"
  let contact ← members.withDefault "contact" {}
  let hearingOptions ← members.optional "hearingOptions"
  return { hasRepresentative, id, name, organisation, contact, hearingOptions }

instance : Wire Representative where
  encode r := .object r.members
  decode := decodeRecord Representative.members Representative.ofMembers?

def Appellant.members (a : Appellant) : Members :=
  [ ("id", encodeOption a.id), ("name", encode a.name), ("contact", encode a.contact),
    ("hearingOptions", encode a.hearingOptions), ("flags", encode a.flags),
    ("isAppointee", encodeOption a.isAppointee), ("appointee", encodeOption a.appointee) ]

def Appellant.ofMembers? (members : Members) : Option Appellant := do
  let id ← members.optional "id"
  let name ← members.withDefault "name" {}
  let contact ← members.withDefault "contact" {}
  let hearingOptions ← members.withDefault "hearingOptions" {}
  let flags ← members.withDefault "flags" {}
  let isAppointee ← members.optional "isAppointee"
  let appointee ← members.optional "appointee"
  return { id, name, contact, hearingOptions, flags, isAppointee, appointee }

instance : Wire Appellant where
  encode a := .object a.members
  decode := decodeRecord Appellant.members Appellant.ofMembers?

/-- The members that `JointParty` is written as: those of the person, and its own flag. -/
def JointParty.members (j : JointParty) : Members :=
  ("hasJointParty", encodeOption j.hasJointParty) :: j.person.members

def JointParty.ofMembers? (members : Members) : Option JointParty := do
  let hasJointParty ← members.optional "hasJointParty"
  let person ← Person.ofMembers? members
  return { hasJointParty, person }

instance : Wire JointParty where
  encode j := .object j.members
  decode j := (Members.of? j).bind JointParty.ofMembers?

def OtherParty.members (p : OtherParty) : Members :=
  [ ("id", encodeOption p.id), ("name", encode p.name), ("contact", encode p.contact),
    ("hearingOptions", encodeOption p.hearingOptions), ("flags", encode p.flags),
    ("isAppointee", encodeOption p.isAppointee), ("appointee", encodeOption p.appointee),
    ("rep", encodeOption p.representative) ]

def OtherParty.ofMembers? (members : Members) : Option OtherParty := do
  let id ← members.optional "id"
  let name ← members.withDefault "name" {}
  let contact ← members.withDefault "contact" {}
  let hearingOptions ← members.optional "hearingOptions"
  let flags ← members.withDefault "flags" {}
  let isAppointee ← members.optional "isAppointee"
  let appointee ← members.optional "appointee"
  let representative ← members.optional "rep"
  return { id, name, contact, hearingOptions, flags, isAppointee, appointee, representative }

instance : Wire OtherParty where
  encode p := .object p.members
  decode := decodeRecord OtherParty.members OtherParty.ofMembers?

def Respondent.members (r : Respondent) : Members :=
  [("partyId", encode r.partyId), ("name", encode r.name)]

def Respondent.ofMembers? (members : Members) : Option Respondent := do
  let partyId ← members.required "partyId"
  let name ← members.required "name"
  return { partyId, name }

instance : Wire Respondent where
  encode r := .object r.members
  decode := decodeRecord Respondent.members Respondent.ofMembers?

/-! ## Adjournment and overrides -/

def NamedPanelMember.members (m : NamedPanelMember) : Members :=
  [("member", encode m.member), ("memberType", encode m.memberType)]

def NamedPanelMember.ofMembers? (members : Members) : Option NamedPanelMember := do
  let member ← members.required "member"
  let memberType ← members.required "memberType"
  return { member, memberType }

instance : Wire NamedPanelMember where
  encode m := .object m.members
  decode := decodeRecord NamedPanelMember.members NamedPanelMember.ofMembers?

def Adjournment.members (a : Adjournment) : Members :=
  [ ("inProgress", encode a.inProgress), ("nextHearingType", encodeOption a.nextHearingType),
    ("nextHearingVenue", encodeOption a.nextHearingVenue),
    ("nextHearingVenueSelected", encodeOption a.nextVenueSelected),
    ("nextHearingListingDuration", encodeOption a.nextDuration),
    ("nextHearingListingDurationUnits", encodeOption a.nextDurationUnit),
    ("panelMembersExcluded", encodeOption a.panelMembersExcluded),
    ("panelMembers", encode a.panelMembers) ]

def Adjournment.ofMembers? (members : Members) : Option Adjournment := do
  let inProgress ← members.withDefault "inProgress" false
  let nextHearingType ← members.optional "nextHearingType"
  let nextHearingVenue ← members.optional "nextHearingVenue"
  let nextVenueSelected ← members.optional "nextHearingVenueSelected"
  let nextDuration ← members.optional "nextHearingListingDuration"
  let nextDurationUnit ← members.optional "nextHearingListingDurationUnits"
  let panelMembersExcluded ← members.optional "panelMembersExcluded"
  let panelMembers ← members.withDefault "panelMembers" []
  return { inProgress, nextHearingType, nextHearingVenue, nextVenueSelected, nextDuration,
           nextDurationUnit, panelMembersExcluded, panelMembers }

instance : Wire Adjournment where
  encode a := .object a.members
  decode := decodeRecord Adjournment.members Adjournment.ofMembers? 1

def InterpreterNeed.members (i : InterpreterNeed) : Members :=
  [ ("wanted", encode i.wanted), ("language", encodeOption i.language),
    ("dialect", encodeOption i.dialect) ]

def InterpreterNeed.ofMembers? (members : Members) : Option InterpreterNeed := do
  let wanted ← members.required "wanted"
  let language ← members.optional "language"
  let dialect ← members.optional "dialect"
  return { wanted, language, dialect }

instance : Wire InterpreterNeed where
  encode i := .object i.members
  decode := decodeRecord InterpreterNeed.members InterpreterNeed.ofMembers?

def OverrideFields.members (o : OverrideFields) : Members :=
  [ ("duration", encodeOption o.duration), ("appellantChannel", encodeOption o.appellantChannel),
    ("appellantInterpreter", encodeOption o.appellantInterpreter),
    ("hearingVenueIds", encodeOption o.venueIds), ("reservedJudge", encodeOption o.reservedJudge),
    ("autoList", encodeOption o.autoList), ("hearingWindowStart", encodeOption o.windowStart) ]

def OverrideFields.ofMembers? (members : Members) : Option OverrideFields := do
  let duration ← members.optional "duration"
  let appellantChannel ← members.optional "appellantChannel"
  let appellantInterpreter ← members.optional "appellantInterpreter"
  let venueIds ← members.optional "hearingVenueIds"
  let reservedJudge ← members.optional "reservedJudge"
  let autoList ← members.optional "autoList"
  let windowStart ← members.optional "hearingWindowStart"
  return { duration, appellantChannel, appellantInterpreter, venueIds, reservedJudge, autoList,
           windowStart }

instance : Wire OverrideFields where
  encode o := .object o.members
  decode := decodeRecord OverrideFields.members OverrideFields.ofMembers?

/-! ## Events -/

/-- The kind of event that a code stands for; codes that are not known are other events. -/
def CaseEventType.ofCode : String → CaseEventType
  | "appealReceived" => .appealReceived
  | "responseReceived" => .responseReceived
  | "readyToList" => .readyToList
  | _ => .other

def CaseEventType.code : CaseEventType → String
  | .appealReceived => "appealReceived"
  | .responseReceived => "responseReceived"
  | .readyToList => "readyToList"
  | .other => "other"

instance : Wire CaseEventType where
  encode e := .string e.code
  decode j := j.code?.map CaseEventType.ofCode

def CaseEvent.members (e : CaseEvent) : Members :=
  [("eventType", encode e.eventType), ("date", encode e.date)]

def CaseEvent.ofMembers? (members : Members) : Option CaseEvent := do
  let eventType ← members.required "eventType"
  let date ← members.required "date"
  return { eventType, date }

instance : Wire CaseEvent where
  encode e := .object e.members
  decode := decodeRecord CaseEvent.members CaseEvent.ofMembers?

/-! ## Hearings -/

def HearingRecord.members (r : HearingRecord) : Members :=
  [("hearingId", encode r.hearingId), ("version", encode r.version), ("status", encode r.status)]

def HearingRecord.ofMembers? (members : Members) : Option HearingRecord := do
  let hearingId ← members.required "hearingId"
  let version ← members.required "version"
  let status ← members.required "status"
  return { hearingId, version, status }

instance : Wire HearingRecord where
  encode r := .object r.members
  decode := decodeRecord HearingRecord.members HearingRecord.ofMembers?

def ListedHearing.members (h : ListedHearing) : Members :=
  [ ("hearingId", encode h.hearingId), ("requestVersion", encodeOption h.requestVersion),
    ("status", encode h.status) ]

def ListedHearing.ofMembers? (members : Members) : Option ListedHearing := do
  let hearingId ← members.required "hearingId"
  let requestVersion ← members.optional "requestVersion"
  let status ← members.required "status"
  return { hearingId, requestVersion, status }

instance : Wire ListedHearing where
  encode h := .object h.members
  decode := decodeRecord ListedHearing.members ListedHearing.ofMembers?

/-! ## The case -/

def CaseSnapshot.members (c : CaseSnapshot) : Members :=
  [ ("caseId", encode c.caseId), ("caseReference", encodeOption c.caseReference),
    ("benefitCode", encode c.benefitCode), ("issueCode", encode c.issueCode),
    ("disputedIssueCodes", encode c.disputedIssueCodes),
    ("regionalProcessingCentre", encodeOption c.regionalProcessingCentre),
    ("processingVenue", encodeOption c.processingVenue), ("urgent", encode c.urgent),
    ("confidential", encode c.confidential),
    ("panelDoctorSpecialism", encodeOption c.panelDoctorSpecialism),
    ("secondPanelDoctorSpecialism", encodeOption c.secondPanelDoctorSpecialism),
    ("appellant", encode c.appellant), ("representative", encodeOption c.representative),
    ("jointParty", encodeOption c.jointParty), ("otherParties", encode c.otherParties),
    ("respondent", encode c.respondent), ("adjournment", encode c.adjournment),
    ("linkedCases", encode c.linkedCases), ("events", encode c.events),
    ("overrides", encode c.overrides), ("hearings", encode c.hearings) ]

def CaseSnapshot.ofMembers? (members : Members) : Option CaseSnapshot := do
  let caseId ← members.required "caseId"
  let caseReference ← members.optional "caseReference"
  let benefitCode ← members.required "benefitCode"
  let issueCode ← members.required "issueCode"
  let disputedIssueCodes ← members.withDefault "disputedIssueCodes" []
  let regionalProcessingCentre ← members.optional "regionalProcessingCentre"
  let processingVenue ← members.optional "processingVenue"
  let urgent ← members.withDefault "urgent" false
  let confidential ← members.withDefault "confidential" false
  let panelDoctorSpecialism ← members.optional "panelDoctorSpecialism"
  let secondPanelDoctorSpecialism ← members.optional "secondPanelDoctorSpecialism"
  let appellant ← members.withDefault "appellant" {}
  let representative ← members.optional "representative"
  let jointParty ← members.optional "jointParty"
  let otherParties ← members.withDefault "otherParties" []
  let respondent ← members.withDefault "respondent" {}
  let adjournment ← members.withDefault "adjournment" {}
  let linkedCases ← members.withDefault "linkedCases" []
  let events ← members.withDefault "events" []
  let overrides ← members.withDefault "overrides" {}
  let hearings ← members.withDefault "hearings" []
  return { caseId, caseReference, benefitCode, issueCode, disputedIssueCodes,
           regionalProcessingCentre, processingVenue, urgent, confidential, panelDoctorSpecialism,
           secondPanelDoctorSpecialism, appellant, representative, jointParty, otherParties,
           respondent, adjournment, linkedCases, events, overrides, hearings }

instance : Wire CaseSnapshot where
  encode c := .object c.members
  decode := decodeRecord CaseSnapshot.members CaseSnapshot.ofMembers? 7

end TribunalListing
