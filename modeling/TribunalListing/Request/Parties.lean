-- SUMMARY: The party records of the hearing request.
import TribunalListing.Request.Cascade
import TribunalListing.Request.Payload

/-!
# Party records

The request carries one record for each participant, in party order, and the respondent's last.
The appellant's channel and interpreter come from the override cascade; every other individual goes
by its own options, or by those of the party it acts for. Ids have to be assigned first: links point
at the id that the other party has on the case.
-/

namespace TribunalListing

/-! ## Interpreters -/

/-- The language that an interpreter is asked for, if one is. Sign language comes before spoken. -/
def HearingOptions.requestedLanguage (o : HearingOptions) : Option String :=
  if o.wantsInterpreter then (Text.written o.signLanguage).or o.language else none

/-- The reference of the language that a party asks for. No request, or a blank one, is no error;
a language without a reference is. -/
def interpreterLanguage (reference : ReferenceData) (language dialect : Option String)
    (party : String) : Derived (Option String) :=
  match (Text.written language).map Text.trim with
  | none => .ok none
  | some language =>
    match reference.languageReference? language dialect with
    | some code => .ok (some code)
    | none =>
      .error (.unknownLanguage party
        (match dialect with
          | some dialect => s!"{language} ({dialect})"
          | none => language))

/-! ## Contents of a record -/

/-- The written values without white space at their ends, each once. -/
def contactList (values : List (Option String)) : List String :=
  (values.filterMap fun value => (Text.written value).map Text.trim).eraseDups

/-- The email addresses of a participant: the one for video first. -/
def Participant.emails (p : Participant) : List String :=
  contactList [p.options.bind (·.videoEmail), p.contact.email]

/-- The telephone numbers of a participant: the one for the hearing first. -/
def Participant.phones (p : Participant) : List String :=
  contactList [p.options.bind (·.telephoneNumber), p.contact.mobile, p.contact.phone]

def Participant.unavailability (p : Participant) : List UnavailabilityRange :=
  ((p.options.map (·.excludedDates)).getD []).map fun d =>
    ⟨d.first, d.last.getD d.first, .allDay⟩

/-- The link of a participant to the party it acts for, which needs an id on the case. -/
def Participant.relatedParties (c : CaseSnapshot) (p : Participant) : List RelatedParty :=
  match p.place.actsFor?.bind c.idAt, p.role.relationship? with
  | some id, some relationship => [⟨id, relationship⟩]
  | _, _ => []

def Participant.organisationDetails (c : CaseSnapshot) (p : Participant) : OrganisationDetails where
  name := Text.trim (p.organisation.getD "")
  relatedParties := p.relatedParties c

def Participant.individualDetails (c : CaseSnapshot) (p : Participant) (channel : Channel)
    (language : Option String) : IndividualDetails :=
  let name := p.name.getD {}
  let flags := p.flags.getD {}
  { title := name.title
    firstName := name.firstName
    lastName := name.lastName
    channel
    interpreterLanguage := language
    vulnerable := flags.isVulnerable
    vulnerabilityDetails := flags.vulnerabilityDetails
    unacceptableBehaviour := flags.unacceptableBehaviour
    emails := p.emails
    phones := p.phones
    relatedParties := p.relatedParties c
    adjustments := p.options.bind (·.adjustments) }

/-! ## Records -/

def organisationRecord (c : CaseSnapshot) (p : Participant) : PartyDetails where
  partyId := p.id.getD ""
  partyType := .organisation
  partyRole := p.role
  individual := none
  organisation := some (p.organisationDetails c)
  unavailability := p.unavailability

def individualRecord (c : CaseSnapshot) (p : Participant) (channel : Channel)
    (language : Option String) : PartyDetails where
  partyId := p.id.getD ""
  partyType := .individual
  partyRole := p.role
  individual := some (p.individualDetails c channel language)
  organisation := none
  unavailability := p.unavailability

def appellantRecord (c : CaseSnapshot) (reference : ReferenceData) (cascade : Cascade)
    (p : Participant) : Derived PartyDetails := do
  let need := cascade.appellantInterpreter.filter (·.wanted)
  let language ← interpreterLanguage reference (need.bind (·.language)) (need.bind (·.dialect)) p.label
  return individualRecord c p cascade.appellantChannel language

/-- The party record of an individual other than the appellant. -/
def otherRecord (c : CaseSnapshot) (reference : ReferenceData) (policy : ChannelPolicy)
    (p : Participant) : Derived PartyDetails := do
  let options := p.options.getD {}
  let channel ← options.channel policy p.label
  let language ← interpreterLanguage reference options.requestedLanguage options.dialect p.label
  return individualRecord c p channel language

def partyRecord (c : CaseSnapshot) (reference : ReferenceData) (cascade : Cascade)
    (policy : ChannelPolicy) (p : Participant) : Derived PartyDetails :=
  if p.place = .appellant then appellantRecord c reference cascade p
  else if p.partyType = .organisation then .ok (organisationRecord c p)
  else otherRecord c reference policy p

def Respondent.record (r : Respondent) : PartyDetails where
  partyId := r.partyId
  partyType := .organisation
  partyRole := .respondent
  individual := none
  organisation := some ⟨r.name, []⟩
  unavailability := []

def partyRecords (c : CaseSnapshot) (reference : ReferenceData) (cascade : Cascade)
    (policy : ChannelPolicy) : Derived (List PartyDetails) := do
  let records ← c.participants.mapM (partyRecord c reference cascade policy)
  return records ++ [c.respondent.record]

end TribunalListing
