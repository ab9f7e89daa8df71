-- SUMMARY: The parties of a case as they are recorded, before party records are built from them.
import TribunalListing.Case.Place
import TribunalListing.Request.Attendance

/-!
# Participants

A participant is what a case records about the party at one place, whatever kind of person or
organisation it is. Appointees, representatives and the joint party take on the hearing options of
the party that they act for, where they have none of their own.
-/

namespace TribunalListing

/-- What a case records about the party at one place. -/
structure Participant where
  place : Place
  id : Option String
  name : Option PersonName
  organisation : Option String
  contact : Contact
  /-- Its own options, or those of the party it acts for. -/
  options : Option HearingOptions
  flags : Option PartyFlags
  deriving DecidableEq

namespace Participant

def role (p : Participant) : PartyRole :=
  p.place.role

/-- A participant without a name and with an organisation is an organisation. -/
def partyType (p : Participant) : PartyType :=
  if p.name.any (!·.isBlank) then .individual
  else if (Text.written p.organisation).isSome then .organisation
  else .individual

/-- What the participant is called in errors. -/
def label (p : Participant) : String :=
  p.role.code ++ " " ++ p.id.getD "?"

end Participant

/-- An appointee or joint party as the participant at a place. -/
def Person.participant (p : Person) (place : Place) (inherited : Option HearingOptions) :
    Participant where
  place
  id := p.id
  name := some p.name
  organisation := none
  contact := p.contact
  options := p.hearingOptions.or inherited
  flags := some p.flags

/-- A representative as the participant at a place. -/
def Representative.participant (r : Representative) (place : Place)
    (inherited : Option HearingOptions) : Participant where
  place
  id := r.id
  name := r.name
  organisation := r.organisation
  contact := r.contact
  options := r.hearingOptions.or inherited
  flags := none

def Appellant.participant (a : Appellant) : Participant where
  place := .appellant
  id := a.id
  name := some a.name
  organisation := none
  contact := a.contact
  options := some a.hearingOptions
  flags := some a.flags

def OtherParty.participant (p : OtherParty) (index : Nat) : Participant where
  place := .otherParty index
  id := p.id
  name := some p.name
  organisation := none
  contact := p.contact
  options := p.hearingOptions
  flags := some p.flags

namespace CaseSnapshot

/-- The participant at a place, if the place is active. -/
def participantAt? (c : CaseSnapshot) : Place → Option Participant
  | .appellant => some c.appellant.participant
  | .appellantAppointee =>
    c.appellant.actingAppointee.map
      (·.participant .appellantAppointee (some c.appellant.hearingOptions))
  | .representative =>
    c.presentRepresentative.map (·.participant .representative (some c.appellant.hearingOptions))
  | .jointParty =>
    c.presentJointParty.map (·.person.participant .jointParty (some c.appellant.hearingOptions))
  | .otherParty i => c.otherParties[i]?.map (·.participant i)
  | .otherPartyAppointee i =>
    c.otherParties[i]?.bind fun p =>
      p.actingAppointee.map (·.participant (.otherPartyAppointee i) p.hearingOptions)
  | .otherPartyRepresentative i =>
    c.otherParties[i]?.bind fun p =>
      p.presentRepresentative.map (·.participant (.otherPartyRepresentative i) p.hearingOptions)

/-- The participants of the case, in party order. -/
def participants (c : CaseSnapshot) : List Participant :=
  c.places.filterMap c.participantAt?

/-- The channels of all participants except the appellant and organisations, in party order. -/
def otherChannels (c : CaseSnapshot) (policy : ChannelPolicy) : Derived (List Channel) :=
  (c.participants.filter fun p => p.place ≠ .appellant && p.partyType = .individual).mapM fun p =>
    (p.options.getD {}).channel policy p.label

end CaseSnapshot

end TribunalListing
