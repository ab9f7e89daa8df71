-- SUMMARY: The people and organisations on a case, and what they have answered about the hearing.
import TribunalListing.Case.Answer
import TribunalListing.Text.Blank

/-!
# People on a case

The appellant brings the case against the respondent. Appointees act for a party that cannot act
for itself, representatives speak for one, and a joint party or other parties may be on the case
as well. An appointee, a representative or a joint party may be recorded without currently being
a party: each is flagged as present by an answer of its own.
-/

namespace TribunalListing

/-! ## Names and contacts -/

structure PersonName where
  title : Option String := none
  firstName : String := ""
  lastName : String := ""
  deriving DecidableEq, Inhabited

/-- First and last name with a space between them, without white space at the ends. -/
def PersonName.full (name : PersonName) : String :=
  Text.trim (name.firstName ++ " " ++ name.lastName)

/-- Neither part of the name is written. -/
def PersonName.isBlank (name : PersonName) : Bool :=
  Text.isBlank name.firstName && Text.isBlank name.lastName

structure Contact where
  email : Option String := none
  mobile : Option String := none
  phone : Option String := none
  deriving DecidableEq, Inhabited

/-! ## Answers about the hearing -/

/-- Dates on which a party cannot attend. -/
structure ExcludedDates where
  first : Date
  /-- The last of the dates; without it the first date stands alone. -/
  last : Option Date
  deriving DecidableEq, Inhabited

/-- What a party has answered about how it wants to take part in the hearing. -/
structure HearingOptions where
  wantsToAttend : Option Answer := none
  wantsFaceToFace : Option Answer := none
  wantsVideo : Option Answer := none
  videoEmail : Option String := none
  wantsTelephone : Option Answer := none
  telephoneNumber : Option String := none
  languageInterpreter : Option Answer := none
  language : Option String := none
  dialect : Option String := none
  signLanguage : Option String := none
  excludedDates : List ExcludedDates := []
  /-- Reasonable adjustments in the party's own words. -/
  adjustments : Option String := none
  deriving DecidableEq, Inhabited

namespace HearingOptions

/-- None of the questions about channels was answered. -/
def hasNoChannelPreferences (o : HearingOptions) : Bool :=
  o.wantsFaceToFace.isNone && o.wantsVideo.isNone && o.wantsTelephone.isNone

/-- An interpreter, spoken or sign, was asked for. -/
def wantsInterpreter (o : HearingOptions) : Bool :=
  Answer.saidYes o.languageInterpreter

end HearingOptions

structure PartyFlags where
  unacceptableBehaviour : Bool := false
  disabilityNeeds : Bool := false
  medicalNeeds : Bool := false
  vulnerabilityDetails : Option String := none
  deriving DecidableEq, Inhabited

/-- The party is to be marked as vulnerable. -/
def PartyFlags.isVulnerable (flags : PartyFlags) : Bool :=
  flags.disabilityNeeds || flags.medicalNeeds

/-! ## Parties -/

/-- An individual on the case: an appointee or a joint party. -/
structure Person where
  id : Option String := none
  name : PersonName := {}
  contact : Contact := {}
  hearingOptions : Option HearingOptions := none
  flags : PartyFlags := {}
  deriving DecidableEq, Inhabited

/-- A representative: a named individual or an organisation. -/
structure Representative where
  hasRepresentative : Option Answer := none
  id : Option String := none
  name : Option PersonName := none
  organisation : Option String := none
  contact : Contact := {}
  hearingOptions : Option HearingOptions := none
  deriving DecidableEq, Inhabited

def Representative.isPresent (r : Representative) : Bool :=
  Answer.saidYes r.hasRepresentative

/-- The appellant, with the appointee that may be acting. -/
structure Appellant where
  id : Option String := none
  name : PersonName := {}
  contact : Contact := {}
  hearingOptions : HearingOptions := {}
  flags : PartyFlags := {}
  isAppointee : Option Answer := none
  appointee : Option Person := none
  deriving DecidableEq, Inhabited

/-- The appointee, when one is flagged as acting. -/
def Appellant.actingAppointee (a : Appellant) : Option Person :=
  if Answer.saidYes a.isAppointee then a.appointee else none

structure JointParty where
  hasJointParty : Option Answer := none
  person : Person := {}
  deriving DecidableEq

def JointParty.isPresent (j : JointParty) : Bool :=
  Answer.saidYes j.hasJointParty

/-- Another party on the case, with an appointee and a representative of its own. -/
structure OtherParty where
  id : Option String := none
  name : PersonName := {}
  contact : Contact := {}
  hearingOptions : Option HearingOptions := none
  flags : PartyFlags := {}
  isAppointee : Option Answer := none
  appointee : Option Person := none
  representative : Option Representative := none
  deriving DecidableEq, Inhabited

namespace OtherParty

/-- The appointee, when one is flagged as acting. -/
def actingAppointee (p : OtherParty) : Option Person :=
  if Answer.saidYes p.isAppointee then p.appointee else none

def presentRepresentative (p : OtherParty) : Option Representative :=
  p.representative.filter (·.isPresent)

end OtherParty

/-- The organisation that responds to the appeal. -/
structure Respondent where
  partyId : String := "DWP"
  name : String := "Department for Work and Pensions"
  deriving DecidableEq, Inhabited

end TribunalListing
