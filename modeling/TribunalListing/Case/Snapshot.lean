-- SUMMARY: The snapshot of a case.
import TribunalListing.Case.Adjournment
import TribunalListing.Case.Overrides
import TribunalListing.Case.People
import TribunalListing.Hearing.History

/-!
# Case snapshots

A snapshot is the view of one case at one moment. Derivation only looks at it. The few things that
are written back, namely party ids, the hearing history and the adjournment flag, are changed on a
fresh copy.
-/

namespace TribunalListing

/-- The kinds of case event that matter for listing. -/
inductive CaseEventType where
  | appealReceived
  | responseReceived
  | readyToList
  /-- Any other event. -/
  | other
  deriving DecidableEq, Inhabited

structure CaseEvent where
  eventType : CaseEventType
  date : Date
  deriving DecidableEq, Inhabited

/-- The view of one case at one moment. -/
structure CaseSnapshot where
  caseId : String
  caseReference : Option String := none
  benefitCode : String
  issueCode : String
  disputedIssueCodes : List String := []
  regionalProcessingCentre : Option String := none
  /-- The venue that is processing the case. -/
  processingVenue : Option String := none
  urgent : Bool := false
  confidential : Bool := false
  panelDoctorSpecialism : Option String := none
  secondPanelDoctorSpecialism : Option String := none
  appellant : Appellant := {}
  representative : Option Representative := none
  jointParty : Option JointParty := none
  otherParties : List OtherParty := []
  respondent : Respondent := {}
  adjournment : Adjournment := {}
  linkedCases : List String := []
  events : List CaseEvent := []
  /-- Set by caseworkers; derivation never writes them. -/
  overrides : OverrideFields := {}
  /-- The hearings that have been requested for the case. -/
  hearings : HearingHistory := []
  deriving DecidableEq, Inhabited

namespace CaseSnapshot

def presentRepresentative (c : CaseSnapshot) : Option Representative :=
  c.representative.filter (·.isPresent)

def presentJointParty (c : CaseSnapshot) : Option JointParty :=
  c.jointParty.filter (·.isPresent)

/-- The appellant, the present joint party or an other party is flagged for unacceptable
behaviour. The flags of appointees do not count. -/
def hasUnacceptableBehaviour (c : CaseSnapshot) : Bool :=
  c.appellant.flags.unacceptableBehaviour ||
    c.presentJointParty.any (·.person.flags.unacceptableBehaviour) ||
    c.otherParties.any (·.flags.unacceptableBehaviour)

def latestEvent? (c : CaseSnapshot) (kind : CaseEventType) : Option Date :=
  Date.latest? ((c.events.filter (·.eventType = kind)).map (·.date))

/-- The name under which the case is listed. -/
def caseName (c : CaseSnapshot) : String :=
  c.appellant.name.full

end CaseSnapshot

end TribunalListing
