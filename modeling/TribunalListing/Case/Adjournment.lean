-- SUMMARY: The directions that are recorded when a hearing is adjourned.
import TribunalListing.Case.PanelMember
import TribunalListing.Channel
import TribunalListing.Minutes

/-!
# Adjournment

When a hearing is adjourned, the panel can direct how the next one is to be held: on which channel,
where, for how long, and with or without the members who sat. The directions count only while the
adjournment is in progress.
-/

namespace TribunalListing

/-- The unit in which the duration of the next hearing is directed. -/
inductive DurationUnit where
  | sessions
  | hours
  | minutes
  deriving DecidableEq

instance : Vocabulary DurationUnit where
  terms := [.sessions, .hours, .minutes]
  code
    | .sessions => "sessions"
    | .hours => "hours"
    | .minutes => "minutes"

/-- The kind of hearing that is directed to be held next. -/
inductive NextHearingType where
  | faceToFace
  | video
  | telephone
  | paper
  deriving DecidableEq

instance : Vocabulary NextHearingType where
  terms := [.faceToFace, .video, .telephone, .paper]
  code
    | .faceToFace => "faceToFace"
    | .video => "video"
    | .telephone => "telephone"
    | .paper => "paper"

def NextHearingType.channel : NextHearingType → Channel
  | .faceToFace => .faceToFace
  | .video => .video
  | .telephone => .telephone
  | .paper => .paper

/-- Where the next hearing is directed to be held. -/
inductive NextHearingVenue where
  /-- At the venue that is processing the case. -/
  | sameVenue
  /-- At a venue named on the adjournment. -/
  | somewhereElse
  deriving DecidableEq

instance : Vocabulary NextHearingVenue where
  terms := [.sameVenue, .somewhereElse]
  code
    | .sameVenue => "sameVenue"
    | .somewhereElse => "somewhereElse"

structure NamedPanelMember where
  /-- The member's id and role type, joined by a bar. -/
  member : String
  memberType : PanelMemberType
  deriving DecidableEq, Inhabited

/-- The directions recorded when a hearing was adjourned. -/
structure Adjournment where
  inProgress : Bool := false
  nextHearingType : Option NextHearingType := none
  nextHearingVenue : Option NextHearingVenue := none
  /-- The venue named for a hearing somewhere else. -/
  nextVenueSelected : Option String := none
  nextDuration : Option Minutes := none
  nextDurationUnit : Option DurationUnit := none
  panelMembersExcluded : Option PanelExclusion := none
  panelMembers : List NamedPanelMember := []
  deriving DecidableEq, Inhabited

/-- The channel that is directed for the next hearing. It counts only where adjournments are
handled and one is in progress. -/
def Adjournment.channel? (adjournment : Adjournment) (enabled : Bool) : Option Channel :=
  if enabled && adjournment.inProgress then adjournment.nextHearingType.map (·.channel) else none

end TribunalListing
