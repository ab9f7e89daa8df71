-- SUMMARY: The channel on which a party takes part in the hearing.
import TribunalListing.Case.People
import TribunalListing.Channel
import TribunalListing.Request.Error
import TribunalListing.Request.Options

/-!
# Attendance

The channel of a party follows from its answers. In this order: an explicit override; a party that
does not want to attend does not; face to face, if preferred; video, if preferred and there is an
email address for it; telephone, if preferred and there is a number for it; a party that wants to
attend does so face to face, unless it answered no question about channels and the policy refuses
to guess. All others are decided on the papers.
-/

namespace TribunalListing

/-- The channel that follows from a party's own answers. -/
def HearingOptions.channel (o : HearingOptions) (policy : ChannelPolicy) (party : String) :
    Derived Channel :=
  if Answer.saidNo o.wantsToAttend then .ok .notAttending
  else if Answer.saidYes o.wantsFaceToFace then .ok .faceToFace
  else if Answer.saidYes o.wantsVideo && (Text.written o.videoEmail).isSome then .ok .video
  else if Answer.saidYes o.wantsTelephone && (Text.written o.telephoneNumber).isSome then
    .ok .telephone
  else if Answer.saidYes o.wantsToAttend then
    if o.hasNoChannelPreferences && policy = .refuse then
      .error (.channelPreferencesMissing party)
    else .ok .faceToFace
  else .ok .paper

def Channel.ofCode (code : String) : Derived Channel :=
  match Vocabulary.ofCode? code with
  | some channel => .ok channel
  | none => .error (.invalidChannelCode code)

/-- The channel of a party: the override, or what follows from its answers. -/
def partyChannel (o : HearingOptions) (override : Option Channel) (policy : ChannelPolicy)
    (party : String) : Derived Channel :=
  match override with
  | some channel => .ok channel
  | none => o.channel policy party

end TribunalListing
