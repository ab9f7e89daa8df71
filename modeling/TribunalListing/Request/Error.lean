-- SUMMARY: The ways in which deriving a hearing request can fail.
import TribunalListing.Minutes
import TribunalListing.Text.Quoted

/-!
# Derivation errors

A derivation fails either because case data could not be mapped onto reference data, or because
the derived request would be turned down by listing rules. Both are found before any call goes out.
-/

namespace TribunalListing

/-- The two kinds of derivation failures. -/
inductive ErrorKind where
  /-- Case data could not be mapped onto reference data. -/
  | mapping
  /-- The derived request would be turned down by listing rules. -/
  | listing
  deriving DecidableEq

def ErrorKind.label : ErrorKind → String
  | .mapping => "mapping"
  | .listing => "listing"

inductive DerivationError where
  /-- A party asks for an interpreter in a language without a reference. -/
  | unknownLanguage (party language : String)
  /-- A venue has no location. -/
  | unmappedVenue (venueId : String)
  /-- An adjournment asks for a venue somewhere else and names none. -/
  | adjournedVenueMissing
  /-- The case has no processing venue. -/
  | noProcessingVenue
  /-- There is no active venue under the regional processing centre of the case. -/
  | noVenuesForRegion (region : Option String)
  /-- There is no session category for the case. -/
  | sessionCategoryNotFound (benefitCode issueCode : String) (interpreterRequired urgent : Bool)
  /-- A panel member token is not an id and a role type joined by a bar. -/
  | invalidPanelMemberToken (token : String)
  /-- A channel code is not known. -/
  | invalidChannelCode (code : String)
  /-- A duration is not a multiple of five minutes. -/
  | durationNotMultipleOfFive (duration : Minutes) (source : String)
  /-- There is no party id left above the highest one on the case. -/
  | partyIdsExhausted (highest : Nat)
  /-- A party wants to attend and gave no channel preference. -/
  | channelPreferencesMissing (party : String)
  deriving DecidableEq

namespace DerivationError

def kind : DerivationError → ErrorKind
  | .durationNotMultipleOfFive .. | .channelPreferencesMissing _ => .listing
  | .unknownLanguage .. | .unmappedVenue _ | .adjournedVenueMissing | .noProcessingVenue
  | .noVenuesForRegion _ | .sessionCategoryNotFound .. | .invalidPanelMemberToken _
  | .invalidChannelCode _ | .partyIdsExhausted _ => .mapping

/-- The field of the request whose derivation failed. -/
def field : DerivationError → String
  | .unknownLanguage .. => "interpreterLanguage"
  | .unmappedVenue _ | .adjournedVenueMissing | .noProcessingVenue | .noVenuesForRegion _ =>
    "hearingLocations"
  | .sessionCategoryNotFound .. | .invalidPanelMemberToken _ => "panelRequirements"
  | .invalidChannelCode _ | .channelPreferencesMissing _ => "hearingChannels"
  | .durationNotMultipleOfFive .. => "duration"
  | .partyIdsExhausted _ => "partyId"

def flagText (b : Bool) : String :=
  if b then "true" else "false"

def message : DerivationError → String
  | .unknownLanguage party language =>
    s!"No language reference for '{language}' requested by {party}"
  | .unmappedVenue venueId => s!"Venue '{venueId}' has no location mapping"
  | .adjournedVenueMissing => "Adjournment requests a different venue but no venue was selected"
  | .noProcessingVenue => "Case has no processing venue"
  | .noVenuesForRegion region =>
    "No active venues for regional processing centre " ++ Text.quotedOption region
  | .sessionCategoryNotFound benefitCode issueCode interpreterRequired urgent =>
    s!"No session category for benefit '{benefitCode}', issue '{issueCode}' " ++
      "(interpreter: " ++ flagText interpreterRequired ++ ", urgent: " ++ flagText urgent ++ ")"
  | .invalidPanelMemberToken token => s!"Invalid panel member token '{token}'"
  | .invalidChannelCode code => s!"Invalid hearing channel code '{code}'"
  | .durationNotMultipleOfFive duration source =>
    s!"Hearing duration {duration.toNat} from {source} is not a multiple of 5 minutes"
  | .partyIdsExhausted highest => s!"No party id available above {highest}"
  | .channelPreferencesMissing party =>
    s!"{party} wants to attend but has no hearing channel preferences"

end DerivationError

/-- A value derived from a case, or the reason why there is none. -/
abbrev Derived (α : Type) := Except DerivationError α

end TribunalListing
