-- SUMMARY: The venues of the hearing, and their locations.
import TribunalListing.Case.Snapshot
import TribunalListing.Reference.Data
import TribunalListing.Request.Error

/-!
# Venues

Venues are chosen first and mapped to locations last. A case on the papers goes to all active
venues of its region; a hearing that an adjournment directs goes to the venue it names; any other
hearing goes to the venue that is processing the case, together with the venues listed with it. A
venue without a location is an error on every path.
-/

namespace TribunalListing

/-- The location of a venue, which must have one. -/
def locationOf (reference : ReferenceData) (venueId : String) : Derived String :=
  match reference.locationOf? venueId with
  | some locationId => .ok locationId
  | none => .error (.unmappedVenue venueId)

/-- The venue that is processing the case, which must be set. -/
def CaseSnapshot.requireProcessingVenue (c : CaseSnapshot) : Derived String :=
  match c.processingVenue with
  | some venue => .ok venue
  | none => .error .noProcessingVenue

/-- The venues for a case that is decided on the papers. -/
def regionalVenues (c : CaseSnapshot) (reference : ReferenceData) : Derived (List String) :=
  match (c.regionalProcessingCentre.map reference.activeVenues).getD [] with
  | [] => .error (.noVenuesForRegion c.regionalProcessingCentre)
  | venue :: venues => .ok (venue :: venues)

/-- The venue that an adjournment directs. -/
def adjournedVenue (c : CaseSnapshot) : NextHearingVenue → Derived String
  | .sameVenue => c.requireProcessingVenue
  | .somewhereElse =>
    match Text.written c.adjournment.nextVenueSelected with
    | some venue => .ok venue
    | none => .error .adjournedVenueMissing

/-- The direction for a venue that is in force. -/
def directedVenue? (c : CaseSnapshot) (adjournmentEnabled : Bool) : Option NextHearingVenue :=
  if adjournmentEnabled && c.adjournment.inProgress then c.adjournment.nextHearingVenue else none

/-- The processing venue, together with the venues that are listed with it. -/
def processingVenues (c : CaseSnapshot) (reference : ReferenceData) : Derived (List String) := do
  let venue ← c.requireProcessingVenue
  let locationId ← locationOf reference venue
  match reference.siblingVenues? locationId with
  | some (first :: others) => return first :: others
  | _ => return [venue]

/-- The venues for a case without an override. -/
def defaultVenues (c : CaseSnapshot) (reference : ReferenceData)
    (paperCase adjournmentEnabled : Bool) : Derived (List String) :=
  if paperCase then regionalVenues c reference
  else
    match directedVenue? c adjournmentEnabled with
    | some next => (adjournedVenue c next).map ([·])
    | none => processingVenues c reference

/-- The locations of venues, each location once, in the order in which they are first seen. -/
def locationsOf (reference : ReferenceData) (venues : List String) : Derived (List String) := do
  let locations ← venues.mapM (locationOf reference)
  return locations.eraseDups

/-- The override that names at least one venue. -/
def honouredVenues : Option (List String) → Option (List String)
  | some (venue :: venues) => some (venue :: venues)
  | _ => none

def hearingLocations (c : CaseSnapshot) (reference : ReferenceData)
    (override : Option (List String)) (paperCase adjournmentEnabled : Bool) :
    Derived (List String) :=
  match honouredVenues override with
  | some venues => locationsOf reference venues
  | none => do
    let venues ← defaultVenues c reference paperCase adjournmentEnabled
    locationsOf reference venues

end TribunalListing
