-- SUMMARY: Reference data held in tables.
import TribunalListing.Reference.Data
import TribunalListing.Text.Blank
import TribunalListing.Text.Caseless

/-!
# Reference tables

Every lookup takes the first entry that matches, so particular rules have to stand before
catch-alls.
-/

namespace TribunalListing

/-! ## Entries -/

structure VenueEntry where
  venueId : String
  locationId : String
  region : String
  active : Bool := true
  deriving DecidableEq, Inhabited

structure LanguageEntry where
  name : String
  dialect : Option String
  reference : String
  deriving DecidableEq, Inhabited

structure DurationEntry where
  benefitCode : String
  issueCode : String
  durations : BaseDurations
  deriving DecidableEq

structure ExtraTimeEntry where
  issueCode : String
  minutes : Minutes
  deriving DecidableEq, Inhabited

/-- A session category rule; a flag that is left open matches either value. -/
structure SessionCategoryEntry where
  benefitCode : String
  issueCode : String
  interpreterRequired : Option Bool
  urgent : Option Bool
  category : SessionCategory
  deriving DecidableEq, Inhabited

def flagMatches (flag : Option Bool) (value : Bool) : Bool :=
  flag.all (· == value)

def SessionCategoryEntry.covers (e : SessionCategoryEntry) (benefit issue : String)
    (interpreter urgent : Bool) : Bool :=
  e.benefitCode == benefit && e.issueCode == issue &&
    flagMatches e.interpreterRequired interpreter && flagMatches e.urgent urgent

/-- The entry names a language and a dialect, whatever their case. An entry without a
dialect is for requests without one. -/
def LanguageEntry.names (e : LanguageEntry) (language : String) (dialect : Option String) : Bool :=
  Text.sameCaseless e.name language &&
    match e.dialect, dialect with
    | some known, some wanted => Text.sameCaseless known wanted
    | none, none => true
    | _, _ => false

/-! ## Tables -/

structure ReferenceTables where
  venues : List VenueEntry := []
  /-- Groups of venues that are listed together. -/
  venueGroups : List (List String) := []
  languages : List LanguageEntry := []
  durations : List DurationEntry := []
  extraTime : List ExtraTimeEntry := []
  sessionCategories : List SessionCategoryEntry := []
  deriving DecidableEq, Inhabited

namespace ReferenceTables

/-- The location of the first venue with the id. -/
def locationOf? (t : ReferenceTables) (venueId : String) : Option String :=
  (t.venues.find? (·.venueId == venueId)).map (·.locationId)

/-- The active venues of a region, in table order. -/
def activeVenues (t : ReferenceTables) (region : String) : List String :=
  (t.venues.filter fun v => v.active && v.region == region).map (·.venueId)

/-- The first group that has a venue at the location. -/
def siblingVenues? (t : ReferenceTables) (locationId : String) : Option (List String) :=
  t.venueGroups.find? fun group => group.any fun venue => t.locationOf? venue == some locationId

/-- The reference of the first entry for the language. White space around the request does not
count, and neither does a blank dialect. -/
def languageReference? (t : ReferenceTables) (language : String) (dialect : Option String) :
    Option String :=
  let wanted := (Text.written dialect).map Text.trim
  (t.languages.find? (·.names (Text.trim language) wanted)).map (·.reference)

/-- The durations of the first entry for the benefit and the issue. -/
def durations? (t : ReferenceTables) (benefit issue : String) : Option BaseDurations :=
  (t.durations.find? fun d => d.benefitCode == benefit && d.issueCode == issue).map (·.durations)

/-- The minutes of the first entry for the issue; no entry, no extra time. -/
def extraMinutes (t : ReferenceTables) (issue : String) : Minutes :=
  ((t.extraTime.find? (·.issueCode == issue)).map (·.minutes)).getD 0

/-- The category of the first rule that covers the case. -/
def sessionCategory? (t : ReferenceTables) (benefit issue : String) (interpreter urgent : Bool) :
    Option SessionCategory :=
  (t.sessionCategories.find? (·.covers benefit issue interpreter urgent)).map (·.category)

def data (t : ReferenceTables) : ReferenceData where
  locationOf? := t.locationOf?
  activeVenues := t.activeVenues
  siblingVenues? := t.siblingVenues?
  languageReference? := t.languageReference?
  durations? := t.durations?
  extraMinutes := t.extraMinutes
  sessionCategory? := t.sessionCategory?

end ReferenceTables

end TribunalListing
