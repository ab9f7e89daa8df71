-- SUMMARY: The JSON shape of the reference tables.
import TribunalListing.Json.Reader
import TribunalListing.Reference.Tables

/-!
# Reference tables on the wire

The tables come as one JSON document. A table that is missing is empty, and a venue is active
unless it says otherwise. The durations of an entry stand among its other members, so an entry
is read from an object only, while the other records may also come as arrays.
-/

namespace TribunalListing

def BaseDurations.members (d : BaseDurations) : Members :=
  [ ("paper", encodeOption d.paper), ("faceToFace", encodeOption d.faceToFace),
    ("interpreter", encodeOption d.interpreter) ]

def BaseDurations.ofMembers? (members : Members) : Option BaseDurations := do
  let paper ← members.optional "paper"
  let faceToFace ← members.optional "faceToFace"
  let interpreter ← members.optional "interpreter"
  return { paper, faceToFace, interpreter }

instance : Wire BaseDurations where
  encode d := .object d.members
  decode := decodeRecord BaseDurations.members BaseDurations.ofMembers?

def SessionCategory.members (c : SessionCategory) : Members :=
  [("code", encode c.code), ("panelMembers", encode c.panelMembers)]

def SessionCategory.ofMembers? (members : Members) : Option SessionCategory := do
  let code ← members.required "code"
  let panelMembers ← members.required "panelMembers"
  return { code, panelMembers }

instance : Wire SessionCategory where
  encode c := .object c.members
  decode := decodeRecord SessionCategory.members SessionCategory.ofMembers?

def VenueEntry.members (v : VenueEntry) : Members :=
  [ ("venueId", encode v.venueId), ("locationId", encode v.locationId),
    ("region", encode v.region), ("active", encode v.active) ]

def VenueEntry.ofMembers? (members : Members) : Option VenueEntry := do
  let venueId ← members.required "venueId"
  let locationId ← members.required "locationId"
  let region ← members.required "region"
  let active ← members.withDefault "active" true
  return { venueId, locationId, region, active }

instance : Wire VenueEntry where
  encode v := .object v.members
  decode := decodeRecord VenueEntry.members VenueEntry.ofMembers? 1

def LanguageEntry.members (l : LanguageEntry) : Members :=
  [ ("name", encode l.name), ("dialect", encodeOption l.dialect),
    ("reference", encode l.reference) ]

def LanguageEntry.ofMembers? (members : Members) : Option LanguageEntry := do
  let name ← members.required "name"
  let dialect ← members.optional "dialect"
  let reference ← members.required "reference"
  return { name, dialect, reference }

instance : Wire LanguageEntry where
  encode l := .object l.members
  decode := decodeRecord LanguageEntry.members LanguageEntry.ofMembers?

/-- The members that `DurationEntry` is written as; the durations are not nested. -/
def DurationEntry.members (e : DurationEntry) : Members :=
  ("benefitCode", encode e.benefitCode) :: ("issueCode", encode e.issueCode) :: e.durations.members

def DurationEntry.ofMembers? (members : Members) : Option DurationEntry := do
  let benefitCode ← members.required "benefitCode"
  let issueCode ← members.required "issueCode"
  let durations ← BaseDurations.ofMembers? members
  return { benefitCode, issueCode, durations }

instance : Wire DurationEntry where
  encode e := .object e.members
  decode j := (Members.of? j).bind DurationEntry.ofMembers?

def ExtraTimeEntry.members (e : ExtraTimeEntry) : Members :=
  [("issueCode", encode e.issueCode), ("minutes", encode e.minutes)]

def ExtraTimeEntry.ofMembers? (members : Members) : Option ExtraTimeEntry := do
  let issueCode ← members.required "issueCode"
  let minutes ← members.required "minutes"
  return { issueCode, minutes }

instance : Wire ExtraTimeEntry where
  encode e := .object e.members
  decode := decodeRecord ExtraTimeEntry.members ExtraTimeEntry.ofMembers?

def SessionCategoryEntry.members (e : SessionCategoryEntry) : Members :=
  [ ("benefitCode", encode e.benefitCode), ("issueCode", encode e.issueCode),
    ("interpreterRequired", encodeOption e.interpreterRequired),
    ("urgent", encodeOption e.urgent), ("category", encode e.category) ]

def SessionCategoryEntry.ofMembers? (members : Members) : Option SessionCategoryEntry := do
  let benefitCode ← members.required "benefitCode"
  let issueCode ← members.required "issueCode"
  let interpreterRequired ← members.optional "interpreterRequired"
  let urgent ← members.optional "urgent"
  let category ← members.required "category"
  return { benefitCode, issueCode, interpreterRequired, urgent, category }

instance : Wire SessionCategoryEntry where
  encode e := .object e.members
  decode := decodeRecord SessionCategoryEntry.members SessionCategoryEntry.ofMembers?

def ReferenceTables.members (t : ReferenceTables) : Members :=
  [ ("venues", encode t.venues), ("venueGroups", encode t.venueGroups),
    ("languages", encode t.languages), ("durations", encode t.durations),
    ("extraTime", encode t.extraTime), ("sessionCategories", encode t.sessionCategories) ]

def ReferenceTables.ofMembers? (members : Members) : Option ReferenceTables := do
  let venues ← members.withDefault "venues" []
  let venueGroups ← members.withDefault "venueGroups" []
  let languages ← members.withDefault "languages" []
  let durations ← members.withDefault "durations" []
  let extraTime ← members.withDefault "extraTime" []
  let sessionCategories ← members.withDefault "sessionCategories" []
  return { venues, venueGroups, languages, durations, extraTime, sessionCategories }

instance : Wire ReferenceTables where
  encode t := .object t.members
  decode := decodeRecord ReferenceTables.members ReferenceTables.ofMembers? 6

/-- Reads reference tables from the text of a JSON document. -/
def ReferenceTables.ofText? (text : String) : Option ReferenceTables :=
  (Json.ofText? text).bind decode

end TribunalListing
