-- SUMMARY: The lookups over reference data that derivation relies on.
import TribunalListing.Case.PanelMember
import TribunalListing.Minutes

/-!
# Reference data

Reference data says how the tribunal's venues, languages, durations and panels are known. It does
not depend on the case and is only ever looked up, so derivation takes it as a bundle of lookups,
whatever catalogue stands behind them.
-/

namespace TribunalListing

/-- The base durations for a benefit and an issue. -/
structure BaseDurations where
  /-- When the case is decided on the papers. -/
  paper : Option Minutes := none
  /-- When the hearing is attended. -/
  faceToFace : Option Minutes := none
  /-- When the hearing is attended and needs an interpreter. -/
  interpreter : Option Minutes := none
  deriving DecidableEq, Inhabited

/-- A session category, and the panel slots that it requires. -/
structure SessionCategory where
  code : String
  /-- The slots, in the order of the category. -/
  panelMembers : List PanelMemberType
  deriving DecidableEq, Inhabited

/-- Lookups over reference data. -/
structure ReferenceData where
  /-- The location of a venue. -/
  locationOf? : String → Option String
  /-- The active venues under a regional processing centre. -/
  activeVenues : String → List String
  /-- The group of venues that are listed together with a location. -/
  siblingVenues? : String → Option (List String)
  /-- The reference of a language, with or without a dialect. -/
  languageReference? : String → Option String → Option String
  /-- The base durations for a benefit and an issue. -/
  durations? : String → String → Option BaseDurations
  /-- The extra minutes for a disputed issue. -/
  extraMinutes : String → Minutes
  /-- The session category for a benefit and an issue, by whether an interpreter is required and
  whether the case is urgent. -/
  sessionCategory? : String → String → Bool → Bool → Option SessionCategory

end TribunalListing
