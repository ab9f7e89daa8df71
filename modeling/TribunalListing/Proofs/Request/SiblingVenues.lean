-- SUMMARY: By default a hearing is listed wherever the venues of a group are, and the location of the processing venue alone decides which group that is.
import TribunalListing.Proofs.Request.Attendance
import TribunalListing.Reference.Tables

/-!
# Venues that are listed together

The venues for a hearing are looked up by way of a location. The processing venue is somewhere, the
first group with a venue there is taken, and its venues are mapped to locations again. As venues may
share a location and may be in more groups than one, the processing venue need not be in that group
itself. Its location is not lost on the way all the same, since the group was taken for a venue that
is there, and nothing but the location has had a part in it.
-/

namespace TribunalListing

/-! ## Locations of venues -/

section

variable {reference : ReferenceData} {venue location : String}

theorem locationOf_eq_ok_iff :
    locationOf reference venue = .ok location ↔ reference.locationOf? venue = some location := by
  unfold locationOf
  cases reference.locationOf? venue <;> simp

/-- Venues that all have locations have these and no others. -/
theorem mem_iff_of_locationsOf {venues locations : List String}
    (h : locationsOf reference venues = .ok locations) :
    location ∈ locations ↔ ∃ venue ∈ venues, reference.locationOf? venue = some location := by
  obtain ⟨all, hall, h⟩ := derived_bind_eq_ok_iff.mp h
  cases h
  rw [List.mem_eraseDups, mem_iff_of_mapM_eq_ok hall]
  simp only [locationOf_eq_ok_iff]

theorem locationsOf_singleton (h : reference.locationOf? venue = some location) :
    locationsOf reference [venue] = .ok [location] := by
  rw [locationsOf, List.mapM_cons, locationOf_eq_ok_iff.mpr h]
  rfl

end

/-! ## Groups -/

namespace ReferenceTables

/-- One of the venues is at the location. -/
def HasVenueAt (t : ReferenceTables) (location : String) (group : List String) : Prop :=
  ∃ venue ∈ group, t.locationOf? venue = some location

/-- The group has a venue at the location, and those before it have none. -/
def IsFirstAt (t : ReferenceTables) (location : String) (group : List String) : Prop :=
  t.HasVenueAt location group ∧ ∃ before after,
    t.venueGroups = before ++ group :: after ∧ ∀ g ∈ before, ¬ t.HasVenueAt location g

/-- Where hearings are listed that a venue at the location is processing: wherever the first group
with a venue there has venues, and right there if there is no such group. -/
def locationsAround (t : ReferenceTables) (location : String) : Derived (List String) :=
  match t.siblingVenues? location with
  | some group => locationsOf t.data group
  | none => .ok [location]

variable {t : ReferenceTables} {location : String} {group : List String}

theorem any_locationOf?_iff :
    (group.any fun venue => t.locationOf? venue == some location) = true ↔
      t.HasVenueAt location group := by
  simp [HasVenueAt]

theorem siblingVenues?_eq_some_iff :
    t.siblingVenues? location = some group ↔ t.IsFirstAt location group := by
  simp only [siblingVenues?, List.find?_eq_some_iff_append, IsFirstAt, ← any_locationOf?_iff,
    Bool.not_eq_true', Bool.not_eq_true]

theorem siblingVenues?_eq_none_iff :
    t.siblingVenues? location = none ↔ ∀ group ∈ t.venueGroups, ¬ t.HasVenueAt location group := by
  simp only [siblingVenues?, List.find?_eq_none, any_locationOf?_iff]

/-- A group that was found has a venue, so it is not passed over. -/
theorem ne_nil_of_siblingVenues? (h : t.siblingVenues? location = some group) : group ≠ [] := by
  obtain ⟨⟨venue, hvenue, -⟩, -⟩ := siblingVenues?_eq_some_iff.mp h
  exact List.ne_nil_of_mem hvenue

end ReferenceTables

/-! ## Hearings at the processing venue -/

variable {c : CaseSnapshot} {t : ReferenceTables} {override : Option (List String)}
  {adjournmentEnabled : Bool} {venue location : String}

theorem processingVenues_eq (hvenue : c.processingVenue = some venue)
    (hlocation : t.locationOf? venue = some location) :
    processingVenues c t.data = .ok ((t.siblingVenues? location).getD [venue]) := by
  have hrequired : c.requireProcessingVenue = .ok venue := by
    rw [CaseSnapshot.requireProcessingVenue, hvenue]
  have hfound : locationOf t.data venue = .ok location := locationOf_eq_ok_iff.mpr hlocation
  have hlookup : t.data.siblingVenues? location = t.siblingVenues? location := rfl
  refine derived_bind_eq_ok_iff.mpr
    ⟨venue, hrequired, derived_bind_eq_ok_iff.mpr ⟨location, hfound, ?_⟩⟩
  rw [hlookup]
  cases hgroup : t.siblingVenues? location with
  | none => rfl
  | some group =>
    obtain ⟨first, others, rfl⟩ := List.exists_cons_of_ne_nil
      (ReferenceTables.ne_nil_of_siblingVenues? hgroup)
    rfl

/-- Where there are venues, there is a processing venue, and it is somewhere. -/
theorem exists_of_processingVenues {venues : List String}
    (h : processingVenues c t.data = .ok venues) :
    ∃ venue location, c.processingVenue = some venue ∧ t.locationOf? venue = some location := by
  obtain ⟨venue, hrequired, h⟩ := derived_bind_eq_ok_iff.mp h
  obtain ⟨location, hlocation, -⟩ := derived_bind_eq_ok_iff.mp h
  refine ⟨venue, location, ?_, locationOf_eq_ok_iff.mp hlocation⟩
  rw [CaseSnapshot.requireProcessingVenue] at hrequired
  split at hrequired <;> cases hrequired
  assumption

/-- Without an override and a directed venue, a hearing that somebody attends is listed at the
processing venue and those with it. -/
theorem hearingLocations_of_processingVenues {reference : ReferenceData}
    (hoverride : honouredVenues override = none)
    (hdirected : directedVenue? c adjournmentEnabled = none) :
    hearingLocations c reference override false adjournmentEnabled =
      (processingVenues c reference >>= locationsOf reference) := by
  simp only [hearingLocations, hoverride, defaultVenues, hdirected, Bool.false_eq_true, if_false]

/-- The location of the processing venue alone decides where a hearing is listed by default. -/
theorem hearingLocations_eq_locationsAround (hoverride : honouredVenues override = none)
    (hdirected : directedVenue? c adjournmentEnabled = none)
    (hvenue : c.processingVenue = some venue) (hlocation : t.locationOf? venue = some location) :
    hearingLocations c t.data override false adjournmentEnabled = t.locationsAround location := by
  rw [hearingLocations_of_processingVenues hoverride hdirected,
    processingVenues_eq hvenue hlocation, ReferenceTables.locationsAround]
  cases t.siblingVenues? location with
  | none => exact locationsOf_singleton hlocation
  | some group => rfl

namespace ReferenceTables

variable {locations : List String}

/-- The location is not lost on the way from it to a group and back. -/
theorem mem_of_locationsAround (h : t.locationsAround location = .ok locations) :
    location ∈ locations := by
  unfold locationsAround at h
  split at h
  next group hgroup => exact (mem_iff_of_locationsOf h).mpr (siblingVenues?_eq_some_iff.mp hgroup).1
  next =>
    cases h
    exact List.mem_cons_self

/-- The locations are those of the venues of one group, or there is just the one. -/
theorem eq_of_locationsAround (h : t.locationsAround location = .ok locations) :
    (∃ group, t.IsFirstAt location group ∧
        ∀ l, l ∈ locations ↔ ∃ venue ∈ group, t.locationOf? venue = some l) ∨
      ((∀ group ∈ t.venueGroups, ¬ t.HasVenueAt location group) ∧ locations = [location]) := by
  unfold locationsAround at h
  split at h
  next group hgroup =>
    exact .inl ⟨group, siblingVenues?_eq_some_iff.mp hgroup, fun l => mem_iff_of_locationsOf h⟩
  next hnone =>
    cases h
    exact .inr ⟨siblingVenues?_eq_none_iff.mp hnone, rfl⟩

end ReferenceTables

/-- A hearing that somebody attends, for which no venues are set and none is directed, is listed at
the location of the processing venue. If some group has a venue there, it is listed at the locations
of all venues of the first such group, and at no others; and if there is no such group, it is listed
at the one location only. Any other processing venue at this location comes to the same. -/
theorem hearingLocations_around_processingVenue {locations : List String}
    (hoverride : honouredVenues override = none)
    (hdirected : directedVenue? c adjournmentEnabled = none)
    (h : hearingLocations c t.data override false adjournmentEnabled = .ok locations) :
    ∃ venue location, c.processingVenue = some venue ∧ t.locationOf? venue = some location ∧
      location ∈ locations ∧
      ((∃ group, t.IsFirstAt location group ∧
          ∀ l, l ∈ locations ↔ ∃ venue ∈ group, t.locationOf? venue = some l) ∨
        ((∀ group ∈ t.venueGroups, ¬ t.HasVenueAt location group) ∧ locations = [location])) ∧
      ∀ other, t.locationOf? other = some location →
        hearingLocations { c with processingVenue := some other } t.data override false
          adjournmentEnabled = .ok locations := by
  obtain ⟨venue, location, hvenue, hlocation⟩ :
      ∃ venue location, c.processingVenue = some venue ∧ t.locationOf? venue = some location := by
    rw [hearingLocations_of_processingVenues hoverride hdirected] at h
    obtain ⟨venues, hvenues, -⟩ := derived_bind_eq_ok_iff.mp h
    exact exists_of_processingVenues hvenues
  have haround : t.locationsAround location = .ok locations := by
    rw [← hearingLocations_eq_locationsAround hoverride hdirected hvenue hlocation, h]
  refine ⟨venue, location, hvenue, hlocation, ReferenceTables.mem_of_locationsAround haround,
    ReferenceTables.eq_of_locationsAround haround, fun other hother => ?_⟩
  have hdirected' :
      directedVenue? { c with processingVenue := some other } adjournmentEnabled = none := hdirected
  rw [hearingLocations_eq_locationsAround hoverride hdirected' rfl hother, haround]

/-- Three venues at two locations. The first group is nowhere near, and the venue that is listed
first is not in the first group at its location. -/
def sharedTables : ReferenceTables where
  venues := [⟨"1001", "L100", "North", true⟩, ⟨"1002", "L100", "North", true⟩,
    ⟨"2001", "L200", "North", true⟩]
  venueGroups := [["9001"], ["2001", "1002"], ["1001"]]

/-- A case at one of these venues, with an adjournment that directs another but is not in
progress. -/
def sharedCase : CaseSnapshot where
  caseId := "1"
  benefitCode := "002"
  issueCode := "DD"
  processingVenue := some "1001"
  adjournment := { nextHearingVenue := some .somewhereElse }

/-- The case is listed at both locations, by way of a group that its own venue is not in, and so it
is for the venue that is. -/
theorem hearingLocations_around_processingVenue_shared :
    hearingLocations sharedCase sharedTables.data (some []) false true = .ok ["L200", "L100"] ∧
      hearingLocations { sharedCase with processingVenue := some "1002" } sharedTables.data
        (some []) false true = .ok ["L200", "L100"] := by
  have h : hearingLocations sharedCase sharedTables.data (some []) false true =
      .ok ["L200", "L100"] := rfl
  obtain ⟨venue, location, hvenue, hlocation, -, -, hsame⟩ :=
    hearingLocations_around_processingVenue rfl rfl h
  cases hvenue
  cases hlocation
  exact ⟨h, hsame "1002" rfl⟩

end TribunalListing
