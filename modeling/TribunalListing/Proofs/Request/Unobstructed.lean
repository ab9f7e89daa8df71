-- SUMMARY: An override is not obstructed by anything that the default in its place would have read.
import TribunalListing.Proofs.Request.Behaviour
import TribunalListing.Proofs.Request.Duration

/-!
# Overrides that nothing obstructs

A default whose field is overridden is not derived, so nothing that only this default reads can
enter the cascade, neither as a value nor as a failure. What the default for the venues reads besides
is the answers of all parties but the appellant, by which a case is on the papers or not; what the
default for the duration reads is the directions of an adjournment and the disputed issues. Each of
the two has its own part of the reference data.

Both parts of a case, and both parts of the reference data, are left out in turn, and a cascade in
which the field is overridden turns out to be the one of what is left. So it is the same for all
cases that differ in what was left out.
-/

namespace TribunalListing

/-! ## What the default venues read -/

/-- The person without its answers about the hearing. -/
def Person.withoutOptions (p : Person) : Person :=
  { p with hearingOptions := none }

/-- The representative without its answers about the hearing. -/
def Representative.withoutOptions (r : Representative) : Representative :=
  { r with hearingOptions := none }

/-- The joint party without its answers about the hearing. -/
def JointParty.withoutOptions (j : JointParty) : JointParty :=
  { j with person := j.person.withoutOptions }

/-- The other party, its appointee and its representative without their answers about the
hearing. -/
def OtherParty.withoutOptions (p : OtherParty) : OtherParty :=
  { p with
    hearingOptions := none
    appointee := p.appointee.map (·.withoutOptions)
    representative := p.representative.map (·.withoutOptions) }

/-- The case without anything that says where it is to be heard: its region and its venue, the venue
directed by an adjournment, and the answers of all parties but the appellant. -/
def CaseSnapshot.withoutVenueSources (c : CaseSnapshot) : CaseSnapshot :=
  { c with
    regionalProcessingCentre := none
    processingVenue := none
    adjournment.nextHearingVenue := none
    adjournment.nextVenueSelected := none
    appellant.appointee := c.appellant.appointee.map (·.withoutOptions)
    representative := c.representative.map (·.withoutOptions)
    jointParty := c.jointParty.map (·.withoutOptions)
    otherParties := c.otherParties.map (·.withoutOptions) }

/-- The lookups for cases that are heard nowhere. -/
def ReferenceData.withoutVenues (reference : ReferenceData) : ReferenceData :=
  { reference with
    locationOf? := fun _ => none
    activeVenues := fun _ => []
    siblingVenues? := fun _ => none }

/-- Tables that differ in their venues and in how these are grouped are the same without venues. -/
theorem ReferenceTables.withoutVenues_data (t : ReferenceTables) (venues : List VenueEntry)
    (venueGroups : List (List String)) :
    { t with venues, venueGroups }.data.withoutVenues = t.data.withoutVenues := rfl

/-! ## What the default duration reads -/

/-- The case without anything that says how long its hearing takes: the disputed issues, and the
duration directed by an adjournment. -/
def CaseSnapshot.withoutDurationSources (c : CaseSnapshot) : CaseSnapshot :=
  { c with
    disputedIssueCodes := []
    adjournment.nextDuration := none
    adjournment.nextDurationUnit := none }

/-- The lookups for cases of unknown length. -/
def ReferenceData.withoutDurations (reference : ReferenceData) : ReferenceData :=
  { reference with
    durations? := fun _ _ => none
    extraMinutes := fun _ => 0 }

/-- Tables that differ in their durations and in extra time are the same without durations. -/
theorem ReferenceTables.withoutDurations_data (t : ReferenceTables)
    (durations : List DurationEntry) (extraTime : List ExtraTimeEntry) :
    { t with durations, extraTime }.data.withoutDurations = t.data.withoutDurations := rfl

/-! ## Cascades of what is left -/

variable {c c' : CaseSnapshot} {reference reference' : ReferenceData} {options : DerivationOptions}

theorem hasUnacceptableBehaviour_withoutVenueSources :
    c.withoutVenueSources.hasUnacceptableBehaviour = c.hasUnacceptableBehaviour := by
  apply hasUnacceptableBehaviour_congr
  · rfl
  · rw [CaseSnapshot.withoutVenueSources, Option.map_map]
    rfl
  · rw [CaseSnapshot.withoutVenueSources, List.map_map]
    rfl

/-- Where venues are overridden, the defaults are those of the case and the reference data without
venues. -/
theorem computeDefaultsMasked_withoutVenueSources {mask : OverrideFields} {venues : List String}
    (hvenues : honouredVenues mask.venueIds = some venues) :
    computeDefaultsMasked c.withoutVenueSources reference.withoutVenues options mask =
      computeDefaultsMasked c reference options mask := by
  have hlisted : defaultAutoList c.withoutVenueSources = defaultAutoList c := by
    unfold defaultAutoList
    rw [hasUnacceptableBehaviour_withoutVenueSources]
    rfl
  unfold computeDefaultsMasked
  rw [hvenues, hlisted]
  rfl

/-- Where the duration is overridden, the defaults are those of the case and the reference data
without durations. -/
theorem computeDefaultsMasked_withoutDurationSources {mask : OverrideFields} {minutes : Minutes}
    (hduration : honouredDuration mask.duration = some minutes) :
    computeDefaultsMasked c.withoutDurationSources reference.withoutDurations options mask =
      computeDefaultsMasked c reference options mask := by
  unfold computeDefaultsMasked
  rw [hduration]
  rfl

/-! ## Cascades that are not obstructed -/

/-- An override of venues, as long as it names one, is not obstructed by anything that the default
venues are derived from: cases that differ in no more than that have the same cascade, or fail in the
same way. The same is true of an override of the duration, from thirty minutes on. Once the
appellant's channel is overridden as well, there is nothing left that could fail. -/
theorem overrides_unobstructed (c c' : CaseSnapshot) (reference reference' : ReferenceData)
    (options : DerivationOptions) :
    (∀ venues, c.overrides.venueIds = some venues → venues ≠ [] →
      c'.withoutVenueSources = c.withoutVenueSources →
      reference'.withoutVenues = reference.withoutVenues →
      Cascade.ofCase c' reference' options = Cascade.ofCase c reference options) ∧
    (∀ minutes, c.overrides.duration = some minutes → 30 ≤ minutes →
      c'.withoutDurationSources = c.withoutDurationSources →
      reference'.withoutDurations = reference.withoutDurations →
      Cascade.ofCase c' reference' options = Cascade.ofCase c reference options) ∧
    (∀ venues minutes channel, c.overrides.venueIds = some venues → venues ≠ [] →
      c.overrides.duration = some minutes → 30 ≤ minutes →
      c.overrides.appellantChannel = some channel →
      ∃ k, Cascade.ofCase c reference options = .ok k ∧ k.venueIds = venues ∧
        k.duration = minutes ∧ k.appellantChannel = channel) := by
  have hlong {minutes : Minutes} (h : 30 ≤ minutes) :
      honouredDuration (some minutes) = some minutes := by
    rw [honouredDuration_some, if_neg (UInt32.not_lt.mpr h)]
  have hnamed {venues : List String} (h : venues ≠ []) :
      honouredVenues (some venues) = some venues := by
    cases venues with
    | nil => exact absurd rfl h
    | cons venue venues => rfl
  refine ⟨?venues, ?duration, ?all⟩
  case venues =>
    intro venues hset hvenues hcase hreference
    have hoverrides : c'.overrides = c.overrides := (congrArg CaseSnapshot.overrides hcase :)
    have hhonoured : honouredVenues c.overrides.venueIds = some venues := by
      rw [hset, hnamed hvenues]
    unfold Cascade.ofCase
    rw [hoverrides, ← computeDefaultsMasked_withoutVenueSources hhonoured, hcase, hreference,
      computeDefaultsMasked_withoutVenueSources hhonoured]
  case duration =>
    intro minutes hset hminutes hcase hreference
    have hoverrides : c'.overrides = c.overrides := (congrArg CaseSnapshot.overrides hcase :)
    have hhonoured : honouredDuration c.overrides.duration = some minutes := by
      rw [hset, hlong hminutes]
    unfold Cascade.ofCase
    rw [hoverrides, ← computeDefaultsMasked_withoutDurationSources hhonoured, hcase, hreference,
      computeDefaultsMasked_withoutDurationSources hhonoured]
  case all =>
    intro venues minutes channel hvenueIds hvenues hduration hminutes hchannel
    unfold Cascade.ofCase computeDefaultsMasked
    rw [hvenueIds, hduration, hchannel, hnamed hvenues, hlong hminutes]
    refine ⟨_, rfl, ?_, ?_, ?_⟩
    · rw [Cascade.venueIds, hvenueIds, hnamed hvenues]
      rfl
    · rw [Cascade.duration, hduration, hlong hminutes]
      rfl
    · rw [Cascade.appellantChannel, hchannel]
      rfl

/-- An appeal that is adjourned to a hearing somewhere else, of half an hour and a minute. Nobody has
said where that is to be, or how the other party is going to attend it. -/
def obstructedCase (overrides : OverrideFields) : CaseSnapshot where
  caseId := "1"
  benefitCode := "002"
  issueCode := "DD"
  otherParties := [{ hearingOptions := some { wantsToAttend := some .yes } }]
  adjournment := {
    inProgress := true
    nextHearingVenue := some .somewhereElse
    nextDuration := some 31
    nextDurationUnit := some .minutes }
  overrides

/-- Adjournments are honoured, and nobody's way of attending is guessed. -/
def strictOptions : DerivationOptions where
  channelPolicy := .refuse
  adjournmentEnabled := true

/-- The overrides of venues, duration and channel. -/
def allOverrides : OverrideFields where
  duration := some 45
  appellantChannel := some .video
  venueIds := some ["1001"]

/-- Tables with one venue, and with one duration. -/
def shortTables : ReferenceTables where
  venues := [⟨"1001", "L100", "Leeds", true⟩]
  durations := [⟨"002", "DD", { faceToFace := some 60 }⟩]

/-- Where either the venues or the duration is overridden, the default of the other one fails. Where
both are, nothing fails, and the cascade is the one of an appeal about which nothing is said, with
nothing in the tables. -/
theorem overrides_unobstructed_obstructed :
    Cascade.ofCase (obstructedCase { venueIds := some ["1001"] }) shortTables.data strictOptions =
      .error (.durationNotMultipleOfFive 31 "adjournment") ∧
    Cascade.ofCase (obstructedCase { duration := some 45 }) shortTables.data strictOptions =
      .error (.channelPreferencesMissing "OTPA ?") ∧
    ∃ k, Cascade.ofCase (obstructedCase allOverrides) shortTables.data strictOptions = .ok k ∧
      k.venueIds = ["1001"] ∧ k.duration = 45 ∧ k.appellantChannel = .video ∧
      Cascade.ofCase (obstructedCase allOverrides).withoutVenueSources.withoutDurationSources
        (ReferenceTables.data {}) strictOptions = .ok k := by
  refine ⟨rfl, rfl, ?_⟩
  have hnamed : ["1001"] ≠ [] := List.cons_ne_nil _ _
  have hlong : (30 : Minutes) ≤ 45 := by decide
  obtain ⟨k, hk, hvenueIds, hduration, hchannel⟩ :=
    (overrides_unobstructed (obstructedCase allOverrides) (obstructedCase allOverrides)
      shortTables.data shortTables.data strictOptions).2.2 _ _ _ rfl hnamed rfl hlong rfl
  refine ⟨k, hk, hvenueIds, hduration, hchannel, ?_⟩
  have hvenues := (overrides_unobstructed (obstructedCase allOverrides)
    (obstructedCase allOverrides).withoutVenueSources shortTables.data
    (ReferenceTables.data { shortTables with venues := [] }) strictOptions).1 _ rfl hnamed rfl
    (ReferenceTables.withoutVenues_data shortTables [] [])
  have hdurations := (overrides_unobstructed (obstructedCase allOverrides).withoutVenueSources
    (obstructedCase allOverrides).withoutVenueSources.withoutDurationSources
    (ReferenceTables.data { shortTables with venues := [] }) (ReferenceTables.data {})
    strictOptions).2.1 _ rfl hlong
    rfl (ReferenceTables.withoutDurations_data { shortTables with venues := [] } [] [])
  rw [hdurations, hvenues, hk]

end TribunalListing
