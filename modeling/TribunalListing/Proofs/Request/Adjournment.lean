-- SUMMARY: An adjournment directs a request only as far as it is in force.
import TribunalListing.Proofs.Request.Attendance
import TribunalListing.Proofs.Request.Rederivation

/-!
# Adjournments in force

What is directed for the next hearing counts only while the adjournment is in progress; and of that,
all but the duration counts only where adjournments are handled. What is left of an adjournment is
the part that is in force. Every derivation that reads the directions reads that part alone, so
nothing else that is recorded on an adjournment can show in a request, in the ids that are handed
out, or in a failure.
-/

namespace TribunalListing

/-! ## The part in force -/

/-- The directions of an adjournment that are in force, where adjournments are handled or not. -/
def Adjournment.inForce (a : Adjournment) (enabled : Bool) : Adjournment :=
  if !a.inProgress then {}
  else if enabled then a
  else {
    inProgress := true
    nextDuration := a.nextDuration
    nextDurationUnit := a.nextDurationUnit }

/-- The case with no more than the directions in force on its adjournment. -/
def CaseSnapshot.inForce (c : CaseSnapshot) (enabled : Bool) : CaseSnapshot :=
  { c with adjournment := c.adjournment.inForce enabled }

namespace Adjournment

variable {a a' : Adjournment} {enabled : Bool}

/-- Nothing is in force of an adjournment that is not in progress. -/
theorem inForce_of_not_inProgress (h : a.inProgress = false) : a.inForce enabled = {} := by
  rw [inForce, h]
  rfl

/-- All of an adjournment in progress is in force where adjournments are handled. -/
theorem inForce_of_inProgress (h : a.inProgress = true) : a.inForce true = a := by
  rw [inForce, h]
  rfl

/-- Where adjournments are not handled, the progress and the duration settle what is in force. -/
theorem inForce_eq_of_disabled (hprogress : a'.inProgress = a.inProgress)
    (hduration : a'.nextDuration = a.nextDuration)
    (hunit : a'.nextDurationUnit = a.nextDurationUnit) : a'.inForce false = a.inForce false := by
  simp only [inForce, hprogress, hduration, hunit, Bool.false_eq_true, if_false]

/-- An adjournment with its directions in force is in progress as long as it was. -/
theorem inProgress_inForce : (a.inForce enabled).inProgress = a.inProgress := by
  cases hprogress : a.inProgress with
  | false => rw [inForce_of_not_inProgress hprogress]
  | true =>
    cases enabled with
    | true => rw [inForce_of_inProgress hprogress, hprogress]
    | false =>
      rw [inForce, hprogress]
      rfl

/-- The duration is read whether adjournments are handled or not, and it is in force either way. -/
theorem duration?_inForce : (a.inForce enabled).duration? = a.duration? := by
  cases hprogress : a.inProgress with
  | false =>
    simp only [inForce_of_not_inProgress hprogress, duration?, hprogress]
    rfl
  | true =>
    cases enabled with
    | true => rw [inForce_of_inProgress hprogress]
    | false =>
      simp only [inForce, duration?, hprogress]
      rfl

end Adjournment

/-! ## What is read of it -/

section

variable {c : CaseSnapshot} {reference : ReferenceData} {options : DerivationOptions}
  {version : Option Int64} {enabled : Bool}

/-- Where directions other than the duration are honoured, all of them are in force. Where they are
not, they are not honoured on the part in force, either. -/
theorem CaseSnapshot.inForce_cases (c : CaseSnapshot) (enabled : Bool) :
    c.inForce enabled = c ∨
      (enabled && c.adjournment.inProgress) = false ∧
        (enabled && (c.inForce enabled).adjournment.inProgress) = false := by
  cases hgate : enabled && c.adjournment.inProgress with
  | true =>
    obtain ⟨rfl, hprogress⟩ := Bool.and_eq_true_iff.mp hgate
    rw [inForce, Adjournment.inForce_of_inProgress hprogress]
    exact .inl rfl
  | false => exact .inr ⟨rfl, by rw [inForce, Adjournment.inProgress_inForce, hgate]⟩

theorem defaultAppellantChannel_inForce :
    defaultAppellantChannel (c.inForce options.adjournmentEnabled) options =
      defaultAppellantChannel c options := by
  rcases c.inForce_cases options.adjournmentEnabled with h | ⟨hgate, hgate'⟩
  · rw [h]
  · simp only [defaultAppellantChannel, Adjournment.channel?, hgate, hgate']
    rfl

theorem hearingDuration_inForce (override : Option Minutes) (attending interpreter : Bool) :
    hearingDuration (c.inForce enabled) reference override attending interpreter =
      hearingDuration c reference override attending interpreter := by
  simp only [hearingDuration, CaseSnapshot.inForce, Adjournment.duration?_inForce]
  rfl

/-- The venue that is named is read only on a direction that is honoured. -/
theorem defaultVenues_inForce (paperCase : Bool) :
    defaultVenues (c.inForce enabled) reference paperCase enabled =
      defaultVenues c reference paperCase enabled := by
  rcases c.inForce_cases enabled with h | ⟨hgate, hgate'⟩
  · rw [h]
  · simp only [defaultVenues, directedVenue?, hgate, hgate']
    rfl

theorem panelPreferences_inForce (reservedJudge : Option String) :
    panelPreferences (c.inForce enabled) reservedJudge enabled =
      panelPreferences c reservedJudge enabled := by
  rcases c.inForce_cases enabled with h | ⟨hgate, hgate'⟩
  · rw [h]
  · simp only [panelPreferences, hgate, hgate']
    rfl

/-! ## Requests -/

/-- The override cascade is that of the directions in force. -/
theorem cascade_ofCase_inForce :
    Cascade.ofCase (c.inForce options.adjournmentEnabled) reference options =
      Cascade.ofCase c reference options := by
  have hvenues (appellant : Channel) :
      venuesForChannel (c.inForce options.adjournmentEnabled) reference options appellant =
        venuesForChannel c reference options appellant := by
    simp only [venuesForChannel, defaultVenues_inForce]
    rfl
  simp only [Cascade.ofCase, computeDefaultsMasked, defaultAppellantChannel_inForce,
    hearingDuration_inForce, hvenues]
  rfl

theorem requiredPanel_inForce (interpreter : Bool) (reservedJudge : Option String) :
    requiredPanel (c.inForce enabled) reference interpreter reservedJudge enabled =
      requiredPanel c reference interpreter reservedJudge enabled := by
  simp only [requiredPanel, panelPreferences_inForce]
  rfl

/-- The request is that of the directions in force. -/
theorem requestFor_inForce :
    requestFor (c.inForce options.adjournmentEnabled) reference options version =
      requestFor c reference options version := by
  simp only [requestFor, cascade_ofCase_inForce, requiredPanel_inForce]
  rfl

/-- A case whose adjournment says something else has the request of its own directions in force. -/
theorem requestFor_eq_of_inForce {c' : CaseSnapshot}
    (h : c'.inForce options.adjournmentEnabled = c.inForce options.adjournmentEnabled) :
    requestFor c' reference options version = requestFor c reference options version := by
  rw [← requestFor_inForce, h, requestFor_inForce]

end

/-- An adjournment has nothing to do with ids. -/
theorem CaseSnapshot.sparesIds_adjournment (a : Adjournment) :
    SparesIds ({ · with adjournment := a }) :=
  ⟨fun _ => rfl, fun _ => rfl, fun _ _ place => by cases place <;> rfl⟩

/-! ## Adjournments that do not apply -/

section

variable {c : CaseSnapshot} {reference : ReferenceData} {options : DerivationOptions}
  {version : Option Int64}

/-- Adjournments with the same directions in force give the same request and the same ids, or the
same failure. They differ in nothing but themselves. -/
theorem assembleRequest_eq_of_inForce {a a' : Adjournment}
    (h : a'.inForce options.adjournmentEnabled = a.inForce options.adjournmentEnabled) :
    assembleRequest { c with adjournment := a' } reference options version =
      (assembleRequest { c with adjournment := a } reference options version).map
        fun r => { r with case := { r.case with adjournment := a' } } := by
  refine assembleRequest_of_sparesIds (c := { c with adjournment := a })
    (CaseSnapshot.sparesIds_adjournment a') fun d hd => ?_
  have hadjournment : d.adjournment = a := (congrArg CaseSnapshot.adjournment hd :)
  exact requestFor_eq_of_inForce (by simp only [CaseSnapshot.inForce, hadjournment, h])

/-- An adjournment that does not apply has no influence. Two cases that differ in nothing but
adjournments that are both not in progress are given the same request and the same party ids, or
the same failure, under any options. Where adjournments are not handled, the same holds of any two
adjournments that agree on their progress and on the duration they direct. The case that is given
back is then the same case again, with its own adjournment. -/
theorem adjournment_without_influence (c : CaseSnapshot) (reference : ReferenceData)
    (options : DerivationOptions) (version : Option Int64) (a a' : Adjournment)
    (h : a.inProgress = false ∧ a'.inProgress = false ∨
      options.adjournmentEnabled = false ∧ a'.inProgress = a.inProgress ∧
        a'.nextDuration = a.nextDuration ∧ a'.nextDurationUnit = a.nextDurationUnit) :
    assembleRequest { c with adjournment := a' } reference options version =
      (assembleRequest { c with adjournment := a } reference options version).map
        fun r => { r with case := { r.case with adjournment := a' } } := by
  refine assembleRequest_eq_of_inForce ?_
  rcases h with ⟨hover, hover'⟩ | ⟨hdisabled, hprogress, hduration, hunit⟩
  · rw [Adjournment.inForce_of_not_inProgress hover, Adjournment.inForce_of_not_inProgress hover']
  · rw [hdisabled]
    exact Adjournment.inForce_eq_of_disabled hprogress hduration hunit

/-- Directions that cannot be followed: no venue is named for a hearing somewhere else, and the role
of the member to exclude is missing. -/
def impracticable : Adjournment where
  nextHearingType := some .video
  nextHearingVenue := some .somewhereElse
  panelMembersExcluded := some .yes
  panelMembers := [⟨"7", .judge⟩]

/-- Impracticable directions stand in the way of a request only while they are in force: not once
the adjournment is over, and not where adjournments are not handled. -/
theorem adjournment_without_influence_impracticable :
    ∃ r r',
      assembleRequest attendedCase plainReference { adjournmentEnabled := true } none = .ok r ∧
      assembleRequest { attendedCase with adjournment := impracticable } plainReference
        { adjournmentEnabled := true } none =
          .ok { r with case := { r.case with adjournment := impracticable } } ∧
      assembleRequest { attendedCase with adjournment := { inProgress := true } } plainReference
        {} none = .ok r' ∧
      assembleRequest
        { attendedCase with adjournment := { impracticable with inProgress := true } }
        plainReference {} none =
          .ok { r' with
            case := { r'.case with adjournment := { impracticable with inProgress := true } } } ∧
      assembleRequest
        { attendedCase with adjournment := { impracticable with inProgress := true } }
        plainReference { adjournmentEnabled := true } none = .error .adjournedVenueMissing := by
  obtain ⟨r, hr⟩ : ∃ r, assembleRequest attendedCase plainReference
      { adjournmentEnabled := true } none = .ok r := ⟨_, rfl⟩
  obtain ⟨r', hr'⟩ : ∃ r, assembleRequest
      { attendedCase with adjournment := { inProgress := true } } plainReference {} none =
        .ok r := ⟨_, rfl⟩
  have hover := adjournment_without_influence attendedCase plainReference
    { adjournmentEnabled := true } none {} impracticable (.inl ⟨rfl, rfl⟩)
  have hdisabled := adjournment_without_influence attendedCase plainReference {} none
    { inProgress := true } { impracticable with inProgress := true } (.inr ⟨rfl, rfl, rfl, rfl⟩)
  refine ⟨r, r', hr, hover.trans ?_, hr', hdisabled.trans ?_, rfl⟩
  · exact congrArg (Except.map _) hr
  · exact congrArg (Except.map _) hr'

end

end TribunalListing
