-- SUMMARY: The duration that applies to a hearing, and the one thing that can be wrong with it.
import TribunalListing.Proofs.Case.Identity
import TribunalListing.Proofs.Request.Derivation

/-!
# The duration that applies

Which duration applies to a hearing is decided by precedence, and this never fails. What can fail is
the check that follows, and it fails for one reason only: the duration is not a multiple of five
minutes. The cascade comes to the same duration by way of its layers as the direct resolution does.
So a request that can be derived carries the duration that is resolved without it.
-/

namespace TribunalListing

variable {c : CaseSnapshot} {reference : ReferenceData} {options : DerivationOptions}

/-! ## Overrides and the check -/

/-- An override is honoured from thirty minutes on. -/
theorem honouredDuration_some (minutes : Minutes) :
    honouredDuration (some minutes) = if minutes < 30 then none else some minutes := by
  rw [honouredDuration, Option.filter_some, minOverrideDuration]
  by_cases hshort : minutes < 30
  · rw [if_pos hshort, if_neg (by simpa using hshort)]
  · rw [if_neg hshort, if_pos (decide_eq_true (UInt32.not_lt.mp hshort))]

theorem checkDuration_eq_ok_iff {duration passed : Minutes} {source : String} :
    checkDuration duration source = .ok passed ↔ passed = duration ∧ 5 ∣ duration.toNat := by
  rw [checkDuration, Nat.dvd_iff_mod_eq_zero]
  split
  next h => exact ⟨fun hok => ⟨(Except.ok.inj hok).symm, h⟩, fun hok => congrArg _ hok.1.symm⟩
  next h => simp [h]

theorem checkDuration_eq_error_iff {duration : Minutes} {source : String} {e : DerivationError} :
    checkDuration duration source = .error e ↔
      e = .durationNotMultipleOfFive duration source ∧ ¬ 5 ∣ duration.toNat := by
  rw [checkDuration, Nat.dvd_iff_mod_eq_zero]
  split
  next h => simp [h]
  next h =>
    exact ⟨fun herror => ⟨(Except.error.inj herror).symm, h⟩,
      fun herror => congrArg _ herror.1.symm⟩

/-! ## Precedence -/

/-- The duration that applies, before it is checked: an override that is honoured, the direction of
an adjournment, the reference tables, or the default. -/
def applicableDuration (c : CaseSnapshot) (reference : ReferenceData) (override : Option Minutes)
    (attending interpreterRequired : Bool) : Minutes :=
  ((honouredDuration override).or (c.adjournment.duration?.or
    (referenceDuration? c reference attending interpreterRequired))).getD defaultDuration

variable {override : Option Minutes} {attending interpreterRequired : Bool}

/-- Resolving a duration is to check the one that applies. -/
theorem hearingDuration_eq_checkDuration (c : CaseSnapshot) (reference : ReferenceData)
    (override : Option Minutes) (attending interpreterRequired : Bool) :
    ∃ source, hearingDuration c reference override attending interpreterRequired =
      checkDuration (applicableDuration c reference override attending interpreterRequired)
        source := by
  unfold hearingDuration applicableDuration
  cases honouredDuration override with
  | some duration => exact ⟨"override", rfl⟩
  | none =>
    cases c.adjournment.duration? with
    | some duration => exact ⟨"adjournment", rfl⟩
    | none =>
      cases referenceDuration? c reference attending interpreterRequired with
      | some duration => exact ⟨"reference", rfl⟩
      | none => exact ⟨"default", rfl⟩

theorem hearingDuration_eq_ok_iff {duration : Minutes} :
    hearingDuration c reference override attending interpreterRequired = .ok duration ↔
      duration = applicableDuration c reference override attending interpreterRequired ∧
        5 ∣ duration.toNat := by
  obtain ⟨source, h⟩ :=
    hearingDuration_eq_checkDuration c reference override attending interpreterRequired
  rw [h, checkDuration_eq_ok_iff]
  exact and_congr_right fun heq => by rw [heq]

/-- An override that is not honoured is none. -/
theorem applicableDuration_of_honouredDuration_eq_none (h : honouredDuration override = none) :
    applicableDuration c reference override attending interpreterRequired =
      applicableDuration c reference none attending interpreterRequired := by
  rw [applicableDuration, h]
  rfl

/-! ## The effective duration of a case -/

/-- The duration that applies to a case, its overrides taken into account. -/
def CaseSnapshot.effectiveMinutes (c : CaseSnapshot) (reference : ReferenceData) : Minutes :=
  applicableDuration c reference c.overrides.duration c.appellantAttends
    (c.interpreterRequired c.overrides.appellantInterpreter)

theorem effectiveDuration_eq_ok_iff {duration : Minutes} :
    effectiveDuration c reference = .ok duration ↔
      duration = c.effectiveMinutes reference ∧ 5 ∣ duration.toNat :=
  hearingDuration_eq_ok_iff

/-- The effective duration can be wrong in one way only. -/
theorem effectiveDuration_eq_error {e : DerivationError}
    (h : effectiveDuration c reference = .error e) :
    (∃ source, e = .durationNotMultipleOfFive (c.effectiveMinutes reference) source) ∧
      ¬ 5 ∣ (c.effectiveMinutes reference).toNat := by
  obtain ⟨source, hcheck⟩ := hearingDuration_eq_checkDuration c reference c.overrides.duration
    c.appellantAttends (c.interpreterRequired c.overrides.appellantInterpreter)
  rw [effectiveDuration, hcheck] at h
  obtain ⟨rfl, hdvd⟩ := checkDuration_eq_error_iff.mp h
  exact ⟨⟨source, rfl⟩, hdvd⟩

/-- Ids of parties have no part in the duration. -/
theorem effectiveDuration_withoutIds :
    effectiveDuration c.withoutIds reference = effectiveDuration c reference := rfl

/-- The cascade comes to the effective duration. -/
theorem duration_of_ofCase {cascade : Cascade}
    (h : Cascade.ofCase c reference options = .ok cascade) :
    cascade.duration = c.effectiveMinutes reference := by
  obtain ⟨_, duration, _, -, hduration, -, rfl⟩ := cascade_ofCase_eq_ok h
  rw [Cascade.duration]
  cases hhonoured : honouredDuration c.overrides.duration with
  | some override => rw [CaseSnapshot.effectiveMinutes, applicableDuration, hhonoured]; rfl
  | none =>
    rw [hhonoured] at hduration
    cases hdefault : hearingDuration c reference none c.appellantAttends
        (c.interpreterRequired c.overrides.appellantInterpreter) with
    | error e =>
      rw [hdefault] at hduration
      cases hduration
    | ok default =>
      rw [hdefault] at hduration
      cases hduration
      rw [CaseSnapshot.effectiveMinutes, applicableDuration_of_honouredDuration_eq_none hhonoured]
      exact (hearingDuration_eq_ok_iff.mp hdefault).1

/-- A request carries the effective duration, which has passed the check. -/
theorem duration_of_assembleRequest {version : Option Int64} {a : AssembledRequest}
    (h : assembleRequest c reference options version = .ok a) :
    effectiveDuration c reference = .ok a.request.hearing.duration := by
  obtain ⟨hassign, hrequest⟩ := assembleRequest_eq_ok h
  obtain ⟨cascade, duration, _, _, hcascade, hduration, -, -, -, hparts⟩ :=
    requestFor_eq_ok hrequest
  have hrest := (CaseSnapshot.filled_of_assignIdsAbove hassign).rest
  obtain ⟨rfl, hdvd⟩ := checkDuration_eq_ok_iff.mp hduration
  have hcarried : a.request.hearing.duration = cascade.duration := by
    rw [hparts]
    rfl
  rw [← effectiveDuration_withoutIds, ← hrest, effectiveDuration_withoutIds,
    effectiveDuration_eq_ok_iff, hcarried]
  exact ⟨duration_of_ofCase hcascade, hdvd⟩

/-- A request that was derived passes the final check. -/
theorem check_of_assembleRequest {version : Option Int64} {a : AssembledRequest}
    (h : assembleRequest c reference options version = .ok a) : a.request.check = .ok () := by
  have hdvd := (effectiveDuration_eq_ok_iff.mp (duration_of_assembleRequest h)).2
  have hcheck : checkDuration a.request.hearing.duration "duration" =
      .ok a.request.hearing.duration := checkDuration_eq_ok_iff.mpr ⟨rfl, hdvd⟩
  exact derived_bind_eq_ok_iff.mpr ⟨_, hcheck, rfl⟩

end TribunalListing
