-- SUMMARY: It counts which issues are disputed, and not in which order or how often they are listed.
import Mathlib.Algebra.Order.BigOperators.Group.Finset
import TribunalListing.Proofs.Request.ExactMinutes
import TribunalListing.Proofs.Request.Rederivation

/-!
# Disputed issues as a set

The disputed issues are gone through in the order in which they are listed, an issue that has been
seen is passed over, and the sum stops at the largest duration. None of this leaves a trace of the
order: the extra time is the sum over the set of issues, cut off once. So cases whose lists have the
same issues have the same duration, and the same request, and an issue that is disputed in addition
never makes a hearing shorter. Where sums are cut off it may leave the duration as it is.
-/

namespace TribunalListing

variable {c : CaseSnapshot} {reference : ReferenceData} {options : DerivationOptions}
  {version : Option Int64} {issues issues' : List String}

/-! ## Extra time -/

theorem Minutes.capped_le_capped {m n : Nat} (h : m ≤ n) : capped m ≤ capped n := by
  rw [UInt32.le_iff_toNat_le, toNat_capped, toNat_capped]
  omega

theorem Minutes.plus_le_plus_left {a b : Minutes} (base : Minutes) (h : a ≤ b) :
    base.plus a ≤ base.plus b :=
  capped_le_capped (Nat.add_le_add_left (UInt32.le_iff_toNat_le.mp h) _)

/-- The extra time goes by the issues that are on the list. -/
theorem extraTime_congr (reference : ReferenceData) (h : ∀ issue, issue ∈ issues' ↔ issue ∈ issues) :
    extraTime reference issues' = extraTime reference issues := by
  have hset : issues'.toFinset = issues.toFinset := by
    ext issue
    rw [List.mem_toFinset, List.mem_toFinset, h]
  rw [extraTime_eq_capped, extraTime_eq_capped, hset]

/-- More issues do not take less time. -/
theorem extraTime_le_of_subset (reference : ReferenceData) (h : issues ⊆ issues') :
    extraTime reference issues ≤ extraTime reference issues' := by
  rw [extraTime_eq_capped, extraTime_eq_capped]
  apply Minutes.capped_le_capped
  apply Finset.sum_le_sum_of_subset
  intro issue hissue
  rw [List.mem_toFinset] at hissue ⊢
  exact h hissue

/-! ## Durations -/

section

variable (attending interpreterRequired : Bool)

theorem referenceDuration?_disputing
    (h : ∀ issue, issue ∈ issues ↔ issue ∈ c.disputedIssueCodes) :
    referenceDuration? { c with disputedIssueCodes := issues } reference attending
        interpreterRequired =
      referenceDuration? c reference attending interpreterRequired := by
  simp only [referenceDuration?, extraTime_congr reference h]

/-- Neither whether there is a duration in the tables nor its base depends on the issues, so only the
extra time moves it. -/
theorem referenceDuration?_le_of_subset (c : CaseSnapshot) (reference : ReferenceData)
    (h : c.disputedIssueCodes ⊆ issues) :
    (referenceDuration? c reference attending interpreterRequired = none ∧
      referenceDuration? { c with disputedIssueCodes := issues } reference attending
        interpreterRequired = none) ∨
    ∃ minutes minutes',
      referenceDuration? c reference attending interpreterRequired = some minutes ∧
      referenceDuration? { c with disputedIssueCodes := issues } reference attending
        interpreterRequired = some minutes' ∧
      minutes ≤ minutes' := by
  unfold referenceDuration?
  cases reference.durations? c.benefitCode c.issueCode with
  | none => exact .inl ⟨rfl, rfl⟩
  | some durations =>
    cases hbase : durations.pick attending interpreterRequired with
    | none => simp [hbase]
    | some base =>
      refine .inr ⟨base.plus (extraTime reference c.disputedIssueCodes),
        base.plus (extraTime reference issues), ?_, ?_,
        Minutes.plus_le_plus_left base (extraTime_le_of_subset reference h)⟩
      · simp [hbase]
      · simp [hbase]

theorem hearingDuration_disputing (override : Option Minutes)
    (h : ∀ issue, issue ∈ issues ↔ issue ∈ c.disputedIssueCodes) :
    hearingDuration { c with disputedIssueCodes := issues } reference override attending
        interpreterRequired =
      hearingDuration c reference override attending interpreterRequired := by
  simp only [hearingDuration, referenceDuration?_disputing attending interpreterRequired h]

end

/-! ## Requests -/

/-- The duration is all that a cascade has of the disputed issues. -/
theorem cascade_ofCase_disputing (h : ∀ issue, issue ∈ issues ↔ issue ∈ c.disputedIssueCodes) :
    Cascade.ofCase { c with disputedIssueCodes := issues } reference options =
      Cascade.ofCase c reference options := by
  simp only [Cascade.ofCase, computeDefaultsMasked, hearingDuration_disputing _ _ none h]
  rfl

/-- A request has nothing of the disputed issues but what the cascade has. -/
theorem requestFor_disputing (h : ∀ issue, issue ∈ issues ↔ issue ∈ c.disputedIssueCodes) :
    requestFor { c with disputedIssueCodes := issues } reference options version =
      requestFor c reference options version := by
  simp only [requestFor, cascade_ofCase_disputing h]
  rfl

/-- Which issues are disputed has nothing to do with ids. -/
theorem CaseSnapshot.sparesIds_disputing (issues : List String) :
    SparesIds ({ · with disputedIssueCodes := issues }) :=
  ⟨fun _ => rfl, fun _ => rfl, fun _ _ place => by cases place <;> rfl⟩

theorem assembleRequest_disputing (h : ∀ issue, issue ∈ issues ↔ issue ∈ c.disputedIssueCodes) :
    assembleRequest { c with disputedIssueCodes := issues } reference options version =
      (assembleRequest c reference options version).map
        fun a => { a with case := { a.case with disputedIssueCodes := issues } } := by
  refine assembleRequest_of_sparesIds (CaseSnapshot.sparesIds_disputing issues) fun d hd => ?_
  have hdisputed : d.disputedIssueCodes = c.disputedIssueCodes :=
    (congrArg CaseSnapshot.disputedIssueCodes hd :)
  exact requestFor_disputing fun issue => hdisputed ▸ h issue

/-- The disputed issues count as a set. However else they are listed, in another order or more or
less often, the duration by the tables is the same, and so is the duration of the hearing under any
override, and the request, with all of its parts and the ids that are handed out, or the failure.
Nothing but the list itself is different on the case that is given back. If there are more issues on
the list, the duration by the tables is not any shorter, wherever sums are cut off; without a
duration in the tables there is none for the longer list, either. -/
theorem disputedIssues_count_as_set (c : CaseSnapshot) (reference : ReferenceData)
    (issues : List String) :
    ((∀ issue, issue ∈ issues ↔ issue ∈ c.disputedIssueCodes) →
      (∀ attending interpreterRequired,
        referenceDuration? { c with disputedIssueCodes := issues } reference attending
            interpreterRequired =
          referenceDuration? c reference attending interpreterRequired) ∧
      (∀ override attending interpreterRequired,
        hearingDuration { c with disputedIssueCodes := issues } reference override attending
            interpreterRequired =
          hearingDuration c reference override attending interpreterRequired) ∧
      ∀ options version,
        assembleRequest { c with disputedIssueCodes := issues } reference options version =
          (assembleRequest c reference options version).map
            fun a => { a with case := { a.case with disputedIssueCodes := issues } }) ∧
    (c.disputedIssueCodes ⊆ issues → ∀ attending interpreterRequired,
      (referenceDuration? c reference attending interpreterRequired = none ∧
        referenceDuration? { c with disputedIssueCodes := issues } reference attending
          interpreterRequired = none) ∨
      ∃ minutes minutes',
        referenceDuration? c reference attending interpreterRequired = some minutes ∧
        referenceDuration? { c with disputedIssueCodes := issues } reference attending
          interpreterRequired = some minutes' ∧
        minutes ≤ minutes') := by
  constructor
  · intro h
    refine ⟨?_, ?_, ?_⟩
    · exact fun attending interpreterRequired =>
        referenceDuration?_disputing attending interpreterRequired h
    · exact fun override attending interpreterRequired =>
        hearingDuration_disputing attending interpreterRequired override h
    · exact fun options version => assembleRequest_disputing h
  · exact fun h attending interpreterRequired =>
      referenceDuration?_le_of_subset attending interpreterRequired c reference h

/-- Two issues are listed in another order, and one of them twice, with a base duration that cannot
take in the extra time of both. One of them alone takes no longer than both. -/
theorem disputedIssues_count_as_set_cut_off :
    referenceDuration? (disputedCase ["AC", "ZZ"] none) (timedReference 4294967288) true false =
        some 4294967295 ∧
      referenceDuration? (disputedCase ["ZZ", "AC", "ZZ"] none) (timedReference 4294967288) true
        false = some 4294967295 ∧
      ∃ minutes, referenceDuration? (disputedCase ["ZZ"] none) (timedReference 4294967288) true
        false = some minutes ∧ minutes ≤ 4294967295 := by
  have hboth : referenceDuration? (disputedCase ["AC", "ZZ"] none) (timedReference 4294967288) true
      false = some 4294967295 := rfl
  refine ⟨hboth, ?_, ?_⟩
  · rw [← hboth]
    exact ((disputedIssues_count_as_set (disputedCase ["AC", "ZZ"] none)
      (timedReference 4294967288) ["ZZ", "AC", "ZZ"]).1 (by simp [disputedCase])).1 true false
  · obtain ⟨-, hnone⟩ | ⟨minutes, minutes', hone, hboth', hle⟩ :=
      (disputedIssues_count_as_set (disputedCase ["ZZ"] none) (timedReference 4294967288)
        ["AC", "ZZ"]).2 (by simp [disputedCase]) true false
    · exact absurd (hnone.symm.trans hboth) nofun
    · cases hboth'.symm.trans hboth
      exact ⟨minutes, hone, hle⟩

end TribunalListing
