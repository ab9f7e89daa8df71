-- SUMMARY: The duration of a hearing is the exact one, computed without a limit and cut off once, at the largest duration.
import Mathlib.Algebra.BigOperators.Group.Finset.Basic
import Mathlib.Algebra.GroupWithZero.Nat
import TribunalListing.Proofs.Request.Attendance
import TribunalListing.Proofs.Request.Duration

/-!
# Exact durations

Every sum and product of durations stops at the largest duration, in the middle of a calculation as
well as at its end. None of them is ever lowered, so it makes no difference where a calculation is
stopped: the duration of a hearing is the one that unlimited arithmetic gives, cut off once. The
largest duration happens to be a multiple of five. So whatever is cut off passes the check, and only
a duration that is exact can be turned down.
-/

namespace TribunalListing

/-! ## Arithmetic that is cut off -/

namespace Minutes

@[simp] theorem capped_toNat (a : Minutes) : capped a.toNat = a := by
  apply UInt32.toNat_inj.mp
  rw [toNat_capped]
  have hlt : a.toNat < 4294967296 := a.toNat_lt
  have hmaximum : maximum = 4294967295 := rfl
  omega

/-- A sum that is cut off twice is cut off once. -/
theorem capped_plus (m : Nat) (b : Minutes) : (capped m).plus b = capped (m + b.toNat) := by
  apply UInt32.toNat_inj.mp
  rw [toNat_plus, toNat_capped, toNat_capped]
  omega

theorem plus_capped (a : Minutes) (n : Nat) : a.plus (capped n) = capped (a.toNat + n) := by
  apply UInt32.toNat_inj.mp
  rw [toNat_plus, toNat_capped, toNat_capped]
  omega

/-- A bound that is a duration itself does not notice the cut. -/
theorem le_capped_iff {bound : Minutes} {n : Nat} : bound ≤ capped n ↔ bound.toNat ≤ n := by
  have hlt : bound.toNat < 4294967296 := bound.toNat_lt
  have hmaximum : maximum = 4294967295 := rfl
  rw [UInt32.le_iff_toNat_le, toNat_capped]
  omega

/-- The largest duration is a multiple of five, so a duration that was cut off is one. -/
theorem five_dvd_capped_iff {n : Nat} : 5 ∣ (capped n).toNat ↔ (n ≤ maximum → 5 ∣ n) := by
  have hmaximum : maximum = 4294967295 := rfl
  rw [toNat_capped]
  omega

/-- Adding durations one after the other comes to their sum, cut off. -/
theorem foldl_plus {α : Type} (minutes : α → Minutes) (items : List α) (n : Nat) :
    items.foldl (fun sum item => sum.plus (minutes item)) (capped n) =
      capped (n + (items.map fun item => (minutes item).toNat).sum) := by
  induction items generalizing n with
  | nil => rfl
  | cons item items ih =>
    rw [List.foldl_cons, capped_plus, ih, List.map_cons, List.sum_cons, Nat.add_assoc]

end Minutes

/-! ## Durations without a limit -/

/-- The minutes in one unit. -/
def DurationUnit.minutesEach : DurationUnit → Nat
  | .sessions => 165
  | .hours => 60
  | .minutes => 1

/-- The number of minutes that an adjournment in progress directs. -/
def Adjournment.directedMinutes? (a : Adjournment) : Option Nat :=
  if a.inProgress then do
    let value ← a.nextDuration
    let unit ← a.nextDurationUnit
    return value.toNat * unit.minutesEach
  else none

/-- The number of minutes in the reference tables: the variant for the benefit and the issue, and
the extra minutes of each disputed issue. It does not matter how often an issue is disputed. -/
def tabledMinutes? (c : CaseSnapshot) (reference : ReferenceData)
    (attending interpreterRequired : Bool) : Option Nat := do
  let durations ← reference.durations? c.benefitCode c.issueCode
  let base ← durations.pick attending interpreterRequired
  return base.toNat + ∑ issue ∈ c.disputedIssueCodes.toFinset, (reference.extraMinutes issue).toNat

/-- The rules that can give a duration, the first that applies before the others. -/
inductive DurationRule where
  | override
  | adjournment
  | reference
  | default
  deriving DecidableEq

/-- The name that a duration by a rule is reported under. -/
def DurationRule.source : DurationRule → String
  | .override => "override"
  | .adjournment => "adjournment"
  | .reference => "reference"
  | .default => "default"

/-- The first rule that applies and the number of minutes it gives, computed without a limit. -/
def exactDuration (c : CaseSnapshot) (reference : ReferenceData) (override : Option Minutes)
    (attending interpreterRequired : Bool) : DurationRule × Nat :=
  match (override.map (·.toNat)).filter (30 ≤ ·), c.adjournment.directedMinutes?.filter (30 ≤ ·),
    tabledMinutes? c reference attending interpreterRequired with
  | some minutes, _, _ => (.override, minutes)
  | none, some minutes, _ => (.adjournment, minutes)
  | none, none, some minutes => (.reference, minutes)
  | none, none, none => (.default, 30)

/-! ## Each rule comes to the exact number, cut off -/

variable {c : CaseSnapshot} {reference : ReferenceData} {override : Option Minutes}
  {attending interpreterRequired : Bool}

theorem honouredDuration_eq_exact (override : Option Minutes) :
    honouredDuration override =
      ((override.map (·.toNat)).filter (30 ≤ ·)).map Minutes.capped := by
  cases override with
  | none => rfl
  | some minutes =>
    have hbound : minOverrideDuration ≤ minutes ↔ 30 ≤ minutes.toNat := UInt32.le_iff_toNat_le
    rw [honouredDuration, Option.map_some, Option.filter_some, Option.filter_some]
    by_cases hlong : 30 ≤ minutes.toNat <;> simp [hbound, hlong]

theorem toMinutes_eq_capped (value : Minutes) (unit : DurationUnit) :
    unit.toMinutes value = Minutes.capped (value.toNat * unit.minutesEach) := by
  cases unit with
  | sessions => rfl
  | hours => rfl
  | minutes => simp [DurationUnit.toMinutes, DurationUnit.minutesEach]

theorem duration?_eq_exact (a : Adjournment) :
    a.duration? = (a.directedMinutes?.filter (30 ≤ ·)).map Minutes.capped := by
  unfold Adjournment.duration? Adjournment.directedMinutes?
  cases a.inProgress with
  | false => rfl
  | true =>
    cases a.nextDuration with
    | none => rfl
    | some value =>
      cases a.nextDurationUnit with
      | none => rfl
      | some unit =>
        have hbound : minAdjournedDuration ≤ Minutes.capped (value.toNat * unit.minutesEach) ↔
            30 ≤ value.toNat * unit.minutesEach := Minutes.le_capped_iff
        simp only [toMinutes_eq_capped, hbound, if_true, Option.bind_eq_bind, Option.bind_some,
          Option.pure_def, Option.filter_some]
        by_cases hlong : 30 ≤ value.toNat * unit.minutesEach
        · simp [hlong]
        · simp [hlong]

/-- The extra time is the sum over the disputed issues, each counted once, cut off. -/
theorem extraTime_eq_capped (reference : ReferenceData) (issues : List String) :
    extraTime reference issues =
      Minutes.capped (∑ issue ∈ issues.toFinset, (reference.extraMinutes issue).toNat) := by
  have hset : issues.eraseDups.toFinset = issues.toFinset := by
    ext issue
    simp
  have hzero : Minutes.capped 0 = 0 := rfl
  rw [extraTime, ← hzero, Minutes.foldl_plus, Nat.zero_add, ← hset,
    List.sum_toFinset _ (nodup_eraseDups _)]

theorem referenceDuration?_eq_exact :
    referenceDuration? c reference attending interpreterRequired =
      (tabledMinutes? c reference attending interpreterRequired).map Minutes.capped := by
  unfold referenceDuration? tabledMinutes?
  cases reference.durations? c.benefitCode c.issueCode with
  | none => rfl
  | some durations =>
    cases hbase : durations.pick attending interpreterRequired with
    | none => simp [hbase]
    | some base => simp [hbase, extraTime_eq_capped, Minutes.plus_capped]

/-! ## The duration of a hearing -/

/-- The duration of a hearing is the exact one, cut off, and it is checked under the name of the
rule that gave it. -/
theorem hearingDuration_eq_check (c : CaseSnapshot) (reference : ReferenceData)
    (override : Option Minutes) (attending interpreterRequired : Bool) :
    hearingDuration c reference override attending interpreterRequired =
      checkDuration
        (Minutes.capped (exactDuration c reference override attending interpreterRequired).2)
        (exactDuration c reference override attending interpreterRequired).1.source := by
  unfold hearingDuration exactDuration
  rw [honouredDuration_eq_exact, duration?_eq_exact, referenceDuration?_eq_exact]
  cases (override.map (·.toNat)).filter (30 ≤ ·) with
  | some minutes => rfl
  | none =>
    cases c.adjournment.directedMinutes?.filter (30 ≤ ·) with
    | some minutes => rfl
    | none => cases tabledMinutes? c reference attending interpreterRequired <;> rfl

/-- Only the tables can give no minutes at all. -/
theorem exactDuration_reference_or_le (c : CaseSnapshot) (reference : ReferenceData)
    (override : Option Minutes) (attending interpreterRequired : Bool) :
    (exactDuration c reference override attending interpreterRequired).1 = .reference ∨
      30 ≤ (exactDuration c reference override attending interpreterRequired).2 := by
  unfold exactDuration
  split
  next hoverride => exact .inr (by simpa using (Option.filter_eq_some_iff.mp hoverride).2)
  next hdirected => exact .inr (by simpa using (Option.filter_eq_some_iff.mp hdirected).2)
  next => exact .inl rfl
  next => exact .inr (Nat.le_refl 30)

/-- A hearing is given the exact duration, cut off at the largest one, and only if that is a multiple
of five. It is refused one under the name of the rule exactly if the exact duration is no multiple of
five and does not need to be cut off. Only by the tables can a hearing be given no minutes at all. -/
theorem hearingDuration_exact (c : CaseSnapshot) (reference : ReferenceData)
    (override : Option Minutes) (attending interpreterRequired : Bool) :
    let exact := exactDuration c reference override attending interpreterRequired
    let given := hearingDuration c reference override attending interpreterRequired
    (∀ d, given = .ok d → d.toNat = min exact.2 Minutes.maximum ∧ 5 ∣ d.toNat ∧
        (exact.1 ≠ .reference → 0 < d.toNat)) ∧
      (∀ d source, given = .error (.durationNotMultipleOfFive d source) ↔
        d.toNat = exact.2 ∧ source = exact.1.source ∧ ¬ 5 ∣ exact.2) ∧
      (0 < exact.2 → 5 ∣ exact.2 ∨ Minutes.maximum < exact.2 →
        given = .ok (Minutes.capped exact.2)) := by
  intro exact given
  have hgiven : given = checkDuration (Minutes.capped exact.2) exact.1.source :=
    hearingDuration_eq_check c reference override attending interpreterRequired
  have hmaximum : Minutes.maximum = 4294967295 := rfl
  refine ⟨?_, ?_, ?_⟩
  · intro d hd
    rw [hgiven] at hd
    obtain ⟨rfl, hdvd⟩ := checkDuration_eq_ok_iff.mp hd
    refine ⟨Minutes.toNat_capped _, hdvd, ?_⟩
    intro hrule
    have hlong : 30 ≤ exact.2 :=
      (exactDuration_reference_or_le c reference override attending
        interpreterRequired).resolve_left hrule
    rw [Minutes.toNat_capped]
    omega
  · intro d source
    rw [hgiven, checkDuration_eq_error_iff, Minutes.five_dvd_capped_iff,
      DerivationError.durationNotMultipleOfFive.injEq, ← UInt32.toNat_inj, Minutes.toNat_capped]
    constructor
    · rintro ⟨⟨hd, hsource⟩, hrefused⟩
      refine ⟨?_, hsource, ?_⟩ <;> omega
    · rintro ⟨hd, hsource, hrefused⟩
      have hlt : d.toNat < 4294967296 := d.toNat_lt
      refine ⟨⟨?_, hsource⟩, ?_⟩ <;> omega
  · rintro - hpasses
    rw [hgiven]
    refine checkDuration_eq_ok_iff.mpr ⟨rfl, Minutes.five_dvd_capped_iff.mpr ?_⟩
    omega

/-- An appeal with disputed issues, and perhaps with the directions of an adjournment in progress. -/
def disputedCase (issues : List String) (directed : Option (Minutes × DurationUnit)) :
    CaseSnapshot where
  caseId := "1"
  benefitCode := "002"
  issueCode := "DD"
  disputedIssueCodes := issues
  adjournment := {
    inProgress := directed.isSome
    nextDuration := directed.map (·.1)
    nextDurationUnit := directed.map (·.2) }

/-- Reference data with one base duration, and with extra time for two issues. -/
def timedReference (base : Minutes) : ReferenceData :=
  ReferenceTables.data {
    durations := [⟨"002", "DD", { faceToFace := some base }⟩]
    extraTime := [⟨"AC", 10⟩, ⟨"ZZ", 1⟩] }

/-- A direction of twenty minutes does not count, and an issue that is disputed twice counts once. -/
theorem hearingDuration_exact_disputed :
    let c := disputedCase ["AC", "AC", "XX"] (some (20, .minutes))
    exactDuration c (timedReference 65) (some 25) true false = (.reference, 75) ∧
      hearingDuration c (timedReference 65) (some 25) true false = .ok 75 := by
  intro c
  have hexact : exactDuration c (timedReference 65) (some 25) true false = (.reference, 75) := rfl
  obtain ⟨-, -, hgiven⟩ := hearingDuration_exact c (timedReference 65) (some 25) true false
  rw [hexact] at hgiven
  exact ⟨hexact, hgiven (by decide) (by decide)⟩

/-- A directed duration is cut off. So is a sum from the tables, and then it passes the check though
it is no multiple of five. Tables without any minutes give a hearing without any. -/
theorem hearingDuration_cut_off :
    let directed := disputedCase [] (some (26030105, .sessions))
    let disputed := disputedCase ["ZZ"] none
    let plain := disputedCase [] none
    (exactDuration directed (timedReference 60) none true false = (.adjournment, 4294967325) ∧
        hearingDuration directed (timedReference 60) none true false = .ok 4294967295) ∧
      (exactDuration disputed (timedReference 4294967295) none true false =
          (.reference, 4294967296) ∧ ¬ 5 ∣ 4294967296 ∧
        hearingDuration disputed (timedReference 4294967295) none true false = .ok 4294967295) ∧
      exactDuration plain (timedReference 0) none true false = (.reference, 0) ∧
        hearingDuration plain (timedReference 0) none true false = .ok 0 := by
  refine ⟨⟨rfl, rfl⟩, ⟨rfl, ?_, rfl⟩, rfl, rfl⟩
  decide

end TribunalListing
