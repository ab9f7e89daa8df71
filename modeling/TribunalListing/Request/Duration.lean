-- SUMMARY: The duration of the hearing.
import TribunalListing.Case.Snapshot
import TribunalListing.Reference.Data
import TribunalListing.Request.Error

/-!
# Duration

The first of these that applies gives the duration: a caseworker's override of at least thirty
minutes; the direction of an adjournment in progress, again of at least thirty minutes; the
reference tables, with extra time for every disputed issue; thirty minutes. A duration that is not
a multiple of five minutes is turned down, never rounded.
-/

namespace TribunalListing

def defaultDuration : Minutes := 30

/-- The shortest override that is honoured. -/
def minOverrideDuration : Minutes := 30

/-- The shortest direction of an adjournment that is honoured. -/
def minAdjournedDuration : Minutes := 30

def sessionMinutes : Minutes := 165

def DurationUnit.toMinutes (value : Minutes) : DurationUnit → Minutes
  | .sessions => value.times sessionMinutes.toNat
  | .hours => value.times 60
  | .minutes => value

/-- Passes a duration that is a multiple of five minutes. -/
def checkDuration (duration : Minutes) (source : String) : Derived Minutes :=
  if duration.toNat % 5 = 0 then .ok duration
  else .error (.durationNotMultipleOfFive duration source)

/-- The override that is long enough to be honoured. -/
def honouredDuration (override : Option Minutes) : Option Minutes :=
  override.filter (minOverrideDuration ≤ ·)

/-- The duration directed by an adjournment in progress. -/
def Adjournment.duration? (a : Adjournment) : Option Minutes :=
  if a.inProgress then do
    let value ← a.nextDuration
    let unit ← a.nextDurationUnit
    let minutes := unit.toMinutes value
    if minAdjournedDuration ≤ minutes then some minutes else none
  else none

/-- The base duration for a way of holding the hearing. -/
def BaseDurations.pick (d : BaseDurations) (attending interpreterRequired : Bool) :
    Option Minutes :=
  if !attending then d.paper else if interpreterRequired then d.interpreter else d.faceToFace

/-- The extra time for disputed issues, each of them counted once. -/
def extraTime (reference : ReferenceData) (issues : List String) : Minutes :=
  issues.eraseDups.foldl (fun sum issue => sum.plus (reference.extraMinutes issue)) 0

/-- The duration of the reference tables, with extra time for the disputed issues. -/
def referenceDuration? (c : CaseSnapshot) (reference : ReferenceData)
    (attending interpreterRequired : Bool) : Option Minutes := do
  let durations ← reference.durations? c.benefitCode c.issueCode
  let base ← durations.pick attending interpreterRequired
  return base.plus (extraTime reference c.disputedIssueCodes)

def hearingDuration (c : CaseSnapshot) (reference : ReferenceData) (override : Option Minutes)
    (attending interpreterRequired : Bool) : Derived Minutes :=
  match honouredDuration override with
  | some duration => checkDuration duration "override"
  | none =>
    match c.adjournment.duration? with
    | some duration => checkDuration duration "adjournment"
    | none =>
      match referenceDuration? c reference attending interpreterRequired with
      | some duration => checkDuration duration "reference"
      | none => .ok defaultDuration

end TribunalListing
