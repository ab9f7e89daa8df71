-- SUMMARY: The outcome of a hearing action, and how it is merged into a case.
import TribunalListing.Audit
import TribunalListing.Case.Identity
import TribunalListing.Trigger

/-!
# Outcomes

An outcome is what a hearing action has brought about and what has to be written back to the case:
the record of the hearing, and the party ids that were sent. It is merged into whatever the case
has become in the meantime, so that nothing that others have written is lost.
-/

namespace TribunalListing

/-- What a hearing action has brought about. -/
structure Outcome where
  action : HearingAction
  hearing : HearingRecord
  /-- The snapshot that the request was derived from, with party ids assigned. -/
  derived : CaseSnapshot
  /-- The adjournment is no longer in progress once the outcome is written. -/
  clearAdjournment : Bool
  deriving DecidableEq

namespace Outcome

/-! ## The parts of a merge -/

/-- The case with the record of the hearing taken into its history. -/
def recordHearing (o : Outcome) (c : CaseSnapshot) : CaseSnapshot :=
  { c with hearings := c.hearings.merge o.hearing }

/-- The case with ids for the parties that still lack one. They lie above every id that the request
carried, so that no id that was sent for one party comes to another. Where no number is left, the
case stays as it is. -/
def numberParties (o : Outcome) (c : CaseSnapshot) : CaseSnapshot × List String :=
  match c.assignIdsAbove o.derived.highestPartyNumber with
  | .ok numbered => numbered
  | .error _ => (c, [])

/-- The outcome ends an adjournment that is in progress on the case. -/
def endsAdjournment (o : Outcome) (c : CaseSnapshot) : Bool :=
  o.clearAdjournment && c.adjournment.inProgress

/-- The case with the adjournment no longer in progress, if the outcome ends it. -/
def settleAdjournment (o : Outcome) (c : CaseSnapshot) : CaseSnapshot :=
  if o.endsAdjournment c then { c with adjournment.inProgress := false } else c

/-! ## Merging -/

/-- The case with the outcome merged into it, or none if it is fully reflected in it already. -/
def mergeInto (o : Outcome) (current : CaseSnapshot) : Option CaseSnapshot :=
  let recorded := o.recordHearing current
  let copied := o.derived.copyIds recorded
  let (numbered, ids) := o.numberParties copied
  if HearingHistory.isNews o.hearing current.hearings || !(o.derived.copiedIds recorded).isEmpty ||
      !ids.isEmpty || o.endsAdjournment numbered then
    some (o.settleAdjournment numbered)
  else none

/-- What the audit event tells about the action. -/
def auditAction (o : Outcome) : AuditAction where
  name := o.action.name
  details :=
    some s!"hearing {o.hearing.hearingId} v{o.hearing.version.toInt} {o.hearing.status.code}"

def auditEvent (o : Outcome) (caseId : String) (actor : Actor) (cause : Cause)
    (before after : CaseSnapshot) : AuditEvent where
  caseId
  actor
  cause
  action := o.auditAction
  before := .of before.hearings
  after := .of after.hearings

end Outcome

end TribunalListing
