-- SUMMARY: The ways in which a unit of work of the engine can fail.
import TribunalListing.Exchange.Call
import TribunalListing.Request.Error

/-!
# Engine errors

A failure that ends a unit of work names the case, the action that was being attempted, and what
went wrong.
-/

namespace TribunalListing

inductive EngineFailure where
  /-- The hearing request could not be derived from the case. -/
  | derivation (source : DerivationError)
  /-- A call on the hearing service failed. -/
  | hearingService (source : ServiceError)
  /-- The case store failed with something that cannot be retried. -/
  | caseStore (source : StoreError)
  /-- There is no outstanding hearing to act on. -/
  | noOutstandingHearing
  /-- The hearing service reported no version for the hearing. -/
  | hearingVersionUnknown (hearingId : String)
  /-- The outcome could not be written back in the attempts that were allowed. -/
  | syncExhausted (hearingId : String) (attempts : Nat) (compensated : Bool)
  deriving DecidableEq

structure EngineError where
  caseId : String
  /-- The name of the action that was being attempted. -/
  action : String
  failure : EngineFailure
  deriving DecidableEq

namespace EngineError

def derivationKind? (e : EngineError) : Option ErrorKind :=
  match e.failure with
  | .derivation source => some source.kind
  | _ => none

/-- The stage, or the field of the request, at which the unit of work failed. -/
def stage (e : EngineError) : String :=
  match e.failure with
  | .derivation source => source.field
  | .hearingService _ | .hearingVersionUnknown _ => "hearingService"
  | .caseStore _ | .syncExhausted .. => "caseStore"
  | .noOutstandingHearing => "hearingHistory"

def message (e : EngineError) : String :=
  s!"{e.action} for case {e.caseId}" ++
    match e.failure with
    | .derivation source => s!" failed deriving {source.field}: {source.message}"
    | .hearingService source => s!" failed at the hearing service: {source.message}"
    | .caseStore source => s!" failed at the case store: {source.message}"
    | .noOutstandingHearing => ": no outstanding hearing"
    | .hearingVersionUnknown hearingId => s!": hearing {hearingId} has no version"
    | .syncExhausted hearingId attempts compensated =>
      s!": hearing {hearingId} not persisted after {attempts} attempts (compensated: " ++
        DerivationError.flagText compensated ++ ")"

end EngineError

end TribunalListing
