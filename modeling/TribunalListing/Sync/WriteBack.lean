-- SUMMARY: Writing the outcome of a hearing action back to the case.
import TribunalListing.Exchange.Act
import TribunalListing.Sync.Error
import TribunalListing.Sync.Outcome
import TribunalListing.Sync.Retry

/-!
# Write-back

Each attempt reads the case afresh, merges the outcome into it and writes it on the condition that
the case has not changed since. When all attempts came too late, the hearing that was just created
or updated is cancelled, so that no outstanding hearing is left that the case does not know of.
-/

namespace TribunalListing

structure WriteBack where
  caseId : String
  outcome : Outcome
  cause : Cause
  actor : Actor
  policy : RetryPolicy
  deriving DecidableEq

namespace WriteBack

/-- What one attempt does with the case that it has read: nothing if the outcome is reflected in it
already, otherwise one conditional write. -/
def follow (w : WriteBack) (current : VersionedCase) : Act (Except StoreError Int) :=
  match w.outcome.mergeInto current.snapshot with
  | none => pure (.ok current.version)
  | some updated =>
    Act.store (.write w.caseId updated current.version
      (w.outcome.auditEvent w.caseId w.actor w.cause current.snapshot updated))

def attempt (w : WriteBack) : Act (Except StoreError Int) := do
  match ← Act.store (.read w.caseId) with
  | .ok current => w.follow current
  | .error error => return .error error

/-- Cancels the hearing that could not be written back. Says whether the cancellation was
accepted. -/
def compensate (w : WriteBack) : Act Bool := do
  match ← Act.service (.cancel w.outcome.hearing.hearingId (.because .other)) with
  | .ok _ => return true
  | .error _ => return false

def error (w : WriteBack) (failure : EngineFailure) : EngineError :=
  ⟨w.caseId, w.outcome.action.name, failure⟩

/-- Writes the outcome back. Gives the version of the case after the write, or the current one if
there was nothing to write. -/
def perform (w : WriteBack) : ExceptT EngineError Act Int := do
  match ← (retryOnConflict w.policy fun _ => w.attempt : Act _) with
  | .ok version => return version
  | .error (.fatal source) => throw (w.error (.caseStore source))
  | .error (.exhausted attempts) =>
    let compensated ← if w.outcome.action = .cancel then pure false else (w.compensate : Act Bool)
    throw (w.error (.syncExhausted w.outcome.hearing.hearingId attempts compensated))

end WriteBack

end TribunalListing
