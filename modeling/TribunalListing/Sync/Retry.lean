-- SUMMARY: Retrying a write to the case store while it comes too late.
import TribunalListing.Exchange.Call

/-!
# Retry

A write that came too late can be tried again on a fresh copy of the case. Nothing else can: a
success and any other failure end the attempts at once. The number of attempts is bounded, and
there is always at least one.
-/

namespace TribunalListing

structure RetryPolicy where
  /-- All attempts, the first one included. -/
  maxAttempts : Nat
  /-- The pause between two attempts. -/
  backoffMillis : Nat
  deriving DecidableEq

namespace RetryPolicy

/-- A policy with at least one attempt. -/
def of (maxAttempts backoffMillis : Nat) : RetryPolicy :=
  ⟨max maxAttempts 1, backoffMillis⟩

/-- Three attempts, a second apart. -/
def standard : RetryPolicy :=
  of 3 1000

end RetryPolicy

inductive RetryFailure where
  /-- Every attempt came too late. -/
  | exhausted (attempts : Nat)
  /-- An attempt failed for another reason. -/
  | fatal (error : StoreError)
  deriving DecidableEq

/-- Makes up to `remaining` more attempts, after `made` attempts that came too late. -/
def attemptMore {m : Type → Type} [Monad m] {α : Type}
    (attempt : Nat → m (Except StoreError α)) (made : Nat) : Nat → m (Except RetryFailure α)
  | 0 => pure (.error (.exhausted made))
  | remaining + 1 => do
    match ← attempt (made + 1) with
    | .ok value => pure (.ok value)
    | .error error =>
      if error.isConflict then attemptMore attempt (made + 1) remaining
      else pure (.error (.fatal error))

/-- Makes attempts, numbered from one, until one succeeds, one fails for another reason than coming
too late, or the policy allows no more. -/
def retryOnConflict {m : Type → Type} [Monad m] {α : Type} (policy : RetryPolicy)
    (attempt : Nat → m (Except StoreError α)) : m (Except RetryFailure α) :=
  attemptMore attempt 0 (max policy.maxAttempts 1)

end TribunalListing
