-- SUMMARY: Retrying makes the attempts one, two and so on, up to the first that does not come too late.
import TribunalListing.Exchange.Act
import TribunalListing.Sync.Retry

/-!
# Attempts, one after the other

An attempt is told its number, and what it does may depend on all that the attempts before it have
left behind. So whether it comes too late is known only once those have been made. Retrying makes the
attempts in the order of their numbers and without leaving one out. It stops at the first that does
not come too late, or else at the last that is allowed, of which there is always one.
-/

namespace TribunalListing

/-- Makes the attempt with the given number on a state. -/
abbrev Attempt (σ α : Type) := Nat → StateM σ (Except StoreError α)

/-- The reply says that the attempt came too late. -/
def cameTooLate {α : Type} : Except StoreError α → Bool
  | .ok _ => false
  | .error error => error.isConflict

/-- What retrying gives once the last of the allowed attempts has been replied to: its success, the
error that is no conflict, or that all attempts were made in vain. -/
def concluded {α : Type} (allowed : Nat) : Except StoreError α → Except RetryFailure α
  | .ok value => .ok value
  | .error error =>
    if error.isConflict then .error (.exhausted allowed) else .error (.fatal error)

theorem concluded_of_cameTooLate {α : Type} {allowed : Nat} {reply : Except StoreError α}
    (h : cameTooLate reply = true) : concluded allowed reply = .error (.exhausted allowed) := by
  cases reply with
  | ok value => cases h
  | error error => exact if_pos h

namespace Attempt

variable {σ α : Type}

/-- The state after the attempts from one up to a number. -/
def stateAfter (attempt : Attempt σ α) (s : σ) : Nat → σ
  | 0 => s
  | number + 1 => ((attempt (number + 1)).run (attempt.stateAfter s number)).2

/-- The reply to the attempt with a number, made after all the attempts before it. -/
def replyTo (attempt : Attempt σ α) (s : σ) (number : Nat) : Except StoreError α :=
  ((attempt number).run (attempt.stateAfter s (number - 1))).1

/-- Of the allowed attempts, the one with the number `k` is the last that is worth making: all before
it come too late, and so does it itself only if no more are allowed. -/
structure IsLast (attempt : Attempt σ α) (s : σ) (allowed k : Nat) : Prop where
  pos : 1 ≤ k
  le : k ≤ allowed
  before : ∀ number, 1 ≤ number → number < k → cameTooLate (attempt.replyTo s number) = true
  stops : cameTooLate (attempt.replyTo s k) = true → k = allowed

/-- The attempt that notes its number beside the state. -/
def noted (attempt : Attempt σ α) : Attempt (σ × List Nat) α := fun number (s, numbers) =>
  let (reply, s') := (attempt number).run s
  (reply, s', numbers ++ [number])

variable {attempt : Attempt σ α} {s : σ} {allowed made k : Nat}

/-! ## Making them -/

/-- As some attempt is allowed, one of them is the last. -/
theorem exists_isLast (attempt : Attempt σ α) (s : σ) (remaining : Nat) :
    ∃ k, attempt.IsLast s (remaining + 1) k := by
  induction remaining with
  | zero => exact ⟨1, Nat.le_refl 1, Nat.le_refl 1, by omega, fun _ => rfl⟩
  | succ remaining ih =>
    obtain ⟨k, hk⟩ := ih
    cases hlate : cameTooLate (attempt.replyTo s k) with
    | false =>
      have hstops : cameTooLate (attempt.replyTo s k) = true → k = remaining + 1 + 1 := by
        intro h
        rw [hlate] at h
        cases h
      exact ⟨k, hk.pos, Nat.le_succ_of_le hk.le, hk.before, hstops⟩
    | true =>
      -- one more is allowed now, and all that were allowed before come too late
      obtain rfl := hk.stops hlate
      refine ⟨remaining + 1 + 1, Nat.le_add_left 1 _, Nat.le_refl _, ?_, fun _ => rfl⟩
      intro number hpos hlt
      rcases Nat.lt_succ_iff_lt_or_eq.mp hlt with hlt | rfl
      · exact hk.before number hpos hlt
      · exact hlate

/-- One attempt more ends the series, unless it comes too late; then the others that are left are
made from the state that it leaves. -/
theorem run_attemptMore_succ (attempt : Attempt σ α) (s : σ) (allowed made remaining : Nat) :
    (attemptMore attempt made (remaining + 1)).run (attempt.stateAfter s made) =
      if cameTooLate (attempt.replyTo s (made + 1)) then
        (attemptMore attempt (made + 1) remaining).run (attempt.stateAfter s (made + 1))
      else
        (concluded allowed (attempt.replyTo s (made + 1)), attempt.stateAfter s (made + 1)) := by
  have hrun : (attempt (made + 1)).run (attempt.stateAfter s made) =
      (attempt.replyTo s (made + 1), attempt.stateAfter s (made + 1)) := rfl
  rw [attemptMore, StateT.run_bind, hrun]
  cases attempt.replyTo s (made + 1) with
  | ok value => rfl
  | error error =>
    change StateT.run (if error.isConflict then _ else _) _ = if error.isConflict then _ else _
    rw [concluded]
    cases error.isConflict <;> rfl

/-- The attempts that are left are made up to the last. -/
theorem run_attemptMore (hlast : attempt.IsLast s allowed k) (hmade : made < k) :
    (attemptMore attempt made (allowed - made)).run (attempt.stateAfter s made) =
      (concluded allowed (attempt.replyTo s k), attempt.stateAfter s k) := by
  obtain ⟨ahead, rfl⟩ : ∃ ahead, k = made + 1 + ahead := ⟨k - (made + 1), by omega⟩
  have hremaining : allowed - made = allowed - (made + 1) + 1 := by
    have := hlast.le
    omega
  induction ahead generalizing made with
  | zero =>
    rw [hremaining, run_attemptMore_succ attempt s allowed]
    split
    next hlate =>
      -- every attempt that was allowed came too late
      obtain rfl := hlast.stops hlate
      rw [Nat.sub_self, concluded_of_cameTooLate hlate]
      rfl
    next => rfl
  | succ ahead ih =>
    have hlate := hlast.before (made + 1) (by omega) (by omega)
    rw [hremaining, run_attemptMore_succ attempt s allowed, if_pos hlate]
    have hshift : made + 1 + (ahead + 1) = made + 1 + 1 + ahead := by omega
    rw [hshift] at hlast ⊢
    exact ih hlast (by omega) (by have := hlast.le; omega)

/-! ## Noting them -/

/-- The numbers that are noted are those of the attempts made, in their order. -/
theorem stateAfter_noted (attempt : Attempt σ α) (s : σ) (number : Nat) :
    attempt.noted.stateAfter (s, []) number =
      (attempt.stateAfter s number, List.range' 1 number) := by
  induction number with
  | zero => rfl
  | succ number ih =>
    rw [stateAfter, ih, List.range'_1_concat, Nat.add_comm 1 number]
    rfl

/-- Noting numbers does not show in the replies. -/
theorem replyTo_noted (attempt : Attempt σ α) (s : σ) (number : Nat) :
    attempt.noted.replyTo (s, []) number = attempt.replyTo s number := by
  rw [replyTo, stateAfter_noted]
  rfl

theorem IsLast.noted (h : attempt.IsLast s allowed k) : attempt.noted.IsLast (s, []) allowed k := by
  refine ⟨h.pos, h.le, ?_, ?_⟩
  · intro number hpos hlt
    rw [replyTo_noted]
    exact h.before number hpos hlt
  · rw [replyTo_noted]
    exact h.stops

/-! ## Retrying -/

/-- Retrying makes the attempts up to the last, and concludes from the reply to that one. -/
theorem run_retryOnConflict {policy : RetryPolicy}
    (hlast : attempt.IsLast s (max policy.maxAttempts 1) k) :
    (retryOnConflict policy attempt).run s =
      (concluded (max policy.maxAttempts 1) (attempt.replyTo s k), attempt.stateAfter s k) := by
  have hrun := run_attemptMore hlast hlast.pos
  rwa [Nat.sub_zero] at hrun

end Attempt

/-- Whatever attempts do to the state that they are made on: retrying makes those with the numbers
from one up to some `k`, in this order and no others. All of them but the last come too late; the
last one comes too late only if it is the last that is allowed, and one is always allowed. What
retrying gives is the success of the last attempt, its error if that is no conflict, or else that as
many attempts as are allowed were made in vain. -/
theorem retryOnConflict_in_order {σ α : Type} (policy : RetryPolicy) (attempt : Attempt σ α)
    (s : σ) :
    ∃ k, attempt.IsLast s (max policy.maxAttempts 1) k ∧
      (retryOnConflict policy attempt).run s =
        (concluded (max policy.maxAttempts 1) (attempt.replyTo s k), attempt.stateAfter s k) ∧
      (retryOnConflict policy attempt.noted).run (s, []) =
        (concluded (max policy.maxAttempts 1) (attempt.replyTo s k), attempt.stateAfter s k,
          List.range' 1 k) := by
  obtain ⟨remaining, hallowed⟩ : ∃ remaining, max policy.maxAttempts 1 = remaining + 1 :=
    ⟨max policy.maxAttempts 1 - 1, by omega⟩
  obtain ⟨k, hlast⟩ := attempt.exists_isLast s remaining
  rw [← hallowed] at hlast
  refine ⟨k, hlast, Attempt.run_retryOnConflict hlast, ?_⟩
  rw [Attempt.run_retryOnConflict hlast.noted, Attempt.replyTo_noted, Attempt.stateAfter_noted]

/-- A policy that allows no attempt at all is taken to allow one. -/
example :
    (retryOnConflict ⟨0, 0⟩ (Attempt.noted fun _ s => (.error (.conflict "1" 1), s) :
      Attempt (Unit × List Nat) Int)).run ((), []) = (.error (.exhausted 1), (), [1]) := rfl

/-! ## Attempts that make calls -/

namespace Attempt

variable {σ α : Type}

/-- Attempts that make calls, as what they do to the state of a handler that answers the calls. -/
def ofActs (handler : Act.Handler σ) (attempt : Nat → Act (Except StoreError α)) : Attempt σ α :=
  fun number => (attempt number).run handler

theorem run_attemptMore_acts (handler : Act.Handler σ) (attempt : Nat → Act (Except StoreError α))
    (made remaining : Nat) (s : σ) :
    (attemptMore attempt made remaining).run handler s =
      (attemptMore (ofActs handler attempt) made remaining).run s := by
  induction remaining generalizing made s with
  | zero => rfl
  | succ remaining ih =>
    have hattempt : (ofActs handler attempt (made + 1)).run s =
        (attempt (made + 1)).run handler s := rfl
    rw [attemptMore, attemptMore, Act.run_bind, StateT.run_bind, hattempt]
    cases (attempt (made + 1)).run handler s with
    | mk reply s' =>
      cases reply with
      | ok value => rfl
      | error error =>
        change Act.run handler (if error.isConflict then _ else _) s' =
          (if error.isConflict then _ else _ : StateM σ (Except RetryFailure α)).run s'
        cases error.isConflict with
        | true => exact ih (made + 1) s'
        | false => rfl

/-- Attempts that make calls are retried like all others: with the calls answered by a handler, they
are attempts on its state. -/
theorem run_retryOnConflict_acts (handler : Act.Handler σ) (policy : RetryPolicy)
    (attempt : Nat → Act (Except StoreError α)) (s : σ) :
    (retryOnConflict policy attempt).run handler s =
      (retryOnConflict policy (ofActs handler attempt)).run s :=
  run_attemptMore_acts handler attempt 0 (max policy.maxAttempts 1) s

end Attempt

end TribunalListing
