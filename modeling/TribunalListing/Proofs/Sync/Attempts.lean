-- SUMMARY: What the exchanges of a write-back show: bounded attempts, at most one write, at most one cancellation.
import TribunalListing.Proofs.Exchange.Runs
import TribunalListing.Sync.WriteBack

/-!
# Attempts of a write-back

An attempt ends with its first call that fails, and with a write that is accepted. So an attempt
that comes too late shows exactly one conflict and no write, and a series of attempts shows as many
conflicts as there were attempts that came too late. All of them came too late exactly if the
conflicts reach the number of attempts that were allowed; only then is a hearing cancelled.
-/

namespace TribunalListing

open Act

variable {es : List Exchange}

/-! ## One attempt -/

namespace WriteBack

/-- The call that an attempt reads the case with. -/
abbrev readCall (w : WriteBack) : StoreCall :=
  .read w.caseId

/-- The call that an attempt writes the case with, after it has read one and merged into it. -/
abbrev writeCall (w : WriteBack) (current : VersionedCase) (updated : CaseSnapshot) : StoreCall :=
  .write w.caseId updated current.version
    (w.outcome.auditEvent w.caseId w.actor w.cause current.snapshot updated)

theorem runs_follow_iff {w : WriteBack} {current : VersionedCase} {r : Except StoreError Int} :
    Runs (w.follow current) es r ↔
      (w.outcome.mergeInto current.snapshot = none ∧ es = [] ∧ r = .ok current.version) ∨
      (∃ updated, w.outcome.mergeInto current.snapshot = some updated ∧
        es = [⟨.store (w.writeCall current updated), r⟩]) := by
  unfold follow
  cases hm : w.outcome.mergeInto current.snapshot with
  | none => simpa using runs_pure_iff
  | some updated => simpa [writeCall] using runs_store_iff

/-- The runs of one attempt: the case cannot be read, it has the outcome in it already, or what was
merged is written and the store's reply is the result. -/
theorem runs_attempt_iff {w : WriteBack} {r : Except StoreError Int} :
    Runs w.attempt es r ↔
      (∃ error, es = [⟨.store w.readCall, .error error⟩] ∧ r = .error error) ∨
      (∃ current, w.outcome.mergeInto current.snapshot = none ∧
        es = [⟨.store w.readCall, .ok current⟩] ∧ r = .ok current.version) ∨
      (∃ current updated, w.outcome.mergeInto current.snapshot = some updated ∧
        es = [⟨.store w.readCall, .ok current⟩, ⟨.store (w.writeCall current updated), r⟩]) := by
  unfold attempt
  rw [runs_bind_iff]
  constructor
  · rintro ⟨es₁, reply, es₂, rfl, h₁, h₂⟩
    obtain rfl := runs_store_iff.mp h₁
    cases reply with
    | error error =>
      obtain ⟨rfl, rfl⟩ := runs_pure_iff.mp h₂
      exact .inl ⟨error, rfl, rfl⟩
    | ok current =>
      rcases runs_follow_iff.mp h₂ with ⟨hm, rfl, rfl⟩ | ⟨updated, hm, rfl⟩
      · exact .inr (.inl ⟨current, hm, rfl, rfl⟩)
      · exact .inr (.inr ⟨current, updated, hm, rfl⟩)
  · rintro (⟨error, rfl, rfl⟩ | ⟨current, hm, rfl, rfl⟩ | ⟨current, updated, hm, rfl⟩)
    · exact ⟨_, .error error, [], rfl, runs_store_iff.mpr rfl, .done _⟩
    · exact ⟨_, .ok current, [], rfl, runs_store_iff.mpr rfl,
        runs_follow_iff.mpr (.inl ⟨hm, rfl, rfl⟩)⟩
    · exact ⟨[_], .ok current, [_], rfl, runs_store_iff.mpr rfl,
        runs_follow_iff.mpr (.inr ⟨updated, hm, rfl⟩)⟩

/-- An attempt changes no hearing. It shows a conflict exactly if it came too late, and a write only
if it succeeded, with the version that it gives. -/
theorem attempt_shows {w : WriteBack} {r : Except StoreError Int} (h : Runs w.attempt es r) :
    changes es = [] ∧
      ((∃ version, r = .ok version ∧ conflicts es = 0 ∧ (writes es = [] ∨ writes es = [version])) ∨
        ∃ error, r = .error error ∧ conflicts es = (if error.isConflict then 1 else 0) ∧
          writes es = []) := by
  rcases runs_attempt_iff.mp h with
    ⟨error, rfl, rfl⟩ | ⟨current, _, rfl, rfl⟩ | ⟨current, updated, _, rfl⟩
  · exact ⟨rfl, .inr ⟨error, rfl, (conflicts_store_error _ _ _).trans (Nat.zero_add _), rfl⟩⟩
  · exact ⟨rfl, .inl ⟨current.version, rfl, rfl, .inl rfl⟩⟩
  · refine ⟨rfl, ?_⟩
    cases r with
    | ok version => exact .inl ⟨version, rfl, rfl, .inr rfl⟩
    | error error =>
      have hconflicts := (conflicts_store_ok w.readCall current _).trans
        (conflicts_store_error (w.writeCall current updated) error [])
      exact .inr ⟨error, rfl, hconflicts.trans (Nat.zero_add _), rfl⟩

/-! ## All attempts -/

/-- Up to `remaining` attempts change no hearing. They give up exactly if each of them showed a
conflict; otherwise they show fewer, and a write only if one of them succeeded. -/
theorem attemptMore_shows {w : WriteBack} {made remaining : Nat} {r : Except RetryFailure Int}
    (h : Runs (attemptMore (fun _ => w.attempt) made remaining) es r) :
    changes es = [] ∧
      ((∃ version, r = .ok version ∧ conflicts es < remaining ∧
          (writes es = [] ∨ writes es = [version])) ∨
        (∃ error, r = .error (.fatal error) ∧ conflicts es < remaining ∧ writes es = []) ∨
        (r = .error (.exhausted (made + remaining)) ∧ conflicts es = remaining ∧
          writes es = [])) := by
  induction remaining generalizing made es with
  | zero =>
    obtain ⟨rfl, rfl⟩ := runs_pure_iff.mp h
    exact ⟨rfl, .inr (.inr ⟨rfl, rfl, rfl⟩)⟩
  | succ remaining ih =>
    obtain ⟨es₁, result, es₂, rfl, h₁, h₂⟩ := runs_bind_iff.mp h
    obtain ⟨hchanges, ⟨version, rfl, hconflicts, hwrites⟩ | ⟨error, rfl, hconflicts, hwrites⟩⟩ :=
      attempt_shows h₁
    · obtain ⟨rfl, rfl⟩ := runs_pure_iff.mp h₂
      refine ⟨by simpa using hchanges, .inl ⟨version, rfl, ?_, by simpa using hwrites⟩⟩
      simp [hconflicts]
    · -- a conflict uses up one attempt and the rest goes on, anything else ends the series
      by_cases hc : error.isConflict = true
      · simp only [hc, if_true] at h₂ hconflicts
        obtain ⟨hchanges', hrest⟩ := ih h₂
        refine ⟨by simp [hchanges, hchanges'], ?_⟩
        rcases hrest with ⟨version, rfl, hlt, hw⟩ | ⟨error', rfl, hlt, hw⟩ | ⟨rfl, heq, hw⟩
        · exact .inl ⟨version, rfl, by simp; omega, by simpa [hwrites] using hw⟩
        · exact .inr (.inl ⟨error', rfl, by simp; omega, by simp [hwrites, hw]⟩)
        · exact .inr (.inr ⟨by congr 2; omega, by simp; omega, by simp [hwrites, hw]⟩)
      · simp only [hc] at h₂ hconflicts
        obtain ⟨rfl, rfl⟩ := runs_pure_iff.mp h₂
        refine ⟨by simpa using hchanges, .inr (.inl ⟨error, rfl, ?_, by simpa using hwrites⟩)⟩
        simp [hconflicts]

/-! ## Attempts and compensation -/

/-- The cancellation of the hearing that a write-back is about. -/
def cancellation (w : WriteBack) (reply : Except ServiceError HearingReply) : Change :=
  ⟨.cancel w.outcome.hearing.hearingId (.because .other), reply⟩

/-- How many attempts a write-back is allowed. -/
def allowed (w : WriteBack) : Nat :=
  max w.policy.maxAttempts 1

theorem runs_compensate_iff {w : WriteBack} {accepted : Bool} :
    Runs w.compensate es accepted ↔
      ∃ reply : Except ServiceError HearingReply, accepted = reply.isOk ∧
        es = [⟨.service (.cancel w.outcome.hearing.hearingId (.because .other)), reply⟩] := by
  unfold compensate
  rw [runs_bind_iff]
  constructor
  · rintro ⟨es₁, reply, es₂, rfl, h₁, h₂⟩
    obtain rfl := runs_service_iff.mp h₁
    cases reply <;> obtain ⟨rfl, rfl⟩ := runs_pure_iff.mp h₂ <;> exact ⟨_, rfl, rfl⟩
  · rintro ⟨reply, rfl, rfl⟩
    refine ⟨_, reply, [], rfl, runs_service_iff.mpr rfl, ?_⟩
    cases reply <;> exact .done _

/-- What a write-back shows. It succeeds, or the store fails it, with fewer conflicts than attempts
allowed and without a change of a hearing. Or every attempt showed a conflict; then the hearing is
cancelled once, unless the outcome was a cancellation itself, and the error says whether the
cancellation was accepted. Only a write-back that succeeds shows a write, and never more than
one. -/
theorem perform_shows {w : WriteBack} {r : Except EngineError Int} (h : Runs w.perform.run es r) :
    (∃ version, r = .ok version ∧ changes es = [] ∧ conflicts es < w.allowed ∧
        (writes es = [] ∨ writes es = [version])) ∨
      (∃ source, r = .error (w.error (.caseStore source)) ∧ changes es = [] ∧
        conflicts es < w.allowed ∧ writes es = []) ∨
      (∃ reply? : Option (Except ServiceError HearingReply),
        r = .error (w.error (.syncExhausted w.outcome.hearing.hearingId w.allowed
          (reply?.any (·.isOk)))) ∧
        changes es = (reply?.map w.cancellation).toList ∧
        (reply?.isSome ↔ w.outcome.action ≠ .cancel) ∧
        conflicts es = w.allowed ∧ writes es = []) := by
  unfold perform at h
  obtain ⟨es₁, result, es₂, rfl, h₁, h₂⟩ := runs_work_lift_bind_iff.mp h
  obtain ⟨hchanges, hshows⟩ := @attemptMore_shows es₁ w 0 w.allowed _ h₁
  rw [Nat.zero_add] at hshows
  rcases hshows with ⟨version, rfl, hconflicts, hwrites⟩ | ⟨error, rfl, hconflicts, hwrites⟩ |
    ⟨rfl, hconflicts, hwrites⟩
  · obtain ⟨rfl, rfl⟩ := runs_work_pure_iff.mp h₂
    rw [List.append_nil]
    exact .inl ⟨version, rfl, hchanges, hconflicts, hwrites⟩
  · obtain ⟨rfl, rfl⟩ := runs_work_throw_iff.mp h₂
    rw [List.append_nil]
    exact .inr (.inl ⟨error, rfl, hchanges, hconflicts, hwrites⟩)
  · -- the attempts are used up; what follows depends on what the outcome was of
    refine .inr (.inr ?_)
    by_cases hc : w.outcome.action = .cancel
    · simp only [hc, if_true, pure_bind] at h₂
      obtain ⟨rfl, rfl⟩ := runs_work_throw_iff.mp h₂
      rw [List.append_nil]
      exact ⟨none, rfl, hchanges, by simp [hc], hconflicts, hwrites⟩
    · simp only [hc, if_false] at h₂
      obtain ⟨es₃, accepted, es₄, rfl, h₃, h₄⟩ := runs_work_lift_bind_iff.mp h₂
      obtain ⟨reply, rfl, rfl⟩ := runs_compensate_iff.mp h₃
      obtain ⟨rfl, rfl⟩ := runs_work_throw_iff.mp h₄
      rw [List.append_nil, changes_append, conflicts_append, writes_append]
      refine ⟨some reply, rfl, ?_, by simp [hc], ?_, ?_⟩
      · rw [hchanges]
        rfl
      · rw [hconflicts]
        rfl
      · rw [hwrites]
        rfl

/-! ## Calls of a write-back -/

section

variable {w : WriteBack}

theorem makes_attempt : Makes (·.isRoutine) w.attempt := by
  refine Makes.bind (P := (·.isRoutine)) (.store rfl) fun reply => ?_
  cases reply with
  | error error => exact .done _
  | ok current =>
    show Makes _ (w.follow current)
    unfold follow
    split
    next => exact .done _
    next => exact .store rfl

theorem makes_attemptMore (made remaining : Nat) :
    Makes (·.isRoutine) (attemptMore (fun _ => w.attempt) made remaining) := by
  induction remaining generalizing made with
  | zero => exact .done _
  | succ remaining ih =>
    refine makes_attempt.bind fun result => ?_
    cases result with
    | ok version => exact .done _
    | error error =>
      show Makes _ (if error.isConflict then _ else _)
      split
      next => exact ih (made + 1)
      next => exact .done _

theorem makes_compensate : Makes (·.isRoutine) w.compensate := by
  refine Makes.bind (P := (·.isRoutine)) (.service rfl) fun reply => ?_
  cases reply <;> exact .done _

/-- A write-back neither asks for a new hearing nor lists hearings. -/
theorem makes_perform : Makes (·.isRoutine) w.perform.run := by
  unfold perform
  refine (makes_attemptMore 0 _).lift_bind fun result => ?_
  rcases result with (⟨attempts⟩ | source) | version
  · by_cases hcancel : w.outcome.action = .cancel
    · simp only [hcancel, if_true]
      exact .done _
    · simp only [hcancel, if_false]
      exact makes_compensate.lift_bind fun _ => .done _
  · exact .done _
  · exact .done _

end

end WriteBack

end TribunalListing
