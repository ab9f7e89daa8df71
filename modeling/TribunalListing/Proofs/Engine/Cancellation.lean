-- SUMMARY: A cancellation goes by the duration that a request would carry, and by nothing else.
import TribunalListing.Proofs.Engine.Changes
import TribunalListing.Proofs.Request.Duration

/-!
# Cancelling

A cancellation sends no request, and so it derives none. All it derives is the duration of the
hearing, which has to be one that a request could carry. So whatever else is wrong with the case, in
its languages, venues, channels, panel or party ids, does not keep a hearing from being cancelled,
while a duration that stops the cancellation would stop every request of the case, too.
-/

namespace TribunalListing

open Act

variable {e : Engine} {caseId : String} {cause : Cause} {reason : CancellationReason}
  {rest : List Exchange} {r : Except EngineError SyncResult} {current : VersionedCase}
  {target : HearingRecord}

/-- With the case read and a hearing outstanding, the duration decides: if it does not pass, nothing
more is called, and if it does, the hearing is cancelled and the reply followed up. -/
theorem runs_cancel_of_read
    (h : Runs (e.cancel caseId reason cause).run (⟨.store (.read caseId), .ok current⟩ :: rest) r)
    (htarget : current.snapshot.hearings.latestOutstanding? = some target) :
    (∃ source, effectiveDuration current.snapshot e.reference = .error source ∧ rest = [] ∧
        r = .error ⟨caseId, HearingAction.cancel.name, .derivation source⟩) ∨
      ∃ duration reply after written,
        effectiveDuration current.snapshot e.reference = .ok duration ∧
        rest = ⟨.service (.cancel target.hearingId (.because reason)), reply⟩ :: after ∧
        FollowedUp e caseId cause .cancel reply after written r := by
  rcases runs_work_bind_iff.mp h with ⟨error, -, hread⟩ | ⟨c, es₁, es₂, hes, hread, hafter⟩
  · rcases runs_readCase hread with ⟨source, hes, -⟩ | ⟨_, -, hok⟩
    · cases hes
    · cases hok
  rcases runs_readCase hread with ⟨source, -, herror⟩ | ⟨read, rfl, hok⟩
  · cases herror
  cases hes
  obtain rfl := Except.ok.inj hok
  rcases runs_work_bind_iff.mp hafter with
    ⟨error, -, hfound⟩ | ⟨found, es₁, es₂, rfl, hfound, hcancel⟩
  · obtain ⟨-, hnone | ⟨_, -, hok⟩⟩ := runs_outstandingHearing hfound
    · -- the hearing that is outstanding would have been found
      rw [outstandingHearing, htarget] at hfound
      cases (runs_work_pure_iff.mp hfound).2
    · cases hok
  obtain ⟨rfl, herror | ⟨found', hfound', hok'⟩⟩ := runs_outstandingHearing hfound
  · cases herror
  obtain rfl := Except.ok.inj hok'
  obtain rfl := Option.some.inj (htarget.symm.trans hfound')
  rcases runs_work_bind_iff.mp hcancel with
    ⟨error, rfl, hduration⟩ | ⟨_, es₁, es₂, rfl, hduration, hsent⟩
  · obtain ⟨rfl, ⟨source, hsource, herror⟩ | ⟨_, -, hok⟩⟩ := runs_derive hduration
    · cases herror
      exact .inl ⟨source, hsource, rfl, rfl⟩
    · cases hok
  · obtain ⟨rfl, ⟨_, -, herror⟩ | ⟨duration, hvalue, -⟩⟩ := runs_derive hduration
    · cases herror
    · obtain ⟨reply, after, written, rfl, hfollowed⟩ := followedUp_of_runs
        (x := fun reply => ⟨.service (.cancel target.hearingId (.because reason)), reply⟩)
        runs_askService hsent
      exact .inr ⟨duration, reply, after, written, hvalue, rfl, hfollowed⟩

/-- What follows on a change derives nothing. -/
theorem FollowedUp.failure_ne_derivation {action : HearingAction}
    {reply : Except ServiceError HearingReply} {after : List Exchange}
    {written : Option (Except EngineError Int)} {error : EngineError} {source : DerivationError}
    (h : FollowedUp e caseId cause action reply after written r) (hr : r = .error error) :
    error.failure ≠ .derivation source := by
  intro hfailure
  cases h.ending with
  | refused | failed =>
    cases hr
    cases hfailure
  | applied => cases hr
  | exhausted reply? herror =>
    cases hr
    rw [herror] at hfailure
    cases hfailure

/-- Requests and cancellations judge one and the same duration, the one that applies to the case. It
can be resolved exactly if it is a multiple of five minutes. A request that can be derived carries
it and passes the final check, and where it cannot be resolved no request can be derived. Once the
case is read and a hearing of it is outstanding, the call that cancels the hearing is made exactly
if the duration is a multiple of five minutes, and no derivation but that of the duration can
fail. -/
theorem duration_judged_alike (c : CaseSnapshot) (reference : ReferenceData)
    (options : DerivationOptions) (version : Option Int64) :
    (∀ duration, effectiveDuration c reference = .ok duration ↔
      duration = c.effectiveMinutes reference ∧ 5 ∣ duration.toNat) ∧
    (∀ a, assembleRequest c reference options version = .ok a →
      effectiveDuration c reference = .ok a.request.hearing.duration ∧
        a.request.check = .ok ()) ∧
    (∀ source, effectiveDuration c reference = .error source →
      ∃ source', assembleRequest c reference options version = .error source') ∧
    ∀ (e : Engine) (caseId : String) (reason : CancellationReason) (cause : Cause)
      (current : VersionedCase) (target : HearingRecord) (rest : List Exchange)
      (r : Except EngineError SyncResult),
      Runs (e.handle caseId (.cancelHearing reason) cause).run
        (⟨.store (.read caseId), .ok current⟩ :: rest) r →
      current.snapshot.hearings.latestOutstanding? = some target →
      ((∃ x ∈ rest, x.call = .service (.cancel target.hearingId (.because reason))) ↔
        5 ∣ (current.snapshot.effectiveMinutes e.reference).toNat) ∧
      ∀ error source, r = .error error → error.failure = .derivation source →
        ∃ origin, source =
          .durationNotMultipleOfFive (current.snapshot.effectiveMinutes e.reference) origin := by
  refine ⟨fun _ => effectiveDuration_eq_ok_iff,
    fun a h => ⟨duration_of_assembleRequest h, check_of_assembleRequest h⟩, ?blocked, ?cancel⟩
  case blocked =>
    intro source hsource
    cases h : assembleRequest c reference options version with
    | error source' => exact ⟨source', rfl⟩
    | ok a =>
      rw [duration_of_assembleRequest h] at hsource
      cases hsource
  case cancel =>
    intro e caseId reason cause current target rest r h htarget
    rcases runs_cancel_of_read h htarget with ⟨source, hsource, rfl, rfl⟩ |
      ⟨duration, reply, after, written, hduration, rfl, hfollowed⟩
    · obtain ⟨horigin, hdvd⟩ := effectiveDuration_eq_error hsource
      refine ⟨⟨by simp, fun hdvd' => absurd hdvd' hdvd⟩, ?_⟩
      rintro _ _ ⟨⟩ ⟨⟩
      exact horigin
    · obtain ⟨rfl, hdvd⟩ := effectiveDuration_eq_ok_iff.mp hduration
      refine ⟨⟨fun _ => hdvd, fun _ => ⟨_, List.mem_cons_self, rfl⟩⟩, ?_⟩
      intro error source hr hfailure
      exact absurd hfailure (hfollowed.failure_ne_derivation hr)

/-- A case for which no request can be derived: its language and its category of sessions are not
known, it has no venue, and no number is left for its representative. -/
def hopelessCase : CaseSnapshot where
  caseId := "1"
  benefitCode := "002"
  issueCode := "DD"
  appellant := {
    id := some "18446744073709551615"
    hearingOptions := { languageInterpreter := some .yes, language := some "Old Norse" } }
  representative := some { hasRepresentative := some .yes }
  hearings := [⟨"h", 1, .listed⟩]

/-- An engine without any reference data. -/
def blankEngine : Engine := ⟨ReferenceTables.data {}, {}⟩

/-- A rehearsal in which the hearing service accepts one cancellation. -/
def cancelRehearsal : Rehearsal where
  shelf := [("1", ⟨hopelessCase, 1⟩)]
  cast := { script := { cancel := [⟨none, .ok ⟨"h", 1, .cancellationRequested⟩⟩] } }

/-- The hearing of the case is cancelled all the same. -/
theorem duration_judged_alike_hopeless :
    (∃ source, assembleRequest hopelessCase blankEngine.reference {} none = .error source) ∧
    ∃ rest r, Runs (blankEngine.handle "1" (.cancelHearing .withdrawn) ⟨"1", "withdrawn"⟩).run
        (⟨.store (.read "1"), .ok ⟨hopelessCase, 1⟩⟩ :: rest) r ∧
      ∃ x ∈ rest, x.call = .service (.cancel "h" (.because .withdrawn)) := by
  refine ⟨⟨_, rfl⟩, ?_⟩
  obtain ⟨rest, r, h⟩ : ∃ rest r,
      Runs (blankEngine.handle "1" (.cancelHearing .withdrawn) ⟨"1", "withdrawn"⟩).run
        (⟨.store (.read "1"), .ok ⟨hopelessCase, 1⟩⟩ :: rest) r :=
    ⟨_, _, runs_trace Rehearsal.handler _ cancelRehearsal⟩
  have hjudged := (duration_judged_alike hopelessCase blankEngine.reference {} none).2.2.2 _ _ _ _ _
    ⟨"h", 1, .listed⟩ _ _ h rfl
  exact ⟨rest, r, h, hjudged.1.mpr (by decide)⟩

end TribunalListing
