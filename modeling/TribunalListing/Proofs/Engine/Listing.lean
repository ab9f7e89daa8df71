-- SUMMARY: A create that is shown an outstanding hearing updates it, the last one listed, and never asks for another.
import TribunalListing.Proofs.Engine.Changes

/-!
# Creating with a listing

Before it asks for a hearing, a create has the hearing service list the hearings of the case. If one
of them can be updated, the last one that can is updated instead, at the version that was listed.
The update is made exactly if the request can be derived.
-/

namespace TribunalListing

open Act

variable {e : Engine} {caseId : String} {cause : Cause} {es : List Exchange} {c : CaseSnapshot}
  {clearAdjournment : Bool} {r : Except EngineError SyncResult} {listed : List ListedHearing}

/-! ## The last hearing that can be updated -/

/-- Where nothing is found, no listed hearing can be updated. -/
theorem lastUpdatable?_eq_none_iff :
    lastUpdatable? listed = none ↔ ∀ hearing ∈ listed, hearing.isUpdatable = false := by
  unfold lastUpdatable?
  rw [List.findSome?_eq_none_iff]
  simp only [List.mem_reverse]
  refine forall₂_congr fun hearing _ => ?_
  cases hupdatable : hearing.isUpdatable with
  | false => simp
  | true =>
    have hversion : hearing.requestVersion.isSome = true := (Bool.and_eq_true_iff.mp hupdatable).2
    simpa using Option.ne_none_iff_isSome.mpr hversion

/-- What is found is the last listed hearing that can be updated, with its listed version. -/
theorem exists_last_updatable {hearingId : String} {version : Int64}
    (h : lastUpdatable? listed = some (hearingId, version)) :
    ∃ front last back, listed = front ++ last :: back ∧ last.hearingId = hearingId ∧
      last.status.isOutstanding = true ∧ last.requestVersion = some version ∧
      ∀ hearing ∈ back, hearing.isUpdatable = false := by
  unfold lastUpdatable? at h
  obtain ⟨back, last, front, hreverse, hlast, hback⟩ := List.findSome?_eq_some_iff.mp h
  have hlisted : listed = front.reverse ++ last :: back.reverse := by
    rw [← List.reverse_reverse listed, hreverse]
    simp
  split at hlast
  next hupdatable =>
    obtain ⟨version', hversion, hpair⟩ := Option.map_eq_some_iff.mp hlast
    obtain ⟨hid, rfl⟩ := Prod.mk.inj hpair
    refine ⟨front.reverse, last, back.reverse, hlisted, hid, (Bool.and_eq_true_iff.mp hupdatable).1,
      hversion, ?_⟩
    -- nothing was found in what stands behind it
    refine lastUpdatable?_eq_none_iff.mp ?_
    unfold lastUpdatable?
    rw [List.reverse_reverse, List.findSome?_eq_none_iff]
    exact hback
  next => cases hlast

/-! ## Calls of the steps -/

section

variable {P : Call → Prop}

theorem makes_derive {α : Type} {action : String} {value : Derived α} :
    Makes P (derive caseId action value).run := by
  unfold derive
  cases value <;> exact .done _

theorem makes_outstandingHearing {action : String} :
    Makes P (outstandingHearing caseId action c).run := by
  unfold outstandingHearing
  cases c.hearings.latestOutstanding? <;> exact .done _

theorem makes_askService {action : String} {call : ServiceCall} (h : P (.service call)) :
    Makes P (askService caseId action call).run := by
  unfold askService
  refine (Makes.service h).lift_bind fun reply => ?_
  cases reply <;> exact .done _

theorem makes_readCase {action : String} (h : P (.store (.read caseId))) :
    Makes P (readCase caseId action).run := by
  unfold readCase
  refine (Makes.store h).lift_bind fun reply => ?_
  cases reply <;> exact .done _

end

theorem makes_writeBack {action : HearingAction} {reply : HearingReply} {derived : CaseSnapshot} :
    Makes (·.isRoutine) (e.writeBack caseId action reply derived clearAdjournment cause).run := by
  unfold Engine.writeBack
  exact WriteBack.makes_perform.work_bind fun _ => .done _

theorem makes_updateHearing {hearingId : String} {version : Int64} :
    Makes (·.isRoutine)
      (e.updateHearing caseId c hearingId version clearAdjournment cause).run := by
  unfold Engine.updateHearing
  exact makes_derive.work_bind fun _ => (makes_askService (by rfl)).work_bind fun _ =>
    makes_writeBack

theorem makes_update : Makes (·.isRoutine) (e.update caseId cause).run := by
  unfold Engine.update
  exact (makes_readCase (by rfl)).work_bind fun _ => makes_outstandingHearing.work_bind fun _ =>
    (makes_askService (by rfl)).work_bind fun _ => makes_updateHearing

theorem makes_cancel {reason : CancellationReason} :
    Makes (·.isRoutine) (e.cancel caseId reason cause).run := by
  unfold Engine.cancel
  exact (makes_readCase (by rfl)).work_bind fun _ => makes_outstandingHearing.work_bind fun _ =>
    makes_derive.work_bind fun _ => (makes_askService (by rfl)).work_bind fun _ => makes_writeBack

/-- Asking for a hearing comes after the look-up, and makes none of its own. -/
theorem makes_requestHearing :
    Makes (· ≠ .service (.list caseId))
      (e.requestHearing caseId c clearAdjournment cause).run := by
  unfold Engine.requestHearing
  refine makes_derive.work_bind fun _ => (makes_askService (by simp)).work_bind fun _ => ?_
  refine makes_writeBack.mono ?_
  rintro _ hroutine rfl
  cases hroutine

/-! ## Updating what is listed -/

/-- A derived request carries the version that it was derived for. -/
theorem Engine.versionNumber_of_derivedRequest {version : Option Int64} {a : AssembledRequest}
    (h : e.derivedRequest c version = .ok a) : a.request.request.versionNumber = version := by
  obtain ⟨-, hrequest⟩ := assembleRequest_eq_ok (Engine.assembleRequest_of_derivedRequest h)
  obtain ⟨_, _, _, _, -, -, -, -, -, hparts⟩ := requestFor_eq_ok hrequest
  exact congrArg (·.request.versionNumber) hparts

/-- The trigger is an adjournment. -/
def Trigger.isAdjournment : Trigger → Bool
  | .adjournCreateHearing => true
  | .createHearing | .updateHearing | .cancelHearing _ | .ignored => false

/-- The case as a create derives its request from it: with the adjournment in progress, if it is for
an adjournment. -/
def CaseSnapshot.adjournedIf (adjourn : Bool) (c : CaseSnapshot) : CaseSnapshot :=
  if adjourn then { c with adjournment.inProgress := true } else c

/-- The listing of a create is the one that it looks hearings up in. -/
theorem runs_create_listed {adjourn : Bool}
    (h : Runs (e.create caseId adjourn cause).run es r)
    (hlisted : ⟨.service (.list caseId), .ok listed⟩ ∈ es) :
    ∃ (current : VersionedCase) (rest : List Exchange),
      es = ⟨.store (.read caseId), .ok current⟩ :: ⟨.service (.list caseId), .ok listed⟩ :: rest ∧
      Runs (match lastUpdatable? listed with
        | some (hearingId, version) =>
          e.updateHearing caseId (current.snapshot.adjournedIf adjourn) hearingId version adjourn
            cause
        | none =>
          e.requestHearing caseId (current.snapshot.adjournedIf adjourn) adjourn cause).run rest
        r := by
  unfold Engine.create at h
  rcases runs_work_bind_iff.mp h with ⟨error, rfl, h₁⟩ | ⟨_, es₁, es₂, rfl, h₁, h₂⟩
  · rcases runs_readCase h₁ with ⟨_, rfl, -⟩ | ⟨_, rfl, -⟩ <;> simp at hlisted
  · rcases runs_readCase h₁ with ⟨_, _, herror⟩ | ⟨current, rfl, hok⟩
    · cases herror
    · obtain rfl := Except.ok.inj hok
      replace hlisted : ⟨.service (.list caseId), .ok listed⟩ ∈ es₂ := by simpa using hlisted
      rcases runs_work_bind_iff.mp h₂ with ⟨error, rfl, h₃⟩ | ⟨found, es₃, es₄, rfl, h₃, h₄⟩
      · obtain ⟨reply, rfl, ⟨_, _, hok⟩ | ⟨source, rfl, -⟩⟩ := runs_findUpdatable h₃
        · cases hok
        · simp at hlisted
      · obtain ⟨reply, rfl, hfound⟩ := runs_findUpdatable h₃
        rcases List.mem_cons.mp hlisted with hreply | hmem
        · cases hreply
          rcases hfound with ⟨_, hlist, hok⟩ | ⟨_, herror, -⟩
          · obtain rfl := Except.ok.inj hlist
            obtain rfl := Except.ok.inj hok
            exact ⟨current, es₄, rfl, h₄⟩
          · cases herror
        · -- nothing that comes after the look-up lists hearings
          cases found with
          | none => exact absurd rfl (makes_requestHearing.forall_mem h₄ _ hmem)
          | some target =>
            have hroutine : Call.isRoutine (.service (.list caseId)) = true :=
              makes_updateHearing.forall_mem h₄ _ hmem
            cases hroutine

/-- A create that is shown a hearing that can be updated asks for no hearing. It makes a change
exactly if the request can be derived, and the change is an update of the last such hearing, at the
version that was listed. All that can follow is the cancellation that makes up for it. -/
theorem create_updates_last_listed {adjourn : Bool}
    (h : Runs (e.create caseId adjourn cause).run es r)
    (hlisted : ⟨.service (.list caseId), .ok listed⟩ ∈ es)
    (hupdatable : ∃ hearing ∈ listed, hearing.isUpdatable = true) :
    ∃ (current : VersionedCase) (front : List ListedHearing) (last : ListedHearing)
        (back : List ListedHearing) (version : Int64),
      es.head? = some ⟨.store (.read caseId), .ok current⟩ ∧ listed = front ++ last :: back ∧
      last.status.isOutstanding = true ∧ last.requestVersion = some version ∧
      (∀ hearing ∈ back, hearing.isUpdatable = false) ∧
      ((∃ source,
          e.derivedRequest (current.snapshot.adjournedIf adjourn) (some version) = .error source ∧
          changes es = [] ∧
          r = .error ⟨caseId, HearingAction.update.name, .derivation source⟩) ∨
        ∃ (a : AssembledRequest) (reply : Except ServiceError HearingReply)
            (compensation? : Option Change),
          e.derivedRequest (current.snapshot.adjournedIf adjourn) (some version) = .ok a ∧
          a.request.request.versionNumber = some version ∧
          changes es = ⟨.update last.hearingId a.request, reply⟩ :: compensation?.toList ∧
          ∀ compensation ∈ compensation?, compensation.call.action? = some .cancel) := by
  obtain ⟨current, rest, rfl, hrest⟩ := runs_create_listed h hlisted
  rcases hfound : lastUpdatable? listed with _ | ⟨hearingId, version⟩
  · obtain ⟨hearing, hmem, htrue⟩ := hupdatable
    rw [lastUpdatable?_eq_none_iff.mp hfound hearing hmem] at htrue
    cases htrue
  · rw [hfound] at hrest
    obtain ⟨front, last, back, hsplit, rfl, houtstanding, hversion, hback⟩ :=
      exists_last_updatable hfound
    refine ⟨current, front, last, back, version, rfl, hsplit, houtstanding, hversion, hback, ?_⟩
    rcases runs_updateHearing hrest with ⟨source, hderived, rfl, rfl⟩ |
      ⟨a, reply, after, written, hderived, rfl, hfollowed⟩
    · exact .inl ⟨source, hderived, rfl, rfl⟩
    · obtain ⟨compensation?, hafter, -, hcancels, -⟩ := hfollowed.ending.compensation
      have hnumber := Engine.versionNumber_of_derivedRequest hderived
      refine .inr ⟨a, reply, compensation?, hderived, hnumber, ?_, ?_⟩
      · rw [← hafter]
        rfl
      · intro compensation hmem
        obtain ⟨accepted, -, hcall⟩ := hcancels compensation hmem
        rw [hcall]
        rfl

end TribunalListing
