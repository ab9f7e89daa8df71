-- SUMMARY: One unit of work changes at most one hearing, and cancels it again only if the case could not be written.
import TribunalListing.Engine
import TribunalListing.Exchange.Rehearsal
import TribunalListing.Proofs.Request.Derivation
import TribunalListing.Proofs.Sync.Attempts
import TribunalListing.Reference.Tables

/-!
# Changes of hearings in a unit of work

Whatever the hearing service and the case store reply, a unit of work either stops before it has
changed anything, or makes exactly one change. Only a change that was accepted is written back, and
only when every attempt to write it back came too late is the hearing cancelled again. The steps of
a unit of work are taken one by one: each has a lemma that says what its runs are, and `Course` says
how they add up.
-/

namespace TribunalListing

open Act

variable {e : Engine} {caseId : String} {cause : Cause} {es : List Exchange}

/-! ## Runs of the steps -/

theorem runs_askService {action : String} {c : ServiceCall} {r : Except EngineError c.Answer}
    (h : Runs (askService caseId action c).run es r) :
    (∃ source, es = [⟨.service c, .error source⟩] ∧
        r = .error ⟨caseId, action, .hearingService source⟩) ∨
      ∃ answer, es = [⟨.service c, .ok answer⟩] ∧ r = .ok answer := by
  unfold askService at h
  obtain ⟨es₁, reply, es₂, rfl, h₁, h₂⟩ := runs_work_lift_bind_iff.mp h
  obtain rfl := runs_service_iff.mp h₁
  cases reply with
  | error source =>
    obtain ⟨rfl, rfl⟩ := runs_work_throw_iff.mp h₂
    exact .inl ⟨source, rfl, rfl⟩
  | ok answer =>
    obtain ⟨rfl, rfl⟩ := runs_work_pure_iff.mp h₂
    exact .inr ⟨answer, rfl, rfl⟩

theorem runs_readCase {action : String} {r : Except EngineError CaseSnapshot}
    (h : Runs (readCase caseId action).run es r) :
    (∃ source, es = [⟨.store (.read caseId), .error source⟩] ∧
        r = .error ⟨caseId, action, .caseStore source⟩) ∨
      ∃ current, es = [⟨.store (.read caseId), .ok current⟩] ∧ r = .ok current.snapshot := by
  unfold readCase at h
  obtain ⟨es₁, reply, es₂, rfl, h₁, h₂⟩ := runs_work_lift_bind_iff.mp h
  obtain rfl := runs_store_iff.mp h₁
  cases reply with
  | error source =>
    obtain ⟨rfl, rfl⟩ := runs_work_throw_iff.mp h₂
    exact .inl ⟨source, rfl, rfl⟩
  | ok current =>
    obtain ⟨rfl, rfl⟩ := runs_work_pure_iff.mp h₂
    exact .inr ⟨current, rfl, rfl⟩

theorem runs_derive {α : Type} {action : String} {value : Derived α} {r : Except EngineError α}
    (h : Runs (derive caseId action value).run es r) :
    es = [] ∧
      ((∃ source, value = .error source ∧ r = .error ⟨caseId, action, .derivation source⟩) ∨
        ∃ a, value = .ok a ∧ r = .ok a) := by
  unfold derive at h
  cases value with
  | error source =>
    obtain ⟨rfl, rfl⟩ := runs_work_throw_iff.mp h
    exact ⟨rfl, .inl ⟨source, rfl, rfl⟩⟩
  | ok a =>
    obtain ⟨rfl, rfl⟩ := runs_work_pure_iff.mp h
    exact ⟨rfl, .inr ⟨a, rfl, rfl⟩⟩

theorem runs_outstandingHearing {action : String} {c : CaseSnapshot}
    {r : Except EngineError HearingRecord}
    (h : Runs (outstandingHearing caseId action c).run es r) :
    es = [] ∧ (r = .error ⟨caseId, action, .noOutstandingHearing⟩ ∨
      ∃ target, c.hearings.latestOutstanding? = some target ∧ r = .ok target) := by
  unfold outstandingHearing at h
  cases ht : c.hearings.latestOutstanding? with
  | none =>
    rw [ht] at h
    obtain ⟨rfl, rfl⟩ := runs_work_throw_iff.mp h
    exact ⟨rfl, .inl rfl⟩
  | some target =>
    rw [ht] at h
    obtain ⟨rfl, rfl⟩ := runs_work_pure_iff.mp h
    exact ⟨rfl, .inr ⟨target, rfl, rfl⟩⟩

/-- A look-up is one call. It finds what the reply lists; without a reply it fails or finds nothing,
the latter only for a failure that may clear up where the policy is to proceed. -/
theorem runs_findUpdatable {r : Except EngineError (Option (String × Int64))}
    (h : Runs (e.findUpdatable caseId).run es r) :
    ∃ reply, es = [⟨.service (.list caseId), reply⟩] ∧
      ((∃ listed, reply = .ok listed ∧ r = .ok (lastUpdatable? listed)) ∨
        ∃ source, reply = .error source ∧
          ((source.isTransient ∧ e.config.lookupPolicy = .proceed ∧ r = .ok none) ∨
            r = .error ⟨caseId, HearingAction.create.name, .hearingService source⟩)) := by
  unfold Engine.findUpdatable at h
  obtain ⟨es₁, reply, es₂, rfl, h₁, h₂⟩ := runs_work_lift_bind_iff.mp h
  obtain rfl := runs_service_iff.mp h₁
  refine ⟨reply, ?_⟩
  cases reply with
  | ok listed =>
    obtain ⟨rfl, rfl⟩ := runs_work_pure_iff.mp h₂
    exact ⟨rfl, .inl ⟨listed, rfl, rfl⟩⟩
  | error source =>
    dsimp only at h₂
    split at h₂
    next hproceed =>
      obtain ⟨rfl, rfl⟩ := runs_work_pure_iff.mp h₂
      have hboth : source.isTransient = true ∧ e.config.lookupPolicy = .proceed := by
        simpa using hproceed
      exact ⟨rfl, .inr ⟨source, rfl, .inl ⟨hboth.1, hboth.2, rfl⟩⟩⟩
    next =>
      obtain ⟨rfl, rfl⟩ := runs_work_throw_iff.mp h₂
      exact ⟨rfl, .inr ⟨source, rfl, .inr rfl⟩⟩

/-- The request for a case, derived and checked against the listing rules. -/
def Engine.derivedRequest (e : Engine) (c : CaseSnapshot) (version : Option Int64) :
    Derived AssembledRequest := do
  let assembled ← assembleRequest c e.reference e.config.derivation version
  assembled.request.check
  return assembled

/-- What passes the check is what was assembled. -/
theorem Engine.assembleRequest_of_derivedRequest {c : CaseSnapshot} {version : Option Int64}
    {a : AssembledRequest} (h : e.derivedRequest c version = .ok a) :
    assembleRequest c e.reference e.config.derivation version = .ok a := by
  obtain ⟨assembled, hassembled, hchecked⟩ := derived_bind_eq_ok_iff.mp h
  obtain ⟨_, _, hok⟩ := derived_bind_eq_ok_iff.mp hchecked
  obtain rfl := Except.ok.inj hok
  exact hassembled

theorem runs_assemble {action : HearingAction} {c : CaseSnapshot} {version : Option Int64}
    {r : Except EngineError AssembledRequest}
    (h : Runs (e.assemble caseId action c version).run es r) :
    es = [] ∧
      ((∃ source, e.derivedRequest c version = .error source ∧
          r = .error ⟨caseId, action.name, .derivation source⟩) ∨
        ∃ a, e.derivedRequest c version = .ok a ∧ r = .ok a) :=
  runs_derive h

/-- A write-back of the engine is one of the reply's record; its version makes the result. -/
theorem runs_writeBack {action : HearingAction} {reply : HearingReply} {derived : CaseSnapshot}
    {clearAdjournment : Bool} {r : Except EngineError SyncResult}
    (h : Runs (e.writeBack caseId action reply derived clearAdjournment cause).run es r) :
    ∃ written,
      Runs (WriteBack.perform ⟨caseId, ⟨action, reply.record, derived, clearAdjournment⟩, cause,
        e.config.actor, e.config.retry⟩).run es written ∧
      r = written.map (.applied action reply.record ·) := by
  unfold Engine.writeBack at h
  rcases runs_work_bind_iff.mp h with ⟨error, rfl, h₁⟩ | ⟨version, es₁, es₂, rfl, h₁, h₂⟩
  · exact ⟨.error error, h₁, rfl⟩
  · obtain ⟨rfl, rfl⟩ := runs_work_pure_iff.mp h₂
    exact ⟨.ok version, by simpa using h₁, rfl⟩

/-! ## The course of a unit of work -/

/-- The unit of work ends before it comes to a change: nothing was to be done, the request could not
be derived, no hearing is outstanding, or the case or the hearings at the service could not be
read. -/
inductive StoppedEarly (caseId : String) :
    List Exchange → Except EngineError SyncResult → Prop where
  | ignored (es : List Exchange) : StoppedEarly caseId es (.ok .ignored)
  | derivation (es : List Exchange) (action : String) (source : DerivationError) :
      StoppedEarly caseId es (.error ⟨caseId, action, .derivation source⟩)
  | nothingOutstanding (es : List Exchange) (action : String) :
      StoppedEarly caseId es (.error ⟨caseId, action, .noOutstandingHearing⟩)
  | caseUnread (action : String) (source : StoreError) :
      StoppedEarly caseId [⟨.store (.read caseId), .error source⟩]
        (.error ⟨caseId, action, .caseStore source⟩)
  | listFailed (es : List Exchange) (action : String) (source : ServiceError) :
      StoppedEarly caseId (es ++ [⟨.service (.list caseId), .error source⟩])
        (.error ⟨caseId, action, .hearingService source⟩)
  | getFailed (es : List Exchange) (hearingId action : String) (source : ServiceError) :
      StoppedEarly caseId (es ++ [⟨.service (.get hearingId), .error source⟩])
        (.error ⟨caseId, action, .hearingService source⟩)

/-- What follows on a change. When the service turns it down, the unit of work ends. When it accepts
it, the reply is written back, and what comes of that makes the result. -/
inductive FollowedUp (e : Engine) (caseId : String) (cause : Cause) (action : HearingAction) :
    Except ServiceError HearingReply → List Exchange → Option (Except EngineError Int) →
      Except EngineError SyncResult → Prop where
  | refused (source : ServiceError) :
      FollowedUp e caseId cause action (.error source) [] none
        (.error ⟨caseId, action.name, .hearingService source⟩)
  | writtenBack {reply : HearingReply} {derived : CaseSnapshot} {clearAdjournment : Bool}
      {after : List Exchange} {written : Except EngineError Int} :
      Runs (WriteBack.perform ⟨caseId, ⟨action, reply.record, derived, clearAdjournment⟩, cause,
        e.config.actor, e.config.retry⟩).run after written →
      FollowedUp e caseId cause action (.ok reply) after (some written)
        (written.map (.applied action reply.record ·))

/-- How a unit of work can go: it stops early, or it makes one change and follows it up. -/
inductive Course (e : Engine) (caseId : String) (cause : Cause) :
    List Exchange → Except EngineError SyncResult → Prop where
  | stopped {es : List Exchange} {r : Except EngineError SyncResult} :
      Quiet es → StoppedEarly caseId es r → Course e caseId cause es r
  | acted {before after : List Exchange} {x : Exchange} {change : Change} {action : HearingAction}
      {written : Option (Except EngineError Int)} {r : Except EngineError SyncResult} :
      Quiet before → x.change? = some change → change.call.action? = some action →
      FollowedUp e caseId cause action change.reply after written r →
      Course e caseId cause (before ++ x :: after) r

/-- A change and its write-back, where `x` is the exchange of the change with a given reply. -/
theorem followedUp_of_runs {action : HearingAction} {p : Work HearingReply}
    {x : Except ServiceError HearingReply → Exchange} {derived : CaseSnapshot}
    {clearAdjournment : Bool} {r : Except EngineError SyncResult}
    (hp : ∀ {es : List Exchange} {r : Except EngineError HearingReply}, Runs p.run es r →
      (∃ source, es = [x (.error source)] ∧
          r = .error ⟨caseId, action.name, .hearingService source⟩) ∨
        ∃ reply, es = [x (.ok reply)] ∧ r = .ok reply)
    (h : Runs (p >>= fun reply =>
      e.writeBack caseId action reply derived clearAdjournment cause).run es r) :
    ∃ reply after written, es = x reply :: after ∧
      FollowedUp e caseId cause action reply after written r := by
  rcases runs_work_bind_iff.mp h with ⟨error, rfl, h₁⟩ | ⟨reply, es₁, es₂, rfl, h₁, h₂⟩
  · rcases hp h₁ with ⟨source, rfl, herror⟩ | ⟨reply, rfl, herror⟩
    · obtain rfl := Except.error.inj herror
      exact ⟨.error source, [], none, rfl, .refused source⟩
    · cases herror
  · rcases hp h₁ with ⟨source, rfl, hok⟩ | ⟨reply', rfl, hok⟩
    · cases hok
    · obtain rfl := Except.ok.inj hok
      obtain ⟨written, hwritten, rfl⟩ := runs_writeBack h₂
      exact ⟨.ok reply, es₂, some written, rfl, .writtenBack hwritten⟩

variable {before : List Exchange} {c : CaseSnapshot} {clearAdjournment : Bool}
  {r : Except EngineError SyncResult}

/-- A request is derived, sent by `send` and written back, where `x` is the exchange that sends it
and is given a reply. It is sent exactly if it can be derived. -/
theorem runs_sent {action : HearingAction} {version : Option Int64}
    {send : AssembledRequest → Work HearingReply}
    {x : AssembledRequest → Except ServiceError HearingReply → Exchange}
    (hsend : ∀ {a : AssembledRequest} {es : List Exchange} {r : Except EngineError HearingReply},
      Runs (send a).run es r →
      (∃ source, es = [x a (.error source)] ∧
          r = .error ⟨caseId, action.name, .hearingService source⟩) ∨
        ∃ reply, es = [x a (.ok reply)] ∧ r = .ok reply)
    (h : Runs (e.assemble caseId action c version >>= fun a => send a >>= fun reply =>
      e.writeBack caseId action reply a.case clearAdjournment cause).run es r) :
    (∃ source, e.derivedRequest c version = .error source ∧ es = [] ∧
        r = .error ⟨caseId, action.name, .derivation source⟩) ∨
      ∃ a reply after written, e.derivedRequest c version = .ok a ∧ es = x a reply :: after ∧
        FollowedUp e caseId cause action reply after written r := by
  rcases runs_work_bind_iff.mp h with ⟨error, rfl, h₁⟩ | ⟨a, es₁, es₂, rfl, h₁, h₂⟩
  · obtain ⟨rfl, ⟨source, hderived, herror⟩ | ⟨_, _, hok⟩⟩ := runs_assemble h₁
    · obtain rfl := Except.error.inj herror
      exact .inl ⟨source, hderived, rfl, rfl⟩
    · cases hok
  · obtain ⟨rfl, ⟨_, _, herror⟩ | ⟨_, hderived, hok⟩⟩ := runs_assemble h₁
    · cases herror
    · obtain rfl := Except.ok.inj hok
      obtain ⟨reply, after, written, rfl, hfollowed⟩ := followedUp_of_runs (x := x a) hsend h₂
      exact .inr ⟨a, reply, after, written, hderived, rfl, hfollowed⟩

theorem runs_requestHearing
    (h : Runs (e.requestHearing caseId c clearAdjournment cause).run es r) :
    (∃ source, e.derivedRequest c none = .error source ∧ es = [] ∧
        r = .error ⟨caseId, HearingAction.create.name, .derivation source⟩) ∨
      ∃ a reply after written, e.derivedRequest c none = .ok a ∧
        es = ⟨.service (.create a.request), reply⟩ :: after ∧
        FollowedUp e caseId cause .create reply after written r :=
  runs_sent (x := fun a reply => ⟨.service (.create a.request), reply⟩) runs_askService h

/-- An update of a known hearing is made exactly if the request can be derived. -/
theorem runs_updateHearing {hearingId : String} {version : Int64}
    (h : Runs (e.updateHearing caseId c hearingId version clearAdjournment cause).run es r) :
    (∃ source, e.derivedRequest c (some version) = .error source ∧ es = [] ∧
        r = .error ⟨caseId, HearingAction.update.name, .derivation source⟩) ∨
      ∃ a reply after written, e.derivedRequest c (some version) = .ok a ∧
        es = ⟨.service (.update hearingId a.request), reply⟩ :: after ∧
        FollowedUp e caseId cause .update reply after written r :=
  runs_sent (x := fun a reply => ⟨.service (.update hearingId a.request), reply⟩) runs_askService h

theorem requestHearing_course (hquiet : Quiet before)
    (h : Runs (e.requestHearing caseId c clearAdjournment cause).run es r) :
    Course e caseId cause (before ++ es) r := by
  rcases runs_requestHearing h with
    ⟨source, -, rfl, rfl⟩ | ⟨a, reply, after, written, -, rfl, hfollowed⟩
  · exact .stopped (quiet_append hquiet quiet_nil) (.derivation _ _ source)
  · exact .acted hquiet rfl rfl hfollowed

theorem updateHearing_course {hearingId : String} {version : Int64} (hquiet : Quiet before)
    (h : Runs (e.updateHearing caseId c hearingId version clearAdjournment cause).run es r) :
    Course e caseId cause (before ++ es) r := by
  rcases runs_updateHearing h with
    ⟨source, -, rfl, rfl⟩ | ⟨a, reply, after, written, -, rfl, hfollowed⟩
  · exact .stopped (quiet_append hquiet quiet_nil) (.derivation _ _ source)
  · exact .acted hquiet rfl rfl hfollowed

/-- A unit of work that begins with reading the case, where `next` goes on from the snapshot. -/
theorem course_of_readCase {action : String} {next : CaseSnapshot → Work SyncResult}
    (hnext : ∀ {c : CaseSnapshot} {before es : List Exchange} {r : Except EngineError SyncResult},
      Quiet before → Runs (next c).run es r → Course e caseId cause (before ++ es) r)
    (h : Runs (readCase caseId action >>= next).run es r) : Course e caseId cause es r := by
  rcases runs_work_bind_iff.mp h with ⟨error, rfl, h₁⟩ | ⟨c, es₁, es₂, rfl, h₁, h₂⟩
  · rcases runs_readCase h₁ with ⟨source, rfl, herror⟩ | ⟨current, _, hok⟩
    · obtain rfl := Except.error.inj herror
      exact .stopped ⟨rfl, rfl⟩ (.caseUnread action source)
    · cases hok
  · rcases runs_readCase h₁ with ⟨source, _, herror⟩ | ⟨current, rfl, _⟩
    · cases herror
    · exact hnext ⟨rfl, rfl⟩ h₂

/-- A unit of work that goes on with the latest outstanding hearing. -/
theorem course_of_outstandingHearing {action : String} {next : HearingRecord → Work SyncResult}
    (hquiet : Quiet before)
    (hnext : ∀ {target : HearingRecord} {es : List Exchange} {r : Except EngineError SyncResult},
      Runs (next target).run es r → Course e caseId cause (before ++ es) r)
    (h : Runs (outstandingHearing caseId action c >>= next).run es r) :
    Course e caseId cause (before ++ es) r := by
  rcases runs_work_bind_iff.mp h with ⟨error, rfl, h₁⟩ | ⟨target, es₁, es₂, rfl, h₁, h₂⟩
  · obtain ⟨rfl, herror | ⟨target, _, hok⟩⟩ := runs_outstandingHearing h₁
    · obtain rfl := Except.error.inj herror
      exact .stopped (quiet_append hquiet quiet_nil) (.nothingOutstanding _ action)
    · cases hok
  · obtain ⟨rfl, _⟩ := runs_outstandingHearing h₁
    exact hnext h₂

theorem create_course {adjourn : Bool} (h : Runs (e.create caseId adjourn cause).run es r) :
    Course e caseId cause es r := by
  refine course_of_readCase (fun {c before es r} hquiet h => ?_) h
  rcases runs_work_bind_iff.mp h with ⟨error, rfl, h₁⟩ | ⟨found, es₁, es₂, rfl, h₁, h₂⟩
  · obtain ⟨reply, rfl, ⟨listed, _, hok⟩ | ⟨source, rfl, ⟨_, _, hok⟩ | herror⟩⟩ :=
      runs_findUpdatable h₁
    · cases hok
    · cases hok
    · obtain rfl := Except.error.inj herror
      exact .stopped (quiet_append hquiet ⟨rfl, rfl⟩) (.listFailed before _ source)
  · obtain ⟨reply, rfl, _⟩ := runs_findUpdatable h₁
    rw [← List.append_assoc]
    cases found with
    | none => exact requestHearing_course (quiet_append hquiet ⟨rfl, rfl⟩) h₂
    | some target => exact updateHearing_course (quiet_append hquiet ⟨rfl, rfl⟩) h₂

theorem update_course (h : Runs (e.update caseId cause).run es r) : Course e caseId cause es r := by
  refine course_of_readCase (fun {c before es r} hquiet h => ?_) h
  refine course_of_outstandingHearing hquiet (fun {target es r} h => ?_) h
  rcases runs_work_bind_iff.mp h with ⟨error, rfl, h₁⟩ | ⟨listed, es₁, es₂, rfl, h₁, h₂⟩
  · rcases runs_askService h₁ with ⟨source, rfl, herror⟩ | ⟨_, _, hok⟩
    · obtain rfl := Except.error.inj herror
      exact .stopped (quiet_append hquiet ⟨rfl, rfl⟩) (.getFailed before _ _ source)
    · cases hok
  · rcases runs_askService h₁ with ⟨source, _, herror⟩ | ⟨answer, rfl, _⟩
    · cases herror
    · rw [← List.append_assoc]
      exact updateHearing_course (quiet_append hquiet ⟨rfl, rfl⟩) h₂

theorem cancel_course {reason : CancellationReason}
    (h : Runs (e.cancel caseId reason cause).run es r) : Course e caseId cause es r := by
  refine course_of_readCase (fun {c before es r} hquiet h => ?_) h
  refine course_of_outstandingHearing hquiet (fun {target es r} h => ?_) h
  rcases runs_work_bind_iff.mp h with ⟨error, rfl, h₁⟩ | ⟨duration, es₁, es₂, rfl, h₁, h₂⟩
  · obtain ⟨rfl, ⟨source, -, herror⟩ | ⟨_, _, hok⟩⟩ := runs_derive h₁
    · obtain rfl := Except.error.inj herror
      exact .stopped (quiet_append hquiet quiet_nil) (.derivation _ _ source)
    · cases hok
  · obtain ⟨rfl, _⟩ := runs_derive h₁
    obtain ⟨reply, after, written, rfl, hfollowed⟩ := followedUp_of_runs
      (x := fun reply => ⟨.service (.cancel target.hearingId (.because reason)), reply⟩)
      runs_askService h₂
    exact .acted hquiet rfl rfl hfollowed

theorem handle_course {trigger : Trigger} (h : Runs (e.handle caseId trigger cause).run es r) :
    Course e caseId cause es r := by
  cases trigger with
  | createHearing => exact create_course h
  | updateHearing => exact update_course h
  | cancelHearing reason => exact cancel_course h
  | adjournCreateHearing => exact create_course h
  | ignored =>
    obtain ⟨rfl, rfl⟩ := runs_work_pure_iff.mp h
    exact .stopped quiet_nil (.ignored [])

/-! ## What a unit of work shows -/

/-- How a change and its follow-up end: the service refuses the change, the reply is written back,
the store fails the write-back, or all attempts come too late. -/
inductive Ending (e : Engine) (caseId : String) (action : HearingAction) :
    Except ServiceError HearingReply → List Exchange → Option (Except EngineError Int) →
      Except EngineError SyncResult → Prop where
  | refused (source : ServiceError) :
      Ending e caseId action (.error source) [] none
        (.error ⟨caseId, action.name, .hearingService source⟩)
  | applied {reply : HearingReply} {after : List Exchange} {version : Int} :
      changes after = [] → conflicts after < max e.config.retry.maxAttempts 1 →
      (writes after = [] ∨ writes after = [version]) →
      Ending e caseId action (.ok reply) after (some (.ok version))
        (.ok (.applied action reply.record version))
  | failed {reply : HearingReply} {after : List Exchange} (source : StoreError) :
      changes after = [] → conflicts after < max e.config.retry.maxAttempts 1 → writes after = [] →
      Ending e caseId action (.ok reply) after
        (some (.error ⟨caseId, action.name, .caseStore source⟩))
        (.error ⟨caseId, action.name, .caseStore source⟩)
  | exhausted {reply : HearingReply} {after : List Exchange}
      (reply? : Option (Except ServiceError HearingReply)) {error : EngineError} :
      error = ⟨caseId, action.name, .syncExhausted reply.hearingId
        (max e.config.retry.maxAttempts 1) (reply?.any (·.isOk))⟩ →
      changes after = (reply?.map (⟨.cancel reply.hearingId (.because .other), ·⟩)).toList →
      (reply?.isSome ↔ action ≠ .cancel) → conflicts after = max e.config.retry.maxAttempts 1 →
      writes after = [] →
      Ending e caseId action (.ok reply) after (some (.error error)) (.error error)

variable {after : List Exchange} {x : Exchange} {reply : Except ServiceError HearingReply}
  {action : HearingAction} {written : Option (Except EngineError Int)}

theorem FollowedUp.ending (h : FollowedUp e caseId cause action reply after written r) :
    Ending e caseId action reply after written r := by
  cases h with
  | refused source => exact .refused source
  | writtenBack h =>
    rcases WriteBack.perform_shows h with ⟨version, rfl, hchanges, hconflicts, hwrites⟩ |
      ⟨source, rfl, hchanges, hconflicts, hwrites⟩ |
      ⟨reply?, rfl, hchanges, hreply, hconflicts, hwrites⟩
    · exact .applied hchanges hconflicts hwrites
    · exact .failed source hchanges hconflicts hwrites
    · exact .exhausted reply? rfl hchanges hreply hconflicts hwrites

/-- A unit of work that came to a change did not stop early. -/
theorem Ending.not_stoppedEarly (before : List Exchange) {change : Change}
    (hchange : x.change? = some change)
    (h : Ending e caseId action reply after written r) :
    ¬ StoppedEarly caseId (before ++ x :: after) r := by
  intro hstopped
  generalize hes : before ++ x :: after = es at hstopped
  cases h with
  | refused source =>
    -- the change is the last exchange, and a look-up is none
    cases hstopped with
    | listFailed =>
      obtain rfl := List.singleton_inj.mp (List.append_inj' hes rfl).2
      cases hchange
    | getFailed =>
      obtain rfl := List.singleton_inj.mp (List.append_inj' hes rfl).2
      cases hchange
  | applied => cases hstopped
  | failed source =>
    -- the change is one of the exchanges, and reading the case is none
    cases hstopped with
    | caseUnread =>
      have hx : x ∈ before ++ x :: after := by simp
      rw [hes, List.mem_singleton] at hx
      subst hx
      cases hchange
  | exhausted reply? herror =>
    subst herror
    cases hstopped

/-- The cancellation that makes up for a change, as the exchanges after the change show it. -/
theorem Ending.compensation (h : Ending e caseId action reply after written r) :
    ∃ compensation? : Option Change,
      changes after = compensation?.toList ∧
      (compensation?.isSome ↔
        action ≠ .cancel ∧ reply.isOk ∧ conflicts after = max e.config.retry.maxAttempts 1) ∧
      (∀ c ∈ compensation?, ∃ accepted, reply = .ok accepted ∧
        c.call = .cancel accepted.hearingId (.because .other)) ∧
      (∀ error hearingId attempts compensated, r = .error error →
        error.failure = .syncExhausted hearingId attempts compensated →
        (compensated = true ↔ ∃ c ∈ compensation?, c.reply.isOk)) := by
  cases h with
  | refused source =>
    refine ⟨none, rfl, by simp [Except.isOk, Except.toBool], by simp, ?_⟩
    rintro _ _ _ _ ⟨⟩ ⟨⟩
  | applied hchanges hconflicts _ =>
    refine ⟨none, hchanges, by simp; omega, by simp, ?_⟩
    rintro _ _ _ _ ⟨⟩
  | failed source hchanges hconflicts _ =>
    refine ⟨none, hchanges, by simp; omega, by simp, ?_⟩
    rintro _ _ _ _ ⟨⟩ ⟨⟩
  | exhausted reply? herror hchanges hreply hconflicts _ =>
    refine ⟨_, hchanges, ?_, ?_, ?_⟩
    · simp [hreply, hconflicts, Except.isOk, Except.toBool]
    · intro c hc
      obtain ⟨reply, _, rfl⟩ := Option.map_eq_some_iff.mp hc
      exact ⟨_, rfl, rfl⟩
    · rintro _ hearingId attempts compensated ⟨⟩ hfailure
      rw [herror] at hfailure
      obtain ⟨_, _, rfl⟩ := EngineFailure.syncExhausted.inj hfailure
      cases reply? <;> simp

theorem Ending.applied_iff (h : Ending e caseId action reply after written r) {a : HearingAction}
    {hearing : HearingRecord} {version : Int} :
    r = .ok (.applied a hearing version) ↔
      ∃ accepted, reply = .ok accepted ∧ written = some (.ok version) ∧ a = action ∧
        hearing = accepted.record := by
  cases h with
  | refused source => simp
  | applied hchanges hconflicts hwrites =>
    constructor
    · rintro ⟨⟩
      exact ⟨_, rfl, rfl, rfl, rfl⟩
    · rintro ⟨_, ⟨⟩, ⟨⟩, rfl, rfl⟩
      rfl
  | failed source => simp
  | exhausted reply? herror => simp

/-- Only a unit of work that is applied shows a write. -/
theorem Ending.writes_eq_nil (h : Ending e caseId action reply after written r)
    (hr : r = .ok .ignored ∨ ∃ error, r = .error error) : writes after = [] := by
  cases h with
  | refused source => rfl
  | applied => simp at hr
  | failed source _ _ hwrites => exact hwrites
  | exhausted reply? _ _ _ _ hwrites => exact hwrites

theorem Ending.length_writes_le (h : Ending e caseId action reply after written r) :
    (writes after).length ≤ 1 := by
  cases h with
  | refused source => exact Nat.zero_le 1
  | applied _ _ hwrites => rcases hwrites with hwrites | hwrites <;> simp [hwrites]
  | failed source _ _ hwrites => simp [hwrites]
  | exhausted reply? _ _ _ _ hwrites => simp [hwrites]

/-- Whatever the hearing service and the case store reply: a unit of work changes no hearing exactly
if it stops early. Otherwise it makes one change, the primary one, and at most one more, which
cancels the hearing of the primary reply. It does so exactly if a create or an update was accepted
and every attempt to write it back came too late; the error then says whether the cancellation was
accepted. The unit of work is applied exactly if the primary change was accepted and its write-back
succeeded. Nothing is written unless it is applied, and never more than once. -/
theorem handle_changes_once {trigger : Trigger}
    (h : Runs (e.handle caseId trigger cause).run es r) :
    (changes es = [] ↔ StoppedEarly caseId es r) ∧
    (¬ StoppedEarly caseId es r →
      ∃ (before after : List Exchange) (x : Exchange) (primary : Change) (action : HearingAction)
        (written : Option (Except EngineError Int)) (compensation? : Option Change),
        es = before ++ x :: after ∧ x.change? = some primary ∧
        primary.call.action? = some action ∧
        FollowedUp e caseId cause action primary.reply after written r ∧
        changes es = primary :: compensation?.toList ∧
        (compensation?.isSome ↔ action ≠ .cancel ∧ primary.reply.isOk ∧
          conflicts after = max e.config.retry.maxAttempts 1) ∧
        (∀ c ∈ compensation?, ∃ accepted, primary.reply = .ok accepted ∧
          c.call = .cancel accepted.hearingId (.because .other)) ∧
        (∀ error hearingId attempts compensated, r = .error error →
          error.failure = .syncExhausted hearingId attempts compensated →
          (compensated = true ↔ ∃ c ∈ compensation?, c.reply.isOk)) ∧
        (∀ a hearing version, r = .ok (.applied a hearing version) ↔
          ∃ accepted, primary.reply = .ok accepted ∧ written = some (.ok version) ∧ a = action ∧
            hearing = accepted.record)) ∧
    ((r = .ok .ignored ∨ ∃ error, r = .error error) → writes es = []) ∧
    (writes es).length ≤ 1 := by
  cases handle_course h with
  | stopped hquiet hstopped =>
    exact ⟨⟨fun _ => hstopped, fun _ => hquiet.1⟩, fun hnot => absurd hstopped hnot,
      fun _ => hquiet.2, by simp [hquiet.2]⟩
  | @acted before after x primary action written _ hquiet hchange haction hfollowed =>
    have hend := hfollowed.ending
    have hnot := hend.not_stoppedEarly before hchange
    obtain ⟨compensation?, hafter, hcompensation⟩ := hend.compensation
    have hchanges : changes (before ++ x :: after) = primary :: compensation?.toList := by
      rw [changes_append, hquiet.1, ← hafter]
      simp [changes, hchange]
    have hwrites : writes (before ++ x :: after) = writes after := by
      rw [writes_append, hquiet.2]
      simp [writes, Exchange.written?_of_change? hchange]
    refine ⟨?_, fun _ => ?_, ?_, ?_⟩
    · rw [hchanges]
      exact ⟨fun hnil => absurd hnil (List.cons_ne_nil _ _), fun hstopped => absurd hstopped hnot⟩
    · exact ⟨before, after, x, primary, action, written, compensation?, rfl, hchange, haction,
        hfollowed, hchanges, hcompensation.1, hcompensation.2.1, hcompensation.2.2,
        fun _ _ _ => hend.applied_iff⟩
    · rw [hwrites]
      exact hend.writes_eq_nil
    · rw [hwrites]
      exact hend.length_writes_le

/-- A case of one party whose hearing request can be derived. -/
def lateCase : CaseSnapshot where
  caseId := "1"
  benefitCode := "002"
  issueCode := "DD"
  overrides := { venueIds := some ["1001"] }

/-- A rehearsal of a create that is allowed one attempt, which comes too late. -/
def lateRehearsal : Rehearsal where
  shelf := [("1", ⟨lateCase, 1⟩)]
  reads := [.plain, .conflict]
  cast := { script := {
    create := [⟨none, .ok ⟨"h", 1, .hearingRequested⟩⟩]
    cancel := [⟨none, .ok ⟨"h", 1, .cancellationRequested⟩⟩]
    list := [⟨none, .ok []⟩] } }

/-- An engine that is allowed no attempts, and so makes one, for cases of one benefit and issue. -/
def lateEngine : Engine where
  reference := ReferenceTables.data {
    venues := [⟨"1001", "L100", "Leeds", true⟩]
    sessionCategories := [⟨"002", "DD", none, none, ⟨"2", [.judge]⟩⟩] }
  config := { retry := ⟨0, 0⟩ }

/-- The hearing that was created is cancelled again. -/
theorem handle_changes_once_late :
    ∃ es primary compensation,
      Runs (lateEngine.handle "1" .createHearing ⟨"1", "appeal"⟩).run es
        (.error ⟨"1", "CREATE_HEARING", .syncExhausted "h" 1 true⟩) ∧
      changes es = [primary, compensation] ∧ compensation.reply.isOk ∧ writes es = [] := by
  have hrun : ((lateEngine.handle "1" .createHearing ⟨"1", "appeal"⟩).run.run Rehearsal.handler
      lateRehearsal).1 = .error ⟨"1", "CREATE_HEARING", .syncExhausted "h" 1 true⟩ := rfl
  obtain ⟨es, h⟩ : ∃ es, Runs (lateEngine.handle "1" .createHearing ⟨"1", "appeal"⟩).run es
      (.error ⟨"1", "CREATE_HEARING", .syncExhausted "h" 1 true⟩) :=
    ⟨_, hrun ▸ runs_trace Rehearsal.handler _ lateRehearsal⟩
  obtain ⟨_, hacted, hwrites, _⟩ := handle_changes_once h
  obtain ⟨_, _, _, primary, _, _, compensation?, _, _, _, _, hchanges, _, _, hcompensated, _⟩ :=
    hacted (by rintro ⟨⟩)
  obtain ⟨compensation, hsome, haccepted⟩ := (hcompensated _ _ _ _ rfl rfl).mp rfl
  obtain rfl := Option.mem_def.mp hsome
  exact ⟨_, primary, compensation, h, hchanges, haccepted, hwrites (.inr ⟨_, rfl⟩)⟩

end TribunalListing
