-- SUMMARY: What was sent to the hearing service is what is stored, and deriving again gives the same request.
import TribunalListing.Proofs.Engine.Changes
import TribunalListing.Proofs.Request.Records
import TribunalListing.Proofs.Request.Rederivation
import TribunalListing.Proofs.Sync.Stored

/-!
# What was sent is what is stored

A unit of work that asks for a hearing, or updates one, sends a request with party ids on it, and
the ids are written back to the case afterwards. If nobody else changes anything but the history in
between, then the case that is stored has the ids that were sent, and the next request that is
derived from it is the same as this one, but for the version.
-/

namespace TribunalListing

open Act

/-- The request that a call carries to the hearing service. -/
def ServiceCall.request? : ServiceCall → Option HearingRequest
  | .create request | .update _ request => some request
  | .cancel _ _ | .get _ | .list _ | .notify _ _ _ _ => none

/-- The requests that some exchanges carry to the hearing service. -/
def Act.requests (es : List Exchange) : List HearingRequest :=
  (changes es).filterMap (·.call.request?)

theorem Act.requests_append (es₁ es₂ : List Exchange) :
    requests (es₁ ++ es₂) = requests es₁ ++ requests es₂ := by
  unfold requests
  rw [changes_append, List.filterMap_append]

variable {e : Engine} {caseId : String} {cause : Cause} {es : List Exchange}
  {c : CaseSnapshot} {clearAdjournment : Bool} {r : SyncResult}

/-! ## Steps that succeed -/

theorem runs_askService_ok {action : String} {call : ServiceCall} {answer : call.Answer}
    (h : Runs (askService caseId action call).run es (.ok answer)) :
    es = [⟨.service call, .ok answer⟩] := by
  rcases runs_askService h with ⟨_, _, herror⟩ | ⟨_, rfl, hok⟩
  · cases herror
  · obtain rfl := Except.ok.inj hok
    rfl

theorem runs_readCase_ok {action : String}
    (h : Runs (readCase caseId action).run es (.ok c)) :
    ∃ current : VersionedCase,
      es = [⟨.store (.read caseId), .ok current⟩] ∧ current.snapshot = c := by
  rcases runs_readCase h with ⟨_, _, herror⟩ | ⟨current, rfl, hok⟩
  · cases herror
  · exact ⟨current, rfl, (Except.ok.inj hok).symm⟩

theorem runs_assemble_ok {action : HearingAction} {version : Option Int64} {a : AssembledRequest}
    (h : Runs (e.assemble caseId action c version).run es (.ok a)) :
    es = [] ∧ assembleRequest c e.reference e.config.derivation version = .ok a := by
  obtain ⟨rfl, ⟨_, _, herror⟩ | ⟨_, hderived, hok⟩⟩ := runs_assemble h
  · cases herror
  · obtain rfl := Except.ok.inj hok
    exact ⟨rfl, Engine.assembleRequest_of_derivedRequest hderived⟩

/-! ## Delivery -/

/-- A request that was assembled for a case is sent and accepted, and the case that it was derived
from is written back. -/
inductive Delivered (e : Engine) (caseId : String) (cause : Cause) (c : CaseSnapshot)
    (clearAdjournment : Bool) : List Exchange → SyncResult → Prop where
  | intro {x : Exchange} {change : Change} {a : AssembledRequest} {version : Option Int64}
      {action : HearingAction} {reply : HearingReply} {after : List Exchange} {written : Int} :
      assembleRequest c e.reference e.config.derivation version = .ok a →
      x.change? = some change → change.call.request? = some a.request →
      Runs (WriteBack.perform ⟨caseId, ⟨action, reply.record, a.case, clearAdjournment⟩, cause,
        e.config.actor, e.config.retry⟩).run after (.ok written) →
      Delivered e caseId cause c clearAdjournment (x :: after)
        (.applied action reply.record written)

theorem runs_writeBack_ok {action : HearingAction} {reply : HearingReply} {derived : CaseSnapshot}
    (h : Runs (e.writeBack caseId action reply derived clearAdjournment cause).run es (.ok r)) :
    ∃ written,
      Runs (WriteBack.perform ⟨caseId, ⟨action, reply.record, derived, clearAdjournment⟩, cause,
        e.config.actor, e.config.retry⟩).run es (.ok written) ∧
      r = .applied action reply.record written := by
  obtain ⟨written, hperform, hr⟩ := runs_writeBack h
  cases written with
  | error error => cases hr
  | ok written => exact ⟨written, hperform, Except.ok.inj hr⟩

/-- A request is assembled, sent by `send` and written back, where `x` is the exchange that sends it
and is given a reply. -/
theorem delivered_of_runs {action : HearingAction} {version : Option Int64}
    {send : AssembledRequest → Work HearingReply} {x : AssembledRequest → HearingReply → Exchange}
    (hsend : ∀ {a : AssembledRequest} {es : List Exchange} {reply : HearingReply},
      Runs (send a).run es (.ok reply) → es = [x a reply])
    (hrequest : ∀ (a : AssembledRequest) (reply : HearingReply), ∃ change : Change,
      (x a reply).change? = some change ∧ change.call.request? = some a.request)
    (h : Runs (e.assemble caseId action c version >>= fun a => send a >>= fun reply =>
      e.writeBack caseId action reply a.case clearAdjournment cause).run es (.ok r)) :
    Delivered e caseId cause c clearAdjournment es r := by
  obtain ⟨a, es₁, es₂, rfl, h₁, h₂⟩ := runs_work_bind_ok_iff.mp h
  obtain ⟨rfl, hassembled⟩ := runs_assemble_ok h₁
  obtain ⟨reply, es₃, es₄, rfl, h₃, h₄⟩ := runs_work_bind_ok_iff.mp h₂
  obtain rfl := hsend h₃
  obtain ⟨change, hchange, hcarries⟩ := hrequest a reply
  obtain ⟨written, hperform, rfl⟩ := runs_writeBack_ok h₄
  exact .intro hassembled hchange hcarries hperform

theorem delivered_of_requestHearing
    (h : Runs (e.requestHearing caseId c clearAdjournment cause).run es (.ok r)) :
    Delivered e caseId cause c clearAdjournment es r :=
  delivered_of_runs (x := fun a reply => ⟨.service (.create a.request), .ok reply⟩)
    runs_askService_ok (fun _ _ => ⟨_, rfl, rfl⟩) h

theorem delivered_of_updateHearing {hearingId : String} {version : Int64}
    (h : Runs (e.updateHearing caseId c hearingId version clearAdjournment cause).run es (.ok r)) :
    Delivered e caseId cause c clearAdjournment es r :=
  delivered_of_runs (x := fun a reply => ⟨.service (.update hearingId a.request), .ok reply⟩)
    runs_askService_ok (fun _ _ => ⟨_, rfl, rfl⟩) h

/-- A create reads the case and looks hearings up, and then delivers. -/
theorem runs_create_ok {adjourn : Bool} (h : Runs (e.create caseId adjourn cause).run es (.ok r)) :
    ∃ (current : VersionedCase) (reply : Except ServiceError (List ListedHearing))
      (after : List Exchange),
      es = ⟨.store (.read caseId), .ok current⟩ :: ⟨.service (.list caseId), reply⟩ :: after ∧
      Delivered e caseId cause
        (if adjourn then { current.snapshot with adjournment.inProgress := true }
          else current.snapshot) adjourn after r := by
  unfold Engine.create at h
  obtain ⟨_, es₁, es₂, rfl, h₁, h₂⟩ := runs_work_bind_ok_iff.mp h
  obtain ⟨current, rfl, rfl⟩ := runs_readCase_ok h₁
  obtain ⟨found, es₃, es₄, rfl, h₃, h₄⟩ := runs_work_bind_ok_iff.mp h₂
  obtain ⟨reply, rfl, _⟩ := runs_findUpdatable h₃
  refine ⟨current, reply, es₄, rfl, ?_⟩
  cases found with
  | none => exact delivered_of_requestHearing h₄
  | some target => exact delivered_of_updateHearing h₄

/-- An update reads the case and looks the hearing up, and then delivers. -/
theorem runs_update_ok (h : Runs (e.update caseId cause).run es (.ok r)) :
    ∃ (current : VersionedCase) (hearingId : String) (listed : ListedHearing)
      (after : List Exchange),
      es = ⟨.store (.read caseId), .ok current⟩ :: ⟨.service (.get hearingId), .ok listed⟩ ::
        after ∧
      Delivered e caseId cause current.snapshot false after r := by
  unfold Engine.update at h
  obtain ⟨_, es₁, es₂, rfl, h₁, h₂⟩ := runs_work_bind_ok_iff.mp h
  obtain ⟨current, rfl, rfl⟩ := runs_readCase_ok h₁
  obtain ⟨target, es₃, es₄, rfl, h₃, h₄⟩ := runs_work_bind_ok_iff.mp h₂
  obtain ⟨rfl, _⟩ := runs_outstandingHearing h₃
  obtain ⟨listed, es₅, es₆, rfl, h₅, h₆⟩ := runs_work_bind_ok_iff.mp h₄
  obtain rfl := runs_askService_ok h₅
  exact ⟨current, target.hearingId, listed, es₆, rfl, delivered_of_updateHearing h₆⟩

/-- A cancel reads the case, cancels its hearing, and writes the case back that it has read. -/
theorem runs_cancel_ok {reason : CancellationReason}
    (h : Runs (e.cancel caseId reason cause).run es (.ok r)) :
    ∃ (current : VersionedCase) (hearingId : String) (reply : HearingReply)
      (after : List Exchange) (written : Int),
      es = ⟨.store (.read caseId), .ok current⟩ ::
        ⟨.service (.cancel hearingId (.because reason)), .ok reply⟩ :: after ∧
      Runs (WriteBack.perform ⟨caseId, ⟨.cancel, reply.record, current.snapshot, false⟩, cause,
        e.config.actor, e.config.retry⟩).run after (.ok written) ∧
      r = .applied .cancel reply.record written := by
  unfold Engine.cancel at h
  obtain ⟨_, es₁, es₂, rfl, h₁, h₂⟩ := runs_work_bind_ok_iff.mp h
  obtain ⟨current, rfl, rfl⟩ := runs_readCase_ok h₁
  obtain ⟨target, es₃, es₄, rfl, h₃, h₄⟩ := runs_work_bind_ok_iff.mp h₂
  obtain ⟨rfl, _⟩ := runs_outstandingHearing h₃
  obtain ⟨_, es₅, es₆, rfl, h₅, h₆⟩ := runs_work_bind_ok_iff.mp h₄
  obtain ⟨rfl, _⟩ := runs_derive h₅
  obtain ⟨reply, es₇, es₈, rfl, h₇, h₈⟩ := runs_work_bind_ok_iff.mp h₆
  obtain rfl := runs_askService_ok h₇
  obtain ⟨written, hperform, rfl⟩ := runs_writeBack_ok h₈
  exact ⟨current, target.hearingId, reply, es₈, written, rfl, hperform, rfl⟩

/-- Before anything is delivered, the case is read and hearings are looked up, and nothing else is
shown of the case or changed. -/
theorem delivered_of_create {adjourn : Bool}
    (h : Runs (e.create caseId adjourn cause).run es (.ok r)) :
    ∃ current before after, es = before ++ after ∧ shown before = [current] ∧ changes before = [] ∧
      Delivered e caseId cause
        (if adjourn then { current with adjournment.inProgress := true } else current)
        adjourn after r := by
  obtain ⟨current, reply, after, rfl, hdelivered⟩ := runs_create_ok h
  exact ⟨current.snapshot,
    [⟨.store (.read caseId), .ok current⟩, ⟨.service (.list caseId), reply⟩],
    after, rfl, rfl, rfl, hdelivered⟩

theorem delivered_of_update (h : Runs (e.update caseId cause).run es (.ok r)) :
    ∃ current before after, es = before ++ after ∧ shown before = [current] ∧ changes before = [] ∧
      Delivered e caseId cause current false after r := by
  obtain ⟨current, hearingId, listed, after, rfl, hdelivered⟩ := runs_update_ok h
  exact ⟨current.snapshot,
    [⟨.store (.read caseId), .ok current⟩, ⟨.service (.get hearingId), .ok listed⟩],
    after, rfl, rfl, rfl, hdelivered⟩

/-! ## What is stored -/

/-- A change that is written back is the only one that carries a request. -/
theorem requests_of_perform {x : Exchange} {change : Change} {request : HearingRequest}
    {w : WriteBack} {written : Int} (hchange : x.change? = some change)
    (hrequest : change.call.request? = some request)
    (hperform : Runs w.perform.run es (.ok written)) : requests (x :: es) = [request] := by
  have hafter : changes es = [] := by
    rcases WriteBack.perform_shows hperform with
      ⟨_, _, hafter, -⟩ | ⟨_, herror, -⟩ | ⟨_, herror, -⟩
    · exact hafter
    · cases herror
    · cases herror
  have hchanges : changes (x :: es) = [change] := by
    rw [changes, List.filterMap_cons_some hchange]
    exact congrArg (change :: ·) hafter
  simp [requests, hchanges, hrequest]

/-- A delivery shows one request, and if nobody else changes anything but the history, then the case
that it was derived from is stored. -/
theorem Delivered.stored {action : HearingAction} {hearing : HearingRecord} {version : Int}
    (h : Delivered e caseId cause c false es (.applied action hearing version))
    (hundisturbed : Undisturbed [c] es) :
    ∃ a version' stored, assembleRequest c e.reference e.config.derivation version' = .ok a ∧
      requests es = [a.request] ∧ storedAfter es = some ⟨stored, version⟩ ∧
      a.case.SameButHistory stored := by
  cases h with
  | @intro x change a version' _ _ after _ hassembled hchange hrequest hperform =>
    obtain ⟨hassign, -⟩ := assembleRequest_eq_ok hassembled
    have hrest : Undisturbed [c] after := by
      have := hundisturbed.2
      rwa [Exchange.shown?_of_change? hchange] at this
    obtain ⟨stored, hstored, hsame⟩ := WriteBack.perform_stored hassign rfl hperform hrest
      (List.cons_ne_nil _ _) (by simp [Outcome.expects_self])
    refine ⟨a, version', stored, hassembled, ?_, storedAfter_append [x] hstored, hsame⟩
    exact requests_of_perform hchange hrequest hperform

/-- A unit of work that asks for a hearing or updates one is applied, and nobody else changes
anything but the history of the case meanwhile. Then one request was sent, and in the case that is
stored each party has the id that was sent for it. Whatever the version that is to be updated, the
same request is derived from the stored case again, and no id is handed out any more. -/
theorem sent_is_stored {trigger : Trigger} {action : HearingAction} {hearing : HearingRecord}
    {version : Int} (htrigger : trigger = .createHearing ∨ trigger = .updateHearing)
    (h : Runs (e.handle caseId trigger cause).run es (.ok (.applied action hearing version)))
    (hundisturbed : Undisturbed [] es) :
    ∃ (request : HearingRequest) (stored : CaseSnapshot),
      requests es = [request] ∧ storedAfter es = some ⟨stored, version⟩ ∧
      (∀ (i : Nat) (place : Place), stored.activePlaces[i]? = some place →
        ∃ record : PartyDetails, request.parties[i]? = some record ∧
          record.partyRole = place.role ∧ stored.idAt place = some record.partyId) ∧
      ∀ version' : Option Int64,
        assembleRequest stored e.reference e.config.derivation version' =
          .ok {
            request := { request with request := ⟨version'⟩ }
            case := stored
            assignedIds := [] } := by
  obtain ⟨current, before, after, rfl, hshown, hchanges, hdelivered⟩ :
      ∃ current before after, es = before ++ after ∧ shown before = [current] ∧
        changes before = [] ∧
        Delivered e caseId cause current false after (.applied action hearing version) := by
    rcases htrigger with rfl | rfl
    · exact delivered_of_create h
    · exact delivered_of_update h
  rw [undisturbed_append_iff, hshown] at hundisturbed
  obtain ⟨a, version', stored, hassembled, hrequests, hstored, hsame⟩ :=
    hdelivered.stored hundisturbed.2
  refine ⟨a.request, stored, ?_, storedAfter_append _ hstored, ?_, ?_⟩
  · rw [requests_append, hrequests]
    simp [requests, hchanges]
  · intro i place hplace
    rw [hsame] at hplace
    obtain ⟨_, record, -, hrecord, hrole, hid, -⟩ := getElem?_parties hassembled hplace
    refine ⟨record, hrecord, hrole, ?_⟩
    rw [hsame]
    exact hid
  · intro version''
    rw [hsame]
    exact assembleRequest_again hassembled _ version''

/-- An engine that makes two attempts at a write-back. -/
def patientEngine : Engine where
  reference := plainReference
  config := { retry := ⟨2, 0⟩ }

/-- The appeal after a hearing has come into its history. -/
def heardCase : CaseSnapshot :=
  { crowdedCase with hearings := [⟨"g", 1, .hearingRequested⟩] }

/-- A rehearsal of a create. A hearing comes into the history before the first attempt, and the
write of that attempt is accepted, but reported to have come too late. -/
def crowdedRehearsal : Rehearsal where
  shelf := [("1", ⟨crowdedCase, 1⟩)]
  reads := [.plain, .meanwhile heardCase]
  writes := [.conflictAfterwards]
  cast := { script := {
    create := [⟨none, .ok ⟨"h", 1, .hearingRequested⟩⟩]
    list := [⟨none, .ok []⟩] } }

/-- The second attempt finds in the store what the first one has sent. -/
theorem sent_is_stored_crowded :
    ∃ es request stored,
      Runs (patientEngine.handle "1" .createHearing ⟨"1", "appeal"⟩).run es
        (.ok (.applied .create ⟨"h", 1, .hearingRequested⟩ 3)) ∧
      Undisturbed [] es ∧ requests es = [request] ∧ storedAfter es = some ⟨stored, 3⟩ ∧
      request.parties[3]?.map (·.partyId) = some "9" ∧
      stored.idAt (.otherPartyRepresentative 1) = some "9" ∧
      assembleRequest stored plainReference {} (some 1) =
        .ok ⟨{ request with request := ⟨some 1⟩ }, stored, []⟩ := by
  have hrun : ((patientEngine.handle "1" .createHearing ⟨"1", "appeal"⟩).run.run Rehearsal.handler
      crowdedRehearsal).1 = .ok (.applied .create ⟨"h", 1, .hearingRequested⟩ 3) := rfl
  have h := runs_trace Rehearsal.handler
    (patientEngine.handle "1" .createHearing ⟨"1", "appeal"⟩).run crowdedRehearsal
  rw [hrun] at h
  generalize hes : Act.trace Rehearsal.handler
    (patientEngine.handle "1" .createHearing ⟨"1", "appeal"⟩).run crowdedRehearsal = es at h
  have hundisturbed : Undisturbed [] es := by
    subst hes
    refine ⟨fun _ _ => .inl rfl, ?_, ?_, ?_, ?_, ?_, trivial⟩
    · rintro _ ⟨⟩
    · rintro _ ⟨⟩
    · rintro _ ⟨⟩
      exact .inr ⟨_, .head _, rfl⟩
    · rintro _ ⟨⟩
    · rintro _ ⟨⟩
      exact .inr ⟨_, .tail _ (.tail _ (.head _)), rfl⟩
  have hplace : (storedAfter es).bind (·.snapshot.activePlaces[3]?) =
      some (.otherPartyRepresentative 1) := by
    subst hes
    rfl
  have hid : (storedAfter es).bind (·.snapshot.idAt (.otherPartyRepresentative 1)) = some "9" := by
    subst hes
    rfl
  obtain ⟨request, stored, hrequests, hstored, hids, hagain⟩ :=
    sent_is_stored (.inl rfl) h hundisturbed
  rw [hstored] at hplace hid
  obtain ⟨record, hrecord, -, hpartyId⟩ := hids 3 _ hplace
  have hsent : record.partyId = "9" := Option.some.inj (hpartyId.symm.trans hid)
  refine ⟨es, request, stored, h, hundisturbed, hrequests, hstored, ?_, hid, hagain (some 1)⟩
  rw [hrecord, Option.map_some, hsent]
end TribunalListing
