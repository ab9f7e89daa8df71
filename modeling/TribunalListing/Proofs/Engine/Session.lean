-- SUMMARY: However many triggers are handled, the hearing service never holds two outstanding hearings for a case.
import Mathlib.Data.List.Forall2
import TribunalListing.Proofs.Engine.Listing

/-!
# Sessions

In a session, the triggers of one case are handled one after the other, while the hearing service
keeps the hearings that it has accepted for the case. The service shows all of them when it is asked
to list them; it never reopens a hearing, and a call that fails has no effect. Nothing is said of
the case store, so the history of the case may say anything. Before the engine asks for a hearing it
looks the hearings up, and between its look-up and its request it makes no other call. So no second
outstanding hearing ever comes about.
-/

namespace TribunalListing

open Act

/-! ## The hearing service -/

/-- How the service lists a hearing: with its current version and status. -/
def HearingRecord.listing (h : HearingRecord) : ListedHearing :=
  ⟨h.hearingId, some h.version, h.status⟩

/-- How many hearings are outstanding. -/
def outstandingCount (hearings : List HearingRecord) : Nat :=
  hearings.countP (·.status.isOutstanding)

/-- Hearings that have moved on: versions and statuses may have changed, but no hearing that was not
outstanding has become so. -/
def MovedOn (before after : List HearingRecord) : Prop :=
  List.Forall₂ (fun h h' => h'.hearingId = h.hearingId ∧
    (h'.status.isOutstanding = true → h.status.isOutstanding = true)) before after

/-- How the hearings that the service holds for a case change when a call is answered. -/
inductive Serves (caseId : String) : List HearingRecord → Exchange → List HearingRecord → Prop where
  | failed (hearings : List HearingRecord) (c : ServiceCall) (source : ServiceError) :
      Serves caseId hearings ⟨.service c, .error source⟩ hearings
  | created {hearings : List HearingRecord} (hearing : HearingRecord) (request : HearingRequest)
      (reply : HearingReply) :
      hearing.hearingId ∉ hearings.map (·.hearingId) → hearing.status.isOutstanding = true →
      Serves caseId hearings ⟨.service (.create request), .ok reply⟩ (hearings ++ [hearing])
  | updated {hearings hearings' : List HearingRecord} (hearingId : String)
      (request : HearingRequest) (reply : HearingReply) :
      MovedOn hearings hearings' →
      Serves caseId hearings ⟨.service (.update hearingId request), .ok reply⟩ hearings'
  | cancelled {hearings hearings' : List HearingRecord} (hearingId : String)
      (request : CancelRequest) (reply : HearingReply) :
      MovedOn hearings hearings' →
      Serves caseId hearings ⟨.service (.cancel hearingId request), .ok reply⟩ hearings'
  | listed {hearings : List HearingRecord} {listed : List ListedHearing} :
      listed.Perm (hearings.map HearingRecord.listing) →
      Serves caseId hearings ⟨.service (.list caseId), .ok listed⟩ hearings
  | got (hearings : List HearingRecord) (hearingId : String) (answer : ListedHearing) :
      Serves caseId hearings ⟨.service (.get hearingId), .ok answer⟩ hearings
  | notified (hearings : List HearingRecord) (hearingId : String) (version : Int64)
      (receivedAt : Instant) (body : PartiesNotified) :
      Serves caseId hearings ⟨.service (.notify hearingId version receivedAt body), .ok ()⟩ hearings
  /-- The case store replies as it likes. -/
  | store (hearings : List HearingRecord) (c : StoreCall) (reply : Except StoreError c.Answer) :
      Serves caseId hearings ⟨.store c, reply⟩ hearings

/-- How they change when calls are answered one after the other. -/
inductive ServesAll (caseId : String) :
    List HearingRecord → List Exchange → List HearingRecord → Prop where
  | nil (hearings : List HearingRecord) : ServesAll caseId hearings [] hearings
  | cons {hearings hearings' hearings'' : List HearingRecord} {x : Exchange} {es : List Exchange} :
      Serves caseId hearings x hearings' → ServesAll caseId hearings' es hearings'' →
      ServesAll caseId hearings (x :: es) hearings''

/-! ## Sessions -/

/-- The hearings that the service holds for the case, and what is left of the unit of work that is
being done, if one is. -/
structure Session where
  hearings : List HearingRecord
  rest : Option (Act (Except EngineError SyncResult))

namespace Session

/-- Something that happens in a session. -/
inductive Event where
  /-- A trigger is taken up. -/
  | start (trigger : Trigger)
  /-- The unit of work makes its next call and is given the reply. -/
  | call (x : Exchange)
  /-- The unit of work ends. -/
  | finish (r : Except EngineError SyncResult)
  /-- Hearings move on at the service. -/
  | move

/-- What can happen in a session of an engine with a case. -/
inductive Step (e : Engine) (caseId : String) : Session → Event → Session → Prop where
  | start {hearings : List HearingRecord} (trigger : Trigger) (cause : Cause) :
      Step e caseId ⟨hearings, none⟩ (.start trigger)
        ⟨hearings, some (e.handle caseId trigger cause).run⟩
  | call {hearings hearings' : List HearingRecord} {c : Call} {next reply} :
      Serves caseId hearings ⟨c, reply⟩ hearings' →
      Step e caseId ⟨hearings, some (.call c next)⟩ (.call ⟨c, reply⟩)
        ⟨hearings', some (next reply)⟩
  | finish {hearings : List HearingRecord} (r : Except EngineError SyncResult) :
      Step e caseId ⟨hearings, some (.done r)⟩ (.finish r) ⟨hearings, none⟩
  | move {hearings hearings' : List HearingRecord} {rest} :
      MovedOn hearings hearings' → Step e caseId ⟨hearings, rest⟩ .move ⟨hearings', rest⟩

/-- Step follows on step. -/
inductive Run (e : Engine) (caseId : String) : Session → List Event → Session → Prop where
  | nil (s : Session) : Run e caseId s [] s
  | cons {s s' s'' : Session} {event : Event} {events : List Event} :
      Step e caseId s event s' → Run e caseId s' events s'' →
      Run e caseId s (event :: events) s''

/-- A session goes on with what is left of a unit of work, if the service answers its calls. -/
theorem Run.of_runs {e : Engine} {caseId : String} {hearings hearings' : List HearingRecord}
    {p : Act (Except EngineError SyncResult)} {es : List Exchange}
    {r : Except EngineError SyncResult} {events : List Event} {s : Session} (h : Runs p es r)
    (hserves : ServesAll caseId hearings es hearings')
    (hnext : Run e caseId ⟨hearings', none⟩ events s) :
    Run e caseId ⟨hearings, some p⟩ (es.map .call ++ .finish r :: events) s := by
  induction h generalizing hearings with
  | done r =>
    cases hserves with
    | nil => exact .cons (.finish r) hnext
  | call _ ih =>
    cases hserves with
    | cons hfirst hrest => exact .cons (.call hfirst) (ih hrest)

end Session

/-! ## Counting outstanding hearings -/

variable {caseId : String} {hearings hearings' : List HearingRecord}

theorem MovedOn.outstandingCount_le (h : MovedOn hearings hearings') :
    outstandingCount hearings' ≤ outstandingCount hearings := by
  induction h with
  | nil => exact Nat.le_refl _
  | @cons h h' _ _ hmoved _ ih =>
    unfold outstandingCount at ih ⊢
    rw [List.countP_cons, List.countP_cons]
    by_cases hafter : h'.status.isOutstanding = true
    · simpa [hafter, hmoved.2 hafter] using ih
    · simp only [hafter, if_false, Nat.add_zero, Bool.false_eq_true]
      exact Nat.le_add_right_of_le ih

/-- Only a new hearing can add to the outstanding ones. -/
theorem Serves.outstandingCount_le {x : Exchange} (h : Serves caseId hearings x hearings')
    (hroutine : x.call.isRoutine = true) :
    outstandingCount hearings' ≤ outstandingCount hearings := by
  cases h with
  | created => cases hroutine
  | updated _ _ _ hmoved => exact hmoved.outstandingCount_le
  | cancelled _ _ _ hmoved => exact hmoved.outstandingCount_le
  | listed => cases hroutine
  | failed => exact Nat.le_refl _
  | got => exact Nat.le_refl _
  | notified => exact Nat.le_refl _
  | store => exact Nat.le_refl _

/-- A hearing that joins others of which none is outstanding is the only one that can be. -/
theorem outstandingCount_append_le (hearing : HearingRecord) (h : outstandingCount hearings = 0) :
    outstandingCount (hearings ++ [hearing]) ≤ 1 := by
  unfold outstandingCount at h ⊢
  rw [List.countP_append, h, Nat.zero_add]
  exact List.countP_le_length

/-- A hearing is listed as one that can be updated exactly if it is outstanding. -/
theorem HearingRecord.isUpdatable_listing (h : HearingRecord) :
    h.listing.isUpdatable = h.status.isOutstanding :=
  Bool.and_true _

/-- Where none of the hearings that are listed can be updated, none is outstanding. -/
theorem outstandingCount_eq_zero {listed : List ListedHearing}
    (hlisted : listed.Perm (hearings.map HearingRecord.listing))
    (hnone : lastUpdatable? listed = none) : outstandingCount hearings = 0 := by
  rw [lastUpdatable?_eq_none_iff] at hnone
  rw [outstandingCount, List.countP_eq_zero]
  intro hearing hmem
  have hlisting := hnone hearing.listing (hlisted.mem_iff.mpr (List.mem_map_of_mem hmem))
  rw [HearingRecord.isUpdatable_listing] at hlisting
  simp [hlisting]

/-! ## Looking before asking -/

/-- The act asks for a hearing only right after it was shown that none can be updated. `clear` says
that this was just shown, and `Q` what holds at the end. A look-up may fail for a `possible` reason
only, and must not lead on to a request then. -/
inductive LooksFirst {α : Type} (caseId : String) (possible : ServiceError → Prop)
    (Q : Bool → α → Prop) : Bool → Act α → Prop where
  | done {clear : Bool} {a : α} : Q clear a → LooksFirst caseId possible Q clear (.done a)
  | look {clear : Bool} {next : Except ServiceError (List ListedHearing) → Act α} :
      (∀ listed, LooksFirst caseId possible Q (lastUpdatable? listed).isNone (next (.ok listed))) →
      (∀ source, possible source → LooksFirst caseId possible Q false (next (.error source))) →
      LooksFirst caseId possible Q clear (.call (.service (.list caseId)) next)
  | ask {request : HearingRequest} {next : Except ServiceError HearingReply → Act α} :
      (∀ reply, LooksFirst caseId possible Q false (next reply)) →
      LooksFirst caseId possible Q true (.call (.service (.create request)) next)
  | routine {clear : Bool} {c : Call} {next : c.Reply → Act α} :
      c.isRoutine = true → (∀ reply, LooksFirst caseId possible Q false (next reply)) →
      LooksFirst caseId possible Q clear (.call c next)

/-- Nothing is said of the end. -/
def anyEnd {α : Type} : Bool → α → Prop :=
  fun _ _ => True

/-- The failures of a look-up that are possible where no look-up fails for the moment, unless the
policy is to abort then. -/
def Engine.Possible (e : Engine) (source : ServiceError) : Prop :=
  e.config.lookupPolicy = .abort ∨ source.isTransient = false

namespace LooksFirst

variable {α β : Type} {possible : ServiceError → Prop} {clear : Bool} {e : Engine} {cause : Cause}
  {c : CaseSnapshot} {clearAdjournment : Bool}

theorem bind {p : Act α} {f : α → Act β} {Q : Bool → α → Prop} {Q' : Bool → β → Prop}
    (h : LooksFirst caseId possible Q clear p)
    (hf : ∀ clear a, Q clear a → LooksFirst caseId possible Q' clear (f a)) :
    LooksFirst caseId possible Q' clear (p >>= f) := by
  induction h with
  | done ha => exact hf _ _ ha
  | look _ _ ihok iherror => exact .look ihok iherror
  | ask _ ih => exact .ask ih
  | routine hroutine _ ih => exact .routine hroutine ih

theorem work_bind {p : Work α} {f : α → Work β} {Q : Bool → Except EngineError α → Prop}
    (h : LooksFirst caseId possible Q clear p.run)
    (hf : ∀ clear a, Q clear (.ok a) → LooksFirst caseId possible anyEnd clear (f a).run) :
    LooksFirst caseId possible anyEnd clear (p >>= f).run := by
  rw [ExceptT.run_bind]
  refine h.bind fun clear result hresult => ?_
  cases result with
  | ok a => exact hf clear a hresult
  | error error => exact .done trivial

/-- An act of routine calls does not ask for a hearing at all. -/
theorem of_makes {p : Act α} (h : Makes (·.isRoutine) p) :
    LooksFirst caseId possible anyEnd clear p := by
  induction h generalizing clear with
  | done a => exact .done trivial
  | call hroutine _ ih => exact .routine hroutine fun reply => ih reply

/-- A look-up that finds nothing has shown that no hearing can be updated. -/
theorem findUpdatable :
    LooksFirst caseId e.Possible (fun clear found => found = .ok none → clear = true) clear
      (e.findUpdatable caseId).run := by
  unfold Engine.findUpdatable
  rw [run_lift_bind]
  refine .look (fun listed => .done fun hnone => ?_) fun source hpossible => ?_
  · rw [Except.ok.inj hnone]
    rfl
  · have hstop : (source.isTransient && e.config.lookupPolicy = .proceed) = false := by
      rcases hpossible with habort | hlasting
      · simp [habort]
      · simp [hlasting]
    dsimp only [Act.bind]
    rw [hstop]
    exact .done fun hnone => nomatch hnone

theorem requestHearing :
    LooksFirst caseId possible anyEnd true
      (e.requestHearing caseId c clearAdjournment cause).run := by
  unfold Engine.requestHearing Engine.assemble
  have hderive : ∀ {value : Derived AssembledRequest},
      LooksFirst caseId possible (fun clear _ => clear = true) true
        (derive caseId HearingAction.create.name value).run := by
    intro value
    unfold derive
    cases value <;> exact .done rfl
  refine hderive.work_bind fun clear assembled hclear => ?_
  subst hclear
  have hask : LooksFirst caseId possible anyEnd true
      (askService caseId HearingAction.create.name (.create assembled.request)).run := by
    unfold askService
    rw [run_lift_bind]
    refine .ask fun reply => ?_
    cases reply <;> exact .done trivial
  exact hask.work_bind fun _ _ _ => of_makes makes_writeBack

theorem create {adjourn : Bool} :
    LooksFirst caseId e.Possible anyEnd clear (e.create caseId adjourn cause).run := by
  unfold Engine.create
  refine (of_makes (makes_readCase (by rfl))).work_bind fun clear stored _ => ?_
  refine findUpdatable.work_bind fun clear found hfound => ?_
  cases found with
  | none =>
    obtain rfl := hfound rfl
    exact requestHearing
  | some target => exact of_makes makes_updateHearing

/-- Whatever the trigger, a unit of work looks before it asks. -/
theorem handle {trigger : Trigger} :
    LooksFirst caseId e.Possible anyEnd clear (e.handle caseId trigger cause).run := by
  cases trigger with
  | createHearing => exact create
  | adjournCreateHearing => exact create
  | updateHearing => exact of_makes makes_update
  | cancelHearing reason => exact of_makes makes_cancel
  | ignored => exact .done trivial

end LooksFirst

/-! ## The invariant -/

namespace Session

variable {e : Engine} {s s' : Session} {event : Event} {events : List Event}

/-- No second hearing is outstanding, and none at all where the unit of work may ask for one. -/
def Safe (e : Engine) (caseId : String) (s : Session) : Prop :=
  outstandingCount s.hearings ≤ 1 ∧ ∀ rest, s.rest = some rest →
    ∃ clear, LooksFirst caseId e.Possible anyEnd clear rest ∧
      (clear = true → outstandingCount s.hearings = 0)

theorem Safe.idle (h : outstandingCount hearings ≤ 1) : Safe e caseId ⟨hearings, none⟩ :=
  ⟨h, fun _ hsome => nomatch hsome⟩

/-- After a call that does not show that the unit of work may ask for a hearing. -/
theorem Safe.busy {rest : Act (Except EngineError SyncResult)}
    (h : outstandingCount hearings ≤ 1) (hlooks : LooksFirst caseId e.Possible anyEnd false rest) :
    Safe e caseId ⟨hearings, some rest⟩ := by
  refine ⟨h, ?_⟩
  rintro _ ⟨⟩
  exact ⟨false, hlooks, by simp⟩

/-- A call is answered while the unit of work looks before it asks. -/
theorem Safe.answered {c : Call} {next : c.Reply → Act (Except EngineError SyncResult)}
    {reply : c.Reply} {clear : Bool} (hcount : outstandingCount hearings ≤ 1)
    (hlooks : LooksFirst caseId e.Possible anyEnd clear (.call c next))
    (hclear : clear = true → outstandingCount hearings = 0)
    (hserves : Serves caseId hearings ⟨c, reply⟩ hearings')
    (hpossible : ∀ source, (⟨c, reply⟩ : Exchange) = ⟨.service (.list caseId), .error source⟩ →
      e.Possible source) :
    Safe e caseId ⟨hearings', some (next reply)⟩ := by
  cases hlooks with
  | look hok herror =>
    cases reply with
    | error source =>
      cases hserves with
      | failed => exact .busy hcount (herror source (hpossible source rfl))
    | ok listed =>
      cases hserves with
      | listed hperm =>
        refine ⟨hcount, ?_⟩
        rintro _ ⟨⟩
        exact ⟨_, hok listed,
          fun hnone => outstandingCount_eq_zero hperm (Option.isNone_iff_eq_none.mp hnone)⟩
  | ask hnext =>
    cases reply with
    | error source =>
      cases hserves with
      | failed => exact .busy hcount (hnext _)
    | ok answer =>
      cases hserves with
      | created hearing => exact .busy (outstandingCount_append_le hearing (hclear rfl)) (hnext _)
  | routine hroutine hnext =>
    exact .busy (Nat.le_trans (hserves.outstandingCount_le hroutine) hcount) (hnext reply)

theorem Step.safe (hstep : Step e caseId s event s')
    (hpossible : ∀ source, event = .call ⟨.service (.list caseId), .error source⟩ →
      e.Possible source)
    (h : s.Safe e caseId) : s'.Safe e caseId := by
  obtain ⟨hcount, hrest⟩ := h
  cases hstep with
  | start trigger cause => exact .busy hcount .handle
  | finish r => exact .idle hcount
  | move hmoved =>
    have hle := hmoved.outstandingCount_le
    refine ⟨Nat.le_trans hle hcount, fun rest hsome => ?_⟩
    obtain ⟨clear, hlooks, hclear⟩ := hrest rest hsome
    exact ⟨clear, hlooks, fun htrue => Nat.le_zero.mp (hclear htrue ▸ hle)⟩
  | call hserves =>
    obtain ⟨clear, hlooks, hclear⟩ := hrest _ rfl
    exact .answered hcount hlooks hclear hserves
      fun source hreply => hpossible source (congrArg Event.call hreply)

theorem Run.safe (hrun : Run e caseId s events s')
    (hpossible : ∀ source, .call ⟨.service (.list caseId), .error source⟩ ∈ events →
      e.Possible source)
    (h : s.Safe e caseId) : s'.Safe e caseId := by
  induction hrun with
  | nil => exact h
  | cons hstep _ ih =>
    refine ih (fun source hmem => hpossible source (List.mem_cons_of_mem _ hmem)) ?_
    exact hstep.safe (fun source hevent => hpossible source (hevent ▸ List.mem_cons_self)) h

end Session

/-! ## No second outstanding hearing -/

/-- A hearing service shows every hearing of a case that it has accepted when it is asked to list
them, starts each hearing as an outstanding one with a new id, and never reopens a hearing; its
calls that fail have no effect. A look-up never fails for the moment, or the policy is to abort
then. If at most one hearing is outstanding at first, then however many triggers are handled one
after the other, whatever the case store says, and whatever hearings move on meanwhile, no second
hearing is ever outstanding. And whenever a create is shown a hearing that can be updated, it asks
for no hearing: it makes a change exactly if the request can be derived, and the change is an update
of the last such hearing, at the version that was listed. All that can follow is the cancellation
that makes up for it. -/
theorem no_second_outstanding {e : Engine} {s : Session} {events : List Session.Event}
    (hlookup : e.config.lookupPolicy = .abort ∨
      ∀ source, .call ⟨.service (.list caseId), .error source⟩ ∈ events →
        source.isTransient = false)
    (hstart : outstandingCount hearings ≤ 1)
    (hrun : Session.Run e caseId ⟨hearings, none⟩ events s) :
    outstandingCount s.hearings ≤ 1 ∧
    ∀ (trigger : Trigger) (cause : Cause) (es : List Exchange) (r : Except EngineError SyncResult)
      (listed : List ListedHearing),
      trigger = .createHearing ∨ trigger = .adjournCreateHearing →
      Runs (e.handle caseId trigger cause).run es r →
      ⟨.service (.list caseId), .ok listed⟩ ∈ es →
      (∃ hearing ∈ listed, hearing.isUpdatable = true) →
      ∃ (current : VersionedCase) (front : List ListedHearing) (last : ListedHearing)
          (back : List ListedHearing) (version : Int64),
        es.head? = some ⟨.store (.read caseId), .ok current⟩ ∧ listed = front ++ last :: back ∧
        last.status.isOutstanding = true ∧ last.requestVersion = some version ∧
        (∀ hearing ∈ back, hearing.isUpdatable = false) ∧
        ((∃ source, e.derivedRequest (current.snapshot.adjournedIf trigger.isAdjournment)
              (some version) = .error source ∧
            changes es = [] ∧
            r = .error ⟨caseId, HearingAction.update.name, .derivation source⟩) ∨
          ∃ (a : AssembledRequest) (reply : Except ServiceError HearingReply)
              (compensation? : Option Change),
            e.derivedRequest (current.snapshot.adjournedIf trigger.isAdjournment)
              (some version) = .ok a ∧
            a.request.request.versionNumber = some version ∧
            changes es = ⟨.update last.hearingId a.request, reply⟩ :: compensation?.toList ∧
            ∀ compensation ∈ compensation?, compensation.call.action? = some .cancel) := by
  refine ⟨?_, ?_⟩
  · have hpossible : ∀ source, .call ⟨.service (.list caseId), .error source⟩ ∈ events →
        e.Possible source := by
      intro source hmem
      exact hlookup.imp_right fun hlasting => hlasting source hmem
    exact (hrun.safe hpossible (.idle hstart)).1
  · rintro trigger cause es r listed (rfl | rfl) h hlisted hupdatable
    · exact create_updates_last_listed h hlisted hupdatable
    · exact create_updates_last_listed h hlisted hupdatable

/-- An engine that fails where it cannot look hearings up. -/
def abortingEngine : Engine :=
  { lateEngine with config := { retry := ⟨0, 0⟩, lookupPolicy := .abort } }

/-- A rehearsal of two creates, with a hearing service that lists what it has accepted. -/
def twiceRehearsal : Rehearsal where
  shelf := [("1", ⟨lateCase, 1⟩)]
  cast := { script := {
    create := [⟨none, .ok ⟨"h", 1, .hearingRequested⟩⟩]
    update := [⟨none, .ok ⟨"h", 2, .updateRequested⟩⟩]
    list := [⟨none, .ok []⟩, ⟨none, .ok [⟨"h", some 1, .hearingRequested⟩]⟩] } }

/-- The second of two creates updates the hearing that the first one has asked for. -/
theorem no_second_outstanding_twice :
    ∃ (es es' : List Exchange) (r r' : Except EngineError SyncResult) (s : Session),
      Session.Run abortingEngine "1" ⟨[], none⟩
        (.start .createHearing :: (es.map .call ++ .finish r ::
          .start .createHearing :: (es'.map .call ++ [.finish r']))) s ∧
      s.hearings.length = 1 ∧ outstandingCount s.hearings ≤ 1 ∧
      ∃ (a : AssembledRequest) (reply : Except ServiceError HearingReply)
          (compensation? : Option Change),
        changes es' = ⟨.update "h" a.request, reply⟩ :: compensation?.toList := by
  let p := (abortingEngine.handle "1" .createHearing ⟨"1", "appeal"⟩).run
  have hfirst := runs_trace Rehearsal.handler p twiceRehearsal
  have hsecond := runs_trace Rehearsal.handler p (p.run Rehearsal.handler twiceRehearsal).2
  have hcreated : ServesAll "1" [] (p.trace Rehearsal.handler twiceRehearsal)
      [⟨"h", 1, .hearingRequested⟩] :=
    .cons (.store _ _ _) <| .cons (.listed (.refl _)) <|
      .cons (.created ⟨"h", 1, .hearingRequested⟩ _ _ (by simp) rfl) <|
      .cons (.store _ _ _) <| .cons (.store _ _ _) <| .nil _
  have hmoved : MovedOn [⟨"h", 1, .hearingRequested⟩] [⟨"h", 2, .updateRequested⟩] :=
    .cons ⟨rfl, fun _ => rfl⟩ .nil
  have hupdated : ServesAll "1" [⟨"h", 1, .hearingRequested⟩]
      (p.trace Rehearsal.handler (p.run Rehearsal.handler twiceRehearsal).2)
      [⟨"h", 2, .updateRequested⟩] :=
    .cons (.store _ _ _) <| .cons (.listed (.refl _)) <| .cons (.updated _ _ _ hmoved) <|
      .cons (.store _ _ _) <| .cons (.store _ _ _) <| .nil _
  have hrun := Session.Run.cons (.start .createHearing _) <| .of_runs hfirst hcreated <|
    .cons (.start .createHearing _) <| .of_runs hsecond hupdated <| .nil _
  have hlisted : ⟨.service (.list "1"), .ok [⟨"h", some 1, .hearingRequested⟩]⟩ ∈
      p.trace Rehearsal.handler (p.run Rehearsal.handler twiceRehearsal).2 :=
    .tail _ (.head _)
  have hlookup : abortingEngine.config.lookupPolicy = .abort := rfl
  have hstart : outstandingCount [] ≤ 1 := Nat.zero_le 1
  obtain ⟨hcount, hupdates⟩ := no_second_outstanding (.inl hlookup) hstart hrun
  obtain ⟨_, front, last, back, _, _, hsplit, _, _, _, ⟨_, _, _, hfailed⟩ |
      ⟨a, reply, compensation?, _, _, hchanges, _⟩⟩ :=
    hupdates .createHearing ⟨"1", "appeal"⟩ _ _ _ (.inl rfl) hsecond hlisted
      ⟨_, List.mem_singleton_self _, rfl⟩
  · cases hfailed
  · have hlast : last = ⟨"h", some 1, .hearingRequested⟩ := by
      have hmem : last ∈ front ++ last :: back := by simp
      rw [← hsplit] at hmem
      exact List.mem_singleton.mp hmem
    rw [hlast] at hchanges
    exact ⟨_, _, _, _, _, hrun, rfl, hcount, a, reply, compensation?, hchanges⟩

end TribunalListing
