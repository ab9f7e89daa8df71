-- SUMMARY: What is applied is stored: the outcome is reflected in the case, and only an adjournment trigger ends an adjournment.
import TribunalListing.Proofs.Engine.Sent
import TribunalListing.Proofs.Sync.Durable

/-!
# Durability

At a store that applies writes atomically, a unit of work that is applied has stored its outcome by
its last call, whichever attempt succeeded and whatever others wrote between its calls. Whether an
adjournment is in progress is the one thing that a unit of work may take back: an adjournment
trigger derives its request as if the adjournment were in progress, and ends it with its write-back.
No other trigger touches it, and neither does a unit of work that fails.
-/

namespace TribunalListing

open Act WriteBack

variable {e : Engine} {caseId : String} {cause : Cause} {es : List Exchange}
  {c : CaseSnapshot} {clearAdjournment : Bool} {trigger : Trigger}

/-! ## The write-back of a unit of work -/

theorem Delivered.writtenBack {action : HearingAction} {hearing : HearingRecord} {version : Int}
    (h : Delivered e caseId cause c clearAdjournment es (.applied action hearing version)) :
    ∃ (x : Exchange) (w : WriteBack) (after : List Exchange), es = x :: after ∧
      x.written? = none ∧ w.caseId = caseId ∧ w.outcome.clearAdjournment = clearAdjournment ∧
      Runs w.perform.run after (.ok version) := by
  cases h with
  | intro _ hchange _ hperform =>
    exact ⟨_, _, _, rfl, Exchange.written?_of_change? hchange, rfl, rfl, hperform⟩

/-- A unit of work that is applied ends with a write-back, and writes nothing before it. The
write-back ends an adjournment exactly if the trigger is an adjournment. -/
theorem writtenBack_of_handle {action : HearingAction} {hearing : HearingRecord} {version : Int}
    (h : Runs (e.handle caseId trigger cause).run es (.ok (.applied action hearing version))) :
    ∃ (before : List Exchange) (w : WriteBack) (after : List Exchange),
      es = before ++ after ∧ writes before = [] ∧ w.caseId = caseId ∧
      (w.outcome.clearAdjournment = true ↔ trigger = .adjournCreateHearing) ∧
      Runs w.perform.run after (.ok version) := by
  have hwrites : ∀ {x : Exchange} (current : VersionedCase) (call : ServiceCall)
      (reply : Except ServiceError call.Answer), x.written? = none →
      writes [⟨.store (.read caseId), .ok current⟩, ⟨.service call, reply⟩, x] = [] := by
    intro x current call reply hnone
    show writes [x] = []
    simp [writes, hnone]
  cases trigger with
  | createHearing =>
    obtain ⟨current, reply, _, rfl, hdelivered⟩ := runs_create_ok h
    obtain ⟨x, w, after, rfl, hnone, hid, hclear, hperform⟩ := hdelivered.writtenBack
    exact ⟨[_, _, x], w, after, rfl, hwrites _ _ _ hnone, hid, by simp [hclear], hperform⟩
  | adjournCreateHearing =>
    obtain ⟨current, reply, _, rfl, hdelivered⟩ := runs_create_ok h
    obtain ⟨x, w, after, rfl, hnone, hid, hclear, hperform⟩ := hdelivered.writtenBack
    exact ⟨[_, _, x], w, after, rfl, hwrites _ _ _ hnone, hid, by simp [hclear], hperform⟩
  | updateHearing =>
    obtain ⟨current, hearingId, listed, _, rfl, hdelivered⟩ := runs_update_ok h
    obtain ⟨x, w, after, rfl, hnone, hid, hclear, hperform⟩ := hdelivered.writtenBack
    exact ⟨[_, _, x], w, after, rfl, hwrites _ _ _ hnone, hid, by simp [hclear], hperform⟩
  | cancelHearing reason =>
    obtain ⟨current, hearingId, reply, after, written, rfl, hperform, happlied⟩ := runs_cancel_ok h
    obtain ⟨-, -, rfl⟩ := SyncResult.applied.inj happlied
    exact ⟨[_, _], _, after, rfl, rfl, rfl, by simp, hperform⟩
  | ignored => cases (runs_work_pure_iff.mp h).2

/-- A unit of work that is not applied writes nothing. -/
theorem writes_of_handle {r : Except EngineError SyncResult}
    (h : Runs (e.handle caseId trigger cause).run es r)
    (hr : r = .ok .ignored ∨ ∃ error, r = .error error) : writes es = [] := by
  cases handle_course h with
  | stopped hquiet _ => exact hquiet.2
  | acted hquiet hchange _ hfollowed =>
    rw [writes_append, hquiet.2]
    simpa [writes, Exchange.written?_of_change? hchange] using hfollowed.ending.writes_eq_nil hr

/-! ## Adjournments -/

variable {ms : List Moment}

theorem adjourned?_of_writes (hatomic : ∀ m ∈ ms, m.Atomic caseId)
    (hwrites : writes (exchanges ms) = []) : ∀ m ∈ ms, adjourned? m.after = adjourned? m.before :=
  fun m hm => congrArg adjourned? (after_eq_of_writes hatomic hwrites m hm)

/-- A trigger that is applied and is no adjournment leaves it as it is whether an adjournment is in
progress. -/
theorem adjourned?_of_applied {action : HearingAction} {hearing : HearingRecord} {version : Int}
    (hatomic : ∀ m ∈ ms, m.Atomic caseId) (htell : VersionsTell ms)
    (h : Runs (e.handle caseId trigger cause).run (exchanges ms)
      (.ok (.applied action hearing version)))
    (htrigger : trigger ≠ .adjournCreateHearing) :
    ∀ m ∈ ms, adjourned? m.after = adjourned? m.before := by
  obtain ⟨before, w, after, hes, hwrites, rfl, hclear, hperform⟩ := writtenBack_of_handle h
  obtain ⟨ms₁, ms₂, rfl, rfl, rfl⟩ := exchanges_eq_append_iff.mp hes
  obtain ⟨hatomic₁, hatomic₂⟩ := List.forall_mem_append.mp hatomic
  have hkeep : w.outcome.clearAdjournment = false := by
    rw [Bool.eq_false_iff, ne_eq, hclear]
    exact htrigger
  refine List.forall_mem_append.mpr ⟨adjourned?_of_writes hatomic₁ hwrites, fun m hm => ?_⟩
  exact (merges_of_perform hperform hatomic₂ htell.drop m hm).adjourned?_eq hkeep

/-- At a store that applies writes atomically, whatever it replies and whatever others write between
the calls: when a write-back has succeeded, its last call shows that the store holds a case at the
version that it gives, and the outcome is reflected in that case. When an adjournment trigger is
applied, the adjournment is not in progress there, although the request that was sent was derived as
if it were. A unit of work that fails leaves it as it is whether an adjournment is in progress, and
so does every other trigger, provided that a version tells which case it is. -/
theorem applied_is_durable (hatomic : ∀ m ∈ ms, m.Atomic caseId) :
    (∀ (w : WriteBack) (version : Int), w.caseId = caseId →
      Runs w.perform.run (exchanges ms) (.ok version) →
      ∃ stored, LastHeld ms ⟨stored, version⟩ ∧ w.outcome.Reflected stored) ∧
    (∀ (e : Engine) (cause : Cause) (action : HearingAction) (hearing : HearingRecord)
        (version : Int),
      Runs (e.handle caseId .adjournCreateHearing cause).run (exchanges ms)
        (.ok (.applied action hearing version)) →
      (∃ current a version', (exchanges ms).head? = some ⟨.store (.read caseId), .ok current⟩ ∧
        assembleRequest { current.snapshot with adjournment.inProgress := true } e.reference
          e.config.derivation version' = .ok a ∧
        requests (exchanges ms) = [a.request]) ∧
      ∃ stored, LastHeld ms ⟨stored, version⟩ ∧ stored.adjournment.inProgress = false) ∧
    (∀ (e : Engine) (trigger : Trigger) (cause : Cause) (r : Except EngineError SyncResult),
      Runs (e.handle caseId trigger cause).run (exchanges ms) r →
      ((∃ error, r = .error error) ∨ (trigger ≠ .adjournCreateHearing ∧ VersionsTell ms)) →
      ∀ m ∈ ms, adjourned? m.after = adjourned? m.before) := by
  refine ⟨?written, ?ended, ?kept⟩
  case written =>
    rintro w version rfl h
    exact reflected_of_perform hatomic h
  case ended =>
    intro e cause action hearing version h
    refine ⟨?_, ?_⟩
    · obtain ⟨current, reply, after, hes, hdelivered⟩ := runs_create_ok h
      cases hdelivered with
      | intro hassembled hchange hrequest hperform =>
        have hrequests := requests_of_perform hchange hrequest hperform
        rw [hes]
        exact ⟨current, _, _, rfl, hassembled, hrequests⟩
    · obtain ⟨before, w, after, hes, -, rfl, hclear, hperform⟩ := writtenBack_of_handle h
      obtain ⟨ms₁, ms₂, rfl, rfl, rfl⟩ := exchanges_eq_append_iff.mp hes
      obtain ⟨-, hatomic₂⟩ := List.forall_mem_append.mp hatomic
      obtain ⟨stored, hlast, hreflected⟩ := reflected_of_perform hatomic₂ hperform
      exact ⟨stored, hlast.append ms₁, hreflected.settled (hclear.mpr rfl)⟩
  case kept =>
    intro e trigger cause r h hr
    rcases r with error | (⟨action, hearing, version⟩ | _)
    · exact adjourned?_of_writes hatomic (writes_of_handle h (.inr ⟨error, rfl⟩))
    · obtain ⟨_, herror⟩ | ⟨htrigger, htell⟩ := hr
      · cases herror
      · exact adjourned?_of_applied hatomic htell h htrigger
    · exact adjourned?_of_writes hatomic (writes_of_handle h (.inl rfl))

/-- A hearing service that answers from a script and leaves the store alone. -/
def scriptedService : Http.ServiceHandler Cast :=
  fun c world => world.2.answer (fun ledger _ => ledger) c world.1

theorem scriptedService_ledger (c : ServiceCall) (world : Ledger × Cast) :
    (scriptedService c world).2.1 = world.1 := by
  obtain ⟨ledger, cast⟩ := world
  show ((cast.script.take c).1.meanwhile.map fun _ => ledger).getD ledger = ledger
  cases (cast.script.take c).1.meanwhile <;> rfl

/-- A store with an appeal in it whose hearing was adjourned, and a service that accepts the next
hearing. -/
def adjournedWorld : Ledger × Cast :=
  (⟨some [⟨"1", some { lateCase with adjournment.inProgress := true }, 1⟩], some [], 1⟩,
    { script := { create := [⟨none, .ok ⟨"h", 1, .hearingRequested⟩⟩], list := [⟨none, .ok []⟩] } })

/-- An adjournment trigger finds the adjournment in progress at its first call, and it is over after
the last one. The trigger for a new hearing finds it in progress, too, and leaves it as it is. -/
theorem applied_is_durable_adjourned :
    (∃ ms m stored, ms.head? = some m ∧ adjourned? m.before = some true ∧
      Runs (lateEngine.handle "1" .adjournCreateHearing ⟨"1", "appeal"⟩).run (exchanges ms)
        (.ok (.applied .create ⟨"h", 1, .hearingRequested⟩ 2)) ∧
      LastHeld ms ⟨stored, 2⟩ ∧ stored.adjournment.inProgress = false) ∧
    ∃ ms m, ms.head? = some m ∧ adjourned? m.before = some true ∧ VersionsTell ms ∧
      Runs (lateEngine.handle "1" .createHearing ⟨"1", "appeal"⟩).run (exchanges ms)
        (.ok (.applied .create ⟨"h", 1, .hearingRequested⟩ 2)) ∧
      ∀ m ∈ ms, adjourned? m.after = adjourned? m.before := by
  have hreadable : adjournedWorld.1.Readable "1" := by
    intro row hrow
    cases hrow
    rfl
  have hatomic : ∀ trigger, ∀ m ∈ (lateEngine.handle "1" trigger ⟨"1", "appeal"⟩).run.moments
      (Http.handler scriptedService) (·.1.held "1") adjournedWorld, m.Atomic "1" :=
    fun _ => Http.atomic_moments scriptedService_ledger _ adjournedWorld hreadable
  have hruns : ∀ trigger, ((lateEngine.handle "1" trigger ⟨"1", "appeal"⟩).run.run
      (Http.handler scriptedService) adjournedWorld).1 =
        .ok (.applied .create ⟨"h", 1, .hearingRequested⟩ 2) →
      Runs (lateEngine.handle "1" trigger ⟨"1", "appeal"⟩).run
        (exchanges ((lateEngine.handle "1" trigger ⟨"1", "appeal"⟩).run.moments
          (Http.handler scriptedService) (·.1.held "1") adjournedWorld))
        (.ok (.applied .create ⟨"h", 1, .hearingRequested⟩ 2)) := by
    intro trigger hrun
    rw [← hrun, exchanges_moments]
    exact runs_trace _ _ _
  constructor
  · obtain ⟨-, hended, -⟩ := applied_is_durable (hatomic .adjournCreateHearing)
    obtain ⟨-, stored, hlast, hflag⟩ := hended _ _ _ _ _ (hruns _ rfl)
    exact ⟨_, _, stored, rfl, rfl, hruns _ rfl, hlast, hflag⟩
  · obtain ⟨-, -, hkept⟩ := applied_is_durable (hatomic .createHearing)
    have htell : VersionsTell ((lateEngine.handle "1" .createHearing ⟨"1", "appeal"⟩).run.moments
        (Http.handler scriptedService) (·.1.held "1") adjournedWorld) := by
      apply Http.versionsTell_moments
      intro c world
      rw [scriptedService_ledger]
      exact .refl world.1
    exact ⟨_, _, rfl, rfl, htell, hruns _ rfl, hkept _ _ _ _ (hruns _ rfl) (.inr ⟨nofun, htell⟩)⟩

end TribunalListing
