-- SUMMARY: The audit events of a case chain up: one for each accepted write, from the history before it to the one after it.
import TribunalListing.Proofs.Hearing.Text
import TribunalListing.Proofs.Store.Audit
import TribunalListing.Proofs.Sync.Interleaving
import TribunalListing.Proofs.Sync.Stored

/-!
# The audit trail

An audit event is made from the snapshot that an attempt has read, long before the write is
accepted. It tells the truth all the same: a write is accepted only while the case is the one that
was read. So the events of a case since it was put form a chain. Each begins with the text that the
one before it ends with, and stands for one accepted write and one version. Nothing else adds an
event.
-/

namespace TribunalListing

open Act Ledger

/-! ## Chains -/

/-- Audit events that lead from a case at a version, with a history of some text, to the case at a
later version: each one has the next version, and begins where the one before it ends. -/
inductive AuditChain : Int → HistoryText → List StoredAuditEvent → Int → HistoryText → Prop where
  | nil (version : Int) (text : HistoryText) : AuditChain version text [] version text
  | cons {version last : Int} {text : HistoryText} {e : StoredAuditEvent}
      {events : List StoredAuditEvent} :
      e.caseVersion = version + 1 → AuditChain e.caseVersion e.event.after events last text →
      AuditChain version e.event.before (e :: events) last text

theorem AuditChain.append {version between last : Int} {text midText lastText : HistoryText}
    {events events' : List StoredAuditEvent} (h : AuditChain version text events between midText)
    (h' : AuditChain between midText events' last lastText) :
    AuditChain version text (events ++ events') last lastText := by
  induction h with
  | nil => exact h'
  | cons hversion _ ih => exact .cons hversion (ih h')

theorem AuditChain.last_eq {version last : Int} {text lastText : HistoryText}
    {events : List StoredAuditEvent} (h : AuditChain version text events last lastText) :
    last = version + events.length := by
  induction h with
  | nil => simp
  | cons hversion _ ih =>
    rw [ih, hversion, List.length_cons]
    push_cast
    omega

/-- The audit event of a merge leads from the snapshot that was merged into to the merged one. -/
theorem auditChain_auditEvent {o : Outcome} {caseId : String} {actor : Actor} {cause : Cause}
    {before after : CaseSnapshot} {eventId : Nat} {version : Int} :
    AuditChain version (.of before.hearings)
      [⟨eventId, version + 1, o.auditEvent caseId actor cause before after⟩] (version + 1)
      (.of after.hearings) :=
  .cons (e := ⟨eventId, version + 1, o.auditEvent caseId actor cause before after⟩) rfl (.nil _ _)

/-- The version and the audit event of a write of the case that the store has accepted. -/
def Act.Exchange.accepted? (caseId : String) : Exchange → Option (Int × AuditEvent)
  | ⟨.store (.write id _ _ event), .ok version⟩ =>
    if id = caseId then some (version, event) else none
  | ⟨.store (.write _ _ _ _), .error _⟩ | ⟨.store (.read _), _⟩ | ⟨.service _, _⟩ => none

/-- The version and the audit event, where the move is a write of the case that is accepted. -/
def Move.accepted? (caseId : String) : Move → Option (Int × AuditEvent)
  | .call _ x => x.accepted? caseId
  | .start _ | .put _ => none

theorem Act.Exchange.accepted?_error (caseId : String) {c : StoreCall} (error : StoreError) :
    Exchange.accepted? caseId ⟨.store c, .error error⟩ = none := by
  cases c <;> rfl

/-! ## Steps -/

variable {m m' m₀ m₁ : World} {move : Move} {moves moves₀ : List Move} {caseId : String}
  {stored : VersionedCase} {earlier : List StoredAuditEvent}

theorem Step.intact (hstep : Step m move m') (h : m.ledger.Intact) : m'.ledger.Intact := by
  cases hstep with
  | start work => exact h
  | put snapshot => exact (h.commit_putCase snapshot).1
  | store _ hanswer => exact h.answer hanswer
  | storeDown error _ => exact h
  | service _ => exact h

theorem Run.intact (hrun : Run m moves m') (h : m.ledger.Intact) : m'.ledger.Intact := by
  induction hrun with
  | nil => exact h
  | cons hstep _ ih => exact ih (hstep.intact h)

/-- A chain of audit events has come into the store for the case: it starts with the case as it was
stored, and ends with the case as it is stored now. -/
def World.Continues (m : World) (caseId : String) (stored : VersionedCase)
    (earlier : List StoredAuditEvent) (accepted : List (Int × AuditEvent)) : Prop :=
  ∃ events later, m.ledger.auditEvents caseId = .ok (earlier ++ events) ∧
    m.ledger.getCase caseId = .ok later ∧
    events.map (fun e => (e.caseVersion, e.event)) = accepted ∧
    AuditChain stored.version (.of stored.snapshot.hearings) events later.version
      (.of later.snapshot.hearings)

theorem World.continues_refl (hstored : m.ledger.getCase caseId = .ok stored)
    (hevents : m.ledger.auditEvents caseId = .ok earlier) :
    m.Continues caseId stored earlier [] :=
  ⟨[], stored, by simpa using hevents, hstored, rfl, .nil _ _⟩

/-- What a step adds to the audit events of a case that nobody puts: the event of a write of the
case that is accepted, and otherwise nothing. -/
theorem Step.continues (hstep : Step m move m') (h : m.Sound) (hintact : m.ledger.Intact)
    (hput : ∀ snapshot, move = .put snapshot → snapshot.caseId ≠ caseId)
    (hstored : m.ledger.getCase caseId = .ok stored)
    (hevents : m.ledger.auditEvents caseId = .ok earlier) :
    m'.Continues caseId stored earlier (move.accepted? caseId).toList := by
  have hsame : m'.ledger = m.ledger → move.accepted? caseId = none →
      m'.Continues caseId stored earlier (move.accepted? caseId).toList := by
    intro hledger hnone
    rw [hnone]
    exact World.continues_refl (hledger ▸ hstored) (hledger ▸ hevents)
  cases hstep with
  | start work => exact hsame rfl rfl
  | put snapshot =>
    apply World.continues_refl
    · rcases stores_commit_putCase m.ledger snapshot with heq | ⟨version, -, hstores⟩
      · rw [heq, hstored]
      · exact hstores.getCase_of_ne (hput snapshot rfl).symm hstored
    · rw [auditEvents_commit_putCase, hevents]
  | storeDown error _ => exact hsame rfl (Exchange.accepted?_error caseId error)
  | service _ => exact hsame rfl rfl
  | @store i work c next reply ledger htask hanswer =>
    cases c with
    | read id => exact hsame (answer_read hanswer).1 rfl
    | write id snapshot expected event =>
      rcases answer_write hanswer with ⟨rfl, error, rfl⟩ | ⟨rfl, -, hstores⟩
      · exact hsame rfl rfl
      · obtain ⟨hrecords, -⟩ := records_of_answer hanswer
        have hevents' := hrecords.auditEvents hintact hevents
        obtain ⟨task, before, -, -, hbefore, -, hevent⟩ := h.event_of_accepted
          (.store (c := .write ..) htask hanswer)
        have heventId : event.caseId = id := by
          rw [hevent]
          rfl
        rw [heventId] at hevents'
        by_cases hid : id = caseId
        · subst hid
          obtain rfl : stored = ⟨before, expected⟩ := Except.ok.inj (hstored.symm.trans hbefore)
          rw [if_pos rfl] at hevents'
          refine ⟨_, ⟨snapshot, expected + 1⟩, hevents', ?_, ?_, ?_⟩
          · rw [getCase_eq_ok_iff, hstores, if_pos rfl]
          · simp [Move.accepted?, Exchange.accepted?]
          · rw [hevent]
            exact auditChain_auditEvent
        · -- the write is one of another case, and so is its event
          have hnone : Move.accepted? caseId
              (.call i ⟨.store (.write id snapshot expected event), .ok (expected + 1)⟩) = none :=
            if_neg hid
          rw [hnone]
          apply World.continues_refl (hstores.getCase_of_ne (Ne.symm hid) hstored)
          rw [hevents', if_neg hid, List.append_nil]

theorem Run.continues (hrun : Run m moves m') (h : m.Sound) (hintact : m.ledger.Intact)
    (hput : ∀ snapshot, .put snapshot ∈ moves → snapshot.caseId ≠ caseId)
    (hstored : m.ledger.getCase caseId = .ok stored)
    (hevents : m.ledger.auditEvents caseId = .ok earlier) :
    m'.Continues caseId stored earlier (moves.filterMap (·.accepted? caseId)) := by
  induction hrun generalizing stored earlier with
  | nil => exact World.continues_refl hstored hevents
  | @cons m m' m'' move moves hstep _ ih =>
    obtain ⟨events, later, hevents', hlater, haccepted, hchain⟩ := hstep.continues h hintact
      (fun snapshot hmove => hput snapshot (hmove ▸ List.mem_cons_self)) hstored hevents
    obtain ⟨events', latest, hevents'', hlatest, haccepted', hchain'⟩ := ih (hstep.sound h)
      (hstep.intact hintact) (fun snapshot hmem => hput snapshot (List.mem_cons_of_mem _ hmem))
      hlater hevents'
    refine ⟨events ++ events', latest, by rw [hevents'', List.append_assoc], hlatest, ?_,
      hchain.append hchain'⟩
    rw [List.map_append, haccepted, haccepted']
    cases hmove : move.accepted? caseId <;> simp [hmove]

/-! ## The trail of a case -/

/-- A write that is accepted changes the text of the history exactly if it changes the history. -/
theorem World.Sound.text_ne_iff (h : m.Sound) {i : Nat} {snapshot : CaseSnapshot}
    {expected version : Int} {event : AuditEvent}
    (hstep : Step m (.call i ⟨.store (.write caseId snapshot expected event), .ok version⟩) m') :
    ∃ before, m.ledger.getCase caseId = .ok ⟨before, expected⟩ ∧
      m'.ledger.getCase caseId = .ok ⟨snapshot, version⟩ ∧
      event.before = .of before.hearings ∧ event.after = .of snapshot.hearings ∧
      (event.before ≠ event.after ↔ before.hearings ≠ snapshot.hearings) := by
  obtain ⟨task, before, -, -, hbefore, hmerge, hevent⟩ := h.event_of_accepted hstep
  obtain ⟨-, -, -, -, -, -, -, hstores⟩ := h.accepted hstep
  have hbeforeText : event.before = .of before.hearings := by
    rw [hevent]
    rfl
  have hafterText : event.after = .of snapshot.hearings := by
    rw [hevent]
    rfl
  refine ⟨before, hbefore, ?_, hbeforeText, hafterText, ?_⟩
  · rw [getCase_eq_ok_iff, hstores, if_pos rfl]
  · rw [hbeforeText, hafterText, Outcome.hearings_of_mergeInto hmerge]
    exact not_congr (eq_comm.trans (HistoryText.of_merge_eq_iff.trans eq_comm))

/-- A write-back of which the store accepts a write succeeds, with a last call that is this write,
and it had something to merge. -/
theorem WriteBack.written_of_perform {w : WriteBack} {es : List Exchange}
    {r : Except EngineError Int} (h : Runs w.perform.run es r) (hwrites : writes es ≠ []) :
    ∃ front current updated version, r = .ok version ∧ writes front = [] ∧
      es = front ++ [⟨.store (w.writeCall current updated), .ok version⟩] ∧
      w.outcome.mergeInto current.snapshot = some updated := by
  cases r with
  | error error =>
    rcases perform_shows h with ⟨_, hok, -⟩ | ⟨_, -, -, -, hnil⟩ | ⟨_, -, -, -, -, hnil⟩
    · cases hok
    · exact absurd hnil hwrites
    · exact absurd hnil hwrites
  | ok version =>
    obtain ⟨front, x, rfl, hnil, hlast⟩ := exists_last_of_perform h
    rcases hlast with ⟨current, rfl, -, -⟩ | ⟨current, updated, rfl, hmerge⟩
    · rw [writes_append, hnil] at hwrites
      exact absurd rfl hwrites
    · exact ⟨front, current, updated, version, rfl, hnil, rfl, hmerge⟩

/-- A case is put into the store, and from then on write-backs take turns on it in any order, while
others put other cases. The audit events of the case come in the order of their ids, and those that
have come since the put are the events of the writes of the case that were accepted, one for each.
They chain up: the first one has the version that follows on that of the put and begins with the
history that was put, each further one has the next version and begins where the one before it ends,
and the last one has the current version and ends with the history that is stored. The two texts of
an event are those of the histories before and after its write, and they differ exactly if the
histories do. A write-back that fails, or finds nothing to merge, has no write accepted, and so it
adds no event. -/
theorem audit_chain {start : Ledger} {snapshot : CaseSnapshot} (hstart : start.Intact)
    (hbefore : Run ⟨start, []⟩ moves₀ m₀) (hput : Step m₀ (.put snapshot) m₁)
    (hrun : Run m₁ moves m)
    (hlast : ∀ other, .put other ∈ moves → other.caseId ≠ snapshot.caseId) :
    (∃ version earlier events stored,
      m₁.ledger.getCase snapshot.caseId = .ok ⟨snapshot, version⟩ ∧
      m₁.ledger.auditEvents snapshot.caseId = .ok earlier ∧
      m.ledger.auditEvents snapshot.caseId = .ok (earlier ++ events) ∧
      (earlier ++ events).Pairwise (·.eventId < ·.eventId) ∧
      m.ledger.getCase snapshot.caseId = .ok stored ∧
      events.map (fun e => (e.caseVersion, e.event)) =
        moves.filterMap (·.accepted? snapshot.caseId) ∧
      AuditChain version (.of snapshot.hearings) events stored.version
        (.of stored.snapshot.hearings)) ∧
    (∀ (i : Nat) (caseId : String) (updated : CaseSnapshot) (expected : Int) (event : AuditEvent)
        (version : Int) (m' : World),
      Step m (.call i ⟨.store (.write caseId updated expected event), .ok version⟩) m' →
      ∃ before, m.ledger.getCase caseId = .ok ⟨before, expected⟩ ∧
        m'.ledger.getCase caseId = .ok ⟨updated, version⟩ ∧
        event.before = .of before.hearings ∧ event.after = .of updated.hearings ∧
        (event.before ≠ event.after ↔ before.hearings ≠ updated.hearings)) ∧
    (∀ (w : WriteBack) (es : List Exchange) (r : Except EngineError Int),
      Runs w.perform.run es r → writes es ≠ [] →
      ∃ front current updated version, r = .ok version ∧ writes front = [] ∧
        es = front ++ [⟨.store (w.writeCall current updated), .ok version⟩] ∧
        w.outcome.mergeInto current.snapshot = some updated) := by
  have hsound : m₁.Sound := hput.sound (hbefore.sound fun _ hmem => nomatch hmem)
  have hintact : m₁.ledger.Intact := hput.intact (hbefore.intact hstart)
  refine ⟨?chained, fun _ _ _ _ _ _ _ hstep => (hrun.sound hsound).text_ne_iff hstep,
    fun _ _ _ h hwrites => WriteBack.written_of_perform h hwrites⟩
  case chained =>
    obtain ⟨version, hstored⟩ : ∃ version,
        m₁.ledger.getCase snapshot.caseId = .ok ⟨snapshot, version⟩ := by
      cases hput
      exact ((hbefore.intact hstart).commit_putCase snapshot).2
    obtain ⟨earlier, hearlier, -⟩ := hintact.auditEvents snapshot.caseId
    obtain ⟨events, later, hevents, hlater, haccepted, hchain⟩ :=
      hrun.continues hsound hintact hlast hstored hearlier
    obtain ⟨_, hall, hordered⟩ := (hrun.intact hintact).auditEvents snapshot.caseId
    obtain rfl := Except.ok.inj (hevents.symm.trans hall)
    exact ⟨version, earlier, events, later, hstored, hearlier, hevents, hordered, hlater, haccepted,
      hchain⟩

/-- The appeal is put into an empty store, and its write-back is accepted. -/
def adjournedTrail : List Move :=
  [ .start adjournedWork,
    .call 0 ⟨.store adjournedWork.readCall, .ok ⟨Outcome.adjournedCase, 1⟩⟩,
    .call 0 ⟨.store (adjournedWork.writeCall ⟨Outcome.adjournedCase, 1⟩
      (adjournedWork.outcome.merged Outcome.adjournedCase)), .ok 2⟩ ]

/-- One event comes of it, which leads from the empty history to the one with the hearing. -/
theorem audit_chain_adjourned :
    ∃ m₁ m e stored, Step ⟨.empty, []⟩ (.put Outcome.adjournedCase) m₁ ∧
      Run m₁ adjournedTrail m ∧ m.ledger.auditEvents "1" = .ok [e] ∧ e.caseVersion = 2 ∧
      e.event.before = ⟨""⟩ ∧ e.event.after = ⟨"h@1:HEARING_REQUESTED"⟩ ∧
      m.ledger.getCase "1" = .ok stored ∧ stored.version = 2 := by
  obtain ⟨m₁, m, hput, hput₁, hearlier₁, hrun⟩ :
      ∃ m₁ m, Step ⟨.empty, []⟩ (.put Outcome.adjournedCase) m₁ ∧
        m₁.ledger.getCase "1" = .ok ⟨Outcome.adjournedCase, 1⟩ ∧
        m₁.ledger.auditEvents "1" = .ok [] ∧ Run m₁ adjournedTrail m :=
    ⟨_, _, .put _, rfl, rfl, .cons (.start _) (.cons (.store rfl rfl)
      (.cons (.store (c := .write ..) rfl rfl) (.nil _)))⟩
  obtain ⟨⟨version, earlier, events, stored, hputVersion, hearlier, hevents, -, hstored, haccepted,
    hchain⟩, -⟩ := audit_chain intact_empty (.nil _) hput hrun (by simp [adjournedTrail])
  obtain rfl := Except.ok.inj (hearlier₁.symm.trans hearlier)
  obtain ⟨-, rfl⟩ := VersionedCase.mk.inj (Except.ok.inj (hput₁.symm.trans hputVersion))
  have hone : adjournedTrail.filterMap (·.accepted? "1") =
      [(2, adjournedWork.outcome.auditEvent "1" .system ⟨"1", "adjournment"⟩ Outcome.adjournedCase
        (adjournedWork.outcome.merged Outcome.adjournedCase))] := rfl
  obtain ⟨e, rfl, he⟩ := List.map_eq_singleton_iff.mp (haccepted.trans hone)
  obtain ⟨hversion, hevent⟩ := Prod.mk.inj he
  refine ⟨m₁, m, e, stored, hput, hrun, hevents, hversion, ?_, ?_, hstored, hchain.last_eq⟩
  · rw [hevent]
    rfl
  · rw [hevent]
    rfl

end TribunalListing
