-- SUMMARY: What the operations of the case store make of its audit events: an accepted write adds one, nothing else does.
import Mathlib.Data.List.Basic
import TribunalListing.Proofs.Store.Ledger

/-!
# Audit events of the case store

The store numbers its audit events as it takes them in. A store whose tables are there, and whose
events can be read, stays so: a write that is accepted adds one event at the end, for its own case
and at its new version, and no other operation touches the events.
-/

namespace TribunalListing

theorem AuditRow.stored?_ofEvent (eventId : Nat) (version : Int) (event : AuditEvent) :
    (AuditRow.ofEvent eventId version event).stored? = some ⟨eventId, version, event⟩ := rfl

theorem AuditRow.eventId_of_stored? {row : AuditRow} {stored : StoredAuditEvent}
    (h : row.stored? = some stored) : stored.eventId = row.eventId := by
  simp only [stored?, Option.bind_eq_bind, Option.bind_eq_some_iff] at h
  obtain ⟨_, -, _, -, _, -, _, -, _, -, h⟩ := h
  cases h
  rfl

namespace Ledger

variable {s s' : Ledger} {caseId : String} {snapshot : CaseSnapshot} {version : Int}
  {event : AuditEvent}

/-- Both tables are there. The audit events can be read, stand in the order of their ids, and have
ids below the next one. -/
structure Intact (s : Ledger) : Prop where
  cases : ∃ rows, s.cases = some rows
  events : ∃ rows, s.events = some rows ∧ (∀ row ∈ rows, row.stored?.isSome) ∧
    rows.Pairwise (·.eventId < ·.eventId) ∧ ∀ row ∈ rows, row.eventId < s.nextEventId

theorem intact_empty : empty.Intact :=
  ⟨⟨[], rfl⟩, [], rfl, by simp, .nil, by simp⟩

/-- `s'` is `s` with an event of a version added to the audit events. -/
def Records (s : Ledger) (version : Int) (event : AuditEvent) (s' : Ledger) : Prop :=
  ∃ rows, s.events = some rows ∧
    s'.events = some (rows ++ [.ofEvent s.nextEventId version event]) ∧
    s'.nextEventId = s.nextEventId + 1

/-! ## Reading -/

theorem mapM_eq_some_filterMap {α β : Type} {f : α → Option β} {l : List α}
    (h : ∀ a ∈ l, (f a).isSome) : l.mapM f = some (l.filterMap f) := by
  induction l with
  | nil => rfl
  | cons a l ih =>
    obtain ⟨hfirst, hrest⟩ := List.forall_mem_cons.mp h
    obtain ⟨b, hb⟩ := Option.isSome_iff_exists.mp hfirst
    simp [List.mapM_cons, ih hrest, hb]

theorem auditEvents_eq {rows : List AuditRow} (hrows : s.events = some rows)
    (hreadable : ∀ row ∈ rows, row.stored?.isSome) (caseId : String) :
    s.auditEvents caseId = .ok ((rows.filter (·.caseId == caseId)).filterMap (·.stored?)) := by
  have hmap := mapM_eq_some_filterMap fun row hrow =>
    hreadable row (List.mem_of_mem_filter (p := (·.caseId == caseId)) hrow)
  simp [auditEvents, auditTable, hrows, hmap, bind, Except.bind, pure, Except.pure]

/-- The audit events of a case come in the order of their ids. -/
theorem Intact.auditEvents (h : s.Intact) (caseId : String) :
    ∃ events, s.auditEvents caseId = .ok events ∧ events.Pairwise (·.eventId < ·.eventId) := by
  obtain ⟨rows, hrows, hreadable, hordered, -⟩ := h.events
  refine ⟨_, auditEvents_eq hrows hreadable caseId, ?_⟩
  refine (hordered.filter _).filterMap _ fun row row' hlt stored hstored stored' hstored' => ?_
  rw [AuditRow.eventId_of_stored? hstored, AuditRow.eventId_of_stored? hstored']
  exact hlt

/-- An event that is added stands at the end of the events of its case. -/
theorem Records.auditEvents {events : List StoredAuditEvent} (h : Records s version event s')
    (hintact : s.Intact) (hevents : s.auditEvents caseId = .ok events) :
    s'.auditEvents caseId = .ok (events ++
      if event.caseId = caseId then [⟨s.nextEventId, version, event⟩] else []) := by
  obtain ⟨rows, hrows, hrows', -⟩ := h
  obtain ⟨_, hsame, hreadable, -⟩ := hintact.events
  obtain rfl := Option.some.inj (hrows.symm.trans hsame)
  have hreadable' : ∀ row ∈ rows ++ [.ofEvent s.nextEventId version event], row.stored?.isSome :=
    List.forall_mem_append.mpr ⟨hreadable, by simp [AuditRow.stored?_ofEvent]⟩
  rw [auditEvents_eq hrows hreadable] at hevents
  obtain rfl := Except.ok.inj hevents
  rw [auditEvents_eq hrows' hreadable', List.filter_append, List.filterMap_append]
  by_cases hid : event.caseId = caseId
  · subst hid
    simp [AuditRow.ofEvent, AuditRow.stored?]
  · simp [hid, AuditRow.ofEvent]

/-! ## Operations -/

theorem Records.intact (h : Records s version event s') (hintact : s.Intact)
    (hcases : ∃ rows, s'.cases = some rows) : s'.Intact := by
  obtain ⟨rows, hrows, hrows', hnext⟩ := h
  obtain ⟨_, hsame, hreadable, hordered, hbelow⟩ := hintact.events
  obtain rfl := Option.some.inj (hrows.symm.trans hsame)
  refine ⟨hcases, _, hrows', ?_, ?_, ?_⟩
  · exact List.forall_mem_append.mpr ⟨hreadable, by simp [AuditRow.stored?_ofEvent]⟩
  · refine List.pairwise_append.mpr ⟨hordered, List.pairwise_singleton _ _, ?_⟩
    intro row hrow row' hrow'
    obtain rfl := List.mem_singleton.mp hrow'
    exact hbelow row hrow
  · rw [hnext]
    refine List.forall_mem_append.mpr ⟨fun row hrow => Nat.lt_succ_of_lt (hbelow row hrow), ?_⟩
    simp [AuditRow.ofEvent]

/-- A write that succeeds records its event, at the version that it gives. -/
theorem records_of_writeCase {expected : Int}
    (h : s.writeCase caseId snapshot expected event = .ok (version, s')) :
    Records s version event s' ∧ ∃ rows, s'.cases = some rows := by
  obtain ⟨rows, row, events, -, -, -, hevents, -, rfl⟩ := writeCase_eq_ok h
  exact ⟨⟨events, hevents, rfl, rfl⟩, _, rfl⟩

/-- A write that is accepted records its event, at the version that it gives. -/
theorem records_of_answer {expected : Int}
    (h : s.answer (.write caseId snapshot expected event) = (.ok version, s')) :
    Records s version event s' ∧ ∃ rows, s'.cases = some rows := by
  rcases hwrite : s.writeCase caseId snapshot expected event with e | ⟨version', s''⟩
  · simp only [answer, hwrite, commit] at h
    cases h
  · simp only [answer, hwrite, commit] at h
    cases h
    exact records_of_writeCase hwrite

theorem Intact.answer {c : StoreCall} {reply : Except StoreError c.Answer} (h : s.Intact)
    (hanswer : s.answer c = (reply, s')) : s'.Intact := by
  cases c with
  | read caseId =>
    rw [(answer_read hanswer).1]
    exact h
  | write caseId snapshot expected event =>
    rcases answer_write hanswer with ⟨rfl, -⟩ | ⟨rfl, -⟩
    · exact h
    · obtain ⟨hrecords, hcases⟩ := records_of_answer hanswer
      exact hrecords.intact h hcases

/-- Putting a case leaves the audit events as they are. -/
theorem events_commit_putCase (s : Ledger) (snapshot : CaseSnapshot) :
    (s.commit (s.putCase snapshot)).2.events = s.events ∧
      (s.commit (s.putCase snapshot)).2.nextEventId = s.nextEventId := by
  unfold putCase caseTable
  cases s.cases with
  | none => exact ⟨rfl, rfl⟩
  | some rows => exact ⟨rfl, rfl⟩

theorem auditEvents_commit_putCase (s : Ledger) (snapshot : CaseSnapshot) (caseId : String) :
    (s.commit (s.putCase snapshot)).2.auditEvents caseId = s.auditEvents caseId := by
  rw [Ledger.auditEvents, auditTable, (events_commit_putCase s snapshot).1]
  rfl

/-- A case that is put into a store whose tables are there can be read. -/
theorem Intact.commit_putCase (h : s.Intact) (snapshot : CaseSnapshot) :
    (s.commit (s.putCase snapshot)).2.Intact ∧
      ∃ version, (s.commit (s.putCase snapshot)).2.getCase snapshot.caseId =
        .ok ⟨snapshot, version⟩ := by
  obtain ⟨hevents, hnext⟩ := events_commit_putCase s snapshot
  obtain ⟨rows, hrows⟩ := h.cases
  cases hput : s.putCase snapshot with
  | error e => simp [putCase, caseTable, hrows, bind, Except.bind, pure, Except.pure] at hput
  | ok result =>
    obtain ⟨version, s'⟩ := result
    rw [hput] at hevents hnext
    obtain ⟨-, hstores⟩ := stores_of_putCase hput
    have hrow : s'.row? snapshot.caseId = some ⟨snapshot.caseId, some snapshot, version⟩ := by
      rw [hstores, if_pos rfl]
    refine ⟨⟨?_, ?_⟩, version, getCase_eq_ok_iff.mpr hrow⟩
    · obtain ⟨rows', hrows', -⟩ := Option.bind_eq_some_iff.mp hrow
      exact ⟨rows', hrows'⟩
    · rw [hevents, hnext]
      exact h.events

end Ledger

end TribunalListing
