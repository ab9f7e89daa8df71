-- SUMMARY: What any sequence of operations makes of the case store, read off the operations and their results.
import TribunalListing.Proofs.Store.Audit
import TribunalListing.Proofs.Store.Transaction

/-!
# Sequences of operations

Whatever is done with a case store from its beginning on, the log of the operations and of their
results tells everything about it: which cases there are, each at the last snapshot that was stored
for it and at the number of times that one was stored, and which events were recorded. `Reflects`
says so. It holds of the store without cases and the empty log, and each operation keeps it.
-/

namespace TribunalListing.Ledger

/-! ## Operations -/

/-- An operation of the case store. -/
inductive Operation where
  | put (snapshot : CaseSnapshot)
  | write (caseId : String) (snapshot : CaseSnapshot) (expectedVersion : Int) (event : AuditEvent)
  | get (caseId : String)
  | audit (caseId : String)

/-- What an operation gives unless it fails. -/
abbrev Operation.Result : Operation → Type
  | .put .. | .write .. => Int
  | .get _ => VersionedCase
  | .audit _ => List StoredAuditEvent

/-- Performs an operation. -/
def perform (s : Ledger) : (op : Operation) → Except PersistenceError op.Result × Ledger
  | .put snapshot => s.commit (s.putCase snapshot)
  | .write caseId snapshot expectedVersion event =>
    s.commit (s.writeCase caseId snapshot expectedVersion event)
  | .get caseId => (s.getCase caseId, s)
  | .audit caseId => (s.auditEvents caseId, s)

/-- An operation with its result. -/
structure Performed where
  operation : Operation
  result : Except PersistenceError operation.Result

/-- Performs operations one after the other. Gives the log of them and the store that they leave. -/
def performAll (s : Ledger) : List Operation → List Performed × Ledger
  | [] => ([], s)
  | op :: ops =>
    let rest := (s.perform op).2.performAll ops
    (⟨op, (s.perform op).1⟩ :: rest.1, rest.2)

namespace Performed

/-- The snapshot that was stored for a case, if the operation stored one. -/
def stored? (caseId : String) : Performed → Option CaseSnapshot
  | ⟨.put snapshot, .ok _⟩ => if snapshot.caseId = caseId then some snapshot else none
  | ⟨.write id snapshot _ _, .ok _⟩ => if id = caseId then some snapshot else none
  | _ => none

/-- The event that was recorded for a case, if the operation recorded one, and the version that its
write gave. -/
def recorded? (caseId : String) : Performed → Option (Int × AuditEvent)
  | ⟨.write _ _ _ event, .ok version⟩ =>
    if event.caseId = caseId then some (version, event) else none
  | _ => none

end Performed

/-- The snapshots that were stored for a case, in the order in which they were stored. -/
def storedFor (caseId : String) (log : List Performed) : List CaseSnapshot :=
  log.filterMap (·.stored? caseId)

/-- The events that were recorded for a case, in the order in which they were recorded. -/
def recordedFor (caseId : String) (log : List Performed) : List (Int × AuditEvent) :=
  log.filterMap (·.recorded? caseId)

variable {s s' : Ledger} {log : List Performed} {p : Performed} {caseId : String}
  {snapshot : CaseSnapshot} {version expected : Int} {event : AuditEvent}

theorem storedFor_concat :
    storedFor caseId (log ++ [p]) = storedFor caseId log ++ (p.stored? caseId).toList := by
  rw [storedFor, List.filterMap_append]
  cases h : p.stored? caseId <;> simp [storedFor, h]

theorem recordedFor_concat :
    recordedFor caseId (log ++ [p]) = recordedFor caseId log ++ (p.recorded? caseId).toList := by
  rw [recordedFor, List.filterMap_append]
  cases h : p.recorded? caseId <;> simp [recordedFor, h]

/-! ## Failures -/

theorem perform_put : s.perform (.put snapshot) = s.commit (s.putCase snapshot) := rfl

theorem perform_write : s.perform (.write caseId snapshot expected event) =
    s.commit (s.writeCase caseId snapshot expected event) := rfl

theorem snd_commit_of_error {α : Type} {r : Except PersistenceError (α × Ledger)}
    {e : PersistenceError} (h : (s.commit r).1 = .error e) : (s.commit r).2 = s := by
  cases r with
  | error e => rfl
  | ok result => cases h

/-- What fails changes nothing. -/
theorem perform_of_error {op : Operation} {e : PersistenceError}
    (h : (s.perform op).1 = .error e) : (s.perform op).2 = s := by
  cases op with
  | put snapshot => exact snd_commit_of_error h
  | write caseId snapshot expected event => exact snd_commit_of_error h
  | get caseId => rfl
  | audit caseId => rfl

/-- With both tables there, the rows of two cases decide what comes of a write: that of the case
that is written, and that of the case that its event names. -/
theorem Intact.fst_perform_write (h : s.Intact) :
    (s.perform (.write caseId snapshot expected event)).1 =
      match s.row? caseId with
      | none => .error (.caseNotFound caseId)
      | some row =>
        if row.version ≠ expected then .error (.versionConflict caseId expected)
        else if (s.row? event.caseId).isNone then .error .foreignKey
        else .ok (expected + 1) := by
  obtain ⟨rows, hcases⟩ := h.cases
  obtain ⟨events, hevents, -⟩ := h.events
  rw [perform_write, writeCase_eq, caseTable, auditTable, row?, row?, hcases, hevents]
  simp only [Option.bind_some]
  cases findCase rows caseId with
  | none => rfl
  | some row =>
    dsimp only
    split
    next => rfl
    next =>
      by_cases hunknown : (findCase rows event.caseId).isNone = true
      · rw [if_pos hunknown, if_pos hunknown]
        rfl
      · rw [if_neg hunknown, if_neg hunknown]
        rfl

theorem Intact.getCase_eq_error (h : s.Intact) (hrow : s.row? caseId = none) :
    s.getCase caseId = .error (.caseNotFound caseId) := by
  obtain ⟨rows, hcases⟩ := h.cases
  rw [row?, hcases, Option.bind_some] at hrow
  simp only [getCase, caseTable, hcases, bind, Except.bind, hrow]
  rfl

/-- A write whose event is turned down has set the row of the case already, and only the transaction
around it takes this back. -/
theorem Intact.run_writeStatements (h : s.Intact)
    (hfailed : (s.perform (.write caseId snapshot expected event)).1 = .error .foreignKey) :
    ∃ s', (writeStatements caseId snapshot expected event).run s = .error .foreignKey s' ∧
      Stores s caseId snapshot (expected + 1) s' := by
  obtain ⟨rows, hcases⟩ := h.cases
  obtain ⟨events, hevents, -⟩ := h.events
  have htable : s.caseTable = .ok rows := by rw [caseTable, hcases]
  rw [h.fst_perform_write, row?, row?, hcases] at hfailed
  simp only [Option.bind_some] at hfailed
  cases hrow : findCase rows caseId with
  | none =>
    rw [hrow] at hfailed
    cases hfailed
  | some row =>
    simp only [hrow] at hfailed
    split at hfailed
    next => cases hfailed
    next hversion =>
      split at hfailed
      next hunknown =>
        refine ⟨{ s with cases := some (setCase caseId snapshot (expected + 1) rows) }, ?_,
          stores_of_cases hcases rfl⟩
        rw [run_writeStatements_of_row htable hrow (not_not.mp hversion), auditTable, hevents]
        exact if_pos hunknown
      next => cases hfailed

/-! ## What the log tells -/

/-- The store is as the log tells. -/
structure Reflects (s : Ledger) (log : List Performed) : Prop where
  intact : s.Intact
  /-- A case is there once it was stored, at the last snapshot and at the number of times. -/
  row : ∀ caseId, s.row? caseId = (storedFor caseId log).getLast?.map fun snapshot =>
    ⟨caseId, some snapshot, (storedFor caseId log).length⟩
  /-- The audit events of a case are those that were recorded for it. -/
  events : ∀ caseId, ∃ events, s.auditEvents caseId = .ok events ∧
    events.map (fun e => (e.caseVersion, e.event)) = recordedFor caseId log

namespace Reflects

theorem empty : Ledger.empty.Reflects [] :=
  ⟨intact_empty, fun _ => rfl, fun _ => ⟨[], rfl, rfl⟩⟩

/-- An operation that neither stores nor records anything leaves the store to tell the same. -/
theorem concat_of_eq_none (h : s.Reflects log) (hstored : ∀ caseId, p.stored? caseId = none)
    (hrecorded : ∀ caseId, p.recorded? caseId = none) : s.Reflects (log ++ [p]) := by
  refine ⟨h.intact, fun caseId => ?_, fun caseId => ?_⟩
  · rw [h.row, storedFor_concat, hstored, Option.toList_none, List.append_nil]
  · rw [recordedFor_concat, hrecorded, Option.toList_none, List.append_nil]
    exact h.events caseId

/-- Storing a case at the next version adds one more to the times that it was stored. -/
theorem row_concat (h : s.Reflects log)
    (hstores : Stores s caseId snapshot ((storedFor caseId log).length + 1) s')
    (hp : ∀ other, p.stored? other = if caseId = other then some snapshot else none)
    (other : String) :
    s'.row? other = (storedFor other (log ++ [p])).getLast?.map fun snapshot =>
      ⟨other, some snapshot, (storedFor other (log ++ [p])).length⟩ := by
  rw [hstores, storedFor_concat, hp]
  by_cases hother : other = caseId
  · subst hother
    simp
  · rw [if_neg hother, if_neg (Ne.symm hother), Option.toList_none, List.append_nil, h.row]

/-- Where a case is at a version, that is the number of times that it was stored. -/
theorem version_eq (h : s.Reflects log) {row : CaseRow} (hrow : s.row? caseId = some row) :
    row.version = (storedFor caseId log).length := by
  rw [h.row] at hrow
  obtain ⟨snapshot, -, rfl⟩ := Option.map_eq_some_iff.mp hrow
  rfl

/-- A case that is put is put at one more than the number of times that it was stored. -/
theorem version_put (h : s.Reflects log) :
    (s.row? caseId).elim 1 (·.version + 1) = ((storedFor caseId log).length : Int) + 1 := by
  cases hrow : s.row? caseId with
  | some row => rw [Option.elim_some, h.version_eq hrow]
  | none =>
    rw [h.row, Option.map_eq_none_iff, List.getLast?_eq_none_iff] at hrow
    rw [hrow]
    rfl

/-- A case that is put is stored one more time, and no event is recorded. -/
theorem perform_put (h : s.Reflects log) :
    (s.perform (.put snapshot)).2.Reflects
      (log ++ [⟨.put snapshot, (s.perform (.put snapshot)).1⟩]) := by
  obtain ⟨hintact, -⟩ := h.intact.commit_putCase snapshot
  have hevents := auditEvents_commit_putCase s snapshot
  rcases hput : s.putCase snapshot with e | ⟨version, s'⟩
  · have hperform : s.perform (.put snapshot) = (.error e, s) := by
      rw [Ledger.perform_put, hput]
      rfl
    rw [hperform]
    exact h.concat_of_eq_none (fun _ => rfl) fun _ => rfl
  · have hperform : s.perform (.put snapshot) = (.ok version, s') := by
      rw [Ledger.perform_put, hput]
      rfl
    rw [← Ledger.perform_put, hperform] at hintact hevents
    obtain ⟨hversion, hstores⟩ := stores_of_putCase hput
    rw [hversion, h.version_put] at hstores
    rw [hperform]
    refine ⟨hintact, h.row_concat hstores fun _ => rfl, fun caseId => ?_⟩
    rw [hevents, recordedFor_concat]
    simpa [Performed.recorded?] using h.events caseId

/-- A write that succeeds stores its case one more time and records its event, and any other write
does neither. -/
theorem perform_write (h : s.Reflects log) :
    (s.perform (.write caseId snapshot expected event)).2.Reflects
      (log ++ [⟨.write caseId snapshot expected event,
        (s.perform (.write caseId snapshot expected event)).1⟩]) := by
  rcases hwrite : s.writeCase caseId snapshot expected event with e | ⟨version, s'⟩
  · have hperform : s.perform (.write caseId snapshot expected event) = (.error e, s) := by
      rw [Ledger.perform_write, hwrite]
      rfl
    rw [hperform]
    exact h.concat_of_eq_none (fun _ => rfl) fun _ => rfl
  · have hperform : s.perform (.write caseId snapshot expected event) = (.ok version, s') := by
      rw [Ledger.perform_write, hwrite]
      rfl
    obtain ⟨hrecords, hcases⟩ := records_of_writeCase hwrite
    obtain ⟨⟨old, hrow⟩, hversion, hstores⟩ := stores_of_writeCase hwrite
    obtain rfl : expected = (storedFor caseId log).length := h.version_eq hrow
    rw [hversion] at hstores
    rw [hperform]
    refine ⟨hrecords.intact h.intact hcases, h.row_concat hstores fun _ => rfl, fun other => ?_⟩
    obtain ⟨events, hevents, hrecorded⟩ := h.events other
    refine ⟨_, hrecords.auditEvents h.intact hevents, ?_⟩
    rw [List.map_append, hrecorded, recordedFor_concat]
    by_cases hother : event.caseId = other
    · simp [Performed.recorded?, hother]
    · simp [Performed.recorded?, hother]

/-- Whatever operation is performed next, the store is as the log tells. -/
theorem perform (h : s.Reflects log) (op : Operation) :
    (s.perform op).2.Reflects (log ++ [⟨op, (s.perform op).1⟩]) := by
  cases op with
  | put snapshot => exact h.perform_put
  | write caseId snapshot expected event => exact h.perform_write
  | get caseId => exact h.concat_of_eq_none (fun _ => rfl) fun _ => rfl
  | audit caseId => exact h.concat_of_eq_none (fun _ => rfl) fun _ => rfl

/-- Whatever operations are performed from then on, the store is as the log tells. -/
theorem performAll (h : s.Reflects log) (ops : List Operation) :
    (s.performAll ops).2.Reflects (log ++ (s.performAll ops).1) := by
  induction ops generalizing s log with
  | nil =>
    rw [Ledger.performAll, List.append_nil]
    exact h
  | cons op ops ih =>
    have hrest := ih (h.perform op)
    rw [List.append_assoc] at hrest
    exact hrest

/-- Either a case is in the store and can be read, or it was never stored. -/
theorem row_cases (h : s.Reflects log) (caseId : String) :
    (storedFor caseId log = [] ∧ s.row? caseId = none ∧
        s.getCase caseId = .error (.caseNotFound caseId)) ∨
      ∃ snapshot, (storedFor caseId log).getLast? = some snapshot ∧
        s.row? caseId = some ⟨caseId, some snapshot, (storedFor caseId log).length⟩ ∧
        s.getCase caseId = .ok ⟨snapshot, (storedFor caseId log).length⟩ := by
  have hrow := h.row caseId
  cases hlast : (storedFor caseId log).getLast? with
  | none =>
    rw [hlast, Option.map_none] at hrow
    exact .inl ⟨List.getLast?_eq_none_iff.mp hlast, hrow, h.intact.getCase_eq_error hrow⟩
  | some snapshot =>
    rw [hlast, Option.map_some] at hrow
    exact .inr ⟨snapshot, rfl, hrow, getCase_eq_ok_iff.mpr hrow⟩

end Reflects

/-! ## Any sequence of operations -/

/-- After any operations on a store that was empty at first, a case can be read once it was stored.
It is at the snapshot that was stored last, and its version is the number of operations that stored
it. A write succeeds exactly if its case is at the expected version and the case that its event
names is in the store. Otherwise it fails for the case that is not there, for the version, or for
the event. Whatever operation fails, the store is what it was. This holds although a write sets the
row of its case before its event can be turned down, since the two statements are one transaction.
The audit events of a case are the events of successful writes that name it, in the order of the
writes, at the versions that these gave and with ids that go up. -/
theorem store_tells_its_log {ops : List Operation}
    (h : empty.performAll ops = (log, s)) :
    (∀ caseId, s.getCase caseId =
      match (storedFor caseId log).getLast? with
      | none => .error (.caseNotFound caseId)
      | some snapshot => .ok ⟨snapshot, (storedFor caseId log).length⟩) ∧
    (∀ caseId snapshot expected event,
      ((s.perform (.write caseId snapshot expected event)).1 = .ok (expected + 1) ↔
        (∃ current, s.getCase caseId = .ok ⟨current, expected⟩) ∧
          ∃ other, s.getCase event.caseId = .ok other) ∧
      (s.getCase caseId = .error (.caseNotFound caseId) →
        (s.perform (.write caseId snapshot expected event)).1 = .error (.caseNotFound caseId)) ∧
      (∀ current, s.getCase caseId = .ok current → current.version ≠ expected →
        (s.perform (.write caseId snapshot expected event)).1 =
          .error (.versionConflict caseId expected)) ∧
      (∀ current, s.getCase caseId = .ok ⟨current, expected⟩ →
        s.getCase event.caseId = .error (.caseNotFound event.caseId) →
        (s.perform (.write caseId snapshot expected event)).1 = .error .foreignKey)) ∧
    (∀ op e, (s.perform op).1 = .error e → (s.perform op).2 = s) ∧
    (∀ caseId snapshot expected event,
      s.perform (.write caseId snapshot expected event) =
        transaction (writeStatements caseId snapshot expected event) s ∧
      ((s.perform (.write caseId snapshot expected event)).1 = .error .foreignKey →
        ∃ s', (writeStatements caseId snapshot expected event).run s = .error .foreignKey s' ∧
          Stores s caseId snapshot (expected + 1) s')) ∧
    ∀ caseId, ∃ events, s.auditEvents caseId = .ok events ∧
      events.map (fun e => (e.caseVersion, e.event)) = recordedFor caseId log ∧
      events.Pairwise (·.eventId < ·.eventId) := by
  have hreflects : s.Reflects log := by
    have hall := Reflects.empty.performAll ops
    rw [h] at hall
    exact hall
  refine ⟨fun caseId => ?cases, fun caseId snapshot expected event => ?writes,
    fun op e => perform_of_error,
    fun caseId snapshot expected event => ⟨transaction_writeStatements.symm,
      hreflects.intact.run_writeStatements⟩, fun caseId => ?audit⟩
  case cases =>
    rcases hreflects.row_cases caseId with ⟨hnone, -, hget⟩ | ⟨snapshot, hlast, -, hget⟩
    · rw [hnone, hget]
      rfl
    · rw [hlast, hget]
  case writes =>
    rw [hreflects.intact.fst_perform_write]
    rcases hreflects.row_cases caseId with ⟨-, hrow, hget⟩ | ⟨current, -, hrow, hget⟩
    · simp [hrow, hget]
    · rw [hrow, hget]
      by_cases hversion : (storedFor caseId log).length = expected
      · rcases hreflects.row_cases event.caseId with
          ⟨-, hother, hgetOther⟩ | ⟨_, -, hother, hgetOther⟩
        · simp [hversion, hother, hgetOther]
        · simp [hversion, hother, hgetOther]
      · simp [hversion]
  case audit =>
    obtain ⟨events, hevents, hrecorded⟩ := hreflects.events caseId
    obtain ⟨_, hsame, hordered⟩ := hreflects.intact.auditEvents caseId
    obtain rfl := Except.ok.inj (hevents.symm.trans hsame)
    exact ⟨events, hevents, hrecorded, hordered⟩

/-- An appeal of which not much is known. -/
def bareCase : CaseSnapshot where
  caseId := "1"
  benefitCode := "002"
  issueCode := "DD"

/-- An event of a case. -/
def bareEvent (caseId : String) : AuditEvent :=
  ⟨caseId, .system, ⟨"1", "appealed"⟩, ⟨"create", none⟩, ⟨""⟩, ⟨""⟩⟩

/-- A case that was put and written is at its second version, and a write whose event names another
case leaves it there. -/
theorem store_tells_its_log_refused :
    ∃ log s, empty.performAll [.put bareCase, .write "1" bareCase 1 (bareEvent "1")] = (log, s) ∧
      s.getCase "1" = .ok ⟨bareCase, 2⟩ ∧
      (s.perform (.write "1" bareCase 2 (bareEvent "2"))).1 = .error .foreignKey ∧
      (s.perform (.write "1" bareCase 2 (bareEvent "2"))).2 = s := by
  obtain ⟨log, s, h, hstored, hother⟩ : ∃ log s,
      empty.performAll [.put bareCase, .write "1" bareCase 1 (bareEvent "1")] = (log, s) ∧
        storedFor "1" log = [bareCase, bareCase] ∧ storedFor "2" log = [] := ⟨_, _, rfl, rfl, rfl⟩
  obtain ⟨hcases, hwrites, hfailed, -⟩ := store_tells_its_log h
  have hone : s.getCase "1" = .ok ⟨bareCase, 2⟩ := by
    rw [hcases, hstored]
    rfl
  have htwo : s.getCase "2" = .error (.caseNotFound "2") := by
    rw [hcases, hother]
    rfl
  have hrefused := (hwrites "1" bareCase 2 (bareEvent "2")).2.2.2 _ hone htwo
  exact ⟨log, s, h, hone, hrefused, hfailed _ _ hrefused⟩

end TribunalListing.Ledger
