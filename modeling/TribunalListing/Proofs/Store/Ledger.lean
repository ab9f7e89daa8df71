-- SUMMARY: What the operations of the case store make of its rows: versions only go up, and other cases stay.
import TribunalListing.Store.Ledger

/-!
# Rows of the case store

Whatever is stored is stored in one row, the row of its case, and at a higher version than before.
So a row either is what it was, or it has a higher version, and a version never comes back with
another snapshot.
-/

namespace TribunalListing.Ledger

variable {s s' s'' : Ledger} {caseId : String} {snapshot : CaseSnapshot} {version : Int}

/-- The row of a case. -/
def row? (s : Ledger) (caseId : String) : Option CaseRow :=
  s.cases.bind (findCase · caseId)

/-- `s'` is `s` with a snapshot stored at a version, and with the same rows for all other cases. -/
def Stores (s : Ledger) (caseId : String) (snapshot : CaseSnapshot) (version : Int) (s' : Ledger) :
    Prop :=
  ∀ other, s'.row? other =
    if other = caseId then some ⟨caseId, some snapshot, version⟩ else s.row? other

/-! ## Finding and setting rows -/

theorem caseId_of_findCase {rows : List CaseRow} {row : CaseRow}
    (h : findCase rows caseId = some row) : row.caseId = caseId := by
  simpa using List.find?_some h

theorem caseId_of_row? {row : CaseRow} (h : s.row? caseId = some row) : row.caseId = caseId := by
  obtain ⟨rows, -, hrow⟩ := Option.bind_eq_some_iff.mp h
  exact caseId_of_findCase hrow

theorem findCase_cons {row : CaseRow} {rows : List CaseRow} :
    findCase (row :: rows) caseId =
      if row.caseId = caseId then some row else findCase rows caseId := by
  rw [findCase, List.find?_cons, findCase]
  by_cases h : row.caseId = caseId
  · rw [if_pos h, beq_iff_eq.mpr h]
  · rw [if_neg h, beq_eq_false_iff_ne.mpr h]

theorem findCase_setCase (rows : List CaseRow) (other : String) :
    findCase (setCase caseId snapshot version rows) other =
      if other = caseId then some ⟨caseId, some snapshot, version⟩ else findCase rows other := by
  induction rows with
  | nil =>
    rw [setCase, findCase_cons]
    by_cases h : other = caseId
    · rw [if_pos h.symm, if_pos h]
    · rw [if_neg (Ne.symm h), if_neg h]
  | cons row rows ih =>
    by_cases hrow : row.caseId = caseId
    · simp only [setCase, hrow, beq_self_eq_true, if_true, findCase_cons]
      by_cases h : other = caseId
      · rw [if_pos h.symm, if_pos h]
      · rw [if_neg (Ne.symm h), if_neg h, if_neg (Ne.symm h)]
    · simp only [setCase, beq_eq_false_iff_ne.mpr hrow, Bool.false_eq_true, if_false,
        findCase_cons, ih]
      by_cases hfirst : row.caseId = other
      · rw [if_pos hfirst, if_neg (hfirst ▸ hrow), if_pos hfirst]
      · rw [if_neg hfirst, if_neg hfirst]

/-- Setting a row of the case table stores the case. -/
theorem stores_of_cases {rows : List CaseRow} (h : s.cases = some rows)
    (h' : s'.cases = some (setCase caseId snapshot version rows)) :
    Stores s caseId snapshot version s' := by
  intro other
  rw [row?, row?, h, h', Option.bind_some, Option.bind_some, findCase_setCase]

/-- A case that can be read is read off its row. -/
theorem getCase_eq_ok_iff {v : VersionedCase} :
    s.getCase caseId = .ok v ↔ s.row? caseId = some ⟨caseId, some v.snapshot, v.version⟩ := by
  unfold getCase row? caseTable
  cases s.cases with
  | none => simp [bind, Except.bind]
  | some rows =>
    simp only [Option.bind_some, bind, Except.bind]
    cases hrow : findCase rows caseId with
    | none => simp [throw, throwThe, MonadExceptOf.throw]
    | some row =>
      obtain rfl := caseId_of_findCase hrow
      obtain ⟨_, _ | snapshot, version⟩ := row
      · simp [throw, throwThe, MonadExceptOf.throw]
      · obtain ⟨_, _⟩ := v
        simp [pure, Except.pure]

/-- Storing one case leaves the others as they are. -/
theorem Stores.getCase_of_ne {other : String} {v : VersionedCase}
    (h : Stores s caseId snapshot version s') (hne : other ≠ caseId)
    (hv : s.getCase other = .ok v) : s'.getCase other = .ok v := by
  rw [getCase_eq_ok_iff] at hv ⊢
  rw [h, if_neg hne, hv]

/-! ## Operations -/

variable {expected : Int} {event : AuditEvent}

/-- What a write looks at, one after the other. -/
theorem writeCase_eq :
    s.writeCase caseId snapshot expected event =
      match s.caseTable with
      | .error e => .error e
      | .ok rows =>
        match findCase rows caseId with
        | none => .error (.caseNotFound caseId)
        | some row =>
          if row.version ≠ expected then .error (.versionConflict caseId expected)
          else
            match s.auditTable with
            | .error e => .error e
            | .ok events =>
              if (findCase rows event.caseId).isNone then .error .foreignKey
              else .ok (expected + 1,
                { cases := some (setCase caseId snapshot (expected + 1) rows)
                  events := some (events ++ [.ofEvent s.nextEventId (expected + 1) event])
                  nextEventId := s.nextEventId + 1 }) := by
  unfold writeCase
  simp only [bind, Except.bind, throw, throwThe, MonadExceptOf.throw, pure, Except.pure]
  cases s.caseTable with
  | error e => rfl
  | ok rows =>
    dsimp only
    cases findCase rows caseId with
    | none => rfl
    | some row =>
      dsimp only
      split
      next => rfl
      next =>
        cases s.auditTable with
        | error e => rfl
        | ok events => rfl

/-- All that a write does that succeeds: it finds the case at the expected version, stores it at the
next one, and adds the audit event. -/
theorem writeCase_eq_ok (h : s.writeCase caseId snapshot expected event = .ok (version, s')) :
    ∃ rows row events, s.cases = some rows ∧ findCase rows caseId = some row ∧
      row.version = expected ∧ s.events = some events ∧ version = expected + 1 ∧
      s' =
        { cases := some (setCase caseId snapshot version rows)
          events := some (events ++ [.ofEvent s.nextEventId version event])
          nextEventId := s.nextEventId + 1 } := by
  rw [writeCase_eq, caseTable, auditTable] at h
  cases hcases : s.cases with
  | none => simp [hcases] at h
  | some rows =>
    simp only [hcases] at h
    cases hrow : findCase rows caseId with
    | none => simp [hrow] at h
    | some row =>
      by_cases hversion : row.version = expected
      · -- the version is as expected, so only the event can still turn the write down
        cases hevents : s.events with
        | none => simp [hrow, hversion, hevents] at h
        | some events =>
          simp only [hrow, hversion, hevents, ne_eq, not_true_eq_false, if_false] at h
          split at h
          next => cases h
          next =>
            cases h
            exact ⟨rows, row, events, rfl, hrow, hversion, rfl, rfl, rfl⟩
      · simp [hrow, hversion] at h

/-- A write that succeeds found the case at the expected version, and stored it at the next one. -/
theorem stores_of_writeCase (h : s.writeCase caseId snapshot expected event = .ok (version, s')) :
    (∃ old, s.row? caseId = some ⟨caseId, old, expected⟩) ∧ version = expected + 1 ∧
      Stores s caseId snapshot version s' := by
  obtain ⟨rows, row, events, hcases, hrow, hversion, -, hnext, rfl⟩ := writeCase_eq_ok h
  obtain rfl := caseId_of_findCase hrow
  refine ⟨⟨row.snapshot, ?_⟩, hnext, stores_of_cases hcases rfl⟩
  rw [row?, hcases, Option.bind_some, hrow, ← hversion]

/-- Putting a case stores it at the next version, which is the first one for a new case. -/
theorem stores_of_putCase (h : s.putCase snapshot = .ok (version, s')) :
    version = (s.row? snapshot.caseId).elim 1 (·.version + 1) ∧
      Stores s snapshot.caseId snapshot version s' := by
  unfold putCase caseTable at h
  cases hcases : s.cases with
  | none => simp [hcases, bind, Except.bind] at h
  | some rows =>
    simp only [hcases, bind, Except.bind, pure, Except.pure] at h
    cases h
    refine ⟨?_, stores_of_cases hcases rfl⟩
    rw [row?, hcases, Option.bind_some]
    cases findCase rows snapshot.caseId <;> rfl

/-! ## Rows over time -/

/-- The row is in the store, or another one has taken its place at a higher version. -/
def Keeps (s : Ledger) (row : CaseRow) : Prop :=
  ∃ now, s.row? row.caseId = some now ∧ (now = row ∨ row.version < now.version)

/-- The second store keeps all rows of the first one. -/
def Supersedes (s' s : Ledger) : Prop :=
  ∀ row, s.row? row.caseId = some row → s'.Keeps row

theorem Supersedes.refl (s : Ledger) : Supersedes s s :=
  fun row h => ⟨row, h, .inl rfl⟩

theorem Supersedes.keeps {row : CaseRow} (h : Supersedes s' s) (hrow : s.Keeps row) :
    s'.Keeps row := by
  obtain ⟨now, hnow, hcase⟩ := hrow
  have hid : now.caseId = row.caseId := caseId_of_row? hnow
  obtain ⟨later, hlater, hcase'⟩ := h now (hid ▸ hnow)
  refine ⟨later, hid ▸ hlater, ?_⟩
  rcases hcase with rfl | hlt
  · exact hcase'
  · rcases hcase' with rfl | hlt'
    · exact .inr hlt
    · exact .inr (Int.lt_trans hlt hlt')

/-- A row that is kept and whose version is the current one is the current row: no version comes
back. -/
theorem Keeps.eq_of_version {row now : CaseRow} (h : s.Keeps row)
    (hnow : s.row? row.caseId = some now) (hversion : now.version = row.version) : now = row := by
  obtain ⟨now', hnow', hcase⟩ := h
  rw [hnow] at hnow'
  cases hnow'
  rcases hcase with rfl | hlt
  · rfl
  · omega

/-- Storing a case at a higher version keeps all rows. -/
theorem Stores.supersedes (h : Stores s caseId snapshot version s')
    (hversion : ∀ row, s.row? caseId = some row → row.version < version) : Supersedes s' s := by
  intro row hrow
  by_cases hid : row.caseId = caseId
  · refine ⟨⟨caseId, some snapshot, version⟩, by rw [h, if_pos hid], .inr ?_⟩
    exact hversion row (hid ▸ hrow)
  · exact ⟨row, by rw [h, if_neg hid, hrow], .inl rfl⟩

/-- Putting a case stores it at a higher version, or fails and leaves the store as it is. -/
theorem stores_commit_putCase (s : Ledger) (snapshot : CaseSnapshot) :
    (s.commit (s.putCase snapshot)).2 = s ∨
      ∃ version, (∀ row, s.row? snapshot.caseId = some row → row.version < version) ∧
        Stores s snapshot.caseId snapshot version (s.commit (s.putCase snapshot)).2 := by
  cases h : s.putCase snapshot with
  | error => exact .inl rfl
  | ok result =>
    obtain ⟨hversion, hstores⟩ := stores_of_putCase h
    refine .inr ⟨result.1, fun row hrow => ?_, hstores⟩
    rw [hversion, hrow]
    exact Int.lt_succ row.version

theorem supersedes_commit_putCase (s : Ledger) (snapshot : CaseSnapshot) :
    Supersedes (s.commit (s.putCase snapshot)).2 s := by
  rcases stores_commit_putCase s snapshot with heq | ⟨version, hversion, hstores⟩
  · rw [heq]
    exact .refl s
  · exact hstores.supersedes hversion

/-! ## Answers to the engine -/

theorem ok_of_mapError {ε ε' α : Type} {f : ε → ε'} {r : Except ε α} {a : α}
    (h : r.mapError f = .ok a) : r = .ok a := by
  cases r with
  | ok a' => exact congrArg Except.ok (Except.ok.inj h)
  | error => cases h

/-- Reading leaves the store as it is, and gives what is in the row of the case. -/
theorem answer_read {reply : Except StoreError VersionedCase}
    (h : s.answer (.read caseId) = (reply, s')) :
    s' = s ∧ ∀ v, reply = .ok v → s.getCase caseId = .ok v := by
  cases h
  exact ⟨rfl, fun v => ok_of_mapError⟩

/-- A write that is not turned down finds the case at the expected version, and stores the snapshot
at the next one. -/
theorem answer_write {reply : Except StoreError Int}
    (h : s.answer (.write caseId snapshot expected event) = (reply, s')) :
    (s' = s ∧ ∃ error, reply = .error error) ∨
      (reply = .ok (expected + 1) ∧ (∃ old, s.row? caseId = some ⟨caseId, old, expected⟩) ∧
        Stores s caseId snapshot (expected + 1) s') := by
  cases hwrite : s.writeCase caseId snapshot expected event with
  | error e =>
    simp only [answer, hwrite, commit] at h
    cases h
    exact .inl ⟨rfl, _, rfl⟩
  | ok result =>
    simp only [answer, hwrite, commit] at h
    cases h
    obtain ⟨hrow, hversion, hstores⟩ := stores_of_writeCase hwrite
    rw [hversion] at hstores
    exact .inr ⟨congrArg Except.ok hversion, hrow, hstores⟩

/-- Whatever the engine asks of the store, all rows are kept. -/
theorem supersedes_answer {c : StoreCall} {reply : Except StoreError c.Answer}
    (h : s.answer c = (reply, s')) : Supersedes s' s := by
  cases c with
  | read caseId =>
    rw [(answer_read h).1]
    exact .refl s
  | write caseId snapshot expected event =>
    rcases answer_write h with ⟨rfl, -⟩ | ⟨-, ⟨old, hrow⟩, hstores⟩
    · exact .refl _
    · refine hstores.supersedes fun row hrow' => ?_
      rw [hrow] at hrow'
      cases hrow'
      exact Int.lt_succ expected

end TribunalListing.Ledger
