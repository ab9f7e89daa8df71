-- SUMMARY: Write-backs that share a case store with others lose no update, in whatever order their calls come.
import TribunalListing.Proofs.Store.Ledger
import TribunalListing.Proofs.Sync.Attempts
import TribunalListing.Proofs.Sync.Merge

/-!
# Interleaved write-backs

Any number of write-backs share one case store with others who put cases into it as they please.
They take turns call by call, in any order. A write-back is careful: it writes only what comes of
merging its outcome into the snapshot that it has read last, and it says at which version it read
that. No version ever comes back with another snapshot, so a write that is accepted replaces exactly
the snapshot that was merged into.
-/

namespace TribunalListing

open HearingHistory Ledger

/-! ## Worlds -/

/-- A write-back that is under way, with what is left of it to do. -/
structure Task where
  work : WriteBack
  rest : Act (Except EngineError Int)

/-- The case store, and the write-backs that share it. -/
structure World where
  ledger : Ledger
  tasks : List Task

/-- Something that happens. -/
inductive Move where
  /-- A write-back starts. -/
  | start (work : WriteBack)
  /-- Somebody puts a case into the store. -/
  | put (snapshot : CaseSnapshot)
  /-- A task makes its next call and is given the reply. -/
  | call (task : Nat) (x : Act.Exchange)

/-- What can happen in a world, and which world it leads to. Each call is answered at once. -/
inductive Step : World → Move → World → Prop where
  | start {m : World} (work : WriteBack) :
      Step m (.start work) { m with tasks := m.tasks ++ [⟨work, work.perform.run⟩] }
  | put {m : World} (snapshot : CaseSnapshot) :
      Step m (.put snapshot) { m with ledger := (m.ledger.commit (m.ledger.putCase snapshot)).2 }
  /-- The store answers a call. -/
  | store {m : World} {i : Nat} {work : WriteBack} {c : StoreCall} {next reply} {ledger : Ledger} :
      m.tasks[i]? = some ⟨work, .call (.store c) next⟩ → m.ledger.answer c = (reply, ledger) →
      Step m (.call i ⟨.store c, reply⟩) ⟨ledger, m.tasks.set i ⟨work, next reply⟩⟩
  /-- The store turns a call down for a reason of its own. -/
  | storeDown {m : World} {i : Nat} {work : WriteBack} {c : StoreCall} {next} (error : StoreError) :
      m.tasks[i]? = some ⟨work, .call (.store c) next⟩ →
      Step m (.call i ⟨.store c, .error error⟩)
        { m with tasks := m.tasks.set i ⟨work, next (.error error)⟩ }
  /-- The hearing service answers a call in some way. -/
  | service {m : World} {i : Nat} {work : WriteBack} {c : ServiceCall} {next reply} :
      m.tasks[i]? = some ⟨work, .call (.service c) next⟩ →
      Step m (.call i ⟨.service c, reply⟩) { m with tasks := m.tasks.set i ⟨work, next reply⟩ }

/-- Step follows on step. -/
inductive Run : World → List Move → World → Prop where
  | nil (m : World) : Run m [] m
  | cons {m m' m'' : World} {move : Move} {moves : List Move} :
      Step m move m' → Run m' moves m'' → Run m (move :: moves) m''

/-! ## Careful writing -/

/-- The act writes nothing but what comes of merging the outcome into what it has read last, at the
version at which it has read that. `seen` is what was read last, if nothing has been done with
it. -/
inductive Careful {α : Type} (w : WriteBack) : Option VersionedCase → Act α → Prop where
  | done (seen : Option VersionedCase) (a : α) : Careful w seen (.done a)
  | read {seen : Option VersionedCase} {next : Except StoreError VersionedCase → Act α} :
      (∀ current, Careful w (some current) (next (.ok current))) →
      (∀ error, Careful w none (next (.error error))) →
      Careful w seen (.call (.store w.readCall) next)
  | write {current : VersionedCase} {updated : CaseSnapshot}
      {next : Except StoreError Int → Act α} :
      w.outcome.mergeInto current.snapshot = some updated →
      (∀ reply, Careful w none (next reply)) →
      Careful w (some current) (.call (.store (w.writeCall current updated)) next)
  | service {seen : Option VersionedCase} {c : ServiceCall}
      {next : Except ServiceError c.Answer → Act α} :
      (∀ reply, Careful w none (next reply)) → Careful w seen (.call (.service c) next)

namespace Careful

variable {α β : Type} {w : WriteBack} {seen : Option VersionedCase}

theorem bind {p : Act α} {f : α → Act β} (h : Careful w seen p)
    (hf : ∀ seen a, Careful w seen (f a)) : Careful w seen (p >>= f) := by
  induction h with
  | done seen a => exact hf seen a
  | read _ _ ihok iherror => exact .read ihok iherror
  | write hmerge _ ih => exact .write hmerge ih
  | service _ ih => exact .service ih

theorem attempt : Careful w seen w.attempt := by
  refine .read (fun current => ?_) fun error => .done none _
  show Careful w (some current) (w.follow current)
  unfold WriteBack.follow
  split
  next => exact .done _ _
  next updated hmerge => exact .write hmerge fun reply => .done none reply

theorem attemptMore (made remaining : Nat) :
    Careful w seen (TribunalListing.attemptMore (fun _ => w.attempt) made remaining) := by
  induction remaining generalizing made seen with
  | zero => exact .done _ _
  | succ remaining ih =>
    refine attempt.bind fun seen result => ?_
    cases result with
    | ok version => exact .done _ _
    | error error =>
      show Careful w seen (if error.isConflict then _ else _)
      split
      next => exact ih (made + 1)
      next => exact .done _ _

theorem compensate : Careful w seen w.compensate := by
  refine .service fun reply => ?_
  cases reply <;> exact .done _ _

/-- A write-back is careful from its start to its end. -/
theorem perform : Careful w seen w.perform.run := by
  unfold WriteBack.perform
  rw [Act.run_lift_bind]
  refine (attemptMore 0 _).bind fun seen result => ?_
  rcases result with (⟨attempts⟩ | source) | version
  · by_cases hcancel : w.outcome.action = .cancel
    · simp only [hcancel, if_true]
      exact .done _ _
    · simp only [hcancel, if_false]
      rw [Act.run_lift_bind]
      exact compensate.bind fun _ _ => .done _ _
  · exact .done _ _
  · exact .done _ _

/-- A careful write is one of a merge into what was read last, with the audit event of that merge.
-/
theorem event_of_write {caseId : String} {snapshot : CaseSnapshot} {expected : Int}
    {event : AuditEvent} {next : Except StoreError Int → Act α}
    (h : Careful w seen (.call (.store (.write caseId snapshot expected event)) next)) :
    ∃ current, seen = some current ∧ caseId = w.caseId ∧ expected = current.version ∧
      w.outcome.mergeInto current.snapshot = some snapshot ∧
      event = w.outcome.auditEvent w.caseId w.actor w.cause current.snapshot snapshot := by
  cases h with
  | write hmerge _ => exact ⟨_, rfl, rfl, rfl, hmerge, rfl⟩

end Careful

/-! ## The invariant -/

/-- What a task does next fits what it has read: it is careful, and the store has kept the row that
it has read last. -/
def Task.Sound (s : Ledger) (t : Task) : Prop :=
  ∃ seen, Careful t.work seen t.rest ∧
    ∀ current, seen = some current → s.Keeps ⟨t.work.caseId, some current.snapshot, current.version⟩

/-- All tasks fit the store. -/
def World.Sound (m : World) : Prop :=
  ∀ t ∈ m.tasks, t.Sound m.ledger

variable {m m' : World} {move : Move} {moves : List Move}

theorem Task.Sound.supersedes {s s' : Ledger} {t : Task} (h : t.Sound s) (hs : Supersedes s' s) :
    t.Sound s' := by
  obtain ⟨seen, hcareful, hkeeps⟩ := h
  exact ⟨seen, hcareful, fun current hcurrent => hs.keeps (hkeeps current hcurrent)⟩

theorem Task.sound_iff {s : Ledger} {work : WriteBack} {rest : Act (Except EngineError Int)} :
    Task.Sound s ⟨work, rest⟩ ↔ ∃ seen, Careful work seen rest ∧
      ∀ current, seen = some current →
        s.Keeps ⟨work.caseId, some current.snapshot, current.version⟩ :=
  Iff.rfl

/-- A task that has read nothing yet, or nothing that it could still use, fits every store. -/
theorem Task.sound_of_careful_none {s : Ledger} {work : WriteBack}
    {rest : Act (Except EngineError Int)} (h : Careful work none rest) :
    Task.Sound s ⟨work, rest⟩ :=
  ⟨none, h, fun _ hsome => nomatch hsome⟩

/-- After a step of one task, it is this task that has to fit the new store. -/
theorem World.Sound.set {s' : Ledger} {i : Nat} {t : Task} (h : m.Sound)
    (hs : Supersedes s' m.ledger) (ht : t.Sound s') : World.Sound ⟨s', m.tasks.set i t⟩ := by
  intro t' ht'
  rcases List.mem_or_eq_of_mem_set ht' with hmem | rfl
  · exact (h t' hmem).supersedes hs
  · exact ht

/-- Once a task has been given an answer by the store, what is left of it fits the store again. -/
theorem Task.Sound.next_store {s s' : Ledger} {work : WriteBack} {c : StoreCall}
    {next : Except StoreError c.Answer → Act (Except EngineError Int)}
    {reply : Except StoreError c.Answer} (h : Task.Sound s ⟨work, .call (.store c) next⟩)
    (hanswer : s.answer c = (reply, s')) : Task.Sound s' ⟨work, next reply⟩ := by
  obtain ⟨seen, hcareful, -⟩ := sound_iff.mp h
  cases hcareful with
  | read hok herror =>
    obtain ⟨rfl, hread⟩ := answer_read hanswer
    cases reply with
    | error error => exact sound_of_careful_none (herror error)
    | ok current =>
      refine ⟨some current, hok current, ?_⟩
      intro current' hcurrent
      cases hcurrent
      exact ⟨_, getCase_eq_ok_iff.mp (hread current rfl), .inl rfl⟩
  | write _ hnext => exact sound_of_careful_none (hnext reply)

/-- A store that is down takes nothing away from what is left of a task. -/
theorem Task.Sound.next_storeDown {s : Ledger} {work : WriteBack} {c : StoreCall}
    {next : Except StoreError c.Answer → Act (Except EngineError Int)}
    (h : Task.Sound s ⟨work, .call (.store c) next⟩) (error : StoreError) :
    Task.Sound s ⟨work, next (.error error)⟩ := by
  obtain ⟨seen, hcareful, -⟩ := sound_iff.mp h
  cases hcareful with
  | read _ herror => exact sound_of_careful_none (herror error)
  | write _ hnext => exact sound_of_careful_none (hnext (.error error))

theorem Task.Sound.next_service {s : Ledger} {work : WriteBack} {c : ServiceCall}
    {next : Except ServiceError c.Answer → Act (Except EngineError Int)}
    (h : Task.Sound s ⟨work, .call (.service c) next⟩) (reply : Except ServiceError c.Answer) :
    Task.Sound s ⟨work, next reply⟩ := by
  obtain ⟨seen, hcareful, -⟩ := sound_iff.mp h
  cases hcareful with
  | service hnext => exact sound_of_careful_none (hnext reply)

theorem Step.sound (hstep : Step m move m') (h : m.Sound) : m'.Sound := by
  cases hstep with
  | start work =>
    intro t ht
    rcases List.mem_append.mp ht with hmem | hmem
    · exact h t hmem
    · obtain rfl := List.mem_singleton.mp hmem
      exact Task.sound_of_careful_none .perform
  | put snapshot =>
    intro t ht
    exact (h t ht).supersedes (supersedes_commit_putCase m.ledger snapshot)
  | store htask hanswer =>
    exact h.set (supersedes_answer hanswer)
      ((h _ (List.mem_of_getElem? htask)).next_store hanswer)
  | storeDown error htask =>
    exact h.set (.refl _) ((h _ (List.mem_of_getElem? htask)).next_storeDown error)
  | service htask =>
    exact h.set (.refl _) ((h _ (List.mem_of_getElem? htask)).next_service _)

theorem Run.sound (hrun : Run m moves m') (h : m.Sound) : m'.Sound := by
  induction hrun with
  | nil => exact h
  | cons hstep _ ih => exact ih (hstep.sound h)

/-! ## Accepted writes -/

/-- A call that the store has answered with success. -/
theorem Step.answer_eq {i : Nat} {c : StoreCall} {answer : c.Answer}
    (hstep : Step m (.call i ⟨.store c, .ok answer⟩) m') :
    m.ledger.answer c = (.ok answer, m'.ledger) := by
  cases hstep with
  | store _ hanswer => exact hanswer

/-- A write that is accepted is one of merging the outcome of its task into the snapshot that was
stored just before, and its audit event tells of that merge. -/
theorem World.Sound.event_of_accepted (h : m.Sound) {i : Nat} {caseId : String}
    {snapshot : CaseSnapshot} {expected version : Int} {event : AuditEvent}
    (hstep : Step m (.call i ⟨.store (.write caseId snapshot expected event), .ok version⟩) m') :
    ∃ task stored, m.tasks[i]? = some task ∧ task.work.caseId = caseId ∧
      m.ledger.getCase caseId = .ok ⟨stored, expected⟩ ∧
      task.work.outcome.mergeInto stored = some snapshot ∧
      event = task.work.outcome.auditEvent caseId task.work.actor task.work.cause stored snapshot := by
  cases hstep with
  | store htask hanswer =>
    obtain ⟨seen, hcareful, hkeeps⟩ := Task.sound_iff.mp (h _ (List.mem_of_getElem? htask))
    obtain ⟨current, rfl, rfl, rfl, hmerge, hevent⟩ := hcareful.event_of_write
    rcases answer_write hanswer with ⟨-, error, herror⟩ | ⟨-, ⟨old, hrow⟩, -⟩
    · cases herror
    · -- the row is at the version of the one that was read, so it is the one that was read
      obtain rfl : old = some current.snapshot :=
        congrArg CaseRow.snapshot ((hkeeps current rfl).eq_of_version hrow rfl)
      exact ⟨_, current.snapshot, htask, rfl, getCase_eq_ok_iff.mpr hrow, hmerge, hevent⟩

/-- A write that is accepted stores what comes of merging the outcome of its task into the snapshot
that was stored just before. -/
theorem World.Sound.accepted (h : m.Sound) {i : Nat} {caseId : String} {snapshot : CaseSnapshot}
    {expected version : Int} {event : AuditEvent}
    (hstep : Step m (.call i ⟨.store (.write caseId snapshot expected event), .ok version⟩) m') :
    ∃ task stored, m.tasks[i]? = some task ∧ task.work.caseId = caseId ∧
      m.ledger.getCase caseId = .ok ⟨stored, expected⟩ ∧
      task.work.outcome.mergeInto stored = some snapshot ∧ version = expected + 1 ∧
      Stores m.ledger caseId snapshot version m'.ledger := by
  obtain ⟨task, stored, htask, hid, hstored, hmerge, -⟩ := h.event_of_accepted hstep
  rcases answer_write hstep.answer_eq with ⟨-, error, herror⟩ | ⟨hversion, -, hstores⟩
  · cases herror
  · cases hversion
    exact ⟨task, stored, htask, hid, hstored, hmerge, rfl, hstores⟩

/-! ## Histories over time -/

/-- What a step does to the store: nothing, or it puts a case, or it is a write that is accepted. -/
theorem Step.ledger_cases (hstep : Step m move m') :
    m'.ledger = m.ledger ∨
      (∃ snapshot version, move = .put snapshot ∧
        Stores m.ledger snapshot.caseId snapshot version m'.ledger) ∨
      ∃ (i : Nat) (caseId : String) (snapshot : CaseSnapshot) (expected : Int) (event : AuditEvent)
          (version : Int),
        move = .call i ⟨.store (.write caseId snapshot expected event), .ok version⟩ := by
  cases hstep with
  | start work => exact .inl rfl
  | put snapshot =>
    rcases stores_commit_putCase m.ledger snapshot with heq | ⟨version, -, hstores⟩
    · exact .inl heq
    · exact .inr (.inl ⟨snapshot, version, rfl, hstores⟩)
  | @store i work c next reply ledger htask hanswer =>
    cases c with
    | read caseId => exact .inl (answer_read hanswer).1
    | write caseId snapshot expected event =>
      rcases answer_write hanswer with ⟨rfl, -⟩ | ⟨rfl, -, -⟩
      · exact .inl rfl
      · exact .inr (.inr ⟨_, caseId, snapshot, expected, event, expected + 1, rfl⟩)
  | storeDown error htask => exact .inl rfl
  | service htask => exact .inl rfl

/-- What is stored for a case at some moment and later on, if nobody puts the case: the version has
not gone down, and the history has grown. -/
def Outlasts (later stored : VersionedCase) : Prop :=
  stored.version ≤ later.version ∧ Grows stored.snapshot.hearings later.snapshot.hearings

theorem Outlasts.refl (stored : VersionedCase) : Outlasts stored stored :=
  ⟨Int.le_refl _, .refl _⟩

theorem Outlasts.trans {stored later latest : VersionedCase} (h : Outlasts latest later)
    (h' : Outlasts later stored) : Outlasts latest stored :=
  ⟨Int.le_trans h'.1 h.1, h'.2.trans h.2⟩

variable {caseId : String} {stored : VersionedCase}

theorem Step.outlasts (hstep : Step m move m') (h : m.Sound)
    (hput : ∀ snapshot, move = .put snapshot → snapshot.caseId ≠ caseId)
    (hstored : m.ledger.getCase caseId = .ok stored) :
    ∃ later, m'.ledger.getCase caseId = .ok later ∧ Outlasts later stored := by
  rcases hstep.ledger_cases with heq | ⟨snapshot, version, rfl, hstores⟩ |
    ⟨i, other, snapshot, expected, event, version, rfl⟩
  · exact ⟨stored, heq ▸ hstored, .refl stored⟩
  · exact ⟨stored, hstores.getCase_of_ne (hput snapshot rfl).symm hstored, .refl stored⟩
  · obtain ⟨task, before, -, -, hbefore, hmerge, rfl, hstores⟩ := h.accepted hstep
    by_cases hid : caseId = other
    · subst hid
      obtain rfl : stored = ⟨before, expected⟩ := Except.ok.inj (hstored.symm.trans hbefore)
      refine ⟨⟨snapshot, expected + 1⟩, ?_, Int.le_of_lt (Int.lt_succ expected), ?_⟩
      · rw [getCase_eq_ok_iff, hstores, if_pos rfl]
      · show Grows before.hearings snapshot.hearings
        rw [Outcome.hearings_of_mergeInto hmerge]
        exact grows_merge _
    · exact ⟨stored, hstores.getCase_of_ne hid hstored, .refl stored⟩

theorem Run.outlasts (hrun : Run m moves m') (h : m.Sound)
    (hput : ∀ snapshot, .put snapshot ∈ moves → snapshot.caseId ≠ caseId)
    (hstored : m.ledger.getCase caseId = .ok stored) :
    ∃ later, m'.ledger.getCase caseId = .ok later ∧ Outlasts later stored := by
  induction hrun generalizing stored with
  | nil => exact ⟨stored, hstored, .refl stored⟩
  | cons hstep _ ih =>
    obtain ⟨later, hlater, houtlasts⟩ := hstep.outlasts h
      (fun snapshot hmove => hput snapshot (hmove ▸ List.mem_cons_self)) hstored
    obtain ⟨latest, hlatest, houtlasts'⟩ := ih (hstep.sound h)
      (fun snapshot hmem => hput snapshot (List.mem_cons_of_mem _ hmem)) hlater
    exact ⟨latest, hlatest, houtlasts'.trans houtlasts⟩

/-! ## No lost update -/

/-- However write-backs and others who put cases take turns on a store: a write that is accepted
stores exactly what comes of merging the outcome of its task into the snapshot that was stored just
before, so it takes nothing away that somebody else has stored between its read and its write. From
any moment on, as long as nobody puts a case, its version does not go down, each hearing keeps its
place in its history, and no version of a hearing goes down. -/
theorem no_lost_update {start : Ledger} (hrun : Run ⟨start, []⟩ moves m) :
    (∀ (i : Nat) (caseId : String) (snapshot : CaseSnapshot) (expected : Int) (event : AuditEvent)
        (version : Int) (m' : World),
      Step m (.call i ⟨.store (.write caseId snapshot expected event), .ok version⟩) m' →
      ∃ task stored, m.tasks[i]? = some task ∧ task.work.caseId = caseId ∧
        m.ledger.getCase caseId = .ok ⟨stored, expected⟩ ∧
        task.work.outcome.mergeInto stored = some snapshot ∧
        m'.ledger.getCase caseId = .ok ⟨snapshot, version⟩) ∧
    (∀ (moves' : List Move) (m' : World) (caseId : String) (stored : VersionedCase),
      Run m moves' m' →
      (∀ snapshot, .put snapshot ∈ moves' → snapshot.caseId ≠ caseId) →
      m.ledger.getCase caseId = .ok stored →
      ∃ later, m'.ledger.getCase caseId = .ok later ∧ stored.version ≤ later.version ∧
        Grows stored.snapshot.hearings later.snapshot.hearings ∧
        ∀ hearingId v, versionOf? stored.snapshot.hearings hearingId = some v →
          ∃ v', versionOf? later.snapshot.hearings hearingId = some v' ∧ v ≤ v') := by
  have hsound : m.Sound := hrun.sound fun _ hmem => nomatch hmem
  refine ⟨?_, ?_⟩
  · intro i caseId snapshot expected event version m' hstep
    obtain ⟨task, stored, htask, hid, hstored, hmerge, rfl, hstores⟩ := hsound.accepted hstep
    refine ⟨task, stored, htask, hid, hstored, hmerge, ?_⟩
    rw [getCase_eq_ok_iff, hstores, if_pos rfl]
  · intro moves' m' caseId stored hrun' hput hstored
    obtain ⟨later, hlater, hversion, hgrows⟩ := hrun'.outlasts hsound hput hstored
    exact ⟨later, hlater, hversion, hgrows, fun _ _ hv => hgrows.le_versionOf? hv⟩

/-- A store with the adjourned appeal in it. -/
def adjournedLedger : Ledger :=
  ⟨some [⟨"1", some Outcome.adjournedCase, 1⟩], some [], 1⟩

/-- The write-back of the outcome for the adjourned appeal. -/
def adjournedWork : WriteBack where
  caseId := "1"
  outcome := Outcome.adjournedOutcome
  cause := ⟨"1", "adjournment"⟩
  actor := .system
  policy := .standard

/-- The write-back reads the appeal, and somebody marks it as urgent. So the write comes too late,
and the appeal is read again. -/
def adjournedMoves : List Move :=
  [ .start adjournedWork,
    .call 0 ⟨.store adjournedWork.readCall, .ok ⟨Outcome.adjournedCase, 1⟩⟩,
    .put Outcome.urgentCase,
    .call 0 ⟨.store (adjournedWork.writeCall ⟨Outcome.adjournedCase, 1⟩
      (adjournedWork.outcome.merged Outcome.adjournedCase)), .error (.conflict "1" 1)⟩,
    .call 0 ⟨.store adjournedWork.readCall, .ok ⟨Outcome.urgentCase, 2⟩⟩ ]

/-- The next write is accepted, and it is one of an appeal that is urgent. -/
theorem no_lost_update_urgent :
    ∃ m m' snapshot event, Run ⟨adjournedLedger, []⟩ adjournedMoves m ∧
      Step m (.call 0 ⟨.store (.write "1" snapshot 2 event), .ok 3⟩) m' ∧
      (∃ stored, m.ledger.getCase "1" = .ok ⟨stored, 2⟩ ∧ stored.urgent = true ∧
        Outcome.adjournedOutcome.mergeInto stored = some snapshot) ∧
      ∃ later, m'.ledger.getCase "1" = .ok later ∧ 2 ≤ later.version := by
  obtain ⟨m, hrun, hledger, hwork, snapshot, event, m', hstep⟩ :
      ∃ m, Run ⟨adjournedLedger, []⟩ adjournedMoves m ∧
        m.ledger.getCase "1" = .ok ⟨Outcome.urgentCase, 2⟩ ∧
        m.tasks[0]?.map (·.work) = some adjournedWork ∧
        ∃ snapshot event m', Step m (.call 0 ⟨.store (.write "1" snapshot 2 event), .ok 3⟩) m' :=
    ⟨_, .cons (.start _) (.cons (.store rfl rfl) (.cons (.put _) (.cons (.store rfl rfl)
      (.cons (.store rfl rfl) (.nil _))))), rfl, rfl, _, _, _, .store (c := .write ..) rfl rfl⟩
  obtain ⟨haccepted, houtlasts⟩ := no_lost_update hrun
  obtain ⟨task, stored, htask, -, hstored, hmerge, -⟩ := haccepted _ _ _ _ _ _ _ hstep
  obtain ⟨later, hlater, hversion, -⟩ := houtlasts _ _ _ _ (.cons hstep (.nil m')) (by simp) hledger
  obtain rfl : stored = Outcome.urgentCase :=
    congrArg VersionedCase.snapshot (Except.ok.inj (hstored.symm.trans hledger))
  rw [htask] at hwork
  have htaskwork : task.work = adjournedWork := Option.some.inj hwork
  rw [htaskwork] at hmerge
  exact ⟨m, m', snapshot, event, hrun, hstep, ⟨Outcome.urgentCase, hstored, rfl, hmerge⟩, later,
    hlater, hversion⟩

end TribunalListing
