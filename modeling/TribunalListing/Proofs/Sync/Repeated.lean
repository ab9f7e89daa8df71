-- SUMMARY: A write-back that has succeeded can be repeated any number of times without effect.
import TribunalListing.Http.Router
import TribunalListing.Proofs.Sync.Interleaving
import TribunalListing.Proofs.Sync.Reflected
import TribunalListing.Proofs.Sync.Stored

/-!
# Repeated write-backs

When a write-back succeeds, the store holds a case with nothing left to merge into it, unless the
merge ran out of numbers. A write-back of the same outcome that comes to such a case makes a single
call, which reads the case, and leaves the store as it is. So does any number of them.
-/

namespace TribunalListing

open Act Ledger

/-! ## Repeating -/

namespace WriteBack

variable {w : WriteBack} {σ : Type} {handler : Handler σ} {s : σ} {stored : VersionedCase}

/-- A write-back makes at least one attempt. -/
theorem retryOnConflict_eq (policy : RetryPolicy) (attempt : Act (Except StoreError Int)) :
    ∃ remaining, retryOnConflict policy (fun _ => attempt) =
      attemptMore (fun _ => attempt) 0 (remaining + 1) := by
  obtain ⟨remaining, hremaining⟩ : ∃ remaining, max policy.maxAttempts 1 = remaining + 1 :=
    ⟨max policy.maxAttempts 1 - 1, by omega⟩
  exact ⟨remaining, by rw [retryOnConflict, hremaining]⟩

/-- Where the case that is read has nothing left to merge into it, a write-back is over after one
call and has changed nothing. -/
theorem perform_of_read (hread : handler (.store w.readCall) s = (.ok stored, s))
    (hnone : w.outcome.mergeInto stored.snapshot = none) :
    w.perform.run.run handler s = (.ok stored.version, s) ∧
      w.perform.run.trace handler s = [⟨.store w.readCall, .ok stored⟩] := by
  obtain ⟨remaining, hattempts⟩ := retryOnConflict_eq w.policy w.attempt
  have hattempt : w.attempt.run handler s = (.ok stored.version, s) ∧
      w.attempt.trace handler s = [⟨.store w.readCall, .ok stored⟩] := by
    simp [attempt, store, run, trace, hread, follow, hnone]
  unfold perform
  rw [run_lift_bind, hattempts, attemptMore]
  simp [run_bind, trace_bind, hattempt, run, trace]

/-- Write-backs one after the other, with the versions that they give. -/
def performAll (ws : List WriteBack) : ExceptT EngineError Act (List Int) :=
  ws.mapM perform

/-- Any number of write-backs with nothing left to merge: each gives the same version and makes one
call, and nothing has changed after them. -/
theorem performAll_of_read {again : List WriteBack}
    (hread : ∀ w ∈ again, handler (.store w.readCall) s = (.ok stored, s))
    (hnone : ∀ w ∈ again, w.outcome.mergeInto stored.snapshot = none) :
    (performAll again).run.run handler s = (.ok (again.map fun _ => stored.version), s) ∧
      (performAll again).run.trace handler s =
        again.map fun w => ⟨.store w.readCall, .ok stored⟩ := by
  induction again with
  | nil => exact ⟨rfl, rfl⟩
  | cons w again ih =>
    obtain ⟨hrun, htrace⟩ := perform_of_read (hread w (by simp)) (hnone w (by simp))
    obtain ⟨hruns, htraces⟩ := ih (fun w' hw' => hread w' (by simp [hw']))
      (fun w' hw' => hnone w' (by simp [hw']))
    simp only [performAll] at hruns htraces ⊢
    simp [List.mapM_cons, ExceptT.run_bind, run_bind, trace_bind, hrun, htrace, hruns, htraces, run,
      trace, -bind_pure_comp]

end WriteBack

/-! ## Finishing -/

/-- Every task has come, by some exchanges, from the start of its write-back to what it has left. -/
def World.Underway (m : World) : Prop :=
  ∀ t ∈ m.tasks, ∃ es, Left t.work.perform.run es t.rest

variable {m m' : World} {move : Move} {moves : List Move}

theorem World.Underway.set {ledger : Ledger} {i : Nat} {work : WriteBack} {c : Call}
    {next : c.Reply → Act (Except EngineError Int)} (h : m.Underway)
    (htask : m.tasks[i]? = some ⟨work, .call c next⟩) (reply : c.Reply) :
    World.Underway ⟨ledger, m.tasks.set i ⟨work, next reply⟩⟩ := by
  intro t ht
  rcases List.mem_or_eq_of_mem_set ht with hmem | rfl
  · exact h t hmem
  · obtain ⟨es, hleft⟩ := h _ (List.mem_of_getElem? htask)
    exact ⟨_, .snoc reply hleft⟩

theorem Step.underway (hstep : Step m move m') (h : m.Underway) : m'.Underway := by
  cases hstep with
  | start work =>
    intro t ht
    rcases List.mem_append.mp ht with hmem | hmem
    · exact h t hmem
    · obtain rfl := List.mem_singleton.mp hmem
      exact ⟨[], .nil⟩
  | put snapshot => exact h
  | store htask _ => exact h.set htask _
  | storeDown error htask => exact h.set htask (.error error)
  | service htask => exact h.set htask _

theorem Run.underway (hrun : Run m moves m') (h : m.Underway) : m'.Underway := by
  induction hrun with
  | nil => exact h
  | cons hstep _ ih => exact ih (hstep.underway h)

/-- The step with which a write-back succeeds is one of its own, and the last exchange of one of its
runs. -/
theorem World.Underway.finished {i : Nat} {x : Exchange} {w : WriteBack} {version : Int}
    (h : m.Underway) (hstep : Step m (.call i x) m')
    (hdone : m'.tasks[i]? = some ⟨w, .done (.ok version)⟩) :
    m.tasks[i]?.map (·.work) = some w ∧ ∃ es, Runs w.perform.run (es ++ [x]) (.ok version) := by
  have hlast : ∀ {work : WriteBack} {c : Call} {next : c.Reply → Act (Except EngineError Int)}
      {reply : c.Reply}, m.tasks[i]? = some ⟨work, .call c next⟩ →
      (m.tasks.set i ⟨work, next reply⟩)[i]? = some ⟨w, .done (.ok version)⟩ →
      m.tasks[i]?.map (·.work) = some w ∧
        ∃ es, Runs w.perform.run (es ++ [⟨c, reply⟩]) (.ok version) := by
    intro work c next reply htask hset
    obtain ⟨hi, -⟩ := List.getElem?_eq_some_iff.mp htask
    rw [List.getElem?_set_self hi] at hset
    obtain ⟨rfl, hnext⟩ := Task.mk.inj (Option.some.inj hset)
    obtain ⟨es, hleft⟩ := h _ (List.mem_of_getElem? htask)
    have hleft' := hleft.snoc reply
    simp only [hnext] at hleft'
    refine ⟨by simp [htask], es, ?_⟩
    simpa using hleft'.runs (.done _)
  cases hstep with
  | store htask _ => exact hlast htask hdone
  | storeDown error htask => exact hlast htask hdone
  | service htask => exact hlast htask hdone

/-- Once a write-back has succeeded, the store holds a case at the version that it gives, and unless
its merge ran out of numbers, nothing is left to merge into that case. The merge was made into the
case that was stored before the last call. -/
theorem settled_of_finished {i : Nat} {x : Exchange} {w : WriteBack} {version : Int}
    (hsound : m.Sound) (hunderway : m.Underway) (hstep : Step m (.call i x) m')
    (hdone : m'.tasks[i]? = some ⟨w, .done (.ok version)⟩)
    (hnumbers : ∀ current, m.ledger.getCase w.caseId = .ok current →
      ¬ w.outcome.RunsOut current.snapshot) :
    ∃ stored, m'.ledger.getCase w.caseId = .ok ⟨stored, version⟩ ∧
      w.outcome.mergeInto stored = none := by
  obtain ⟨hwork, es, hruns⟩ := hunderway.finished hstep hdone
  rcases WriteBack.last_of_perform hruns with
    ⟨current, rfl, hnone, rfl⟩ | ⟨current, updated, rfl, -⟩
  · -- the case was read and has the outcome in it already
    cases hstep with
    | store _ hanswer =>
      obtain ⟨rfl, hread⟩ := answer_read hanswer
      exact ⟨current.snapshot, hread current rfl, hnone⟩
  · -- the write was accepted, and it stores what was merged into the case that was stored before
    obtain ⟨task, stored, htask, -, hstored, hmerge, rfl, hstores⟩ := hsound.accepted hstep
    have htaskwork : task.work = w := by simpa [htask] using hwork
    rw [htaskwork] at hmerge
    refine ⟨updated, ?_, Outcome.mergeInto_of_mergeInto (hnumbers _ hstored) hmerge⟩
    rw [getCase_eq_ok_iff, hstores, if_pos rfl]

/-! ## Repeating what has succeeded -/

/-- What was merged once has nothing left to merge, unless the merge ran out of numbers. So when a
write-back has succeeded, whatever came between its calls, and its merge did not run out of numbers,
then the same outcome can be written back any number of times again, as long as nobody else writes
the case: each time gives the same version, makes one call, which reads the case, and leaves the
whole store as it is, the audit events included. It does not matter who writes the outcome back,
why, and with how many attempts. -/
theorem writeBack_idempotent {start : Ledger} {i : Nat} {x : Exchange} {w : WriteBack}
    {version : Int} (hrun : Run ⟨start, []⟩ moves m) (hstep : Step m (.call i x) m')
    (hdone : m'.tasks[i]? = some ⟨w, .done (.ok version)⟩)
    (hnumbers : ∀ current, m.ledger.getCase w.caseId = .ok current →
      ¬ w.outcome.RunsOut current.snapshot) :
    (∃ stored, m'.ledger.getCase w.caseId = .ok ⟨stored, version⟩ ∧
      ∀ (ledger : Ledger) (again : List WriteBack),
        ledger.getCase w.caseId = m'.ledger.getCase w.caseId →
        (∀ w' ∈ again, w'.caseId = w.caseId ∧ w'.outcome = w.outcome) →
        ∀ {σ : Type} (service : Http.ServiceHandler σ) (t : σ),
          (WriteBack.performAll again).run.run (Http.handler service) (ledger, t) =
              (.ok (again.map fun _ => version), (ledger, t)) ∧
            (WriteBack.performAll again).run.trace (Http.handler service) (ledger, t) =
              again.map fun w' => ⟨.store w'.readCall, .ok ⟨stored, version⟩⟩) ∧
    ∀ (o : Outcome) (current s : CaseSnapshot), ¬ o.RunsOut current →
      o.mergeInto current = some s → o.mergeInto s = none := by
  refine ⟨?_, fun o current s hout hmerge => Outcome.mergeInto_of_mergeInto hout hmerge⟩
  have hsound : m.Sound := hrun.sound fun _ hmem => nomatch hmem
  have hunderway : m.Underway := hrun.underway fun _ hmem => nomatch hmem
  obtain ⟨stored, hstored, hnone⟩ := settled_of_finished hsound hunderway hstep hdone hnumbers
  refine ⟨stored, hstored, fun ledger again hledger hagain σ service t => ?_⟩
  have hread : ∀ w' ∈ again, Http.handler service (.store w'.readCall) (ledger, t) =
      (.ok ⟨stored, version⟩, (ledger, t)) := by
    intro w' hw'
    have hget : ledger.getCase w'.caseId = .ok ⟨stored, version⟩ := by
      rw [(hagain w' hw').1, hledger, hstored]
    simp only [Http.handler, WriteBack.readCall, answer, hget]
    rfl
  have hnone' : ∀ w' ∈ again, w'.outcome.mergeInto stored = none := by
    intro w' hw'
    simp [hagain w' hw', hnone]
  exact WriteBack.performAll_of_read hread hnone'

/-- A hearing service that cannot be reached. -/
def silentService : Http.ServiceHandler Unit :=
  fun _ world => (.error (.unreachable "closed"), world)

/-- The write-back of the adjourned appeal is repeated twice after its second attempt has
succeeded. -/
theorem writeBack_idempotent_twice :
    ∃ m m' event, Run ⟨adjournedLedger, []⟩ adjournedMoves m ∧
      Step m (.call 0 ⟨.store (.write "1" (Outcome.adjournedOutcome.merged Outcome.urgentCase) 2
        event), .ok 3⟩) m' ∧
      ((WriteBack.performAll [adjournedWork, adjournedWork]).run.run (Http.handler silentService)
        (m'.ledger, ())) = (.ok [3, 3], (m'.ledger, ())) := by
  obtain ⟨m, event, m', hrun, hstep, hdone, hstored⟩ :
      ∃ m event m', Run ⟨adjournedLedger, []⟩ adjournedMoves m ∧
        Step m (.call 0 ⟨.store (.write "1" (Outcome.adjournedOutcome.merged Outcome.urgentCase) 2
          event), .ok 3⟩) m' ∧
        m'.tasks[0]? = some ⟨adjournedWork, .done (.ok 3)⟩ ∧
        m.ledger.getCase "1" = .ok ⟨Outcome.urgentCase, 2⟩ :=
    ⟨_, _, _, .cons (.start _) (.cons (.store rfl rfl) (.cons (.put _) (.cons (.store rfl rfl)
      (.cons (.store rfl rfl) (.nil _))))), .store (c := .write ..) rfl rfl, rfl, rfl⟩
  have hnumbers : ∀ current, m.ledger.getCase adjournedWork.caseId = .ok current →
      ¬ adjournedWork.outcome.RunsOut current.snapshot := by
    intro current hcurrent
    obtain rfl := Except.ok.inj (hstored.symm.trans hcurrent)
    rintro ⟨highest, hexhausted⟩
    cases hexhausted
  obtain ⟨⟨stored, -, hagain⟩, -⟩ := writeBack_idempotent hrun hstep hdone hnumbers
  obtain ⟨htwice, -⟩ := hagain m'.ledger [adjournedWork, adjournedWork] rfl (by simp)
    silentService ()
  exact ⟨m, m', event, hrun, hstep, htwice⟩

end TribunalListing
