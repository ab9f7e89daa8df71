-- SUMMARY: What a unit of work makes of the server's store: nothing, or one write of the case that it is for.
import TribunalListing.Http.Router
import TribunalListing.Proofs.Engine.Durable
import TribunalListing.Proofs.Store.Audit

/-!
# Work at the server's store

The server answers the calls of the engine from its store, one call after the other. So the
exchanges of a unit of work lead from the store as it was to the store as it is left, and what they
do to it can be read off them: where no write among them was accepted the store is what it was, and
a unit of work that handles a trigger comes down to its last two calls, a read of its case and a
write of what the outcome was merged into.
-/

namespace TribunalListing

namespace Act

variable {α σ : Type} {handler : Handler σ} {s s' : σ} {es es₁ es₂ : List Exchange}

/-- The handler gives these replies to these calls, and they lead from one state to another. -/
inductive Answers (handler : Handler σ) : σ → List Exchange → σ → Prop where
  | nil (s : σ) : Answers handler s [] s
  | cons {s s' : σ} {es : List Exchange} (c : Call) :
      Answers handler (handler c s).2 es s' → Answers handler s (⟨c, (handler c s).1⟩ :: es) s'

/-- The exchanges of an act lead to the state in which it ends. -/
theorem answers_trace (handler : Handler σ) (p : Act α) (s : σ) :
    Answers handler s (p.trace handler s) (p.run handler s).2 := by
  induction p generalizing s with
  | done a => exact .nil s
  | call c next ih => exact .cons c (ih _ _)

theorem Answers.of_cons {x : Exchange} (h : Answers handler s (x :: es) s') :
    x.reply = (handler x.call s).1 ∧ Answers handler (handler x.call s).2 es s' := by
  cases h with
  | cons c h => exact ⟨rfl, h⟩

/-- What some exchanges and then others lead to, by way of what the first of them lead to. -/
theorem Answers.of_append (h : Answers handler s (es₁ ++ es₂) s') :
    ∃ between, Answers handler s es₁ between ∧ Answers handler between es₂ s' := by
  induction es₁ generalizing s with
  | nil => exact ⟨s, .nil s, h⟩
  | cons x es₁ ih =>
    cases h with
    | cons c h =>
      obtain ⟨between, h₁, h₂⟩ := ih h
      exact ⟨between, .cons c h₁, h₂⟩

end Act

open Act

/-! ## The store -/

namespace Http

variable {σ : Type} {service : ServiceHandler σ} {world world' : Ledger × σ} {es : List Exchange}

/-- A call on the store is answered from the store. -/
theorem handler_store (c : StoreCall) (world : Ledger × σ) :
    handler service (.store c) world =
      ((world.1.answer c).1, ((world.1.answer c).2, world.2)) := rfl

/-- Where the store accepts no write, it stays what it is. -/
theorem ledger_of_writes_eq_nil (hservice : ∀ c world, (service c world).2.1 = world.1)
    (h : Answers (handler service) world es world') (hwrites : writes es = []) :
    world'.1 = world.1 := by
  induction h with
  | nil world => rfl
  | @cons world world' es c h ih =>
    have hfirst : Exchange.written? ⟨c, (handler service c world).1⟩ = none :=
      List.filterMap_eq_nil_iff.mp hwrites _ List.mem_cons_self
    have hrest : writes es = [] :=
      List.filterMap_eq_nil_iff.mpr fun x hx =>
        List.filterMap_eq_nil_iff.mp hwrites x (List.mem_cons_of_mem _ hx)
    rw [ih hrest]
    cases c with
    | service c => exact hservice c world
    | store c =>
      cases c with
      | read caseId => rfl
      | write caseId snapshot expected event =>
        rcases Ledger.answer_write
            (Prod.eta (world.1.answer (.write caseId snapshot expected event))).symm with
          ⟨hsame, -⟩ | ⟨haccepted, -⟩
        · exact hsame
        · rw [handler_store, haccepted] at hfirst
          cases hfirst

/-! ## Units of work -/

variable {e : Engine} {caseId : String} {trigger : Trigger} {cause : Cause}
  {r : Except EngineError SyncResult}

/-- A unit of work that has written ends with an attempt of its write-back: a read of the case, and
a write of what the outcome was merged into. -/
theorem attempt_of_writes (h : Runs (e.handle caseId trigger cause).run es r)
    (hwrites : writes es ≠ []) :
    ∃ (front : List Exchange) (w : WriteBack) (current : VersionedCase) (updated : CaseSnapshot)
      (version : Int),
      es = front ++ [⟨.store w.readCall, .ok current⟩,
        ⟨.store (w.writeCall current updated), .ok version⟩] ∧
      writes front = [] ∧ w.caseId = caseId ∧ w.outcome.mergeInto current.snapshot = some updated ∧
      ∃ action hearing, r = .ok (.applied action hearing version) := by
  rcases r with error | (⟨action, hearing, version⟩ | _)
  · exact absurd (writes_of_handle h (.inr ⟨error, rfl⟩)) hwrites
  · obtain ⟨before, w, after, rfl, hbefore, hid, -, hperform⟩ := writtenBack_of_handle h
    obtain ⟨front, last, rfl, hfront, hlast⟩ := WriteBack.runs_attempt_of_perform hperform
    have hquiet : writes (before ++ front) = [] := by
      rw [writes_append, hbefore, hfront]
      rfl
    rcases WriteBack.runs_attempt_iff.mp hlast with
      ⟨_, -, herror⟩ | ⟨current, -, rfl, -⟩ | ⟨current, updated, hmerge, rfl⟩
    · cases herror
    · refine absurd ?_ hwrites
      rw [← List.append_assoc, writes_append, hquiet]
      rfl
    · exact ⟨before ++ front, w, current, updated, version, by rw [List.append_assoc], hquiet, hid,
        hmerge, action, hearing, rfl⟩
  · exact absurd (writes_of_handle h (.inl rfl)) hwrites

/-- A unit of work that has written found its case in the store, and left it there one version
higher, with the id that it had. No other case was touched. -/
theorem stores_of_handle (hservice : ∀ c world, (service c world).2.1 = world.1)
    (hanswers : Answers (handler service) world es world')
    (h : Runs (e.handle caseId trigger cause).run es r) (hwrites : writes es ≠ []) :
    ∃ (current : VersionedCase) (updated : CaseSnapshot),
      world.1.row? caseId = some ⟨caseId, some current.snapshot, current.version⟩ ∧
      updated.caseId = current.snapshot.caseId ∧
      Ledger.Stores world.1 caseId updated (current.version + 1) world'.1 ∧
      (world.1.Intact → world'.1.Intact) ∧ ∃ result, r = .ok result := by
  obtain ⟨front, w, current, updated, version, rfl, hfront, rfl, hmerge, action, hearing, rfl⟩ :=
    attempt_of_writes h hwrites
  obtain ⟨between, hbetween, hlast⟩ := hanswers.of_append
  have hsame := ledger_of_writes_eq_nil hservice hbetween hfront
  obtain ⟨hread, hlast⟩ := hlast.of_cons
  obtain ⟨hwrite, hlast⟩ := hlast.of_cons
  cases hlast
  simp only [handler_store, hsame] at hread hwrite ⊢
  have hcurrent := (Ledger.answer_read (Prod.eta (world.1.answer w.readCall)).symm).2 current
    hread.symm
  have hread' : (world.1.answer w.readCall).2 = world.1 := rfl
  rw [hread'] at hwrite ⊢
  have hanswer : world.1.answer (w.writeCall current updated) =
      (.ok version, (world.1.answer (w.writeCall current updated)).2) := by
    rw [hwrite]
  rcases Ledger.answer_write hanswer with ⟨-, _, herror⟩ | ⟨-, -, hstores⟩
  · cases herror
  · have hid : updated.caseId = current.snapshot.caseId := by
      rw [Outcome.eq_merged_of_mergeInto hmerge, Outcome.merged_eq]
      rfl
    exact ⟨current, updated, Ledger.getCase_eq_ok_iff.mp hcurrent, hid, hstores,
      fun hintact => hintact.answer hanswer, _, rfl⟩

end Http

end TribunalListing
