-- SUMMARY: What a list of exchanges shows of a run, and which exchanges single calls and units of work make.
import TribunalListing.Exchange.Act
import TribunalListing.Trigger

/-!
# Runs

A run is seen through the exchanges that it makes. Three things matter about them: the calls that
change a hearing, the writes that the case store accepted, and the calls on the store that came too
late. All three are read off exchange by exchange, so that the exchanges of two acts in sequence
show what both of them show. Below that stands one lemma for each way to put a unit of work
together, which says exactly what its runs are.
-/

namespace TribunalListing

/-- The hearing action that a call carries out; other calls carry out none. -/
def ServiceCall.action? : ServiceCall → Option HearingAction
  | .create _ => some .create
  | .update _ _ => some .update
  | .cancel _ _ => some .cancel
  | .get _ | .list _ | .notify _ _ _ _ => none

/-- The call neither asks for a new hearing nor lists hearings. -/
def Call.isRoutine : Call → Bool
  | .service (.create _) | .service (.list _) => false
  | .service (.update _ _) | .service (.cancel _ _) | .service (.get _)
  | .service (.notify _ _ _ _) | .store _ => true

/-- A call that changes a hearing, with the reply of the hearing service. -/
structure Change where
  call : ServiceCall
  reply : Except ServiceError HearingReply

namespace Act

/-! ## What exchanges show -/

/-- The exchange as a change of a hearing, if it is one. -/
def Exchange.change? : Exchange → Option Change
  | ⟨.service (.create request), reply⟩ => some ⟨.create request, reply⟩
  | ⟨.service (.update hearingId request), reply⟩ => some ⟨.update hearingId request, reply⟩
  | ⟨.service (.cancel hearingId request), reply⟩ => some ⟨.cancel hearingId request, reply⟩
  | ⟨.service (.get _), _⟩ | ⟨.service (.list _), _⟩ | ⟨.service (.notify _ _ _ _), _⟩ => none
  | ⟨.store _, _⟩ => none

/-- The version that the store gave out, if the exchange is a write that it accepted. -/
def Exchange.written? : Exchange → Option Int
  | ⟨.store (.write _ _ _ _), .ok version⟩ => some version
  | ⟨.store (.write _ _ _ _), .error _⟩ | ⟨.store (.read _), _⟩ | ⟨.service _, _⟩ => none

/-- The store turned the call down because it came too late. -/
def Exchange.isConflict : Exchange → Bool
  | ⟨.store _, .error error⟩ => error.isConflict
  | ⟨.store _, .ok _⟩ | ⟨.service _, _⟩ => false

/-- The changes of hearings among some exchanges. -/
def changes (es : List Exchange) : List Change :=
  es.filterMap Exchange.change?

/-- The versions that the store gave out for the writes among some exchanges. -/
def writes (es : List Exchange) : List Int :=
  es.filterMap Exchange.written?

/-- How many calls on the store came too late. -/
def conflicts (es : List Exchange) : Nat :=
  es.countP Exchange.isConflict

/-- A change of a hearing is no write. -/
theorem Exchange.written?_of_change? {x : Exchange} {change : Change}
    (h : x.change? = some change) : x.written? = none := by
  unfold change? at h
  split at h <;> first | rfl | cases h

@[simp] theorem changes_nil : changes [] = [] := rfl

@[simp] theorem writes_nil : writes [] = [] := rfl

@[simp] theorem conflicts_nil : conflicts [] = 0 := rfl

@[simp] theorem changes_append (es₁ es₂ : List Exchange) :
    changes (es₁ ++ es₂) = changes es₁ ++ changes es₂ :=
  List.filterMap_append

@[simp] theorem writes_append (es₁ es₂ : List Exchange) :
    writes (es₁ ++ es₂) = writes es₁ ++ writes es₂ :=
  List.filterMap_append

@[simp] theorem conflicts_append (es₁ es₂ : List Exchange) :
    conflicts (es₁ ++ es₂) = conflicts es₁ + conflicts es₂ :=
  List.countP_append

theorem conflicts_store_ok (c : StoreCall) (answer : c.Answer) (es : List Exchange) :
    conflicts (⟨.store c, .ok answer⟩ :: es) = conflicts es :=
  List.countP_cons_of_neg (by simp [Exchange.isConflict])

theorem conflicts_store_error (c : StoreCall) (error : StoreError) (es : List Exchange) :
    conflicts (⟨.store c, .error error⟩ :: es) =
      conflicts es + if error.isConflict then 1 else 0 :=
  List.countP_cons

/-- The exchanges neither change a hearing nor write the case. -/
def Quiet (es : List Exchange) : Prop :=
  changes es = [] ∧ writes es = []

theorem quiet_nil : Quiet [] :=
  ⟨rfl, rfl⟩

theorem quiet_append {es₁ es₂ : List Exchange} (h₁ : Quiet es₁) (h₂ : Quiet es₂) :
    Quiet (es₁ ++ es₂) := by
  refine ⟨?_, ?_⟩
  · rw [changes_append, h₁.1, h₂.1]
    rfl
  · rw [writes_append, h₁.2, h₂.2]
    rfl

/-! ## Runs of single calls -/

variable {α β : Type} {es : List Exchange}

theorem runs_pure_iff {a b : α} : Runs (pure a) es b ↔ es = [] ∧ b = a := by
  constructor
  · intro h
    cases h
    exact ⟨rfl, rfl⟩
  · rintro ⟨rfl, rfl⟩
    exact .done _

theorem runs_call_iff {c : Call} {next : c.Reply → Act α} {a : α} :
    Runs (.call c next) es a ↔
      ∃ reply rest, es = ⟨c, reply⟩ :: rest ∧ Runs (next reply) rest a := by
  constructor
  · intro h
    cases h with
    | @call _ _ reply rest _ h => exact ⟨reply, rest, rfl, h⟩
  · rintro ⟨reply, rest, rfl, h⟩
    exact .call h

theorem runs_service_iff {c : ServiceCall} {reply : Except ServiceError c.Answer} :
    Runs (service c) es reply ↔ es = [⟨.service c, reply⟩] := by
  rw [service, runs_call_iff]
  constructor
  · rintro ⟨reply', rest, rfl, h⟩
    obtain ⟨rfl, rfl⟩ := runs_pure_iff.mp h
    rfl
  · rintro rfl
    exact ⟨reply, [], rfl, .done _⟩

theorem runs_store_iff {c : StoreCall} {reply : Except StoreError c.Answer} :
    Runs (store c) es reply ↔ es = [⟨.store c, reply⟩] := by
  rw [store, runs_call_iff]
  constructor
  · rintro ⟨reply', rest, rfl, h⟩
    obtain ⟨rfl, rfl⟩ := runs_pure_iff.mp h
    rfl
  · rintro rfl
    exact ⟨reply, [], rfl, .done _⟩

/-! ## Runs with a handler -/

/-- The exchanges of an act whose calls are answered by a handler. -/
def trace {σ : Type} (handler : Handler σ) : Act α → σ → List Exchange
  | .done _, _ => []
  | .call c next, s => ⟨c, (handler c s).1⟩ :: (next (handler c s).1).trace handler (handler c s).2

/-- However calls are answered, and whatever state the answers depend on: running an act is one of
its runs. -/
theorem runs_trace {σ : Type} (handler : Handler σ) (p : Act α) (s : σ) :
    Runs p (p.trace handler s) (p.run handler s).1 := by
  induction p generalizing s with
  | done a => exact .done a
  | call c next ih => exact .call (ih _ _)

/-- The exchanges of two acts in sequence: those of the first one, then those of the second one from
the state that the first one has left. -/
theorem trace_bind {σ : Type} (handler : Handler σ) (p : Act α) (f : α → Act β) (s : σ) :
    (p >>= f).trace handler s =
      p.trace handler s ++ (f (p.run handler s).1).trace handler (p.run handler s).2 := by
  induction p generalizing s with
  | done a => rfl
  | call c next ih => simp [trace, run, ih]

/-! ## What is left of an act -/

/-- After the act has made these calls and was given these replies, it has this left to do. -/
inductive Left (p : Act α) : List Exchange → Act α → Prop where
  | nil : Left p [] p
  | snoc {es : List Exchange} {c : Call} {next : c.Reply → Act α} (reply : c.Reply) :
      Left p es (.call c next) → Left p (es ++ [⟨c, reply⟩]) (next reply)

/-- A run of what is left completes a run of the act. -/
theorem Left.runs {p q : Act α} {es' : List Exchange} {a : α} (h : Left p es q)
    (hq : Runs q es' a) : Runs p (es ++ es') a := by
  induction h generalizing es' with
  | nil => exact hq
  | snoc reply _ ih =>
    rw [List.append_assoc]
    exact ih (.call hq)

/-! ## Calls that an act can make -/

/-- Whatever the act is replied, it makes calls of this kind only. -/
inductive Makes (P : Call → Prop) : Act α → Prop where
  | done (a : α) : Makes P (.done a)
  | call {c : Call} {next : c.Reply → Act α} :
      P c → (∀ reply, Makes P (next reply)) → Makes P (.call c next)

section

variable {P : Call → Prop}

theorem Makes.store {c : StoreCall} (h : P (.store c)) : Makes P (store c) :=
  .call h .done

theorem Makes.service {c : ServiceCall} (h : P (.service c)) : Makes P (service c) :=
  .call h .done

theorem Makes.mono {P' : Call → Prop} {p : Act α} (h : Makes P p) (hP : ∀ c, P c → P' c) :
    Makes P' p := by
  induction h with
  | done a => exact .done a
  | call hcall _ ih => exact .call (hP _ hcall) ih

theorem Makes.bind {p : Act α} {f : α → Act β} (h : Makes P p) (hf : ∀ a, Makes P (f a)) :
    Makes P (p >>= f) := by
  induction h with
  | done a => exact hf a
  | call hcall _ ih => exact .call hcall ih

theorem Makes.forall_mem {p : Act α} {a : α} (h : Makes P p) (hruns : Runs p es a) :
    ∀ x ∈ es, P x.call := by
  induction hruns with
  | done a => simp
  | call _ ih =>
    cases h with
    | call hcall hnext => exact List.forall_mem_cons.mpr ⟨hcall, ih (hnext _)⟩

end

/-! ## Runs of units of work -/

variable {ε : Type} {r : Except ε β}

theorem runs_work_pure_iff {b : β} :
    Runs (pure b : ExceptT ε Act β).run es r ↔ es = [] ∧ r = .ok b := by
  rw [ExceptT.run_pure]
  exact runs_pure_iff

theorem runs_work_throw_iff {e : ε} :
    Runs (throw e : ExceptT ε Act β).run es r ↔ es = [] ∧ r = .error e := by
  rw [ExceptT.run_throw]
  exact runs_pure_iff

/-- Two units of work in sequence: the first one fails and ends the run, or the second one goes on
from its result. -/
theorem runs_work_bind_iff {p : ExceptT ε Act α} {f : α → ExceptT ε Act β} :
    Runs (p >>= f).run es r ↔
      (∃ e, r = .error e ∧ Runs p.run es (.error e)) ∨
        ∃ a es₁ es₂, es = es₁ ++ es₂ ∧ Runs p.run es₁ (.ok a) ∧ Runs (f a).run es₂ r := by
  rw [ExceptT.run_bind, runs_bind_iff]
  constructor
  · rintro ⟨es₁, result, es₂, rfl, h₁, h₂⟩
    cases result with
    | ok a => exact .inr ⟨a, es₁, es₂, rfl, h₁, h₂⟩
    | error e =>
      obtain ⟨rfl, rfl⟩ := runs_pure_iff.mp h₂
      exact .inl ⟨e, rfl, by simpa using h₁⟩
  · rintro (⟨e, rfl, h⟩ | ⟨a, es₁, es₂, rfl, h₁, h₂⟩)
    · exact ⟨es, .error e, [], by simp, h, .done _⟩
    · exact ⟨es₁, .ok a, es₂, rfl, h₁, h₂⟩

/-- Two units of work in sequence succeed if both of them do. -/
theorem runs_work_bind_ok_iff {p : ExceptT ε Act α} {f : α → ExceptT ε Act β} {b : β} :
    Runs (p >>= f).run es (.ok b) ↔
      ∃ a es₁ es₂, es = es₁ ++ es₂ ∧ Runs p.run es₁ (.ok a) ∧ Runs (f a).run es₂ (.ok b) := by
  rw [runs_work_bind_iff]
  constructor
  · rintro (⟨e, herror, -⟩ | h)
    · cases herror
    · exact h
  · exact .inr

/-- An act at the start of a unit of work never fails by itself. -/
theorem run_lift_bind (p : Act α) (f : α → ExceptT ε Act β) :
    (liftM p >>= f).run = p >>= fun a => (f a).run := by
  rw [ExceptT.run_bind, ExceptT.run_liftM, map_eq_pure_bind, bind_assoc]
  rfl

/-- Two units of work in sequence make the calls of both. -/
theorem Makes.work_bind {P : Call → Prop} {p : ExceptT ε Act α} {f : α → ExceptT ε Act β}
    (h : Makes P p.run) (hf : ∀ a, Makes P (f a).run) : Makes P (p >>= f).run := by
  rw [ExceptT.run_bind]
  refine h.bind fun result => ?_
  cases result with
  | ok a => exact hf a
  | error e => exact .done _

theorem Makes.lift_bind {P : Call → Prop} {p : Act α} {f : α → ExceptT ε Act β} (h : Makes P p)
    (hf : ∀ a, Makes P (f a).run) : Makes P (liftM p >>= f).run := by
  rw [run_lift_bind]
  exact h.bind hf

theorem runs_work_lift_bind_iff {p : Act α} {f : α → ExceptT ε Act β} :
    Runs (liftM p >>= f).run es r ↔
      ∃ es₁ a es₂, es = es₁ ++ es₂ ∧ Runs p es₁ a ∧ Runs (f a).run es₂ r := by
  rw [run_lift_bind, runs_bind_iff]

end Act

end TribunalListing
