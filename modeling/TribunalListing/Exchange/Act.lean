-- SUMMARY: Acts: computations that make calls, and what comes of them when the calls are answered.
import TribunalListing.Exchange.Call

/-!
# Acts

An act is a computation that makes calls: it is either done, or it makes one call and goes on with
the reply. Nothing is said about how calls are answered, so whatever the partners do, and whatever
happens to them between two calls, is covered by running the act with some handler. `Act.run`
answers the calls from a state; `Act.Runs` relates an act to a list of calls with their replies, and
to the result that they lead to.
-/

namespace TribunalListing

inductive Act (α : Type) : Type where
  | done (result : α)
  | call (c : Call) (next : c.Reply → Act α)

namespace Act

/-- Goes on with a second act after the first. -/
def bind {α β : Type} : Act α → (α → Act β) → Act β
  | .done a, f => f a
  | .call c next, f => .call c fun reply => (next reply).bind f

instance : Monad Act where
  pure := .done
  bind := Act.bind

def service (c : ServiceCall) : Act (Except ServiceError c.Answer) :=
  .call (.service c) .done

def store (c : StoreCall) : Act (Except StoreError c.Answer) :=
  .call (.store c) .done

/-! ## Running -/

/-- A way to answer calls that keeps a state. -/
abbrev Handler (σ : Type) := (c : Call) → σ → c.Reply × σ

/-- Runs an act, with the calls answered by a handler. -/
def run {α σ : Type} (handler : Handler σ) : Act α → σ → α × σ
  | .done a, s => (a, s)
  | .call c next, s => (next (handler c s).1).run handler (handler c s).2

/-- A call with the reply that it was given. -/
structure Exchange where
  call : Call
  reply : call.Reply

/-- The act makes exactly these calls, is given these replies, and ends with this result. -/
inductive Runs {α : Type} : Act α → List Exchange → α → Prop where
  | done (a : α) : Runs (.done a) [] a
  | call {c : Call} {next : c.Reply → Act α} {reply : c.Reply} {rest : List Exchange} {a : α} :
      Runs (next reply) rest a → Runs (.call c next) (⟨c, reply⟩ :: rest) a

/-! ## Laws -/

@[simp] theorem pure_eq_done {α : Type} (a : α) : (pure a : Act α) = .done a := rfl

@[simp] theorem done_bind {α β : Type} (a : α) (f : α → Act β) : (.done a : Act α) >>= f = f a :=
  rfl

@[simp] theorem call_bind {α β : Type} (c : Call) (next : c.Reply → Act α) (f : α → Act β) :
    (.call c next : Act α) >>= f = .call c fun reply => next reply >>= f :=
  rfl

theorem bind_pure {α : Type} (p : Act α) : p >>= pure = p := by
  induction p with
  | done a => rfl
  | call c next ih => simp [ih]

theorem bind_assoc {α β γ : Type} (p : Act α) (f : α → Act β) (g : β → Act γ) :
    p >>= f >>= g = p >>= fun a => f a >>= g := by
  induction p with
  | done a => rfl
  | call c next ih => simp [ih]

instance : LawfulMonad Act :=
  LawfulMonad.mk' Act bind_pure (fun _ _ => rfl) bind_assoc

theorem run_bind {α β σ : Type} (handler : Handler σ) (p : Act α) (f : α → Act β) (s : σ) :
    (p >>= f).run handler s = (f (p.run handler s).1).run handler (p.run handler s).2 := by
  induction p generalizing s with
  | done a => rfl
  | call c next ih => simp [run, ih]

/-- A run of two acts in sequence is a run of the first followed by a run of the second. -/
theorem runs_bind_iff {α β : Type} {p : Act α} {f : α → Act β} {es : List Exchange} {b : β} :
    Runs (p >>= f) es b ↔
      ∃ es₁ a es₂, es = es₁ ++ es₂ ∧ Runs p es₁ a ∧ Runs (f a) es₂ b := by
  constructor
  · intro h
    induction p generalizing es with
    | done a => exact ⟨[], a, es, rfl, .done a, h⟩
    | call c next ih =>
      rw [call_bind] at h
      cases h with
      | @call _ _ reply rest _ h =>
        obtain ⟨es₁, a, es₂, rfl, h₁, h₂⟩ := ih reply h
        exact ⟨⟨c, reply⟩ :: es₁, a, es₂, rfl, .call h₁, h₂⟩
  · rintro ⟨es₁, a, es₂, rfl, h₁, h₂⟩
    induction h₁ with
    | done a => exact h₂
    | call _ ih => exact .call (ih h₂)

end Act

end TribunalListing
