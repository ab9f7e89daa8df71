-- SUMMARY: What the case store holds for a case while exchanges are made, where the store applies writes atomically.
import TribunalListing.Http.Router
import TribunalListing.Proofs.Exchange.Runs
import TribunalListing.Proofs.Store.Ledger

/-!
# Moments

A moment is an exchange together with what the store holds for a case just before and just after it.
Between two moments others may write the case as they please. A store that applies writes atomically
changes the case at one kind of moment only: when it accepts a write that names the version at which
it holds the case. A call that fails leaves the case as it is. The server's store is such a store, and
as its versions only go up, a version tells which case is held at it.
-/

namespace TribunalListing

/-- The case that a call on the store is about. -/
def StoreCall.caseId : StoreCall → String
  | .read caseId => caseId
  | .write caseId _ _ _ => caseId

namespace Act

/-- The exchange is one with the case store. -/
def Exchange.isStoreCall : Exchange → Bool
  | ⟨.store _, _⟩ => true
  | ⟨.service _, _⟩ => false

/-! ## Atomic stores -/

/-- An exchange, with what the store holds for a case just before it and just after it. -/
structure Moment where
  exchange : Exchange
  before : Option VersionedCase
  after : Option VersionedCase

/-- The exchanges of some moments. -/
def exchanges (ms : List Moment) : List Exchange :=
  ms.map (·.exchange)

/-- What a store that applies writes atomically does at one moment to what it holds for a case. -/
inductive Moment.Atomic (caseId : String) : Moment → Prop where
  /-- A read gives what the store holds. -/
  | read (current : VersionedCase) :
      Atomic caseId ⟨⟨.store (.read caseId), .ok current⟩, some current, some current⟩
  /-- A write is accepted at the version at which the case is held, and leaves what was written. -/
  | write (old snapshot : CaseSnapshot) (event : AuditEvent) (expected version : Int) :
      Atomic caseId ⟨⟨.store (.write caseId snapshot expected event), .ok version⟩,
        some ⟨old, expected⟩, some ⟨snapshot, version⟩⟩
  | elsewhere (held : Option VersionedCase) {c : StoreCall} (answer : c.Answer) :
      c.caseId ≠ caseId → Atomic caseId ⟨⟨.store c, .ok answer⟩, held, held⟩
  | failed (held : Option VersionedCase) (c : StoreCall) (error : StoreError) :
      Atomic caseId ⟨⟨.store c, .error error⟩, held, held⟩
  | service (held : Option VersionedCase) (c : ServiceCall) (reply : Except ServiceError c.Answer) :
      Atomic caseId ⟨⟨.service c, reply⟩, held, held⟩

/-- The last exchange is a call on the store, and shows that the store holds this case. -/
def LastHeld (ms : List Moment) (v : VersionedCase) : Prop :=
  ∃ front m, ms = front ++ [m] ∧ m.exchange.isStoreCall = true ∧ m.after = some v

/-- A version tells which case it is: at no two moments are different cases held at one version. -/
def VersionsTell (ms : List Moment) : Prop :=
  ∀ m ∈ ms, ∀ m' ∈ ms, ∀ v v', m.before = some v → m'.before = some v' →
    v.version = v'.version → v = v'

variable {caseId : String} {m : Moment} {ms ms₁ ms₂ : List Moment}

@[simp] theorem exchanges_nil : exchanges [] = [] := rfl

@[simp] theorem exchanges_cons (m : Moment) (ms : List Moment) :
    exchanges (m :: ms) = m.exchange :: exchanges ms := rfl

/-- The moments of some exchanges come apart with the exchanges. -/
theorem exchanges_eq_append_iff {es₁ es₂ : List Exchange} :
    exchanges ms = es₁ ++ es₂ ↔
      ∃ ms₁ ms₂, ms = ms₁ ++ ms₂ ∧ exchanges ms₁ = es₁ ∧ exchanges ms₂ = es₂ :=
  List.map_eq_append_iff

/-- A run that begins with a call has a first moment, at which the call is answered. -/
theorem first_of_runs_call {α : Type} {c : Call} {next : c.Reply → Act α} {a : α}
    (h : Runs (.call c next) (exchanges ms) a) :
    ∃ first rest reply, ms = first :: rest ∧ first.exchange = ⟨c, reply⟩ ∧
      Runs (next reply) (exchanges rest) a := by
  obtain ⟨reply, es, hes, hrest⟩ := runs_call_iff.mp h
  obtain ⟨first, rest, rfl, hfirst, rfl⟩ := List.map_eq_cons_iff.mp hes
  exact ⟨first, rest, reply, rfl, hfirst, hrest⟩

/-- Only a write that is accepted changes what is held. -/
theorem Moment.Atomic.after_eq (h : m.Atomic caseId) (hwritten : m.exchange.written? = none) :
    m.after = m.before := by
  cases h with
  | read current => rfl
  | write old snapshot event hlt => cases hwritten
  | elsewhere held answer hne => rfl
  | failed held c error => rfl
  | service held c reply => rfl

/-- After a read, the store holds what was read. -/
theorem Moment.Atomic.after_of_read {current : VersionedCase} (h : m.Atomic caseId)
    (hread : m.exchange = ⟨.store (.read caseId), .ok current⟩) : m.after = some current := by
  obtain ⟨x, before, after⟩ := m
  obtain rfl := hread
  cases h with
  | read => rfl
  | elsewhere _ _ hne => exact absurd rfl hne

/-- A write that is accepted finds the case at the version that it names, and leaves what was
written. -/
theorem Moment.Atomic.of_write {snapshot : CaseSnapshot} {expected version : Int}
    {event : AuditEvent} (h : m.Atomic caseId)
    (hwrite : m.exchange = ⟨.store (.write caseId snapshot expected event), .ok version⟩) :
    ∃ old, m.before = some old ∧ old.version = expected ∧ m.after = some ⟨snapshot, version⟩ := by
  obtain ⟨x, before, after⟩ := m
  obtain rfl := hwrite
  cases h with
  | write old => exact ⟨⟨old, expected⟩, rfl, rfl, rfl⟩
  | elsewhere _ _ hne => exact absurd rfl hne

theorem VersionsTell.drop (h : VersionsTell (ms₁ ++ ms₂)) : VersionsTell ms₂ :=
  fun m hm m' hm' => h m (List.mem_append_right ms₁ hm) m' (List.mem_append_right ms₁ hm')

theorem VersionsTell.tail (h : VersionsTell (m :: ms)) : VersionsTell ms :=
  @VersionsTell.drop [m] ms h

theorem LastHeld.append {v : VersionedCase} (h : LastHeld ms₂ v) (ms₁ : List Moment) :
    LastHeld (ms₁ ++ ms₂) v := by
  obtain ⟨front, m, rfl, hcall, hafter⟩ := h
  exact ⟨ms₁ ++ front, m, by simp, hcall, hafter⟩

/-- Where no write is accepted, no moment changes what is held. -/
theorem after_eq_of_writes (hatomic : ∀ m ∈ ms, m.Atomic caseId)
    (hwrites : writes (exchanges ms) = []) : ∀ m ∈ ms, m.after = m.before := by
  intro m hm
  apply (hatomic m hm).after_eq
  have hnone := List.filterMap_eq_nil_iff.mp hwrites
  exact hnone m.exchange (List.mem_map_of_mem hm)

/-! ## Runs with a handler -/

section

variable {α σ : Type}

/-- The moments of an act whose calls are answered by a handler, where `view` says what the state
holds for the case. -/
def moments (handler : Handler σ) (view : σ → Option VersionedCase) : Act α → σ → List Moment
  | .done _, _ => []
  | .call c next, s =>
    ⟨⟨c, (handler c s).1⟩, view s, view (handler c s).2⟩ ::
      (next (handler c s).1).moments handler view (handler c s).2

theorem exchanges_moments (handler : Handler σ) (view : σ → Option VersionedCase) (p : Act α)
    (s : σ) :
    exchanges (p.moments handler view s) = p.trace handler s := by
  induction p generalizing s with
  | done a => rfl
  | call c next ih => simp [moments, trace, ih]

/-- At each moment a call is answered in a state in which the invariant holds that the handler
keeps. -/
theorem exists_state_of_moment {handler : Handler σ} {view : σ → Option VersionedCase}
    {Inv : σ → Prop} (hinv : ∀ c s, Inv s → Inv (handler c s).2) (p : Act α) {s : σ} (hs : Inv s) :
    ∀ m ∈ p.moments handler view s,
      ∃ c s', Inv s' ∧ m = ⟨⟨c, (handler c s').1⟩, view s', view (handler c s').2⟩ := by
  induction p generalizing s with
  | done a => simp [moments]
  | call c next ih => exact List.forall_mem_cons.mpr ⟨⟨c, s, hs, rfl⟩, ih _ (hinv c s hs)⟩

/-- If a handler answers each call atomically, then so it does at all moments of an act. It may rely
on an invariant of its states. -/
theorem atomic_moments {handler : Handler σ} {view : σ → Option VersionedCase} (Inv : σ → Prop)
    (hatomic : ∀ c s, Inv s →
      Moment.Atomic caseId ⟨⟨c, (handler c s).1⟩, view s, view (handler c s).2⟩)
    (hinv : ∀ c s, Inv s → Inv (handler c s).2) (p : Act α) {s : σ} (hs : Inv s) :
    ∀ m ∈ p.moments handler view s, m.Atomic caseId := by
  intro m hm
  obtain ⟨c, s', hs', rfl⟩ := exists_state_of_moment hinv p hs m hm
  exact hatomic c s' hs'

/-- If a handler keeps each case that it has held, in that it holds no other one at its version from
then on, then a version tells which case it is at all moments of an act. -/
theorem versionsTell_moments {handler : Handler σ} {view : σ → Option VersionedCase}
    (Keeps : VersionedCase → σ → Prop) (hheld : ∀ v s, view s = some v → Keeps v s)
    (hkeeps : ∀ v c s, Keeps v s → Keeps v (handler c s).2)
    (htell : ∀ v v' s, Keeps v s → view s = some v' → v.version = v'.version → v = v')
    (p : Act α) (s : σ) : VersionsTell (p.moments handler view s) := by
  induction p generalizing s with
  | done a => simp [VersionsTell, moments]
  | call c next ih =>
    have hlater : ∀ m ∈ (next (handler c s).1).moments handler view (handler c s).2, ∀ v v',
        view s = some v → m.before = some v' → v.version = v'.version → v = v' := by
      intro m hm v v' hv hv'
      have hkept := hkeeps v c s (hheld v s hv)
      obtain ⟨c', s', hs', rfl⟩ := exists_state_of_moment (hkeeps v) _ hkept m hm
      exact htell v v' s' hs' hv'
    intro m hm m' hm' v v' hv hv' hversion
    rcases List.mem_cons.mp hm with rfl | hm <;> rcases List.mem_cons.mp hm' with rfl | hm'
    · exact Option.some.inj (hv.symm.trans hv')
    · exact hlater m' hm' v v' hv hv' hversion
    · exact (hlater m hm v' v hv' hv hversion.symm).symm
    · exact ih _ _ m hm m' hm' v v' hv hv' hversion

end

end Act

namespace Ledger

/-! ## The case store -/

/-- What the store holds for a case that can be read. -/
def held (caseId : String) (s : Ledger) : Option VersionedCase :=
  (s.getCase caseId).toOption

/-- The case can be read, if it is there. -/
def Readable (caseId : String) (s : Ledger) : Prop :=
  ∀ row, s.row? caseId = some row → row.snapshot.isSome

variable {s s' : Ledger} {caseId : String}

theorem held_eq_some_iff {v : VersionedCase} :
    s.held caseId = some v ↔ s.row? caseId = some ⟨caseId, some v.snapshot, v.version⟩ := by
  rw [← getCase_eq_ok_iff, held]
  cases s.getCase caseId <;> simp [Except.toOption]

/-- What is held for a case depends on the row of the case only. -/
theorem held_eq_of_row?_eq (h : s'.row? caseId = s.row? caseId) :
    s'.held caseId = s.held caseId := by
  apply Option.ext
  intro v
  rw [held_eq_some_iff, held_eq_some_iff, h]

theorem Readable.answer (h : s.Readable caseId) (c : StoreCall) :
    (s.answer c).2.Readable caseId := by
  generalize hanswer : s.answer c = answer
  obtain ⟨reply, s'⟩ := answer
  cases c with
  | read id =>
    obtain ⟨rfl, -⟩ := answer_read hanswer
    exact h
  | write id snapshot expected event =>
    rcases answer_write hanswer with ⟨rfl, -⟩ | ⟨-, -, hstores⟩
    · exact h
    · intro row hrow
      simp only [hstores caseId] at hrow
      split at hrow
      next =>
        cases hrow
        rfl
      next => exact h row hrow

/-- The store applies writes atomically, as long as what it holds for the case can be read. -/
theorem Readable.atomic_answer (h : s.Readable caseId) (c : StoreCall) :
    Act.Moment.Atomic caseId
      ⟨⟨.store c, (s.answer c).1⟩, s.held caseId, (s.answer c).2.held caseId⟩ := by
  generalize hanswer : s.answer c = answer
  obtain ⟨reply, s'⟩ := answer
  cases c with
  | read id =>
    obtain ⟨rfl, hread⟩ := answer_read hanswer
    cases reply with
    | error error => exact .failed _ _ _
    | ok current =>
      by_cases hid : id = caseId
      · subst hid
        have hheld : s'.held id = some current := by
          rw [held, hread current rfl]
          rfl
        simp only [hheld]
        exact .read current
      · exact .elsewhere _ _ hid
  | write id snapshot expected event =>
    rcases answer_write hanswer with ⟨rfl, error, rfl⟩ | ⟨rfl, ⟨old, hrow⟩, hstores⟩
    · exact .failed _ _ _
    · by_cases hid : id = caseId
      · subst hid
        obtain ⟨old, rfl⟩ := Option.isSome_iff_exists.mp (h _ hrow)
        have hbefore : s.held id = some ⟨old, expected⟩ := held_eq_some_iff.mpr hrow
        have hafter : s'.held id = some ⟨snapshot, expected + 1⟩ := by
          rw [held_eq_some_iff, hstores, if_pos rfl]
        simp only [hbefore, hafter]
        exact .write old snapshot event expected (expected + 1)
      · have hsame : s'.held caseId = s.held caseId := by
          apply held_eq_of_row?_eq
          rw [hstores, if_neg (Ne.symm hid)]
        simp only [hsame]
        exact .elsewhere _ _ hid

end Ledger

/-- The server's store answers atomically at all moments of an act, as long as the case can be read
and the hearing service leaves the store alone. -/
theorem Http.atomic_moments {α σ : Type} {caseId : String} {service : ServiceHandler σ}
    (hservice : ∀ c world, (service c world).2.1 = world.1) (p : Act α) (world : Ledger × σ)
    (h : world.1.Readable caseId) :
    ∀ m ∈ p.moments (handler service) (·.1.held caseId) world, m.Atomic caseId := by
  apply Act.atomic_moments fun world : Ledger × σ => world.1.Readable caseId
  · intro c world h
    cases c with
    | service c =>
      simp only [handler, hservice]
      exact .service _ _ _
    | store c => exact h.atomic_answer c
  · intro c world h
    cases c with
    | service c =>
      simp only [handler, hservice]
      exact h
    | store c => exact h.answer c
  · exact h

/-- At the server's store a version tells which case it is at all moments of an act, even if others
write cases while the hearing service is asked, as long as they keep what is stored. -/
theorem Http.versionsTell_moments {α σ : Type} {caseId : String} {service : ServiceHandler σ}
    (hservice : ∀ c world, (service c world).2.1.Supersedes world.1) (p : Act α)
    (world : Ledger × σ) :
    Act.VersionsTell (p.moments (handler service) (·.1.held caseId) world) := by
  apply Act.versionsTell_moments fun v world =>
    world.1.Keeps ⟨caseId, some v.snapshot, v.version⟩
  · intro v world hheld
    exact ⟨_, Ledger.held_eq_some_iff.mp hheld, .inl rfl⟩
  · intro v c world hkeeps
    cases c with
    | service c => exact (hservice c world).keeps hkeeps
    | store c => exact (Ledger.supersedes_answer rfl).keeps hkeeps
  · intro v v' world hkeeps hheld hversion
    have hrow := hkeeps.eq_of_version (Ledger.held_eq_some_iff.mp hheld) hversion.symm
    cases v
    cases v'
    cases hrow
    rfl

end TribunalListing
