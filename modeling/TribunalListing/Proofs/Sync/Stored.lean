-- SUMMARY: A write-back that nobody interferes with stores the case that was sent.
import TribunalListing.Proofs.Sync.Attempts
import TribunalListing.Proofs.Sync.Unchanged

/-!
# What a write-back stores

A write-back succeeds with a write that was accepted, or with a case that had the outcome in it when
it was read. Either way its exchanges show what the store holds then, and at which version. Attempts
that came too late do no harm: as long as nobody else changes anything but the history, each attempt
reads the case as it was at first, or as an earlier attempt has offered it, and makes the same of
both.
-/

namespace TribunalListing

namespace Act

/-! ## Cases among exchanges -/

/-- The case that was read, if the exchange is a read that succeeded. -/
def Exchange.read? : Exchange → Option VersionedCase
  | ⟨.store (.read _), .ok current⟩ => some current
  | ⟨.store (.read _), .error _⟩ | ⟨.store (.write _ _ _ _), _⟩ | ⟨.service _, _⟩ => none

/-- The case that the exchange is about: the one that was read, or the one that was offered for
writing, whether it was accepted or not. -/
def Exchange.shown? : Exchange → Option CaseSnapshot
  | ⟨.store (.read _), .ok current⟩ => some current.snapshot
  | ⟨.store (.write _ c _ _), _⟩ => some c
  | ⟨.store (.read _), .error _⟩ | ⟨.service _, _⟩ => none

/-- The case that the store holds at the exchange, as the reply tells. -/
def Exchange.stored? : Exchange → Option VersionedCase
  | ⟨.store (.read _), .ok current⟩ => some current
  | ⟨.store (.write _ c _ _), .ok version⟩ => some ⟨c, version⟩
  | ⟨.store _, .error _⟩ | ⟨.service _, _⟩ => none

/-- The cases that some exchanges are about. -/
def shown (es : List Exchange) : List CaseSnapshot :=
  es.filterMap Exchange.shown?

/-- The case that the store holds at the end of some exchanges, as the last reply tells that tells
anything of it. -/
def storedAfter (es : List Exchange) : Option VersionedCase :=
  (es.filterMap Exchange.stored?).getLast?

/-- Nobody else changes anything but the history of the case while the exchanges are made: each case
that is read is, but for its history, one that was read or offered before. Only the first one may be
any case. -/
def Undisturbed (known : List CaseSnapshot) : List Exchange → Prop
  | [] => True
  | x :: es =>
    (∀ current, x.read? = some current →
      known = [] ∨ ∃ c ∈ known, c.SameButHistory current.snapshot) ∧
    Undisturbed (known ++ x.shown?.toList) es

/-- A call that changes a hearing is about no case. -/
theorem Exchange.shown?_of_change? {x : Exchange} {change : Change} (h : x.change? = some change) :
    x.shown? = none := by
  obtain ⟨call | call, reply⟩ := x
  · rfl
  · cases h

variable {known : List CaseSnapshot} {es₁ es₂ : List Exchange}

theorem shown_cons (x : Exchange) (es : List Exchange) :
    shown (x :: es) = x.shown?.toList ++ shown es := by
  cases h : x.shown? <;> simp [shown, h]

theorem storedAfter_append (es₁ : List Exchange) {v : VersionedCase}
    (h : storedAfter es₂ = some v) : storedAfter (es₁ ++ es₂) = some v := by
  unfold storedAfter at h ⊢
  rw [List.filterMap_append, List.getLast?_append, h, Option.some_or]

theorem undisturbed_append_iff :
    Undisturbed known (es₁ ++ es₂) ↔
      Undisturbed known es₁ ∧ Undisturbed (known ++ shown es₁) es₂ := by
  induction es₁ generalizing known with
  | nil => simp [Undisturbed, shown]
  | cons x es₁ ih => simp [Undisturbed, shown_cons, ih, and_assoc]

end Act

open Act

/-! ## Attempts -/

namespace WriteBack

variable {w : WriteBack} {c : CaseSnapshot} {ids : List String} {known : List CaseSnapshot}
  {es : List Exchange}

/-- A write-back that succeeds is a series of attempts that succeeds. -/
theorem runs_attemptMore_of_perform {version : Int} (h : Runs w.perform.run es (.ok version)) :
    Runs (attemptMore (fun _ => w.attempt) 0 w.allowed) es (.ok version) := by
  unfold perform at h
  obtain ⟨es₁, result, es₂, rfl, h₁, h₂⟩ := runs_work_lift_bind_iff.mp h
  rcases result with (attempts | source) | version'
  · -- the attempts are used up, and whatever follows ends with an error
    by_cases hc : w.outcome.action = .cancel
    · simp only [hc, if_true, pure_bind] at h₂
      cases (runs_work_throw_iff.mp h₂).2
    · simp only [hc, if_false] at h₂
      obtain ⟨_, _, _, _, _, h₃⟩ := runs_work_lift_bind_iff.mp h₂
      cases (runs_work_throw_iff.mp h₃).2
  · cases (runs_work_throw_iff.mp h₂).2
  · obtain ⟨rfl, hversion⟩ := runs_work_pure_iff.mp h₂
    cases hversion
    rw [List.append_nil]
    exact h₁

/-- A series of attempts that succeeds ends with the attempt that succeeds; the store has accepted
no write before it. -/
theorem runs_attempt_of_attemptMore {made remaining : Nat} {version : Int}
    (h : Runs (attemptMore (fun _ => w.attempt) made remaining) es (.ok version)) :
    ∃ front last, es = front ++ last ∧ writes front = [] ∧ Runs w.attempt last (.ok version) := by
  induction remaining generalizing made es with
  | zero => cases (runs_pure_iff.mp h).2
  | succ remaining ih =>
    obtain ⟨es₁, result, es₂, rfl, h₁, h₂⟩ := runs_bind_iff.mp h
    cases result with
    | ok version' =>
      obtain ⟨rfl, hversion⟩ := runs_pure_iff.mp h₂
      cases hversion
      exact ⟨[], es₁, by simp, rfl, h₁⟩
    | error error =>
      obtain ⟨-, ⟨_, hok, -⟩ | ⟨_, -, -, hwrites⟩⟩ := attempt_shows h₁
      · cases hok
      · by_cases hc : error.isConflict = true
        · simp only [hc, if_true] at h₂
          obtain ⟨front, last, rfl, hfront, hlast⟩ := ih h₂
          exact ⟨es₁ ++ front, last, by simp, by simp [hwrites, hfront], hlast⟩
        · simp only [hc] at h₂
          cases (runs_pure_iff.mp h₂).2

theorem runs_attempt_of_perform {version : Int} (h : Runs w.perform.run es (.ok version)) :
    ∃ front last, es = front ++ last ∧ writes front = [] ∧ Runs w.attempt last (.ok version) :=
  runs_attempt_of_attemptMore (runs_attemptMore_of_perform h)

/-- A write-back that succeeds ends with a call on the store: the case was read and has the outcome
in it, or what was merged was written. The store has accepted no write before that call. -/
theorem exists_last_of_perform {version : Int} (h : Runs w.perform.run es (.ok version)) :
    ∃ front x, es = front ++ [x] ∧ writes front = [] ∧
      ((∃ current : VersionedCase, x = ⟨.store w.readCall, .ok current⟩ ∧
          w.outcome.mergeInto current.snapshot = none ∧ current.version = version) ∨
        ∃ current updated, x = ⟨.store (w.writeCall current updated), .ok version⟩ ∧
          w.outcome.mergeInto current.snapshot = some updated) := by
  obtain ⟨front, last, rfl, hwrites, hlast⟩ := runs_attempt_of_perform h
  rcases runs_attempt_iff.mp hlast with
    ⟨_, -, herror⟩ | ⟨current, hnone, rfl, hok⟩ | ⟨current, updated, hsome, rfl⟩
  · cases herror
  · exact ⟨front, _, rfl, hwrites, .inl ⟨current, rfl, hnone, (Except.ok.inj hok).symm⟩⟩
  · refine ⟨front ++ [⟨.store w.readCall, .ok current⟩], _, List.append_cons .., ?_,
      .inr ⟨current, updated, rfl, hsome⟩⟩
    rw [writes_append, hwrites]
    rfl

theorem last_of_perform {x : Exchange} {version : Int}
    (h : Runs w.perform.run (es ++ [x]) (.ok version)) :
    (∃ current : VersionedCase, x = ⟨.store w.readCall, .ok current⟩ ∧
        w.outcome.mergeInto current.snapshot = none ∧ current.version = version) ∨
      ∃ current updated, x = ⟨.store (w.writeCall current updated), .ok version⟩ ∧
        w.outcome.mergeInto current.snapshot = some updated := by
  obtain ⟨front, x', hes, -, hlast⟩ := exists_last_of_perform h
  obtain rfl := List.singleton_inj.mp (List.append_inj' hes rfl).2
  exact hlast

section

variable (hassigned : c.assignIds = .ok (w.outcome.derived, ids))
  (hclear : w.outcome.clearAdjournment = false)

include hassigned hclear

/-- An attempt reads an expected case and offers one, and if it succeeds, then the store holds the
case that was sent. -/
theorem attempt_stored {r : Except StoreError Int} (h : Runs w.attempt es r)
    (hundisturbed : Undisturbed known es) (hnil : known ≠ [])
    (hknown : ∀ s ∈ known, w.outcome.Expects c s) :
    (∀ s ∈ known ++ shown es, w.outcome.Expects c s) ∧
      ∀ version, r = .ok version → ∃ stored, storedAfter es = some ⟨stored, version⟩ ∧
        w.outcome.derived.SameButHistory stored := by
  have hread : ∀ {current rest}, es = ⟨.store w.readCall, .ok current⟩ :: rest →
      w.outcome.Expects c current.snapshot := by
    rintro current rest rfl
    rcases hundisturbed.1 current rfl with hnone | ⟨s, hs, hsame⟩
    · exact absurd hnone hnil
    · exact (hknown s hs).trans hsame
  rcases runs_attempt_iff.mp h with
    ⟨error, rfl, rfl⟩ | ⟨current, hnone, rfl, rfl⟩ | ⟨current, updated, hsome, rfl⟩
  · refine ⟨?_, ?_⟩
    · simpa [shown, Exchange.shown?] using hknown
    · rintro version ⟨⟩
  · have hcurrent := hread rfl
    refine ⟨?_, ?_⟩
    · intro s hs
      rcases List.mem_append.mp hs with hs | hs
      · exact hknown s hs
      · obtain rfl := List.mem_singleton.mp hs
        exact hcurrent
    · rintro version ⟨⟩
      -- the outcome is in the case already, so merging it in gives the case itself
      have hsame := hcurrent.sameButHistory_merged hassigned hclear
      rw [Outcome.merged_eq_self_of_mergeInto hnone] at hsame
      exact ⟨current.snapshot, rfl, hsame⟩
  · have hcurrent := hread rfl
    have hupdated : w.outcome.derived.SameButHistory updated := by
      rw [Outcome.eq_merged_of_mergeInto hsome]
      exact hcurrent.sameButHistory_merged hassigned hclear
    refine ⟨?_, ?_⟩
    · intro s hs
      rcases List.mem_append.mp hs with hs | hs
      · exact hknown s hs
      · have hpair : s = current.snapshot ∨ s = updated := by
          simpa [shown, Exchange.shown?] using hs
        rcases hpair with rfl | rfl
        · exact hcurrent
        · exact .inr hupdated
    · rintro version rfl
      exact ⟨updated, rfl, hupdated⟩

/-- Attempts that came too late leave it open whether they have stored the case; the one that
succeeds finds it there or stores it. -/
theorem attemptMore_stored {made remaining : Nat} {version : Int}
    (h : Runs (attemptMore (fun _ => w.attempt) made remaining) es (.ok version))
    (hundisturbed : Undisturbed known es) (hnil : known ≠ [])
    (hknown : ∀ s ∈ known, w.outcome.Expects c s) :
    ∃ stored, storedAfter es = some ⟨stored, version⟩ ∧
      w.outcome.derived.SameButHistory stored := by
  induction remaining generalizing made known es with
  | zero => cases (runs_pure_iff.mp h).2
  | succ remaining ih =>
    obtain ⟨es₁, result, es₂, rfl, h₁, h₂⟩ := runs_bind_iff.mp h
    obtain ⟨hfirst, hrest⟩ := undisturbed_append_iff.mp hundisturbed
    obtain ⟨hshown, hstored⟩ := attempt_stored hassigned hclear h₁ hfirst hnil hknown
    cases result with
    | ok version' =>
      obtain ⟨rfl, hversion⟩ := runs_pure_iff.mp h₂
      cases hversion
      rw [List.append_nil]
      exact hstored version rfl
    | error error =>
      by_cases hc : error.isConflict = true
      · simp only [hc, if_true] at h₂
        obtain ⟨stored, hafter, hsame⟩ := ih h₂ hrest (by simp [hnil]) hshown
        exact ⟨stored, storedAfter_append _ hafter, hsame⟩
      · simp only [hc] at h₂
        cases (runs_pure_iff.mp h₂).2

/-- After a write-back that succeeded, the store holds the case that was sent, but for its history,
at the version that the write-back gives. -/
theorem perform_stored {version : Int} (h : Runs w.perform.run es (.ok version))
    (hundisturbed : Undisturbed known es) (hnil : known ≠ [])
    (hknown : ∀ s ∈ known, w.outcome.Expects c s) :
    ∃ stored, storedAfter es = some ⟨stored, version⟩ ∧
      w.outcome.derived.SameButHistory stored :=
  attemptMore_stored hassigned hclear (runs_attemptMore_of_perform h) hundisturbed hnil hknown

end

end WriteBack

end TribunalListing
