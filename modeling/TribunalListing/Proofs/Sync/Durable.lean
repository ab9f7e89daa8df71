-- SUMMARY: A write-back that succeeds leaves a case that reflects the outcome, and its writes change nothing else.
import TribunalListing.Proofs.Exchange.Moments
import TribunalListing.Proofs.Sync.Interleaving
import TribunalListing.Proofs.Sync.Reflected
import TribunalListing.Proofs.Sync.Stored

/-!
# Durable write-backs

At a store that applies writes atomically, the last call of a write-back that succeeds shows what
the store holds: a case that has the outcome in it already, or what came of the merge. Where a
version tells which case it is, a write that is accepted replaces the very case that was merged
into, whatever others have written meanwhile. So the write-back changes nothing that a merge does
not change.
-/

namespace TribunalListing

open Act

namespace WriteBack

variable {w : WriteBack} {m : Moment} {ms : List Moment}

/-- When a write-back has succeeded, its last call shows the case that the store holds, at the
version that the write-back gives, and the outcome is reflected in it. -/
theorem reflected_of_perform {version : Int} (hatomic : ∀ m ∈ ms, m.Atomic w.caseId)
    (h : Runs w.perform.run (exchanges ms) (.ok version)) :
    ∃ stored, LastHeld ms ⟨stored, version⟩ ∧ w.outcome.Reflected stored := by
  obtain ⟨front, x, hes, -, hlast⟩ := exists_last_of_perform h
  obtain ⟨front, last, rfl, -, hlastx⟩ := exchanges_eq_append_iff.mp hes
  obtain ⟨m, rfl, hx⟩ := List.map_eq_singleton_iff.mp hlastx
  subst hx
  have hlastAtomic : m.Atomic w.caseId := hatomic m (by simp)
  rcases hlast with ⟨current, hread, hnone, rfl⟩ | ⟨current, updated, hwrite, hsome⟩
  · -- the outcome is in the case already, so merging it in gives the case itself
    have hafter : m.after = some current := hlastAtomic.after_of_read hread
    refine ⟨current.snapshot, ⟨front, m, rfl, by rw [hread]; rfl, hafter⟩, ?_⟩
    rw [← Outcome.merged_eq_self_of_mergeInto hnone]
    exact Outcome.reflected_merged _ _
  · obtain ⟨old, -, -, hafter⟩ := hlastAtomic.of_write hwrite
    refine ⟨updated, ⟨front, m, rfl, by rw [hwrite]; rfl, hafter⟩, ?_⟩
    rw [Outcome.eq_merged_of_mergeInto hsome]
    exact Outcome.reflected_merged _ _

/-! ## What is changed -/

/-- At the moment, the case stays as it is, or what comes of merging the outcome into it takes its
place. -/
def Merges (w : WriteBack) (m : Moment) : Prop :=
  m.after = m.before ∨ ∃ old updated version, m.before = some old ∧
    w.outcome.mergeInto old.snapshot = some updated ∧ m.after = some ⟨updated, version⟩

/-- What was read last is what is held at any of the moments at its version. -/
def Current (seen : Option VersionedCase) (ms : List Moment) : Prop :=
  ∀ current, seen = some current → ∀ m ∈ ms, ∀ held, m.before = some held →
    held.version = current.version → held = current

theorem current_none (ms : List Moment) : Current none ms :=
  fun _ hsome => nomatch hsome

/-- At each moment of a careful act, the case stays as it is or is merged into. -/
theorem merges_of_careful {α : Type} {seen : Option VersionedCase} {p : Act α} {a : α}
    (hcareful : Careful w seen p) (h : Runs p (exchanges ms) a)
    (hatomic : ∀ m ∈ ms, m.Atomic w.caseId) (htell : VersionsTell ms) (hseen : Current seen ms) :
    ∀ m ∈ ms, w.Merges m := by
  induction hcareful generalizing ms with
  | done seen a =>
    obtain ⟨hnil, -⟩ := runs_pure_iff.mp h
    obtain rfl := List.map_eq_nil_iff.mp hnil
    simp
  | read _ _ ihok iherror =>
    obtain ⟨m, ms, reply, rfl, hx, hrest⟩ := first_of_runs_call h
    obtain ⟨hfirst, hatomic⟩ := List.forall_mem_cons.mp hatomic
    have hunchanged : m.after = m.before := hfirst.after_eq (by rw [hx]; cases reply <;> rfl)
    refine List.forall_mem_cons.mpr ⟨.inl hunchanged, ?_⟩
    cases reply with
    | error error => exact iherror error hrest hatomic htell.tail (current_none ms)
    | ok current =>
      refine ihok current hrest hatomic htell.tail ?_
      rintro _ ⟨⟩ m' hm' held hheld hversion
      have hbefore : m.before = some current := by
        rw [← hunchanged]
        exact hfirst.after_of_read hx
      exact htell m' (List.mem_cons_of_mem _ hm') m List.mem_cons_self _ _ hheld hbefore hversion
  | @write current updated next hmerge _ ih =>
    obtain ⟨m, ms, reply, rfl, hx, hrest⟩ := first_of_runs_call h
    obtain ⟨hfirst, hatomic⟩ := List.forall_mem_cons.mp hatomic
    refine List.forall_mem_cons.mpr ⟨?_, ih reply hrest hatomic htell.tail (current_none ms)⟩
    cases reply with
    | error error => exact .inl (hfirst.after_eq (by rw [hx]; rfl))
    | ok version =>
      -- the case is held at the version of the one that was read, so it is the one that was read
      obtain ⟨old, hbefore, hversion, hafter⟩ := hfirst.of_write hx
      obtain rfl := hseen current rfl m List.mem_cons_self old hbefore hversion
      exact .inr ⟨old, updated, version, hbefore, hmerge, hafter⟩
  | service _ ih =>
    obtain ⟨m, ms, reply, rfl, hx, hrest⟩ := first_of_runs_call h
    obtain ⟨hfirst, hatomic⟩ := List.forall_mem_cons.mp hatomic
    have hunchanged : m.after = m.before := hfirst.after_eq (by rw [hx]; rfl)
    exact List.forall_mem_cons.mpr
      ⟨.inl hunchanged, ih reply hrest hatomic htell.tail (current_none ms)⟩

theorem merges_of_perform {r : Except EngineError Int} (h : Runs w.perform.run (exchanges ms) r)
    (hatomic : ∀ m ∈ ms, m.Atomic w.caseId) (htell : VersionsTell ms) : ∀ m ∈ ms, w.Merges m :=
  merges_of_careful .perform h hatomic htell (current_none ms)

/-- Whether an adjournment is in progress on the case that is held. -/
def adjourned? (held : Option VersionedCase) : Option Bool :=
  held.map (·.snapshot.adjournment.inProgress)

/-- A merge ends an adjournment only if the outcome is to do so. -/
theorem Merges.adjourned?_eq (h : w.Merges m) (hclear : w.outcome.clearAdjournment = false) :
    adjourned? m.after = adjourned? m.before := by
  rcases h with hunchanged | ⟨old, updated, version, hbefore, hmerge, hafter⟩
  · rw [hunchanged]
  · rw [hbefore, hafter, Outcome.eq_merged_of_mergeInto hmerge, Outcome.merged_eq]
    simp [adjourned?, hclear]

end WriteBack

end TribunalListing
