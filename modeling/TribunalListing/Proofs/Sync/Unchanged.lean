-- SUMMARY: Merged into the case that its request was derived from, an outcome brings exactly the ids that were sent.
import TribunalListing.Proofs.Sync.Merge

/-!
# Merging into an unchanged case

If nobody has changed anything but the history of a case since a request was derived from it, then
the ids that were sent are copied in full, and no party is left without one. What comes of the merge
is the case that was sent, with the record in its history. It comes of a merge into a case that has
the ids already as well.
-/

namespace TribunalListing

/-- Two snapshots of a case differ in nothing but their histories. -/
def CaseSnapshot.SameButHistory (c d : CaseSnapshot) : Prop :=
  d = { c with hearings := d.hearings }

namespace CaseSnapshot

variable {c d s : CaseSnapshot}

theorem SameButHistory.trans (h : c.SameButHistory d) (h' : d.SameButHistory s) :
    c.SameButHistory s := by
  unfold SameButHistory at h h' ⊢
  rw [h', h]

theorem sameButHistory_of_hearings (c : CaseSnapshot) (history : HearingHistory) :
    c.SameButHistory { c with hearings := history } := rfl

end CaseSnapshot

/-- Once the record is taken in, only the history is left of what was different. -/
theorem CaseSnapshot.SameButHistory.recordHearing {o : Outcome} {c current : CaseSnapshot}
    (h : c.SameButHistory current) :
    o.recordHearing current = { c with hearings := current.hearings.merge o.hearing } := by
  unfold SameButHistory at h
  unfold Outcome.recordHearing
  rw [h]

namespace Outcome

open CaseSnapshot

variable {o : Outcome} {c current s : CaseSnapshot} {ids : List String}

/-! ## Expected cases -/

/-- The case is, but for its history, the one that the request was derived from, before or after ids
were handed out on it. -/
def Expects (o : Outcome) (c s : CaseSnapshot) : Prop :=
  c.SameButHistory s ∨ o.derived.SameButHistory s

theorem expects_self (o : Outcome) (c : CaseSnapshot) : o.Expects c c :=
  .inl rfl

theorem Expects.trans (h : o.Expects c current) (h' : current.SameButHistory s) :
    o.Expects c s :=
  h.imp (·.trans h') (·.trans h')

/-! ## Merging -/

theorem numberParties_of_vacantPlaces_eq_nil (h : c.vacantPlaces = []) :
    o.numberParties c = (c, []) := by
  unfold numberParties
  rw [assignIdsAbove_of_vacantPlaces_eq_nil h]

/-- Merged into an expected case, an outcome gives the case that was sent, with the record in the
history of the other one. -/
theorem Expects.merged_eq (hcurrent : o.Expects c current)
    (h : c.assignIds = .ok (o.derived, ids)) (hclear : o.clearAdjournment = false) :
    o.merged current = { o.derived with hearings := current.hearings.merge o.hearing } := by
  have hvacant :
      { o.derived with hearings := current.hearings.merge o.hearing }.vacantPlaces = [] :=
    vacantPlaces_of_assignIdsAbove (assignIdsAbove_hearings h _)
  have hcopied : o.derived.copyIds (o.recordHearing current) =
      { o.derived with hearings := current.hearings.merge o.hearing } := by
    rcases hcurrent with hsame | hsame
    · -- the ids that were handed out are all copied
      rw [hsame.recordHearing, copyIds_hearings, copyIds_of_assignIdsAbove h]
    · -- the ids are there already
      rw [hsame.recordHearing]
      exact copyIds_of_vacantPlaces_eq_nil hvacant
  have hnumbered : o.numbered current =
      { o.derived with hearings := current.hearings.merge o.hearing } := by
    rw [numbered, hcopied, numberParties_of_vacantPlaces_eq_nil hvacant]
  rw [merged, hnumbered, settleAdjournment_eq, hclear]
  simp

theorem Expects.sameButHistory_merged (hcurrent : o.Expects c current)
    (h : c.assignIds = .ok (o.derived, ids)) (hclear : o.clearAdjournment = false) :
    o.derived.SameButHistory (o.merged current) := by
  rw [hcurrent.merged_eq h hclear]
  exact sameButHistory_of_hearings _ _

end Outcome

end TribunalListing
