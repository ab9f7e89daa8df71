-- SUMMARY: A merged outcome is reflected in the case, and unless the party numbers ran out nothing is left to merge.
import TribunalListing.Proofs.Sync.Unchanged

/-!
# Reflected outcomes

Once an outcome is merged into a case, the case says what it has to say: the hearing is in the
history, an adjournment that was to end has ended, and the parties have ids. The last of these can
fail, since numbers are bounded. Where it does not, the merge has reached a fixed point: merging the
outcome once more gives nothing back.
-/

namespace TribunalListing.Outcome

open CaseSnapshot

variable {o : Outcome} {c current s : CaseSnapshot}

/-! ## Running out of numbers -/

/-- No numbers are left for the parties on the case that lack an id. -/
def LacksNumbers (o : Outcome) (c : CaseSnapshot) : Prop :=
  ∃ highest, c.assignIdsAbove o.derived.highestPartyNumber = .error (.partyIdsExhausted highest)

/-- Merging the outcome into the case runs out of numbers: after ids were copied, there are parties
left that lack one. -/
def RunsOut (o : Outcome) (current : CaseSnapshot) : Prop :=
  o.LacksNumbers (o.derived.copyIds (o.recordHearing current))

/-- Handing out ids fails for want of numbers only. -/
theorem lacksNumbers_iff :
    o.LacksNumbers c ↔
      ∀ numbered, c.assignIdsAbove o.derived.highestPartyNumber ≠ .ok numbered := by
  unfold LacksNumbers assignIdsAbove
  dsimp only
  split
  next => simp
  next => simp

theorem vacantPlaces_numberParties (h : ¬ o.LacksNumbers c) :
    (o.numberParties c).1.vacantPlaces = [] := by
  unfold numberParties
  split
  next numbered hnumbered => exact vacantPlaces_of_assignIdsAbove hnumbered
  next error herror =>
    rw [lacksNumbers_iff] at h
    exact absurd (fun numbered hok => by simp [herror] at hok) h

theorem numberParties_of_lacksNumbers (h : o.LacksNumbers c) : o.numberParties c = (c, []) := by
  obtain ⟨highest, herror⟩ := h
  simp [numberParties, herror]

/-! ## Reflection -/

/-- The outcome is reflected in the case. -/
structure Reflected (o : Outcome) (c : CaseSnapshot) : Prop where
  /-- The first record for the hearing is that of the outcome, or one of a higher version. -/
  recorded : ∃ kept, c.hearings.find? (·.hearingId = o.hearing.hearingId) = some kept ∧
    o.hearing.version ≤ kept.version ∧ (kept = o.hearing ∨ o.hearing.version < kept.version)
  /-- An adjournment that was to end is not in progress. -/
  settled : o.clearAdjournment = true → c.adjournment.inProgress = false
  /-- Every party has an id that is not blank, unless numbers have run out. -/
  numbered :
    (∀ place, c.isActive place = true → ∃ id, c.idAt place = some id ∧ Text.isBlank id = false) ∨
      o.LacksNumbers c

/-- What ends an adjournment touches no ids. -/
theorem vacantPlaces_settleAdjournment (o : Outcome) (c : CaseSnapshot) :
    (o.settleAdjournment c).vacantPlaces = c.vacantPlaces := by
  rw [settleAdjournment_eq]
  rfl

theorem lacksNumbers_settleAdjournment :
    o.LacksNumbers (o.settleAdjournment c) ↔ o.LacksNumbers c := by
  have hnumber : (o.settleAdjournment c).highestPartyNumber = c.highestPartyNumber := by
    rw [settleAdjournment_eq]
    rfl
  simp only [LacksNumbers, assignIdsAbove, vacantPlaces_settleAdjournment, hnumber]
  split
  next => simp
  next => simp

theorem exists_id_of_vacantPlaces_eq_nil (h : c.vacantPlaces = []) {place : Place}
    (hactive : c.isActive place = true) :
    ∃ id, c.idAt place = some id ∧ Text.isBlank id = false :=
  exists_id_of_assignIdsAbove (assignIdsAbove_of_vacantPlaces_eq_nil h 0) hactive

theorem vacantPlaces_merged (h : ¬ o.RunsOut current) : (o.merged current).vacantPlaces = [] := by
  rw [merged, vacantPlaces_settleAdjournment]
  exact vacantPlaces_numberParties h

theorem lacksNumbers_merged (h : o.RunsOut current) : o.LacksNumbers (o.merged current) := by
  rw [merged, lacksNumbers_settleAdjournment, numbered, numberParties_of_lacksNumbers h]
  exact h

/-- What a merge makes of a case reflects the outcome, whatever the case was. -/
theorem reflected_merged (o : Outcome) (current : CaseSnapshot) :
    o.Reflected (o.merged current) := by
  refine ⟨?recorded, ?settled, ?numbered⟩
  case recorded =>
    obtain ⟨kept, hfind, hkept⟩ := HearingHistory.find?_merge o.hearing current.hearings
    refine ⟨kept, ?_, ?_, hkept⟩
    · rw [merged_eq]
      exact hfind
    · rcases hkept with rfl | hlower
      · exact Int64.le_refl _
      · exact Int64.le_of_lt hlower
  case settled =>
    intro hclear
    rw [merged_eq]
    simp [hclear]
  case numbered =>
    by_cases hout : o.RunsOut current
    · exact .inr (lacksNumbers_merged hout)
    · left
      intro place hactive
      exact exists_id_of_vacantPlaces_eq_nil (vacantPlaces_merged hout) hactive

/-! ## Merging again -/

/-- Once the record is in the history, every party has an id and no adjournment is left to end, a
merge changes nothing. -/
theorem merged_eq_self (hhistory : current.hearings.merge o.hearing = current.hearings)
    (hvacant : current.vacantPlaces = [])
    (hflag : (current.adjournment.inProgress && !o.clearAdjournment) =
      current.adjournment.inProgress) :
    o.merged current = current := by
  have hrecorded : o.recordHearing current = current := by
    unfold recordHearing
    rw [hhistory]
  have hcopied : o.derived.copyIds current = current := copyIds_of_vacantPlaces_eq_nil hvacant
  rw [merged, numbered, hrecorded, hcopied, numberParties_of_vacantPlaces_eq_nil hvacant,
    settleAdjournment_eq, hflag]

/-- One merge is enough, unless it runs out of numbers. -/
theorem merged_merged (h : ¬ o.RunsOut current) :
    o.merged (o.merged current) = o.merged current := by
  apply merged_eq_self
  · rw [merged_eq]
    exact HearingHistory.merge_merge o.hearing current.hearings
  · exact vacantPlaces_merged h
  · rw [merged_eq]
    simp

theorem mergeInto_merged (h : ¬ o.RunsOut current) : o.mergeInto (o.merged current) = none := by
  rw [mergeInto_eq, if_pos (merged_merged h)]

/-- What was merged once has nothing left to merge. -/
theorem mergeInto_of_mergeInto (h : ¬ o.RunsOut current) (hmerge : o.mergeInto current = some s) :
    o.mergeInto s = none := by
  rw [eq_merged_of_mergeInto hmerge]
  exact mergeInto_merged h

end TribunalListing.Outcome
