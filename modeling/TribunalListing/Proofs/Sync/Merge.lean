-- SUMMARY: What merging an outcome changes on a case, and that it gives nothing back exactly if it changes nothing.
import TribunalListing.Proofs.Case.Copying
import TribunalListing.Proofs.Hearing.History
import TribunalListing.Sync.Outcome

/-!
# The frame of a merge

An outcome carries a whole snapshot with it, the one that its request was derived from. Only three
things come through to the case it is merged into: the record of the hearing, ids for parties that
have none, and the end of an adjournment. Whatever else the case has become in the meantime stays as
it is, and a merge that would leave all of it as it is gives nothing back.
-/

namespace TribunalListing.Outcome

open CaseSnapshot

variable {o : Outcome} {current : CaseSnapshot}

/-! ## The parts of a merge -/

/-- The case with the record taken in, and with ids copied and handed out. -/
def numbered (o : Outcome) (current : CaseSnapshot) : CaseSnapshot :=
  (o.numberParties (o.derived.copyIds (o.recordHearing current))).1

/-- The case with all parts of the outcome carried out on it. -/
def merged (o : Outcome) (current : CaseSnapshot) : CaseSnapshot :=
  o.settleAdjournment (o.numbered current)

theorem filled_numberParties (o : Outcome) (c : CaseSnapshot) :
    ∃ filled, Filled filled c (o.numberParties c).1 ∧
      (filled = [] ↔ (o.numberParties c).2 = []) := by
  unfold numberParties
  split
  next numbered h =>
    refine ⟨c.vacantPlaces, filled_of_assignIdsAbove h, ?_⟩
    rw [← List.length_eq_zero_iff, ← length_assigned h, List.length_eq_zero_iff]
  next => exact ⟨[], .refl c, by simp⟩

/-- Copying and handing out ids fill vacant places, and no place exactly if there was neither an id
to copy nor one to hand out. -/
theorem filled_numbered (o : Outcome) (current : CaseSnapshot) :
    ∃ filled, Filled filled (o.recordHearing current) (o.numbered current) ∧
      (filled = [] ↔ o.derived.copiedIds (o.recordHearing current) = [] ∧
        (o.numberParties (o.derived.copyIds (o.recordHearing current))).2 = []) := by
  obtain ⟨filled, hfilled, hnil⟩ :=
    filled_numberParties o (o.derived.copyIds (o.recordHearing current))
  refine ⟨_, filled_copyIds.trans hfilled, ?_⟩
  rw [List.append_eq_nil_iff, List.map_eq_nil_iff, hnil]

theorem settleAdjournment_eq (c : CaseSnapshot) :
    o.settleAdjournment c =
      { c with adjournment.inProgress := c.adjournment.inProgress && !o.clearAdjournment } := by
  unfold settleAdjournment endsAdjournment
  cases hclear : o.clearAdjournment with
  | false => simp
  | true =>
    cases hprogress : c.adjournment.inProgress with
    | true => rfl
    | false =>
      have hflag : ∀ b, c.adjournment.inProgress = b →
          { c with adjournment.inProgress := b } = c := by
        rintro _ rfl
        rfl
      exact (hflag false hprogress).symm

theorem idAt_merged (o : Outcome) (current : CaseSnapshot) :
    (o.merged current).idAt = (o.numbered current).idAt := by
  rw [merged, settleAdjournment_eq]
  rfl

/-- What a merge makes of a case: another history, other ids, and perhaps an adjournment that is no
longer in progress. -/
theorem merged_eq (o : Outcome) (current : CaseSnapshot) :
    o.merged current =
      { current.replaceIds (o.merged current).idAt with
        hearings := current.hearings.merge o.hearing
        adjournment.inProgress := current.adjournment.inProgress && !o.clearAdjournment } := by
  obtain ⟨filled, hfilled, -⟩ := filled_numbered o current
  have hnumbered := eq_replaceIds_of_withoutIds hfilled.rest
  rw [idAt_merged, merged, settleAdjournment_eq]
  generalize (o.numbered current).idAt = ids at hnumbered ⊢
  rw [hnumbered]
  rfl

/-- The ids that differ after a merge stand at places that were vacant before. -/
theorem idAt_merged_eq_or (o : Outcome) (current : CaseSnapshot) (place : Place) :
    (o.merged current).idAt place = current.idAt place ∨
      (current.isActive place = true ∧ Text.unwritten (current.idAt place) = true) := by
  obtain ⟨filled, hfilled, -⟩ := filled_numbered o current
  rw [idAt_merged]
  exact (hfilled.idAt_eq_or place).imp_right mem_vacantPlaces_iff.mp

/-! ## Nothing to write -/

/-- The outcome brings something to the case: the record is news, there is an id to copy or to hand
out, or it ends an adjournment. -/
def brings (o : Outcome) (current : CaseSnapshot) : Bool :=
  HearingHistory.isNews o.hearing current.hearings ||
    !(o.derived.copiedIds (o.recordHearing current)).isEmpty ||
    !(o.numberParties (o.derived.copyIds (o.recordHearing current))).2.isEmpty ||
    o.endsAdjournment (o.numbered current)

theorem mergeInto_eq_ite (o : Outcome) (current : CaseSnapshot) :
    o.mergeInto current = if o.brings current then some (o.merged current) else none := rfl

/-- Each part of an outcome brings something exactly if carrying it out changes something. -/
theorem brings_eq_false_iff (o : Outcome) (current : CaseSnapshot) :
    o.brings current = false ↔
      current.hearings.merge o.hearing = current.hearings ∧
      o.numbered current = o.recordHearing current ∧
      (current.adjournment.inProgress && !o.clearAdjournment) = current.adjournment.inProgress := by
  obtain ⟨filled, hfilled, hnil⟩ := filled_numbered o current
  have hprogress : (o.numbered current).adjournment = current.adjournment :=
    (congrArg CaseSnapshot.adjournment hfilled.rest :)
  have hnews : HearingHistory.isNews o.hearing current.hearings = false ↔
      current.hearings.merge o.hearing = current.hearings := by
    rw [Bool.eq_false_iff, ne_eq, HearingHistory.isNews_iff, Decidable.not_not]
  have hends : o.endsAdjournment (o.numbered current) = false ↔
      (current.adjournment.inProgress && !o.clearAdjournment) = current.adjournment.inProgress := by
    rw [endsAdjournment, hprogress]
    cases o.clearAdjournment <;> cases current.adjournment.inProgress <;> simp
  simp only [brings, Bool.or_eq_false_iff, Bool.not_eq_false', List.isEmpty_iff, hnews, hends]
  rw [hfilled.eq_iff, hnil, and_assoc, and_assoc, and_assoc]

/-- Carrying out an outcome changes the case exactly if the outcome brings something to it. -/
theorem merged_eq_self_iff (o : Outcome) (current : CaseSnapshot) :
    o.merged current = current ↔ o.brings current = false := by
  rw [brings_eq_false_iff]
  constructor
  · intro h
    have hparts := merged_eq o current
    rw [h] at hparts
    obtain ⟨filled, hfilled, -⟩ := filled_numbered o current
    have hids : ∀ place,
        (o.numbered current).idAt place = (o.recordHearing current).idAt place := by
      intro place
      rw [← idAt_merged, h]
      rfl
    exact ⟨(congrArg CaseSnapshot.hearings hparts).symm, eq_of_withoutIds_of_idAt hfilled.rest hids,
      (congrArg (·.adjournment.inProgress) hparts).symm⟩
  · rintro ⟨hhistory, hnumbered, hflag⟩
    rw [merged, settleAdjournment_eq, hnumbered]
    simp only [recordHearing, hhistory, hflag]

theorem mergeInto_eq (o : Outcome) (current : CaseSnapshot) :
    o.mergeInto current =
      if o.merged current = current then none else some (o.merged current) := by
  rw [mergeInto_eq_ite]
  by_cases hself : o.merged current = current
  · rw [if_pos hself, (merged_eq_self_iff o current).mp hself]
    rfl
  · have hbrings : o.brings current = true := by
      rw [merged_eq_self_iff, Bool.not_eq_false] at hself
      exact hself
    rw [if_neg hself, if_pos hbrings]

theorem eq_merged_of_mergeInto {s : CaseSnapshot} (h : o.mergeInto current = some s) :
    s = o.merged current := by
  rw [mergeInto_eq] at h
  split at h
  next => cases h
  next => exact (Option.some.inj h).symm

theorem merged_eq_self_of_mergeInto (h : o.mergeInto current = none) :
    o.merged current = current := by
  rw [mergeInto_eq] at h
  split at h
  next hself => exact hself
  next => cases h

theorem hearings_of_mergeInto {s : CaseSnapshot} (h : o.mergeInto current = some s) :
    s.hearings = current.hearings.merge o.hearing := by
  rw [eq_merged_of_mergeInto h, merged_eq]

/-- What a merge gives back differs from the case in three things only: the history has taken in the
record, ids stand at places of parties that had none, and an adjournment may have ended, if that is
what the outcome is to bring about. Nothing is given back exactly if carrying out the outcome
changes nothing. -/
theorem mergeInto_frame (o : Outcome) (current : CaseSnapshot) :
    (∀ s, o.mergeInto current = some s →
      s ≠ current ∧ s = o.merged current ∧
      s = { current.replaceIds s.idAt with
        hearings := current.hearings.merge o.hearing
        adjournment.inProgress := current.adjournment.inProgress && !o.clearAdjournment } ∧
      ∀ place, s.idAt place = current.idAt place ∨
        (current.isActive place = true ∧ Text.unwritten (current.idAt place) = true)) ∧
    (o.mergeInto current = none ↔ o.merged current = current) := by
  rw [mergeInto_eq]
  refine ⟨fun s hs => ?_, ?_⟩
  · split at hs
    next => cases hs
    next hself =>
      cases hs
      exact ⟨hself, rfl, merged_eq o current, idAt_merged_eq_or o current⟩
  · split <;> simp [*]

/-- An appeal with a representative that has no id yet, and with an adjournment in progress. -/
def adjournedCase : CaseSnapshot where
  caseId := "1"
  benefitCode := "002"
  issueCode := "DD"
  appellant := { id := some "1" }
  representative := some { hasRepresentative := some .yes }
  adjournment := { inProgress := true }

/-- The appeal after somebody has marked it as urgent. -/
def urgentCase : CaseSnapshot :=
  { adjournedCase with urgent := true }

/-- The outcome of asking for the next hearing of the appeal, with an id for the representative. -/
def adjournedOutcome : Outcome where
  action := .create
  hearing := ⟨"h", 1, .hearingRequested⟩
  derived := adjournedCase.withId "2" .representative
  clearAdjournment := true

/-- The case has become urgent since the request was derived, and it stays urgent. -/
theorem mergeInto_frame_urgent :
    ∃ s, adjournedOutcome.mergeInto urgentCase = some s ∧
      s.urgent = true ∧ s.idAt .representative = some "2" ∧
      s.hearings = [adjournedOutcome.hearing] ∧ s.adjournment.inProgress = false := by
  obtain ⟨s, hs⟩ : ∃ s, adjournedOutcome.mergeInto urgentCase = some s :=
    ⟨_, rfl⟩
  obtain ⟨-, hmerged, hframe, -⟩ := (mergeInto_frame _ _).1 s hs
  refine ⟨s, hs, ?_, ?_, ?_, ?_⟩
  · rw [hframe]
    rfl
  · rw [hmerged]
    rfl
  · rw [hframe]
    rfl
  · rw [hframe]
    rfl

end TribunalListing.Outcome
