-- SUMMARY: What handing out ids does to a case, and that running out of numbers does nothing to it.
import Mathlib.Order.Bounds.Defs
import TribunalListing.Proofs.Case.Identity

/-!
# Numbering the parties

Parties are numbered in two passes over the case. The first one counts the parties without an id and
draws as many numbers, each the one after the last, until there is none left. The second one visits
the parties again and puts the next id wherever one is missing. Nothing but the order of the parties
joins the two passes, and only the second one changes the case. `run_numberInPlace` says that they
come to what `assignIdsAbove` gives.
-/

namespace TribunalListing.CaseSnapshot

variable {c d : CaseSnapshot} {floor : Nat} {ids : List String}

/-! ## Two passes -/

/-- Steps that change a case. What they have changed before one of them fails stays changed. -/
abbrev Changes (α : Type) : Type := EStateM DerivationError CaseSnapshot α

/-- Draws so many of the numbers that follow a number, one after the other, as ids. -/
def drawIds (highest : Nat) : Nat → Nat → Derived (List String)
  | _, 0 => .ok []
  | number, count + 1 =>
    if number < maxPartyNumber then do
      let ids ← drawIds highest (number + 1) count
      return toString (number + 1) :: ids
    else .error (.partyIdsExhausted highest)

/-- Visits places, and puts the next id wherever one is missing. -/
def fillPlaces : List Place → List String → CaseSnapshot → CaseSnapshot
  | [], _, c => c
  | _ :: _, [], c => c
  | place :: places, id :: ids, c =>
    if Text.unwritten (c.idAt place) then fillPlaces places ids (c.withId id place)
    else fillPlaces places (id :: ids) c

/-- Numbers the parties of the case, above a floor. Gives the ids that were put in place. -/
def numberInPlace (floor : Nat) : Changes (List String) := do
  let c ← get
  let highest := max c.highestPartyNumber floor
  let ids ← MonadExcept.ofExcept (drawIds highest highest c.vacantPlaces.length)
  modify (fillPlaces c.activePlaces ids)
  return ids

/-! ## The first pass -/

theorem idsAbove_succ (number count : Nat) :
    idsAbove number (count + 1) = toString (number + 1) :: idsAbove (number + 1) count := by
  rw [idsAbove, List.range_succ_eq_map, List.map_cons, List.map_map]
  congr 1
  apply List.map_congr_left
  intro k _
  have hnumber : number + 1 + (k + 1) = number + 1 + 1 + k := by omega
  exact congrArg toString hnumber

/-- Drawing stops short exactly if the last of the numbers would be above the largest one. -/
theorem drawIds_eq (highest number count : Nat) :
    drawIds highest number count =
      if 0 < count ∧ maxPartyNumber < number + count then .error (.partyIdsExhausted highest)
      else .ok (idsAbove number count) := by
  induction count generalizing number with
  | zero => rfl
  | succ count ih =>
    unfold drawIds
    by_cases hroom : number < maxPartyNumber
    · rw [if_pos hroom, ih]
      by_cases hlast : 0 < count ∧ maxPartyNumber < number + 1 + count
      · have hshort : 0 < count + 1 ∧ maxPartyNumber < number + (count + 1) := by omega
        rw [if_pos hlast, if_pos hshort]
        rfl
      · have henough : ¬(0 < count + 1 ∧ maxPartyNumber < number + (count + 1)) := by omega
        rw [if_neg hlast, if_neg henough, idsAbove_succ]
        rfl
    · have hshort : 0 < count + 1 ∧ maxPartyNumber < number + (count + 1) := by omega
      rw [if_neg hroom, if_pos hshort]

/-! ## The second pass -/

/-- The ids end up at the places that lack one, in order. An id that was just put in place does not
count as missing or as present anywhere else. -/
theorem fillPlaces_eq {places : List Place} (hnodup : places.Nodup) (ids : List String)
    (c : CaseSnapshot) :
    fillPlaces places ids c =
      c.withIds ((places.filter fun place => Text.unwritten (c.idAt place)).zip ids) := by
  induction places generalizing ids c with
  | nil => rfl
  | cons place places ih =>
    rw [List.nodup_cons] at hnodup
    cases ids with
    | nil =>
      rw [List.zip_nil_right]
      rfl
    | cons id ids =>
      unfold fillPlaces
      by_cases hvacant : Text.unwritten (c.idAt place) = true
      · have hothers : places.filter (fun other => Text.unwritten ((c.withId id place).idAt other)) =
            places.filter fun other => Text.unwritten (c.idAt other) := by
          apply List.filter_congr
          intro other hother
          rw [idAt_withId_of_ne (ne_of_mem_of_not_mem hother hnodup.1)]
        rw [if_pos hvacant, ih hnodup.2, hothers, List.filter_cons, if_pos hvacant,
          List.zip_cons_cons, withIds_cons]
      · rw [if_neg hvacant, ih hnodup.2, List.filter_cons, if_neg hvacant]

/-! ## Both passes -/

/-- Numbering in place comes to what `assignIdsAbove` gives. Where that fails, the case is left as
it was. -/
theorem run_numberInPlace (floor : Nat) (c : CaseSnapshot) :
    (numberInPlace floor).run c =
      match c.assignIdsAbove floor with
      | .ok (d, ids) => .ok ids d
      | .error e => .error e c := by
  have hfill := fillPlaces_eq c.nodup_activePlaces
    (idsAbove (max c.highestPartyNumber floor) c.vacantPlaces.length) c
  unfold numberInPlace assignIdsAbove
  simp only [EStateM.run_bind, EStateM.run_get, drawIds_eq, Bool.and_eq_true, decide_eq_true_eq]
  by_cases hshort : 0 < c.vacantPlaces.length ∧
      maxPartyNumber < max c.highestPartyNumber floor + c.vacantPlaces.length
  · rw [if_pos hshort, if_pos hshort]
    rfl
  · rw [if_neg hshort, if_neg hshort]
    exact congrArg (EStateM.Result.ok _) hfill

/-! ## What numbering does -/

/-- The highest number is the least one that is not below the floor, nor below any number that is
recorded at a place, active or not. -/
theorem isLeast_max_highestPartyNumber (c : CaseSnapshot) (floor : Nat) :
    IsLeast {n | floor ≤ n ∧ ∀ place id m, c.idAt place = some id → partyNumber? id = some m → m ≤ n}
      (max c.highestPartyNumber floor) := by
  constructor
  · refine ⟨Nat.le_max_right _ _, ?_⟩
    intro place id m hid hm
    exact Nat.le_trans (le_highestPartyNumber hid hm) (Nat.le_max_left _ _)
  · rintro n ⟨hfloor, hnumbers⟩
    refine Nat.max_le.mpr ⟨?_, hfloor⟩
    rcases highestPartyNumber_eq_zero_or c with hzero | ⟨place, id, hid, hhighest⟩
    · rw [hzero]
      exact Nat.zero_le n
    · exact hnumbers place id _ hid hhighest

/-- `d` is `c` with the given ids put at its vacant places, where the ids are the numbers that follow
`highest`. -/
structure Numbered (highest : Nat) (c d : CaseSnapshot) (ids : List String) : Prop where
  /-- There is one number for each vacant place. -/
  ids_eq : ids = (List.range c.vacantPlaces.length).map fun k => toString (highest + 1 + k)
  /-- The ids stand at the vacant places, in party order. -/
  placed : c.vacantPlaces.map d.idAt = ids.map some
  kept : ∀ place ∉ c.vacantPlaces, d.idAt place = c.idAt place
  rest : d.withoutIds = c.withoutIds
  /-- No party is left without an id. -/
  complete : ∀ place, d.isActive place = true →
    ∃ id, d.idAt place = some id ∧ Text.isBlank id = false
  /-- No id is the number of one that was recorded before, whichever way that one is written. -/
  fresh : ∀ id ∈ ids, ∀ place held, c.idAt place = some held → partyNumber? held ≠ partyNumber? id
  /-- There is nothing left to number. -/
  settled : ∀ floor, d.assignIdsAbove floor = .ok (d, [])

theorem numbered_of_assignIdsAbove (h : c.assignIdsAbove floor = .ok (d, ids)) :
    Numbered (max c.highestPartyNumber floor) c d ids where
  ids_eq := (assignIdsAbove_eq_ok h).1
  placed := map_idAt_of_assignIdsAbove h
  kept := (filled_of_assignIdsAbove h).kept
  rest := (filled_of_assignIdsAbove h).rest
  complete := by
    intro place hactive
    rw [isActive_eq_of_withoutIds (filled_of_assignIdsAbove h).rest] at hactive
    exact exists_id_of_assignIdsAbove h hactive
  fresh := by
    intro id hid place held hheld hsame
    obtain ⟨n, hn, hhighest, -⟩ := partyNumber?_of_assigned h hid
    have hle := le_highestPartyNumber hheld (hsame.trans hn)
    omega
  settled := assignIdsAbove_of_vacantPlaces_eq_nil (vacantPlaces_of_assignIdsAbove h)

/-- Ids are handed out above the highest number that is recorded at any place, one for each vacant
place. This fails exactly if there are vacant places and not enough numbers left for them, and then
it leaves the case as it was. Nothing is said of the respondent, who has no place. -/
theorem numbering_outcome (c : CaseSnapshot) (floor : Nat) :
    ∃ highest,
      IsLeast {n | floor ≤ n ∧
        ∀ place id m, c.idAt place = some id → partyNumber? id = some m → m ≤ n} highest ∧
      (∀ e, c.assignIdsAbove floor = .error e ↔
        e = .partyIdsExhausted highest ∧ 0 < c.vacantPlaces.length ∧
          maxPartyNumber < highest + c.vacantPlaces.length) ∧
      (∀ e, c.assignIdsAbove floor = .error e → (numberInPlace floor).run c = .error e c) ∧
      ∀ d ids, c.assignIdsAbove floor = .ok (d, ids) →
        (numberInPlace floor).run c = .ok ids d ∧ Numbered highest c d ids := by
  refine ⟨_, isLeast_max_highestPartyNumber c floor, ?_, ?_, ?_⟩
  · intro e
    exact assignIdsAbove_eq_error_iff
  · intro e h
    rw [run_numberInPlace, h]
  · intro d ids h
    refine ⟨?_, numbered_of_assignIdsAbove h⟩
    rw [run_numberInPlace, h]

/-- An appeal whose respondent has a number. The appellant's id is a number as well, and so is that
of an appointee who is not acting. -/
def idleAppointee (respondentId : String) : CaseSnapshot where
  caseId := "1"
  benefitCode := "002"
  issueCode := "DD"
  appellant := { id := some "1", appointee := some { id := some " +007 " } }
  jointParty := some { hasJointParty := some .yes }
  otherParties := [{ id := some "x" }, { id := some " " }]
  respondent := { partyId := respondentId }

/-- The appointee's number counts, though nobody is a party under it. -/
theorem numbering_outcome_idle :
    ∃ d highest, (idleAppointee "DWP").assignIdsAbove 3 = .ok (d, ["8", "9"]) ∧
      Numbered highest (idleAppointee "DWP") d ["8", "9"] := by
  obtain ⟨d, hassign⟩ : ∃ d, (idleAppointee "DWP").assignIdsAbove 3 = .ok (d, ["8", "9"]) :=
    ⟨_, rfl⟩
  obtain ⟨highest, -, -, -, hok⟩ := numbering_outcome (idleAppointee "DWP") 3
  exact ⟨d, highest, hassign, (hok d _ hassign).2⟩

/-- The respondent's number does not count, and the joint party is given it once more. -/
theorem numbering_overlooks_respondent :
    ∃ d, (idleAppointee "8").assignIds = .ok (d, ["8", "9"]) ∧ d.idAt .jointParty = some "8" ∧
      d.respondent.partyId = "8" :=
  ⟨_, rfl, rfl, rfl⟩

end TribunalListing.CaseSnapshot
