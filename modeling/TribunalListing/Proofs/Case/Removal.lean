-- SUMMARY: Ids that are copied to a case after other parties were removed from it stay with parties of the same name.
import Mathlib.Data.List.NodupEquivFin
import Mathlib.Order.WellFounded
import TribunalListing.Proofs.Case.Copying

/-!
# Removing other parties

Other parties go by their position, so they all move up when one of them is removed. Only the name
tells that the party at a position is not the one that stood there before. So an id that was handed
out before the removal can come to another party, if the two have the same name, and in no other way.
Where no party further up has the same name, every party that is kept is given its own id or none.
-/

namespace TribunalListing

/-- The place of the same kind with the other party at a position. -/
def Place.moveTo (index : Nat) : Place → Place
  | .otherParty _ => .otherParty index
  | .otherPartyAppointee _ => .otherPartyAppointee index
  | .otherPartyRepresentative _ => .otherPartyRepresentative index
  | .appellant => .appellant
  | .appellantAppointee => .appellantAppointee
  | .representative => .representative
  | .jointParty => .jointParty

theorem Place.moveTo_self {place : Place} {index : Nat} (h : place.otherIndex? = some index) :
    place.moveTo index = place := by
  cases place with
  | appellant | appellantAppointee | representative | jointParty => cases h
  | otherParty i | otherPartyAppointee i | otherPartyRepresentative i =>
    cases h
    rfl

namespace CaseSnapshot

variable {c d t : CaseSnapshot} {ids : List String} {origin : Nat ↪o Nat} {place : Place} {j : Nat}

/-! ## Removal -/

/-- The other party that stands at a position on `t` is the one that stood at the origin of that
position on `c`. The rest of the two cases does not matter. -/
structure KeptFrom (origin : Nat ↪o Nat) (c t : CaseSnapshot) : Prop where
  kept : ∀ j, t.otherParties[j]? = c.otherParties[origin j]?

/-- However other parties are removed, there are such origins. -/
theorem exists_keptFrom (h : t.otherParties.Sublist c.otherParties) :
    ∃ origin, KeptFrom origin c t := by
  obtain ⟨origin, hkept⟩ := List.sublist_iff_exists_orderEmbedding_getElem?_eq.mp h
  exact ⟨origin, ⟨hkept⟩⟩

namespace KeptFrom

theorem idAt_eq (h : KeptFrom origin c t) (hj : place.otherIndex? = some j) :
    t.idAt place = c.idAt (place.moveTo (origin j)) := by
  cases place with
  | appellant | appellantAppointee | representative | jointParty => cases hj
  | otherParty i | otherPartyAppointee i | otherPartyRepresentative i =>
    cases hj
    simp only [idAt, Place.moveTo, h.kept]

theorem isActive_eq (h : KeptFrom origin c t) (hj : place.otherIndex? = some j) :
    t.isActive place = c.isActive (place.moveTo (origin j)) := by
  cases place with
  | appellant | appellantAppointee | representative | jointParty => cases hj
  | otherParty i | otherPartyAppointee i | otherPartyRepresentative i =>
    cases hj
    simp only [isActive, Place.moveTo, h.kept]

/-- A place is vacant after the removal if it was vacant before, wherever it was. -/
theorem mem_vacantPlaces (h : KeptFrom origin c t) (hj : place.otherIndex? = some j)
    (hvacant : place ∈ t.vacantPlaces) : place.moveTo (origin j) ∈ c.vacantPlaces := by
  rw [mem_vacantPlaces_iff] at hvacant ⊢
  rwa [← h.isActive_eq hj, ← h.idAt_eq hj]

end KeptFrom

/-! ## Names -/

/-- The name of the other party at a position. -/
def otherName? (c : CaseSnapshot) (index : Nat) : Option PersonName :=
  c.otherParties[index]?.map (·.name)

/-- Names do not depend on ids. -/
theorem otherName?_of_withoutIds (h : d.withoutIds = c.withoutIds) (index : Nat) :
    d.otherName? index = c.otherName? index := by
  rw [eq_replaceIds_of_withoutIds h]
  simp only [otherName?, replaceIds, List.getElem?_mapIdx]
  cases c.otherParties[index]? <;> rfl

theorem otherName?_eq_of_sameParty (h : d.sameParty t place = true)
    (hj : place.otherIndex? = some j) : d.otherName? j = t.otherName? j := by
  obtain ⟨p, q, hp, hq, hname⟩ := sameParty_iff.mp h j hj
  rw [otherName?, otherName?, hp, hq, Option.map_some, Option.map_some, hname]

/-! ## Ids that were handed out -/

/-- An id that was handed out stands at one place only. -/
theorem eq_of_idAt_eq_assigned (h : c.assignIds = .ok (d, ids)) {other : Place}
    (hother : other ∈ c.vacantPlaces) (hid : d.idAt place = d.idAt other) : place = other := by
  have hplaced := map_idAt_of_assignIdsAbove h
  have hnodup : (c.vacantPlaces.map d.idAt).Nodup := by
    rw [hplaced]
    exact (nodup_assigned h).map (Option.some_injective _)
  have hassigned : d.idAt other ∈ ids.map some := by
    rw [← hplaced]
    exact List.mem_map_of_mem hother
  obtain ⟨id, hmem, hheld⟩ := List.mem_map.mp hassigned
  by_cases hvacant : place ∈ c.vacantPlaces
  · exact List.inj_on_of_nodup_map hnodup hvacant hother hid
  · have hkept := (filled_of_assignIdsAbove h).kept place hvacant
    rw [hid, ← hheld] at hkept
    exact absurd hkept.symm (not_held_of_assigned h hmem place)

/-- No id that was handed out was held before. -/
theorem idAt_ne_assigned (h : c.assignIds = .ok (d, ids)) {other : Place}
    (hother : other ∈ c.vacantPlaces) (place : Place) : c.idAt place ≠ d.idAt other := by
  have hassigned : d.idAt other ∈ ids.map some := by
    rw [← map_idAt_of_assignIdsAbove h]
    exact List.mem_map_of_mem hother
  obtain ⟨id, hmem, hheld⟩ := List.mem_map.mp hassigned
  rw [← hheld]
  exact not_held_of_assigned h hmem place

/-! ## Copying after a removal -/

/-- A place that is kept is left with what was recorded there, or it is given the id at the same
place before the removal, and then the party there had the same name. -/
theorem idAt_copyIds_of_keptFrom (h : c.assignIds = .ok (d, ids)) (hkept : KeptFrom origin c t)
    (hj : place.otherIndex? = some j) :
    (d.copyIds t).idAt place = c.idAt (place.moveTo (origin j)) ∨
      place.moveTo (origin j) ∈ c.vacantPlaces ∧ (d.copyIds t).idAt place = d.idAt place ∧
        c.otherName? j = c.otherName? (origin j) := by
  rw [← hkept.idAt_eq hj]
  rcases filled_copyIds.idAt_eq_or place with hleft | hvacant
  · exact .inl hleft
  rcases idAt_copyIds_eq_or d t place with hleft | ⟨id, hcopied, hoffered⟩
  · exact .inl hleft
  · obtain ⟨-, hsame, hid, -⟩ := offeredId?_eq_some_iff.mp hoffered
    have hname : t.otherName? j = c.otherName? (origin j) := congrArg _ (hkept.kept j)
    refine .inr ⟨hkept.mem_vacantPlaces hj hvacant, hcopied.trans hid.symm, ?_⟩
    rw [← otherName?_of_withoutIds (filled_of_assignIdsAbove h).rest j, ← hname]
    exact otherName?_eq_of_sameParty hsame hj

/-- A place that is given the id that was handed out for some place is that place itself, or it has
come to stand where that place was, and the two parties have the same name. -/
theorem eq_of_idAt_copyIds (h : c.assignIds = .ok (d, ids)) (hkept : KeptFrom origin c t)
    (hj : place.otherIndex? = some j) {other : Place} (hother : other ∈ c.vacantPlaces)
    (hcopied : (d.copyIds t).idAt place = d.idAt other) :
    other = place ∧ c.otherName? j = c.otherName? (origin j) := by
  rcases idAt_copyIds_of_keptFrom h hkept hj with hleft | ⟨-, hplace, hnames⟩
  · exact absurd (hleft.symm.trans hcopied) (idAt_ne_assigned h hother _)
  · exact ⟨(eq_of_idAt_eq_assigned h hother (hplace.symm.trans hcopied)).symm, hnames⟩

/-- Nobody moves down, so a party that stands where a namesake stood has not moved, unless the
namesake was further up. -/
theorem moveTo_origin_of_unrivalled (hj : place.otherIndex? = some j)
    (hfirst : ∀ k < origin j, c.otherName? k ≠ c.otherName? (origin j))
    (hnames : c.otherName? j = c.otherName? (origin j)) : place.moveTo (origin j) = place := by
  have hle : j ≤ origin j := origin.strictMono.le_apply
  have hposition : origin j = j := by
    by_contra hne
    exact hfirst j (Nat.lt_of_le_of_ne hle (Ne.symm hne)) hnames
  rw [hposition]
  exact Place.moveTo_self hj

/-- Each place of an other party that is kept is left with what was recorded there, or it is given
the id at the same place before the removal, and then the party there had the same name. Of the ids
that were handed out it can be given no other one. Where no party further up has the same name, that
is the id that was handed out for this very place. -/
theorem copyIds_after_removal (h : c.assignIds = .ok (d, ids))
    (hremoved : t.otherParties.Sublist c.otherParties) :
    (∃ origin, KeptFrom origin c t) ∧
      ∀ origin, KeptFrom origin c t → ∀ place j, place.otherIndex? = some j →
        let own := place.moveTo (origin j)
        let copied := (d.copyIds t).idAt place
        let namesakes := c.otherName? j = c.otherName? (origin j)
        (copied = c.idAt own ∨ own ∈ c.vacantPlaces ∧ copied = d.idAt place ∧ namesakes) ∧
          (∀ other ∈ c.vacantPlaces, copied = d.idAt other → other = place ∧ namesakes) ∧
          ((∀ k < origin j, c.otherName? k ≠ c.otherName? (origin j)) →
            (copied = c.idAt own ∨ own ∈ c.vacantPlaces ∧ copied = d.idAt own) ∧
              ∀ other ∈ c.vacantPlaces, copied = d.idAt other → other = own) := by
  refine ⟨exists_keptFrom hremoved, ?_⟩
  intro origin hkept place j hj own copied namesakes
  have hcases : copied = c.idAt own ∨ own ∈ c.vacantPlaces ∧ copied = d.idAt place ∧ namesakes :=
    idAt_copyIds_of_keptFrom h hkept hj
  have hgiven : ∀ other ∈ c.vacantPlaces, copied = d.idAt other → other = place ∧ namesakes :=
    fun other hother hcopied => eq_of_idAt_copyIds h hkept hj hother hcopied
  refine ⟨hcases, hgiven, ?_⟩
  intro hfirst
  have hown : namesakes → own = place := moveTo_origin_of_unrivalled hj hfirst
  constructor
  · rcases hcases with hleft | ⟨hvacant, hplace, hnames⟩
    · exact .inl hleft
    · exact .inr ⟨hvacant, by rw [hown hnames, hplace]⟩
  · intro other hother hcopied
    obtain ⟨heq, hnames⟩ := hgiven other hother hcopied
    rw [heq, hown hnames]

/-- An other party with a name and a telephone number, and without an id. -/
def otherNamed (lastName phone : String) : OtherParty where
  name := { firstName := "Ann", lastName }
  contact := { phone := some phone }

/-- An appeal with other parties. -/
def familyCase (others : List OtherParty) : CaseSnapshot where
  caseId := "1"
  benefitCode := "002"
  issueCode := "DD"
  appellant := { id := some "1" }
  otherParties := others

/-- The appeal of a family of three other parties. -/
def wholeFamily : CaseSnapshot :=
  familyCase [otherNamed "Bell" "10", otherNamed "Cole" "11", otherNamed "Dunn" "12"]

/-- The appeal of the family after the second other party was removed. -/
def restOfFamily : CaseSnapshot :=
  familyCase [otherNamed "Bell" "10", otherNamed "Dunn" "12"]

/-- The origins of the positions when the second other party is removed. -/
def withoutSecond : Nat ↪o Nat :=
  OrderEmbedding.ofStrictMono (fun j => if j = 0 then 0 else j + 1) fun i j hij => by
    dsimp only
    split <;> split <;> omega

/-- The third party moves up to the place of the second one, and is not given the id that was handed
out for that one. -/
theorem copyIds_after_removal_third :
    ∃ d, wholeFamily.assignIds = .ok (d, ["2", "3", "4"]) ∧
      restOfFamily.otherParties.Sublist wholeFamily.otherParties ∧
      KeptFrom withoutSecond wholeFamily restOfFamily ∧
      (d.copyIds restOfFamily).idAt (.otherParty 1) ≠ d.idAt (.otherParty 1) := by
  obtain ⟨d, hassign⟩ : ∃ d, wholeFamily.assignIds = .ok (d, ["2", "3", "4"]) := ⟨_, rfl⟩
  have hremoved : restOfFamily.otherParties.Sublist wholeFamily.otherParties :=
    .cons_cons _ (.cons _ (.refl _))
  have hkept : KeptFrom withoutSecond wholeFamily restOfFamily := by
    constructor
    rintro (_ | _ | j)
    · rfl
    · rfl
    · rfl
  refine ⟨d, hassign, hremoved, hkept, ?_⟩
  intro hcopied
  obtain ⟨-, -, hfirst⟩ := (copyIds_after_removal hassign hremoved).2 withoutSecond hkept
    (.otherParty 1) 1 rfl
  have hunrivalled : ∀ k < withoutSecond 1,
      wholeFamily.otherName? k ≠ wholeFamily.otherName? (withoutSecond 1) := by
    show ∀ k < 2, _
    decide
  cases (hfirst hunrivalled).2 (.otherParty 1) (by decide) hcopied

/-- Of two other parties of one name the first one is removed. The second one is given the id that
was handed out for the first one. -/
theorem removal_transfers_id :
    let both := familyCase [otherNamed "Bell" "10", otherNamed "Bell" "11"]
    let second := familyCase [otherNamed "Bell" "11"]
    second.otherParties = both.otherParties.eraseIdx 0 ∧
      ∃ d, both.assignIds = .ok (d, ["2", "3"]) ∧ d.idAt (.otherParty 0) = some "2" ∧
        d.idAt (.otherParty 1) = some "3" ∧
        (d.copyIds second).idAt (.otherParty 0) = some "2" :=
  ⟨rfl, _, rfl, rfl, rfl, rfl⟩

end CaseSnapshot

end TribunalListing
