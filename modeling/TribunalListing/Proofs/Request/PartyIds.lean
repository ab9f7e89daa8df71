-- SUMMARY: The party ids on a request, and when they are all different.
import Mathlib.Data.List.Basic
import TribunalListing.Proofs.Request.Records

/-!
# Party ids on a request

A request carries one record for each party, with the id at the place of the party, and the
respondent's record last. An id that is handed out differs from every id at a place. The respondent
takes no place, though, and its id is not looked at when numbers are handed out. So the ids on a
request can coincide in one way only: a number that was handed out is the respondent's id.
-/

namespace TribunalListing

variable {c d : CaseSnapshot} {reference : ReferenceData} {options : DerivationOptions}

/-! ## Ids of parties -/

namespace CaseSnapshot

/-- The ids that the parties of the case hold, in party order. -/
def partyIds (c : CaseSnapshot) : List String :=
  c.activePlaces.filterMap fun place => Text.written (c.idAt place)

/-- Once ids are assigned, the parties hold the ids that were handed out and the ones they had. -/
theorem partyIds_perm_of_assignIds {ids : List String} (h : c.assignIds = .ok (d, ids)) :
    d.partyIds.Perm (ids ++ c.partyIds) := by
  have hfilled := filled_of_assignIdsAbove h
  have hwritten : ∀ id ∈ ids, Text.written (some id) = some id := by
    intro id hid
    obtain ⟨n, hn, -⟩ := partyNumber?_of_assigned h hid
    exact Text.written_eq_some_iff.mpr ⟨rfl, isBlank_of_partyNumber? hn⟩
  have hvacant : c.vacantPlaces.filterMap (fun place => Text.written (d.idAt place)) = ids := by
    have hids : (c.vacantPlaces.map d.idAt).filterMap Text.written = ids := by
      rw [map_idAt_of_assignIdsAbove h, List.filterMap_map]
      exact (List.filterMap_congr hwritten).trans List.filterMap_some
    rwa [List.filterMap_map] at hids
  have hheld : (c.activePlaces.filter fun place => !Text.unwritten (c.idAt place)).filterMap
      (fun place => Text.written (d.idAt place)) = c.partyIds := by
    rw [List.filterMap_filter, partyIds]
    refine List.filterMap_congr fun place _ => ?_
    cases hid : Text.written (c.idAt place) with
    | none => simp [Text.unwritten, hid]
    | some id =>
      have hkept : d.idAt place = c.idAt place := by
        refine hfilled.kept place fun hmem => ?_
        have hunwritten := (mem_vacantPlaces_iff.mp hmem).2
        simp [Text.unwritten, hid] at hunwritten
      simp [Text.unwritten, hid, hkept]
  have hplaces : (c.vacantPlaces ++
      c.activePlaces.filter fun place => !Text.unwritten (c.idAt place)).Perm c.activePlaces :=
    List.filter_append_perm _ _
  have hactive : d.activePlaces = c.activePlaces := activePlaces_eq_of_withoutIds hfilled.rest
  rw [partyIds, hactive]
  refine (hplaces.symm.filterMap _).trans ?_
  rw [List.filterMap_append, hvacant, hheld]

/-- Once ids are assigned, every party holds one. -/
theorem partyIds_eq_map_of_assignIds {ids : List String} (h : c.assignIds = .ok (d, ids)) :
    d.partyIds = d.activePlaces.map fun place => (d.idAt place).getD "" := by
  have hwritten : ∀ place ∈ d.activePlaces,
      Text.written (d.idAt place) = some ((d.idAt place).getD "") := by
    intro place hactive
    rw [activePlaces_eq_of_withoutIds (filled_of_assignIdsAbove h).rest,
      mem_activePlaces_iff] at hactive
    obtain ⟨id, hid, hblank⟩ := exists_id_of_assignIdsAbove h hactive
    rw [hid]
    exact Text.written_eq_some_iff.mpr ⟨rfl, hblank⟩
  exact List.filterMap_eq_map_iff_forall_eq_some.mpr hwritten

end CaseSnapshot

/-! ## Ids on a request -/

/-- The ids on a request are those that were handed out, those that the parties of the case held,
and the respondent's. -/
theorem partyIds_perm_of_assembleRequest {version : Option Int64} {a : AssembledRequest}
    (h : assembleRequest c reference options version = .ok a) :
    (a.request.parties.map (·.partyId)).Perm
      (a.assignedIds ++ (c.partyIds ++ [c.respondent.partyId])) := by
  obtain ⟨hassign, hrequest⟩ := assembleRequest_eq_ok h
  have hrespondent : a.case.respondent = c.respondent :=
    (congrArg CaseSnapshot.respondent (CaseSnapshot.filled_of_assignIdsAbove hassign).rest :)
  obtain ⟨cascade, _, _, _, -, -, hparties, -⟩ := requestFor_eq_ok hrequest
  rw [map_partyId_partyRecords hparties, ← CaseSnapshot.partyIds_eq_map_of_assignIds hassign,
    hrespondent, ← List.append_assoc]
  exact (CaseSnapshot.partyIds_perm_of_assignIds hassign).append_right _

/-- No id that was handed out is one that a party of the case held. -/
theorem not_mem_partyIds_of_assigned {version : Option Int64} {a : AssembledRequest}
    (h : assembleRequest c reference options version = .ok a) {id : String}
    (hid : id ∈ a.assignedIds) : id ∉ c.partyIds := by
  intro hheld
  obtain ⟨place, -, hwritten⟩ := List.mem_filterMap.mp hheld
  exact CaseSnapshot.not_held_of_assigned (assembleRequest_eq_ok h).1 hid place
    (Text.written_eq_some_iff.mp hwritten).1

/-- Where the ids that the parties hold and the respondent's are all different, the ids on the
request are all different exactly if the respondent's is none of the numbers that are handed out.
Those follow the highest number that is held at any place, one for each party that lacks an id. -/
theorem partyIds_nodup_iff {version : Option Int64} {a : AssembledRequest}
    (h : assembleRequest c reference options version = .ok a)
    (hheld : (c.partyIds ++ [c.respondent.partyId]).Nodup) :
    (a.request.parties.map (·.partyId)).Nodup ↔
      ∀ n, c.highestPartyNumber < n → n ≤ c.highestPartyNumber + c.vacantPlaces.length →
        toString n ≠ c.respondent.partyId := by
  obtain ⟨hassign, -⟩ := assembleRequest_eq_ok h
  have hids := (CaseSnapshot.assignIdsAbove_eq_ok hassign).1
  rw [Nat.max_zero] at hids
  have hrespondent : c.respondent.partyId ∉ a.assignedIds ↔
      ∀ n, c.highestPartyNumber < n → n ≤ c.highestPartyNumber + c.vacantPlaces.length →
        toString n ≠ c.respondent.partyId := by
    rw [hids, CaseSnapshot.mem_idsAbove_iff]
    simp only [not_exists, not_and, ne_eq]
  rw [(partyIds_perm_of_assembleRequest h).nodup_iff, ← hrespondent, List.nodup_append]
  constructor
  · rintro ⟨-, -, hdisjoint⟩ hmem
    exact hdisjoint _ hmem _ (List.mem_append_right _ List.mem_cons_self) rfl
  · intro hfresh
    refine ⟨CaseSnapshot.nodup_assigned hassign, hheld, ?_⟩
    rintro id hid _ hother rfl
    rcases List.mem_append.mp hother with hparty | hself
    · exact not_mem_partyIds_of_assigned h hid hparty
    · exact hfresh (List.mem_singleton.mp hself ▸ hid)

/-- An appeal whose appellant and representative have no ids yet, against a respondent with a
number. -/
def unnumberedCase (respondentId : String) : CaseSnapshot where
  caseId := "1"
  benefitCode := "002"
  issueCode := "DD"
  representative := some { hasRepresentative := some .yes }
  respondent := { partyId := respondentId }
  overrides := { venueIds := some ["1001"] }

/-- The numbers one and two are handed out, so the respondent may be number three. -/
theorem partyIds_nodup_three :
    ∃ a, assembleRequest (unnumberedCase "3") plainReference {} none = .ok a ∧
      a.assignedIds = ["1", "2"] ∧ (a.request.parties.map (·.partyId)).Nodup := by
  obtain ⟨a, h, hids⟩ : ∃ a, assembleRequest (unnumberedCase "3") plainReference {} none = .ok a ∧
      a.assignedIds = ["1", "2"] := ⟨_, rfl, rfl⟩
  refine ⟨a, h, hids, (partyIds_nodup_iff h (by decide)).mpr fun n hlow hhigh => ?_⟩
  have hhighest : (unnumberedCase "3").highestPartyNumber = 0 := rfl
  have hvacant : (unnumberedCase "3").vacantPlaces.length = 2 := rfl
  obtain rfl | rfl : n = 1 ∨ n = 2 := by omega
  · decide
  · decide

/-- A respondent with the number two shares it with the representative. -/
theorem partyIds_coincide :
    ∃ a, assembleRequest (unnumberedCase "2") plainReference {} none = .ok a ∧
      ((unnumberedCase "2").partyIds ++ [(unnumberedCase "2").respondent.partyId]).Nodup ∧
      ¬(a.request.parties.map (·.partyId)).Nodup := by
  refine ⟨_, rfl, ?_, ?_⟩
  · decide
  · decide

end TribunalListing
