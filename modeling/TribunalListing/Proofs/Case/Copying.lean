-- SUMMARY: Copying party ids fills vacant places, each with the id that is offered for it.
import TribunalListing.Proofs.Case.Identity

/-!
# Copying party ids

Copying fills some of the vacant places of a case, each with the id that the other snapshot offers
for that very place, if nobody holds it already. Ids that were handed out on a case are copied in
full to the case as it was before.
-/

namespace TribunalListing.CaseSnapshot

variable {c d source target : CaseSnapshot} {floor : Nat} {ids taken : List String}
  {places : List Place}

/-! ## What is offered -/

theorem sameParty_iff {place : Place} :
    source.sameParty target place = true ↔
      ∀ i, place.otherIndex? = some i → ∃ p q, source.otherParties[i]? = some p ∧
        target.otherParties[i]? = some q ∧ p.name = q.name := by
  unfold sameParty
  cases place.otherIndex? with
  | none => simp
  | some i =>
    simp only [Option.some.injEq, forall_eq']
    cases source.otherParties[i]? <;> cases target.otherParties[i]? <;> simp

theorem offeredId?_eq_some_iff {place : Place} {id : String} :
    source.offeredId? target place = some id ↔
      source.isActive place = true ∧ source.sameParty target place = true ∧
        source.idAt place = some id ∧ Text.isBlank id = false := by
  unfold offeredId?
  split
  next h =>
    rw [Bool.and_eq_true] at h
    simp [h.1, h.2, Text.written_eq_some_iff]
  next h =>
    rw [Bool.and_eq_true] at h
    constructor
    · intro hnone
      cases hnone
    · rintro ⟨hactive, hsame, -⟩
      exact absurd ⟨hactive, hsame⟩ h

/-! ## What is chosen -/

/-- Ids are chosen for some of the places, in their order. -/
theorem chooseIds_sublist :
    ((source.chooseIds target taken places).map (·.1)).Sublist places := by
  fun_induction chooseIds source target taken places with
  | case1 => exact .slnil
  | case2 taken place places id _ _ ih => exact ih.cons place
  | case3 taken place places id _ _ ih => exact ih.cons_cons place
  | case4 taken place places _ ih => exact ih.cons place

/-- The id that is chosen for a place is the one that is offered for that very place. -/
theorem offeredId?_of_mem_chooseIds {entry : Place × String}
    (h : entry ∈ source.chooseIds target taken places) :
    source.offeredId? target entry.1 = some entry.2 := by
  fun_induction chooseIds source target taken places with
  | case1 => cases h
  | case2 taken place places id _ _ ih => exact ih h
  | case3 taken place places id hoffered _ ih =>
    rcases List.mem_cons.mp h with rfl | h
    · exact hoffered
    · exact ih h
  | case4 taken place places _ ih => exact ih h

/-! ## What is copied -/

/-- Copying ids fills the places that an id is copied for. -/
theorem filled_copyIds :
    Filled ((source.copiedIds target).map (·.1)) target (source.copyIds target) := by
  have hsublist : ((source.copiedIds target).map (·.1)).Sublist target.vacantPlaces :=
    chooseIds_sublist
  refine filled_withIds (nodup_vacantPlaces.sublist hsublist) ?_ ?_
  · exact fun entry hentry => hsublist.mem (List.mem_map_of_mem hentry)
  · intro entry hentry
    obtain ⟨-, -, -, hblank⟩ := offeredId?_eq_some_iff.mp (offeredId?_of_mem_chooseIds hentry)
    exact hblank

/-- Where each place is offered an id of its own, and none of them is taken, all are chosen. -/
theorem chooseIds_eq_zip {ids : List String}
    (hoffered : places.map (source.offeredId? target) = ids.map some) (hnodup : ids.Nodup)
    (hfree : ∀ id ∈ ids, id ∉ taken) :
    source.chooseIds target taken places = places.zip ids := by
  induction places generalizing ids taken with
  | nil => rfl
  | cons place places ih =>
    cases ids with
    | nil => cases hoffered
    | cons id ids =>
      rw [List.map_cons, List.map_cons, List.cons.injEq] at hoffered
      rw [List.nodup_cons] at hnodup
      have hid : taken.contains id = false := by simpa using hfree id List.mem_cons_self
      have hrest : ∀ id' ∈ ids, id' ∉ taken ++ [id] := by
        intro id' hmem htaken
        rcases List.mem_append.mp htaken with htaken | hself
        · exact hfree id' (List.mem_cons_of_mem _ hmem) htaken
        · exact hnodup.1 (List.mem_singleton.mp hself ▸ hmem)
      simp only [chooseIds, hoffered.1, hid, List.zip_cons_cons]
      rw [ih hoffered.2 hnodup.2 hrest]
      rfl

/-- Giving ids to a case does not change who its parties are. -/
theorem sameParty_of_withoutIds (h : d.withoutIds = c.withoutIds) {place : Place}
    (hactive : c.isActive place = true) : d.sameParty c place = true := by
  refine sameParty_iff.mpr fun i hi => ?_
  obtain ⟨q, hq⟩ := exists_otherParty_of_isActive hi hactive
  have hname : d.otherParties[i]?.map (·.name) = some q.name := by
    have hids := congrArg (fun c => c.otherParties[i]?.map (·.name))
      (eq_replaceIds_of_withoutIds h)
    simpa [replaceIds, OtherParty.replaceIds, hq] using hids
  obtain ⟨p, hp, hpq⟩ := Option.map_eq_some_iff.mp hname
  exact ⟨p, q, hp, hq, hpq⟩

/-- Ids that were handed out on a case are all copied to the case that lacks them. -/
theorem copyIds_of_assignIdsAbove (h : c.assignIdsAbove floor = .ok (d, ids)) :
    d.copyIds c = d := by
  have hrest := (filled_of_assignIdsAbove h).rest
  have hoffered : c.vacantPlaces.map (d.offeredId? c) = ids.map some := by
    rw [← map_idAt_of_assignIdsAbove h]
    refine List.map_congr_left fun place hvacant => ?_
    have hactive := (mem_vacantPlaces_iff.mp hvacant).1
    obtain ⟨id, hid, hblank⟩ := exists_id_of_assignIdsAbove h hactive
    rw [hid]
    refine offeredId?_eq_some_iff.mpr ⟨?_, sameParty_of_withoutIds hrest hactive, hid, hblank⟩
    rw [isActive_eq_of_withoutIds hrest, hactive]
  have hfree : ∀ id ∈ ids, id ∉ c.heldIds := by
    intro id hid hheld
    obtain ⟨n, hn, hhighest, -⟩ := partyNumber?_of_assigned h hid
    have := le_highestPartyNumber_of_mem_heldIds hheld hn
    omega
  rw [copyIds, copiedIds, chooseIds_eq_zip hoffered (nodup_assigned h) hfree,
    ← (assignIdsAbove_eq_ok h).2.1]

/-- Nothing is copied to a case whose parties all have ids. -/
theorem copyIds_of_vacantPlaces_eq_nil (h : target.vacantPlaces = []) :
    source.copyIds target = target := by
  rw [copyIds, copiedIds, h]
  rfl

/-- Ids are copied whatever the history of the target is. -/
theorem copyIds_hearings (source target : CaseSnapshot) (history : HearingHistory) :
    source.copyIds { target with hearings := history } =
      { source.copyIds target with hearings := history } := by
  have hchosen : ∀ (places : List Place) (taken : List String),
      source.chooseIds { target with hearings := history } taken places =
        source.chooseIds target taken places := by
    intro places
    induction places with
    | nil => exact fun taken => rfl
    | cons place places ih =>
      intro taken
      have hoffered : source.offeredId? { target with hearings := history } place =
          source.offeredId? target place := rfl
      simp only [chooseIds, hoffered, ih]
  rw [copyIds, withIds_hearings, copiedIds, hchosen]
  rfl

/-- What stands at a place after copying stood there before, or was offered for that place. -/
theorem idAt_copyIds_eq_or (source target : CaseSnapshot) (place : Place) :
    (source.copyIds target).idAt place = target.idAt place ∨
      ∃ id, (source.copyIds target).idAt place = some id ∧
        source.offeredId? target place = some id := by
  by_cases hmem : place ∈ (source.copiedIds target).map (·.1)
  · obtain ⟨⟨place, id⟩, hentry, rfl⟩ := List.mem_map.mp hmem
    have hsublist : ((source.copiedIds target).map (·.1)).Sublist target.vacantPlaces :=
      chooseIds_sublist
    have hactive := (mem_vacantPlaces_iff.mp (hsublist.mem hmem)).1
    refine .inr ⟨id, ?_, offeredId?_of_mem_chooseIds hentry⟩
    exact idAt_withIds_of_mem (nodup_vacantPlaces.sublist hsublist) hentry hactive
  · exact .inl (filled_copyIds.kept place hmem)

end TribunalListing.CaseSnapshot
