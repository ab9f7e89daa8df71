-- SUMMARY: Handing out party ids fills all vacant places, and every id handed out is fresh.
import TribunalListing.Proofs.Case.Places
import TribunalListing.Proofs.Text.Numeral

/-!
# Handing out party ids

Handing out numbers fills all vacant places of a case. The numbers that are handed out lie above
every number on the case, so each is different from any id that is recorded there, whichever way
that id is written.
-/

namespace TribunalListing.CaseSnapshot

variable {c d : CaseSnapshot} {floor : Nat} {ids : List String}

/-! ## The highest number -/

theorem le_highestPartyNumber_of_mem_heldIds {id : String} {n : Nat} (hheld : id ∈ c.heldIds)
    (hn : partyNumber? id = some n) : n ≤ c.highestPartyNumber := by
  have hnumber : n ∈ c.heldIds.filterMap partyNumber? := List.mem_filterMap.mpr ⟨id, hheld, hn⟩
  obtain ⟨m, hm⟩ := Option.isSome_iff_exists.mp (List.isSome_max?_of_mem hnumber)
  have hle : n ≤ m := (List.max?_eq_some_iff.mp hm).2 n hnumber
  rw [highestPartyNumber, List.foldl_max, hm]
  exact Nat.le_trans hle (Nat.le_max_right 0 m)

/-- No number at any place, active or not, is above the highest one. -/
theorem le_highestPartyNumber {place : Place} {id : String} {n : Nat}
    (hid : c.idAt place = some id) (hn : partyNumber? id = some n) :
    n ≤ c.highestPartyNumber := by
  have hwritten : Text.written (c.idAt place) = some id :=
    Text.written_eq_some_iff.mpr ⟨hid, isBlank_of_partyNumber? hn⟩
  have hheld : Text.trim id ∈ c.heldIds :=
    List.mem_filterMap.mpr ⟨place, mem_places_of_idAt hid, by rw [hwritten, Option.map_some]⟩
  exact le_highestPartyNumber_of_mem_heldIds hheld (by rw [partyNumber?_trim, hn])

/-- The highest number is recorded somewhere, unless no number is. -/
theorem highestPartyNumber_eq_zero_or (c : CaseSnapshot) :
    c.highestPartyNumber = 0 ∨
      ∃ place id, c.idAt place = some id ∧ partyNumber? id = some c.highestPartyNumber := by
  have hfold : c.highestPartyNumber = max 0 ((c.heldIds.filterMap partyNumber?).max?.getD 0) :=
    List.foldl_max
  rw [Nat.zero_max] at hfold
  cases hmax : (c.heldIds.filterMap partyNumber?).max? with
  | none =>
    rw [hmax] at hfold
    exact .inl hfold
  | some n =>
    rw [hmax] at hfold
    obtain ⟨trimmed, hheld, hn⟩ := List.mem_filterMap.mp (List.max?_mem hmax)
    obtain ⟨place, -, hplace⟩ := List.mem_filterMap.mp hheld
    obtain ⟨id, hwritten, rfl⟩ := Option.map_eq_some_iff.mp hplace
    rw [partyNumber?_trim] at hn
    refine .inr ⟨place, id, (Text.written_eq_some_iff.mp hwritten).1, ?_⟩
    rw [hn, hfold]
    rfl

/-! ## Handing out -/

theorem length_idsAbove (number count : Nat) : (idsAbove number count).length = count := by
  simp [idsAbove]

theorem mem_idsAbove_iff {number count : Nat} {id : String} :
    id ∈ idsAbove number count ↔ ∃ n, number < n ∧ n ≤ number + count ∧ toString n = id := by
  simp only [idsAbove, List.mem_map, List.mem_range]
  constructor
  · rintro ⟨k, hk, rfl⟩
    exact ⟨number + 1 + k, by omega, by omega, rfl⟩
  · rintro ⟨n, hlow, hhigh, rfl⟩
    refine ⟨n - (number + 1), by omega, ?_⟩
    congr 1
    omega

theorem nodup_idsAbove (number count : Nat) : (idsAbove number count).Nodup := by
  refine List.Pairwise.map _ (fun m n hne h => hne ?_) List.nodup_range
  have := Text.toString_nat_injective h
  omega

/-- What handing out ids gives: the numbers that follow, put at the vacant places in order. None of
them is above the largest number that can be an id. -/
theorem assignIdsAbove_eq_ok (h : c.assignIdsAbove floor = .ok (d, ids)) :
    ids = idsAbove (max c.highestPartyNumber floor) c.vacantPlaces.length ∧
      d = c.withIds (c.vacantPlaces.zip ids) ∧
      (c.vacantPlaces = [] ∨
        max c.highestPartyNumber floor + c.vacantPlaces.length ≤ maxPartyNumber) := by
  simp only [assignIdsAbove] at h
  split at h
  next => cases h
  next hroom =>
    cases h
    refine ⟨rfl, rfl, ?_⟩
    rw [Bool.and_eq_true, decide_eq_true_eq, decide_eq_true_eq, not_and, Nat.not_lt] at hroom
    by_cases hnil : c.vacantPlaces = []
    · exact .inl hnil
    · exact .inr (hroom (List.length_pos_iff.mpr hnil))

/-- Handing out ids fails for one reason: there are fewer numbers left than vacant places. -/
theorem assignIdsAbove_eq_error_iff {e : DerivationError} :
    c.assignIdsAbove floor = .error e ↔
      e = .partyIdsExhausted (max c.highestPartyNumber floor) ∧ 0 < c.vacantPlaces.length ∧
        maxPartyNumber < max c.highestPartyNumber floor + c.vacantPlaces.length := by
  simp only [assignIdsAbove, Bool.and_eq_true, decide_eq_true_eq]
  split
  next hshort =>
    rw [Except.error.injEq, eq_comm]
    exact (and_iff_left hshort).symm
  next hroom => simp [hroom]

/-- As many ids are handed out as there are vacant places. -/
theorem length_assigned (h : c.assignIdsAbove floor = .ok (d, ids)) :
    ids.length = c.vacantPlaces.length := by
  rw [(assignIdsAbove_eq_ok h).1, length_idsAbove]

/-- An id that was handed out is a number above the floor and above all others on the case. -/
theorem partyNumber?_of_assigned (h : c.assignIdsAbove floor = .ok (d, ids)) {id : String}
    (hid : id ∈ ids) :
    ∃ n, partyNumber? id = some n ∧ c.highestPartyNumber < n ∧ floor < n ∧ id = toString n := by
  obtain ⟨hids, -, hroom⟩ := assignIdsAbove_eq_ok h
  rw [hids] at hid
  obtain ⟨n, hlow, hhigh, rfl⟩ := mem_idsAbove_iff.mp hid
  have hvacant : c.vacantPlaces ≠ [] := by
    intro hnil
    rw [hnil, List.length_nil] at hhigh
    omega
  have hlimit : n ≤ maxPartyNumber := Nat.le_trans hhigh (hroom.resolve_left hvacant)
  exact ⟨n, partyNumber?_toString hlimit, by omega, by omega, rfl⟩

theorem nodup_assigned (h : c.assignIdsAbove floor = .ok (d, ids)) : ids.Nodup := by
  rw [(assignIdsAbove_eq_ok h).1]
  exact nodup_idsAbove _ _

/-- An id that was handed out is recorded at no place of the case. -/
theorem not_held_of_assigned (h : c.assignIdsAbove floor = .ok (d, ids)) {id : String}
    (hid : id ∈ ids) (place : Place) : c.idAt place ≠ some id := by
  intro hheld
  obtain ⟨n, hn, hhighest, -⟩ := partyNumber?_of_assigned h hid
  have := le_highestPartyNumber hheld hn
  omega

/-- Handing out ids fills exactly the vacant places. -/
theorem filled_of_assignIdsAbove (h : c.assignIdsAbove floor = .ok (d, ids)) :
    Filled c.vacantPlaces c d := by
  have hplaces : (c.vacantPlaces.zip ids).map (·.1) = c.vacantPlaces :=
    List.map_fst_zip (Nat.le_of_eq (length_assigned h).symm)
  have hfilled : Filled ((c.vacantPlaces.zip ids).map (·.1)) c
      (c.withIds (c.vacantPlaces.zip ids)) := by
    refine filled_withIds ?_ ?_ ?_
    · rw [hplaces]
      exact nodup_vacantPlaces
    · exact fun entry hentry => (List.of_mem_zip hentry).1
    · intro entry hentry
      obtain ⟨n, hn, -⟩ := partyNumber?_of_assigned h (List.of_mem_zip hentry).2
      exact isBlank_of_partyNumber? hn
  rwa [hplaces, ← (assignIdsAbove_eq_ok h).2.1] at hfilled

/-- The ids that are handed out stand at the vacant places, in order. -/
theorem map_idAt_of_assignIdsAbove (h : c.assignIdsAbove floor = .ok (d, ids)) :
    c.vacantPlaces.map d.idAt = ids.map some := by
  have hlength := length_assigned h
  obtain ⟨-, rfl, -⟩ := assignIdsAbove_eq_ok h
  refine List.ext_getElem (by simp [hlength]) fun i hi hi' => ?_
  rw [List.length_map] at hi hi'
  have hzip : i < (c.vacantPlaces.zip ids).length := by
    rw [List.length_zip]
    omega
  have hmem : (c.vacantPlaces[i], ids[i]) ∈ c.vacantPlaces.zip ids := by
    rw [← List.getElem_zip (h := hzip)]
    exact List.getElem_mem hzip
  have hactive := (mem_vacantPlaces_iff.mp (List.getElem_mem hi)).1
  have hnodup : ((c.vacantPlaces.zip ids).map (·.1)).Nodup := by
    rw [List.map_fst_zip (Nat.le_of_eq hlength.symm)]
    exact nodup_vacantPlaces
  rw [List.getElem_map, List.getElem_map]
  exact idAt_withIds_of_mem hnodup hmem hactive

/-- What stands at a place after handing out stood there before, or was handed out. -/
theorem idAt_of_assignIdsAbove_eq_or (h : c.assignIdsAbove floor = .ok (d, ids)) (place : Place) :
    d.idAt place = c.idAt place ∨ ∃ id ∈ ids, d.idAt place = some id := by
  by_cases hvacant : place ∈ c.vacantPlaces
  · have hmem : d.idAt place ∈ ids.map some := by
      rw [← map_idAt_of_assignIdsAbove h]
      exact List.mem_map_of_mem hvacant
    obtain ⟨id, hid, heq⟩ := List.mem_map.mp hmem
    exact .inr ⟨id, hid, heq.symm⟩
  · exact .inl ((filled_of_assignIdsAbove h).kept place hvacant)

/-- Once ids are handed out, every party holds one. -/
theorem exists_id_of_assignIdsAbove (h : c.assignIdsAbove floor = .ok (d, ids)) {place : Place}
    (hactive : c.isActive place = true) :
    ∃ id, d.idAt place = some id ∧ Text.isBlank id = false := by
  have hfilled := filled_of_assignIdsAbove h
  have hwritten : Text.unwritten (d.idAt place) = false := by
    by_cases hvacant : place ∈ c.vacantPlaces
    · exact hfilled.written place hvacant
    · rw [hfilled.kept place hvacant]
      rw [mem_vacantPlaces_iff, not_and, Bool.not_eq_true] at hvacant
      exact hvacant hactive
  obtain ⟨id, hid⟩ := Option.isSome_iff_exists.mp (Option.isNone_eq_false_iff.mp hwritten)
  exact ⟨id, Text.written_eq_some_iff.mp hid⟩

theorem vacantPlaces_of_assignIdsAbove (h : c.assignIdsAbove floor = .ok (d, ids)) :
    d.vacantPlaces = [] := by
  refine List.eq_nil_iff_forall_not_mem.mpr fun place hvacant => ?_
  have hactive := (mem_vacantPlaces_iff.mp hvacant).1
  rw [isActive_eq_of_withoutIds (filled_of_assignIdsAbove h).rest] at hactive
  obtain ⟨id, hid, hblank⟩ := exists_id_of_assignIdsAbove h hactive
  exact notMem_vacantPlaces_of_idAt hid hblank hvacant

/-- Where every party has an id, nothing is handed out, whatever the floor. -/
theorem assignIdsAbove_of_vacantPlaces_eq_nil (h : c.vacantPlaces = []) (floor : Nat) :
    c.assignIdsAbove floor = .ok (c, []) := by
  simp [assignIdsAbove, h, idsAbove, withIds]

/-- A number that was held before vacant places were filled is held afterwards. -/
theorem Filled.le_highestPartyNumber {filled : List Place} (h : Filled filled c d) {place : Place}
    {id : String} {n : Nat} (hid : c.idAt place = some id) (hn : partyNumber? id = some n) :
    n ≤ d.highestPartyNumber :=
  CaseSnapshot.le_highestPartyNumber (h.idAt_of_written hid (isBlank_of_partyNumber? hn)) hn

/-! ## Changes elsewhere on the case -/

/-- A change of the case that has nothing to do with ids: it neither takes nor leaves a place, no id
counts for more or less, and an id can be put at a place before the change as well as after it. -/
structure SparesIds (f : CaseSnapshot → CaseSnapshot) : Prop where
  vacantPlaces : ∀ c, (f c).vacantPlaces = c.vacantPlaces
  highestPartyNumber : ∀ c, (f c).highestPartyNumber = c.highestPartyNumber
  withId : ∀ c id place, (f c).withId id place = f (c.withId id place)

namespace SparesIds

variable {f : CaseSnapshot → CaseSnapshot}

theorem withIds (hf : SparesIds f) (c : CaseSnapshot) (ids : List (Place × String)) :
    (f c).withIds ids = f (c.withIds ids) := by
  induction ids generalizing c with
  | nil => rfl
  | cons entry ids ih =>
    obtain ⟨place, id⟩ := entry
    rw [withIds_cons, withIds_cons, hf.withId, ih]

/-- The same ids are handed out before and after such a change, or there is the same failure. -/
theorem assignIdsAbove (hf : SparesIds f) (c : CaseSnapshot) (floor : Nat) :
    (f c).assignIdsAbove floor = (c.assignIdsAbove floor).map fun (d, ids) => (f d, ids) := by
  simp only [CaseSnapshot.assignIdsAbove, hf.vacantPlaces, hf.highestPartyNumber, hf.withIds]
  split <;> rfl

end SparesIds

/-- A history has nothing to do with ids. -/
theorem sparesIds_hearings (history : HearingHistory) :
    SparesIds ({ · with hearings := history }) :=
  ⟨fun _ => rfl, fun _ => rfl, fun _ _ place => by cases place <;> rfl⟩

/-- Ids are put at places whatever the history is. -/
theorem withIds_hearings (c : CaseSnapshot) (history : HearingHistory)
    (ids : List (Place × String)) :
    { c with hearings := history }.withIds ids = { c.withIds ids with hearings := history } :=
  (sparesIds_hearings history).withIds c ids

/-- Ids are handed out whatever the history is. -/
theorem assignIdsAbove_hearings (h : c.assignIdsAbove floor = .ok (d, ids))
    (history : HearingHistory) :
    { c with hearings := history }.assignIdsAbove floor =
      .ok ({ d with hearings := history }, ids) := by
  refine ((sparesIds_hearings history).assignIdsAbove c floor).trans ?_
  rw [h]
  rfl

end TribunalListing.CaseSnapshot
