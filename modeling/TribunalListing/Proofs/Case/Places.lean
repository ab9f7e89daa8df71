-- SUMMARY: What putting ids at places changes on a case, and what it leaves alone.
import Mathlib.Data.List.Basic
import TribunalListing.Case.Place

/-!
# Ids at places

A case is its ids and everything else. What `idAt` reads at the places, together with the case
without its ids, determines the case. Putting an id at a place leaves everything else as it is, and
so it changes neither which places there are nor which of them are active. The active places are
those that a walk over the case from party to party comes by. `Filled` says that a case comes from
another one by putting ids at vacant places, which are listed. It composes, and it changes the case
exactly if a place is listed.
-/

namespace TribunalListing

/-! ## Ids and the rest -/

/-- The other party at a position with other ids for itself, its appointee and its
representative. -/
def OtherParty.replaceIds (ids : Place → Option String) (index : Nat) (p : OtherParty) :
    OtherParty :=
  { p with
    id := ids (.otherParty index)
    appointee := p.appointee.map ({ · with id := ids (.otherPartyAppointee index) })
    representative :=
      p.representative.map ({ · with id := ids (.otherPartyRepresentative index) }) }

namespace CaseSnapshot

/-- The case with other ids for all people on it, whether they had one or not. -/
def replaceIds (c : CaseSnapshot) (ids : Place → Option String) : CaseSnapshot :=
  { c with
    appellant.id := ids .appellant
    appellant.appointee := c.appellant.appointee.map ({ · with id := ids .appellantAppointee })
    representative := c.representative.map ({ · with id := ids .representative })
    jointParty := c.jointParty.map ({ · with person.id := ids .jointParty })
    otherParties := c.otherParties.mapIdx (OtherParty.replaceIds ids) }

/-- The case without the ids of the people on it. -/
def withoutIds (c : CaseSnapshot) : CaseSnapshot :=
  c.replaceIds fun _ => none

variable {c d e : CaseSnapshot} {id : String} {place : Place}

/-- The ids that were there before do not matter. -/
theorem replaceIds_replaceIds (ids ids' : Place → Option String) :
    (c.replaceIds ids).replaceIds ids' = c.replaceIds ids' := by
  have hother : ∀ i p, OtherParty.replaceIds ids' i (OtherParty.replaceIds ids i p) =
      OtherParty.replaceIds ids' i p := by
    intro i p
    simp [OtherParty.replaceIds, Function.comp_def]
  have hothers : (c.otherParties.mapIdx (OtherParty.replaceIds ids)).mapIdx
      (OtherParty.replaceIds ids') = c.otherParties.mapIdx (OtherParty.replaceIds ids') := by
    apply List.ext_getElem?
    intro i
    rw [List.getElem?_mapIdx, List.getElem?_mapIdx, List.getElem?_mapIdx]
    cases c.otherParties[i]? with
    | none => rfl
    | some p => exact congrArg some (hother i p)
  simp [replaceIds, hothers, Function.comp_def]

theorem replaceIds_idAt : c.replaceIds c.idAt = c := by
  have hperson : ∀ a : Option Person, a.map ({ · with id := a.bind (·.id) }) = a := by
    rintro (_ | a) <;> rfl
  have hrepresentative : ∀ r : Option Representative,
      r.map ({ · with id := r.bind (·.id) }) = r := by
    rintro (_ | r) <;> rfl
  have hjoint : ∀ j : Option JointParty,
      j.map ({ · with person.id := j.bind (·.person.id) }) = j := by
    rintro (_ | j) <;> rfl
  have hothers : c.otherParties.mapIdx (OtherParty.replaceIds c.idAt) = c.otherParties := by
    apply List.ext_getElem?
    intro i
    rw [List.getElem?_mapIdx]
    cases hp : c.otherParties[i]? with
    | none => rfl
    | some p => simp [OtherParty.replaceIds, idAt, hp, hperson, hrepresentative]
  simp only [replaceIds, hothers]
  simp only [idAt, hperson, hrepresentative, hjoint]

/-- Where two cases are the same without their ids, one is the other with its own ids put in. -/
theorem eq_replaceIds_of_withoutIds (h : d.withoutIds = c.withoutIds) :
    d = c.replaceIds d.idAt := by
  have hids := congrArg (replaceIds · d.idAt) h
  simp only [withoutIds, replaceIds_replaceIds, replaceIds_idAt] at hids
  exact hids

/-- The ids at the places and the case without them determine the case. -/
theorem eq_of_withoutIds_of_idAt (h : d.withoutIds = c.withoutIds)
    (hids : ∀ place, d.idAt place = c.idAt place) : d = c := by
  have hidAt : d.idAt = c.idAt := funext hids
  rw [eq_replaceIds_of_withoutIds h, hidAt, replaceIds_idAt]

/-- An other party is changed in its ids only, if the change does not show without them. -/
theorem withoutIds_modifyOther {index : Nat} {f : OtherParty → OtherParty}
    (h : ∀ p, OtherParty.replaceIds (fun _ => none) index (f p) =
      OtherParty.replaceIds (fun _ => none) index p) :
    (c.modifyOther index f).withoutIds = c.withoutIds := by
  have hothers : (c.otherParties.modify index f).mapIdx (OtherParty.replaceIds fun _ => none) =
      c.otherParties.mapIdx (OtherParty.replaceIds fun _ => none) := by
    apply List.ext_getElem?
    intro i
    rw [List.getElem?_mapIdx, List.getElem?_mapIdx, List.getElem?_modify]
    cases c.otherParties[i]? with
    | none => rfl
    | some p =>
      by_cases hi : index = i
      · subst hi
        simp [h p]
      · simp [hi]
  simp only [withoutIds, replaceIds, modifyOther, hothers]

@[simp] theorem withoutIds_withId : (c.withId id place).withoutIds = c.withoutIds := by
  cases place with
  | appellant => rfl
  | appellantAppointee | representative | jointParty =>
    simp [withId, withoutIds, replaceIds, Function.comp_def]
  | otherParty index => exact withoutIds_modifyOther fun _ => rfl
  | otherPartyAppointee index | otherPartyRepresentative index =>
    exact withoutIds_modifyOther fun _ => by simp [OtherParty.replaceIds, Function.comp_def]

/-! ## Places do not depend on ids -/

theorem places_replaceIds (ids : Place → Option String) : (c.replaceIds ids).places = c.places := by
  simp [places, replaceIds]

theorem isSome_actingAppointee_appellant {a : Appellant} :
    a.actingAppointee.isSome = (Answer.saidYes a.isAppointee && a.appointee.isSome) := by
  unfold Appellant.actingAppointee
  split <;> simp [*]

theorem isSome_actingAppointee_other {p : OtherParty} :
    p.actingAppointee.isSome = (Answer.saidYes p.isAppointee && p.appointee.isSome) := by
  unfold OtherParty.actingAppointee
  split <;> simp [*]

theorem isActive_replaceIds (ids : Place → Option String) :
    (c.replaceIds ids).isActive place = c.isActive place := by
  cases place with
  | appellant => rfl
  | appellantAppointee => simp [isActive, isSome_actingAppointee_appellant, replaceIds]
  | representative =>
    simp [isActive, presentRepresentative, replaceIds, Option.isSome_filter, Option.any_map,
      Representative.isPresent]
  | jointParty =>
    simp [isActive, presentJointParty, replaceIds, Option.isSome_filter, Option.any_map,
      JointParty.isPresent]
  | otherParty index => simp [isActive, replaceIds]
  | otherPartyAppointee index =>
    simp only [isActive, replaceIds, List.getElem?_mapIdx]
    cases c.otherParties[index]? with
    | none => rfl
    | some p => simp [isSome_actingAppointee_other, OtherParty.replaceIds]
  | otherPartyRepresentative index =>
    simp only [isActive, replaceIds, List.getElem?_mapIdx]
    cases c.otherParties[index]? with
    | none => rfl
    | some p =>
      simp [OtherParty.presentRepresentative, Option.isSome_filter, OtherParty.replaceIds,
        Option.any_map, Representative.isPresent]

theorem isActive_eq_of_withoutIds (h : d.withoutIds = c.withoutIds) (place : Place) :
    d.isActive place = c.isActive place := by
  rw [eq_replaceIds_of_withoutIds h, isActive_replaceIds]

theorem activePlaces_eq_of_withoutIds (h : d.withoutIds = c.withoutIds) :
    d.activePlaces = c.activePlaces := by
  have hplaces : d.places = c.places := by
    rw [eq_replaceIds_of_withoutIds h, places_replaceIds]
  have hactive : d.isActive = c.isActive := funext (isActive_eq_of_withoutIds h)
  rw [activePlaces, hplaces, hactive, activePlaces]

theorem lt_length_of_bind_otherParties {α : Type} {index : Nat} {f : OtherParty → Option α} {a : α}
    (h : c.otherParties[index]?.bind f = some a) : index < c.otherParties.length := by
  obtain ⟨p, hp, -⟩ := Option.bind_eq_some_iff.mp h
  exact (List.getElem?_eq_some_iff.mp hp).1

/-- An active place is among the places of the case, so nothing is lost by listing the active
ones. -/
theorem mem_activePlaces_iff : place ∈ c.activePlaces ↔ c.isActive place = true := by
  have hplace : c.isActive place = true → place ∈ c.places := by
    intro h
    cases place with
    | appellant | appellantAppointee | representative | jointParty => simp [places]
    | otherParty index => simpa [places, otherPlaces, isActive] using h
    | otherPartyAppointee index | otherPartyRepresentative index =>
      obtain ⟨a, ha⟩ := Option.isSome_iff_exists.mp h
      simpa [places, otherPlaces] using lt_length_of_bind_otherParties ha
  rw [activePlaces, List.mem_filter]
  exact ⟨And.right, fun h => ⟨hplace h, h⟩⟩

/-- Wherever an id is recorded, active or not, there is a place. -/
theorem mem_places_of_idAt (h : c.idAt place = some id) : place ∈ c.places := by
  cases place with
  | appellant | appellantAppointee | representative | jointParty => simp [places]
  | otherParty index | otherPartyAppointee index | otherPartyRepresentative index =>
    simpa [places, otherPlaces] using lt_length_of_bind_otherParties h

/-- A party at a place of an other party is there with that other party. -/
theorem exists_otherParty_of_isActive {i : Nat} (hi : place.otherIndex? = some i)
    (h : c.isActive place = true) : ∃ p, c.otherParties[i]? = some p := by
  cases place with
  | appellant | appellantAppointee | representative | jointParty => cases hi
  | otherParty j =>
    cases hi
    exact Option.isSome_iff_exists.mp h
  | otherPartyAppointee j | otherPartyRepresentative j =>
    cases hi
    obtain ⟨a, ha⟩ := Option.isSome_iff_exists.mp h
    obtain ⟨p, hp, -⟩ := Option.bind_eq_some_iff.mp ha
    exact ⟨p, hp⟩

/-- No place is listed twice: the places of an other party carry its number. -/
theorem nodup_places : c.places.Nodup := by
  have hothers : ((List.range c.otherParties.length).flatMap otherPlaces).Nodup := by
    refine List.pairwise_flatMap.mpr ⟨fun index _ => by simp [otherPlaces], ?_⟩
    refine List.nodup_range.imp fun {i j} hij => ?_
    simp [otherPlaces, hij]
  refine List.nodup_append.mpr ⟨by decide, hothers, ?_⟩
  rintro fixed hfixed _ hnumbered rfl
  obtain ⟨index, -, hindex⟩ := List.mem_flatMap.mp hnumbered
  have hnone : fixed.otherIndex? = none := by
    revert fixed
    simp [Place.otherIndex?]
  have hsome : fixed.otherIndex? = some index := by
    simp only [otherPlaces, List.mem_cons, List.not_mem_nil, or_false] at hindex
    rcases hindex with rfl | rfl | rfl <;> rfl
  rw [hnone] at hsome
  cases hsome

theorem nodup_activePlaces : c.activePlaces.Nodup :=
  nodup_places.filter _

theorem mem_vacantPlaces_iff :
    place ∈ c.vacantPlaces ↔ c.isActive place = true ∧ Text.unwritten (c.idAt place) = true := by
  rw [vacantPlaces, List.mem_filter, mem_activePlaces_iff]

theorem nodup_vacantPlaces : c.vacantPlaces.Nodup :=
  nodup_activePlaces.filter _

theorem notMem_vacantPlaces_of_idAt (hid : c.idAt place = some id)
    (hblank : Text.isBlank id = false) : place ∉ c.vacantPlaces := by
  intro hvacant
  have hunwritten := (mem_vacantPlaces_iff.mp hvacant).2
  rw [hid, Text.unwritten, Text.written_some, hblank] at hunwritten
  cases hunwritten

/-! ## The order of the places -/

/-- What is read at the places is read at the four places of the case first, and then at those of
one other party after the other, which are numbered by their positions. -/
theorem filterMap_places {α : Type} (f : Place → Option α) :
    c.places.filterMap f =
      [Place.appellant, .appellantAppointee, .representative, .jointParty].filterMap f ++
        c.otherParties.zipIdx.flatMap fun (_, index) => (otherPlaces index).filterMap f := by
  have hrange : List.range c.otherParties.length = c.otherParties.zipIdx.map (·.2) := by
    rw [List.zipIdx_map_snd, List.range_eq_range']
  rw [places, hrange, List.flatMap_map, List.filterMap_append, List.filterMap_flatMap]

/-- A walk over the other parties goes by what is recorded at each position. -/
theorem flatMap_otherParties_congr {α : Type} {f g : OtherParty × Nat → List α}
    (h : ∀ p index, c.otherParties[index]? = some p → f (p, index) = g (p, index)) :
    c.otherParties.zipIdx.flatMap f = c.otherParties.zipIdx.flatMap g := by
  apply List.flatMap_congr
  rintro ⟨p, index⟩ hmem
  exact h p index (List.mk_mem_zipIdx_iff_getElem?.mp hmem)

/-- The active places in order: the appellant's, the acting appointee's, the present
representative's, the present joint party's, and then, for one other party after the other, its own
and those of its acting appointee and its present representative. -/
theorem activePlaces_eq :
    c.activePlaces =
      .appellant :: (c.appellant.actingAppointee.toList.map fun _ => .appellantAppointee) ++
        (c.presentRepresentative.toList.map fun _ => .representative) ++
        (c.presentJointParty.toList.map fun _ => .jointParty) ++
        c.otherParties.zipIdx.flatMap fun (p, index) =>
          .otherParty index ::
            (p.actingAppointee.toList.map fun _ => .otherPartyAppointee index) ++
            (p.presentRepresentative.toList.map fun _ => .otherPartyRepresentative index) := by
  rw [activePlaces, ← List.filterMap_eq_filter, filterMap_places]
  refine congrArg₂ (· ++ ·) ?_ (flatMap_otherParties_congr fun p index hp => ?_)
  · simp only [List.filterMap_cons, List.filterMap_nil, Option.guard, isActive]
    cases c.appellant.actingAppointee <;> cases c.presentRepresentative <;>
      cases c.presentJointParty <;> rfl
  · simp only [otherPlaces, List.filterMap_cons, List.filterMap_nil, Option.guard, isActive, hp,
      Option.bind_some]
    cases p.actingAppointee <;> cases p.presentRepresentative <;> rfl

/-! ## Reading an id that was put -/

/-- What is read off an other party after a change. It only matters for the one that was changed. -/
theorem bind_modifyOther {α : Type} {i j : Nat} {f : OtherParty → OtherParty}
    {g : OtherParty → Option α} (h : i = j → ∀ p, g (f p) = g p) :
    (c.modifyOther i f).otherParties[j]?.bind g = c.otherParties[j]?.bind g := by
  rw [modifyOther, List.getElem?_modify]
  cases c.otherParties[j]? with
  | none => rfl
  | some p =>
    by_cases hij : i = j
    · simpa [hij] using h hij p
    · simp [hij]

theorem idAt_withId_self (h : c.isActive place = true) :
    (c.withId id place).idAt place = some id := by
  cases place with
  | appellant => rfl
  | appellantAppointee =>
    rw [isActive, isSome_actingAppointee_appellant, Bool.and_eq_true] at h
    obtain ⟨a, ha⟩ := Option.isSome_iff_exists.mp h.2
    simp [withId, idAt, ha]
  | representative =>
    obtain ⟨r, hr⟩ := Option.isSome_iff_exists.mp h
    simp [withId, idAt, (Option.filter_eq_some_iff.mp hr).1]
  | jointParty =>
    obtain ⟨j, hj⟩ := Option.isSome_iff_exists.mp h
    simp [withId, idAt, (Option.filter_eq_some_iff.mp hj).1]
  | otherParty index =>
    obtain ⟨p, hp⟩ := Option.isSome_iff_exists.mp h
    simp [withId, idAt, modifyOther, hp]
  | otherPartyAppointee index =>
    obtain ⟨a, ha⟩ := Option.isSome_iff_exists.mp h
    obtain ⟨p, hp, hacting⟩ := Option.bind_eq_some_iff.mp ha
    have hsome : p.actingAppointee.isSome = true := by simp [hacting]
    rw [isSome_actingAppointee_other, Bool.and_eq_true] at hsome
    obtain ⟨a', ha'⟩ := Option.isSome_iff_exists.mp hsome.2
    simp [withId, idAt, modifyOther, hp, ha']
  | otherPartyRepresentative index =>
    obtain ⟨r, hr⟩ := Option.isSome_iff_exists.mp h
    obtain ⟨p, hp, hpresent⟩ := Option.bind_eq_some_iff.mp hr
    simp [withId, idAt, modifyOther, hp, (Option.filter_eq_some_iff.mp hpresent).1]

/-- Each place has an id of its own. -/
theorem idAt_withId_of_ne {other : Place} (h : other ≠ place) :
    (c.withId id place).idAt other = c.idAt other := by
  cases place with
  | appellant | appellantAppointee | representative | jointParty =>
    cases other <;> first | rfl | exact absurd rfl h
  | otherParty i =>
    cases other with
    | appellant | appellantAppointee | representative | jointParty => rfl
    | otherParty j => exact bind_modifyOther fun hij => absurd (by rw [hij]) h
    | otherPartyAppointee j | otherPartyRepresentative j => exact bind_modifyOther fun _ _ => rfl
  | otherPartyAppointee i =>
    cases other with
    | appellant | appellantAppointee | representative | jointParty => rfl
    | otherPartyAppointee j => exact bind_modifyOther fun hij => absurd (by rw [hij]) h
    | otherParty j | otherPartyRepresentative j => exact bind_modifyOther fun _ _ => rfl
  | otherPartyRepresentative i =>
    cases other with
    | appellant | appellantAppointee | representative | jointParty => rfl
    | otherPartyRepresentative j => exact bind_modifyOther fun hij => absurd (by rw [hij]) h
    | otherParty j | otherPartyAppointee j => exact bind_modifyOther fun _ _ => rfl

/-! ## Several ids -/

theorem withIds_cons {ids : List (Place × String)} :
    c.withIds ((place, id) :: ids) = (c.withId id place).withIds ids := rfl

@[simp] theorem withoutIds_withIds {ids : List (Place × String)} :
    (c.withIds ids).withoutIds = c.withoutIds := by
  induction ids generalizing c with
  | nil => rfl
  | cons entry ids ih => rw [withIds_cons, ih, withoutIds_withId]

theorem idAt_withIds_of_notMem {ids : List (Place × String)} (h : place ∉ ids.map (·.1)) :
    (c.withIds ids).idAt place = c.idAt place := by
  induction ids generalizing c with
  | nil => rfl
  | cons entry ids ih =>
    rw [List.map_cons, List.mem_cons, not_or] at h
    rw [withIds_cons, ih h.2, idAt_withId_of_ne h.1]

/-- What was put at an active place is read there, if nothing else was put there afterwards. -/
theorem idAt_withIds_of_mem {ids : List (Place × String)} (hnodup : (ids.map (·.1)).Nodup)
    (hmem : (place, id) ∈ ids) (hactive : c.isActive place = true) :
    (c.withIds ids).idAt place = some id := by
  induction ids generalizing c with
  | nil => cases hmem
  | cons entry ids ih =>
    rw [List.map_cons, List.nodup_cons] at hnodup
    rw [withIds_cons]
    rcases List.mem_cons.mp hmem with rfl | hmem
    · rw [idAt_withIds_of_notMem hnodup.1, idAt_withId_self hactive]
    · refine ih hnodup.2 hmem ?_
      rw [isActive_eq_of_withoutIds withoutIds_withId, hactive]

/-! ## Filling vacant places -/

/-- `d` is `c` with written ids put at some of its vacant places, and with nothing else changed. -/
structure Filled (filled : List Place) (c d : CaseSnapshot) : Prop where
  rest : d.withoutIds = c.withoutIds
  vacant : ∀ place ∈ filled, place ∈ c.vacantPlaces
  written : ∀ place ∈ filled, Text.unwritten (d.idAt place) = false
  kept : ∀ place ∉ filled, d.idAt place = c.idAt place

namespace Filled

variable {filled filled' : List Place}

theorem refl (c : CaseSnapshot) : Filled [] c c :=
  ⟨rfl, by simp, by simp, fun _ _ => rfl⟩

/-- A place that was filled is not vacant any more, so a second filling leaves it alone. -/
theorem trans (h : Filled filled c d) (h' : Filled filled' d e) :
    Filled (filled ++ filled') c e := by
  have hfresh : ∀ place ∈ filled', place ∉ filled := by
    intro place hmem' hmem
    have hvacant := (mem_vacantPlaces_iff.mp (h'.vacant place hmem')).2
    rw [h.written place hmem] at hvacant
    cases hvacant
  refine ⟨h'.rest.trans h.rest, fun place hmem => ?_, fun place hmem => ?_, fun place hmem => ?_⟩
  · rcases List.mem_append.mp hmem with hmem | hmem'
    · exact h.vacant place hmem
    · have hvacant := mem_vacantPlaces_iff.mp (h'.vacant place hmem')
      rw [h.kept place (hfresh place hmem'), isActive_eq_of_withoutIds h.rest] at hvacant
      exact mem_vacantPlaces_iff.mpr hvacant
  · by_cases hmem' : place ∈ filled'
    · exact h'.written place hmem'
    · rw [h'.kept place hmem']
      exact h.written place ((List.mem_append.mp hmem).resolve_right hmem')
  · rw [List.mem_append, not_or] at hmem
    rw [h'.kept place hmem.2, h.kept place hmem.1]

/-- Filling changes the case exactly if it fills something. -/
theorem eq_iff (h : Filled filled c d) : d = c ↔ filled = [] := by
  constructor
  · rintro rfl
    refine List.eq_nil_iff_forall_not_mem.mpr fun place hmem => ?_
    have hvacant := (mem_vacantPlaces_iff.mp (h.vacant place hmem)).2
    rw [h.written place hmem] at hvacant
    cases hvacant
  · rintro rfl
    exact eq_of_withoutIds_of_idAt h.rest fun place => h.kept place List.not_mem_nil

/-- An id that is written stays where it is. -/
theorem idAt_of_written (h : Filled filled c d) (hid : c.idAt place = some id)
    (hblank : Text.isBlank id = false) : d.idAt place = some id := by
  have hunfilled : place ∉ filled := mt (h.vacant place) (notMem_vacantPlaces_of_idAt hid hblank)
  rw [h.kept place hunfilled, hid]

/-- An id that differs was put at a place that was vacant. -/
theorem idAt_eq_or (h : Filled filled c d) (place : Place) :
    d.idAt place = c.idAt place ∨ place ∈ c.vacantPlaces := by
  by_cases hmem : place ∈ filled
  · exact .inr (h.vacant place hmem)
  · exact .inl (h.kept place hmem)

end Filled

/-- Putting written ids at different vacant places fills those places. -/
theorem filled_withIds {ids : List (Place × String)} (hnodup : (ids.map (·.1)).Nodup)
    (hvacant : ∀ entry ∈ ids, entry.1 ∈ c.vacantPlaces)
    (hwritten : ∀ entry ∈ ids, Text.isBlank entry.2 = false) :
    Filled (ids.map (·.1)) c (c.withIds ids) := by
  refine ⟨withoutIds_withIds, ?_, ?_, fun place => idAt_withIds_of_notMem⟩
  · simpa using fun place id hmem => hvacant (place, id) hmem
  · intro place hmem
    obtain ⟨⟨place, id⟩, hentry, rfl⟩ := List.mem_map.mp hmem
    have hactive := (mem_vacantPlaces_iff.mp (hvacant _ hentry)).1
    rw [idAt_withIds_of_mem hnodup hentry hactive, Text.unwritten, Text.written_some,
      hwritten _ hentry]
    rfl

end CaseSnapshot

end TribunalListing
