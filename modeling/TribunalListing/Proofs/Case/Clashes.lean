-- SUMMARY: When an id that is copied clashes with another one, or is copied late.
import Mathlib.Data.List.Nodup
import TribunalListing.Proofs.Case.Copying

/-!
# Clashes of copied ids

An id is passed over if it is held on the target already, or if it has been copied to another place
just before. What is held is compared without the white space at its ends, but what is offered is
compared as it is written. So an offered id with white space at its ends is never found among those
that are held, whereas it is found among those that were just copied. `freshCopies_iff` says that
nothing else goes wrong: the ids that are copied are new and all different, and there is nothing left
to copy, exactly if no such id is offered beside another one that is the same without its white
space.
-/

namespace TribunalListing.CaseSnapshot

variable {c d source target : CaseSnapshot} {taken : List String} {places filled : List Place}
  {place : Place} {id : String}

/-! ## Ids that are held -/

theorem mem_heldIds_iff {text : String} :
    text ∈ c.heldIds ↔
      ∃ place id, c.idAt place = some id ∧ Text.isBlank id = false ∧ Text.trim id = text := by
  constructor
  · intro hheld
    obtain ⟨place, -, hplace⟩ := List.mem_filterMap.mp hheld
    obtain ⟨id, hwritten, htrim⟩ := Option.map_eq_some_iff.mp hplace
    obtain ⟨hid, hblank⟩ := Text.written_eq_some_iff.mp hwritten
    exact ⟨place, id, hid, hblank, htrim⟩
  · rintro ⟨place, id, hid, hblank, rfl⟩
    apply List.mem_filterMap.mpr
    refine ⟨place, mem_places_of_idAt hid, ?_⟩
    rw [Text.written_eq_some_iff.mpr ⟨hid, hblank⟩, Option.map_some]

/-- What is held has no white space at its ends. -/
theorem trim_of_mem_heldIds {text : String} (h : text ∈ c.heldIds) : Text.trim text = text := by
  obtain ⟨-, id, -, -, rfl⟩ := mem_heldIds_iff.mp h
  exact Text.trim_trim id

/-- An id stays held when vacant places are filled. -/
theorem Filled.mem_heldIds (h : Filled filled c d) {text : String} (hheld : text ∈ c.heldIds) :
    text ∈ d.heldIds := by
  obtain ⟨place, id, hid, hblank, htrim⟩ := mem_heldIds_iff.mp hheld
  exact mem_heldIds_iff.mpr ⟨place, id, h.idAt_of_written hid hblank, hblank, htrim⟩

/-- The places that stay vacant are those that were not filled. -/
theorem Filled.mem_vacantPlaces_iff (h : Filled filled c d) :
    place ∈ d.vacantPlaces ↔ place ∈ c.vacantPlaces ∧ place ∉ filled := by
  rw [CaseSnapshot.mem_vacantPlaces_iff, CaseSnapshot.mem_vacantPlaces_iff,
    isActive_eq_of_withoutIds h.rest]
  by_cases hfilled : place ∈ filled
  · simp [h.written place hfilled, hfilled]
  · simp [h.kept place hfilled, hfilled]

/-! ## Ids that are offered -/

/-- Who the parties are does not depend on their ids. -/
theorem sameParty_congr (h : d.withoutIds = c.withoutIds) (place : Place) :
    source.sameParty d place = source.sameParty c place := by
  unfold sameParty
  rw [eq_replaceIds_of_withoutIds h]
  cases place.otherIndex? with
  | none => rfl
  | some i =>
    simp only [replaceIds, List.getElem?_mapIdx]
    cases source.otherParties[i]? with
    | none => rfl
    | some p => cases c.otherParties[i]? <;> rfl

/-- Copying ids does not change what is offered. -/
theorem offeredId?_copyIds (source target : CaseSnapshot) (place : Place) :
    source.offeredId? (source.copyIds target) place = source.offeredId? target place := by
  rw [offeredId?, offeredId?, sameParty_congr filled_copyIds.rest]

/-! ## Ids that are chosen -/

/-- Every id that is offered for one of the places is chosen for the first such place, unless it is
taken. -/
theorem mem_map_chooseIds_iff :
    id ∈ (source.chooseIds target taken places).map (·.2) ↔
      id ∉ taken ∧ ∃ place ∈ places, source.offeredId? target place = some id := by
  fun_induction chooseIds source target taken places with
  | case1 taken => simp
  | case2 taken place places first hoffered htaken ih =>
    rw [List.contains_eq_mem, decide_eq_true_eq] at htaken
    rw [ih]
    refine and_congr_right fun hfree => ?_
    have hne : first ≠ id := by
      rintro rfl
      exact hfree htaken
    simp [hoffered, hne]
  | case3 taken place places first hoffered hfree ih =>
    rw [List.contains_eq_mem, decide_eq_true_eq] at hfree
    rw [List.map_cons, List.mem_cons, ih]
    by_cases hfirst : id = first
    · subst hfirst
      simp [hoffered, hfree]
    · have hne : first ≠ id := fun heq => hfirst heq.symm
      simp [hoffered, hfirst, hne]
  | case4 taken place places hnone ih => simp [ih, hnone]

/-- No id is chosen twice. -/
theorem nodup_map_chooseIds : ((source.chooseIds target taken places).map (·.2)).Nodup := by
  fun_induction chooseIds source target taken places with
  | case1 => exact List.nodup_nil
  | case2 _ _ _ _ _ _ ih => exact ih
  | case3 taken place places id hoffered hfree ih =>
    rw [List.map_cons, List.nodup_cons]
    refine ⟨?_, ih⟩
    intro hagain
    exact (mem_map_chooseIds_iff.mp hagain).1 (List.mem_append_right _ List.mem_cons_self)
  | case4 _ _ _ _ ih => exact ih

/-! ## Ids that are copied -/

theorem mem_copiedIds_of_offered (hvacant : place ∈ target.vacantPlaces)
    (hoffered : source.offeredId? target place = some id) (hfree : id ∉ target.heldIds) :
    ∃ copied, (copied, id) ∈ source.copiedIds target := by
  have hchosen : id ∈ (source.copiedIds target).map (·.2) :=
    mem_map_chooseIds_iff.mpr ⟨hfree, place, hvacant, hoffered⟩
  obtain ⟨⟨copied, id⟩, hentry, rfl⟩ := List.mem_map.mp hchosen
  exact ⟨copied, hentry⟩

theorem vacant_of_mem_copiedIds (h : (place, id) ∈ source.copiedIds target) :
    place ∈ target.vacantPlaces :=
  filled_copyIds.vacant place (List.mem_map_of_mem h)

theorem not_mem_heldIds_of_mem_copiedIds (h : (place, id) ∈ source.copiedIds target) :
    id ∉ target.heldIds :=
  (mem_map_chooseIds_iff.mp (List.mem_map_of_mem h : id ∈ (source.copiedIds target).map (·.2))).1

/-- An id is copied to one place only. -/
theorem place_eq_of_mem_copiedIds {other : Place} (h : (place, id) ∈ source.copiedIds target)
    (hother : (other, id) ∈ source.copiedIds target) : place = other := by
  have hnodup : ((source.copiedIds target).map (·.2)).Nodup := nodup_map_chooseIds
  exact congrArg Prod.fst (List.inj_on_of_nodup_map hnodup h hother rfl)

/-- The ids that are new on the target are those that are copied. -/
theorem mem_copiedIds_iff :
    (place, id) ∈ source.copiedIds target ↔
      (source.copyIds target).idAt place = some id ∧ target.idAt place ≠ some id := by
  have hnodup : ((source.copiedIds target).map (·.1)).Nodup :=
    nodup_vacantPlaces.sublist chooseIds_sublist
  constructor
  · intro h
    have hvacant := vacant_of_mem_copiedIds h
    refine ⟨idAt_withIds_of_mem hnodup h (mem_vacantPlaces_iff.mp hvacant).1, ?_⟩
    intro hheld
    obtain ⟨-, -, -, hblank⟩ := offeredId?_eq_some_iff.mp (offeredId?_of_mem_chooseIds h)
    exact notMem_vacantPlaces_of_idAt hheld hblank hvacant
  · rintro ⟨hid, hnew⟩
    by_cases hfilled : place ∈ (source.copiedIds target).map (·.1)
    · obtain ⟨⟨place, copied⟩, hentry, rfl⟩ := List.mem_map.mp hfilled
      have hactive := (mem_vacantPlaces_iff.mp (vacant_of_mem_copiedIds hentry)).1
      have hcopied := idAt_withIds_of_mem hnodup hentry hactive
      obtain rfl := Option.some.inj (hid.symm.trans hcopied)
      exact hentry
    · rw [filled_copyIds.kept place hfilled] at hid
      exact absurd hid hnew

/-- An id that was copied is held by now, without the white space at its ends. -/
theorem trim_mem_heldIds_copyIds (h : (place, id) ∈ source.copiedIds target) :
    Text.trim id ∈ (source.copyIds target).heldIds := by
  obtain ⟨-, -, -, hblank⟩ := offeredId?_eq_some_iff.mp (offeredId?_of_mem_chooseIds h)
  exact mem_heldIds_iff.mpr ⟨place, id, (mem_copiedIds_iff.mp h).1, hblank, rfl⟩

/-! ## Clashes -/

/-- The ids that are copied are new and all different, and all are copied at once. -/
structure FreshCopies (source target : CaseSnapshot) : Prop where
  /-- No place, active or not, held the id before. -/
  new : ∀ place id, (source.copyIds target).idAt place = some id → target.idAt place ≠ some id →
    ∀ other held, target.idAt other = some held → Text.trim id ≠ Text.trim held
  /-- The id comes to no other place. -/
  distinct : ∀ place id other id', place ≠ other →
    (source.copyIds target).idAt place = some id → target.idAt place ≠ some id →
    (source.copyIds target).idAt other = some id' → target.idAt other ≠ some id' →
    Text.trim id ≠ Text.trim id'
  /-- There is nothing left to copy. -/
  settled : source.copiedIds (source.copyIds target) = []

/-- An id with white space at its ends is offered for a vacant place, and without its white space it
is held on the target or offered for another vacant place. -/
def OffersClash (source target : CaseSnapshot) : Prop :=
  ∃ place ∈ target.vacantPlaces, ∃ id, source.offeredId? target place = some id ∧
    Text.trim id ≠ id ∧
    (Text.trim id ∈ target.heldIds ∨ ∃ other ∈ target.vacantPlaces, other ≠ place ∧
      ∃ id', source.offeredId? target other = some id' ∧ Text.trim id' = Text.trim id)

theorem freshCopies_of_not_offersClash (h : ¬ OffersClash source target) :
    FreshCopies source target where
  new := by
    intro place id hid hnew other held hheld hsame
    have hcopied := mem_copiedIds_iff.mpr ⟨hid, hnew⟩
    have hoffered := offeredId?_of_mem_chooseIds hcopied
    have hblank : Text.isBlank held = false := by
      obtain ⟨-, -, -, hblank⟩ := offeredId?_eq_some_iff.mp hoffered
      rw [Bool.eq_false_iff] at hblank ⊢
      rwa [ne_eq, ← Text.trim_eq_empty_iff, ← hsame, Text.trim_eq_empty_iff]
    have htrim : Text.trim id ∈ target.heldIds :=
      mem_heldIds_iff.mpr ⟨other, held, hheld, hblank, hsame.symm⟩
    have hpadded : Text.trim id ≠ id := by
      intro heq
      rw [heq] at htrim
      exact not_mem_heldIds_of_mem_copiedIds hcopied htrim
    exact h ⟨place, vacant_of_mem_copiedIds hcopied, id, hoffered, hpadded, .inl htrim⟩
  distinct := by
    intro place id other id' hne hid hnew hid' hnew' hsame
    have hcopied := mem_copiedIds_iff.mpr ⟨hid, hnew⟩
    have hcopied' := mem_copiedIds_iff.mpr ⟨hid', hnew'⟩
    have hoffered := offeredId?_of_mem_chooseIds hcopied
    have hoffered' := offeredId?_of_mem_chooseIds hcopied'
    by_cases hpadded : Text.trim id = id
    · by_cases hpadded' : Text.trim id' = id'
      · rw [hpadded, hpadded'] at hsame
        subst hsame
        exact hne (place_eq_of_mem_copiedIds hcopied hcopied')
      · exact h ⟨other, vacant_of_mem_copiedIds hcopied', id', hoffered', hpadded', .inr
          ⟨place, vacant_of_mem_copiedIds hcopied, hne, id, hoffered, hsame⟩⟩
    · exact h ⟨place, vacant_of_mem_copiedIds hcopied, id, hoffered, hpadded, .inr
        ⟨other, vacant_of_mem_copiedIds hcopied', hne.symm, id', hoffered', hsame.symm⟩⟩
  settled := by
    apply List.eq_nil_iff_forall_not_mem.mpr
    rintro ⟨place, id⟩ hlate
    obtain ⟨hvacant, hpassed⟩ :=
      filled_copyIds.mem_vacantPlaces_iff.mp (vacant_of_mem_copiedIds hlate)
    have hoffered : source.offeredId? target place = some id :=
      (offeredId?_copyIds source target place).symm.trans (offeredId?_of_mem_chooseIds hlate)
    have hfree := not_mem_heldIds_of_mem_copiedIds hlate
    -- the id was passed over because it had just been copied, and it is not found among the held
    obtain ⟨other, hcopied⟩ := mem_copiedIds_of_offered hvacant hoffered
      (mt filled_copyIds.mem_heldIds hfree)
    have hpadded : Text.trim id ≠ id := by
      intro heq
      have hheld := trim_mem_heldIds_copyIds hcopied
      rw [heq] at hheld
      exact hfree hheld
    have hne : other ≠ place := by
      rintro rfl
      exact hpassed (List.mem_map_of_mem hcopied)
    exact h ⟨place, hvacant, id, hoffered, hpadded, .inr ⟨other, vacant_of_mem_copiedIds hcopied,
      hne, id, offeredId?_of_mem_chooseIds hcopied, rfl⟩⟩

/-- An id that is offered with white space at its ends is copied to one place. If it is offered for
another place as well, it is copied there the next time. -/
theorem exists_late_copy {other : Place} (hpadded : Text.trim id ≠ id)
    (hcopied : (place, id) ∈ source.copiedIds target) (hvacant : other ∈ target.vacantPlaces)
    (hoffered : source.offeredId? target other = some id) (hne : other ≠ place) :
    source.copiedIds (source.copyIds target) ≠ [] := by
  have hpassed : other ∉ (source.copiedIds target).map (·.1) := by
    intro hfilled
    obtain ⟨⟨other, id'⟩, hentry, rfl⟩ := List.mem_map.mp hfilled
    obtain rfl := Option.some.inj (hoffered.symm.trans (offeredId?_of_mem_chooseIds hentry))
    exact hne (place_eq_of_mem_copiedIds hentry hcopied)
  obtain ⟨late, hlate⟩ := mem_copiedIds_of_offered
    (filled_copyIds.mem_vacantPlaces_iff.mpr ⟨hvacant, hpassed⟩)
    ((offeredId?_copyIds source target other).trans hoffered) (mt trim_of_mem_heldIds hpadded)
  exact List.ne_nil_of_mem hlate

theorem FreshCopies.not_offersClash (h : FreshCopies source target) :
    ¬ OffersClash source target := by
  rintro ⟨place, hvacant, id, hoffered, hpadded, hclash⟩
  obtain ⟨copied, hcopied⟩ :=
    mem_copiedIds_of_offered hvacant hoffered (mt trim_of_mem_heldIds hpadded)
  obtain ⟨hid, hnew⟩ := mem_copiedIds_iff.mp hcopied
  have hapart : Text.trim id ∉ target.heldIds := by
    intro hheld
    obtain ⟨holder, held, hheld, -, hsame⟩ := mem_heldIds_iff.mp hheld
    exact h.new copied id hid hnew holder held hheld hsame.symm
  rcases hclash with hheld | ⟨other, hvacant', hne, id', hoffered', hsame⟩
  · exact hapart hheld
  · by_cases hequal : id' = id
    · subst hequal
      by_cases hplace : copied = place
      · subst hplace
        exact exists_late_copy hpadded hcopied hvacant' hoffered' hne h.settled
      · exact exists_late_copy hpadded hcopied hvacant hoffered (Ne.symm hplace) h.settled
    · have hfree' : id' ∉ target.heldIds := by
        intro hheld
        rw [← trim_of_mem_heldIds hheld, hsame] at hheld
        exact hapart hheld
      obtain ⟨copied', hcopied'⟩ := mem_copiedIds_of_offered hvacant' hoffered' hfree'
      obtain ⟨hid', hnew'⟩ := mem_copiedIds_iff.mp hcopied'
      have hplaces : copied ≠ copied' := by
        rintro rfl
        exact hequal (Option.some.inj (hid'.symm.trans hid))
      exact h.distinct copied id copied' id' hplaces hid hnew hid' hnew' hsame.symm

/-- The ids that are copied are new and all different, and all are copied at once, exactly if no
offered id clashes with another one in nothing but the white space at its ends. -/
theorem freshCopies_iff (source target : CaseSnapshot) :
    FreshCopies source target ↔ ¬ OffersClash source target :=
  ⟨FreshCopies.not_offersClash, freshCopies_of_not_offersClash⟩

/-- An appeal with a number for the appellant, and with another one for the representative and for
the joint party, if they have any. -/
def representedCase (number : Option String) : CaseSnapshot where
  caseId := "1"
  benefitCode := "002"
  issueCode := "DD"
  appellant := { id := some "5" }
  representative := some { hasRepresentative := some .yes, id := number }
  jointParty := some { hasJointParty := some .yes, person := { id := number } }

/-- The appellant's number, with a space before it, is copied to the representative, and the next
time it is copied to the joint party. -/
theorem copies_clash :
    let source := representedCase (some " 5")
    let target := representedCase none
    source.copiedIds target = [(.representative, " 5")] ∧
      target.idAt .appellant = some "5" ∧ Text.trim " 5" = Text.trim "5" ∧
      source.copiedIds (source.copyIds target) = [(.jointParty, " 5")] :=
  ⟨rfl, rfl, rfl, rfl⟩

end TribunalListing.CaseSnapshot
