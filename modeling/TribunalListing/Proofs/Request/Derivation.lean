-- SUMMARY: Derivations that succeed, taken apart into the steps that they were made of.
import TribunalListing.Request.Assembly

/-!
# Derivations that succeed

A derivation ends with its first failure. So one that succeeds has succeeded at every step, and each
of its parts can be looked at by itself: `requestFor_eq_ok` for the request of a case whose parties
have ids, and `assembleRequest_eq_ok` for the request of any case.
-/

namespace TribunalListing

/-! ## Steps and lists of steps -/

section

variable {α β γ : Type}

theorem derived_bind_eq_ok_iff {x : Derived α} {f : α → Derived β} {b : β} :
    (x >>= f) = .ok b ↔ ∃ a, x = .ok a ∧ f a = .ok b := by
  cases x with
  | ok a =>
    constructor
    · exact fun h => ⟨a, rfl, h⟩
    · rintro ⟨a', ha, h⟩
      cases ha
      exact h
  | error e =>
    constructor
    · intro h
      cases h
    · rintro ⟨a, ha, h⟩
      cases ha

/-- A list of derivations succeeds with what each of them gives. -/
theorem map_eq_map_ok_of_mapM_eq_ok {f : α → Derived β} {xs : List α} {ys : List β}
    (h : xs.mapM f = .ok ys) : xs.map f = ys.map .ok := by
  induction xs generalizing ys with
  | nil =>
    cases h
    rfl
  | cons x xs ih =>
    rw [List.mapM_cons] at h
    obtain ⟨y, hy, h⟩ := derived_bind_eq_ok_iff.mp h
    obtain ⟨ys, hys, h⟩ := derived_bind_eq_ok_iff.mp h
    cases h
    rw [List.map_cons, List.map_cons, hy, ih hys]

/-- What a list of derivations gives is what one of them gives. -/
theorem mem_iff_of_mapM_eq_ok {f : α → Derived β} {xs : List α} {ys : List β} {y : β}
    (h : xs.mapM f = .ok ys) : y ∈ ys ↔ ∃ x ∈ xs, f x = .ok y := by
  have hmap := map_eq_map_ok_of_mapM_eq_ok h
  constructor
  · intro hy
    have hmem : Except.ok y ∈ xs.map f := hmap ▸ List.mem_map_of_mem hy
    exact List.mem_map.mp hmem
  · rintro ⟨x, hx, hfx⟩
    have hmem : Except.ok y ∈ ys.map (Except.ok : β → Derived β) :=
      hmap ▸ hfx ▸ List.mem_map_of_mem hx
    obtain ⟨y', hy', heq⟩ := List.mem_map.mp hmem
    cases heq
    exact hy'

/-- What each derivation keeps of its input, a list of derivations keeps of the list. -/
theorem map_eq_of_mapM_eq_ok {f : α → Derived β} {g : α → γ} {g' : β → γ} {xs : List α}
    {ys : List β} (h : xs.mapM f = .ok ys) (hf : ∀ x ∈ xs, ∀ y, f x = .ok y → g' y = g x) :
    ys.map g' = xs.map g := by
  induction xs generalizing ys with
  | nil =>
    cases h
    rfl
  | cons x xs ih =>
    rw [List.mapM_cons] at h
    obtain ⟨y, hy, h⟩ := derived_bind_eq_ok_iff.mp h
    obtain ⟨ys, hys, h⟩ := derived_bind_eq_ok_iff.mp h
    cases h
    rw [List.map_cons, List.map_cons, hf x List.mem_cons_self y hy,
      ih hys fun x hx => hf x (List.mem_cons_of_mem _ hx)]

end

variable {c : CaseSnapshot} {reference : ReferenceData} {options : DerivationOptions}
  {version : Option Int64}

/-! ## The cascade -/

/-- The cascade of a case: its overrides, on top of the defaults of the fields that they do not
set. -/
theorem cascade_ofCase_eq_ok {cascade : Cascade}
    (h : Cascade.ofCase c reference options = .ok cascade) :
    ∃ appellantChannel duration venueIds,
      unlessSet c.overrides.appellantChannel (defaultAppellantChannel c options) =
        .ok appellantChannel ∧
      unlessSet (honouredDuration c.overrides.duration)
        (hearingDuration c reference none c.appellantAttends
          (c.interpreterRequired c.overrides.appellantInterpreter)) = .ok duration ∧
      unlessSet (honouredVenues c.overrides.venueIds)
        (venuesForChannel c reference options
          ((c.overrides.appellantChannel.or appellantChannel).getD .paper)) = .ok venueIds ∧
      cascade = {
        defaults := {
          duration
          appellantChannel
          appellantInterpreter :=
            if c.overrides.appellantInterpreter.isSome then none
            else some c.appellant.hearingOptions.interpreterNeed
          venueIds
          reservedJudge := none
          autoList := if c.overrides.autoList.isSome then none else some (defaultAutoList c)
          windowStart := if c.overrides.windowStart.isSome then none else defaultWindowStart? c }
        overrides := c.overrides } := by
  obtain ⟨defaults, hdefaults, h⟩ := derived_bind_eq_ok_iff.mp h
  cases h
  obtain ⟨appellantChannel, hchannel, h⟩ := derived_bind_eq_ok_iff.mp hdefaults
  obtain ⟨duration, hduration, h⟩ := derived_bind_eq_ok_iff.mp h
  obtain ⟨venueIds, hvenues, h⟩ := derived_bind_eq_ok_iff.mp h
  cases h
  exact ⟨appellantChannel, duration, venueIds, hchannel, hduration, hvenues, rfl⟩

/-! ## The request -/

/-- The request of a case whose parties have ids is put together from parts that were all
derived. -/
theorem requestFor_eq_ok {request : HearingRequest}
    (h : requestFor c reference options version = .ok request) :
    ∃ cascade duration locations panel,
      Cascade.ofCase c reference options = .ok cascade ∧
      checkDuration cascade.duration (durationSource cascade) = .ok duration ∧
      partyRecords c reference cascade options.channelPolicy = .ok request.parties ∧
      locationsOf reference cascade.venueIds = .ok locations ∧
      requiredPanel c reference cascade.interpreterRequired cascade.reservedJudge
        options.adjournmentEnabled = .ok panel ∧
      request = {
        request := ⟨version⟩
        hearing := hearingDetails c options cascade duration request.parties locations panel
        case := caseDetails c reference options cascade
        parties := request.parties } := by
  obtain ⟨cascade, hcascade, h⟩ := derived_bind_eq_ok_iff.mp h
  obtain ⟨duration, hduration, h⟩ := derived_bind_eq_ok_iff.mp h
  obtain ⟨parties, hparties, h⟩ := derived_bind_eq_ok_iff.mp h
  obtain ⟨locations, hlocations, h⟩ := derived_bind_eq_ok_iff.mp h
  obtain ⟨panel, hpanel, h⟩ := derived_bind_eq_ok_iff.mp h
  cases h
  exact ⟨cascade, duration, locations, panel, hcascade, hduration, hparties, hlocations, hpanel,
    rfl⟩

/-- A request that was assembled was derived from the case with ids assigned. -/
theorem assembleRequest_eq_ok {a : AssembledRequest}
    (h : assembleRequest c reference options version = .ok a) :
    c.assignIds = .ok (a.case, a.assignedIds) ∧
      requestFor a.case reference options version = .ok a.request := by
  obtain ⟨⟨numbered, ids⟩, hassign, h⟩ := derived_bind_eq_ok_iff.mp h
  obtain ⟨request, hrequest, h⟩ := derived_bind_eq_ok_iff.mp h
  cases h
  exact ⟨hassign, hrequest⟩

end TribunalListing
