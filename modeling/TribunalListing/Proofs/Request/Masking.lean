-- SUMMARY: Overriding one more field of a hearing leaves all other fields as they were.
import TribunalListing.Proofs.Request.Duration
import TribunalListing.Proofs.Request.Records

/-!
# Overrides field by field

A field that is overridden is not derived, and yet some fields are derived from others: the duration
from the need of an interpreter, the venues from the appellant's channel. So there are two kinds of
fields. As long as the override layer keeps what it says about channel and interpreter, all the
others can be set one by one. Each that is set takes its own value, unless that does not count as
set, and none of the rest is moved by it.
-/

namespace TribunalListing

variable {c : CaseSnapshot} {reference : ReferenceData} {options : DerivationOptions}

/-! ## Setting what is open -/

section

variable {α β : Type} {before after : Option α}

/-- A field is as it was, or it was open. -/
def SetsOpen (before after : Option α) : Prop :=
  before = none ∨ after = before

/-- Setting an open field sets no more than an open field of what is honoured. -/
theorem SetsOpen.map (h : SetsOpen before after) {f : Option α → Option β} (hf : f none = none) :
    SetsOpen (f before) (f after) := by
  rcases h with rfl | rfl
  · exact .inl hf
  · exact .inr rfl

theorem SetsOpen.eq_none (h : SetsOpen before after) (hafter : after = none) : before = none :=
  h.elim id fun hsame => hsame ▸ hafter

/-- A value that can be derived for one field can be derived when the field is set. -/
theorem SetsOpen.unlessSet_eq {derive : Derived β} {derived : Option β} (h : SetsOpen before after)
    (hbefore : unlessSet before derive = .ok derived) :
    unlessSet after derive = .ok (if after.isSome then none else derived) := by
  cases hafter : after with
  | some => rfl
  | none =>
    rw [h.eq_none hafter] at hbefore
    exact hbefore

/-- What a field masks is masked still when the field is set. -/
theorem SetsOpen.ite_ite (h : SetsOpen before after) (derived : Option β) :
    (if after.isSome then none else if before.isSome then none else derived) =
      if after.isSome then none else derived := by
  cases hafter : after with
  | some => rfl
  | none =>
    rw [h.eq_none hafter]
    rfl

/-- What is set comes first, and then what was in force. -/
theorem SetsOpen.or_eq (h : SetsOpen before after) (derived : Option α) :
    after.or (if after.isSome then none else derived) = after.or (before.or derived) := by
  cases hafter : after with
  | some => rfl
  | none =>
    rw [h.eq_none hafter]
    rfl

end

/-- A layer that sets more fields than another one, apart from channel and interpreter of the
appellant, about which the two layers say the same. -/
structure OverrideFields.Extends (o o₀ : OverrideFields) : Prop where
  duration : SetsOpen o₀.duration o.duration
  appellantChannel : o.appellantChannel = o₀.appellantChannel
  appellantInterpreter : o.appellantInterpreter = o₀.appellantInterpreter
  venueIds : SetsOpen o₀.venueIds o.venueIds
  reservedJudge : SetsOpen o₀.reservedJudge o.reservedJudge
  autoList : SetsOpen o₀.autoList o.autoList
  windowStart : SetsOpen o₀.windowStart o.windowStart

theorem OverrideFields.Extends.durationSet {o o₀ : OverrideFields} (ho : o.Extends o₀) :
    SetsOpen (honouredDuration o₀.duration) (honouredDuration o.duration) :=
  ho.duration.map rfl

theorem OverrideFields.Extends.venuesSet {o o₀ : OverrideFields} (ho : o.Extends o₀) :
    SetsOpen (honouredVenues o₀.venueIds) (honouredVenues o.venueIds) :=
  ho.venueIds.map rfl

/-! ## Masked defaults -/

/-- The default layer under a mask, for the values that were derived of the fields whose derivation
can fail. -/
def defaultLayer (c : CaseSnapshot) (mask : OverrideFields) (appellantChannel : Option Channel)
    (duration : Option Minutes) (venueIds : Option (List String)) : OverrideFields where
  duration
  appellantChannel
  appellantInterpreter :=
    if mask.appellantInterpreter.isSome then none
    else some c.appellant.hearingOptions.interpreterNeed
  venueIds
  reservedJudge := none
  autoList := if mask.autoList.isSome then none else some (defaultAutoList c)
  windowStart := if mask.windowStart.isSome then none else defaultWindowStart? c

theorem computeDefaultsMasked_eq_ok_iff {mask defaults : OverrideFields} :
    computeDefaultsMasked c reference options mask = .ok defaults ↔
      ∃ appellantChannel duration venueIds,
        unlessSet mask.appellantChannel (defaultAppellantChannel c options) =
          .ok appellantChannel ∧
        unlessSet (honouredDuration mask.duration)
          (hearingDuration c reference none c.appellantAttends
            (c.interpreterRequired mask.appellantInterpreter)) = .ok duration ∧
        unlessSet (honouredVenues mask.venueIds)
          (venuesForChannel c reference options
            ((mask.appellantChannel.or appellantChannel).getD .paper)) = .ok venueIds ∧
        defaults = defaultLayer c mask appellantChannel duration venueIds := by
  unfold computeDefaultsMasked
  simp only [derived_bind_eq_ok_iff]
  constructor
  · rintro ⟨appellantChannel, hchannel, duration, hduration, venueIds, hvenues, h⟩
    exact ⟨appellantChannel, duration, venueIds, hchannel, hduration, hvenues,
      (Except.ok.inj h).symm⟩
  · rintro ⟨appellantChannel, duration, venueIds, hchannel, hduration, hvenues, rfl⟩
    exact ⟨appellantChannel, hchannel, duration, hduration, venueIds, hvenues, rfl⟩

/-- The default layer that is left when more fields are set. -/
def OverrideFields.masked (defaults mask : OverrideFields) : OverrideFields :=
  { defaults with
    duration := if (honouredDuration mask.duration).isSome then none else defaults.duration
    venueIds := if (honouredVenues mask.venueIds).isSome then none else defaults.venueIds
    autoList := if mask.autoList.isSome then none else defaults.autoList
    windowStart := if mask.windowStart.isSome then none else defaults.windowStart }

/-- Where defaults can be derived under one mask, they can be derived under every mask that sets
more, and they are the same where it leaves fields open. -/
theorem computeDefaultsMasked_of_extends {o o₀ defaults : OverrideFields} (ho : o.Extends o₀)
    (h : computeDefaultsMasked c reference options o₀ = .ok defaults) :
    computeDefaultsMasked c reference options o = .ok (defaults.masked o) := by
  obtain ⟨appellantChannel, duration, venueIds, hchannel, hduration, hvenues, rfl⟩ :=
    computeDefaultsMasked_eq_ok_iff.mp h
  rw [computeDefaultsMasked_eq_ok_iff, ho.appellantChannel, ho.appellantInterpreter]
  refine ⟨appellantChannel, _, _, hchannel, ho.durationSet.unlessSet_eq hduration,
    ho.venuesSet.unlessSet_eq hvenues, ?_⟩
  simp only [OverrideFields.masked, defaultLayer, ho.appellantInterpreter, ho.autoList.ite_ite,
    ho.windowStart.ite_ite]

/-! ## Accessors -/

namespace Cascade

/-- The cascade with another override layer that sets more fields. -/
def extend (k : Cascade) (o : OverrideFields) : Cascade :=
  ⟨k.defaults.masked o, o⟩

variable {k : Cascade} {o : OverrideFields}

/-- The overrides of a case enter its cascade as the mask and as the upper layer only. -/
theorem ofCase_withOverrides :
    ofCase { c with overrides := o } reference options =
      (computeDefaultsMasked c reference options o).map (⟨·, o⟩) := rfl

theorem ofCase_of_extends {o₀ : OverrideFields} (ho : o.Extends o₀)
    (h : ofCase { c with overrides := o₀ } reference options = .ok k) :
    k.overrides = o₀ ∧ ofCase { c with overrides := o } reference options = .ok (k.extend o) := by
  rw [ofCase_withOverrides] at h ⊢
  cases hdefaults : computeDefaultsMasked c reference options o₀ with
  | error e =>
    rw [hdefaults] at h
    cases h
  | ok defaults =>
    rw [hdefaults] at h
    cases h
    rw [computeDefaultsMasked_of_extends ho hdefaults]
    exact ⟨rfl, rfl⟩

variable (ho : o.Extends k.overrides)

include ho

theorem duration_extend :
    (k.extend o).duration = (honouredDuration o.duration).getD k.duration := by
  simp only [duration, extend, OverrideFields.masked, ho.durationSet.or_eq]
  cases honouredDuration o.duration <;> rfl

theorem appellantChannel_extend : (k.extend o).appellantChannel = k.appellantChannel := by
  simp only [appellantChannel, extend, OverrideFields.masked, ho.appellantChannel]

theorem appellantInterpreter_extend :
    (k.extend o).appellantInterpreter = k.appellantInterpreter := by
  simp only [appellantInterpreter, extend, OverrideFields.masked, ho.appellantInterpreter]

theorem venueIds_extend :
    (k.extend o).venueIds = (honouredVenues o.venueIds).getD k.venueIds := by
  simp only [venueIds, extend, OverrideFields.masked, ho.venuesSet.or_eq]
  cases honouredVenues o.venueIds <;> rfl

theorem reservedJudge_extend :
    (k.extend o).reservedJudge = o.reservedJudge.or k.reservedJudge := by
  simp only [reservedJudge, extend, OverrideFields.masked]
  cases hjudge : o.reservedJudge with
  | some => rfl
  | none => rw [ho.reservedJudge.eq_none hjudge]; rfl

theorem windowStart_extend : (k.extend o).windowStart = o.windowStart.or k.windowStart := by
  simp only [windowStart, extend, OverrideFields.masked, ho.windowStart.or_eq]

/-- Automatic listing is the one field that another one enters: the reserved judge. -/
theorem autoList_extend :
    (k.extend o).autoList = o.autoList.getD (k.autoList && o.reservedJudge.isNone) := by
  rw [autoList, reservedJudge_extend ho]
  simp only [autoList, extend, OverrideFields.masked]
  cases hauto : o.autoList with
  | some => rfl
  | none =>
    rw [ho.autoList.eq_none hauto]
    cases o.reservedJudge <;> simp

/-! ## Fields that are not set -/

theorem duration_extend_of_eq (h : o.duration = k.overrides.duration) :
    (k.extend o).duration = k.duration := by
  rw [duration_extend ho, h, duration]
  cases honouredDuration k.overrides.duration <;> rfl

theorem venueIds_extend_of_eq (h : o.venueIds = k.overrides.venueIds) :
    (k.extend o).venueIds = k.venueIds := by
  rw [venueIds_extend ho, h, venueIds]
  cases honouredVenues k.overrides.venueIds <;> rfl

theorem reservedJudge_extend_of_eq (h : o.reservedJudge = k.overrides.reservedJudge) :
    (k.extend o).reservedJudge = k.reservedJudge := by
  rw [reservedJudge_extend ho, h, reservedJudge]
  cases k.overrides.reservedJudge <;> rfl

theorem windowStart_extend_of_eq (h : o.windowStart = k.overrides.windowStart) :
    (k.extend o).windowStart = k.windowStart := by
  rw [windowStart_extend ho, h, windowStart]
  cases k.overrides.windowStart <;> rfl

theorem autoList_extend_of_eq (hauto : o.autoList = k.overrides.autoList)
    (hjudge : o.reservedJudge = k.overrides.reservedJudge) :
    (k.extend o).autoList = k.autoList := by
  rw [autoList_extend ho, hauto, hjudge, autoList, reservedJudge]
  cases k.overrides.autoList with
  | some => rfl
  | none => cases k.overrides.reservedJudge <;> simp

end Cascade

/-! ## Field by field -/

/-- More overrides than before never make the cascade of a case fail, as long as they say the same
about the appellant's channel and interpreter. Those two stay what they were, and so does every
field that is not set, except that a reserved judge may turn automatic listing off. A field that is
set takes the value of the override; a duration below thirty minutes and an empty list of venues
leave even their own field as it was. Over no overrides at all, this is to say that a mask only
leaves defaults out: those that are derived under it are the ones that are derived without it. -/
theorem overrides_mask_by_field :
    (∀ (o₀ o : OverrideFields) (k : Cascade), o.Extends o₀ →
      Cascade.ofCase { c with overrides := o₀ } reference options = .ok k →
      ∃ k', Cascade.ofCase { c with overrides := o } reference options = .ok k' ∧
        (k'.appellantChannel = k.appellantChannel ∧
          k'.appellantInterpreter = k.appellantInterpreter ∧
          k'.interpreterRequired = k.interpreterRequired) ∧
        ((o.duration = o₀.duration → k'.duration = k.duration) ∧
          ∀ minutes, o₀.duration = none → o.duration = some minutes →
            k'.duration = if minutes < 30 then k.duration else minutes) ∧
        ((o.venueIds = o₀.venueIds → k'.venueIds = k.venueIds) ∧
          ∀ venues, o₀.venueIds = none → o.venueIds = some venues →
            k'.venueIds = if venues = [] then k.venueIds else venues) ∧
        ((o.reservedJudge = o₀.reservedJudge → k'.reservedJudge = k.reservedJudge) ∧
          ∀ judge, o₀.reservedJudge = none → o.reservedJudge = some judge →
            k'.reservedJudge = some judge) ∧
        ((o.windowStart = o₀.windowStart → k'.windowStart = k.windowStart) ∧
          ∀ date, o₀.windowStart = none → o.windowStart = some date →
            k'.windowStart = some date) ∧
        ((o.autoList = o₀.autoList → o.reservedJudge = o₀.reservedJudge →
            k'.autoList = k.autoList) ∧
          ∀ listed, o₀.autoList = none → o.autoList = some listed → k'.autoList = listed)) ∧
    ∀ mask defaults, mask.appellantChannel = none → mask.appellantInterpreter = none →
      computeDefaults c reference options = .ok defaults →
      computeDefaultsMasked c reference options mask = .ok (defaults.masked mask) := by
  constructor
  · intro o₀ o k ho h
    obtain ⟨rfl, h'⟩ := Cascade.ofCase_of_extends ho h
    have hinterpreter := Cascade.appellantInterpreter_extend ho
    refine ⟨k.extend o, h', ⟨Cascade.appellantChannel_extend ho, hinterpreter, ?_⟩,
      ⟨Cascade.duration_extend_of_eq ho, ?duration⟩, ⟨Cascade.venueIds_extend_of_eq ho, ?venues⟩,
      ⟨Cascade.reservedJudge_extend_of_eq ho, ?judge⟩,
      ⟨Cascade.windowStart_extend_of_eq ho, ?window⟩, ⟨Cascade.autoList_extend_of_eq ho, ?auto⟩⟩
    · rw [Cascade.interpreterRequired, Cascade.interpreterRequired, hinterpreter]
    case duration =>
      intro minutes _ hset
      rw [Cascade.duration_extend ho, hset]
      rw [honouredDuration_some]
      split <;> rfl
    case venues =>
      intro venues _ hset
      rw [Cascade.venueIds_extend ho, hset]
      cases venues <;> rfl
    case judge =>
      intro judge _ hset
      rw [Cascade.reservedJudge_extend ho, hset]
      rfl
    case window =>
      intro date _ hset
      rw [Cascade.windowStart_extend ho, hset]
      rfl
    case auto =>
      intro listed _ hset
      rw [Cascade.autoList_extend ho, hset]
      rfl
  · intro mask defaults hchannel hinterpreter h
    exact computeDefaultsMasked_of_extends
      ⟨.inl rfl, hchannel, hinterpreter, .inl rfl, .inl rfl, .inl rfl, .inl rfl⟩ h

/-- An appeal that is processed at the one venue there is. -/
def processedCase : CaseSnapshot where
  caseId := "1"
  benefitCode := "002"
  issueCode := "DD"
  processingVenue := some "1001"

/-- A duration of twenty minutes and an empty list of venues are passed over, and the judge that is
set along with them is not. -/
theorem overrides_mask_by_field_unhonoured :
    ∃ k k',
      Cascade.ofCase { processedCase with overrides := { appellantChannel := some .video } }
        plainReference {} = .ok k ∧
      Cascade.ofCase { processedCase with
          overrides := {
            duration := some 20
            appellantChannel := some .video
            venueIds := some []
            reservedJudge := some "7|84" } }
        plainReference {} = .ok k' ∧
      k'.appellantChannel = .video ∧ k'.duration = 30 ∧ k'.venueIds = ["1001"] ∧
      k'.reservedJudge = some "7|84" := by
  obtain ⟨k, h, hchannel, hduration, hvenues⟩ :
      ∃ k, Cascade.ofCase { processedCase with overrides := { appellantChannel := some .video } }
        plainReference {} = .ok k ∧ k.appellantChannel = .video ∧ k.duration = 30 ∧
        k.venueIds = ["1001"] := ⟨_, rfl, rfl, rfl, rfl⟩
  obtain ⟨k', h', ⟨hchannel', -⟩, ⟨-, hduration'⟩, ⟨-, hvenues'⟩, ⟨-, hjudge'⟩, -⟩ :=
    overrides_mask_by_field.1 { appellantChannel := some .video }
      { duration := some 20, appellantChannel := some .video, venueIds := some []
        reservedJudge := some "7|84" } k
      ⟨.inl rfl, rfl, rfl, .inl rfl, .inl rfl, .inl rfl, .inl rfl⟩ h
  refine ⟨k, k', h, h', hchannel'.trans hchannel, ?_, ?_, hjudge' _ rfl rfl⟩
  · rw [hduration' 20 rfl rfl, if_pos (by decide), hduration]
  · rw [hvenues' [] rfl rfl, if_pos rfl, hvenues]

end TribunalListing
