-- SUMMARY: A party that takes part remotely can be reached at the address or number that its channel was chosen for.
import TribunalListing.Proofs.Request.Attendance
import TribunalListing.Proofs.Request.Interpreters

/-!
# Reaching parties that are not in the room

A party is put on video or on the telephone only if its answers give an address or a number for
that, and its record lists where it can be reached. The one is decided before there is a record, and
the other is collected into it. Both go by the same options, its own or those of the party that it
acts for, and both take a blank entry for none. So the entry that the channel was chosen for is there,
and it comes first on its list. It need not be there for an appellant whose channel was set by an
override or by an adjournment.
-/

namespace TribunalListing

/-! ## Lists of contacts -/

/-- The entries of a list can be used as they are: none of them is blank or has white space at its
ends, and none comes twice. -/
structure Usable (values : List String) : Prop where
  trimmed : ∀ value ∈ values, Text.trim value = value
  written : ∀ value ∈ values, Text.isBlank value = false
  nodup : values.Nodup

/-- A party that is on a remote channel can be reached there: what the options give for the channel
comes first on the list for it, without white space at its ends. -/
structure IndividualDetails.ReachedBy (details : IndividualDetails)
    (options : Option HearingOptions) : Prop where
  video : details.channel = .video →
    ∃ address rest, options.bind (·.videoEmail) = some address ∧
      details.emails = Text.trim address :: rest
  telephone : details.channel = .telephone →
    ∃ number rest, options.bind (·.telephoneNumber) = some number ∧
      details.phones = Text.trim number :: rest

/-- White space at the ends does not make a text blank, and cutting it off does not, either. -/
theorem Text.isBlank_trim (s : String) : isBlank (trim s) = isBlank s := by
  rw [Bool.eq_iff_iff, ← trim_eq_empty_iff, trim_trim, trim_eq_empty_iff]

section

variable {value : Option String} {values : List (Option String)} {s : String}

theorem mem_contactList_iff :
    s ∈ contactList values ↔
      ∃ value ∈ values, (Text.written value).map Text.trim = some s := by
  rw [contactList, List.mem_eraseDups, List.mem_filterMap]

theorem usable_contactList (values : List (Option String)) : Usable (contactList values) := by
  have hsource : ∀ s ∈ contactList values, ∃ t, Text.isBlank t = false ∧ Text.trim t = s := by
    intro s hs
    obtain ⟨value, -, hvalue⟩ := mem_contactList_iff.mp hs
    obtain ⟨t, ht, htrim⟩ := Option.map_eq_some_iff.mp hvalue
    exact ⟨t, (Text.written_eq_some_iff.mp ht).2, htrim⟩
  refine ⟨?_, ?_, nodup_eraseDups _⟩
  · intro s hs
    obtain ⟨t, -, rfl⟩ := hsource s hs
    exact Text.trim_trim t
  · intro s hs
    obtain ⟨t, ht, rfl⟩ := hsource s hs
    rw [Text.isBlank_trim, ht]

/-- What is written first comes first. -/
theorem contactList_cons (h : Text.written value = some s) :
    ∃ rest, contactList (value :: values) = Text.trim s :: rest := by
  rw [contactList, List.filterMap_cons, h, Option.map_some]
  exact ⟨_, List.eraseDups_cons⟩

end

/-! ## Remote channels -/

section

variable {o : HearingOptions} {policy : ChannelPolicy} {party : String}
  {field : HearingOptions → Option String} {channel : Channel}

/-- The answer that says where a party can be reached on a remote channel. -/
def Channel.contactField? : Channel → Option (HearingOptions → Option String)
  | .video => some (·.videoEmail)
  | .telephone => some (·.telephoneNumber)
  | .faceToFace | .notAttending | .paper => none

/-- Answers put a party on a remote channel only if they say where it can be reached there. -/
theorem HearingOptions.exists_contact_of_channel (hfield : channel.contactField? = some field)
    (h : o.channel policy party = .ok channel) :
    ∃ contact, Text.written (field o) = some contact := by
  unfold HearingOptions.channel at h
  split at h
  next =>
    cases h
    cases hfield
  split at h
  next =>
    cases h
    cases hfield
  split at h
  next hvideo =>
    cases h
    cases hfield
    exact Option.isSome_iff_exists.mp (Bool.and_eq_true_iff.mp hvideo).2
  split at h
  next htelephone =>
    cases h
    cases hfield
    exact Option.isSome_iff_exists.mp (Bool.and_eq_true_iff.mp htelephone).2
  -- what is left is not remote: a party that attends without having said how, and the papers
  split at h
  next =>
    split at h <;> cases h
    cases hfield
  next =>
    cases h
    cases hfield

/-- A party without any answers goes by none, as one that has left all of them out. -/
theorem Channel.contactField_getD (hfield : channel.contactField? = some field)
    (options : Option HearingOptions) : field (options.getD {}) = options.bind field := by
  cases options with
  | some o => rfl
  | none =>
    cases channel with
    | video | telephone =>
      cases hfield
      rfl
    | faceToFace | notAttending | paper => cases hfield

/-- Where the answers put a party on a remote channel, a list that starts with the contact for it
has one. -/
theorem contactList_of_channel {options : Option HearingOptions} (values : List (Option String))
    (hfield : channel.contactField? = some field)
    (h : (options.getD {}).channel policy party = .ok channel) :
    ∃ contact rest, options.bind field = some contact ∧
      contactList (options.bind field :: values) = Text.trim contact :: rest := by
  obtain ⟨contact, hcontact⟩ := HearingOptions.exists_contact_of_channel hfield h
  rw [Channel.contactField_getD hfield] at hcontact
  obtain ⟨rest, hrest⟩ := contactList_cons hcontact
  exact ⟨contact, rest, (Text.written_eq_some_iff.mp hcontact).1, hrest⟩

end

/-! ## Records of individuals -/

variable {c : CaseSnapshot} {reference : ReferenceData} {options : DerivationOptions}
  {version : Option Int64} {cascade : Cascade} {policy : ChannelPolicy}

/-- Where no override sets the appellant's channel, it is the default one. -/
theorem appellantChannel_of_ofCase (h : Cascade.ofCase c reference options = .ok cascade)
    (hoverride : c.overrides.appellantChannel = none) :
    defaultAppellantChannel c options = .ok cascade.appellantChannel := by
  obtain ⟨appellantChannel, _, _, hchannel, -, -, rfl⟩ := cascade_ofCase_eq_ok h
  rw [hoverride] at hchannel
  cases hdefault : defaultAppellantChannel c options with
  | error e =>
    rw [hdefault] at hchannel
    cases hchannel
  | ok channel =>
    rw [hdefault] at hchannel
    cases hchannel
    rw [Cascade.appellantChannel, hoverride]
    rfl

section

variable {p : Participant} {record : PartyDetails} {details : IndividualDetails}

/-- The record of an individual lists the contacts of the participant. -/
theorem lists_of_partyRecord (h : partyRecord c reference cascade policy p = .ok record)
    (hdetails : record.individual = some details) :
    details.emails = p.emails ∧ details.phones = p.phones := by
  rcases partyRecord_eq_ok h with ⟨-, -, rfl⟩ | ⟨channel, language, rfl⟩ <;> cases hdetails
  exact ⟨rfl, rfl⟩

/-- The channel on the record of an individual is that of its answers, unless it is the appellant's
and was set otherwise. -/
theorem channel_of_partyRecord (hcascade : Cascade.ofCase c reference options = .ok cascade)
    (hp : c.participantAt? p.place = some p)
    (h : partyRecord c reference cascade options.channelPolicy p = .ok record)
    (hdetails : record.individual = some details)
    (hanswers : p.place = .appellant → c.overrides.appellantChannel = none ∧
      c.adjournment.channel? options.adjournmentEnabled = none) :
    ∃ party, (p.options.getD {}).channel options.channelPolicy party = .ok details.channel := by
  unfold partyRecord at h
  split at h
  next hplace =>
    obtain ⟨language, -, h⟩ := derived_bind_eq_ok_iff.mp h
    cases h
    cases hdetails
    obtain ⟨hoverride, hadjourned⟩ := hanswers hplace
    have hdefault := appellantChannel_of_ofCase hcascade hoverride
    rw [defaultAppellantChannel, hadjourned] at hdefault
    rw [hplace] at hp
    cases hp
    exact ⟨_, hdefault⟩
  next hplace =>
    split at h
    next =>
      cases h
      cases hdetails
    next =>
      obtain ⟨channel, hchannel, h⟩ := derived_bind_eq_ok_iff.mp h
      obtain ⟨language, -, h⟩ := derived_bind_eq_ok_iff.mp h
      cases h
      cases hdetails
      exact ⟨_, hchannel⟩

/-- A participant whose channel is that of its answers can be reached on it. -/
theorem reachedBy_of_channel {party : String} (hemails : details.emails = p.emails)
    (hphones : details.phones = p.phones)
    (hchannel : (p.options.getD {}).channel policy party = .ok details.channel) :
    details.ReachedBy p.options := by
  constructor
  · intro hvideo
    obtain ⟨address, rest, haddress, hrest⟩ :=
      contactList_of_channel _ (congrArg Channel.contactField? hvideo) hchannel
    exact ⟨address, rest, haddress, hemails.trans hrest⟩
  · intro htelephone
    obtain ⟨number, rest, hnumber, hrest⟩ :=
      contactList_of_channel _ (congrArg Channel.contactField? htelephone) hchannel
    exact ⟨number, rest, hnumber, hphones.trans hrest⟩

end

/-! ## Requests -/

/-- The record of an individual on a request lists contacts that can be used as they are. If the
party is on video, the address for it that is among the options of the party, or of the one that it
acts for, comes first among the addresses; and if it is on the telephone, the number for it comes
first among the numbers. Of the appellant this is true as long as its channel was set neither by an
override nor by an adjournment. -/
theorem contacts_of_assembleRequest {a : AssembledRequest}
    (h : assembleRequest c reference options version = .ok a) {i : Nat} {record : PartyDetails}
    {details : IndividualDetails} (hrecord : a.request.parties[i]? = some record)
    (hdetails : record.individual = some details) :
    Usable details.emails ∧ Usable details.phones ∧
      ∃ place, c.activePlaces[i]? = some place ∧ record.partyRole = place.role ∧
        ((place = .appellant → c.overrides.appellantChannel = none ∧
            c.adjournment.channel? options.adjournmentEnabled = none) →
          details.ReachedBy (c.effectiveOptions? place)) := by
  obtain ⟨hassign, hrequest⟩ := assembleRequest_eq_ok h
  obtain ⟨cascade, _, _, _, hcascade, -, hparties, -⟩ := requestFor_eq_ok hrequest
  have hrest := (CaseSnapshot.filled_of_assignIdsAbove hassign).rest
  have hoverrides : a.case.overrides = c.overrides := (congrArg CaseSnapshot.overrides hrest :)
  have hadjournment : a.case.adjournment = c.adjournment :=
    (congrArg CaseSnapshot.adjournment hrest :)
  obtain ⟨p, hp, hok⟩ := exists_participant_of_individual hparties hrecord hdetails
  obtain ⟨hplace, hat⟩ := getElem?_participants_iff.mp hp
  obtain ⟨hemails, hphones⟩ := lists_of_partyRecord hok hdetails
  refine ⟨hemails ▸ usable_contactList _, hphones ▸ usable_contactList _, p.place, ?_, ?_, ?_⟩
  · rw [← CaseSnapshot.activePlaces_eq_of_withoutIds hrest, hplace]
  · exact congrArg (·.1) (parts_of_partyRecord hok)
  · intro hanswers
    rw [← hoverrides, ← hadjournment] at hanswers
    obtain ⟨party, hchannel⟩ := channel_of_partyRecord hcascade hat hok hdetails hanswers
    rw [← effectiveOptions?_of_withoutIds hrest hat, ← options_of_participantAt? hat]
    exact reachedBy_of_channel hemails hphones hchannel

/-- An appeal with an other party that wants to join by video, and with its representative, who has
not said anything about the hearing and has the same address. -/
def remoteCase : CaseSnapshot where
  caseId := "1"
  benefitCode := "002"
  issueCode := "DD"
  otherParties := [{
    hearingOptions := some {
      wantsVideo := some .yes
      videoEmail := some " jan@example.org " }
    representative := some {
      hasRepresentative := some .yes
      name := some { firstName := "Jan", lastName := "Nowak" }
      contact := { email := some "jan@example.org", phone := some " " } } }]
  overrides := { venueIds := some ["1001"] }

/-- The representative is put on video with the other party, and can be reached at the address that
the other party gave. -/
theorem contacts_of_assembleRequest_remote :
    ∃ (a : AssembledRequest) (record : PartyDetails) (details : IndividualDetails),
      assembleRequest remoteCase plainReference {} none = .ok a ∧
      a.request.parties[2]? = some record ∧ record.individual = some details ∧
      details.channel = .video ∧ Usable details.emails ∧
      details.emails.head? = some "jan@example.org" := by
  obtain ⟨a, record, details, h, hrecord, hdetails, hvideo⟩ :
      ∃ a record details, assembleRequest remoteCase plainReference {} none = .ok a ∧
        a.request.parties[2]? = some record ∧ record.individual = some details ∧
        details.channel = .video := ⟨_, _, _, rfl, rfl, rfl, rfl⟩
  obtain ⟨husable, -, place, hplace, -, hreached⟩ :=
    contacts_of_assembleRequest h hrecord hdetails
  cases hplace
  obtain ⟨address, rest, haddress, hemails⟩ := (hreached nofun).video hvideo
  cases haddress
  refine ⟨a, record, details, h, hrecord, hdetails, hvideo, husable, ?_⟩
  rw [hemails]
  rfl

end TribunalListing
