-- SUMMARY: The channel, the attendance and the venues on a request go together.
import TribunalListing.Proofs.Request.Records

/-!
# Who attends, and where

The channel of a case is settled twice. Once it is settled before there are any party records, since
the venues depend on whether the case is decided on the papers, and once it is read off the records
themselves. The first time organisations and the appellant are left out and the appellant's channel
is put in from the cascade. The second time every record is looked at. Both come to the same
channels, in the same order, and so a hearing that somebody attends is never listed at the venues of
a case on the papers.
-/

namespace TribunalListing

variable {c : CaseSnapshot} {reference : ReferenceData} {options : DerivationOptions}
  {version : Option Int64} {cascade : Cascade} {policy : ChannelPolicy}

/-! ## The highest ranked channel -/

namespace Channel

variable {channels : List Channel} {a b x : Channel}

theorem rank_le_rank_higher_left : a.rank ≤ (higher a b).rank := by
  rw [higher]
  split
  next h => exact h
  next => exact Nat.le_refl _

theorem rank_le_rank_higher_right : b.rank ≤ (higher a b).rank := by
  rw [higher]
  split
  next => exact Nat.le_refl _
  next h => exact Nat.le_of_not_le h

/-- The result of a fold is one of the channels, and none of them is ranked higher. -/
theorem foldl_higher (a : Channel) (cs : List Channel) :
    cs.foldl higher a ∈ a :: cs ∧ ∀ x ∈ a :: cs, x.rank ≤ (cs.foldl higher a).rank := by
  induction cs generalizing a with
  | nil =>
    refine ⟨List.mem_cons_self, fun x hx => ?_⟩
    rw [List.mem_singleton.mp hx]
    exact Nat.le_refl _
  | cons b cs ih =>
    obtain ⟨hmem, hle⟩ := ih (higher a b)
    have hhigher : (higher a b).rank ≤ (cs.foldl higher (higher a b)).rank :=
      hle _ List.mem_cons_self
    rw [List.foldl_cons]
    constructor
    · rcases List.mem_cons.mp hmem with hfold | hfold
      · rw [hfold, higher]
        split <;> simp
      · exact List.mem_cons_of_mem _ (List.mem_cons_of_mem _ hfold)
    · intro x hx
      rcases List.mem_cons.mp hx with rfl | hx
      · exact Nat.le_trans rank_le_rank_higher_left hhigher
      · rcases List.mem_cons.mp hx with rfl | hx
        · exact Nat.le_trans rank_le_rank_higher_right hhigher
        · exact hle _ (List.mem_cons_of_mem _ hx)

/-- The channel of a case is one that somebody attends on, unless nobody attends at all. -/
theorem ofCase_mem_or_eq_paper :
    (ofCase channels ∈ channels ∧ (ofCase channels).isAttending = true) ∨
      (ofCase channels = .paper ∧ ∀ x ∈ channels, x.isAttending = false) := by
  unfold ofCase
  cases hattending : channels.filter isAttending with
  | nil =>
    refine .inr ⟨rfl, fun x hx => ?_⟩
    simpa using List.filter_eq_nil_iff.mp hattending x hx
  | cons a cs =>
    have hmem := (foldl_higher a cs).1
    rw [← hattending] at hmem
    exact .inl (List.mem_filter.mp hmem)

/-- No channel is ranked higher than that of the case. -/
theorem rank_le_rank_ofCase (hx : x ∈ channels) : x.rank ≤ (ofCase channels).rank := by
  cases hattends : x.isAttending with
  | false => exact (Nat.le_zero.mp (by simpa [isAttending] using hattends)) ▸ Nat.zero_le _
  | true =>
    have hfilter : x ∈ channels.filter isAttending := List.mem_filter.mpr ⟨hx, hattends⟩
    unfold ofCase
    cases hattending : channels.filter isAttending with
    | nil =>
      rw [hattending] at hfilter
      cases hfilter
    | cons a cs => exact (foldl_higher a cs).2 x (hattending ▸ hfilter)

/-- Which channels there are decides, and not in which order they come. -/
theorem ofCase_eq_ite :
    ofCase channels =
      if .faceToFace ∈ channels then .faceToFace
      else if .video ∈ channels then .video
      else if .telephone ∈ channels then .telephone
      else .paper := by
  have hmem : ofCase channels = .paper ∨ ofCase channels ∈ channels :=
    ofCase_mem_or_eq_paper.elim (fun h => .inr h.1) fun h => .inl h.1
  have hattends : ofCase channels ≠ .notAttending := by
    intro hnot
    rcases ofCase_mem_or_eq_paper with ⟨-, h⟩ | ⟨h, -⟩ <;> rw [hnot] at h <;> cases h
  -- a channel that ranks higher than the one of the case is not there
  have hface : faceToFace ∈ channels → 3 ≤ (ofCase channels).rank := rank_le_rank_ofCase
  have hvideo : video ∈ channels → 2 ≤ (ofCase channels).rank := rank_le_rank_ofCase
  have htelephone : telephone ∈ channels → 1 ≤ (ofCase channels).rank := rank_le_rank_ofCase
  generalize ofCase channels = channel at hmem hattends hface hvideo htelephone
  cases channel <;> simp_all [rank]

theorem ofCase_eq_faceToFace_iff : ofCase channels = .faceToFace ↔ .faceToFace ∈ channels := by
  rw [ofCase_eq_ite]
  split
  next h => simp [h]
  next h =>
    refine ⟨fun hcase => ?_, fun hmem => absurd hmem h⟩
    split at hcase
    · cases hcase
    · split at hcase <;> cases hcase

end Channel

/-- Somebody is expected in person exactly if somebody is on that channel. -/
theorem physicalAttendees_pos_iff {parties : List PartyDetails} :
    0 < physicalAttendees parties ↔ .faceToFace ∈ parties.filterMap (·.channel?) := by
  have hbound : min (parties.filter fun p => p.channel? = some .faceToFace).length 4294967295 <
      UInt32.size := Nat.lt_of_le_of_lt (Nat.min_le_right _ _) (by decide)
  rw [physicalAttendees, UInt32.lt_iff_toNat_lt, UInt32.toNat_ofNat_of_lt' hbound,
    List.mem_filterMap]
  have hpos : 0 < (parties.filter fun p => p.channel? = some .faceToFace).length ↔
      ∃ p ∈ parties, p.channel? = some .faceToFace := by
    simp [List.length_filter_pos_iff]
  rw [← hpos]
  exact ⟨fun h => Nat.lt_of_lt_of_le h (Nat.min_le_left _ _),
    fun h => Nat.lt_min.mpr ⟨h, by decide⟩⟩

/-! ## Channels before and after the records -/

/-- The appellant comes first among the participants, and nobody else is at that place. -/
theorem participants_eq_cons :
    ∃ others, c.participants = c.appellant.participant :: others ∧
      ∀ p ∈ others, p.place ≠ .appellant := by
  have hnodup := CaseSnapshot.nodup_activePlaces (c := c)
  rw [← map_place_participants] at hnodup
  refine ⟨_, rfl, fun p hp hplace => ?_⟩
  exact (List.nodup_cons.mp hnodup).1 (List.mem_map.mpr ⟨p, hp, hplace⟩)

theorem channel?_organisationRecord {p : Participant} :
    (organisationRecord c p).channel? = none := rfl

theorem channel?_individualRecord {p : Participant} {channel : Channel} {language : Option String} :
    (individualRecord c p channel language).channel? = some channel := rfl

/-- The channels on the records of participants other than the appellant are those that are looked
at for the venues. -/
theorem mapM_channel_of_mapM_partyRecord {ps : List Participant} {records : List PartyDetails}
    (hps : ∀ p ∈ ps, p.place ≠ .appellant)
    (h : ps.mapM (partyRecord c reference cascade policy) = .ok records) :
    ((ps.filter fun p => p.place ≠ .appellant && p.partyType = .individual).mapM fun p =>
        (p.options.getD {}).channel policy p.label) = .ok (records.filterMap (·.channel?)) := by
  induction ps generalizing records with
  | nil =>
    cases h
    rfl
  | cons p ps ih =>
    rw [List.mapM_cons] at h
    obtain ⟨record, hrecord, h⟩ := derived_bind_eq_ok_iff.mp h
    obtain ⟨records, hrecords, h⟩ := derived_bind_eq_ok_iff.mp h
    cases h
    have hplace := hps p List.mem_cons_self
    have hothers := ih (fun p hp => hps p (List.mem_cons_of_mem _ hp)) hrecords
    rw [partyRecord, if_neg hplace] at hrecord
    split at hrecord
    next htype =>
      cases hrecord
      rw [List.filter_cons_of_neg (by simp [htype]),
        List.filterMap_cons_none channel?_organisationRecord]
      exact hothers
    next htype =>
      obtain ⟨channel, hchannel, hrecord⟩ := derived_bind_eq_ok_iff.mp hrecord
      obtain ⟨language, -, hrecord⟩ := derived_bind_eq_ok_iff.mp hrecord
      cases hrecord
      have hindividual : p.partyType = .individual := by
        cases hp : p.partyType with
        | individual => rfl
        | organisation => exact absurd hp htype
      rw [List.filter_cons_of_pos (by simp [hplace, hindividual]), List.mapM_cons, hothers,
        List.filterMap_cons_some channel?_individualRecord]
      exact derived_bind_eq_ok_iff.mpr ⟨channel, hchannel, rfl⟩

/-- The records carry the appellant's channel from the cascade, and then those that are looked at
for the venues. -/
theorem filterMap_channel?_partyRecords {records : List PartyDetails}
    (h : partyRecords c reference cascade policy = .ok records) :
    ∃ others, c.otherChannels policy = .ok others ∧
      records.filterMap (·.channel?) = cascade.appellantChannel :: others := by
  obtain ⟨parties, hparties, rfl⟩ := partyRecords_eq_ok h
  obtain ⟨others, hparticipants, hplaces⟩ := participants_eq_cons (c := c)
  rw [hparticipants, List.mapM_cons] at hparties
  obtain ⟨appellant, happellant, hparties⟩ := derived_bind_eq_ok_iff.mp hparties
  obtain ⟨rest, hrest, hparties⟩ := derived_bind_eq_ok_iff.mp hparties
  cases hparties
  obtain ⟨language, -, hrecord⟩ := derived_bind_eq_ok_iff.mp happellant
  cases hrecord
  refine ⟨rest.filterMap (·.channel?), ?_, ?_⟩
  · rw [CaseSnapshot.otherChannels, hparticipants,
      List.filter_cons_of_neg (by simp [Appellant.participant])]
    exact mapM_channel_of_mapM_partyRecord hplaces hrest
  · rw [List.filterMap_append, List.filterMap_cons_some channel?_individualRecord]
    exact List.append_nil _

/-! ## Venues -/

theorem nodup_eraseDups {α : Type} [BEq α] [LawfulBEq α] (xs : List α) : xs.eraseDups.Nodup := by
  -- what is kept of the tail is shorter, but it is not the tail itself
  induction hn : xs.length using Nat.strongRecOn generalizing xs with
  | ind n ih =>
    cases xs with
    | nil => exact List.nodup_nil
    | cons x xs =>
      have hshort : (xs.filter fun y => !y == x).length < n :=
        hn ▸ Nat.lt_succ_of_le (List.length_filter_le _ _)
      rw [List.eraseDups_cons, List.nodup_cons, List.mem_eraseDups, List.mem_filter]
      exact ⟨by simp, ih _ hshort _ rfl⟩

section

variable {venues locations : List String}

theorem nodup_of_locationsOf (h : locationsOf reference venues = .ok locations) :
    locations.Nodup := by
  obtain ⟨_, -, h⟩ := derived_bind_eq_ok_iff.mp h
  cases h
  exact nodup_eraseDups _

/-- Where there are venues, there are locations. -/
theorem ne_nil_of_locationsOf (h : locationsOf reference venues = .ok locations)
    (hvenues : venues ≠ []) : locations ≠ [] := by
  obtain ⟨all, hall, h⟩ := derived_bind_eq_ok_iff.mp h
  cases h
  cases venues with
  | nil => exact absurd rfl hvenues
  | cons venue venues =>
    rw [List.mapM_cons] at hall
    obtain ⟨location, -, hall⟩ := derived_bind_eq_ok_iff.mp hall
    obtain ⟨rest, -, hall⟩ := derived_bind_eq_ok_iff.mp hall
    cases hall
    exact List.ne_nil_of_mem (List.mem_eraseDups.mpr List.mem_cons_self)

theorem ne_nil_of_honouredVenues {override : Option (List String)}
    (h : honouredVenues override = some venues) : venues ≠ [] := by
  rcases override with _ | _ | ⟨venue, rest⟩
  · cases h
  · cases h
  · cases h
    exact List.cons_ne_nil _ _

/-- A default is one venue at least. -/
theorem ne_nil_of_defaultVenues {paperCase adjournmentEnabled : Bool}
    (h : defaultVenues c reference paperCase adjournmentEnabled = .ok venues) : venues ≠ [] := by
  rw [defaultVenues] at h
  split at h
  · rw [regionalVenues] at h
    split at h <;> cases h
    exact List.cons_ne_nil _ _
  · split at h
    next next _ =>
      cases hvenue : adjournedVenue c next with
      | error e =>
        rw [hvenue] at h
        cases h
      | ok venue =>
        rw [hvenue] at h
        cases h
        exact List.cons_ne_nil _ _
    next =>
      obtain ⟨venue, -, h⟩ := derived_bind_eq_ok_iff.mp h
      obtain ⟨location, -, h⟩ := derived_bind_eq_ok_iff.mp h
      split at h <;> cases h <;> exact List.cons_ne_nil _ _

variable {override : Option (List String)} {paperCase adjournmentEnabled : Bool}

/-- The locations of a hearing are those of venues that there are. -/
theorem hearingLocations_eq_ok
    (h : hearingLocations c reference override paperCase adjournmentEnabled = .ok locations) :
    ∃ venues, venues ≠ [] ∧ locationsOf reference venues = .ok locations := by
  rw [hearingLocations] at h
  split at h
  next venues hvenues => exact ⟨venues, ne_nil_of_honouredVenues hvenues, h⟩
  next =>
    obtain ⟨venues, hvenues, h⟩ := derived_bind_eq_ok_iff.mp h
    exact ⟨venues, ne_nil_of_defaultVenues hvenues, h⟩

theorem hearingLocations_withoutIds :
    hearingLocations c.withoutIds reference override paperCase adjournmentEnabled =
      hearingLocations c reference override paperCase adjournmentEnabled := rfl

end

section

variable {others : List Channel}

theorem venuesForChannel_eq (hothers : c.otherChannels options.channelPolicy = .ok others)
    (appellant : Channel) :
    venuesForChannel c reference options appellant =
      defaultVenues c reference (Channel.isPaperCase [Channel.ofCase (appellant :: others)])
        options.adjournmentEnabled := by
  rw [venuesForChannel, hothers]
  rfl

/-- The locations of the venues in the cascade are those of the hearing, for a case that is on the
papers if the channels say so. -/
theorem hearingLocations_of_ofCase (hcascade : Cascade.ofCase c reference options = .ok cascade)
    (hothers : c.otherChannels options.channelPolicy = .ok others) :
    hearingLocations c reference c.overrides.venueIds
        (Channel.isPaperCase [Channel.ofCase (cascade.appellantChannel :: others)])
        options.adjournmentEnabled = locationsOf reference cascade.venueIds := by
  obtain ⟨_, _, venueIds, -, -, hvenues, rfl⟩ := cascade_ofCase_eq_ok hcascade
  rw [hearingLocations, Cascade.venueIds]
  cases hhonoured : honouredVenues c.overrides.venueIds with
  | some venues => rfl
  | none =>
    rw [hhonoured, venuesForChannel_eq hothers] at hvenues
    rw [Cascade.appellantChannel]
    cases hdefault : defaultVenues c reference
        (Channel.isPaperCase [Channel.ofCase
          ((c.overrides.appellantChannel.or _).getD .paper :: others)])
        options.adjournmentEnabled with
    | error e =>
      rw [hdefault] at hvenues
      cases hvenues
    | ok venues =>
      rw [hdefault] at hvenues
      cases hvenues
      rfl

end

/-! ## Channel, attendance and venues of a request -/

/-- A request has exactly one channel, which goes by the channels on the records of individuals and
not by their order: face to face comes before video, video before telephone, and a case that nobody
attends is on the papers. The channel is face to face exactly if somebody is expected in person. The
locations are those that are resolved on their own for that channel; there is one at least, and none
comes twice. The venues that are there by default are those for that channel as well. -/
theorem attendance_of_assembleRequest {a : AssembledRequest}
    (h : assembleRequest c reference options version = .ok a) :
    a.request.hearing.channels =
      [if .faceToFace ∈ a.request.parties.filterMap (·.channel?) then .faceToFace
        else if .video ∈ a.request.parties.filterMap (·.channel?) then .video
        else if .telephone ∈ a.request.parties.filterMap (·.channel?) then .telephone
        else .paper] ∧
    (a.request.hearing.channels = [.faceToFace] ↔ 0 < a.request.hearing.physicalAttendees) ∧
    (∃ locations,
      hearingLocations c reference c.overrides.venueIds
        (Channel.isPaperCase a.request.hearing.channels) options.adjournmentEnabled =
          .ok locations ∧
      a.request.hearing.locations = locations.map (⟨·, .court⟩) ∧
      locations ≠ [] ∧ locations.Nodup) ∧
    ∃ cascade, Cascade.ofCase a.case reference options = .ok cascade ∧
      venuesForChannel a.case reference options cascade.appellantChannel =
        defaultVenues a.case reference (Channel.isPaperCase a.request.hearing.channels)
          options.adjournmentEnabled := by
  obtain ⟨hassign, hrequest⟩ := assembleRequest_eq_ok h
  obtain ⟨cascade, duration, locations, panel, hcascade, -, hparties, hlocations, -, hparts⟩ :=
    requestFor_eq_ok hrequest
  have hrest := (CaseSnapshot.filled_of_assignIdsAbove hassign).rest
  have hchannels : a.request.hearing.channels =
      [Channel.ofCase (a.request.parties.filterMap (·.channel?))] := by
    rw [hparts]
    rfl
  have hattendees : a.request.hearing.physicalAttendees = physicalAttendees a.request.parties := by
    rw [hparts]
    rfl
  have hcarried : a.request.hearing.locations = locations.map (⟨·, .court⟩) := by
    rw [hparts]
    rfl
  obtain ⟨others, hothers, hrecords⟩ := filterMap_channel?_partyRecords hparties
  refine ⟨by rw [hchannels, Channel.ofCase_eq_ite], ?attended, ?locations, cascade, hcascade,
    ?venues⟩
  case attended =>
    rw [hchannels, hattendees, physicalAttendees_pos_iff, List.cons.injEq,
      Channel.ofCase_eq_faceToFace_iff]
    exact and_iff_left rfl
  case locations =>
    have hresolved := hearingLocations_of_ofCase hcascade hothers
    have hoverrides : a.case.overrides = c.overrides :=
      (congrArg CaseSnapshot.overrides hrest :)
    rw [← hrecords, ← hchannels, hlocations, hoverrides, ← hearingLocations_withoutIds, hrest,
      hearingLocations_withoutIds] at hresolved
    obtain ⟨venues, hvenues, hvenueLocations⟩ := hearingLocations_eq_ok hresolved
    exact ⟨locations, hresolved, hcarried, ne_nil_of_locationsOf hvenueLocations hvenues,
      nodup_of_locationsOf hvenueLocations⟩
  case venues =>
    rw [venuesForChannel_eq hothers, hchannels, hrecords]

/-- An appeal whose appellant joins by video, and whose joint party comes in person. -/
def attendedCase : CaseSnapshot where
  caseId := "1"
  benefitCode := "002"
  issueCode := "DD"
  processingVenue := some "1001"
  appellant := {
    hearingOptions := {
      wantsToAttend := some .yes
      wantsVideo := some .yes
      videoEmail := some "a@example.org" } }
  jointParty := some {
    hasJointParty := some .yes
    person := { hearingOptions := some { wantsFaceToFace := some .yes } } }

/-- One party in person makes it a hearing at a venue. -/
theorem attendance_of_assembleRequest_attended :
    ∃ a, assembleRequest attendedCase plainReference {} none = .ok a ∧
      a.request.hearing.channels = [.faceToFace] ∧ 0 < a.request.hearing.physicalAttendees ∧
      a.request.hearing.locations = [⟨"L100", .court⟩] := by
  obtain ⟨a, h, hchannels⟩ : ∃ a, assembleRequest attendedCase plainReference {} none = .ok a ∧
      a.request.parties.filterMap (·.channel?) = [.video, .faceToFace] := ⟨_, rfl, rfl⟩
  obtain ⟨hchannel, hattended, ⟨locations, hresolved, hlocations, -⟩, -⟩ :=
    attendance_of_assembleRequest h
  rw [hchannels, if_pos (by decide)] at hchannel
  rw [hchannel] at hresolved
  cases hresolved
  exact ⟨a, h, hchannel, hattended.mp hchannel, hlocations⟩

end TribunalListing
