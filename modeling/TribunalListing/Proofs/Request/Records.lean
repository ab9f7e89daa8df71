-- SUMMARY: The request has one record for each party, in party order, and every link leads to a record.
import TribunalListing.Proofs.Case.Identity
import TribunalListing.Proofs.Request.Derivation
import TribunalListing.Reference.Tables

/-!
# Party records and their links

Parties are visited twice on the way to a request: once to give ids to their places, and once to
make records of them. Each visit is a walk over the case from party to party, and both come by the
same places. So the records on the request stand in the order of the active places, each with the id
at its place, and the respondent's record comes last.
Ids are there before any record is made. So the link of a party always finds the id of the party
that it is linked to, and that is the id on the record of that party.
-/

namespace TribunalListing

variable {c : CaseSnapshot} {reference : ReferenceData} {options : DerivationOptions}
  {version : Option Int64} {cascade : Cascade} {policy : ChannelPolicy}

/-! ## Participants at places -/

/-- There is a participant at each active place, with the id that is recorded there. -/
theorem map_place_id_participantAt? (place : Place) :
    (c.participantAt? place).map (fun p => (p.place, p.id)) =
      bif c.isActive place then some (place, c.idAt place) else none := by
  cases place with
  | appellant => rfl
  | appellantAppointee =>
    simp only [CaseSnapshot.participantAt?, CaseSnapshot.isActive, CaseSnapshot.idAt,
      Appellant.actingAppointee]
    split
    next => cases c.appellant.appointee <;> rfl
    next => rfl
  | representative =>
    simp only [CaseSnapshot.participantAt?, CaseSnapshot.isActive, CaseSnapshot.idAt,
      CaseSnapshot.presentRepresentative]
    cases c.representative with
    | none => rfl
    | some r => cases hr : r.isPresent <;> rw [Option.filter_some, hr] <;> rfl
  | jointParty =>
    simp only [CaseSnapshot.participantAt?, CaseSnapshot.isActive, CaseSnapshot.idAt,
      CaseSnapshot.presentJointParty]
    cases c.jointParty with
    | none => rfl
    | some j => cases hj : j.isPresent <;> rw [Option.filter_some, hj] <;> rfl
  | otherParty index =>
    simp only [CaseSnapshot.participantAt?, CaseSnapshot.isActive, CaseSnapshot.idAt]
    cases c.otherParties[index]? <;> rfl
  | otherPartyAppointee index =>
    simp only [CaseSnapshot.participantAt?, CaseSnapshot.isActive, CaseSnapshot.idAt]
    cases c.otherParties[index]? with
    | none => rfl
    | some p =>
      simp only [Option.bind_some, OtherParty.actingAppointee]
      split
      next => cases p.appointee <;> rfl
      next => rfl
  | otherPartyRepresentative index =>
    simp only [CaseSnapshot.participantAt?, CaseSnapshot.isActive, CaseSnapshot.idAt]
    cases c.otherParties[index]? with
    | none => rfl
    | some p =>
      simp only [Option.bind_some, OtherParty.presentRepresentative]
      cases p.representative with
      | none => rfl
      | some r => cases hr : r.isPresent <;> rw [Option.filter_some, hr] <;> rfl

/-- A participant is at an active place, namely the one it was looked up at. -/
theorem place_of_participantAt? {place : Place} {p : Participant}
    (hp : c.participantAt? place = some p) : p.place = place ∧ c.isActive place = true := by
  have hpair := map_place_id_participantAt? (c := c) place
  rw [hp] at hpair
  cases hactive : c.isActive place with
  | false =>
    rw [hactive] at hpair
    cases hpair
  | true =>
    rw [hactive] at hpair
    exact ⟨congrArg Prod.fst (Option.some.inj hpair), rfl⟩

/-- The participants stand in the order of the active places. -/
theorem map_place_id_participants :
    c.participants.map (fun p => (p.place, p.id)) =
      c.activePlaces.map fun place => (place, c.idAt place) := by
  unfold CaseSnapshot.participants CaseSnapshot.activePlaces
  induction c.places with
  | nil => rfl
  | cons place places ih =>
    have hplace := map_place_id_participantAt? (c := c) place
    rw [List.filterMap_cons, List.filter_cons]
    cases hactive : c.isActive place with
    | false =>
      rw [hactive, cond_false, Option.map_eq_none_iff] at hplace
      rw [hplace, if_neg (by decide), ih]
    | true =>
      rw [hactive, cond_true] at hplace
      obtain ⟨p, hp, hid⟩ := Option.map_eq_some_iff.mp hplace
      rw [hp, if_pos rfl, List.map_cons, List.map_cons, hid, ih]

theorem map_place_participants : c.participants.map (·.place) = c.activePlaces := by
  have hpairs := congrArg (List.map Prod.fst) (map_place_id_participants (c := c))
  simpa only [List.map_map, Function.comp_def, List.map_id'] using hpairs

/-- The participants in order: the appellant, the acting appointee, the present representative, the
present joint party, and then, one after the other, each other party with its acting appointee and
its present representative. Those who act for somebody take on that party's hearing options, where
they have none of their own. -/
theorem participants_eq :
    c.participants =
      c.appellant.participant ::
        (c.appellant.actingAppointee.toList.map
          (·.participant .appellantAppointee (some c.appellant.hearingOptions))) ++
        (c.presentRepresentative.toList.map
          (·.participant .representative (some c.appellant.hearingOptions))) ++
        (c.presentJointParty.toList.map
          (·.person.participant .jointParty (some c.appellant.hearingOptions))) ++
        c.otherParties.zipIdx.flatMap fun (p, index) =>
          p.participant index ::
            (p.actingAppointee.toList.map
              (·.participant (.otherPartyAppointee index) p.hearingOptions)) ++
            (p.presentRepresentative.toList.map
              (·.participant (.otherPartyRepresentative index) p.hearingOptions)) := by
  rw [CaseSnapshot.participants, CaseSnapshot.filterMap_places]
  refine congrArg₂ (· ++ ·) ?_ (CaseSnapshot.flatMap_otherParties_congr fun p index hp => ?_)
  · simp only [List.filterMap_cons, List.filterMap_nil, CaseSnapshot.participantAt?]
    cases c.appellant.actingAppointee <;> cases c.presentRepresentative <;>
      cases c.presentJointParty <;> rfl
  · simp only [otherPlaces, List.filterMap_cons, List.filterMap_nil, CaseSnapshot.participantAt?,
      hp, Option.map_some, Option.bind_some]
    cases p.actingAppointee <;> cases p.presentRepresentative <;> rfl

/-! ## Records of participants -/

/-- The links of a record to other parties, whether it is of an individual or of an organisation. -/
def PartyDetails.links (record : PartyDetails) : List RelatedParty :=
  record.individual.elim [] (·.relatedParties) ++ record.organisation.elim [] (·.relatedParties)

theorem links_individualRecord {p : Participant} {channel : Channel} {language : Option String} :
    (individualRecord c p channel language).links = p.relatedParties c :=
  List.append_nil _

theorem links_organisationRecord {p : Participant} :
    (organisationRecord c p).links = p.relatedParties c := rfl

/-- A participant's record is one of an individual or one of an organisation. -/
theorem partyRecord_eq_ok {p : Participant} {record : PartyDetails}
    (h : partyRecord c reference cascade policy p = .ok record) :
    (p.place ≠ .appellant ∧ p.partyType = .organisation ∧ record = organisationRecord c p) ∨
      ∃ channel language, record = individualRecord c p channel language := by
  unfold partyRecord at h
  split at h
  · obtain ⟨language, -, h⟩ := derived_bind_eq_ok_iff.mp h
    cases h
    exact .inr ⟨_, _, rfl⟩
  · split at h
    next hplace htype =>
      cases h
      exact .inl ⟨hplace, htype, rfl⟩
    next =>
      obtain ⟨channel, -, h⟩ := derived_bind_eq_ok_iff.mp h
      obtain ⟨language, -, h⟩ := derived_bind_eq_ok_iff.mp h
      cases h
      exact .inr ⟨_, _, rfl⟩

/-- What a record keeps of its participant: its role, its id and its links. -/
theorem parts_of_partyRecord {p : Participant} {record : PartyDetails}
    (h : partyRecord c reference cascade policy p = .ok record) :
    (record.partyRole, record.partyId, record.links) =
      (p.role, p.id.getD "", p.relatedParties c) := by
  rcases partyRecord_eq_ok h with ⟨-, -, rfl⟩ | ⟨channel, language, rfl⟩
  · rw [links_organisationRecord]
    rfl
  · rw [links_individualRecord]
    rfl

/-! ## Records at places -/

section

variable {records : List PartyDetails}

/-- The records are those of the participants, and the respondent's at the end. -/
theorem partyRecords_eq_ok (h : partyRecords c reference cascade policy = .ok records) :
    ∃ parties, c.participants.mapM (partyRecord c reference cascade policy) = .ok parties ∧
      records = parties ++ [c.respondent.record] := by
  obtain ⟨parties, hparties, h⟩ := derived_bind_eq_ok_iff.mp h
  cases h
  exact ⟨parties, hparties, rfl⟩

/-- The ids on the records are those at the active places, and the respondent's. -/
theorem map_partyId_partyRecords (h : partyRecords c reference cascade policy = .ok records) :
    records.map (·.partyId) =
      c.activePlaces.map (fun place => (c.idAt place).getD "") ++ [c.respondent.partyId] := by
  obtain ⟨parties, hparties, rfl⟩ := partyRecords_eq_ok h
  have hids : parties.map (·.partyId) = c.participants.map fun p => p.id.getD "" :=
    map_eq_of_mapM_eq_ok hparties fun _ _ _ hrecord =>
      congrArg (·.2.1) (parts_of_partyRecord hrecord)
  have hplaces : (c.participants.map fun p => (p.place, p.id)).map (·.2.getD "") =
      (c.activePlaces.map fun place => (place, c.idAt place)).map (·.2.getD "") := by
    rw [map_place_id_participants]
  rw [List.map_map, List.map_map] at hplaces
  rw [List.map_append, hids]
  exact congrArg (· ++ [c.respondent.partyId]) hplaces

/-- The respondent's record comes after those of all parties. -/
theorem getElem?_partyRecords_respondent
    (h : partyRecords c reference cascade policy = .ok records) :
    records.length = c.activePlaces.length + 1 ∧
      records[c.activePlaces.length]? = some c.respondent.record := by
  have hlength := congrArg List.length (map_partyId_partyRecords h)
  simp only [List.length_map, List.length_append, List.length_singleton] at hlength
  refine ⟨hlength, ?_⟩
  obtain ⟨parties, -, rfl⟩ := partyRecords_eq_ok h
  have hparties : parties.length = c.activePlaces.length := by simpa using hlength
  rw [← hparties, List.getElem?_append_right (Nat.le_refl _), Nat.sub_self]
  rfl

/-- The record of the party at an active place stands where the place stands. -/
theorem getElem?_partyRecords (h : partyRecords c reference cascade policy = .ok records) {i : Nat}
    {place : Place} (hplace : c.activePlaces[i]? = some place) :
    ∃ (p : Participant) (record : PartyDetails),
      p.place = place ∧ records[i]? = some record ∧
        record.partyRole = place.role ∧ record.partyId = (c.idAt place).getD "" ∧
        record.links = p.relatedParties c := by
  obtain ⟨parties, hparties, rfl⟩ := partyRecords_eq_ok h
  have hparticipant : (c.participants.map fun p => (p.place, p.id))[i]? =
      some (place, c.idAt place) := by
    rw [map_place_id_participants, List.getElem?_map, hplace, Option.map_some]
  rw [List.getElem?_map] at hparticipant
  obtain ⟨p, hp, hpair⟩ := Option.map_eq_some_iff.mp hparticipant
  obtain ⟨rfl, hid⟩ := Prod.mk.inj hpair
  have hrecord : (parties.map fun r => (r.partyRole, r.partyId, r.links))[i]? =
      some (p.role, p.id.getD "", p.relatedParties c) := by
    rw [map_eq_of_mapM_eq_ok hparties fun _ _ _ => parts_of_partyRecord, List.getElem?_map, hp,
      Option.map_some]
  rw [List.getElem?_map] at hrecord
  obtain ⟨record, hrecord, hparts⟩ := Option.map_eq_some_iff.mp hrecord
  obtain ⟨hrole, hparts⟩ := Prod.mk.inj hparts
  obtain ⟨hpartyId, hlinks⟩ := Prod.mk.inj hparts
  refine ⟨p, record, rfl, ?_, hrole, ?_, hlinks⟩
  · rw [List.getElem?_append_left (List.getElem?_eq_some_iff.mp hrecord).1, hrecord]
  · rw [hpartyId, hid]

end

/-! ## Links -/

/-- The party at the first place is linked to the party at the second one, under a code. -/
inductive Linked : Place → Place → String → Prop where
  | appointee : Linked .appellantAppointee .appellant "APPOINTEE"
  | representative : Linked .representative .appellant "REPRESENTATIVE"
  | jointParty : Linked .jointParty .appellant "JOINT_PARTY"
  | otherParty (i : Nat) : Linked (.otherParty i) .appellant "OTHER_PARTY"
  | otherPartyAppointee (i : Nat) : Linked (.otherPartyAppointee i) (.otherParty i) "APPOINTEE"
  | otherPartyRepresentative (i : Nat) :
      Linked (.otherPartyRepresentative i) (.otherParty i) "REPRESENTATIVE"

/-- Only the appellant is not linked to anybody. -/
theorem eq_appellant_or_linked (place : Place) :
    place = .appellant ∨ ∃ owner code, Linked place owner code := by
  cases place with
  | appellant => exact .inl rfl
  | appellantAppointee => exact .inr ⟨_, _, .appointee⟩
  | representative => exact .inr ⟨_, _, .representative⟩
  | jointParty => exact .inr ⟨_, _, .jointParty⟩
  | otherParty i => exact .inr ⟨_, _, .otherParty i⟩
  | otherPartyAppointee i => exact .inr ⟨_, _, .otherPartyAppointee i⟩
  | otherPartyRepresentative i => exact .inr ⟨_, _, .otherPartyRepresentative i⟩

/-- A party that is present is linked to one that is present. -/
theorem Linked.isActive {place owner : Place} {code : String} (h : Linked place owner code)
    (hactive : c.isActive place = true) : c.isActive owner = true := by
  cases h with
  | appointee | representative | jointParty | otherParty i => rfl
  | otherPartyAppointee i | otherPartyRepresentative i =>
    exact Option.isSome_iff_exists.mpr (CaseSnapshot.exists_otherParty_of_isActive rfl hactive)

theorem Linked.relatedParties_eq {p : Participant} {owner : Place} {code id : String}
    (h : Linked p.place owner code) (hid : c.idAt owner = some id) :
    p.relatedParties c = [⟨id, code⟩] := by
  generalize hplace : p.place = place at h
  unfold Participant.relatedParties Participant.role
  rw [hplace]
  cases h <;> simp only [Place.actsFor?, Option.bind_some, hid] <;> rfl

theorem relatedParties_appellant {p : Participant} (h : p.place = .appellant) :
    p.relatedParties c = [] := by
  unfold Participant.relatedParties
  rw [h]
  rfl

/-- The record of the party at an active place has the id that was put there. -/
theorem getElem?_parties {a : AssembledRequest}
    (h : assembleRequest c reference options version = .ok a) {i : Nat} {place : Place}
    (hplace : a.case.activePlaces[i]? = some place) :
    ∃ (p : Participant) (record : PartyDetails),
      p.place = place ∧ a.request.parties[i]? = some record ∧ record.partyRole = place.role ∧
        a.case.idAt place = some record.partyId ∧ Text.isBlank record.partyId = false ∧
        record.links = p.relatedParties a.case := by
  obtain ⟨hassign, hrequest⟩ := assembleRequest_eq_ok h
  obtain ⟨cascade, _, _, _, -, -, hparties, -⟩ := requestFor_eq_ok hrequest
  have hrest := (CaseSnapshot.filled_of_assignIdsAbove hassign).rest
  have hactive : c.isActive place = true := by
    rw [← CaseSnapshot.isActive_eq_of_withoutIds hrest]
    exact CaseSnapshot.mem_activePlaces_iff.mp (List.mem_of_getElem? hplace)
  obtain ⟨id, hid, hblank⟩ := CaseSnapshot.exists_id_of_assignIdsAbove hassign hactive
  obtain ⟨p, record, hp, hrecord, hrole, hpartyId, hlinks⟩ := getElem?_partyRecords hparties hplace
  rw [hid, Option.getD_some] at hpartyId
  exact ⟨p, record, hp, hrecord, hrole, hpartyId ▸ hid, hpartyId ▸ hblank, hlinks⟩

/-- A request has one record for each party of the case, in the order of their places, and the
respondent's record after them. The record of a party has its role and the id that was put at its
place, which is not blank. The appellant's record has no links. The record of any other party has
one, to the id on the record of the party that it is linked to, which is on the request as well. -/
theorem parties_of_assembleRequest {a : AssembledRequest}
    (h : assembleRequest c reference options version = .ok a) :
    a.request.parties.length = c.activePlaces.length + 1 ∧
    (∃ last : PartyDetails, a.request.parties[c.activePlaces.length]? = some last ∧
      last.partyRole = .respondent ∧ last.partyId = c.respondent.partyId ∧ last.links = []) ∧
    ∀ (i : Nat) (place : Place), c.activePlaces[i]? = some place →
      ∃ record : PartyDetails, a.request.parties[i]? = some record ∧
        record.partyRole = place.role ∧ a.case.idAt place = some record.partyId ∧
        Text.isBlank record.partyId = false ∧
        ((place = .appellant ∧ record.links = []) ∨
          ∃ (owner : Place) (code : String) (j : Nat) (ownerRecord : PartyDetails),
            Linked place owner code ∧ c.activePlaces[j]? = some owner ∧
            a.request.parties[j]? = some ownerRecord ∧ ownerRecord.partyRole = owner.role ∧
            record.links = [⟨ownerRecord.partyId, code⟩]) := by
  obtain ⟨hassign, hrequest⟩ := assembleRequest_eq_ok h
  obtain ⟨cascade, _, _, _, -, -, hparties, -⟩ := requestFor_eq_ok hrequest
  have hrest := (CaseSnapshot.filled_of_assignIdsAbove hassign).rest
  have hplaces : a.case.activePlaces = c.activePlaces :=
    CaseSnapshot.activePlaces_eq_of_withoutIds hrest
  have hrespondent : a.case.respondent = c.respondent :=
    (congrArg CaseSnapshot.respondent hrest :)
  rw [← hplaces]
  obtain ⟨hlength, hlast⟩ := getElem?_partyRecords_respondent hparties
  refine ⟨hlength, ⟨_, hlast, rfl, by rw [hrespondent]; rfl, rfl⟩, ?_⟩
  intro i place hplace
  obtain ⟨p, record, rfl, hrecord, hrole, hid, hblank, hlinks⟩ := getElem?_parties h hplace
  refine ⟨record, hrecord, hrole, hid, hblank, ?_⟩
  rcases eq_appellant_or_linked p.place with happellant | ⟨owner, code, hlinked⟩
  · exact .inl ⟨happellant, hlinks.trans (relatedParties_appellant happellant)⟩
  · -- the party that it is linked to is active as well, and so has a record with an id
    have hactive := CaseSnapshot.mem_activePlaces_iff.mp (List.mem_of_getElem? hplace)
    obtain ⟨j, hj⟩ := List.getElem?_of_mem
      (CaseSnapshot.mem_activePlaces_iff.mpr (hlinked.isActive hactive))
    obtain ⟨_, ownerRecord, rfl, hownerRecord, hownerRole, hownerId, -⟩ := getElem?_parties h hj
    exact .inr ⟨_, code, j, ownerRecord, hlinked, hj, hownerRecord, hownerRole,
      hlinks.trans (hlinked.relatedParties_eq hownerId)⟩

/-- Reference data with one venue, and with one kind of session for one benefit and issue. -/
def plainReference : ReferenceData :=
  ReferenceTables.data {
    venues := [⟨"1001", "L100", "Leeds", true⟩]
    sessionCategories := [⟨"002", "DD", none, none, ⟨"2", [.judge]⟩⟩] }

/-- An appeal with two other parties, the second of which has a representative. Only the appellant
and the first of the other parties have ids. -/
def crowdedCase : CaseSnapshot where
  caseId := "1"
  benefitCode := "002"
  issueCode := "DD"
  appellant := { id := some "7" }
  otherParties := [{ id := some "x" }, { representative := some { hasRepresentative := some .yes } }]
  overrides := { venueIds := some ["1001"] }

/-- The link of the representative leads to the number that the second of the other parties was
given. -/
theorem parties_of_assembleRequest_crowded :
    ∃ (a : AssembledRequest) (record ownerRecord : PartyDetails),
      assembleRequest crowdedCase plainReference {} none = .ok a ∧
      a.request.parties[3]? = some record ∧ a.request.parties[2]? = some ownerRecord ∧
      ownerRecord.partyId = "8" ∧ record.links = [⟨"8", "REPRESENTATIVE"⟩] := by
  obtain ⟨a, h, hid⟩ : ∃ a, assembleRequest crowdedCase plainReference {} none = .ok a ∧
      a.request.parties[2]?.map (·.partyId) = some "8" := ⟨_, rfl, rfl⟩
  obtain ⟨ownerRecord, howner, hownerId⟩ := Option.map_eq_some_iff.mp hid
  have hplaces : crowdedCase.activePlaces =
      [.appellant, .otherParty 0, .otherParty 1, .otherPartyRepresentative 1] := rfl
  obtain ⟨record, hrecord, -, -, -, ⟨hplace, -⟩ | ⟨owner, code, j, ownerRecord', hlinked, hj,
    hownerRecord, -, hlinks⟩⟩ := (parties_of_assembleRequest h).2.2 3 _ rfl
  · cases hplace
  · cases hlinked
    have hindex : j = 2 := by
      rw [hplaces] at hj
      rcases j with _ | _ | _ | _ | j <;> simp at hj ⊢
    subst hindex
    obtain rfl := Option.some.inj (howner.symm.trans hownerRecord)
    exact ⟨a, record, ownerRecord, h, hrecord, howner, hownerId, hownerId ▸ hlinks⟩

end TribunalListing
