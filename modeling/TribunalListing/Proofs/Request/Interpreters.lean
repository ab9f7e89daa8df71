-- SUMMARY: The record of an individual carries the interpreter that is asked for, and no request for one is dropped.
import TribunalListing.Proofs.Request.Behaviour

/-!
# Interpreters on a request

Who asks for an interpreter is settled in two ways. For the appellant, it is the need in the override
cascade, from which blank languages were left out before; for all others, it is their answers, or
those of the party that they act for, and blank languages are left out afterwards. Either way, an
interpreter is asked for if one is wanted and the language is written, where sign language comes
before spoken.

`Requests` says so without regard to how it is found out. Every record of an individual carries an
interpreter exactly if one is requested at its place. A request that no reference is known for does
not end in a record without it: it ends the derivation.
-/

namespace TribunalListing

/-! ## Asking for an interpreter -/

/-- The options ask for an interpreter, in sign language if that is written, and in the spoken
language otherwise. -/
inductive HearingOptions.Asks (o : HearingOptions) : String → Option String → Prop where
  | sign {language : String} (hwanted : o.languageInterpreter = some .yes)
      (hsign : Text.written o.signLanguage = some language) : Asks o language o.dialect
  | spoken {language : String} (hwanted : o.languageInterpreter = some .yes)
      (hsign : Text.written o.signLanguage = none)
      (hspoken : Text.written o.language = some language) : Asks o language o.dialect

/-- The need asks for an interpreter if one is wanted and the language is written. -/
structure InterpreterNeed.Asks (need : InterpreterNeed) (language : String)
    (dialect : Option String) : Prop where
  wanted : need.wanted = true
  language : Text.written need.language = some language
  dialect : need.dialect = dialect

/-- The party whose options a party takes on where it has none of its own. -/
def Place.inheritsFrom? : Place → Option Place
  | .appellant | .otherParty _ => none
  | .appellantAppointee | .representative | .jointParty => some .appellant
  | .otherPartyAppointee i | .otherPartyRepresentative i => some (.otherParty i)

namespace CaseSnapshot

/-- The options that a party has of its own. -/
def ownOptions? (c : CaseSnapshot) : Place → Option HearingOptions
  | .appellant => some c.appellant.hearingOptions
  | .appellantAppointee => c.appellant.appointee.bind (·.hearingOptions)
  | .representative => c.representative.bind (·.hearingOptions)
  | .jointParty => c.jointParty.bind (·.person.hearingOptions)
  | .otherParty i => c.otherParties[i]?.bind (·.hearingOptions)
  | .otherPartyAppointee i =>
    c.otherParties[i]?.bind fun p => p.appointee.bind (·.hearingOptions)
  | .otherPartyRepresentative i =>
    c.otherParties[i]?.bind fun p => p.representative.bind (·.hearingOptions)

/-- The options that a party goes by: its own, or those of the party that it acts for. -/
def effectiveOptions? (c : CaseSnapshot) (place : Place) : Option HearingOptions :=
  (c.ownOptions? place).or (place.inheritsFrom?.bind c.ownOptions?)

/-- An interpreter is requested for the party at a place: for the appellant by the override, where
there is one, and for everybody else, as for the appellant without an override, by the options that
the party goes by. -/
inductive Requests (c : CaseSnapshot) : Place → String → Option String → Prop where
  | overridden {need : InterpreterNeed} {language : String} {dialect : Option String}
      (hneed : c.overrides.appellantInterpreter = some need) (hasks : need.Asks language dialect) :
      Requests c .appellant language dialect
  | answered {place : Place} {o : HearingOptions} {language : String} {dialect : Option String}
      (hneed : place = .appellant → c.overrides.appellantInterpreter = none)
      (hoptions : c.effectiveOptions? place = some o) (hasks : o.Asks language dialect) :
      Requests c place language dialect

end CaseSnapshot

/-- A code is that of the interpreter that is asked for, if one is. -/
structure Interprets (reference : ReferenceData) (asks : String → Option String → Prop)
    (code : Option String) : Prop where
  isSome_iff : code.isSome = true ↔ ∃ language dialect, asks language dialect
  eq_reference : ∀ language dialect, asks language dialect →
    code = reference.languageReference? (Text.trim language) dialect

/-- The lookup that a language is trimmed for does not need that in tables. -/
theorem ReferenceTables.languageReference?_trim (t : ReferenceTables) (language : String)
    (dialect : Option String) :
    t.data.languageReference? (Text.trim language) dialect =
      t.languageReference? language dialect := by
  show t.languageReference? (Text.trim language) dialect = t.languageReference? language dialect
  unfold languageReference?
  rw [Text.trim_trim]

variable {c d : CaseSnapshot} {reference : ReferenceData} {options : DerivationOptions}
  {version : Option Int64} {cascade : Cascade} {policy : ChannelPolicy}

/-! ## Two ways to read it -/

section

variable {o : HearingOptions} {language : String} {dialect : Option String}

theorem HearingOptions.asks_iff :
    o.Asks language dialect ↔ o.wantsInterpreter = true ∧
      (Text.written o.signLanguage).or (Text.written o.language) = some language ∧
      o.dialect = dialect := by
  have hwanted : o.wantsInterpreter = true ↔ o.languageInterpreter = some .yes := beq_iff_eq
  rw [hwanted]
  constructor
  · rintro (⟨hyes, hsign⟩ | ⟨hyes, hsign, hspoken⟩)
    · exact ⟨hyes, by rw [hsign]; rfl, rfl⟩
    · exact ⟨hyes, by rw [hsign, hspoken]; rfl, rfl⟩
  · rintro ⟨hyes, hlanguage, rfl⟩
    cases hsign : Text.written o.signLanguage with
    | some sign =>
      rw [hsign, Option.some_or] at hlanguage
      exact .sign hyes (hsign.trans hlanguage)
    | none =>
      rw [hsign, Option.none_or] at hlanguage
      exact .spoken hyes hsign hlanguage

/-- What the options of the appellant ask for, the need that is derived from them asks for. -/
theorem HearingOptions.asks_interpreterNeed :
    o.interpreterNeed.Asks language dialect ↔ o.Asks language dialect := by
  rw [asks_iff]
  unfold interpreterNeed
  cases hwanted : o.wantsInterpreter with
  | false =>
    constructor
    · rintro ⟨hneed, -, -⟩
      cases hneed
    · rintro ⟨hno, -, -⟩
      cases hno
  | true =>
    have hwritten : Text.written ((Text.written o.signLanguage).or (Text.written o.language)) =
        (Text.written o.signLanguage).or (Text.written o.language) := by
      rw [Text.written_or, Text.written_written]
    constructor
    · rintro ⟨-, hlanguage, hdialect⟩
      exact ⟨rfl, hwritten.symm.trans hlanguage, hdialect⟩
    · rintro ⟨-, hlanguage, hdialect⟩
      exact ⟨Option.isSome_of_eq_some hlanguage, hwritten.trans hlanguage, hdialect⟩

/-- What the options of any other party ask for, the language that is requested by them is. -/
theorem HearingOptions.asks_requestedLanguage :
    Text.written o.requestedLanguage = some language ∧ o.dialect = dialect ↔
      o.Asks language dialect := by
  rw [asks_iff]
  unfold requestedLanguage
  cases o.wantsInterpreter with
  | false => simp
  | true => simp [Text.written_or]

/-- The interpreter that is looked up is that of the language and the dialect that are given. -/
theorem interprets_of_interpreterLanguage {asks : String → Option String → Prop}
    {wanted wantedDialect code : Option String} {party : String}
    (hasks : ∀ language dialect, asks language dialect ↔
      Text.written wanted = some language ∧ wantedDialect = dialect)
    (h : interpreterLanguage reference wanted wantedDialect party = .ok code) :
    Interprets reference asks code := by
  unfold interpreterLanguage at h
  cases hwanted : Text.written wanted with
  | none =>
    rw [hwanted] at h
    cases h
    have hnobody : ∀ language dialect, ¬ asks language dialect := by
      intro language dialect hasked
      rw [hasks, hwanted] at hasked
      cases hasked.1
    refine ⟨⟨fun hcode => absurd hcode Bool.false_ne_true, ?_⟩, ?_⟩
    · rintro ⟨language, dialect, hasked⟩
      exact absurd hasked (hnobody language dialect)
    · exact fun language dialect hasked => absurd hasked (hnobody language dialect)
  | some language =>
    rw [hwanted] at h
    have hasked : asks language wantedDialect := (hasks _ _).mpr ⟨hwanted, rfl⟩
    cases hcode : reference.languageReference? (Text.trim language) wantedDialect with
    | none =>
      simp only [Option.map_some, hcode] at h
      cases h
    | some reference =>
      simp only [Option.map_some, hcode] at h
      cases h
      refine ⟨⟨fun _ => ⟨_, _, hasked⟩, fun _ => rfl⟩, ?_⟩
      intro language' dialect' hasked'
      obtain ⟨hlanguage, rfl⟩ := (hasks _ _).mp hasked'
      rw [hwanted] at hlanguage
      rw [← Option.some.inj hlanguage, hcode]

end

/-! ## The options of participants -/

theorem Appellant.appointee_of_actingAppointee {a : Appellant} {person : Person}
    (h : a.actingAppointee = some person) : a.appointee = some person := by
  unfold actingAppointee at h
  split at h
  · exact h
  · cases h

theorem OtherParty.appointee_of_actingAppointee {p : OtherParty} {person : Person}
    (h : p.actingAppointee = some person) : p.appointee = some person := by
  unfold actingAppointee at h
  split at h
  · exact h
  · cases h

/-- A participant has the options that its party goes by. -/
theorem options_of_participantAt? {place : Place} {p : Participant}
    (hp : c.participantAt? place = some p) : p.options = c.effectiveOptions? place := by
  unfold CaseSnapshot.effectiveOptions? CaseSnapshot.ownOptions?
  cases place with
  | appellant =>
    cases hp
    rfl
  | appellantAppointee =>
    obtain ⟨person, hperson, rfl⟩ := Option.map_eq_some_iff.mp hp
    rw [Appellant.appointee_of_actingAppointee hperson]
    rfl
  | representative =>
    obtain ⟨r, hr, rfl⟩ := Option.map_eq_some_iff.mp hp
    rw [(Option.filter_eq_some_iff.mp hr).1]
    rfl
  | jointParty =>
    obtain ⟨j, hj, rfl⟩ := Option.map_eq_some_iff.mp hp
    rw [(Option.filter_eq_some_iff.mp hj).1]
    rfl
  | otherParty i =>
    obtain ⟨q, hq, rfl⟩ := Option.map_eq_some_iff.mp hp
    simp only [hq]
    exact Option.or_none.symm
  | otherPartyAppointee i =>
    obtain ⟨q, hq, hp⟩ := Option.bind_eq_some_iff.mp hp
    obtain ⟨person, hperson, rfl⟩ := Option.map_eq_some_iff.mp hp
    simp only [hq, Place.inheritsFrom?, Option.bind_some,
      OtherParty.appointee_of_actingAppointee hperson]
    rfl
  | otherPartyRepresentative i =>
    obtain ⟨q, hq, hp⟩ := Option.bind_eq_some_iff.mp hp
    obtain ⟨r, hr, rfl⟩ := Option.map_eq_some_iff.mp hp
    simp only [hq, Place.inheritsFrom?, Option.bind_some, (Option.filter_eq_some_iff.mp hr).1]
    rfl

/-- Ids are all that ids replace of participants. -/
theorem participantAt?_replaceIds (ids : Place → Option String) (place : Place) :
    (c.replaceIds ids).participantAt? place =
      (c.participantAt? place).map ({ · with id := ids place }) := by
  unfold CaseSnapshot.participantAt? CaseSnapshot.replaceIds
  cases place with
  | appellant => rfl
  | appellantAppointee =>
    unfold Appellant.actingAppointee
    cases hacting : Answer.saidYes c.appellant.isAppointee with
    | false => simp
    | true => cases c.appellant.appointee <;> simp [Person.participant]
  | representative =>
    simp only [CaseSnapshot.presentRepresentative, Option.filter_map, Option.map_map]
    rfl
  | jointParty =>
    simp only [CaseSnapshot.presentJointParty, Option.filter_map, Option.map_map]
    rfl
  | otherParty i =>
    simp only [List.getElem?_mapIdx, Option.map_map]
    rfl
  | otherPartyAppointee i =>
    simp only [List.getElem?_mapIdx]
    cases c.otherParties[i]? with
    | none => rfl
    | some q =>
      simp only [Option.map_some, Option.bind_some, OtherParty.replaceIds,
        OtherParty.actingAppointee]
      cases Answer.saidYes q.isAppointee <;> cases q.appointee <;> rfl
  | otherPartyRepresentative i =>
    simp only [List.getElem?_mapIdx]
    cases c.otherParties[i]? with
    | none => rfl
    | some q =>
      simp only [Option.map_some, Option.bind_some, OtherParty.replaceIds,
        OtherParty.presentRepresentative, Option.filter_map, Option.map_map]
      rfl

/-- Ids are all in which participants differ where their cases do not without ids. -/
theorem participantAt?_of_withoutIds (h : d.withoutIds = c.withoutIds) (place : Place) :
    d.participantAt? place =
      (c.participantAt? place).map ({ · with id := d.idAt place }) := by
  rw [← participantAt?_replaceIds, ← CaseSnapshot.eq_replaceIds_of_withoutIds h]

/-- Ids do not show in the options that a participant goes by. -/
theorem effectiveOptions?_of_withoutIds (h : d.withoutIds = c.withoutIds) {place : Place}
    {p : Participant} (hp : d.participantAt? place = some p) :
    d.effectiveOptions? place = c.effectiveOptions? place := by
  obtain ⟨q, hq, hsame⟩ :=
    Option.map_eq_some_iff.mp ((participantAt?_of_withoutIds h place).symm.trans hp)
  rw [← options_of_participantAt? hp, ← options_of_participantAt? hq, ← hsame]

/-! ## Participants and their records -/

/-- The participants are those at the active places, in their order. -/
theorem getElem?_participants_iff {i : Nat} {p : Participant} :
    c.participants[i]? = some p ↔
      c.activePlaces[i]? = some p.place ∧ c.participantAt? p.place = some p := by
  have hplaces : (c.participants[i]?).map (·.place) = c.activePlaces[i]? := by
    rw [← List.getElem?_map, map_place_participants]
  have hat : ∀ q, c.participants[i]? = some q → c.participantAt? q.place = some q := by
    intro q hq
    obtain ⟨place, hplace⟩ := mem_participants_iff.mp (List.mem_of_getElem? hq)
    rwa [(place_of_participantAt? hplace).1]
  constructor
  · intro hp
    exact ⟨by rw [← hplaces, hp]; rfl, hat p hp⟩
  · rintro ⟨hplace, hp⟩
    rw [hplace] at hplaces
    obtain ⟨q, hq, hsame⟩ := Option.map_eq_some_iff.mp hplaces
    have hqat := hat q hq
    rw [hsame, hp] at hqat
    rw [hq, Option.some.inj hqat]

section

variable {records : List PartyDetails} {i : Nat}

/-- The records of a case are made of its participants one by one, and of the respondent. -/
theorem map_partyRecord_eq (h : partyRecords c reference cascade policy = .ok records) :
    records.map .ok = c.participants.map (partyRecord c reference cascade policy) ++
      [.ok c.respondent.record] := by
  obtain ⟨parties, hparties, rfl⟩ := partyRecords_eq_ok h
  rw [List.map_append, map_eq_map_ok_of_mapM_eq_ok hparties]
  rfl

/-- The record of a participant stands where the participant does. -/
theorem exists_record_of_participant
    (h : partyRecords c reference cascade policy = .ok records) {p : Participant}
    (hp : c.participants[i]? = some p) :
    ∃ record, records[i]? = some record ∧
      partyRecord c reference cascade policy p = .ok record := by
  have hindex : i < (c.participants.map (partyRecord c reference cascade policy)).length := by
    rw [List.length_map]
    exact (List.getElem?_eq_some_iff.mp hp).1
  have hrecords : (records.map .ok)[i]? = some (partyRecord c reference cascade policy p) := by
    rw [map_partyRecord_eq h, List.getElem?_append_left hindex, List.getElem?_map, hp,
      Option.map_some]
  rw [List.getElem?_map] at hrecords
  obtain ⟨record, hrecord, hok⟩ := Option.map_eq_some_iff.mp hrecords
  exact ⟨record, hrecord, hok.symm⟩

/-- A record with the details of an individual is that of a participant. -/
theorem exists_participant_of_individual
    (h : partyRecords c reference cascade policy = .ok records) {record : PartyDetails}
    {details : IndividualDetails} (hrecord : records[i]? = some record)
    (hdetails : record.individual = some details) :
    ∃ p, c.participants[i]? = some p ∧
      partyRecord c reference cascade policy p = .ok record := by
  have hrecords : (c.participants.map (partyRecord c reference cascade policy) ++
      [.ok c.respondent.record])[i]? = some (.ok record) := by
    rw [← map_partyRecord_eq h, List.getElem?_map, hrecord, Option.map_some]
  rw [List.getElem?_append] at hrecords
  split at hrecords
  · rw [List.getElem?_map] at hrecords
    exact Option.map_eq_some_iff.mp hrecords
  · -- the respondent is an organisation
    cases List.mem_singleton.mp (List.mem_of_getElem? hrecords)
    cases hdetails

end

/-- The record of a participant that is an individual has details. -/
theorem exists_individual_of_partyRecord {p : Participant} {record : PartyDetails}
    (h : partyRecord c reference cascade policy p = .ok record)
    (htype : p.partyType = .individual) : ∃ details, record.individual = some details := by
  rcases partyRecord_eq_ok h with ⟨-, horganisation, -⟩ | ⟨channel, language, rfl⟩
  · rw [htype] at horganisation
    cases horganisation
  · exact ⟨_, rfl⟩

/-! ## Requests for interpreters -/

section

variable {place : Place} {language : String} {dialect : Option String}

namespace CaseSnapshot

theorem requests_iff :
    c.Requests place language dialect ↔
      (place = .appellant ∧
        ∃ need, c.overrides.appellantInterpreter = some need ∧ need.Asks language dialect) ∨
      (place = .appellant → c.overrides.appellantInterpreter = none) ∧
        ∃ o, c.effectiveOptions? place = some o ∧ o.Asks language dialect := by
  constructor
  · rintro (⟨hneed, hasks⟩ | ⟨hneed, hoptions, hasks⟩)
    · exact .inl ⟨rfl, _, hneed, hasks⟩
    · exact .inr ⟨hneed, _, hoptions, hasks⟩
  · rintro (⟨rfl, need, hneed, hasks⟩ | ⟨hneed, o, hoptions, hasks⟩)
    · exact .overridden hneed hasks
    · exact .answered hneed hoptions hasks

/-- The appellant's request is the need in the override layer, or the default one. -/
theorem requests_appellant_iff :
    c.Requests .appellant language dialect ↔
      (c.overrides.appellantInterpreter.getD c.appellant.hearingOptions.interpreterNeed).Asks
        language dialect := by
  have hoptions : c.effectiveOptions? .appellant = some c.appellant.hearingOptions := rfl
  rw [requests_iff]
  cases hneed : c.overrides.appellantInterpreter with
  | some need => simp
  | none => simp [hoptions, HearingOptions.asks_interpreterNeed]

/-- The request of any other participant is the one of its options. -/
theorem requests_other_iff {p : Participant} (hp : c.participantAt? place = some p)
    (hplace : place ≠ .appellant) :
    c.Requests place language dialect ↔ (p.options.getD {}).Asks language dialect := by
  rw [requests_iff, ← options_of_participantAt? hp]
  cases p.options with
  | some o => simp [hplace]
  | none =>
    have hnobody : ¬ HearingOptions.Asks {} language dialect := by
      rw [HearingOptions.asks_iff]
      rintro ⟨hwanted, -⟩
      cases hwanted
    simp [hplace, hnobody]

/-- Ids do not show in what is requested for a participant. -/
theorem requests_of_withoutIds (h : d.withoutIds = c.withoutIds) {p : Participant}
    (hp : d.participantAt? place = some p) :
    d.Requests place language dialect ↔ c.Requests place language dialect := by
  have hoverrides : d.overrides = c.overrides := (congrArg CaseSnapshot.overrides h :)
  rw [requests_iff, requests_iff, hoverrides, effectiveOptions?_of_withoutIds h hp]

end CaseSnapshot

end

/-- The need in the cascade is that of the override layer, or the default one. -/
theorem appellantInterpreter_of_ofCase
    (h : Cascade.ofCase c reference options = .ok cascade) :
    cascade.appellantInterpreter =
      some (c.overrides.appellantInterpreter.getD c.appellant.hearingOptions.interpreterNeed) := by
  obtain ⟨_, _, _, -, -, -, rfl⟩ := cascade_ofCase_eq_ok h
  unfold Cascade.appellantInterpreter
  cases c.overrides.appellantInterpreter <;> rfl

/-- A need that is looked up only if an interpreter is wanted asks for what is looked up. -/
theorem InterpreterNeed.asks_filter_wanted {need : InterpreterNeed} {language : String}
    {dialect : Option String} :
    need.Asks language dialect ↔
      Text.written (((some need).filter (·.wanted)).bind (·.language)) = some language ∧
        ((some need).filter (·.wanted)).bind (·.dialect) = dialect := by
  rw [Option.filter_some]
  cases hwanted : need.wanted with
  | false =>
    constructor
    · intro hasks
      rw [hasks.wanted] at hwanted
      cases hwanted
    · rintro ⟨hlanguage, -⟩
      cases hlanguage
  | true =>
    constructor
    · rintro ⟨-, hlanguage, hdialect⟩
      exact ⟨hlanguage, hdialect⟩
    · rintro ⟨hlanguage, hdialect⟩
      exact ⟨hwanted, hlanguage, hdialect⟩

/-- The record of an individual carries the interpreter that is requested at its place. -/
theorem interprets_of_partyRecord {p : Participant} {record : PartyDetails}
    {details : IndividualDetails} (hcascade : Cascade.ofCase c reference options = .ok cascade)
    (hp : c.participantAt? p.place = some p)
    (h : partyRecord c reference cascade policy p = .ok record)
    (hdetails : record.individual = some details) :
    Interprets reference (c.Requests p.place) details.interpreterLanguage := by
  unfold partyRecord at h
  split at h
  next hplace =>
    obtain ⟨code, hcode, h⟩ := derived_bind_eq_ok_iff.mp h
    cases h
    cases hdetails
    rw [appellantInterpreter_of_ofCase hcascade] at hcode
    apply interprets_of_interpreterLanguage _ hcode
    intro language dialect
    rw [hplace, CaseSnapshot.requests_appellant_iff]
    exact InterpreterNeed.asks_filter_wanted
  next hplace =>
    split at h
    next =>
      cases h
      cases hdetails
    next =>
      obtain ⟨channel, -, h⟩ := derived_bind_eq_ok_iff.mp h
      obtain ⟨code, hcode, h⟩ := derived_bind_eq_ok_iff.mp h
      cases h
      cases hdetails
      apply interprets_of_interpreterLanguage _ hcode
      intro language dialect
      rw [CaseSnapshot.requests_other_iff hp hplace]
      exact HearingOptions.asks_requestedLanguage.symm

section

variable {a : AssembledRequest} {i : Nat}

/-- The record of an individual carries the interpreter that was requested before ids were handed
out. -/
theorem interprets_of_assembleRequest (h : assembleRequest c reference options version = .ok a)
    {record : PartyDetails} {details : IndividualDetails}
    (hrecord : a.request.parties[i]? = some record) (hdetails : record.individual = some details) :
    ∃ place, c.activePlaces[i]? = some place ∧
      Interprets reference (c.Requests place) details.interpreterLanguage := by
  obtain ⟨hassign, hrequest⟩ := assembleRequest_eq_ok h
  obtain ⟨cascade, _, _, _, hcascade, -, hparties, -⟩ := requestFor_eq_ok hrequest
  have hrest := (CaseSnapshot.filled_of_assignIdsAbove hassign).rest
  obtain ⟨p, hp, hok⟩ := exists_participant_of_individual hparties hrecord hdetails
  obtain ⟨hplace, hat⟩ := getElem?_participants_iff.mp hp
  refine ⟨p.place, (CaseSnapshot.activePlaces_eq_of_withoutIds hrest) ▸ hplace, ?_⟩
  have hrequests : a.case.Requests p.place = c.Requests p.place := by
    funext language dialect
    exact propext (CaseSnapshot.requests_of_withoutIds hrest hat)
  rw [← hrequests]
  exact interprets_of_partyRecord hcascade hat hok hdetails

/-- There is the record of an individual for each participant that is one. -/
theorem exists_individual_of_assembleRequest
    (h : assembleRequest c reference options version = .ok a) {p : Participant}
    (hp : c.participants[i]? = some p) (htype : p.partyType = .individual) :
    ∃ record details, a.request.parties[i]? = some record ∧
      record.individual = some details := by
  obtain ⟨hassign, hrequest⟩ := assembleRequest_eq_ok h
  obtain ⟨cascade, _, _, _, -, -, hparties, -⟩ := requestFor_eq_ok hrequest
  have hrest := (CaseSnapshot.filled_of_assignIdsAbove hassign).rest
  obtain ⟨hplace, hat⟩ := getElem?_participants_iff.mp hp
  have hnumbered : a.case.participants[i]? = some { p with id := a.case.idAt p.place } := by
    rw [getElem?_participants_iff, CaseSnapshot.activePlaces_eq_of_withoutIds hrest,
      participantAt?_of_withoutIds hrest, hat]
    exact ⟨hplace, rfl⟩
  obtain ⟨record, hrecord, hok⟩ := exists_record_of_participant hparties hnumbered
  obtain ⟨details, hdetails⟩ := exists_individual_of_partyRecord hok htype
  exact ⟨record, details, hrecord, hdetails⟩

end

/-- If a request is assembled, every record of an individual on it carries an interpreter exactly if
one is requested at the place of the party, and the code is the reference of that language and
dialect; and no individual is without a record. If there is no reference for a language that is
requested for an individual, no request is assembled. -/
theorem interpreters_of_assembleRequest (c : CaseSnapshot) (reference : ReferenceData)
    (options : DerivationOptions) (version : Option Int64) :
    (∀ a, assembleRequest c reference options version = .ok a →
      (∀ (i : Nat) (record : PartyDetails) (details : IndividualDetails),
        a.request.parties[i]? = some record → record.individual = some details →
        ∃ place, c.activePlaces[i]? = some place ∧
          Interprets reference (c.Requests place) details.interpreterLanguage) ∧
      ∀ (i : Nat) (p : Participant), c.participants[i]? = some p → p.partyType = .individual →
        ∃ record details, a.request.parties[i]? = some record ∧
          record.individual = some details) ∧
    ∀ p ∈ c.participants, p.partyType = .individual → ∀ language dialect,
      c.Requests p.place language dialect →
      reference.languageReference? (Text.trim language) dialect = none →
      ∃ e, assembleRequest c reference options version = .error e := by
  constructor
  · intro a h
    exact ⟨fun _ _ _ => interprets_of_assembleRequest h,
      fun _ _ => exists_individual_of_assembleRequest h⟩
  · intro p hp htype language dialect hrequested hunknown
    cases h : assembleRequest c reference options version with
    | error e => exact ⟨e, rfl⟩
    | ok a =>
      -- the record would have to carry the reference that is missing
      obtain ⟨i, hi⟩ := List.getElem?_of_mem hp
      obtain ⟨record, details, hrecord, hdetails⟩ :=
        exists_individual_of_assembleRequest h hi htype
      obtain ⟨place, hplace, hinterprets⟩ := interprets_of_assembleRequest h hrecord hdetails
      rw [(getElem?_participants_iff.mp hi).1] at hplace
      rw [Option.some.inj hplace] at hrequested
      have hcode := hinterprets.isSome_iff.mpr ⟨language, dialect, hrequested⟩
      rw [hinterprets.eq_reference language dialect hrequested, hunknown] at hcode
      cases hcode

/-- An appeal with an other party that asks for an interpreter, and with its representative, who has
not said anything about the hearing. -/
def interpretedCase (language : String) : CaseSnapshot where
  caseId := "1"
  benefitCode := "002"
  issueCode := "DD"
  otherParties := [{
    hearingOptions := some {
      languageInterpreter := some .yes
      signLanguage := some " "
      language := some language }
    representative := some {
      hasRepresentative := some .yes
      name := some { firstName := "Jan", lastName := "Nowak" } } }]
  overrides := { venueIds := some ["1001"] }

/-- Tables with one venue, one kind of session and one language. -/
def polishTables : ReferenceTables where
  venues := [⟨"1001", "L100", "Leeds", true⟩]
  languages := [⟨"Polish", none, "pol"⟩]
  sessionCategories := [⟨"002", "DD", none, none, ⟨"2", [.judge]⟩⟩]

/-- The representative has the interpreter of the other party that it acts for. A language that is
not in the tables is an error. -/
theorem interpreters_of_assembleRequest_inherited :
    (∃ (a : AssembledRequest) (record : PartyDetails) (details : IndividualDetails),
      assembleRequest (interpretedCase " Polish ") polishTables.data {} none = .ok a ∧
      a.request.parties[2]? = some record ∧ record.individual = some details ∧
      details.interpreterLanguage = some "pol") ∧
    ∃ e, assembleRequest (interpretedCase "Klingon") polishTables.data {} none = .error e := by
  have hrequests (language : String) (h : Text.isBlank language = false) :
      (interpretedCase language).Requests (.otherPartyRepresentative 0) language none :=
    .answered nofun rfl (.spoken rfl rfl (Text.written_eq_some_iff.mpr ⟨rfl, h⟩))
  constructor
  · obtain ⟨a, h⟩ :
        ∃ a, assembleRequest (interpretedCase " Polish ") polishTables.data {} none = .ok a :=
      ⟨_, rfl⟩
    obtain ⟨hinterprets, hrecorded⟩ :=
      (interpreters_of_assembleRequest (interpretedCase " Polish ") polishTables.data {} none).1 a h
    obtain ⟨record, details, hrecord, hdetails⟩ := hrecorded 2 _ rfl rfl
    obtain ⟨place, hplace, hcode⟩ := hinterprets 2 record details hrecord hdetails
    cases hplace
    refine ⟨a, record, details, h, hrecord, hdetails, ?_⟩
    rw [hcode.eq_reference _ _ (hrequests " Polish " rfl),
      ReferenceTables.languageReference?_trim]
    rfl
  · apply (interpreters_of_assembleRequest (interpretedCase "Klingon") polishTables.data {} none).2
      _ (List.mem_of_getElem? (i := 2) rfl) rfl _ _ (hrequests "Klingon" rfl)
    rw [ReferenceTables.languageReference?_trim]
    rfl

end TribunalListing
