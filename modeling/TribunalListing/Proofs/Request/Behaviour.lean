-- SUMMARY: Which records flagged for unacceptable behaviour call for additional security, and which are overlooked.
import TribunalListing.Proofs.Request.Records

/-!
# Unacceptable behaviour on a request

The flags for unacceptable behaviour are read twice: record by record, and once more for the case as
a whole, when it is decided on additional security and on automatic listing. The second reading goes
by the appellant, the joint party and the other parties, so that it agrees with the records of all
roles but one. The record of an appointee can be flagged without any consequence for the hearing.
-/

namespace TribunalListing

variable {c : CaseSnapshot} {reference : ReferenceData} {options : DerivationOptions}
  {version : Option Int64} {cascade : Cascade} {policy : ChannelPolicy}

/-! ## Flagged participants -/

/-- The record is that of an individual flagged for unacceptable behaviour. -/
def PartyDetails.isFlagged (record : PartyDetails) : Bool :=
  record.individual.any (·.unacceptableBehaviour)

/-- The participant is flagged for unacceptable behaviour. -/
def Participant.isFlagged (p : Participant) : Bool :=
  p.flags.any (·.unacceptableBehaviour)

theorem mem_participants_iff {p : Participant} :
    p ∈ c.participants ↔ ∃ place, c.participantAt? place = some p := by
  rw [CaseSnapshot.participants, List.mem_filterMap]
  constructor
  · rintro ⟨place, -, hp⟩
    exact ⟨place, hp⟩
  · rintro ⟨place, hp⟩
    have hactive := CaseSnapshot.mem_activePlaces_iff.mpr (place_of_participantAt? hp).2
    exact ⟨place, (List.mem_filter.mp hactive).1, hp⟩

/-- A participant that is flagged is no organisation, since representatives have no flags. Unless it
is an appointee, the case as a whole is flagged as well. -/
theorem cases_of_isFlagged {p : Participant} (hp : p ∈ c.participants)
    (hflagged : p.isFlagged = true) :
    p.organisation = none ∧ (p.role = .appointee ∨ c.hasUnacceptableBehaviour = true) := by
  unfold CaseSnapshot.hasUnacceptableBehaviour
  rw [Bool.or_eq_true, Bool.or_eq_true, Option.any_eq_true, List.any_eq_true]
  obtain ⟨place, hplace⟩ := mem_participants_iff.mp hp
  cases place with
  | appellant =>
    cases hplace
    exact ⟨rfl, .inr (.inl (.inl hflagged))⟩
  | appellantAppointee =>
    obtain ⟨_, -, rfl⟩ := Option.map_eq_some_iff.mp hplace
    exact ⟨rfl, .inl rfl⟩
  | representative =>
    obtain ⟨_, -, rfl⟩ := Option.map_eq_some_iff.mp hplace
    cases hflagged
  | jointParty =>
    obtain ⟨j, hj, rfl⟩ := Option.map_eq_some_iff.mp hplace
    exact ⟨rfl, .inr (.inl (.inr ⟨j, hj, hflagged⟩))⟩
  | otherParty i =>
    obtain ⟨q, hq, rfl⟩ := Option.map_eq_some_iff.mp hplace
    exact ⟨rfl, .inr (.inr ⟨q, List.mem_of_getElem? hq, hflagged⟩)⟩
  | otherPartyAppointee i =>
    obtain ⟨_, -, hplace⟩ := Option.bind_eq_some_iff.mp hplace
    obtain ⟨_, -, rfl⟩ := Option.map_eq_some_iff.mp hplace
    exact ⟨rfl, .inl rfl⟩
  | otherPartyRepresentative i =>
    obtain ⟨_, -, hplace⟩ := Option.bind_eq_some_iff.mp hplace
    obtain ⟨_, -, rfl⟩ := Option.map_eq_some_iff.mp hplace
    cases hflagged

theorem partyType_of_isFlagged {p : Participant} (hp : p ∈ c.participants)
    (hflagged : p.isFlagged = true) : p.partyType = .individual := by
  unfold Participant.partyType
  rw [(cases_of_isFlagged hp hflagged).1]
  split <;> rfl

/-- A record is flagged exactly if its participant is. -/
theorem isFlagged_of_partyRecord {p : Participant} {record : PartyDetails}
    (hp : p ∈ c.participants) (h : partyRecord c reference cascade policy p = .ok record) :
    record.isFlagged = p.isFlagged := by
  rcases partyRecord_eq_ok h with ⟨-, htype, rfl⟩ | ⟨channel, language, rfl⟩
  · cases hflagged : p.isFlagged with
    | false => rfl
    | true =>
      rw [partyType_of_isFlagged hp hflagged] at htype
      cases htype
  · show (p.flags.getD {}).unacceptableBehaviour = p.flags.any (·.unacceptableBehaviour)
    cases p.flags <;> rfl

/-! ## Flags of the case -/

/-- The flags of the case as a whole are read off those of its people, and off nothing else. -/
theorem hasUnacceptableBehaviour_congr {d : CaseSnapshot}
    (happellant : d.appellant.flags = c.appellant.flags)
    (hjointParty : d.jointParty.map (fun j => (j.isPresent, j.person.flags)) =
      c.jointParty.map (fun j => (j.isPresent, j.person.flags)))
    (hotherParties : d.otherParties.map (·.flags) = c.otherParties.map (·.flags)) :
    d.hasUnacceptableBehaviour = c.hasUnacceptableBehaviour := by
  have hread (c : CaseSnapshot) : c.hasUnacceptableBehaviour =
      (c.appellant.flags.unacceptableBehaviour ||
        (c.jointParty.map fun j => (j.isPresent, j.person.flags)).any
          (fun (present, flags) => present && flags.unacceptableBehaviour) ||
        (c.otherParties.map (·.flags)).any (·.unacceptableBehaviour)) := by
    unfold CaseSnapshot.hasUnacceptableBehaviour CaseSnapshot.presentJointParty
    rw [Option.any_filter, Option.any_map, List.any_map]
    rfl
  rw [hread, hread, happellant, hjointParty, hotherParties]

/-- The flags of the case as a whole are those of all participants but appointees. -/
theorem hasUnacceptableBehaviour_iff :
    c.hasUnacceptableBehaviour = true ↔
      ∃ p ∈ c.participants, p.isFlagged = true ∧ p.role ≠ .appointee := by
  constructor
  · unfold CaseSnapshot.hasUnacceptableBehaviour
    rw [Bool.or_eq_true, Bool.or_eq_true, Option.any_eq_true, List.any_eq_true]
    rintro ((happellant | ⟨j, hj, hflagged⟩) | ⟨q, hq, hflagged⟩)
    · exact ⟨_, mem_participants_iff.mpr ⟨.appellant, rfl⟩, happellant, by rintro ⟨⟩⟩
    · have hplace : c.participantAt? .jointParty =
          some (j.person.participant .jointParty (some c.appellant.hearingOptions)) := by
        rw [CaseSnapshot.participantAt?, hj, Option.map_some]
      exact ⟨_, mem_participants_iff.mpr ⟨_, hplace⟩, hflagged, by rintro ⟨⟩⟩
    · obtain ⟨i, hi⟩ := List.getElem?_of_mem hq
      have hplace : c.participantAt? (.otherParty i) = some (q.participant i) := by
        rw [CaseSnapshot.participantAt?, hi, Option.map_some]
      exact ⟨_, mem_participants_iff.mpr ⟨_, hplace⟩, hflagged, by rintro ⟨⟩⟩
  · rintro ⟨p, hp, hflagged, hrole⟩
    exact (cases_of_isFlagged hp hflagged).2.resolve_left hrole

/-- The flags of the case as a whole are those of all records but the ones of appointees. -/
theorem hasUnacceptableBehaviour_iff_record {records : List PartyDetails}
    (h : partyRecords c reference cascade policy = .ok records) :
    c.hasUnacceptableBehaviour = true ↔
      ∃ record ∈ records, record.isFlagged = true ∧ record.partyRole ≠ .appointee := by
  obtain ⟨parties, hparties, rfl⟩ := partyRecords_eq_ok h
  have hflags : parties.map (fun r => (r.isFlagged, r.partyRole)) =
      c.participants.map fun p => (p.isFlagged, p.role) := by
    refine map_eq_of_mapM_eq_ok hparties fun p hp record hrecord => ?_
    rw [isFlagged_of_partyRecord hp hrecord]
    exact congrArg (p.isFlagged, ·.1) (parts_of_partyRecord hrecord)
  have hmem : ∀ role, (∃ r ∈ parties, r.isFlagged = true ∧ r.partyRole = role) ↔
      ∃ p ∈ c.participants, p.isFlagged = true ∧ p.role = role := by
    intro role
    have hboth : (true, role) ∈ parties.map (fun r => (r.isFlagged, r.partyRole)) ↔
        (true, role) ∈ c.participants.map fun p => (p.isFlagged, p.role) := by
      rw [hflags]
    simpa only [List.mem_map, Prod.mk.injEq] using hboth
  rw [hasUnacceptableBehaviour_iff]
  constructor
  · rintro ⟨p, hp, hflagged, hrole⟩
    obtain ⟨r, hr, hflagged', hrole'⟩ := (hmem p.role).mpr ⟨p, hp, hflagged, rfl⟩
    exact ⟨r, List.mem_append_left _ hr, hflagged', hrole' ▸ hrole⟩
  · rintro ⟨r, hr, hflagged, hrole⟩
    rcases List.mem_append.mp hr with hr | hr
    · obtain ⟨p, hp, hflagged', hrole'⟩ := (hmem r.partyRole).mp ⟨r, hr, hflagged, rfl⟩
      exact ⟨p, hp, hflagged', hrole' ▸ hrole⟩
    · obtain rfl := List.mem_singleton.mp hr
      cases hflagged

/-! ## Security and automatic listing -/

/-- Where no override says otherwise, a case that is flagged as a whole is not listed
automatically. -/
theorem autoList_eq_false_of_hasUnacceptableBehaviour
    (h : Cascade.ofCase c reference options = .ok cascade) (hoverride : c.overrides.autoList = none)
    (hflagged : c.hasUnacceptableBehaviour = true) : cascade.autoList = false := by
  obtain ⟨_, _, _, -, -, -, rfl⟩ := cascade_ofCase_eq_ok h
  have hdefault : defaultAutoList c = false := by
    rw [defaultAutoList, hflagged, Bool.not_true, Bool.and_false]
  simp [Cascade.autoList, hoverride, hdefault]

/-- Additional security is asked for exactly if the case is confidential or a record is flagged that
is not an appointee's, and where no override says otherwise, such a record keeps the hearing from
being listed automatically. -/
theorem additionalSecurity_iff {a : AssembledRequest}
    (h : assembleRequest c reference options version = .ok a) :
    (a.request.case.additionalSecurity = true ↔
      c.confidential = true ∨
        ∃ record ∈ a.request.parties, record.isFlagged = true ∧ record.partyRole ≠ .appointee) ∧
    (c.overrides.autoList = none →
      (∃ record ∈ a.request.parties, record.isFlagged = true ∧ record.partyRole ≠ .appointee) →
      a.request.hearing.autoList = false) := by
  obtain ⟨hassign, hrequest⟩ := assembleRequest_eq_ok h
  obtain ⟨cascade, _, _, _, hcascade, -, hparties, -, -, hparts⟩ := requestFor_eq_ok hrequest
  have hrest := (CaseSnapshot.filled_of_assignIdsAbove hassign).rest
  have hconfidential : a.case.confidential = c.confidential :=
    (congrArg CaseSnapshot.confidential hrest :)
  have hoverrides : a.case.overrides = c.overrides := (congrArg CaseSnapshot.overrides hrest :)
  rw [← hasUnacceptableBehaviour_iff_record hparties, ← hconfidential, ← hoverrides]
  constructor
  · have hsecurity : a.request.case.additionalSecurity =
        (a.case.confidential || a.case.hasUnacceptableBehaviour) := by
      rw [hparts]
      rfl
    rw [hsecurity, Bool.or_eq_true]
  · intro hoverride hflagged
    have hauto : a.request.hearing.autoList = cascade.autoList := by
      rw [hparts]
      rfl
    rw [hauto]
    exact autoList_eq_false_of_hasUnacceptableBehaviour hcascade hoverride hflagged

/-- An appeal with a joint party flagged for unacceptable behaviour. -/
def flaggedJointParty : CaseSnapshot where
  caseId := "1"
  benefitCode := "002"
  issueCode := "DD"
  jointParty := some {
    hasJointParty := some .yes
    person := { flags := { unacceptableBehaviour := true } } }
  overrides := { venueIds := some ["1001"] }

/-- The joint party's flag calls for additional security. -/
theorem additionalSecurity_jointParty :
    ∃ a, assembleRequest flaggedJointParty plainReference {} none = .ok a ∧
      a.request.case.additionalSecurity = true ∧ a.request.hearing.autoList = false := by
  obtain ⟨a, h, record, hrecord, hflagged, hrole⟩ :
      ∃ a, assembleRequest flaggedJointParty plainReference {} none = .ok a ∧
        ∃ record ∈ a.request.parties,
          record.isFlagged = true ∧ record.partyRole = .jointParty :=
    ⟨_, rfl, _, .tail _ (.head _), rfl, rfl⟩
  have hother : record.partyRole ≠ .appointee := by
    rw [hrole]
    decide
  obtain ⟨hsecurity, hauto⟩ := additionalSecurity_iff h
  exact ⟨a, h, hsecurity.mpr (.inr ⟨record, hrecord, hflagged, hother⟩),
    hauto rfl ⟨record, hrecord, hflagged, hother⟩⟩

/-- An appeal with an appointee who acts for the appellant and is flagged for unacceptable
behaviour. -/
def flaggedAppointee : CaseSnapshot where
  caseId := "1"
  benefitCode := "002"
  issueCode := "DD"
  appellant := {
    isAppointee := some .yes
    appointee := some { flags := { unacceptableBehaviour := true } } }
  overrides := { venueIds := some ["1001"] }

/-- The appointee's record is flagged, and no additional security is asked for. -/
theorem additionalSecurity_overlooks_appointee :
    ∃ a, assembleRequest flaggedAppointee plainReference {} none = .ok a ∧
      (∃ record ∈ a.request.parties, record.isFlagged = true) ∧
      a.request.case.additionalSecurity = false ∧ flaggedAppointee.overrides.autoList = none ∧
      a.request.hearing.autoList = true :=
  ⟨_, rfl, ⟨_, .tail _ (.head _), rfl⟩, rfl, rfl, rfl⟩

end TribunalListing
