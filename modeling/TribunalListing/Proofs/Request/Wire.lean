-- SUMMARY: Hearing requests, triggers and audit events survive the wire, as cases and reference tables do.
import TribunalListing.Audit
import TribunalListing.Proofs.Reference.Wire
import TribunalListing.Trigger

/-!
# Messages survive the wire

Whatever crosses the wire is read back as it was written: cases, reference tables, hearing requests,
triggers and audit events. A trigger is written under its name, and a name that is not known is
read as the trigger that is ignored; so that trigger, too, has a name of its own.
-/

namespace TribunalListing

/-! ## Parties -/

instance : LawfulVocabulary PartyType where
  ofCode?_code a := by cases a <;> rfl

instance : LawfulVocabulary PartyRole where
  ofCode?_code a := by cases a <;> rfl

instance : LawfulVocabulary UnavailabilityType where
  ofCode?_code a := by
    cases a
    rfl

instance : LawfulWire UnavailabilityRange :=
  .of_record UnavailabilityRange.members UnavailabilityRange.ofMembers?
    fun r => by simp [UnavailabilityRange.ofMembers?, UnavailabilityRange.members]

instance : LawfulWire RelatedParty :=
  .of_record RelatedParty.members RelatedParty.ofMembers?
    fun p => by simp [RelatedParty.ofMembers?, RelatedParty.members]

instance : LawfulWire IndividualDetails :=
  .of_record IndividualDetails.members IndividualDetails.ofMembers?
    fun d => by simp [IndividualDetails.ofMembers?, IndividualDetails.members]

instance : LawfulWire OrganisationDetails :=
  .of_record OrganisationDetails.members OrganisationDetails.ofMembers?
    fun d => by simp [OrganisationDetails.ofMembers?, OrganisationDetails.members]

instance : LawfulWire PartyDetails :=
  .of_record PartyDetails.members PartyDetails.ofMembers?
    fun p => by simp [PartyDetails.ofMembers?, PartyDetails.members]

/-! ## The request -/

instance : LawfulVocabulary HearingPriority where
  ofCode?_code a := by cases a <;> rfl

instance : LawfulVocabulary LocationType where
  ofCode?_code a := by
    cases a
    rfl

instance : LawfulVocabulary PanelRequirement where
  ofCode?_code a := by cases a <;> rfl

instance : LawfulWire HearingLocation :=
  .of_record HearingLocation.members HearingLocation.ofMembers?
    fun l => by simp [HearingLocation.ofMembers?, HearingLocation.members]

instance : LawfulWire HearingWindow :=
  .of_record HearingWindow.members HearingWindow.ofMembers?
    fun w => by simp [HearingWindow.ofMembers?, HearingWindow.members]

instance : LawfulWire PanelPreference :=
  .of_record PanelPreference.members PanelPreference.ofMembers?
    fun p => by simp [PanelPreference.ofMembers?, PanelPreference.members]

instance : LawfulWire Panel :=
  .of_record Panel.members Panel.ofMembers?
    fun p => by simp [Panel.ofMembers?, Panel.members]

instance : LawfulWire HearingDetails :=
  .of_record HearingDetails.members HearingDetails.ofMembers?
    fun h => by simp [HearingDetails.ofMembers?, HearingDetails.members]

instance : LawfulWire CaseCategory :=
  .of_record CaseCategory.members CaseCategory.ofMembers?
    fun c => by simp [CaseCategory.ofMembers?, CaseCategory.members]

instance : LawfulWire CaseDetails :=
  .of_record CaseDetails.members CaseDetails.ofMembers?
    fun c => by simp [CaseDetails.ofMembers?, CaseDetails.members]

instance : LawfulWire RequestDetails :=
  .of_record RequestDetails.members RequestDetails.ofMembers?
    fun r => by simp [RequestDetails.ofMembers?, RequestDetails.members]

instance : LawfulWire HearingRequest :=
  .of_record HearingRequest.members HearingRequest.ofMembers?
    fun r => by simp [HearingRequest.ofMembers?, HearingRequest.members]

/-! ## Triggers and audit events -/

instance : LawfulVocabulary CancellationReason where
  ofCode?_code a := by cases a <;> rfl

/-- A trigger is read by its name, and a cancellation has its reason along with it. -/
theorem Trigger.ofMembers?_members (t : Trigger) : ofMembers? t.members = some t := by
  cases t with
  | cancelHearing reason =>
    have hkind : (Members.required (members (.cancelHearing reason)) "type" : Option String) =
        some "CANCEL_HEARING" := rfl
    have hreason : Members.required (members (.cancelHearing reason)) "reason" = some reason := by
      simp [members]
    simp [ofMembers?, hkind, hreason]
  | createHearing | updateHearing | adjournCreateHearing | ignored => rfl

instance : LawfulWire Trigger :=
  .of_record Trigger.members Trigger.ofMembers?
    Trigger.ofMembers?_members

instance : LawfulWire Actor :=
  .of_record Actor.members Actor.ofMembers?
    fun a => by simp [Actor.ofMembers?, Actor.members]

instance : LawfulWire Cause :=
  .of_record Cause.members Cause.ofMembers?
    fun c => by simp [Cause.ofMembers?, Cause.members]

instance : LawfulWire AuditAction :=
  .of_record AuditAction.members AuditAction.ofMembers?
    fun a => by simp [AuditAction.ofMembers?, AuditAction.members]

instance : LawfulWire HistoryText :=
  .of_record HistoryText.members HistoryText.ofMembers?
    fun t => by simp [HistoryText.ofMembers?, HistoryText.members]

instance : LawfulWire AuditEvent :=
  .of_record AuditEvent.members AuditEvent.ofMembers?
    fun e => by simp [AuditEvent.ofMembers?, AuditEvent.members]

/-! ## All of them -/

/-- Cases, reference tables, hearing requests, triggers and audit events survive the wire, as does
everything that they are made of: what is written as JSON is read back as the very value that it was
written from, and JSON that can be read stands for the same value when that value is written and
read again. -/
theorem messages_survive_wire :
    (SurvivesWire CaseSnapshot ∧ SurvivesWire Appellant ∧ SurvivesWire Representative ∧
      SurvivesWire JointParty ∧ SurvivesWire OtherParty ∧ SurvivesWire Respondent ∧
      SurvivesWire Person ∧ SurvivesWire PersonName ∧ SurvivesWire Contact ∧
      SurvivesWire HearingOptions ∧ SurvivesWire ExcludedDates ∧ SurvivesWire PartyFlags ∧
      SurvivesWire Adjournment ∧ SurvivesWire NamedPanelMember ∧ SurvivesWire OverrideFields ∧
      SurvivesWire InterpreterNeed ∧ SurvivesWire CaseEvent ∧ SurvivesWire CaseEventType ∧
      SurvivesWire HearingRecord ∧ SurvivesWire Date) ∧
    (SurvivesWire ReferenceTables ∧ SurvivesWire VenueEntry ∧ SurvivesWire LanguageEntry ∧
      SurvivesWire DurationEntry ∧ SurvivesWire BaseDurations ∧ SurvivesWire ExtraTimeEntry ∧
      SurvivesWire SessionCategoryEntry ∧ SurvivesWire SessionCategory) ∧
    (SurvivesWire HearingRequest ∧ SurvivesWire RequestDetails ∧ SurvivesWire HearingDetails ∧
      SurvivesWire HearingWindow ∧ SurvivesWire HearingLocation ∧ SurvivesWire Panel ∧
      SurvivesWire PanelPreference ∧ SurvivesWire CaseDetails ∧ SurvivesWire CaseCategory ∧
      SurvivesWire PartyDetails ∧ SurvivesWire IndividualDetails ∧
      SurvivesWire OrganisationDetails ∧ SurvivesWire RelatedParty ∧
      SurvivesWire UnavailabilityRange) ∧
    SurvivesWire Trigger ∧ SurvivesWire AuditEvent := by
  and_intros <;> exact survivesWire _

end TribunalListing
