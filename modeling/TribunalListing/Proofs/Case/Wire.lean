-- SUMMARY: A case survives the wire, with everybody and everything on it.
import TribunalListing.Case.Wire
import TribunalListing.Proofs.Calendar.Date
import TribunalListing.Proofs.Hearing.Text
import TribunalListing.Proofs.Json.Wire

/-!
# Cases survive the wire

The instances follow the records of a case from the inside out, so that each finds its members
lawful. A joint party takes more than its members being lawful: the person reads its own members
from among those of the joint party.
-/

namespace TribunalListing

/-! ## Vocabularies -/

instance : LawfulVocabulary Answer where
  ofCode?_code a := by cases a <;> rfl

instance : LawfulVocabulary Channel where
  ofCode?_code a := by cases a <;> rfl

instance : LawfulVocabulary PanelMemberType where
  ofCode?_code a := by cases a <;> rfl

instance : LawfulVocabulary PanelExclusion where
  ofCode?_code a := by cases a <;> rfl

instance : LawfulVocabulary DurationUnit where
  ofCode?_code a := by cases a <;> rfl

instance : LawfulVocabulary NextHearingType where
  ofCode?_code a := by cases a <;> rfl

instance : LawfulVocabulary NextHearingVenue where
  ofCode?_code a := by cases a <;> rfl

instance : LawfulVocabulary HearingStatus where
  ofCode?_code := HearingStatus.ofCode?_code

/-- The kinds of events that matter are found by their codes, and other events by one more. -/
theorem CaseEventType.ofCode_code (e : CaseEventType) : ofCode e.code = e := by
  cases e <;> rfl

instance : LawfulWire CaseEventType where
  decode_encode e := congrArg some e.ofCode_code
  encode_ne_null _ h := by cases h

/-! ## People -/

instance : LawfulWire PersonName :=
  .of_record PersonName.members PersonName.ofMembers?
    fun n => by simp [PersonName.ofMembers?, PersonName.members]

instance : LawfulWire Contact :=
  .of_record Contact.members Contact.ofMembers?
    fun c => by simp [Contact.ofMembers?, Contact.members]

instance : LawfulWire ExcludedDates :=
  .of_record ExcludedDates.members ExcludedDates.ofMembers?
    fun d => by simp [ExcludedDates.ofMembers?, ExcludedDates.members]

instance : LawfulWire HearingOptions :=
  .of_record HearingOptions.members HearingOptions.ofMembers?
    fun o => by simp [HearingOptions.ofMembers?, HearingOptions.members]

instance : LawfulWire PartyFlags :=
  .of_record PartyFlags.members PartyFlags.ofMembers?
    fun f => by simp [PartyFlags.ofMembers?, PartyFlags.members]

theorem Person.ofMembers?_members (p : Person) : ofMembers? p.members = some p := by
  simp [ofMembers?, members]

/-- A member that a person does not know is passed over. -/
theorem Person.ofMembers?_cons {key : String} {value : Json} {members : Members}
    (h : key ∉ ["id", "name", "contact", "hearingOptions", "flags"]) :
    ofMembers? ((key, value) :: members) = ofMembers? members := by
  simp only [List.mem_cons, List.not_mem_nil, or_false, not_or] at h
  simp [ofMembers?, h]

instance : LawfulWire Person :=
  .of_record Person.members Person.ofMembers?
    Person.ofMembers?_members

instance : LawfulWire Representative :=
  .of_record Representative.members Representative.ofMembers?
    fun r => by simp [Representative.ofMembers?, Representative.members]

instance : LawfulWire Appellant :=
  .of_record Appellant.members Appellant.ofMembers?
    fun a => by simp [Appellant.ofMembers?, Appellant.members]

/-- The flag of a joint party stands under a key that its person does not know. -/
theorem JointParty.ofMembers?_members (j : JointParty) : ofMembers? j.members = some j := by
  have hflag : "hasJointParty" ∉ j.person.members.map (·.1) := by simp [Person.members]
  have hperson : Person.ofMembers? (("hasJointParty", encodeOption j.hasJointParty) ::
      j.person.members) = some j.person := by
    rw [Person.ofMembers?_cons (by decide), Person.ofMembers?_members]
  simp [ofMembers?, members, hflag, hperson]

instance : LawfulWire JointParty :=
  .of_record JointParty.members JointParty.ofMembers?
    JointParty.ofMembers?_members

instance : LawfulWire OtherParty :=
  .of_record OtherParty.members OtherParty.ofMembers?
    fun p => by simp [OtherParty.ofMembers?, OtherParty.members]

instance : LawfulWire Respondent :=
  .of_record Respondent.members Respondent.ofMembers?
    fun r => by simp [Respondent.ofMembers?, Respondent.members]

/-! ## The case -/

instance : LawfulWire NamedPanelMember :=
  .of_record NamedPanelMember.members NamedPanelMember.ofMembers?
    fun m => by simp [NamedPanelMember.ofMembers?, NamedPanelMember.members]

instance : LawfulWire Adjournment :=
  .of_record Adjournment.members Adjournment.ofMembers?
    fun a => by simp [Adjournment.ofMembers?, Adjournment.members]

instance : LawfulWire InterpreterNeed :=
  .of_record InterpreterNeed.members InterpreterNeed.ofMembers?
    fun i => by simp [InterpreterNeed.ofMembers?, InterpreterNeed.members]

instance : LawfulWire OverrideFields :=
  .of_record OverrideFields.members OverrideFields.ofMembers?
    fun o => by simp [OverrideFields.ofMembers?, OverrideFields.members]

instance : LawfulWire CaseEvent :=
  .of_record CaseEvent.members CaseEvent.ofMembers?
    fun e => by simp [CaseEvent.ofMembers?, CaseEvent.members]

instance : LawfulWire HearingRecord :=
  .of_record HearingRecord.members HearingRecord.ofMembers?
    fun r => by simp [HearingRecord.ofMembers?, HearingRecord.members]

instance : LawfulWire CaseSnapshot :=
  .of_record CaseSnapshot.members CaseSnapshot.ofMembers?
    fun c => by simp [CaseSnapshot.ofMembers?, CaseSnapshot.members]

end TribunalListing
