-- SUMMARY: The kinds of panel members, the specialisms of doctors, and what an adjournment says about the members it names.
import TribunalListing.Json.Wire

/-!
# Panel members

A panel is made up of slots, each for one kind of member. A slot is known to the hearing service
by a role reference and a specialism reference. A medically qualified slot is the exception: its
specialism is that of the doctor that the case asks for.
-/

namespace TribunalListing

/-- The kind of member that a panel slot is for. -/
inductive PanelMemberType where
  | judge
  | medical
  | disability
  | financial
  | regionalMedical
  deriving DecidableEq, Inhabited

namespace PanelMemberType

instance : Vocabulary PanelMemberType where
  terms := [.judge, .medical, .disability, .financial, .regionalMedical]
  code
    | .judge => "TRIBUNAL_JUDGE"
    | .medical => "TRIBUNAL_MEMBER_MEDICAL"
    | .disability => "TRIBUNAL_MEMBER_DISABILITY"
    | .financial => "TRIBUNAL_MEMBER_FINANCIALLY_QUALIFIED"
    | .regionalMedical => "REGIONAL_MEDICAL_MEMBER"

def reference : PanelMemberType → String
  | .judge => "84"
  | .medical => "58"
  | .disability => "44"
  | .financial => "50"
  | .regionalMedical => "69"

/-- The specialism reference of a slot for this kind of member. -/
def specialismReference : PanelMemberType → String
  | .judge => "BBA3-J"
  | .medical => "BBA3-MQPM"
  | .disability => "BBA3-DQPM"
  | .financial => "BBA3-FQPM"
  | .regionalMedical => "BBA3-RMM"

def isMedicallyQualified : PanelMemberType → Bool
  | .medical | .regionalMedical => true
  | .judge | .disability | .financial => false

/-- A member of this kind can be excluded from, or reserved for, the next hearing by name. -/
def isNamedOnAdjournment : PanelMemberType → Bool
  | .judge | .medical | .disability => true
  | .financial | .regionalMedical => false

end PanelMemberType

/-- The specialisms of doctors that the hearing service has a reference for. -/
inductive DoctorSpecialism where
  | cardiologist
  | carerOfChronicallyIllPerson
  | eyes
  | generalPractitioner
  | occupational
  | psychiatrist
  | rheumatologist
  | respiratory
  deriving DecidableEq

namespace DoctorSpecialism

/-- The specialism that a code on the case stands for; eyes have two codes. -/
def ofCaseCode? : String → Option DoctorSpecialism
  | "cardiologist" => some .cardiologist
  | "carerOfChronicallyIllPerson" => some .carerOfChronicallyIllPerson
  | "eyeSurgeon" => some .eyes
  | "eyes" => some .eyes
  | "generalPractitioner" => some .generalPractitioner
  | "occupationalHealth" => some .occupational
  | "psychiatrist" => some .psychiatrist
  | "rheumatologist" => some .rheumatologist
  | "respiratoryMedicine" => some .respiratory
  | _ => none

def reference : DoctorSpecialism → String
  | .cardiologist => "BBA3-MQPM1-001"
  | .carerOfChronicallyIllPerson => "BBA3-MQPM1-002"
  | .eyes => "BBA3-MQPM1-003"
  | .generalPractitioner => "BBA3-MQPM1-004"
  | .occupational => "BBA3-MQPM1-005"
  | .psychiatrist => "BBA3-MQPM1-006"
  | .rheumatologist => "BBA3-MQPM1-007"
  | .respiratory => "BBA3-MQPM1-008"

end DoctorSpecialism

/-- What is to become of the panel members that an adjournment names. -/
inductive PanelExclusion where
  /-- They must not sit on the next hearing. -/
  | yes
  /-- They are not constrained. -/
  | no
  /-- The next hearing is reserved to them. -/
  | reserved
  deriving DecidableEq

instance : Vocabulary PanelExclusion where
  terms := [.yes, .no, .reserved]
  code
    | .yes => "yes"
    | .no => "no"
    | .reserved => "reserved"

end TribunalListing
