-- SUMMARY: The panel that the hearing requires.
import TribunalListing.Case.Snapshot
import TribunalListing.Reference.Data
import TribunalListing.Request.Error

/-!
# Panel

The session category of the case gives the slots of the panel. Members can be named as well: a
reserved judge must be included; without one, the members named on an adjournment in progress are
excluded or reserved, as the adjournment directs.
-/

namespace TribunalListing

/-! ## Types -/

/-- How a named member constrains the panel. -/
inductive PanelRequirement where
  | mustInclude
  | exclude
  deriving DecidableEq, Inhabited

instance : Vocabulary PanelRequirement where
  terms := [.mustInclude, .exclude]
  code
    | .mustInclude => "MUSTINC"
    | .exclude => "EXCLUDE"

structure PanelPreference where
  memberId : String
  memberType : String
  requirement : PanelRequirement
  deriving DecidableEq, Inhabited

structure Panel where
  roleTypes : List String
  authorisationSubTypes : List String
  specialisms : List String
  preferences : List PanelPreference
  deriving DecidableEq, Inhabited

/-! ## Member tokens -/

/-- Splits a text at its first bar. -/
def splitAtBar (s : String) : Option (String × String) :=
  match s.toList.span (· ≠ '|') with
  | (before, _ :: after) => some (String.ofList before, String.ofList after)
  | (_, []) => none

/-- The id and the role type in a member token, without white space at their ends. Both must be
written. -/
def decodeMemberToken (token : String) : Derived (String × String) :=
  match splitAtBar token with
  | some (memberId, roleType) =>
    if Text.isBlank memberId || Text.isBlank roleType then .error (.invalidPanelMemberToken token)
    else .ok (Text.trim memberId, Text.trim roleType)
  | none => .error (.invalidPanelMemberToken token)

/-! ## Slots -/

/-- The specialism references of slots. The doctor specialisms of the case are handed out to the
medically qualified slots in turn; a slot whose specialism is missing or not known gives nothing,
and still uses up its turn. -/
def slotSpecialisms (doctors : List (Option String)) : List PanelMemberType → List String
  | [] => []
  | slot :: slots =>
    if slot.isMedicallyQualified then
      match (doctors.head?.getD none).bind DoctorSpecialism.ofCaseCode? with
      | some specialism => specialism.reference :: slotSpecialisms doctors.tail slots
      | none => slotSpecialisms doctors.tail slots
    else slot.specialismReference :: slotSpecialisms doctors slots

def panelSpecialisms (c : CaseSnapshot) (category : SessionCategory) : List String :=
  slotSpecialisms [c.panelDoctorSpecialism, c.secondPanelDoctorSpecialism] category.panelMembers

/-- The role references of the slots of a category, each once. -/
def roleTypes (category : SessionCategory) : List String :=
  (category.panelMembers.map (·.reference)).eraseDups

/-! ## Named members -/

/-- The requirement that an adjournment puts on the members it names. -/
def PanelExclusion.requirement? : PanelExclusion → Option PanelRequirement
  | .yes => some .exclude
  | .reserved => some .mustInclude
  | .no => none

def NamedPanelMember.preference (m : NamedPanelMember) (requirement : PanelRequirement) :
    Derived PanelPreference := do
  let (memberId, _) ← decodeMemberToken m.member
  return { memberId, memberType := m.memberType.reference, requirement }

def Adjournment.preferences (a : Adjournment) : Derived (List PanelPreference) :=
  match a.panelMembersExcluded.bind (·.requirement?) with
  | some requirement =>
    (a.panelMembers.filter (·.memberType.isNamedOnAdjournment)).mapM (·.preference requirement)
  | none => .ok []

def reservedJudgePreference (token : String) : Derived PanelPreference := do
  let (memberId, memberType) ← decodeMemberToken token
  return { memberId, memberType, requirement := .mustInclude }

/-- Keeps the first preference for each member. -/
def firstPerMember (preferences : List PanelPreference) : List PanelPreference :=
  preferences.foldl (fun kept p => if kept.any (·.memberId == p.memberId) then kept else kept ++ [p])
    []

/-- The preferences for named members. A reserved judge comes before the adjournment. -/
def panelPreferences (c : CaseSnapshot) (reservedJudge : Option String)
    (adjournmentEnabled : Bool) : Derived (List PanelPreference) := do
  let candidates ←
    match Text.written reservedJudge with
    | some token => (reservedJudgePreference token).map ([·])
    | none =>
      if adjournmentEnabled && c.adjournment.inProgress then c.adjournment.preferences else .ok []
  return firstPerMember candidates

def requiredPanel (c : CaseSnapshot) (reference : ReferenceData) (interpreterRequired : Bool)
    (reservedJudge : Option String) (adjournmentEnabled : Bool) : Derived Panel := do
  let category ←
    match reference.sessionCategory? c.benefitCode c.issueCode interpreterRequired c.urgent with
    | some category => .ok category
    | none =>
      .error (.sessionCategoryNotFound c.benefitCode c.issueCode interpreterRequired c.urgent)
  let preferences ← panelPreferences c reservedJudge adjournmentEnabled
  return {
    roleTypes := roleTypes category
    authorisationSubTypes := [category.code]
    specialisms := panelSpecialisms c category
    preferences }

end TribunalListing
