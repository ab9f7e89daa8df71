-- SUMMARY: The roles that parties play on a case.
import TribunalListing.Json.Wire

/-!
# Roles

The role of a party is set where the party record is built. A party that acts for another one is
linked to it by the relationship code of its own role.
-/

namespace TribunalListing

inductive PartyRole where
  | appellant
  | appointee
  | representative
  | jointParty
  | otherParty
  | respondent
  deriving DecidableEq, Inhabited

namespace PartyRole

/-- The hearing service's code for the role. -/
def code : PartyRole → String
  | .appellant => "APEL"
  | .appointee => "APIN"
  | .representative => "RPTT"
  | .jointParty => "JOPA"
  | .otherParty => "OTPA"
  | .respondent => "RESP"

instance : Vocabulary PartyRole where
  terms := [.appellant, .appointee, .representative, .jointParty, .otherParty, .respondent]
  code := PartyRole.code

/-- The code of the link to the party acted for; a party that acts for nobody has none. -/
def relationship? : PartyRole → Option String
  | .appointee => some "APPOINTEE"
  | .representative => some "REPRESENTATIVE"
  | .jointParty => some "JOINT_PARTY"
  | .otherParty => some "OTHER_PARTY"
  | .appellant | .respondent => none

end PartyRole

inductive PartyType where
  | individual
  | organisation
  deriving DecidableEq, Inhabited

instance : Vocabulary PartyType where
  terms := [.individual, .organisation]
  code
    | .individual => "INDIVIDUAL"
    | .organisation => "ORGANISATION"

end TribunalListing
