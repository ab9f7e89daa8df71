-- SUMMARY: The places that parties take on a case, and the ids held at them.
import TribunalListing.Case.Role
import TribunalListing.Case.Snapshot

/-!
# Places on a case

Every party takes a place on the case. A place is taken while the party is recorded; it is active
while the party is flagged as present, too. Places are visited in one fixed order: the appellant,
the appellant's appointee, the representative, the joint party, then each other party, followed by
its own appointee and representative. `idAt` and `withId` read and write the id at a place.
-/

namespace TribunalListing

/-- A place that a party can take on a case. Other parties are counted from zero. -/
inductive Place where
  | appellant
  | appellantAppointee
  | representative
  | jointParty
  | otherParty (index : Nat)
  | otherPartyAppointee (index : Nat)
  | otherPartyRepresentative (index : Nat)
  deriving DecidableEq

namespace Place

/-- The other party that a place belongs to. -/
def otherIndex? : Place → Option Nat
  | .otherParty i | .otherPartyAppointee i | .otherPartyRepresentative i => some i
  | .appellant | .appellantAppointee | .representative | .jointParty => none

def role : Place → PartyRole
  | .appellant => .appellant
  | .appellantAppointee | .otherPartyAppointee _ => .appointee
  | .representative | .otherPartyRepresentative _ => .representative
  | .jointParty => .jointParty
  | .otherParty _ => .otherParty

/-- The place of the party that the party at a place acts for, or is on the case beside. -/
def actsFor? : Place → Option Place
  | .appellant => none
  | .appellantAppointee | .representative | .jointParty | .otherParty _ => some .appellant
  | .otherPartyAppointee i | .otherPartyRepresentative i => some (.otherParty i)

end Place

/-! ## Taken places -/

/-- The three places that belong to an other party. -/
def otherPlaces (index : Nat) : List Place :=
  [.otherParty index, .otherPartyAppointee index, .otherPartyRepresentative index]

namespace CaseSnapshot

/-- Every place that there could be a party at, in order. -/
def places (c : CaseSnapshot) : List Place :=
  [.appellant, .appellantAppointee, .representative, .jointParty] ++
    (List.range c.otherParties.length).flatMap otherPlaces

/-- A party is recorded at the place and flagged as present. -/
def isActive (c : CaseSnapshot) : Place → Bool
  | .appellant => true
  | .appellantAppointee => c.appellant.actingAppointee.isSome
  | .representative => c.presentRepresentative.isSome
  | .jointParty => c.presentJointParty.isSome
  | .otherParty i => c.otherParties[i]?.isSome
  | .otherPartyAppointee i => (c.otherParties[i]?.bind (·.actingAppointee)).isSome
  | .otherPartyRepresentative i => (c.otherParties[i]?.bind (·.presentRepresentative)).isSome

/-- The places of the parties, in order. -/
def activePlaces (c : CaseSnapshot) : List Place :=
  c.places.filter c.isActive

/-! ## Ids at places -/

/-- The id that is recorded at a place, whether the place is active or not. -/
def idAt (c : CaseSnapshot) : Place → Option String
  | .appellant => c.appellant.id
  | .appellantAppointee => c.appellant.appointee.bind (·.id)
  | .representative => c.representative.bind (·.id)
  | .jointParty => c.jointParty.bind (·.person.id)
  | .otherParty i => c.otherParties[i]?.bind (·.id)
  | .otherPartyAppointee i => c.otherParties[i]?.bind fun p => p.appointee.bind (·.id)
  | .otherPartyRepresentative i => c.otherParties[i]?.bind fun p => p.representative.bind (·.id)

def modifyOther (c : CaseSnapshot) (index : Nat) (f : OtherParty → OtherParty) : CaseSnapshot :=
  { c with otherParties := c.otherParties.modify index f }

/-- The case with an id put at a place; nothing changes where nobody is recorded. -/
def withId (c : CaseSnapshot) (id : String) : Place → CaseSnapshot
  | .appellant => { c with appellant.id := some id }
  | .appellantAppointee =>
    { c with appellant.appointee := c.appellant.appointee.map ({ · with id := some id }) }
  | .representative => { c with representative := c.representative.map ({ · with id := some id }) }
  | .jointParty => { c with jointParty := c.jointParty.map ({ · with person.id := some id }) }
  | .otherParty i => c.modifyOther i ({ · with id := some id })
  | .otherPartyAppointee i =>
    c.modifyOther i fun p => { p with appointee := p.appointee.map ({ · with id := some id }) }
  | .otherPartyRepresentative i =>
    c.modifyOther i fun p =>
      { p with representative := p.representative.map ({ · with id := some id }) }

/-- The case with ids put at several places, one after the other. -/
def withIds (c : CaseSnapshot) (ids : List (Place × String)) : CaseSnapshot :=
  ids.foldl (fun c (place, id) => c.withId id place) c

/-- The active places that lack an id: there is none, or it is blank. -/
def vacantPlaces (c : CaseSnapshot) : List Place :=
  c.activePlaces.filter fun place => Text.unwritten (c.idAt place)

/-- The ids that are written at any place, active or not, without white space at their ends. -/
def heldIds (c : CaseSnapshot) : List String :=
  c.places.filterMap fun place => (Text.written (c.idAt place)).map Text.trim

end CaseSnapshot

end TribunalListing
