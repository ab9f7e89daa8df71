-- SUMMARY: Handing out party ids, and copying them from one snapshot of a case to another.
import TribunalListing.Case.Place
import TribunalListing.Request.Error
import TribunalListing.Text.Numeral

/-!
# Party ids

A party without an id is given the next number above all numeric ids on the case. Ids of people
who are recorded without being a party count as well, so an id is never handed out twice. Ids that
were handed out on one snapshot can be copied to the same places of another one.
-/

namespace TribunalListing

/-- The largest number that can be a party id. -/
def maxPartyNumber : Nat := 18446744073709551615

/-- The number that an id denotes, if it is numeric. White space around it does not count. -/
def partyNumber? (id : String) : Option Nat :=
  Text.readNatural maxPartyNumber (Text.trim id)

namespace CaseSnapshot

/-- The highest number among the ids recorded anywhere on the case; zero without any. -/
def highestPartyNumber (c : CaseSnapshot) : Nat :=
  (c.heldIds.filterMap partyNumber?).foldl max 0

/-! ## Handing out -/

/-- The numbers that follow a number, as ids. -/
def idsAbove (number count : Nat) : List String :=
  (List.range count).map fun k => toString (number + 1 + k)

/-- Gives an id to every party that lacks one, each above `floor` and above every numeric id on the
case. Gives the case with the ids, and the ids in party order. -/
def assignIdsAbove (c : CaseSnapshot) (floor : Nat) : Derived (CaseSnapshot × List String) :=
  let vacant := c.vacantPlaces
  let highest := max c.highestPartyNumber floor
  if 0 < vacant.length && maxPartyNumber < highest + vacant.length then
    .error (.partyIdsExhausted highest)
  else
    let ids := idsAbove highest vacant.length
    .ok (c.withIds (vacant.zip ids), ids)

/-- Gives an id to every party that lacks one. -/
def assignIds (c : CaseSnapshot) : Derived (CaseSnapshot × List String) :=
  c.assignIdsAbove 0

/-! ## Copying -/

/-- A place is for the same party on both snapshots. Other parties go by their position, so that
their names have to agree as well. -/
def sameParty (source target : CaseSnapshot) (place : Place) : Bool :=
  match place.otherIndex? with
  | none => true
  | some i =>
    match source.otherParties[i]?, target.otherParties[i]? with
    | some p, some q => p.name = q.name
    | _, _ => false

/-- The id that a snapshot has to offer to the same party on another one. -/
def offeredId? (source target : CaseSnapshot) (place : Place) : Option String :=
  if source.isActive place && source.sameParty target place then
    Text.written (source.idAt place)
  else none

/-- Chooses the ids to copy to the given places; an id that is taken already is passed over. -/
def chooseIds (source target : CaseSnapshot) (taken : List String) :
    List Place → List (Place × String)
  | [] => []
  | place :: places =>
    match source.offeredId? target place with
    | some id =>
      if taken.contains id then chooseIds source target taken places
      else (place, id) :: chooseIds source target (taken ++ [id]) places
    | none => chooseIds source target taken places

/-- The ids that are copied from one snapshot to another, with their places. -/
def copiedIds (source target : CaseSnapshot) : List (Place × String) :=
  source.chooseIds target target.heldIds target.vacantPlaces

/-- The target with the ids of the source copied to the parties that lack one. -/
def copyIds (source target : CaseSnapshot) : CaseSnapshot :=
  target.withIds (source.copiedIds target)

end CaseSnapshot

end TribunalListing
