-- SUMMARY: JSON values, with objects as ordered lists of members.

/-!
# JSON values

An object is the list of its members in the order in which they were written, and a key may stand
in it more than once: whether that is an error is for the reader of a record to say. A number
without fraction and exponent is an integer of any size, unless it is minus zero; any other number is
kept as it was written.
-/

namespace TribunalListing

inductive Json where
  | null
  | bool (b : Bool)
  | integer (n : Int)
  /-- A number with a fraction or an exponent, or minus zero, as written. -/
  | decimal (text : String)
  | string (s : String)
  | array (items : List Json)
  | object (members : List (String × Json))
  deriving Inhabited

namespace Json

/-- Drops every member that is followed by another one with its key. -/
def keepLast : List (String × Json) → List (String × Json)
  | [] => []
  | (key, value) :: rest =>
    if rest.any (·.1 == key) then keepLast rest else (key, value) :: keepLast rest

mutual

/-- The value in which every key of every object stands once, with the value written last. -/
def lastWins : Json → Json
  | .array items => .array (lastWinsItems items)
  | .object members => .object (keepLast (lastWinsMembers members))
  | j => j

def lastWinsItems : List Json → List Json
  | [] => []
  | j :: js => lastWins j :: lastWinsItems js

def lastWinsMembers : List (String × Json) → List (String × Json)
  | [] => []
  | (key, j) :: rest => (key, lastWins j) :: lastWinsMembers rest

end

end Json

end TribunalListing
