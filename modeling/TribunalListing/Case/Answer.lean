-- SUMMARY: Yes-or-no answers as they are recorded on a case.
import TribunalListing.Json.Wire

/-!
# Answers

A question on the case is answered yes, answered no, or not answered. The last two are not the
same: "not answered" and "answered no" drive different rules.
-/

namespace TribunalListing

inductive Answer where
  | yes
  | no
  deriving DecidableEq

instance : Vocabulary Answer where
  terms := [.yes, .no]
  code
    | .yes => "Yes"
    | .no => "No"

namespace Answer

def saidYes (answer : Option Answer) : Bool :=
  answer == some .yes

def saidNo (answer : Option Answer) : Bool :=
  answer == some .no

def ofBool (b : Bool) : Answer :=
  if b then .yes else .no

end Answer

end TribunalListing
