-- SUMMARY: The hearing fields that a caseworker can override.
import TribunalListing.Channel
import TribunalListing.Minutes

/-!
# Overridable fields

One set of fields serves two layers. The override layer is set by caseworkers and kept on the
case; the default layer is derived from the case and thrown away.
-/

namespace TribunalListing

structure InterpreterNeed where
  wanted : Bool := false
  language : Option String := none
  dialect : Option String := none
  deriving DecidableEq, Inhabited

/-- The hearing fields that can be overridden, each set or left open. -/
structure OverrideFields where
  duration : Option Minutes := none
  appellantChannel : Option Channel := none
  appellantInterpreter : Option InterpreterNeed := none
  venueIds : Option (List String) := none
  /-- The reserved judge's id and role type, joined by a bar. -/
  reservedJudge : Option String := none
  autoList : Option Bool := none
  windowStart : Option Date := none
  deriving DecidableEq, Inhabited

end TribunalListing
