-- SUMMARY: The lifecycle triggers, and the hearing actions they lead to.
import TribunalListing.Request.Wire

/-!
# Triggers

A trigger says what has happened to a case that calls for a hearing action. It carries intent only:
which hearing is meant follows from the hearing history of the case.
-/

namespace TribunalListing

inductive Trigger where
  /-- Ask for a new hearing, or update the outstanding one. -/
  | createHearing
  /-- Update the latest outstanding hearing. -/
  | updateHearing
  /-- Cancel the latest outstanding hearing. -/
  | cancelHearing (reason : CancellationReason)
  /-- Mark the case as adjourned, then ask for the next hearing. -/
  | adjournCreateHearing
  /-- Anything else; no hearing action is needed. -/
  | ignored
  deriving DecidableEq

namespace Trigger

def name : Trigger → String
  | .createHearing => "CREATE_HEARING"
  | .updateHearing => "UPDATE_HEARING"
  | .cancelHearing _ => "CANCEL_HEARING"
  | .adjournCreateHearing => "ADJOURN_CREATE_HEARING"
  | .ignored => "IGNORED"

/-- The members that a trigger is written as: its name as `type`, and the reason of a
cancellation. -/
def members (t : Trigger) : Members :=
  ("type", .string t.name) ::
    match t with
    | .cancelHearing reason => [("reason", encode reason)]
    | _ => []

/-- Reads the members of a trigger; a type that is not known is ignored. -/
def ofMembers? (members : Members) : Option Trigger := do
  let kind : String ← members.required "type"
  match kind with
  | "CREATE_HEARING" => return .createHearing
  | "UPDATE_HEARING" => return .updateHearing
  | "CANCEL_HEARING" => return .cancelHearing (← members.required "reason")
  | "ADJOURN_CREATE_HEARING" => return .adjournCreateHearing
  | _ => return .ignored

instance : Wire Trigger where
  encode t := .object t.members
  decode
    | .object members => ofMembers? members
    -- a cancellation has its reason behind its type, and nothing stands behind any other type
    | .array items =>
      (ofMembers? (["type", "reason"].zip items)).filter (·.members.length = items.length)
    | _ => none

end Trigger

/-- The calls that change something at the hearing service. -/
inductive HearingAction where
  | create
  | update
  | cancel
  deriving DecidableEq

namespace HearingAction

/-- The name of the action in audit events and errors. -/
def name : HearingAction → String
  | .create => "CREATE_HEARING"
  | .update => "UPDATE_HEARING"
  | .cancel => "CANCEL_HEARING"

instance : Vocabulary HearingAction where
  terms := [.create, .update, .cancel]
  code
    | .create => "CREATE"
    | .update => "UPDATE"
    | .cancel => "CANCEL"

end HearingAction

end TribunalListing
