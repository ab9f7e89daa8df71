-- SUMMARY: Audit events: who wrote what to a case, and why.
import TribunalListing.Case.Wire

/-!
# Audit

Every write-back that changes a case comes with one audit event, which is stored together with the
case. The event keeps the texts of the hearing history before and after the write.
-/

namespace TribunalListing

structure Actor where
  id : String
  actorType : String
  deriving DecidableEq, Inhabited

/-- The engine acting on its own behalf. -/
def Actor.system : Actor := ⟨"hearing-sync", "system"⟩

/-- Why a write happened: the unit of work, and what started it. -/
structure Cause where
  id : String
  description : String
  deriving DecidableEq, Inhabited

/-- The hearing action whose outcome was written. -/
structure AuditAction where
  name : String
  details : Option String
  deriving DecidableEq, Inhabited

structure HistoryText where
  data : String
  deriving DecidableEq, Inhabited

def HistoryText.of (history : HearingHistory) : HistoryText :=
  ⟨history.text⟩

/-- The record of one write-back. -/
structure AuditEvent where
  caseId : String
  actor : Actor
  cause : Cause
  action : AuditAction
  before : HistoryText
  after : HistoryText
  deriving DecidableEq, Inhabited

/-! ## On the wire -/

def Actor.members (a : Actor) : Members :=
  [("id", encode a.id), ("actor_type", encode a.actorType)]

def Actor.ofMembers? (members : Members) : Option Actor := do
  let id ← members.required "id"
  let actorType ← members.required "actor_type"
  return { id, actorType }

instance : Wire Actor where
  encode a := .object a.members
  decode := decodeRecord Actor.members Actor.ofMembers?

def Cause.members (c : Cause) : Members :=
  [("id", encode c.id), ("description", encode c.description)]

def Cause.ofMembers? (members : Members) : Option Cause := do
  let id ← members.required "id"
  let description ← members.required "description"
  return { id, description }

instance : Wire Cause where
  encode c := .object c.members
  decode := decodeRecord Cause.members Cause.ofMembers?

def AuditAction.members (a : AuditAction) : Members :=
  [("name", encode a.name), ("details", encodeOption a.details)]

def AuditAction.ofMembers? (members : Members) : Option AuditAction := do
  let name ← members.required "name"
  let details ← members.optional "details"
  return { name, details }

instance : Wire AuditAction where
  encode a := .object a.members
  decode := decodeRecord AuditAction.members AuditAction.ofMembers?

def HistoryText.members (t : HistoryText) : Members :=
  [("data", encode t.data)]

def HistoryText.ofMembers? (members : Members) : Option HistoryText := do
  let data ← members.required "data"
  return { data }

instance : Wire HistoryText where
  encode t := .object t.members
  decode := decodeRecord HistoryText.members HistoryText.ofMembers?

def AuditEvent.members (e : AuditEvent) : Members :=
  [ ("case_id", encode e.caseId), ("actor", encode e.actor), ("cause", encode e.cause),
    ("action", encode e.action), ("before", encode e.before), ("after", encode e.after) ]

def AuditEvent.ofMembers? (members : Members) : Option AuditEvent := do
  let caseId ← members.required "case_id"
  let actor ← members.required "actor"
  let cause ← members.required "cause"
  let action ← members.required "action"
  let before ← members.required "before"
  let after ← members.required "after"
  return { caseId, actor, cause, action, before, after }

instance : Wire AuditEvent where
  encode e := .object e.members
  decode := decodeRecord AuditEvent.members AuditEvent.ofMembers?

end TribunalListing
