-- SUMMARY: The client of the hearing service: the request for each call, and how its reply is read.
import TribunalListing.Exchange.Call
import TribunalListing.Http.Url
import TribunalListing.Request.Wire

/-!
# The client

Every call on the hearing service is one request. A reply with a status below four hundred carries
the result as JSON, any other the explanation of a failure. A call whose request cannot be formed is
treated like a service that cannot be reached.
-/

namespace TribunalListing.Http

/-! ## Requests -/

/-- A client: where the hearing service is, and the token to show it. -/
structure Client where
  /-- The URL of the service, without a slash at its end. -/
  baseUrl : String
  token : Option String
  deriving DecidableEq

/-- A client for the service at a URL. -/
def Client.of (baseUrl : String) (token : Option String) : Client where
  baseUrl := String.ofList (baseUrl.toList.reverse.dropWhile (· = '/')).reverse
  token

structure ServiceRequest where
  method : String
  address : Address
  /-- The text of the authorization header. -/
  authorization : Option String
  body : Option Json

/-- The media type of all bodies, sent and wanted. -/
def jsonType : String := "application/json"

/-- A header can carry the text: it is printable ASCII, spaces and tabs. -/
def isHeaderText (s : String) : Bool :=
  s.toList.all fun c => (0x20 ≤ c.toNat && c.toNat < 0x7F) || c = '\t'

/-- Method, path below the base and body of a call. -/
def callShape : ServiceCall → String × String × Option Json
  | .create request => ("POST", "/hearing", some (encode request))
  | .update hearingId request => ("PUT", "/hearing/" ++ hearingId, some (encode request))
  | .cancel hearingId request => ("DELETE", "/hearing/" ++ hearingId, some (encode request))
  | .get hearingId => ("GET", "/hearing/" ++ hearingId, none)
  | .list caseId => ("GET", "/hearings/" ++ caseId, none)
  | .notify _ _ _ body => ("PUT", "/partiesNotified", some (encode body))

/-- The query of a call, which may hold an instant that cannot be written. -/
def callQuery : ServiceCall → Except ServiceError (List (String × String))
  | .notify hearingId version receivedAt _ =>
    match receivedAt.text with
    | .ok received =>
      .ok [("hearing_id", hearingId), ("version", toString version.toInt), ("received", received)]
    | .error reason => .error (.unreachable s!"unformattable timestamp: {reason.message}")
  | _ => .ok []

def Client.request (client : Client) (call : ServiceCall) : Except ServiceError ServiceRequest := do
  let query ← callQuery call
  let (method, path, body) := callShape call
  let authorization := client.token.map ("Bearer " ++ ·)
  unless authorization.all isHeaderText do throw (.unreachable "invalid header")
  match Address.ofUrl? (client.baseUrl ++ path) with
  | some address => return ⟨method, address.withQuery query, authorization, body⟩
  | none => throw (.unreachable "invalid URL")

/-! ## Replies -/

/-- A reply with this status has no body. -/
def isBodiless (status : Nat) : Bool :=
  status = 204 || status = 304

/-- Reads a body that has to have a shape. -/
def readReply {α : Type} (read : Json → Option α) (body : String) : Except ServiceError α :=
  match (Json.ofText? body).bind read with
  | some a => .ok a
  | none => .error (.unreadable "the body has the wrong shape")

/-- The listed hearings in a body; a list that is absent is empty. -/
def listedHearings? (j : Json) : Option (List ListedHearing) := do
  (← Members.ofRecord? ["caseHearings"] 1 j).withDefault "caseHearings" []

def readResult : (c : ServiceCall) → String → Except ServiceError c.Answer
  | .create _, body | .update _ _, body | .cancel _ _, body | .get _, body => readReply decode body
  | .list _, body => readReply listedHearings? body
  | .notify _ _ _ _, _ => .ok ()

structure Reply where
  status : Nat
  body : String
  deriving DecidableEq

def Reply.text (r : Reply) : String :=
  if isBodiless r.status then "" else r.body

def Reply.outcome (r : Reply) (call : ServiceCall) : Except ServiceError call.Answer :=
  if 400 ≤ r.status then .error (.ofStatus r.status r.text) else readResult call r.text

/-- Makes a call. `carry` takes a request to its authority and brings the reply, if one comes. -/
def Client.call {m : Type → Type} [Monad m] (client : Client)
    (carry : ServiceRequest → m (Option Reply)) (call : ServiceCall) :
    m (Except ServiceError call.Answer) :=
  match client.request call with
  | .error e => return .error e
  | .ok request => do
    match ← carry request with
    | some reply => return reply.outcome call
    | none => return .error (.unreachable "no reply")

end TribunalListing.Http
