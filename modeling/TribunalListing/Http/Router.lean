-- SUMMARY: The HTTP surface: which request does what to the store and the engine.
import TribunalListing.Engine
import TribunalListing.Http.MediaType
import TribunalListing.Http.Percent
import TribunalListing.Http.Response
import TribunalListing.Store.Ledger

/-!
# The router

There are four routes: a case, its triggers, its audit events, and the notice that the parties to
one of its hearings were notified. A request is turned down before it reaches the store if its path,
its method or its body does not fit. The hearing service is whatever answers the engine's calls; it
may look at the store while it does.
-/

namespace TribunalListing.Http

/-! ## Requests -/

/-- A body, as it comes in. -/
inductive Body where
  /-- A body that is one JSON value. -/
  | json (value : Json)
  /-- Any other text. -/
  | text (raw : String)

structure Request where
  method : String
  /-- The path as it was sent, with an optional query. -/
  path : String
  contentType : Option String
  body : Option Body

/-- What the path of a request asks for. The parameters are still encoded. -/
inductive Route where
  | case (caseId : String)
  | triggers (caseId : String)
  | partiesNotified (caseId hearingId : String)
  | audit (caseId : String)
  deriving DecidableEq

def pathOnly (path : String) : List Char :=
  path.toList.takeWhile fun c => c ≠ '?' && c ≠ '#'

def pathParts (path : String) : List String :=
  ((pathOnly path).splitOn '/').map String.ofList

namespace Route

/-- What a path asks for. The last part of a path must not be empty. -/
def ofPath? (path : String) : Option Route :=
  match pathParts path with
  | ["", "cases", caseId] => if caseId.isEmpty then none else some (.case caseId)
  | ["", "cases", caseId, "triggers"] => some (.triggers caseId)
  | ["", "cases", caseId, "audit"] => some (.audit caseId)
  | ["", "cases", caseId, "hearings", hearingId, "parties-notified"] =>
    some (.partiesNotified caseId hearingId)
  | _ => none

def allows : Route → String → Bool
  | .case _, method => method == "GET" || method == "PUT"
  | .audit _, method => method == "GET"
  | .triggers _, method | .partiesNotified _ _, method => method == "POST"

/-- The route with its parameters decoded; none if they are not UTF-8. -/
def decode? : Route → Option Route
  | .case caseId => return .case (← percentDecode? caseId)
  | .triggers caseId => return .triggers (← percentDecode? caseId)
  | .partiesNotified caseId hearingId =>
    return .partiesNotified (← percentDecode? caseId) (← percentDecode? hearingId)
  | .audit caseId => return .audit (← percentDecode? caseId)

end Route

/-! ## Bodies -/

/-- The content type is there and announces JSON. -/
def Request.announcesJson (r : Request) : Bool :=
  r.contentType.any isJsonType

/-- Reads a JSON value that has to have a shape; a value of another shape is turned down before it
is noticed that something follows it. -/
def readShape {α : Type} [Wire α] (value : Json) (complete : Bool) : Except Response α :=
  match decode value with
  | none => .error (.plain 422)
  | some a => if complete then .ok a else .error (.plain 400)

/-- Reads the body of a request. A text that is not JSON is turned down as such, even where the
beginning of it has the wrong shape already. -/
def Request.read (α : Type) [Wire α] (r : Request) : Except Response α :=
  if r.announcesJson then
    match r.body with
    | none => .error (.plain 400)
    | some (.json value) => readShape value true
    | some (.text raw) =>
      match Json.takeLeading? raw with
      | some (value, complete) => readShape value complete
      | none => .error (.plain 400)
  else .error (.plain 415)

/-- A trigger as it is delivered, with an id that ties the audit event to the caller's request. -/
structure TriggerRequest where
  trigger : Trigger
  causeId : Option String
  deriving DecidableEq

instance : Wire TriggerRequest where
  encode t :=
    .object (("trigger", encode t.trigger) ::
      (t.causeId.map fun id => ("causeId", Json.string id)).toList)
  decode j := do
    let members ← Members.ofRecord? ["trigger", "causeId"] 1 j
    let trigger ← members.required "trigger"
    let causeId ← members.optional "causeId"
    return { trigger, causeId }

/-- Instants stand in messages as RFC 3339 text. -/
instance : Wire Instant where
  encode t := .string (t.text.toOption.getD "")
  decode
    | .string s => Instant.ofText? s
    | _ => none

/-- The notice that parties were notified; without an instant, that of the request counts. -/
structure NotifiedRequest where
  receivedAt : Option Instant
  deriving DecidableEq

instance : Wire NotifiedRequest where
  encode n := .object [("receivedAt", encodeOption n.receivedAt)]
  decode j := do
    let members ← Members.ofRecord? ["receivedAt"] 1 j
    let receivedAt ← members.optional "receivedAt"
    return { receivedAt }

/-! ## Bodies of responses -/

def caseBody (version : Int) (c : CaseSnapshot) : Json :=
  .object [("version", .integer version), ("case", encode c)]

def resultBody : SyncResult → Json
  | .ignored => .object [("applied", .bool false)]
  | .applied action hearing caseVersion =>
    .object [("applied", .bool true), ("action", .string action.name),
      ("hearingId", .string hearing.hearingId), ("version", encode hearing.version),
      ("status", encode hearing.status), ("caseVersion", .integer caseVersion)]

def notifiedBody (hearingId : String) (version : Int64) : Json :=
  .object [("hearingId", .string hearingId), ("version", encode version)]

def auditBody (e : StoredAuditEvent) : Json :=
  .object [("eventId", .integer e.eventId), ("caseVersion", .integer e.caseVersion),
    ("event", encode e.event)]

/-- The cause that is recorded for a delivered trigger. -/
def TriggerRequest.cause (t : TriggerRequest) (caseId : String) : Cause where
  id := t.causeId.getD (t.trigger.name ++ "-" ++ caseId)
  description := t.trigger.name ++ " trigger"

/-! ## Serving -/

/-- A hearing service that answers calls, and may look at the store and change it meanwhile. -/
abbrev ServiceHandler (σ : Type) :=
  (c : ServiceCall) → Ledger × σ → Except ServiceError c.Answer × (Ledger × σ)

/-- Answers the engine's calls from the store and from a hearing service. -/
def handler {σ : Type} (service : ServiceHandler σ) : Act.Handler (Ledger × σ)
  | .service c, world => service c world
  | .store c, (ledger, s) =>
    let (reply, ledger) := ledger.answer c
    (reply, (ledger, s))

/-- The server: its engine, its hearing service, and the instant at which it serves a request. -/
structure Server (σ : Type) where
  engine : Engine
  service : ServiceHandler σ
  now : Instant

/-- The response to work that ended with a result or an error. -/
def settle {α : Type} (body : α → Json) : Except ApiError α → Response
  | .ok a => .ok (body a)
  | .error e => e.response

namespace Server

variable {σ : Type}

def perform {α : Type} (server : Server σ) (work : Work α) (world : Ledger × σ) :
    Except ApiError α × (Ledger × σ) :=
  let (result, world) := Act.run (handler server.service) work.run world
  (result.mapError .engine, world)

/-- Stores a case as it is. The case has to be the one that the path names. -/
def putCase (caseId : String) (c : CaseSnapshot) (world : Ledger × σ) :
    Response × (Ledger × σ) :=
  if c.caseId ≠ caseId then
    ((ApiError.badRequest
      s!"Case id {c.caseId} in body does not match path {caseId}").response, world)
  else
    let (result, ledger) := world.1.commit (world.1.putCase c)
    (settle (caseBody · c) (result.mapError .persistence), (ledger, world.2))

def getCase (caseId : String) (ledger : Ledger) : Response :=
  match ledger.getCase caseId with
  | .ok stored => .ok (caseBody stored.version stored.snapshot)
  | .error (.caseNotFound _) => (ApiError.caseNotFound caseId).response
  | .error e => (ApiError.persistence e).response

def getAudit (caseId : String) (ledger : Ledger) : Response :=
  settle (fun events => .array (events.map auditBody))
    ((ledger.auditEvents caseId).mapError .persistence)

def handleTrigger (server : Server σ) (caseId : String) (t : TriggerRequest)
    (world : Ledger × σ) : Response × (Ledger × σ) :=
  let (result, world) := server.perform (server.engine.handle caseId t.trigger (t.cause caseId)) world
  (settle resultBody result, world)

/-- Passes on that parties were notified. -/
def handleNotified (server : Server σ) (caseId hearingId : String) (n : NotifiedRequest)
    (world : Ledger × σ) : Response × (Ledger × σ) :=
  let (result, world) :=
    server.perform (notifyParties caseId hearingId (n.receivedAt.getD server.now)) world
  (settle (notifiedBody hearingId) result, world)

/-- Serves a request whose parameters have been decoded. A body that is optional may be left out
together with its content type. -/
def serveRoute (server : Server σ) (request : Request) (route : Route) (world : Ledger × σ) :
    Response × (Ledger × σ) :=
  match route, request.method with
  | .case caseId, "GET" => (getCase caseId world.1, world)
  | .case caseId, "PUT" =>
    match request.read CaseSnapshot with
    | .ok c => putCase caseId c world
    | .error response => (response, world)
  | .triggers caseId, "POST" =>
    match request.read TriggerRequest with
    | .ok t => server.handleTrigger caseId t world
    | .error response => (response, world)
  | .partiesNotified caseId hearingId, "POST" =>
    if request.contentType.isNone then server.handleNotified caseId hearingId ⟨none⟩ world
    else
      match request.read NotifiedRequest with
      | .ok n => server.handleNotified caseId hearingId n world
      | .error response => (response, world)
  | .audit caseId, "GET" => (getAudit caseId world.1, world)
  | _, _ => (.plain 405, world)

/-- Serves a request. An unknown path is noticed before a method that the path does not take, and
that before parameters that are not UTF-8. -/
def serveFull (server : Server σ) (request : Request) (world : Ledger × σ) :
    Response × (Ledger × σ) :=
  match Route.ofPath? request.path with
  | none => (.plain 404, world)
  | some route =>
    if route.allows request.method then
      match route.decode? with
      | some route => server.serveRoute request route world
      | none => (.plain 400, world)
    else (.plain 405, world)

/-- Serves a request; one for the head alone is served like one for the whole, without a body. -/
def serve (server : Server σ) (request : Request) (world : Ledger × σ) :
    Response × (Ledger × σ) :=
  if request.method == "HEAD" then
    let (response, world) := server.serveFull { request with method := "GET" } world
    (.plain response.status, world)
  else server.serveFull request world

end Server

end TribunalListing.Http
