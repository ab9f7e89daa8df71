-- SUMMARY: Responses of the server, and the responses that errors turn into.
import TribunalListing.Store.Error
import TribunalListing.Sync.Error

/-!
# Responses

A response is a status with an optional JSON body. Errors of the engine and of the store have a
status and a machine-readable kind; the body of an error carries its message and its kind.
-/

namespace TribunalListing.Http

structure Response where
  status : Nat
  body : Option Json

def Response.ok (body : Json) : Response := ⟨200, some body⟩

/-- A response with a status alone. -/
def Response.plain (status : Nat) : Response := ⟨status, none⟩

/-- What can go wrong while a request is served. -/
inductive ApiError where
  /-- The request contradicts itself. -/
  | badRequest (reason : String)
  | caseNotFound (caseId : String)
  | engine (source : EngineError)
  | persistence (source : PersistenceError)
  /-- A background task broke off. -/
  | task (reason : String)
  deriving DecidableEq

def serviceStatus : ServiceError → Nat
  | .failed .. | .unreachable _ => 503
  | .rejected .. | .unreadable _ => 502

namespace ApiError

def engineStatus : EngineFailure → Nat × String
  | .derivation source => (422, source.kind.label)
  | .noOutstandingHearing => (404, "notFound")
  | .caseStore (.notFound _) => (404, "notFound")
  | .caseStore _ => (500, "caseStore")
  | .syncExhausted .. => (409, "conflict")
  | .hearingService source => (serviceStatus source, "hearingService")
  | .hearingVersionUnknown _ => (502, "hearingService")

def statusAndKind : ApiError → Nat × String
  | .badRequest _ => (400, "badRequest")
  | .caseNotFound _ => (404, "notFound")
  | .engine source => engineStatus source.failure
  | .persistence (.caseNotFound _) => (404, "notFound")
  | .persistence _ => (500, "internal")
  | .task _ => (500, "internal")

def message : ApiError → String
  | .badRequest reason => reason
  | .caseNotFound caseId => s!"Case {caseId} not found"
  | .engine source => source.message
  | .persistence source => source.message
  | .task reason => s!"Background task failed: {reason}"

def response (e : ApiError) : Response where
  status := e.statusAndKind.1
  body := some (.object [("error", .string e.message), ("kind", .string e.statusAndKind.2)])

end ApiError

end TribunalListing.Http
