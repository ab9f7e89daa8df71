-- SUMMARY: What serving one request makes of the store, and what the requests that read it are answered.
import TribunalListing.Proofs.Engine.Listing
import TribunalListing.Proofs.Http.Work

/-!
# Serving a request

A request does something to the store in two ways only. It puts a case, and is told so; or it
delivers a trigger whose unit of work writes the case, and is told so, too. Whatever else is asked
for, and whatever fails, the store is left as it is. What is answered to a request that reads
depends on the store and on nothing else.
-/

namespace TribunalListing

open Act

/-! ## Calls on behalf of a request -/

/-- Telling that parties were notified is between the engine and the hearing service. -/
theorem makes_notifyParties {caseId hearingId : String} {receivedAt : Instant} :
    Makes (fun c => ∃ call, c = .service call)
      (notifyParties caseId hearingId receivedAt).run := by
  unfold notifyParties
  refine (makes_askService ⟨_, rfl⟩).work_bind fun listed => ?_
  cases listed.requestVersion with
  | none => exact .done _
  | some version => exact (makes_askService ⟨_, rfl⟩).work_bind fun _ => .done _

/-- Calls on the hearing service write nothing. -/
theorem writes_of_service {es : List Exchange} (h : ∀ x ∈ es, ∃ call, x.call = .service call) :
    writes es = [] := by
  refine List.filterMap_eq_nil_iff.mpr fun x hx => ?_
  obtain ⟨_ | _, reply⟩ := x
  · rfl
  · obtain ⟨call, hcall⟩ := h _ hx
    cases hcall

namespace Http

variable {σ : Type}

/-- What a request asks for, with its parameters decoded, if its path asks for anything. -/
def Request.target? (r : Request) : Option Route :=
  (Route.ofPath? r.path).bind (·.decode?)

/-- The calls that the engine makes to handle the trigger that a request delivers. -/
def Server.exchanges (server : Server σ) (request : Request) (world : Ledger × σ) :
    List Exchange :=
  match request.target?, request.method, request.read TriggerRequest with
  | some (.triggers caseId), "POST", .ok t =>
    (server.engine.handle caseId t.trigger (t.cause caseId)).run.trace
      (handler server.service) world
  | _, _, _ => []

/-! ## Served requests -/

/-- A request that was served, with the response, and with the calls that were made to handle the
trigger that it delivered. -/
structure Served where
  request : Request
  response : Response
  exchanges : List Exchange

namespace Served

variable {x : Served} {caseId caseId' : String}

/-- The request put the case and was answered 200. -/
def Puts (caseId : String) (x : Served) : Prop :=
  x.request.method = "PUT" ∧ x.request.target? = some (.case caseId) ∧ x.response.status = 200

/-- The request delivered a trigger for the case, and handling it wrote the case. -/
def Writes (caseId : String) (x : Served) : Prop :=
  x.request.method = "POST" ∧ x.request.target? = some (.triggers caseId) ∧
    writes x.exchanges ≠ []

instance : DecidablePred (Puts caseId) := fun _ =>
  inferInstanceAs (Decidable (_ ∧ _ ∧ _))

instance : DecidablePred (Writes caseId) := fun _ =>
  inferInstanceAs (Decidable (_ ∧ _ ∧ _))

/-- A request is about one case. -/
theorem Puts.eq (h : x.Puts caseId) (h' : x.Puts caseId') : caseId' = caseId := by
  have htarget := h.2.1.symm.trans h'.2.1
  cases htarget
  rfl

theorem Writes.eq (h : x.Writes caseId) (h' : x.Writes caseId') : caseId' = caseId := by
  have htarget := h.2.1.symm.trans h'.2.1
  cases htarget
  rfl

/-- A request that puts a case delivers no trigger. -/
theorem Puts.not_writes (h : x.Puts caseId) : ¬ x.Writes caseId' := by
  intro h'
  have hmethod := h.1.symm.trans h'.1
  exact absurd hmethod (by decide)

end Served

/-- What a served request made of the store. -/
inductive Effect (s : Ledger) (x : Served) : Ledger → Prop where
  /-- It neither put nor wrote a case, and left the store as it was. -/
  | none : (∀ caseId, ¬ x.Puts caseId) → (∀ caseId, ¬ x.Writes caseId) → Effect s x s
  /-- It put a case. -/
  | put {c : CaseSnapshot} {version : Int} {s' : Ledger} :
      x.Puts c.caseId → s.putCase c = .ok (version, s') → Effect s x s'
  /-- It wrote a case, once, and was answered 200. -/
  | write {caseId : String} {current : VersionedCase} {updated : CaseSnapshot} {s' : Ledger} :
      x.Writes caseId → x.response.status = 200 →
      s.row? caseId = some ⟨caseId, some current.snapshot, current.version⟩ →
      updated.caseId = current.snapshot.caseId →
      Ledger.Stores s caseId updated (current.version + 1) s' → (s.Intact → s'.Intact) →
      Effect s x s'

/-! ## Routes -/

/-- Decoding the parameters of a route does not change which methods it takes. -/
theorem Route.allows_of_decode? {raw route : Route} (h : raw.decode? = some route)
    (method : String) : raw.allows method = route.allows method := by
  cases raw with
  | «case» caseId =>
    obtain ⟨_, -, h⟩ := Option.bind_eq_some_iff.mp h
    cases h
    rfl
  | triggers caseId =>
    obtain ⟨_, -, h⟩ := Option.bind_eq_some_iff.mp h
    cases h
    rfl
  | partiesNotified caseId hearingId =>
    obtain ⟨_, -, h⟩ := Option.bind_eq_some_iff.mp h
    obtain ⟨_, -, h⟩ := Option.bind_eq_some_iff.mp h
    cases h
    rfl
  | audit caseId =>
    obtain ⟨_, -, h⟩ := Option.bind_eq_some_iff.mp h
    cases h
    rfl

/-! ## Errors -/

/-- No error is answered 200. -/
theorem ApiError.status_ne (e : ApiError) : e.response.status ≠ 200 := by
  cases e with
  | badRequest | caseNotFound | task => simp [response, statusAndKind]
  | persistence source => cases source <;> simp [response, statusAndKind]
  | engine source =>
    obtain ⟨caseId, action, failure⟩ := source
    cases failure with
    | caseStore source => cases source <;> simp [response, statusAndKind, engineStatus]
    | hearingService source =>
      cases source <;> simp [response, statusAndKind, engineStatus, serviceStatus]
    | _ => simp [response, statusAndKind, engineStatus]

theorem status_of_readShape {α : Type} [Wire α] {value : Json} {complete : Bool}
    {response : Response} (h : (readShape value complete : Except Response α) = .error response) :
    response.status ≠ 200 := by
  unfold readShape at h
  split at h
  next =>
    cases h
    decide
  next =>
    split at h
    next => cases h
    next =>
      cases h
      decide

/-- A body that cannot be read is not answered 200. -/
theorem Request.status_of_read {α : Type} [Wire α] {request : Request} {response : Response}
    (h : request.read α = .error response) : response.status ≠ 200 := by
  unfold read at h
  split at h
  next =>
    split at h
    next =>
      cases h
      decide
    next => exact status_of_readShape h
    next =>
      split at h
      next => exact status_of_readShape h
      next =>
        cases h
        decide
  next =>
    cases h
    decide

namespace Server

variable {server : Server σ} {request : Request} {world : Ledger × σ} {route : Route}
  {caseId : String}

/-- The request as it is served, with the response and with the calls that are made for it. -/
def served (server : Server σ) (request : Request) (world : Ledger × σ) : Served :=
  ⟨request, (server.serve request world).1, server.exchanges request world⟩

theorem serve_of_ne_head (h : request.method ≠ "HEAD") :
    server.serve request world = server.serveFull request world :=
  if_neg fun hhead => h (beq_iff_eq.mp hhead)

/-- A request that asks for something, by a method that is taken there, is served by its route. -/
theorem serve_of_target (htarget : request.target? = some route)
    (hallows : route.allows request.method = true) :
    server.serve request world = server.serveRoute request route world := by
  obtain ⟨raw, hraw, hdecode⟩ := Option.bind_eq_some_iff.mp htarget
  have hhead : request.method ≠ "HEAD" := by
    intro hmethod
    rw [hmethod] at hallows
    cases route <;> simp [Route.allows] at hallows
  rw [serve_of_ne_head hhead, serveFull, hraw]
  dsimp only
  rw [if_pos ((Route.allows_of_decode? hdecode _).trans hallows), hdecode]

/-- Any other request is turned down with a status alone, and the world is left as it is. -/
theorem serve_of_no_target (hhead : request.method ≠ "HEAD")
    (h : ∀ route, request.target? = some route → route.allows request.method = false) :
    ∃ status ∈ [400, 404, 405], server.serve request world = (.plain status, world) := by
  rw [serve_of_ne_head hhead, serveFull]
  cases hraw : Route.ofPath? request.path with
  | none => exact ⟨404, by simp, rfl⟩
  | some raw =>
    dsimp only
    cases hallows : raw.allows request.method with
    | false => exact ⟨405, by simp, rfl⟩
    | true =>
      rw [if_pos rfl]
      cases hdecode : raw.decode? with
      | none => exact ⟨400, by simp, rfl⟩
      | some route =>
        have hnot := h route (by rw [Request.target?, hraw, Option.bind_some, hdecode])
        rw [← Route.allows_of_decode? hdecode, hallows] at hnot
        cases hnot

/-! ## Reading -/

/-- What is shown depends on the store alone, and showing it changes nothing. -/
theorem serveRoute_get (h : request.method = "GET") (route : Route) :
    ∃ answer : Ledger → Response, ∀ (server : Server σ) (world : Ledger × σ),
      server.serveRoute request route world = (answer world.1, world) := by
  cases route with
  | «case» caseId => exact ⟨getCase caseId, fun server world => by simp only [serveRoute, h]⟩
  | audit caseId => exact ⟨getAudit caseId, fun server world => by simp only [serveRoute, h]⟩
  | triggers | partiesNotified =>
    refine ⟨fun _ => .plain 405, fun server world => ?_⟩
    simp only [serveRoute, h]
    rfl

theorem serveFull_get (h : request.method = "GET") :
    ∃ answer : Ledger → Response, ∀ (server : Server σ) (world : Ledger × σ),
      server.serveFull request world = (answer world.1, world) := by
  cases hraw : Route.ofPath? request.path with
  | none => exact ⟨fun _ => .plain 404, fun server world => by simp only [serveFull, hraw]⟩
  | some raw =>
    cases hallows : raw.allows request.method with
    | false =>
      refine ⟨fun _ => .plain 405, fun server world => ?_⟩
      simp only [serveFull, hraw, hallows]
      rfl
    | true =>
      cases hdecode : raw.decode? with
      | none =>
        refine ⟨fun _ => .plain 400, fun server world => ?_⟩
        simp only [serveFull, hraw, hallows, hdecode]
        rfl
      | some route =>
        obtain ⟨answer, hanswer⟩ := serveRoute_get (σ := σ) h route
        refine ⟨answer, fun server world => ?_⟩
        simp only [serveFull, hraw, hallows, hdecode, hanswer, if_true]

theorem serve_get (h : request.method = "GET") :
    ∃ answer : Ledger → Response, ∀ (server : Server σ) (world : Ledger × σ),
      server.serve request world = (answer world.1, world) := by
  obtain ⟨answer, hanswer⟩ := serveFull_get h
  refine ⟨answer, fun server world => ?_⟩
  rw [serve_of_ne_head (by rw [h]; decide), hanswer]

/-- A request for a case is answered with what the store shows of it. -/
theorem serve_get_case (h : request.method = "GET")
    (htarget : request.target? = some (.case caseId)) :
    server.serve request world = (getCase caseId world.1, world) := by
  rw [serve_of_target htarget (by rw [h]; rfl)]
  simp only [serveRoute, h]

/-! ## Putting cases -/

/-- A put that is not answered 200 and leaves the world as it is has no effect. -/
theorem effect_of_refused_put {response : Response} (hmethod : request.method = "PUT")
    (hserve : server.serve request world = (response, world)) (hstatus : response.status ≠ 200) :
    Effect world.1 (server.served request world) (server.serve request world).2.1 := by
  rw [hserve]
  refine .none (fun id hputs => ?_) fun id hwrites => ?_
  · have hok := hputs.2.2
    rw [served, hserve] at hok
    exact hstatus hok
  · exact absurd (hmethod.symm.trans hwrites.1) (by decide)

/-- A request that puts a case stores it under its own id, which is that of the path, and is
answered 200; or it is answered otherwise and stores nothing. -/
theorem effect_put (hmethod : request.method = "PUT")
    (htarget : request.target? = some (.case caseId)) :
    Effect world.1 (server.served request world) (server.serve request world).2.1 := by
  have hallows : (Route.case caseId).allows request.method = true := by
    rw [hmethod]
    rfl
  cases hread : request.read CaseSnapshot with
  | error response =>
    have hserve : server.serve request world = (response, world) := by
      rw [serve_of_target htarget hallows]
      simp only [serveRoute, hmethod, hread]
    exact effect_of_refused_put hmethod hserve (Request.status_of_read hread)
  | ok c =>
    have hserve : server.serve request world = putCase caseId c world := by
      rw [serve_of_target htarget hallows]
      simp only [serveRoute, hmethod, hread]
    by_cases hid : c.caseId = caseId
    · subst hid
      rw [putCase, if_neg (fun h => h rfl)] at hserve
      cases hput : world.1.putCase c with
      | error e =>
        rw [hput] at hserve
        exact effect_of_refused_put hmethod hserve (ApiError.status_ne _)
      | ok result =>
        rw [hput] at hserve
        have hputs : (server.served request world).Puts c.caseId :=
          ⟨hmethod, htarget, by rw [served, hserve]; rfl⟩
        rw [hserve]
        exact .put hputs hput
    · rw [putCase, if_pos hid] at hserve
      exact effect_of_refused_put hmethod hserve (ApiError.status_ne _)

/-! ## Triggers -/

/-- A request that delivers a trigger is served by the unit of work that handles the trigger. -/
theorem serve_trigger {t : TriggerRequest} (hmethod : request.method = "POST")
    (htarget : request.target? = some (.triggers caseId))
    (hread : request.read TriggerRequest = .ok t) :
    server.serve request world = server.handleTrigger caseId t world ∧
      server.exchanges request world =
        (server.engine.handle caseId t.trigger (t.cause caseId)).run.trace
          (handler server.service) world := by
  have hallows : (Route.triggers caseId).allows request.method = true := by
    rw [hmethod]
    rfl
  rw [serve_of_target htarget hallows]
  simp only [serveRoute, exchanges, htarget, hmethod, hread, and_self]

/-- A request whose trigger cannot be read is turned down before any call is made for it. -/
theorem serve_unread_trigger {response : Response} (hmethod : request.method = "POST")
    (htarget : request.target? = some (.triggers caseId))
    (hread : request.read TriggerRequest = .error response) :
    server.serve request world = (response, world) ∧ server.exchanges request world = [] := by
  have hallows : (Route.triggers caseId).allows request.method = true := by
    rw [hmethod]
    rfl
  rw [serve_of_target htarget hallows]
  simp only [serveRoute, exchanges, htarget, hmethod, hread, and_self]

/-- A request that delivers a trigger writes its case once and is answered 200, or it leaves the
store as it is. -/
theorem effect_trigger (hservice : ∀ c world, (server.service c world).2.1 = world.1)
    (hmethod : request.method = "POST") (htarget : request.target? = some (.triggers caseId)) :
    Effect world.1 (server.served request world) (server.serve request world).2.1 := by
  have hputs (id : String) : ¬ (server.served request world).Puts id := fun h =>
    absurd (hmethod.symm.trans h.1) (by decide)
  cases hread : request.read TriggerRequest with
  | error response =>
    obtain ⟨hserve, hexchanges⟩ :=
      @serve_unread_trigger _ server _ world _ response hmethod htarget hread
    rw [hserve]
    exact .none hputs fun id h => h.2.2 (by rw [served, hexchanges]; rfl)
  | ok t =>
    obtain ⟨hserve, hexchanges⟩ := @serve_trigger _ server _ world _ t hmethod htarget hread
    have hanswers := answers_trace (handler server.service)
      (server.engine.handle caseId t.trigger (t.cause caseId)).run world
    have hruns := runs_trace (handler server.service)
      (server.engine.handle caseId t.trigger (t.cause caseId)).run world
    rw [← hexchanges] at hanswers hruns
    by_cases hwrites : writes (server.exchanges request world) = []
    · have hsame : (server.serve request world).2.1 = world.1 := by
        rw [hserve]
        exact ledger_of_writes_eq_nil hservice hanswers hwrites
      rw [hsame]
      exact .none hputs fun id h => h.2.2 hwrites
    · obtain ⟨current, updated, hrow, hid, hstores, hintact, result, hresult⟩ :=
        stores_of_handle hservice hanswers hruns hwrites
      have hstatus : (server.serve request world).1.status = 200 := by
        rw [hserve]
        simp only [handleTrigger, perform, hresult]
        rfl
      refine .write ⟨hmethod, htarget, hwrites⟩ hstatus hrow hid ?_ ?_
      · rw [hserve]
        exact hstores
      · rw [hserve]
        exact hintact

/-! ## All requests -/

/-- Passing on that parties were notified leaves the store as it is. -/
theorem ledger_handleNotified (hservice : ∀ c world, (server.service c world).2.1 = world.1)
    {hearingId : String} {n : NotifiedRequest} :
    (server.handleNotified caseId hearingId n world).2.1 = world.1 := by
  have hanswers := answers_trace (handler server.service)
    (notifyParties caseId hearingId (n.receivedAt.getD server.now)).run world
  have hruns := runs_trace (handler server.service)
    (notifyParties caseId hearingId (n.receivedAt.getD server.now)).run world
  exact ledger_of_writes_eq_nil hservice hanswers
    (writes_of_service (makes_notifyParties.forall_mem hruns))

/-- A request that neither puts a case nor delivers a trigger leaves the store as it is. -/
theorem ledger_serve (hservice : ∀ c world, (server.service c world).2.1 = world.1)
    (hput : ∀ id, request.method = "PUT" → request.target? ≠ some (.case id))
    (htrigger : ∀ id, request.method = "POST" → request.target? ≠ some (.triggers id)) :
    (server.serve request world).2.1 = world.1 := by
  by_cases hhead : request.method = "HEAD"
  · obtain ⟨answer, hanswer⟩ :=
      serveFull_get (σ := σ) (show { request with method := "GET" }.method = "GET" from rfl)
    rw [serve, if_pos (beq_iff_eq.mpr hhead), hanswer]
  by_cases hget : request.method = "GET"
  · obtain ⟨answer, hanswer⟩ := serve_get (σ := σ) hget
    rw [hanswer]
  by_cases hserved : ∃ route, request.target? = some route ∧ route.allows request.method = true
  · obtain ⟨route, htarget, hallows⟩ := hserved
    cases route with
    | «case» id =>
      have hmethod : request.method = "PUT" := by simpa [Route.allows, hget] using hallows
      exact absurd htarget (hput id hmethod)
    | triggers id =>
      have hmethod : request.method = "POST" := by simpa [Route.allows] using hallows
      exact absurd htarget (htrigger id hmethod)
    | audit id => exact absurd (by simpa [Route.allows] using hallows) hget
    | partiesNotified id hearingId =>
      have hmethod : request.method = "POST" := by simpa [Route.allows] using hallows
      rw [serve_of_target htarget hallows]
      simp only [serveRoute, hmethod]
      split
      next => exact ledger_handleNotified hservice
      next =>
        cases request.read NotifiedRequest with
        | ok n => exact ledger_handleNotified hservice
        | error response => rfl
  · obtain ⟨status, -, hserve⟩ :
        ∃ status ∈ [400, 404, 405], server.serve request world = (.plain status, world) := by
      refine serve_of_no_target hhead fun route htarget => ?_
      rw [Bool.eq_false_iff]
      exact fun hallows => hserved ⟨route, htarget, hallows⟩
    rw [hserve]

/-- Whatever is asked for, serving the request has one of the effects that a request can have. -/
theorem effect_serve (hservice : ∀ c world, (server.service c world).2.1 = world.1) :
    Effect world.1 (server.served request world) (server.serve request world).2.1 := by
  by_cases hput : ∃ id, request.method = "PUT" ∧ request.target? = some (.case id)
  · obtain ⟨id, hmethod, htarget⟩ := hput
    exact effect_put hmethod htarget
  by_cases htrigger : ∃ id, request.method = "POST" ∧ request.target? = some (.triggers id)
  · obtain ⟨id, hmethod, htarget⟩ := htrigger
    exact effect_trigger hservice hmethod htarget
  rw [ledger_serve hservice (fun id hmethod htarget => hput ⟨id, hmethod, htarget⟩)
    fun id hmethod htarget => htrigger ⟨id, hmethod, htarget⟩]
  exact .none (fun id h => hput ⟨id, h.1, h.2.1⟩) fun id h => htrigger ⟨id, h.1, h.2.1⟩

end Server

end Http

end TribunalListing
