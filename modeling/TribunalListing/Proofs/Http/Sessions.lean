-- SUMMARY: What any sequence of requests makes of a store that was empty at first.
import TribunalListing.Proofs.Http.Serving
import TribunalListing.Proofs.Store.Operations

/-!
# Sequences of requests

Requests are served one after another. From an empty store on, what was served tells how often each
case was stored: once for every time that it was put, and once for every trigger that wrote it. That
is the version of the case, and `Counts` says so. It holds of the empty store, and serving one more
request keeps it.
-/

namespace TribunalListing.Http

variable {σ : Type}

/-! ## Serving one after another -/

/-- A request, and the instant at which it is served. -/
structure Arrival where
  request : Request
  instant : Instant

/-- Serves requests one after another. -/
def Server.serveAll (server : Server σ) :
    List Arrival → Ledger × σ → List Served × (Ledger × σ)
  | [], world => ([], world)
  | arrival :: arrivals, world =>
    let atInstant := { server with now := arrival.instant }
    let rest := server.serveAll arrivals (atInstant.serve arrival.request world).2
    (atInstant.served arrival.request world :: rest.1, rest.2)

/-- How often a case was stored: the times that it was put, and the triggers that wrote it. -/
def timesStored (caseId : String) (log : List Served) : Nat :=
  log.countP (fun x => x.Puts caseId) + log.countP (fun x => x.Writes caseId)

/-- The store holds each case under its own id, at a version that is the number of times that it was
stored, and it holds no other cases. -/
structure Counts (log : List Served) (s : Ledger) : Prop where
  intact : s.Intact
  row : ∀ caseId, (timesStored caseId log = 0 ∧ s.row? caseId = none) ∨
    ∃ c : CaseSnapshot, c.caseId = caseId ∧
      s.row? caseId = some ⟨caseId, some c, timesStored caseId log⟩

variable {log : List Served} {x : Served} {s s' : Ledger} {caseId : String}

theorem timesStored_concat (caseId : String) (log : List Served) (x : Served) :
    timesStored caseId (log ++ [x]) =
      timesStored caseId log + if x.Puts caseId ∨ x.Writes caseId then 1 else 0 := by
  unfold timesStored
  by_cases hputs : x.Puts caseId
  · have hwrites : ¬ x.Writes caseId := hputs.not_writes
    simp [hputs, hwrites]
    omega
  · by_cases hwrites : x.Writes caseId
    · simp [hputs, hwrites]
      omega
    · simp [hputs, hwrites]

namespace Counts

theorem empty : Counts [] Ledger.empty :=
  ⟨Ledger.intact_empty, fun _ => .inl ⟨rfl, rfl⟩⟩

/-- Storing one case at its next version counts as one more time for that case. -/
theorem concat {c : CaseSnapshot} (h : Counts log s) (hintact : s'.Intact)
    (hstores : Ledger.Stores s c.caseId c (timesStored c.caseId log + 1) s')
    (hx : ∀ caseId, (x.Puts caseId ∨ x.Writes caseId) ↔ caseId = c.caseId) :
    Counts (log ++ [x]) s' := by
  refine ⟨hintact, fun caseId => ?_⟩
  rw [hstores, timesStored_concat]
  by_cases hid : caseId = c.caseId
  · rw [if_pos hid, if_pos ((hx caseId).mpr hid), hid]
    exact .inr ⟨c, rfl, rfl⟩
  · rw [if_neg hid, if_neg fun hstored => hid ((hx caseId).mp hstored)]
    exact h.row caseId

/-- A case that is put is put at one more than the number of times that it was stored. -/
theorem version_put (h : Counts log s) (caseId : String) :
    (s.row? caseId).elim 1 (·.version + 1) = (timesStored caseId log : Int) + 1 := by
  rcases h.row caseId with ⟨htimes, hrow⟩ | ⟨c, -, hrow⟩
  · rw [hrow, htimes]
    rfl
  · rw [hrow]
    rfl

/-- Whatever serving a request has made of the store, it is counted. -/
theorem effect (h : Counts log s) (heffect : Effect s x s') : Counts (log ++ [x]) s' := by
  cases heffect with
  | none hputs hwrites =>
    refine ⟨h.intact, fun caseId => ?_⟩
    rw [timesStored_concat, if_neg (not_or.mpr ⟨hputs caseId, hwrites caseId⟩)]
    exact h.row caseId
  | @put c version s' hputs hput =>
    obtain ⟨hversion, hstores⟩ := Ledger.stores_of_putCase hput
    rw [hversion, h.version_put] at hstores
    have hintact := (h.intact.commit_putCase c).1
    rw [hput] at hintact
    refine h.concat hintact hstores fun caseId => ⟨?_, ?_⟩
    · rintro (hputs' | hwrites)
      · exact hputs.eq hputs'
      · exact absurd hwrites hputs.not_writes
    · rintro rfl
      exact .inl hputs
  | @write id current updated s' hwrites _ hrow hid hstores hintact =>
    rcases h.row id with ⟨-, hnone⟩ | ⟨c, hc, hsome⟩
    · rw [hnone] at hrow
      cases hrow
    · -- the case that was read is the one in the row, so what was written has its id
      obtain ⟨-, hsnapshot, hversion⟩ :=
        CaseRow.mk.inj (Option.some.inj (hsome.symm.trans hrow))
      have hupdated : updated.caseId = id := by rw [hid, ← Option.some.inj hsnapshot, hc]
      subst hupdated
      rw [← hversion] at hstores
      refine h.concat (hintact h.intact) hstores fun caseId => ⟨?_, ?_⟩
      · rintro (hputs | hwrites')
        · exact absurd hwrites hputs.not_writes
        · exact hwrites.eq hwrites'
      · rintro rfl
        exact .inr hwrites

/-- Whatever is served from then on, it is counted. -/
theorem serveAll {server : Server σ} (hservice : ∀ c world, (server.service c world).2.1 = world.1)
    (arrivals : List Arrival) {world : Ledger × σ} (h : Counts log world.1) :
    Counts (log ++ (server.serveAll arrivals world).1) (server.serveAll arrivals world).2.1 := by
  induction arrivals generalizing log world with
  | nil =>
    rw [Server.serveAll, List.append_nil]
    exact h
  | cons arrival arrivals ih =>
    have hfirst := h.effect
      (@Server.effect_serve σ { server with now := arrival.instant } arrival.request world hservice)
    have hrest := ih hfirst
    rw [List.append_assoc] at hrest
    exact hrest

/-- A case that was never stored is not there, and any other is shown at the number of times that it
was stored. -/
theorem getCase_cases (h : Counts log s) (caseId : String) :
    (timesStored caseId log = 0 ∧ (Server.getCase caseId s).status = 404) ∨
      ∃ c : CaseSnapshot, c.caseId = caseId ∧
        Server.getCase caseId s = .ok (caseBody (timesStored caseId log) c) := by
  rcases h.row caseId with ⟨htimes, hrow⟩ | ⟨c, hid, hrow⟩
  · refine .inl ⟨htimes, ?_⟩
    rw [Server.getCase, h.intact.getCase_eq_error hrow]
    rfl
  · have hget : s.getCase caseId = .ok ⟨c, timesStored caseId log⟩ :=
      Ledger.getCase_eq_ok_iff.mpr hrow
    refine .inr ⟨c, hid, ?_⟩
    rw [Server.getCase, hget]

end Counts

/-! ## Requests that leave everything as it is -/

/-- The response tells of a success. -/
def Response.isSuccess (r : Response) : Prop :=
  200 ≤ r.status ∧ r.status < 300

/-- A request that has nothing to change: it reads, it delivers a trigger that is ignored, or it
passes on that parties were notified. -/
inductive Request.Idle (r : Request) : Prop where
  | reads : r.method = "GET" → Idle r
  | ignored {caseId : String} {t : TriggerRequest} :
      r.method = "POST" → r.target? = some (.triggers caseId) → r.read TriggerRequest = .ok t →
      t.trigger = .ignored → Idle r
  | notifies {caseId hearingId : String} :
      r.target? = some (.partiesNotified caseId hearingId) → Idle r

variable {server : Server σ} {request : Request} {world : Ledger × σ}

theorem Request.Idle.not_puts (h : request.Idle) (caseId : String) :
    ¬ (server.served request world).Puts caseId := by
  rintro ⟨hmethod, htarget, -⟩
  cases h with
  | reads hget => exact absurd (hmethod.symm.trans hget) (by decide)
  | ignored hpost => exact absurd (hmethod.symm.trans hpost) (by decide)
  | notifies hnotifies => cases htarget.symm.trans hnotifies

theorem Request.Idle.not_writes (h : request.Idle) (caseId : String) :
    ¬ (server.served request world).Writes caseId := by
  rintro ⟨hmethod, htarget, hwrites⟩
  cases h with
  | reads hget => exact absurd (hmethod.symm.trans hget) (by decide)
  | ignored hpost htarget' hread hignored =>
    have hexchanges : server.exchanges request world = [] := by
      simp only [Server.exchanges, hpost, htarget', hread, hignored]
      rfl
    refine hwrites ?_
    rw [Server.served, hexchanges]
    rfl
  | notifies hnotifies => cases htarget.symm.trans hnotifies

/-- What serving a request has made of the store is nothing, where the request fails or has nothing
to change. -/
theorem ledger_of_idle (hservice : ∀ c world, (server.service c world).2.1 = world.1)
    (h : ¬ (server.serve request world).1.isSuccess ∨ request.Idle) :
    (server.serve request world).2.1 = world.1 := by
  have hok : (server.serve request world).1.status = 200 →
      (server.serve request world).1.isSuccess := by
    intro hstatus
    rw [Response.isSuccess, hstatus]
    decide
  have heffect := @Server.effect_serve σ server request world hservice
  generalize (server.serve request world).2.1 = s' at heffect ⊢
  cases heffect with
  | none => rfl
  | put hputs _ =>
    rcases h with hfails | hidle
    · exact absurd (hok hputs.2.2) hfails
    · exact absurd hputs (hidle.not_puts _)
  | write hwrites hstatus _ _ _ _ =>
    rcases h with hfails | hidle
    · exact absurd (hok hstatus) hfails
    · exact absurd hwrites (hidle.not_writes _)

/-! ## Any sequence of requests -/

/-- Requests are served one after another, from an empty store on, by a hearing service that may do
anything but change the store. Then a request for a case is answered with a case that has the id
that was asked for. Its version is the number of times that the case was put and the put was
answered 200, together with the number of triggers for the case that wrote it. If there were none,
the answer is 404. Whatever is served next leaves all that a reading request would be answered, be
it on a case or on its audit events, unless it is answered with a success; and even then if it
reads, delivers a trigger that is ignored, or passes on that parties were notified. -/
theorem cases_count_requests (hservice : ∀ c world, (server.service c world).2.1 = world.1)
    {s : σ} {arrivals : List Arrival} {log : List Served}
    (h : server.serveAll arrivals (Ledger.empty, s) = (log, world)) :
    (∀ (caseId : String) (request : Request), request.method = "GET" →
      request.target? = some (.case caseId) →
      (timesStored caseId log = 0 ∧ (server.serve request world).1.status = 404) ∨
      ∃ c : CaseSnapshot, c.caseId = caseId ∧
        (server.serve request world).1 = .ok (caseBody (timesStored caseId log) c)) ∧
    ∀ request : Request, ¬ (server.serve request world).1.isSuccess ∨ request.Idle →
      ∀ reading : Request, reading.method = "GET" →
        (server.serve reading (server.serve request world).2).1 =
          (server.serve reading world).1 := by
  have hempty : Counts [] (Ledger.empty, s).1 := .empty
  have hcounts := hempty.serveAll hservice arrivals
  rw [h, List.nil_append] at hcounts
  refine ⟨fun caseId request hmethod htarget => ?_, fun request hidle reading hmethod => ?_⟩
  · rw [Server.serve_get_case hmethod htarget]
    exact hcounts.getCase_cases caseId
  · obtain ⟨answer, hanswer⟩ := Server.serve_get (σ := σ) hmethod
    rw [hanswer, hanswer, ledger_of_idle hservice hidle]

/-- A server whose hearing service answers from a script. -/
def scriptedServer : Server Cast where
  engine := lateEngine
  service := scriptedService
  now := ⟨⟨2024, 1, 1, by decide⟩, 0, 0, 0⟩

/-- A request with a body. -/
def jsonRequest (method path : String) (body : Json) : Request :=
  ⟨method, path, some "application/json", some (.json body)⟩

/-- A request without a body. -/
def bareRequest (path : String) : Request :=
  ⟨"GET", path, none, none⟩

/-- A script in which the hearing that is asked for is accepted. -/
def acceptingCast : Cast where
  script := {
    create := [⟨none, .ok ⟨"h", 1, .hearingRequested⟩⟩]
    list := [⟨none, .ok []⟩] }

/-- A case is put, and a trigger is delivered for it. -/
def putAndTrigger : List Arrival :=
  [ ⟨jsonRequest "PUT" "/cases/1" (encode lateCase), scriptedServer.now⟩,
    ⟨jsonRequest "POST" "/cases/1/triggers" (encode (⟨.createHearing, none⟩ : TriggerRequest)),
      scriptedServer.now⟩ ]

/-- After a put and a trigger that wrote, the case is at its second version. Putting it under the id
of another case is turned down, and neither the other case nor any audit event comes of it. -/
theorem cases_count_requests_twice :
    ∃ log world, scriptedServer.serveAll putAndTrigger (Ledger.empty, acceptingCast) =
        (log, world) ∧
      timesStored "1" log = 2 ∧
      (∃ c : CaseSnapshot, c.caseId = "1" ∧
        (scriptedServer.serve (bareRequest "/cases/1") world).1 = .ok (caseBody 2 c)) ∧
      ∀ path ∈ ["/cases/2", "/cases/1/audit"],
        (scriptedServer.serve (bareRequest path) (scriptedServer.serve
          (jsonRequest "PUT" "/cases/2" (encode lateCase)) world).2).1 =
            (scriptedServer.serve (bareRequest path) world).1 := by
  obtain ⟨log, world, h⟩ : ∃ log world,
      scriptedServer.serveAll putAndTrigger (Ledger.empty, acceptingCast) = (log, world) :=
    ⟨_, _, rfl⟩
  have htimes : timesStored "1" log = 2 := by
    rw [← show _ = log from congrArg Prod.fst h]
    decide +kernel
  have hrefused : ¬ (scriptedServer.serve (jsonRequest "PUT" "/cases/2" (encode lateCase))
      world).1.isSuccess := by
    rw [← show _ = world from congrArg Prod.snd h, Response.isSuccess]
    decide +kernel
  obtain ⟨hcase, hidle⟩ := cases_count_requests scriptedService_ledger h
  refine ⟨log, world, h, htimes, ?_, fun path _ => hidle _ (.inl hrefused) _ rfl⟩
  rcases hcase "1" (bareRequest "/cases/1") rfl (by decide +kernel) with ⟨hnone, -⟩ | hfound
  · rw [htimes] at hnone
    cases hnone
  · rw [htimes] at hfound
    exact hfound

end TribunalListing.Http
