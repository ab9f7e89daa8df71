-- SUMMARY: Rehearsals: runs of an act with partners that answer from a script.
import TribunalListing.Exchange.Act

/-!
# Rehearsals

In a rehearsal the hearing service gives prepared replies, one after the other for each kind of
call, and the case store works as a store does except where its own script interferes. Every call
is kept, so that one can see afterwards what was asked in which order.
-/

namespace TribunalListing

/-! ## The hearing service -/

/-- A prepared reply to one call on the hearing service. -/
structure Cue (α : Type) where
  /-- A case that comes into the store while the call is under way. -/
  meanwhile : Option CaseSnapshot
  reply : Except ServiceError α

/-- The prepared replies for each kind of call. -/
structure ServiceScript where
  create : List (Cue HearingReply) := []
  update : List (Cue HearingReply) := []
  cancel : List (Cue HearingReply) := []
  get : List (Cue ListedHearing) := []
  list : List (Cue (List ListedHearing)) := []
  notify : List (Cue Unit) := []

namespace ServiceScript

/-- The first of the prepared replies; where none is left, the service cannot be reached. -/
def firstCue {α : Type} (kind : String) : List (Cue α) → Cue α
  | [] => ⟨none, .error (.unreachable s!"no scripted reply for {kind}")⟩
  | cue :: _ => cue

/-- The prepared reply to a call, and the script that is left after it. -/
def take (s : ServiceScript) : (c : ServiceCall) → Cue c.Answer × ServiceScript
  | .create _ => (firstCue "create" s.create, { s with create := s.create.tail })
  | .update _ _ => (firstCue "update" s.update, { s with update := s.update.tail })
  | .cancel _ _ => (firstCue "cancel" s.cancel, { s with cancel := s.cancel.tail })
  | .get _ => (firstCue "get" s.get, { s with get := s.get.tail })
  | .list _ => (firstCue "list" s.list, { s with list := s.list.tail })
  | .notify _ _ _ _ => (firstCue "notify" s.notify, { s with notify := s.notify.tail })

end ServiceScript

/-! ## The case store -/

/-- What comes between one call and the store. -/
inductive StoreCue where
  /-- Nothing does. -/
  | plain
  | conflict
  | notFound
  | backend (reason : String)
  /-- Somebody else stores a case just before. -/
  | meanwhile (c : CaseSnapshot)
  /-- A write succeeds and is then reported to have come too late. -/
  | conflictAfterwards

/-- A store of versioned cases, in the order of their ids. -/
abbrev CaseShelf := List (String × VersionedCase)

namespace CaseShelf

def find? (shelf : CaseShelf) (caseId : String) : Option VersionedCase :=
  (List.find? (·.1 == caseId) shelf).map (·.2)

def insert (caseId : String) (v : VersionedCase) : CaseShelf → CaseShelf
  | [] => [(caseId, v)]
  | (id, w) :: rest =>
    if id = caseId then (caseId, v) :: rest
    else if caseId < id then (caseId, v) :: (id, w) :: rest
    else (id, w) :: insert caseId v rest

/-- The version of a case that is stored under its own id from outside. -/
def nextVersion (shelf : CaseShelf) (caseId : String) : Int :=
  match shelf.find? caseId with
  | some v => v.version + 1
  | none => 1

def put (shelf : CaseShelf) (c : CaseSnapshot) : CaseShelf :=
  shelf.insert c.caseId ⟨c, shelf.nextVersion c.caseId⟩

def read (shelf : CaseShelf) (caseId : String) : Except StoreError VersionedCase :=
  match shelf.find? caseId with
  | some v => .ok v
  | none => .error (.notFound caseId)

/-- Writes a case that is still at the expected version. -/
def write (shelf : CaseShelf) (caseId : String) (c : CaseSnapshot) (expectedVersion : Int) :
    Except StoreError Int × CaseShelf :=
  match shelf.find? caseId with
  | none => (.error (.notFound caseId), shelf)
  | some v =>
    if v.version = expectedVersion then
      (.ok (expectedVersion + 1), shelf.insert caseId ⟨c, expectedVersion + 1⟩)
    else (.error (.conflict caseId expectedVersion), shelf)

def readUnder (shelf : CaseShelf) (caseId : String) :
    StoreCue → Except StoreError VersionedCase × CaseShelf
  | .plain | .conflictAfterwards => (shelf.read caseId, shelf)
  | .conflict => (.error (.conflict caseId 0), shelf)
  | .notFound => (.error (.notFound caseId), shelf)
  | .backend reason => (.error (.backend reason), shelf)
  | .meanwhile c => ((shelf.put c).read caseId, shelf.put c)

def writeUnder (shelf : CaseShelf) (caseId : String) (c : CaseSnapshot) (expectedVersion : Int) :
    StoreCue → Except StoreError Int × CaseShelf
  | .plain => shelf.write caseId c expectedVersion
  | .conflict => (.error (.conflict caseId expectedVersion), shelf)
  | .notFound => (.error (.notFound caseId), shelf)
  | .backend reason => (.error (.backend reason), shelf)
  | .meanwhile other => (shelf.put other).write caseId c expectedVersion
  | .conflictAfterwards =>
    let (reply, shelf) := shelf.write caseId c expectedVersion
    (reply.bind fun _ => .error (.conflict caseId expectedVersion), shelf)

end CaseShelf

/-! ## Both -/

/-- The hearing service of a rehearsal: what is left of its script, and the calls that were made,
latest first. -/
structure Cast where
  script : ServiceScript := {}
  calls : List Call := []

/-- Answers a call on the hearing service from the script. `put` is how a case comes into the store
meanwhile. -/
def Cast.answer {σ : Type} (put : σ → CaseSnapshot → σ) (c : ServiceCall) (store : σ)
    (cast : Cast) : Except ServiceError c.Answer × σ × Cast :=
  let (cue, script) := cast.script.take c
  (cue.reply, (cue.meanwhile.map (put store)).getD store, ⟨script, .service c :: cast.calls⟩)

structure Rehearsal where
  shelf : CaseShelf := []
  reads : List StoreCue := []
  writes : List StoreCue := []
  cast : Cast := {}

namespace Rehearsal

def note (r : Rehearsal) (c : StoreCall) : Rehearsal :=
  { r with cast.calls := .store c :: r.cast.calls }

def handler : Act.Handler Rehearsal
  | .service c, r =>
    let (reply, shelf, cast) := r.cast.answer CaseShelf.put c r.shelf
    (reply, { r with shelf, cast })
  | .store (.read caseId), r =>
    let (reply, shelf) := r.shelf.readUnder caseId (r.reads.head?.getD .plain)
    (reply, { r.note (.read caseId) with shelf, reads := r.reads.tail })
  | .store (.write caseId c expectedVersion event), r =>
    let (reply, shelf) :=
      r.shelf.writeUnder caseId c expectedVersion (r.writes.head?.getD .plain)
    (reply, { r.note (.write caseId c expectedVersion event) with shelf, writes := r.writes.tail })

end Rehearsal

end TribunalListing
