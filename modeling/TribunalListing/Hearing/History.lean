-- SUMMARY: Records of hearings, and how a hearing history takes in a new record.
import TribunalListing.Hearing.Status

/-!
# Hearing history

A case keeps one record for every hearing that was requested for it, in the order in which the
hearings were first heard of. A record that comes in replaces the one for the same hearing, unless
the stored one has a higher version.
-/

namespace TribunalListing

structure ListedHearing where
  hearingId : String
  /-- The version of the current request, when the service reports one. -/
  requestVersion : Option Int64
  status : HearingStatus
  deriving DecidableEq, Inhabited

/-- A listed hearing can be updated instead of asking for a new one: it is outstanding, and its
version is known. -/
def ListedHearing.isUpdatable (h : ListedHearing) : Bool :=
  h.status.isOutstanding && h.requestVersion.isSome

/-- What a case remembers of one of its hearings. -/
structure HearingRecord where
  hearingId : String
  version : Int64
  status : HearingStatus
  deriving DecidableEq, Inhabited

/-- The hearings of a case, in the order in which they were first heard of. -/
abbrev HearingHistory := List HearingRecord

namespace HearingHistory

/-- The history after a record has come in: the first record for the same hearing is replaced,
unless its version is higher; a record for a new hearing goes to the end. -/
def merge (record : HearingRecord) : HearingHistory → HearingHistory
  | [] => [record]
  | kept :: rest =>
    if kept.hearingId = record.hearingId then
      if record.version < kept.version then kept :: rest else record :: rest
    else kept :: merge record rest

/-- The record that came in changes the history. -/
def isNews (record : HearingRecord) (history : HearingHistory) : Bool :=
  match history.find? fun kept => kept.hearingId = record.hearingId with
  | some kept => kept ≠ record && !(record.version < kept.version)
  | none => true

/-- The outstanding hearing that stands last in the history. -/
def latestOutstanding? (history : HearingHistory) : Option HearingRecord :=
  history.reverse.find? fun record => record.status.isOutstanding

/-- A compact text of the history: `id@version:STATUS`, joined by semicolons. -/
def text (history : HearingHistory) : String :=
  String.intercalate ";"
    (history.map fun r => s!"{r.hearingId}@{r.version.toInt}:{r.status.code}")

end HearingHistory

end TribunalListing
