-- SUMMARY: How the calls of the engine are put on record.
import TribunalListing.Exchange.Call
import TribunalListing.Request.Wire

/-!
# Records of calls

A call is put on record as a JSON object: its kind, and what it was about. A record of a write does
not repeat the case, and an instant is recorded as its second.
-/

namespace TribunalListing

def ServiceCall.record : ServiceCall → Members
  | .create request => [("call", .string "create"), ("payload", encode request)]
  | .update hearingId request =>
    [("call", .string "update"), ("hearingId", .string hearingId), ("payload", encode request)]
  | .cancel hearingId request =>
    [("call", .string "cancel"), ("hearingId", .string hearingId), ("request", encode request)]
  | .get hearingId => [("call", .string "get"), ("hearingId", .string hearingId)]
  | .list caseId => [("call", .string "list"), ("caseId", .string caseId)]
  | .notify hearingId version receivedAt body =>
    [ ("call", .string "notify"), ("hearingId", .string hearingId), ("version", encode version),
      ("receivedAt", .integer receivedAt.unixSeconds), ("body", encode body) ]

def StoreCall.record : StoreCall → Members
  | .read caseId => [("call", .string "read"), ("caseId", .string caseId)]
  | .write caseId _ expectedVersion event =>
    [ ("call", .string "write"), ("caseId", .string caseId),
      ("expectedVersion", .integer expectedVersion), ("event", encode event) ]

def Call.record : Call → Members
  | .service call => call.record
  | .store call => call.record

end TribunalListing
