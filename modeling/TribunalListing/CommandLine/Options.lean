-- SUMMARY: The settings that the server is started with.
import TribunalListing.Engine

/-!
# Server options

All that can be set when the server is started, with its defaults. Only the URL of the hearing
service has none.
-/

namespace TribunalListing.CommandLine

structure ServerOptions where
  /-- The file of the case store; without one the cases are kept in memory. -/
  database : Option String := none
  port : Nat := 3000
  /-- The URL of the hearing service. -/
  serviceUrl : String
  /-- The token to show to the hearing service. -/
  serviceToken : Option String := none
  /-- The file with the reference data. -/
  referenceData : Option String := none
  retryAttempts : Nat := 3
  retryBackoffMillis : Nat := 1000
  channelPolicy : ChannelPolicy := .fallback
  lookupPolicy : LookupPolicy := .proceed
  adjournmentEnabled : Bool := false
  serviceCode : String := "BBA3"
  /-- How long a request to the hearing service may take. -/
  requestTimeoutMillis : Nat := 30000
  deriving DecidableEq

def ServerOptions.engineConfig (o : ServerOptions) : EngineConfig where
  retry := .of o.retryAttempts o.retryBackoffMillis
  derivation := ⟨o.channelPolicy, o.adjournmentEnabled, o.serviceCode⟩
  lookupPolicy := o.lookupPolicy

end TribunalListing.CommandLine
