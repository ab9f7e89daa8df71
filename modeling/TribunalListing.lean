import TribunalListing.Audit
import TribunalListing.Calendar.Date
import TribunalListing.Calendar.Instant
import TribunalListing.Case.Adjournment
import TribunalListing.Case.Answer
import TribunalListing.Case.Identity
import TribunalListing.Case.Overrides
import TribunalListing.Case.PanelMember
import TribunalListing.Case.People
import TribunalListing.Case.Place
import TribunalListing.Case.Role
import TribunalListing.Case.Snapshot
import TribunalListing.Case.Wire
import TribunalListing.Channel
import TribunalListing.CommandLine.Arguments
import TribunalListing.CommandLine.Options
import TribunalListing.CommandLine.Startup
import TribunalListing.Engine
import TribunalListing.Exchange.Act
import TribunalListing.Exchange.Call
import TribunalListing.Exchange.Record
import TribunalListing.Exchange.Rehearsal
import TribunalListing.Hearing.History
import TribunalListing.Hearing.Status
import TribunalListing.Http.Client
import TribunalListing.Http.MediaType
import TribunalListing.Http.Percent
import TribunalListing.Http.Response
import TribunalListing.Http.Router
import TribunalListing.Http.Url
import TribunalListing.Json.Reader
import TribunalListing.Json.Value
import TribunalListing.Json.Wire
import TribunalListing.Json.Writer
import TribunalListing.Main
import TribunalListing.Minutes
import TribunalListing.Proofs.Calendar.Date
import TribunalListing.Proofs.Case.Clashes
import TribunalListing.Proofs.Case.Copying
import TribunalListing.Proofs.Case.Identity
import TribunalListing.Proofs.Case.Numbering
import TribunalListing.Proofs.Case.Places
import TribunalListing.Proofs.Case.Removal
import TribunalListing.Proofs.Case.Wire
import TribunalListing.Proofs.Engine.Cancellation
import TribunalListing.Proofs.Engine.Changes
import TribunalListing.Proofs.Engine.Durable
import TribunalListing.Proofs.Engine.Listing
import TribunalListing.Proofs.Engine.Sent
import TribunalListing.Proofs.Engine.Session
import TribunalListing.Proofs.Exchange.Moments
import TribunalListing.Proofs.Exchange.Runs
import TribunalListing.Proofs.Hearing.Arrivals
import TribunalListing.Proofs.Hearing.History
import TribunalListing.Proofs.Hearing.Text
import TribunalListing.Proofs.Http.Serving
import TribunalListing.Proofs.Http.Sessions
import TribunalListing.Proofs.Http.Targets
import TribunalListing.Proofs.Http.Url
import TribunalListing.Proofs.Http.Work
import TribunalListing.Proofs.Json.Wire
import TribunalListing.Proofs.Reference.Wire
import TribunalListing.Proofs.Request.Adjournment
import TribunalListing.Proofs.Request.Attendance
import TribunalListing.Proofs.Request.Behaviour
import TribunalListing.Proofs.Request.Derivation
import TribunalListing.Proofs.Request.DisputedIssues
import TribunalListing.Proofs.Request.Duration
import TribunalListing.Proofs.Request.ExactMinutes
import TribunalListing.Proofs.Request.Interpreters
import TribunalListing.Proofs.Request.Masking
import TribunalListing.Proofs.Request.NamedMembers
import TribunalListing.Proofs.Request.PanelSlots
import TribunalListing.Proofs.Request.PartyIds
import TribunalListing.Proofs.Request.Reachability
import TribunalListing.Proofs.Request.Records
import TribunalListing.Proofs.Request.Rederivation
import TribunalListing.Proofs.Request.ReservedJudge
import TribunalListing.Proofs.Request.SiblingVenues
import TribunalListing.Proofs.Request.Unobstructed
import TribunalListing.Proofs.Request.Wire
import TribunalListing.Proofs.Store.Audit
import TribunalListing.Proofs.Store.Ledger
import TribunalListing.Proofs.Store.Operations
import TribunalListing.Proofs.Store.Transaction
import TribunalListing.Proofs.Sync.Attempts
import TribunalListing.Proofs.Sync.AuditTrail
import TribunalListing.Proofs.Sync.Durable
import TribunalListing.Proofs.Sync.Interleaving
import TribunalListing.Proofs.Sync.Merge
import TribunalListing.Proofs.Sync.NewIds
import TribunalListing.Proofs.Sync.Reflected
import TribunalListing.Proofs.Sync.Repeated
import TribunalListing.Proofs.Sync.Retry
import TribunalListing.Proofs.Sync.Stored
import TribunalListing.Proofs.Sync.Unchanged
import TribunalListing.Proofs.Text.Numeral
import TribunalListing.Reference.Data
import TribunalListing.Reference.Tables
import TribunalListing.Reference.Wire
import TribunalListing.Request.Assembly
import TribunalListing.Request.Attendance
import TribunalListing.Request.Cascade
import TribunalListing.Request.Duration
import TribunalListing.Request.Error
import TribunalListing.Request.Options
import TribunalListing.Request.Panel
import TribunalListing.Request.Participant
import TribunalListing.Request.Parties
import TribunalListing.Request.Payload
import TribunalListing.Request.Venues
import TribunalListing.Request.Wire
import TribunalListing.Store.Damage
import TribunalListing.Store.Error
import TribunalListing.Store.Ledger
import TribunalListing.Sync.Error
import TribunalListing.Sync.Outcome
import TribunalListing.Sync.Retry
import TribunalListing.Sync.WriteBack
import TribunalListing.Text.Blank
import TribunalListing.Text.Caseless
import TribunalListing.Text.Numeral
import TribunalListing.Text.Quoted
import TribunalListing.Text.Unprintable
import TribunalListing.Trigger
