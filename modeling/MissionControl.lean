import MissionControl.Bus
import MissionControl.Claim.Records
import MissionControl.Claim.Store
import MissionControl.Clock
import MissionControl.Delivery.Processing
import MissionControl.Delivery.Settlement
import MissionControl.Diagnostics
import MissionControl.Envelope.Basic
import MissionControl.Envelope.Resolve
import MissionControl.Event.Basic
import MissionControl.Event.Handling
import MissionControl.Event.Payload
import MissionControl.Fleet
import MissionControl.Http.Failure
import MissionControl.Http.Response
import MissionControl.Http.Service
import MissionControl.Http.Target
import MissionControl.Json.Decode
import MissionControl.Json.Document
import MissionControl.Json.Fault
import MissionControl.Json.Numeral
import MissionControl.Json.Printer
import MissionControl.Json.Record
import MissionControl.Json.Token
import MissionControl.Json.Value
import MissionControl.Lock.Leases
import MissionControl.Lock.Mutex
import MissionControl.Lock.Store
import MissionControl.Number.Binary64
import MissionControl.Number.Reading
import MissionControl.Number.Shortest
import MissionControl.Outcome
import MissionControl.Pool
import MissionControl.Proofs.Bus.Exclusion
import MissionControl.Proofs.Bus.Registrations
import MissionControl.Proofs.Checked
import MissionControl.Proofs.Claim.Agreement
import MissionControl.Proofs.Claim.Ledger
import MissionControl.Proofs.Claim.Liveness
import MissionControl.Proofs.Claim.Ownership
import MissionControl.Proofs.Claim.Sweeping
import MissionControl.Proofs.Delivery.Answers
import MissionControl.Proofs.Delivery.Channels
import MissionControl.Proofs.Delivery.Course
import MissionControl.Proofs.Delivery.Dispatching
import MissionControl.Proofs.Delivery.Invocation
import MissionControl.Proofs.Delivery.Launches
import MissionControl.Proofs.Delivery.Outcome
import MissionControl.Proofs.Delivery.Solitary
import MissionControl.Proofs.Delivery.Stranding
import MissionControl.Proofs.Delivery.Window
import MissionControl.Proofs.Event.Changes
import MissionControl.Proofs.Event.Effect
import MissionControl.Proofs.Event.Format
import MissionControl.Proofs.Event.Identity
import MissionControl.Proofs.Event.Labels
import MissionControl.Proofs.Event.Locality
import MissionControl.Proofs.Event.Reading
import MissionControl.Proofs.Event.Resolution
import MissionControl.Proofs.Event.RoundTrip
import MissionControl.Proofs.Event.Wire
import MissionControl.Proofs.Http.Reposting
import MissionControl.Proofs.Json.Documents
import MissionControl.Proofs.Json.Lexing
import MissionControl.Proofs.Json.Records
import MissionControl.Proofs.Json.Scalars
import MissionControl.Proofs.Lock.Attempts
import MissionControl.Proofs.Lock.Breakdown
import MissionControl.Proofs.Lock.Debts
import MissionControl.Proofs.Lock.LateReplies
import MissionControl.Proofs.Lock.Names
import MissionControl.Proofs.Lock.Ownership
import MissionControl.Proofs.Lock.Protocol
import MissionControl.Proofs.Lock.Refusals
import MissionControl.Proofs.Lock.Tenure
import MissionControl.Proofs.Lock.Undisputed
import MissionControl.Proofs.Pool.Claims
import MissionControl.Proofs.Pool.Debts
import MissionControl.Proofs.Pool.Journal
import MissionControl.Proofs.Pool.Serial
import MissionControl.Proofs.Pool.Shifts
import MissionControl.Proofs.Pool.Stages
import MissionControl.Proofs.Retrying
import MissionControl.Proofs.Rocket.Admissions
import MissionControl.Proofs.Rocket.Batches
import MissionControl.Proofs.Rocket.History
import MissionControl.Proofs.Rocket.Listing
import MissionControl.Proofs.Rocket.Records
import MissionControl.Proofs.Rocket.Replay
import MissionControl.Proofs.Rocket.Speeds
import MissionControl.Proofs.Rocket.Spellings
import MissionControl.Proofs.Settings.Usability
import MissionControl.Proofs.Text.Encoding
import MissionControl.Proofs.Time.Calendar
import MissionControl.Proofs.Time.Distance
import MissionControl.Proofs.Time.Rfc3339
import MissionControl.Proofs.Uuid.Spellings
import MissionControl.Proofs.World.Footprint
import MissionControl.Proofs.World.Moments
import MissionControl.Query
import MissionControl.Refusal
import MissionControl.Register
import MissionControl.Retry
import MissionControl.Rocket.Attributes
import MissionControl.Rocket.Basic
import MissionControl.Rocket.Guard
import MissionControl.Rocket.Launch
import MissionControl.Rocket.Revision
import MissionControl.Rocket.SortKey
import MissionControl.Rocket.Store
import MissionControl.Script
import MissionControl.Settings
import MissionControl.Severity
import MissionControl.SharedStore
import MissionControl.StandIn.Claims
import MissionControl.StandIn.Locks
import MissionControl.StandIn.Rockets
import MissionControl.Supply
import MissionControl.Text.LowerCase
import MissionControl.Text.LowerCase.Table
import MissionControl.Text.Printable.Table
import MissionControl.Text.Quoted
import MissionControl.Text.RangeTable
import MissionControl.Text.Utf8
import MissionControl.Time.Date
import MissionControl.Time.Duration
import MissionControl.Time.Instant
import MissionControl.Time.Rfc3339
import MissionControl.Time.Scaling
import MissionControl.Uuid
import MissionControl.World
