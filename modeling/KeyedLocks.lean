import KeyedLocks.Table.Event
import KeyedLocks.Table.Watcher
import KeyedLocks.Service.Config
import KeyedLocks.Http.Handler
import KeyedLocks.Client.Run
import KeyedLocks.Client.Grammar
import KeyedLocks.Main
import KeyedLocks.Proofs.Lock.Conversion
import KeyedLocks.Proofs.Table.Queueing
import KeyedLocks.Proofs.Table.Numbering
import KeyedLocks.Proofs.Table.Scheduling
import KeyedLocks.Proofs.Table.Step
import KeyedLocks.Proofs.Table.Run
import KeyedLocks.Proofs.Table.Lifecycle
import KeyedLocks.Proofs.Table.Fairness
import KeyedLocks.Proofs.Table.Balance
import KeyedLocks.Proofs.Table.Accounting
import KeyedLocks.Proofs.Table.Leases
import KeyedLocks.Proofs.Table.Settling
import KeyedLocks.Proofs.Table.Overdue
import KeyedLocks.Proofs.Table.CalledOff
import KeyedLocks.Proofs.Table.Custody
import KeyedLocks.Proofs.Table.Places
import KeyedLocks.Service.Session
import KeyedLocks.Service.Run
import KeyedLocks.Proofs.Table.Side
import KeyedLocks.Proofs.Table.Elsewhere
import KeyedLocks.Proofs.Table.Succession
import KeyedLocks.Proofs.Table.Apart
import KeyedLocks.Proofs.Service.Isolation
import KeyedLocks.Table.Loose
import KeyedLocks.Proofs.Table.Tidy
import KeyedLocks.Proofs.Table.Guise
import KeyedLocks.Proofs.Table.GuiseDeeds
import KeyedLocks.Proofs.Table.Unnoticed
import KeyedLocks.Proofs.Table.SideDepartures
import KeyedLocks.Proofs.Table.Transient
import KeyedLocks.Proofs.Table.Departures
import KeyedLocks.Proofs.Table.OneKey
import KeyedLocks.Proofs.Table.Reentry
import KeyedLocks.Proofs.Table.Occupants
import KeyedLocks.Proofs.Table.Refusals
import KeyedLocks.Http.Server
import KeyedLocks.Proofs.Http.Admission
import KeyedLocks.Proofs.Http.Runs
import KeyedLocks.Proofs.Http.Occupancy
import KeyedLocks.Proofs.Http.Refusals
import KeyedLocks.Proofs.Http.Exchanges
import KeyedLocks.Proofs.Text.Utf8
import KeyedLocks.Json.Grammar
import KeyedLocks.Wire.Grammar
import KeyedLocks.Proofs.Json.Literals
import KeyedLocks.Proofs.Json.RoundTrip
import KeyedLocks.Proofs.Json.Bodies
import KeyedLocks.Proofs.Json.Spelling
import KeyedLocks.Proofs.Json.Parsing
import KeyedLocks.Proofs.Json.Decoding
import KeyedLocks.Proofs.Json.Records
import KeyedLocks.Proofs.Wire.RoundTrip
import KeyedLocks.Proofs.Wire.Lossless
import KeyedLocks.Proofs.Wire.Parts
import KeyedLocks.Proofs.Wire.Grammar
import KeyedLocks.Proofs.Client.Answers
import KeyedLocks.Proofs.Client.Transparency
import KeyedLocks.Proofs.Service.Runs
import KeyedLocks.Proofs.Service.Shutdown
import KeyedLocks.Proofs.Table.Watching
import KeyedLocks.Proofs.Table.Deadlines
import KeyedLocks.Proofs.Http.Listing
import KeyedLocks.Proofs.Table.Endings
import KeyedLocks.Proofs.Text.Order
import KeyedLocks.Proofs.Service.Status
import KeyedLocks.Proofs.Json.Layouts
import KeyedLocks.Proofs.Client.Grammar
import KeyedLocks.Proofs.Client.Outcome
import KeyedLocks.Proofs.Table.HoldLog
import KeyedLocks.Proofs.Table.Holds
