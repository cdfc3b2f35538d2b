import Reconciliation.Backend
import Reconciliation.Backlog
import Reconciliation.Batch
import Reconciliation.Decimal.Shortest
import Reconciliation.Description
import Reconciliation.Dispatcher
import Reconciliation.Intake
import Reconciliation.Json.Failure
import Reconciliation.Json.Number
import Reconciliation.Json.Value
import Reconciliation.Json.Reader
import Reconciliation.Json.Real
import Reconciliation.Lock.Access
import Reconciliation.Lock.Basic
import Reconciliation.Lock.Faulty
import Reconciliation.Lock.Table
import Reconciliation.Log.Event
import Reconciliation.Log.Filter
import Reconciliation.Metric.Event
import Reconciliation.Pass.Aggregate
import Reconciliation.Pass.Basic
import Reconciliation.Record.Outcome
import Reconciliation.Pass.Retry
import Reconciliation.Postgres.Connection
import Reconciliation.Postgres.Lock
import Reconciliation.Postgres.Migration
import Reconciliation.Postgres.Records
import Reconciliation.Record.Identifier
import Reconciliation.Record.Envelope
import Reconciliation.Record.EventType
import Reconciliation.Record.Json
import Reconciliation.Record.OutcomeJson
import Reconciliation.Record.WorkRecord
import Reconciliation.Redis.Address
import Reconciliation.Redis.Host
import Reconciliation.Redis.Lock
import Reconciliation.Run
import Reconciliation.Scheduler
import Reconciliation.Settings
import Reconciliation.Store.Access
import Reconciliation.Store.Basic
import Reconciliation.Store.Faulty
import Reconciliation.Store.RetryBand
import Reconciliation.Text.Classes
import Reconciliation.Text.Bytes
import Reconciliation.Text.Numeral
import Reconciliation.Text.Quoted
import Reconciliation.Time.Calendar
import Reconciliation.Time.Instant
import Reconciliation.Time.Layout
import Reconciliation.Time.Reader
import Reconciliation.Time.Span
import Reconciliation.Proofs.Dispatch
import Reconciliation.Proofs.Attempt
import Reconciliation.Proofs.Aggregation
import Reconciliation.Proofs.Pipeline
import Reconciliation.Proofs.Overtaking
import Reconciliation.Proofs.Accounting
import Reconciliation.Pass.Course
import Reconciliation.Proofs.Course
import Reconciliation.Proofs.Overlap
import Reconciliation.Proofs.DispatchOrder
import Reconciliation.Proofs.Discarding
import Reconciliation.Proofs.Faults
import Reconciliation.Proofs.Containment
import Reconciliation.Proofs.Digits
import Reconciliation.Proofs.Numerals
import Reconciliation.Proofs.Json
import Reconciliation.Proofs.Calendar
import Reconciliation.Proofs.Identifiers
import Reconciliation.Proofs.Timestamp
import Reconciliation.Proofs.RecordText
import Reconciliation.Proofs.Exclusion
import Reconciliation.Proofs.Bookkeeping
import Reconciliation.Proofs.Rounding
import Reconciliation.Proofs.Spelling
import Reconciliation.Proofs.RealText
import Reconciliation.Proofs.Writing
import Reconciliation.Proofs.Envelopes
import Reconciliation.Proofs.Rows
import Reconciliation.Proofs.Expiry
import Reconciliation.Proofs.Clearing
import Reconciliation.Proofs.Draining
import Reconciliation.Proofs.Redelivery
import Reconciliation.Proofs.Planning
import Reconciliation.Proofs.Guarding
import Reconciliation.Proofs.Loading
import Reconciliation.Proofs.SettingTexts
import Reconciliation.Proofs.Terms
import Reconciliation.Proofs.Exchanges
import Reconciliation.Proofs.Migrating
import Reconciliation.Proofs.LockEnds
import Reconciliation.Proofs.Saturation
import Reconciliation.Proofs.Scanning
import Reconciliation.Proofs.Members
import Reconciliation.Proofs.Drafts
import Reconciliation.Proofs.Layouts
import Reconciliation.Proofs.Tagging
import Reconciliation.Proofs.Backlogs
import Reconciliation.Proofs.Ownership
import Reconciliation.Proofs.Decoding
import Reconciliation.Proofs.Replies
import Reconciliation.Proofs.Receiving
import Reconciliation.Proofs.Resolving
import Reconciliation.Proofs.Places
import Reconciliation.Proofs.EntityNames
import Reconciliation.Proofs.Lifetimes
import Reconciliation.Proofs.FiniteMap
