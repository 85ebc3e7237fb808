import EventRelay.Broker
import EventRelay.Decimal.Binary64
import EventRelay.Decimal.Layout
import EventRelay.Decimal.Reader
import EventRelay.Decimal.Shortest
import EventRelay.Dispatcher.Action
import EventRelay.Dispatcher.Config
import EventRelay.Dispatcher.Rounds
import EventRelay.Dispatcher.Schedule
import EventRelay.Event
import EventRelay.Failure
import EventRelay.Journal
import EventRelay.Journal.Filter
import EventRelay.Journal.Line
import EventRelay.Journal.Pattern
import EventRelay.Json.Basic
import EventRelay.Json.Decode
import EventRelay.Json.Document
import EventRelay.Json.Number
import EventRelay.Json.Printer
import EventRelay.Launch
import EventRelay.Main
import EventRelay.Message
import EventRelay.Policy
import EventRelay.Postgres.Address
import EventRelay.Postgres.Statement
import EventRelay.Postgres.Store
import EventRelay.Proofs.Backoff
import EventRelay.Proofs.Broker.Ring
import EventRelay.Proofs.Broker.Subscribers
import EventRelay.Proofs.Depot
import EventRelay.Proofs.Depot.Bookkeeping
import EventRelay.Proofs.Depot.Commit
import EventRelay.Proofs.Depot.Duplicates
import EventRelay.Proofs.Depot.Effects
import EventRelay.Proofs.Depot.Exactness
import EventRelay.Proofs.Depot.Exclusion
import EventRelay.Proofs.Depot.Exhaustion
import EventRelay.Proofs.Depot.Leases
import EventRelay.Proofs.Depot.Paths
import EventRelay.Proofs.Depot.Records
import EventRelay.Proofs.Depot.Recovery
import EventRelay.Proofs.Depot.Renaming
import EventRelay.Proofs.Depot.Rollback
import EventRelay.Proofs.Depot.Seniority
import EventRelay.Proofs.Depot.Soundness
import EventRelay.Proofs.Depot.Terminal
import EventRelay.Proofs.Depot.Transactions
import EventRelay.Proofs.Depot.Without
import EventRelay.Proofs.Dispatcher.Batches
import EventRelay.Proofs.Dispatcher.Completion
import EventRelay.Proofs.Dispatcher.Exchanges
import EventRelay.Proofs.Dispatcher.Playing
import EventRelay.Proofs.Dispatcher.Stages
import EventRelay.Proofs.Json.Documents
import EventRelay.Proofs.Json.Strings
import EventRelay.Proofs.Json.Structures
import EventRelay.Proofs.Json.Values
import EventRelay.Proofs.Postgres.Claiming
import EventRelay.Proofs.Relay
import EventRelay.Proofs.Relay.Alone
import EventRelay.Proofs.Relay.Budget
import EventRelay.Proofs.Relay.Confluence
import EventRelay.Proofs.Relay.Courses
import EventRelay.Proofs.Relay.Division
import EventRelay.Proofs.Relay.Ledger
import EventRelay.Proofs.Relay.Postponement
import EventRelay.Proofs.Relay.Redelivery
import EventRelay.Proofs.Relay.Safety
import EventRelay.Proofs.Run
import EventRelay.Proofs.Service
import EventRelay.Proofs.Service.Ending
import EventRelay.Proofs.Service.Reaping
import EventRelay.Proofs.Service.Shutdown
import EventRelay.Proofs.Service.Tours
import EventRelay.Proofs.Settings
import EventRelay.Proofs.Settings.Loading
import EventRelay.Proofs.Settings.Texts
import EventRelay.Proofs.Simulation.Alike
import EventRelay.Proofs.Simulation.Frame
import EventRelay.Proofs.Simulation.Loops
import EventRelay.Proofs.Simulation.Memory
import EventRelay.Proofs.Simulation.Payloads
import EventRelay.Proofs.Simulation.Running
import EventRelay.Proofs.Simulation.Upkeep
import EventRelay.Proofs.Simulation.Veil
import EventRelay.Proofs.Simulation.Waiting
import EventRelay.Proofs.Store.Batches
import EventRelay.Proofs.Store.Claiming
import EventRelay.Proofs.Store.Freeing
import EventRelay.Proofs.Store.Guise
import EventRelay.Proofs.Store.Keys
import EventRelay.Proofs.Store.Renaming
import EventRelay.Proofs.Store.Rows
import EventRelay.Proofs.Store.Veil
import EventRelay.Proofs.Store.Windows
import EventRelay.Proofs.Text.Digits
import EventRelay.Proofs.Time
import EventRelay.Proofs.Time.Calendar
import EventRelay.Proofs.Time.Rfc3339
import EventRelay.Proofs.Uuid
import EventRelay.Proofs.Wire.Formats
import EventRelay.Proofs.Wire.RoundTrip
import EventRelay.Record
import EventRelay.Settings.Basic
import EventRelay.Settings.Decode
import EventRelay.Settings.Folder
import EventRelay.Settings.Layer
import EventRelay.Settings.Load
import EventRelay.Settings.LoadError
import EventRelay.Settings.Path
import EventRelay.Settings.Setting
import EventRelay.Simulation.Calls
import EventRelay.Simulation.Steps
import EventRelay.Simulation.Tasks
import EventRelay.Simulation.World
import EventRelay.Store.Contents
import EventRelay.Store.Operations
import EventRelay.Store.Transaction
import EventRelay.Table
import EventRelay.Text.Alphanumeric
import EventRelay.Text.Cased
import EventRelay.Text.Classes
import EventRelay.Text.Digits
import EventRelay.Text.Integer
import EventRelay.Text.Lower
import EventRelay.Text.Shown
import EventRelay.Text.Utf8
import EventRelay.Time.Calendar
import EventRelay.Time.Clock
import EventRelay.Time.Duration
import EventRelay.Time.Instant
import EventRelay.Time.Rfc3339
import EventRelay.Url.Basic
import EventRelay.Url.Host
import EventRelay.Url.Letters
import EventRelay.Url.Numeric
import EventRelay.Url.Path
import EventRelay.Url.Punycode
import EventRelay.Url.Reader
import EventRelay.Uuid
import EventRelay.Wire.Event
import EventRelay.Wire.Message
import EventRelay.Wire.Record
import EventRelay.Wire.Scalar
import EventRelay.Wire.Settings
import EventRelay.Yaml.Cursor
import EventRelay.Yaml.Document
import EventRelay.Yaml.Fault
import EventRelay.Yaml.Node
import EventRelay.Yaml.Scalar
import EventRelay.Yaml.Tag
import EventRelay.Yaml.Token
