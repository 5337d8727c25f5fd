import Parley.Catalogue
import Parley.Command.Chat
import Parley.Command.Migrate
import Parley.Command.Sample
import Parley.Condition
import Parley.Content.Flow
import Parley.Context
import Parley.Dispatch.Clock
import Parley.Dispatch.Dispatcher
import Parley.Dispatch.Interleave
import Parley.Engine.Coverage
import Parley.Engine.Plan
import Parley.Failure
import Parley.Gateway.Console
import Parley.Gateway.Guard
import Parley.Gateway.Messenger
import Parley.Gateway.Recording
import Parley.Json.Access
import Parley.Json.Cut
import Parley.Json.Map
import Parley.Json.Parser
import Parley.Json.Printer
import Parley.Logging
import Parley.Loose.Counters
import Parley.Loose.Events
import Parley.Loose.Gateways
import Parley.Loose.Queues
import Parley.Loose.Texts
import Parley.Loose.Turns
import Parley.Loose.World
import Parley.Main
import Parley.Number.Rounding
import Parley.Number.Shortest
import Parley.Outbound
import Parley.Proofs.Dispatch.Mailboxes
import Parley.Proofs.Dispatch.Schedule
import Parley.Proofs.Dispatch.Stopping
import Parley.Proofs.Engine.Cards
import Parley.Proofs.Engine.Circles
import Parley.Proofs.Engine.Readings
import Parley.Proofs.Engine.Routes
import Parley.Proofs.Engine.Sends
import Parley.Proofs.Gateway.Retries
import Parley.Proofs.Gateway.Tripping
import Parley.Proofs.Schema.Lists
import Parley.Proofs.Settings.Reading
import Parley.Proofs.Storage.Content
import Parley.Proofs.Storage.Counters
import Parley.Proofs.Storage.Interchange
import Parley.Proofs.Storage.Invalid
import Parley.Proofs.Storage.Latest
import Parley.Proofs.Storage.Nameless
import Parley.Proofs.Storage.Rereading
import Parley.Proofs.Storage.Saving
import Parley.Proofs.Storage.Seating
import Parley.Proofs.Text.Braces
import Parley.Proofs.Text.Pieces
import Parley.Proofs.Turn.Authored
import Parley.Proofs.Turn.Balance
import Parley.Proofs.Turn.Bounds
import Parley.Proofs.Turn.Deliveries
import Parley.Proofs.Turn.Earliest
import Parley.Proofs.Turn.Failing
import Parley.Proofs.Turn.Furnishing
import Parley.Proofs.Turn.History
import Parley.Proofs.Turn.Interrupts
import Parley.Proofs.Turn.Jumps
import Parley.Proofs.Turn.Lengths
import Parley.Proofs.Turn.Level
import Parley.Proofs.Turn.Neighbours
import Parley.Proofs.Turn.Parking
import Parley.Proofs.Turn.Races
import Parley.Proofs.Turn.Readings
import Parley.Proofs.Turn.Silence
import Parley.Proofs.Turn.Slips
import Parley.Proofs.Turn.Stale
import Parley.Proofs.Turn.Visitors
import Parley.Record.Bot
import Parley.Record.Contact
import Parley.Record.LogEntry
import Parley.Record.Session
import Parley.Record.TurnResult
import Parley.Reply
import Parley.Schema.Reader
import Parley.Settings.Reader
import Parley.Settings.Shipped
import Parley.Source
import Parley.Store.Cell
import Parley.Store.Columns
import Parley.Store.Factory
import Parley.Store.Storage
import Parley.Template
import Parley.Text.Lowercase
import Parley.Text.Quoted
import Parley.Text.Ranges
import Parley.Text.Search
import Parley.Text.Word
import Parley.Time.Day
import Parley.Time.Timestamp
import Parley.Trigger
import Parley.Turn.Execute
import Parley.Turn.Trace
import Parley.Url.Address
import Parley.Variables
