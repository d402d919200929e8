import SmartHelmet.Decimal.Binary
import SmartHelmet.Decimal.Shortest
import SmartHelmet.Decimal.Layout
import SmartHelmet.Text.Utf8
import SmartHelmet.Text.Hex
import SmartHelmet.Json.Value
import SmartHelmet.Json.Parse
import SmartHelmet.Abort
import SmartHelmet.Random.ChaCha
import SmartHelmet.Random.Source
import SmartHelmet.Random.Sample
import SmartHelmet.Signal.Remainder
import SmartHelmet.Signal.Pulse
import SmartHelmet.Signal.Motion
import SmartHelmet.Geo
import SmartHelmet.Link.Channel
import SmartHelmet.Session.Phase
import SmartHelmet.Clock.Calendar
import SmartHelmet.Clock.Span
import SmartHelmet.Text.Quoted
import SmartHelmet.Json.Number
import SmartHelmet.Json.Reader
import SmartHelmet.Log
import SmartHelmet.Log.Filter
import SmartHelmet.Command
import SmartHelmet.Status
import SmartHelmet.Decimal.Reading
import SmartHelmet.Payload
import SmartHelmet.Session.Progress
import SmartHelmet.Session.Settings
import SmartHelmet.Session.Plan
import SmartHelmet.Link.Failure
import SmartHelmet.Link.Transport
import SmartHelmet.Link.Scripted
import SmartHelmet.Service.Failure
import SmartHelmet.Session.Error
import SmartHelmet.Session.State
import SmartHelmet.Session.Run
import SmartHelmet.Text.Blank
import SmartHelmet.Config.Basic
import SmartHelmet.Config.Lookup
import SmartHelmet.Config.DotEnv
import SmartHelmet.Config.Summary
import SmartHelmet.Url.Error
import SmartHelmet.Url.Percent
import SmartHelmet.Url.Punycode
import SmartHelmet.Url.Domain
import SmartHelmet.Url.Host
import SmartHelmet.Url.Basic
import SmartHelmet.Url.Path
import SmartHelmet.Url.Parse
import SmartHelmet.Link.Address
import SmartHelmet.Net
import SmartHelmet.Service.Request
import SmartHelmet.Service.Endpoint
import SmartHelmet.Link.Broker
import SmartHelmet.Program.Report
import SmartHelmet.Program.Run
import SmartHelmet.Main
import SmartHelmet.Unicode.Table
import SmartHelmet.Unicode.Mark
import SmartHelmet.Unicode.Escaped
import SmartHelmet.Unicode.Alphanumeric
import SmartHelmet.Unicode.Bidi
import SmartHelmet.Unicode.Joining
import SmartHelmet.Unicode.CombiningClass
import SmartHelmet.Unicode.Decomposition
import SmartHelmet.Unicode.Normalize
import SmartHelmet.Unicode.IdnaMapping
import SmartHelmet.Unicode.Word
import SmartHelmet.Unicode.PropertyValue
import SmartHelmet.Unicode.BinaryProperty
import SmartHelmet.Unicode.Script
import SmartHelmet.Unicode.Category
import SmartHelmet.Regex.Syntax
import SmartHelmet.Regex.Parse
import SmartHelmet.Regex.Report
import SmartHelmet.Regex.CharClass
import SmartHelmet.Regex.Property
import SmartHelmet.Regex.Expr
import SmartHelmet.Regex.Resolve
import SmartHelmet.Regex.Automaton
import SmartHelmet.Regex.Footprint
import SmartHelmet.Regex.Pattern
import SmartHelmet.Proofs.Except
import SmartHelmet.Proofs.Text.Utf8
import SmartHelmet.Proofs.Link.Exchange
import SmartHelmet.Proofs.Session.Logic
import SmartHelmet.Proofs.Session.Quiet
import SmartHelmet.Proofs.Session.Transcript
import SmartHelmet.Proofs.Session.Overflow
import SmartHelmet.Proofs.Session.Ledger
import SmartHelmet.Proofs.Session.Faults
import SmartHelmet.Proofs.Session.Outcomes
import SmartHelmet.Proofs.Session.Emission
import SmartHelmet.Proofs.Session.Impacts
import SmartHelmet.Proofs.Session.Lockstep
import SmartHelmet.Link.Client
import SmartHelmet.Proofs.Link.Acknowledgement
import SmartHelmet.Proofs.Link.Commands
import SmartHelmet.Proofs.Link.Topics
import SmartHelmet.Proofs.Session.Lifecycle
import SmartHelmet.Proofs.Session.Rerun
import SmartHelmet.Proofs.Json.Steps
import SmartHelmet.Proofs.Status.Metrics
import SmartHelmet.Proofs.Status.Reply
import SmartHelmet.Proofs.Config.Blank
import SmartHelmet.Proofs.Link.Handshake
import SmartHelmet.Proofs.Json.Success
import SmartHelmet.Proofs.Json.Strings
import SmartHelmet.Proofs.Json.Numbers
import SmartHelmet.Proofs.Json.Skipping
import SmartHelmet.Proofs.Json.Containers
import SmartHelmet.Proofs.Json.NumberValue
import SmartHelmet.Proofs.Json.Kept
import SmartHelmet.Proofs.Command.Messages
import SmartHelmet.Proofs.Url.Percent
import SmartHelmet.Proofs.Url.Punycode
import SmartHelmet.Proofs.Url.Domain
import SmartHelmet.Proofs.Url.Paths
import SmartHelmet.Proofs.Url.Addresses
import SmartHelmet.Proofs.Url.Hosts
import SmartHelmet.Proofs.Url.Canonical
import SmartHelmet.Proofs.Url.Reread
import SmartHelmet.Proofs.Service.StatusUrl
