import Socks5.Text.Printable
import Socks5.Text.Upper
import Socks5.Text.Digit
import Socks5.Text.Width
import Socks5.Text.Blank
import Socks5.Text.Quoted
import Socks5.Text.Utf8
import Socks5.Number.Literal
import Socks5.Number.Layout
import Socks5.Number.Decimal
import Socks5.Address
import Socks5.Wire.Request
import Socks5.Fault
import Socks5.Endpoint.Usage
import Socks5.Connection
import Socks5.Json.Reader
import Socks5.Json.Writer
import Socks5.Wire.Spelling
import Socks5.Inspect
import Socks5.Server.Service
import Socks5.Settings.Document
import Socks5.Settings.Check
import Socks5.Locator
import Socks5.Log.Uppercase
import Socks5.Log.Sink
import Socks5.Console.Table
import Socks5.Console.Panel
import Socks5.CommandLine.Invocation
import Socks5.CommandLine.Init
import Socks5.CommandLine.Decode
import Socks5.CommandLine.Run
import Socks5.Main
import Socks5.Proofs.Wire.Grammar
import Socks5.Proofs.Server.Ledger
import Socks5.Proofs.Server.Negotiation
import Socks5.Proofs.Server.Conduct
import Socks5.Proofs.Server.Clients
import Socks5.Proofs.Server.Authority
import Socks5.Proofs.Server.Door
import Socks5.Proofs.Server.Limit
import Socks5.Proofs.Wire.RoundTrip
import Socks5.Proofs.Address.Literal
import Socks5.Proofs.Wire.Reencoding
import Socks5.Proofs.Wire.Diagnosis
import Socks5.Proofs.Wire.Acceptance
import Socks5.Proofs.Server.Closing
import Socks5.Proofs.Server.Isolation
import Socks5.Proofs.Server.Standpoint
import Socks5.Proofs.Server.View
import Socks5.Proofs.Endpoint.Agreement
import Socks5.Proofs.Endpoint.Finality
import Socks5.Proofs.Endpoint.Suggestion
import Socks5.Proofs.Server.Segmentation
import Socks5.Proofs.Server.Attendance
import Socks5.Proofs.Server.Succession
import Socks5.Proofs.Server.Deadlines
import Socks5.Proofs.Server.Prediction
import Socks5.Proofs.Wire.Inspection
import Socks5.Proofs.Endpoint.Answers
import Socks5.Proofs.Server.Places
import Socks5.Proofs.Server.Composure
import Socks5.Proofs.Server.Monitor
import Socks5.Proofs.Server.Dials
import Socks5.Proofs.Server.Listening
import Socks5.Proofs.Settings.Fields
import Socks5.Proofs.Settings.Shape
import Socks5.Proofs.Settings.Precedence
import Socks5.Proofs.CommandLine.Job
import Socks5.Proofs.CommandLine.Configuration
import Socks5.Proofs.CommandLine.RelayPath
import Socks5.Proofs.Number.Literal
import Socks5.Proofs.CommandLine.Spelling
import Socks5.Proofs.Settings.Persistence
import Socks5.Proofs.Number.Order
import Socks5.Proofs.CommandLine.Soundness
