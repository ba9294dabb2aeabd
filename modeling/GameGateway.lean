import GameGateway.Address.Client
import GameGateway.Address.Ip
import GameGateway.Bytes
import GameGateway.Channel.Datagram
import GameGateway.Channel.Basic
import GameGateway.Channel.Link
import GameGateway.Channel.Loopback
import GameGateway.Clock
import GameGateway.Config.Basic
import GameGateway.Config.LogText
import GameGateway.Config.Reading
import GameGateway.Control.Availability
import GameGateway.Control.BackendPlane
import GameGateway.Control.Endpoint
import GameGateway.Control.Refusal
import GameGateway.Control.ProxyPlane
import GameGateway.Digest
import GameGateway.Error
import GameGateway.Event.Activity
import GameGateway.Event.Bus
import GameGateway.Event.Kind
import GameGateway.Guard.InFlight
import GameGateway.Guard.RateLimiter
import GameGateway.Guard.ReplayWindow
import GameGateway.Json.Value
import GameGateway.Json.Basic
import GameGateway.Json.Parser
import GameGateway.Json.Printer
import GameGateway.Node.Basic
import GameGateway.Proofs.Chains
import GameGateway.Proofs.Channel.Authorization
import GameGateway.Proofs.Channel.Handshakes
import GameGateway.Proofs.Control.Accounting
import GameGateway.Proofs.Control.Answers
import GameGateway.Proofs.Control.Availability
import GameGateway.Proofs.Control.Journal
import GameGateway.Proofs.Control.Passage
import GameGateway.Proofs.Control.PendingTransfers
import GameGateway.Proofs.Control.Reports
import GameGateway.Proofs.Control.Sending
import GameGateway.Proofs.Control.Settlement
import GameGateway.Proofs.Control.StatusChanges
import GameGateway.Proofs.Event.Delivery
import GameGateway.Proofs.Event.History
import GameGateway.Proofs.Guard.RateLimits
import GameGateway.Proofs.Handoff
import GameGateway.Proofs.Proxy.Accepting
import GameGateway.Proofs.Proxy.Chronicle
import GameGateway.Proofs.Proxy.Consent
import GameGateway.Proofs.Proxy.FailedTransfer
import GameGateway.Proofs.Proxy.Ledger
import GameGateway.Proofs.Proxy.Lifecycle
import GameGateway.Proofs.Proxy.RefusedConnection
import GameGateway.Proofs.Proxy.RefusedTransfer
import GameGateway.Proofs.Proxy.Run
import GameGateway.Proofs.Proxy.Serving
import GameGateway.Proofs.Proxy.TransferTarget
import GameGateway.Proofs.Quiet
import GameGateway.Proofs.Replay.ControlPackets
import GameGateway.Proofs.Replay.Eviction
import GameGateway.Proofs.Replay.Runs
import GameGateway.Proofs.Replay.TokenUse
import GameGateway.Proofs.Replay.Tracking
import GameGateway.Proofs.Route.Avoidance
import GameGateway.Proofs.Route.FirstWord
import GameGateway.Proofs.Route.Outcome
import GameGateway.Proofs.Saturation
import GameGateway.Proofs.Session.Binding
import GameGateway.Proofs.Session.Uniqueness
import GameGateway.Proofs.Session.WellKept
import GameGateway.Proofs.Entries
import GameGateway.Proofs.Text.Spelling
import GameGateway.Proofs.Token.Checks
import GameGateway.Proofs.Token.Issue
import GameGateway.Proofs.Token.Kinds
import GameGateway.Proofs.Token.Length
import GameGateway.Proofs.Token.Presentations
import GameGateway.Proofs.Token.Reading
import GameGateway.Proofs.Token.Rotation
import GameGateway.Proofs.Token.Shown
import GameGateway.Proofs.Token.Spellings
import GameGateway.Proofs.Token.Unsigned
import GameGateway.Proofs.Token.Validity
import GameGateway.Proofs.Trace
import GameGateway.Proofs.Wire.ConnectFrame
import GameGateway.Proofs.Wire.Delimited
import GameGateway.Proofs.Wire.Envelope
import GameGateway.Proofs.Wire.Inversion
import GameGateway.Proofs.Wire.MessagingFrame
import GameGateway.Proofs.Wire.Notice
import GameGateway.Proofs.Wire.Rewriting
import GameGateway.Proxy.Basic
import GameGateway.Proxy.Connection
import GameGateway.Proxy.Transfer
import GameGateway.Rehearsal.Deployment
import GameGateway.Rehearsal.Exchange
import GameGateway.Rehearsal.NamedLinks
import GameGateway.Rehearsal.Packet
import GameGateway.Rehearsal.Posting
import GameGateway.Rehearsal.Routing
import GameGateway.Rehearsal.Scene
import GameGateway.Rehearsal.Script
import GameGateway.Report.Config
import GameGateway.Report.Answer
import GameGateway.Report.Frame
import GameGateway.Report.Reading
import GameGateway.Route.Context
import GameGateway.Route.Decision
import GameGateway.Route.Router
import GameGateway.Route.Selection
import GameGateway.Session.Basic
import GameGateway.Session.Registry
import GameGateway.Session.State
import GameGateway.Surroundings
import GameGateway.Table
import GameGateway.Text.CharSet
import GameGateway.Text.Base64Url
import GameGateway.Text.Decimal
import GameGateway.Text.Fields
import GameGateway.Text.Hex
import GameGateway.Text.Quoted
import GameGateway.Text.Utf8
import GameGateway.Token.Claims
import GameGateway.Token.Error
import GameGateway.Token.ProxyToken
import GameGateway.Token.Secrets
import GameGateway.Token.SignedText
import GameGateway.Token.TransferToken
import GameGateway.Uuid
import GameGateway.Wire.Code
import GameGateway.Wire.ConnectFrame
import GameGateway.Wire.Envelope
import GameGateway.Wire.Reader
import GameGateway.Wire.MessagingFrame
import GameGateway.Wire.Notice
import GameGateway.Wire.VarInt
import GameGateway.Proofs.Control.Timestamps
import GameGateway.Proofs.Replay.Capacity
import GameGateway.Proofs.Guard.Sweeps
import GameGateway.Proofs.Session.Links
import GameGateway.Proofs.Wire.Numbers
import GameGateway.Proofs.Token.Fingerprints
import GameGateway.Proofs.Guard.Leases
