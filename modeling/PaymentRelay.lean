import PaymentRelay.BufferPool
import PaymentRelay.Bytes.Basic
import PaymentRelay.Bytes.Reads
import PaymentRelay.Bytes.Utf8
import PaymentRelay.Config.Path
import PaymentRelay.Config.Settings
import PaymentRelay.Config.Startup
import PaymentRelay.Config.Value
import PaymentRelay.Decimal.Basic
import PaymentRelay.Decimal.Read
import PaymentRelay.Decimal.Sum
import PaymentRelay.Edge.Connection
import PaymentRelay.Edge.Fault
import PaymentRelay.Edge.Session
import PaymentRelay.Gateway.Basic
import PaymentRelay.Gateway.Notice
import PaymentRelay.Gateway.Step
import PaymentRelay.Gateway.Summaries
import PaymentRelay.Gateway.Task
import PaymentRelay.Health.Monitor
import PaymentRelay.Health.Probe
import PaymentRelay.Health.Watch
import PaymentRelay.Http.Exchange
import PaymentRelay.Http.Header
import PaymentRelay.Http.Numeral
import PaymentRelay.Http.Request
import PaymentRelay.Http.Response
import PaymentRelay.Http.Route
import PaymentRelay.Http.Writer
import PaymentRelay.Json.Basic
import PaymentRelay.Json.Number
import PaymentRelay.Json.Record
import PaymentRelay.Json.Skip
import PaymentRelay.Json.Text
import PaymentRelay.Ledger
import PaymentRelay.Ledger.Scan
import PaymentRelay.Number.Binary64
import PaymentRelay.Number.Nearest
import PaymentRelay.Number.Power
import PaymentRelay.Payment.Payload
import PaymentRelay.Payment.Source
import PaymentRelay.Payment.Summary
import PaymentRelay.Payment.Window
import PaymentRelay.Peer.Client
import PaymentRelay.Peer.Fault
import PaymentRelay.Processor.Client
import PaymentRelay.Processor.Fault
import PaymentRelay.Processor.Pool
import PaymentRelay.Proofs.Bytes.Find
import PaymentRelay.Proofs.Edge.Bodies
import PaymentRelay.Proofs.Edge.Framing
import PaymentRelay.Proofs.Edge.Transcript
import PaymentRelay.Proofs.Gateway.Books
import PaymentRelay.Proofs.Gateway.Conservation
import PaymentRelay.Proofs.Gateway.Custody
import PaymentRelay.Proofs.Gateway.Faithful
import PaymentRelay.Proofs.Gateway.Labels
import PaymentRelay.Proofs.Gateway.Turns
import PaymentRelay.Proofs.Gateway.Weight
import PaymentRelay.Proofs.Http.Framed
import PaymentRelay.Proofs.Ledger.PlainList
import PaymentRelay.Proofs.Ledger.Records
import PaymentRelay.Proofs.Processor.Answers
import PaymentRelay.Proofs.Processor.Dialogue
import PaymentRelay.Proofs.Processor.Links
import PaymentRelay.Proofs.Processor.Steps
import PaymentRelay.Proofs.Processor.Tidy
import PaymentRelay.Proofs.Processor.Watch
import PaymentRelay.Rehearsal.Client
import PaymentRelay.Rehearsal.Gateway
import PaymentRelay.Rehearsal.Health
import PaymentRelay.Rehearsal.Network
import PaymentRelay.Rehearsal.Reply
import PaymentRelay.Rehearsal.Sibling
import PaymentRelay.Retry.Queue
import PaymentRelay.Text.Blank
import PaymentRelay.Text.Extending
import PaymentRelay.Text.Form
import PaymentRelay.Text.Quoted
import PaymentRelay.Text.Unprintable
import PaymentRelay.Time.Civil
import PaymentRelay.Time.Instant
import PaymentRelay.Time.Rfc3339
import PaymentRelay.Transport.Endpoint
import PaymentRelay.Transport.Fault
import PaymentRelay.Proofs.Ledger.Racing
import PaymentRelay.Proofs.Gateway.Calls
import PaymentRelay.Proofs.Gateway.Selection
import PaymentRelay.Proofs.Gateway.Verdict
import PaymentRelay.Proofs.Processor.Postings
import PaymentRelay.Proofs.Gateway.Audit
import PaymentRelay.Health.Recovery
import PaymentRelay.Proofs.Health.Recovery
import PaymentRelay.Proofs.Health.DownPeriods
import PaymentRelay.Proofs.Http.Front
import PaymentRelay.Proofs.Gateway.Merged
import PaymentRelay.Proofs.Bytes.Split
import PaymentRelay.Proofs.Bytes.Utf8
import PaymentRelay.Proofs.Text.Forms
import PaymentRelay.Proofs.Http.Numerals
import PaymentRelay.Proofs.Time.Calendar
import PaymentRelay.Proofs.Time.Stamps
import PaymentRelay.Proofs.Http.Heads
import PaymentRelay.Proofs.Peer.SameWindow
import PaymentRelay.Proofs.Decimal.Sums
import PaymentRelay.Proofs.Ledger.Totals
import PaymentRelay.Proofs.Gateway.Combined
import PaymentRelay.Proofs.Http.Responses
import PaymentRelay.Proofs.Decimal.Written
import PaymentRelay.Proofs.Json.Written
import PaymentRelay.Proofs.Peer.SameSummary
import PaymentRelay.Proofs.Edge.Discipline
import PaymentRelay.Proofs.Http.Requests
import PaymentRelay.Proofs.Json.Fields
import PaymentRelay.Proofs.Payment.Forwarded
import PaymentRelay.Proofs.Gateway.Moves
import PaymentRelay.Proofs.Gateway.Retries
import PaymentRelay.Proofs.Processor.Ownership
import PaymentRelay.Proofs.Processor.Turns
import PaymentRelay.Proofs.Processor.Release
import PaymentRelay.Proofs.Gateway.Outstanding
import PaymentRelay.Proofs.Health.Waiting
import PaymentRelay.Proofs.Gateway.Waiting
import PaymentRelay.Proofs.Http.Readings
import PaymentRelay.Proofs.Http.Lockstep
import PaymentRelay.Proofs.Http.Grammar
import PaymentRelay.Proofs.Http.FirstLine
import PaymentRelay.Proofs.Http.CutOff
import PaymentRelay.Proofs.Processor.HangUp
import PaymentRelay.Proofs.Transport.CutOff
import PaymentRelay.Proofs.Processor.Exclusive
import PaymentRelay.Proofs.Processor.Leases
import PaymentRelay.Proofs.Processor.Supply
import PaymentRelay.Proofs.Http.Writing
import PaymentRelay.Retry.Callers
import PaymentRelay.Proofs.Lists.Modify
import PaymentRelay.Proofs.Retry.Account
import PaymentRelay.Proofs.Payment.Windows
import PaymentRelay.Proofs.Buffers.Apart
import PaymentRelay.Proofs.Bytes.Trim
import PaymentRelay.Proofs.Http.Lengths
