import CallTelemetry.Logger.Fleet
import CallTelemetry.Main
import CallTelemetry.Pool.Checkout
import CallTelemetry.Proofs.Capture.HeaderRules
import CallTelemetry.Proofs.Capture.HeaderEntries
import CallTelemetry.Proofs.Capture.Chunking
import CallTelemetry.Proofs.Capture.Pulls
import CallTelemetry.Proofs.Capture.MediaTypes
import CallTelemetry.Proofs.Capture.Truncation
import CallTelemetry.Proofs.Text.Utf8
import CallTelemetry.Proofs.Text.Visible
import CallTelemetry.Proofs.Pool.Balance
import CallTelemetry.Proofs.Pool.Loans
import CallTelemetry.Proofs.Pool.Growth
import CallTelemetry.Proofs.Pool.Ledger
import CallTelemetry.Proofs.Json.RoundTrip
import CallTelemetry.Proofs.Record.WireForm
import CallTelemetry.Proofs.Logger.Run
import CallTelemetry.Proofs.Logger.Custody
import CallTelemetry.Proofs.Logger.FleetAccounts
import CallTelemetry.Proofs.Logger.Draws
import CallTelemetry.Proofs.Logger.Leakage
import CallTelemetry.Proofs.Logger.Idle
import CallTelemetry.Proofs.Enrichment.Sight
import CallTelemetry.Proofs.Logger.Lifecycle
import CallTelemetry.Proofs.Logger.Exchange
import CallTelemetry.Proofs.Logger.Claiming
import CallTelemetry.Proofs.Logger.ReadFailures
import CallTelemetry.Proofs.Enrichment.FanOut
import CallTelemetry.Proofs.Enrichment.Keys
import CallTelemetry.Proofs.Logger.Isolation
import CallTelemetry.Proofs.Logger.Unpooled
import CallTelemetry.Proofs.Logger.Service
import CallTelemetry.Proofs.Logger.Transparency
import CallTelemetry.Proofs.Logger.Names
import CallTelemetry.Proofs.Logger.Noninterference
import CallTelemetry.Proofs.Route.Layout
import CallTelemetry.Proofs.Route.Separation
import CallTelemetry.Proofs.Route.Alignment
import CallTelemetry.Proofs.Route.Positions
import CallTelemetry.Proofs.Route.Printing
import CallTelemetry.Proofs.Route.Bracketing
import CallTelemetry.Proofs.Redaction.Concealment
import CallTelemetry.Proofs.Redaction.Layouts
import CallTelemetry.Proofs.Enrichment.CopiedHeaders
import CallTelemetry.Proofs.Enrichment.CallLabels
import CallTelemetry.Proofs.Enrichment.Building
import CallTelemetry.Proofs.Enrichment.Checks
import CallTelemetry.Proofs.Record.InsertionOrder
import CallTelemetry.Proofs.Record.Retention
import CallTelemetry.Proofs.Config.Usable
import CallTelemetry.Proofs.Config.Survival
import CallTelemetry.Proofs.Redaction.Places
