import FuelTelemetry.Json.Writer
import FuelTelemetry.Processing.InMemory
import FuelTelemetry.Processing.Intake
import FuelTelemetry.Service.Routes
import FuelTelemetry.Proofs.Detection.History
import FuelTelemetry.Proofs.Processing.Announcing
import FuelTelemetry.Proofs.Processing.FailedReading
import FuelTelemetry.Proofs.Processing.Forward
import FuelTelemetry.Proofs.Processing.Interleaving
import FuelTelemetry.Proofs.Processing.Reached
import FuelTelemetry.Proofs.Processing.Results
import FuelTelemetry.Proofs.Processing.Sources
import FuelTelemetry.Proofs.Service.Rebuild
import FuelTelemetry.Proofs.Window.Arrivals
import FuelTelemetry.Proofs.Window.Columns
import FuelTelemetry.Proofs.Ledger.Inserting
import FuelTelemetry.Proofs.Service.Accepting
import FuelTelemetry.Proofs.Service.Batch
import FuelTelemetry.Proofs.Reading.Offending
import FuelTelemetry.Proofs.Service.Rejection
import FuelTelemetry.Proofs.Service.Persistence
import FuelTelemetry.Proofs.Ledger.Activities
import FuelTelemetry.Proofs.Ledger.Listing
import FuelTelemetry.Proofs.Service.Listing
import FuelTelemetry.Proofs.Window.Slices
import FuelTelemetry.Proofs.Number.Overflow
import FuelTelemetry.Proofs.Reading.Escapes
import FuelTelemetry.Proofs.Event.Tracked
import FuelTelemetry.Proofs.WarmStart.Replaying
import FuelTelemetry.Proofs.WarmStart.Loading
import FuelTelemetry.Proofs.WarmStart.Steps
import FuelTelemetry.Proofs.WarmStart.Parallel
import FuelTelemetry.Proofs.WarmStart.Isolation
import FuelTelemetry.Proofs.Payload.Grammar
import FuelTelemetry.Proofs.Calibration.Scan
import FuelTelemetry.Proofs.Text.Digits
import FuelTelemetry.Proofs.Time.Calendar
import FuelTelemetry.Proofs.Time.IsoReading
import FuelTelemetry.Proofs.Number.Nearest
import FuelTelemetry.Proofs.Time.EpochMillis
import FuelTelemetry.Proofs.Number.Numerals
import FuelTelemetry.Proofs.Reading.Timestamps
import FuelTelemetry.Proofs.Reading.RoundTrip
import FuelTelemetry.Proofs.Detection.Places
import FuelTelemetry.Proofs.Ledger.Recall
import FuelTelemetry.Proofs.Event.Closing
import FuelTelemetry.Proofs.Event.Sampling
