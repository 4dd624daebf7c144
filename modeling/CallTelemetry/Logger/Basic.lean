import CallTelemetry.Capture.Reader
import CallTelemetry.Enrichment.Registry
import CallTelemetry.Logger.Pools
import CallTelemetry.Record.Emission

/-!
# Call loggers

A logger follows a call from its start to its end. The start takes a record from the pool and reads the
request into it; the end reads the response, runs the enrichers, emits the record and gives everything
back. What happens on the way, log events and emitted records alike, is the trace of a step. A usage
error of the reader ends a step at once, and nothing stays out; any other error becomes a warning.
-/

namespace CallTelemetry

/-- A log event or the emission of a record, in the order in which they happen. -/
inductive TraceEvent where
  | log (e : LogEvent)
  | emit (e : Emission)

/-- The records emitted in a trace. -/
def emissions (trace : List TraceEvent) : List Emission :=
  trace.filterMap fun
    | .emit e => some e
    | .log _ => none

/-- A logger with the state of its pools. -/
structure CallLogger where
  logRequestStart : Bool
  logRequestHeaders : Bool
  logResponseHeaders : Bool
  reader : CallReader
  enrichers : EnricherSet
  pools : Pools

/-- The outcome of setting up a logger. -/
structure LoggerBuild where
  result : Except CallError CallLogger
  logs : List LogEvent

/-- What one step of a logger gives back. -/
structure LoggerStep (α : Type) where
  result : Except CallError α
  pools : Pools
  trace : List TraceEvent

/-- The end of a call as its transport reports it. -/
structure CallEnd where
  request : Request
  response : Option Response
  /-- The text of the failure of the transport, if it failed. -/
  failure : Option String
  elapsedNanos : Nat
  cancelled : Bool

/-- The largest duration that a record can hold. -/
def maxDurationMs : Nat := Nat.pow 2 64 - 1

namespace CallLogger

/-- The event of a logger that is ready for use. -/
def ready (c : LoggingConfig) (enrichers : EnricherSet) : LogEvent where
  level := .debug
  message := "Call logger ready"
  fields := [("enrichers", .text (Text.quoteList enrichers.names)),
    ("pool_capacity", .count c.poolCapacity.toNat)]

/-- A logger around a reader. The configuration is not validated. -/
def withReader (c : LoggingConfig) (reader : CallReader) (enrichers : EnricherSet) : CallLogger where
  logRequestStart := c.logRequestStart
  logRequestHeaders := c.logRequestHeaders
  logResponseHeaders := c.logResponseHeaders
  reader := reader
  enrichers := enrichers
  pools := .ofCapacity c.poolCapacity.toNat

/-- The reader of a valid configuration. -/
def readerOf (c : LoggingConfig) (redactor : Redactor) : Except CallError CallReader := do
  c.validate.mapError fun fault => CallError.config fault.message
  let reader ← (HttpReader.ofConfig c redactor).mapError fun name =>
    CallError.config (HeaderCapture.invalidName name)
  return reader.toCallReader

/-- A logger for a valid configuration. -/
def new (c : LoggingConfig) (redactor : Redactor) (enrichers : EnricherSet) : LoggerBuild :=
  match readerOf c redactor with
  | .error e => ⟨.error e, []⟩
  | .ok reader => ⟨.ok (withReader c reader enrichers), [ready c enrichers]⟩

/-- A logger whose enrichers are built from its configuration. They are built before the configuration
is validated. -/
def fromRegistry (c : LoggingConfig) (redactor : Redactor) (registry : EnricherRegistry) : LoggerBuild :=
  let built := registry.build c.enrichers
  match built.result with
  | .error text => ⟨.error (.config text), built.logs⟩
  | .ok enrichers =>
    let logger := new c redactor enrichers
    { logger with logs := built.logs ++ logger.logs }

/-- The warning about a side of a call that could not be read. -/
def notRead (side : String) (e : CallError) : LogEvent where
  level := .warn
  message := "Failed to read " ++ side
  fields := [("error", .text e.message)]

/-- What comes into the trace for a reading: its own events, and a warning for an error that is passed
over. -/
def readingTrace (side : String) (r : Reading) : List TraceEvent :=
  (r.logs ++ (match r.error with
    | some e => if e.isUsageError then [] else [notRead side e]
    | none => [])).map .log

/-- The usage error of a reading, if it ended with one. -/
def usageError? (r : Reading) : Option CallError := r.error.filter CallError.isUsageError

/-- Puts a list of headers on a record as those of one side. A list that was there goes back. -/
def putHeaders (side : BodySide) (pools : Pools) (record : LogRecord) (headers : HeaderList) :
    LogRecord × Pools :=
  match side with
  | .request =>
    ({ record with requestHeaders := some headers }, pools.releaseHeaders record.requestHeaders)
  | .response =>
    ({ record with responseHeaders := some headers }, pools.releaseHeaders record.responseHeaders)

/-- A record after a reading of one side. -/
def store (side : BodySide) (pools : Pools) (record : LogRecord) (buffer : Option HeaderList)
    (r : Reading) : LogRecord × Pools :=
  let record := { record with toCallFields := r.fields }
  match buffer.map r.useBuffer with
  | none => (record, pools)
  | some (.letGo b) => (record, pools.releaseHeaders (some b))
  | some (.keep b) => putHeaders side pools record b
  | some (.keepAcross b) => putHeaders side.other pools record b

/-- Starts a call: the record it is to be finished with. -/
def start (l : CallLogger) (request : Request) (cancelled : Bool) : LoggerStep LogRecord :=
  let (record, records) := l.pools.records.acquire
  let (buffer, pools) := { l.pools with records }.takeHeaders l.logRequestHeaders
  let reading := l.reader.readRequest record request cancelled
  let (record, pools) := store .request pools record buffer reading
  match usageError? reading with
  | some e => ⟨.error e, pools.releaseRecord record, readingTrace "request" reading⟩
  | none =>
    let emitted := if l.logRequestStart then [TraceEvent.emit ⟨record, .information, none⟩] else []
    ⟨.ok record, pools, readingTrace "request" reading ++ emitted⟩

/-- Runs the enrichers on a new bag and puts it on the record, unless there are no enrichers. -/
def enrich (l : CallLogger) (pools : Pools) (record : LogRecord) (e : CallEnd) :
    LogRecord × Pools × List TraceEvent :=
  if l.enrichers.isEmpty then (record, pools, [])
  else
    let (bag, bags) := pools.bags.acquire
    let out := l.enrichers.fanOut bag e.request e.response
    ({ record with enrichment := some out.bag }, { pools with bags }.releaseBag record.enrichment,
      out.logs.map .log)

/-- The record as it is emitted at the end of a call. -/
def emission (record : LogRecord) (e : CallEnd) : Emission where
  record := { record with durationMs := min (e.elapsedNanos / 1000000) maxDurationMs }
  severity := Severity.ofCall record.statusCode e.failure.isSome
  failure := e.failure

/-- Ends a call that this logger started. Everything the call holds goes back. -/
def complete (l : CallLogger) (record : LogRecord) (e : CallEnd) : LoggerStep Unit :=
  let (buffer, pools) := l.pools.takeHeaders (l.logResponseHeaders && e.response.isSome)
  let reading := l.reader.readResponse record e.response e.cancelled
  let (record, pools) := store .response pools record buffer reading
  match usageError? reading with
  | some error => ⟨.error error, pools.releaseRecord record, readingTrace "response" reading⟩
  | none =>
    let (record, pools, enriched) := l.enrich pools record e
    let emitted := emission record e
    ⟨.ok (), pools.releaseRecord emitted.record,
      readingTrace "response" reading ++ enriched ++ [.emit emitted]⟩

end CallLogger

end CallTelemetry
