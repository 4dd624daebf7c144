import CallTelemetry.Json.Decode
import CallTelemetry.Log
import CallTelemetry.Record.Basic
import CallTelemetry.Severity

/-!
# Emitted records

An emission is a record at the moment it is handed on, with its severity and the text of a failure. It
can be written as one log event, whose `details` field holds the JSON text of everything that is no
scalar, or kept as an `EmittedRecord`, which owns its data and can be read back from JSON.
-/

namespace CallTelemetry

/-- A record as it is handed on. -/
structure Emission where
  record : LogRecord
  severity : Severity
  failure : Option String
  deriving DecidableEq, Repr

/-- A copy of an emitted record. -/
structure EmittedRecord where
  /-- The time of emission. -/
  timestamp : String
  severity : Severity
  method : String
  host : String
  path : String
  pathParameters : List (String × String)
  statusCode : Option Nat
  durationMs : Nat
  requestHeaders : Option (List (String × String))
  responseHeaders : Option (List (String × String))
  requestBody : Option String
  responseBody : Option String
  enrichment : List (String × String)
  failure : Option String
  deriving DecidableEq, Repr

/-- The target of the events that records are written as. -/
def outgoingTarget : String := "egress::outgoing"

namespace Emission

/-- The copy of an emission made at a time. -/
def capture (e : Emission) (timestamp : String) : EmittedRecord where
  timestamp := timestamp
  severity := e.severity
  method := e.record.method
  host := e.record.host
  path := e.record.path
  pathParameters := e.record.pathParameters
  statusCode := e.record.statusCode
  durationMs := e.record.durationMs
  requestHeaders := e.record.requestHeaders.map (·.items)
  responseHeaders := e.record.responseHeaders.map (·.items)
  requestBody := e.record.requestBody
  responseBody := e.record.responseBody
  enrichment := (e.record.enrichment.map (·.toList)).getD []
  failure := e.failure

/-- A text field that is there only if there is a text for it. -/
def textField (name : String) : Option String → List (String × LogValue)
  | some s => [(name, .text s)]
  | none => []

/-- The event that an emission is written as. -/
def event (e : Emission) : LogEvent where
  level := match e.severity with
    | .information => .info
    | .error => .error
  message := "outgoing request"
  target := some outgoingTarget
  fields :=
    [("method", .text e.record.method), ("host", .text e.record.host), ("path", .text e.record.path)] ++
    (e.record.statusCode.map fun s => ("status_code", LogValue.count s)).toList ++
    [("duration_ms", .count e.record.durationMs)] ++
    textField "details" (if e.record.lacksDetails then none else some e.record.detailsText) ++
    textField "error" e.failure

end Emission

namespace EmittedRecord

def requestHeader? (r : EmittedRecord) (name : String) : Option String :=
  r.requestHeaders.bind (findHeader? · name)

def responseHeader? (r : EmittedRecord) (name : String) : Option String :=
  r.responseHeaders.bind (findHeader? · name)

def enrichmentValue? (r : EmittedRecord) (key : String) : Option String :=
  r.enrichment.lookup key

/-- The fields of a serialized copy in their order. -/
def fieldNames : List String :=
  ["timestamp", "severity", "method", "host", "path", "path_parameters", "status_code", "duration_ms",
   "request_headers", "response_headers", "request_body", "response_body", "enrichment", "failure"]

/-- A list of pairs of texts. -/
def pairs : Decoder (List (String × String)) := Decoder.list (Decoder.pair Decoder.string Decoder.string)

/-- Reads a copy. What may be absent in a record may be missing or `null`; the two lists that are never
absent may be missing but not `null`. An array has to hold all fields. -/
def decode : Decoder EmittedRecord := Decoder.record "EmittedRecord" fieldNames fieldNames.length fun m => do
  return {
    timestamp := ← m.required "timestamp" Decoder.string
    severity := ← m.required "severity" (Decoder.variant Severity.names)
    method := ← m.required "method" Decoder.string
    host := ← m.required "host" Decoder.string
    path := ← m.required "path" Decoder.string
    pathParameters := ← m.optional "path_parameters" [] pairs
    statusCode := ← m.optional "status_code" none (Decoder.nullable (Decoder.word 16))
    durationMs := ← m.required "duration_ms" (Decoder.word 64)
    requestHeaders := ← m.optional "request_headers" none (Decoder.nullable pairs)
    responseHeaders := ← m.optional "response_headers" none (Decoder.nullable pairs)
    requestBody := ← m.optional "request_body" none (Decoder.nullable Decoder.string)
    responseBody := ← m.optional "response_body" none (Decoder.nullable Decoder.string)
    enrichment := ← m.optional "enrichment" [] pairs
    failure := ← m.optional "failure" none (Decoder.nullable Decoder.string) }

end EmittedRecord

/-- Copies of emitted records, oldest first. -/
structure Collector where
  records : List EmittedRecord := []

namespace Collector

def add (c : Collector) (r : EmittedRecord) : Collector := ⟨c.records ++ [r]⟩

def latest? (c : Collector) : Option EmittedRecord := c.records.getLast?

def size (c : Collector) : Nat := c.records.length

def clear (_ : Collector) : Collector := {}

end Collector

end CallTelemetry
