import CallTelemetry.Config.Basic
import CallTelemetry.Json.Decode

/-!
# Configurations as JSON

A configuration is written as an object with all thirteen fields. It is read from an object in which
any field may be missing and takes its default, or from an array of the fields in their order.
-/

namespace CallTelemetry

/-- A sensitivity label. -/
def Classification.decode : Decoder Classification := fun j => Classification.mk <$> Decoder.string j

def Classification.toJson (c : Classification) : Json := .str c.label

def RedactionMode.decode : Decoder RedactionMode := Decoder.variant RedactionMode.names

def RedactionMode.toJson (m : RedactionMode) : Json := .str m.name

def PathLoggingMode.decode : Decoder PathLoggingMode := Decoder.variant PathLoggingMode.names

def PathLoggingMode.toJson (m : PathLoggingMode) : Json := .str m.name

namespace HeaderRule

def decode : Decoder HeaderRule := Decoder.record "HeaderRule" ["name", "classification"] 2 fun m => do
  return {
    name := ← m.required "name" Decoder.string
    classification := ← m.required "classification" Classification.decode }

def toJson (r : HeaderRule) : Json :=
  .obj [("name", .str r.name), ("classification", r.classification.toJson)]

end HeaderRule

namespace EnricherConfig

def decode : Decoder EnricherConfig := Decoder.record "EnricherConfig" ["name", "config"] 1 fun m => do
  return {
    name := ← m.required "name" Decoder.string
    config := ← m.optional "config" .null Decoder.value }

def toJson (e : EnricherConfig) : Json :=
  .obj [("name", .str e.name), ("config", e.config)]

end EnricherConfig

namespace LoggingConfig

/-- The fields of a configuration in their order. -/
def fieldNames : List String :=
  ["log_request_start", "request_headers", "response_headers", "log_body", "body_size_limit",
   "body_read_timeout_ms", "request_body_content_types", "response_body_content_types",
   "path_redaction_mode", "path_logging_mode", "route_parameters", "pool_capacity", "enrichers"]

/-- Reads a configuration. -/
def decode : Decoder LoggingConfig := Decoder.record "LoggingConfig" fieldNames 0 fun m => do
  return {
    logRequestStart := ← m.optional "log_request_start" false Decoder.bool
    requestHeaders := ← m.optional "request_headers" [] (Decoder.list HeaderRule.decode)
    responseHeaders := ← m.optional "response_headers" [] (Decoder.list HeaderRule.decode)
    logBody := ← m.optional "log_body" false Decoder.bool
    bodySizeLimit := ← m.optional "body_size_limit" 32768 Decoder.uint64
    bodyReadTimeoutMs := ← m.optional "body_read_timeout_ms" 1000 Decoder.uint64
    requestBodyContentTypes :=
      ← m.optional "request_body_content_types" [] (Decoder.list Decoder.string)
    responseBodyContentTypes :=
      ← m.optional "response_body_content_types" [] (Decoder.list Decoder.string)
    pathRedactionMode := ← m.optional "path_redaction_mode" .strict RedactionMode.decode
    pathLoggingMode := ← m.optional "path_logging_mode" .formatted PathLoggingMode.decode
    routeParameters := ← m.optional "route_parameters" [] (Decoder.map Classification.decode)
    poolCapacity := ← m.optional "pool_capacity" 1024 Decoder.uint64
    enrichers := ← m.optional "enrichers" [] (Decoder.list EnricherConfig.decode) }

/-- Writes a configuration with all its fields. -/
def toJson (c : LoggingConfig) : Json :=
  .obj [
    ("log_request_start", .bool c.logRequestStart),
    ("request_headers", .arr (c.requestHeaders.map HeaderRule.toJson)),
    ("response_headers", .arr (c.responseHeaders.map HeaderRule.toJson)),
    ("log_body", .bool c.logBody),
    ("body_size_limit", Json.nat c.bodySizeLimit.toNat),
    ("body_read_timeout_ms", Json.nat c.bodyReadTimeoutMs.toNat),
    ("request_body_content_types", .arr (c.requestBodyContentTypes.map Json.str)),
    ("response_body_content_types", .arr (c.responseBodyContentTypes.map Json.str)),
    ("path_redaction_mode", c.pathRedactionMode.toJson),
    ("path_logging_mode", c.pathLoggingMode.toJson),
    ("route_parameters", .obj (c.routeParameters.map fun p => (p.1, p.2.toJson))),
    ("pool_capacity", Json.nat c.poolCapacity.toNat),
    ("enrichers", .arr (c.enrichers.map EnricherConfig.toJson))]

end LoggingConfig

end CallTelemetry
