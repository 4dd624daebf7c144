import CallTelemetry.Json.Basic
import CallTelemetry.Redaction.Classification

/-!
# Logging configuration

What is logged of the outgoing calls of one client, with its limits and defaults.
-/

namespace CallTelemetry

/-- A header to capture, with the sensitivity of its value. -/
structure HeaderRule where
  name : String
  classification : Classification
  deriving DecidableEq, Repr

/-- An enricher to set up: the name of its factory and its own configuration. -/
structure EnricherConfig where
  name : String
  config : Json := .null
  deriving DecidableEq, Repr

/-- The settings of a call logger. -/
structure LoggingConfig where
  /-- Whether a record is emitted as soon as a request is seen. -/
  logRequestStart : Bool := false
  requestHeaders : List HeaderRule := []
  responseHeaders : List HeaderRule := []
  logBody : Bool := false
  /-- How many bytes of a body are kept. -/
  bodySizeLimit : UInt64 := 32768
  bodyReadTimeoutMs : UInt64 := 1000
  requestBodyContentTypes : List String := []
  responseBodyContentTypes : List String := []
  pathRedactionMode : RedactionMode := .strict
  pathLoggingMode : PathLoggingMode := .formatted
  routeParameters : ParameterClasses := []
  /-- How many idle objects each pool keeps. -/
  poolCapacity : UInt64 := 1024
  /-- The enrichers in the order in which they run. -/
  enrichers : List EnricherConfig := []
  deriving DecidableEq, Repr

namespace LoggingConfig

def maxBodySizeLimit : Nat := 1572864

def maxBodyReadTimeoutMs : Nat := 60000

def maxPoolCapacity : Nat := 65536

/-- Whether any request header is captured. -/
def logRequestHeaders (c : LoggingConfig) : Bool := !c.requestHeaders.isEmpty

/-- Whether any response header is captured. -/
def logResponseHeaders (c : LoggingConfig) : Bool := !c.responseHeaders.isEmpty

end LoggingConfig

/-- A number of milliseconds as a diagnostic shows it: in whole seconds with a fraction from one second
on, in milliseconds below, and zero in nanoseconds. -/
def showMilliseconds (ms : Nat) : String :=
  if ms = 0 then "0ns"
  else if ms < 1000 then toString ms ++ "ms"
  else
    let digits := [ms / 100 % 10, ms / 10 % 10, ms % 10].map fun d => Char.ofNat (48 + d)
    let fraction := (digits.reverse.dropWhile (· = '0')).reverse
    toString (ms / 1000) ++ (if fraction.isEmpty then "" else "." ++ String.ofList fraction) ++ "s"

end CallTelemetry
