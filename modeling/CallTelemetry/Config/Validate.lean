import CallTelemetry.Config.Basic
import CallTelemetry.Http.Header

/-!
# Valid configurations

`LoggingConfig.validate` refuses a configuration for its first fault in a fixed order: the limits, the
request headers, the response headers, the route parameters, the media types of bodies, the enrichers.
-/

namespace CallTelemetry

/-- What is wrong with a configuration. `list` names one of the two header lists. -/
inductive ConfigFault where
  | bodySizeLimit (got : Nat)
  | bodyReadTimeout (got : Nat)
  | poolCapacity (got : Nat)
  | invalidHeader (list name : String)
  | unlabelledHeader (list name : String)
  | duplicateHeader (list name : String)
  | unnamedParameter
  | unlabelledParameter (name : String)
  | contentType (type : String)
  | unnamedEnricher
  deriving DecidableEq, Repr

namespace ConfigFault

/-- The text of a fault. -/
def message : ConfigFault → String
  | bodySizeLimit got => outside "body_size_limit" LoggingConfig.maxBodySizeLimit got
  | bodyReadTimeout got => outside "body_read_timeout_ms" LoggingConfig.maxBodyReadTimeoutMs got
  | poolCapacity got =>
    "pool_capacity must be at most " ++ toString LoggingConfig.maxPoolCapacity ++ ", got " ++ toString got
  | invalidHeader list name => list ++ ": invalid header name '" ++ name ++ "'"
  | unlabelledHeader list name => list ++ "." ++ name ++ ": empty classification"
  | duplicateHeader list name => list ++ ": duplicate header '" ++ name ++ "'"
  | unnamedParameter => "route_parameters: empty parameter name"
  | unlabelledParameter name => "route_parameters." ++ name ++ ": empty classification"
  | contentType type => "invalid body content type '" ++ type ++ "'"
  | unnamedEnricher => "enrichers: empty enricher name"
where
  /-- A number that does not lie from one to a bound. -/
  outside (field : String) (bound got : Nat) : String :=
    field ++ " must be within 1..=" ++ toString bound ++ ", got " ++ toString got

end ConfigFault

/-- Refuses with a fault where a condition does not hold. -/
def require (condition : Bool) (fault : ConfigFault) : Except ConfigFault Unit :=
  if condition then .ok () else .error fault

/-- The headers of a list are valid, labelled, and distinct from each other and from those seen. -/
def validateHeaders (list : String) : (seen : List String) → List HeaderRule → Except ConfigFault Unit
  | _, [] => .ok ()
  | seen, rule :: rest => do
    require (HeaderName.isValid rule.name) (.invalidHeader list rule.name)
    require (rule.classification.label != "") (.unlabelledHeader list rule.name)
    require (!seen.contains (Text.lower rule.name)) (.duplicateHeader list rule.name)
    validateHeaders list (Text.lower rule.name :: seen) rest

/-- Route parameters have names and labels. -/
def validateParameter (p : String × Classification) : Except ConfigFault Unit := do
  require (p.1 != "") .unnamedParameter
  require (p.2.label != "") (.unlabelledParameter p.1)

namespace LoggingConfig

/-- The first fault of a configuration, if it has one. -/
def validate (c : LoggingConfig) : Except ConfigFault Unit := do
  let size := c.bodySizeLimit.toNat
  let timeout := c.bodyReadTimeoutMs.toNat
  let capacity := c.poolCapacity.toNat
  require (1 ≤ size && size ≤ maxBodySizeLimit) (.bodySizeLimit size)
  require (1 ≤ timeout && timeout ≤ maxBodyReadTimeoutMs) (.bodyReadTimeout timeout)
  require (capacity ≤ maxPoolCapacity) (.poolCapacity capacity)
  validateHeaders "request_headers" [] c.requestHeaders
  validateHeaders "response_headers" [] c.responseHeaders
  c.routeParameters.forM validateParameter
  (c.requestBodyContentTypes ++ c.responseBodyContentTypes).forM fun type =>
    require (type.toList.contains '/') (.contentType type)
  c.enrichers.forM fun e => require (e.name != "") .unnamedEnricher

end LoggingConfig

@[simp] theorem require_eq_ok_iff {condition : Bool} {fault : ConfigFault} :
    require condition fault = .ok () ↔ condition = true := by
  cases condition <;> simp [require]

end CallTelemetry
