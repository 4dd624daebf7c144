/-!
# Log events

What the library tells its surroundings while it works, as data: a level, a fixed message, an optional
target, and named fields in a fixed order.
-/

namespace CallTelemetry

inductive LogLevel where
  | debug
  | info
  | warn
  | error
  deriving DecidableEq, Repr

def LogLevel.name : LogLevel → String
  | .debug => "debug"
  | .info => "info"
  | .warn => "warn"
  | .error => "error"

/-- The value of a field: a text or a count. -/
inductive LogValue where
  | text (s : String)
  | count (n : Nat)
  deriving DecidableEq, Repr

/-- One log event. -/
structure LogEvent where
  level : LogLevel
  message : String
  fields : List (String × LogValue)
  target : Option String := none
  deriving DecidableEq, Repr

end CallTelemetry
