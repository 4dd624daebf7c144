import CallTelemetry.Text.Ascii

/-!
# Sensitivity of values

A header or a route parameter carries a label that says how sensitive its value is. Labels are free
text, of which only `none` has a meaning here: in any letter case it marks a value that is logged as it
is. Two modes say what happens to the parameters of a path and how the path is laid out.
-/

namespace CallTelemetry

/-- A sensitivity label. -/
structure Classification where
  label : String
  deriving DecidableEq, Repr

namespace Classification

/-- Safe to log as it is. -/
def safe : Classification := ⟨"none"⟩

/-- Sensitive, of an unknown kind. -/
def unknown : Classification := ⟨"unknown"⟩

/-- Whether a value with this label is logged as it is. -/
def isSafe (c : Classification) : Bool := Text.eqIgnoreCase c.label "none"

theorem isSafe_unknown : unknown.isSafe = false := by decide

end Classification

/-- The labels of route parameters by parameter name. -/
abbrev ParameterClasses := List (String × Classification)

/-- How the parameters in a path are redacted. -/
inductive RedactionMode where
  /-- The path is logged as it was sent. -/
  | verbatim
  /-- Only parameters with a sensitive label are redacted. -/
  | loose
  /-- Every parameter is redacted that is not labelled safe. -/
  | strict
  deriving DecidableEq, Repr

/-- The modes by their names in a configuration. -/
def RedactionMode.names : List (String × RedactionMode) :=
  [("none", .verbatim), ("loose", .loose), ("strict", .strict)]

def RedactionMode.name : RedactionMode → String
  | .verbatim => "none"
  | .loose => "loose"
  | .strict => "strict"

instance : Inhabited RedactionMode := ⟨.strict⟩

/-- How a redacted path is laid out. -/
inductive PathLoggingMode where
  /-- The template filled in with its parameters. -/
  | formatted
  /-- The template as it is, with the parameters beside it. -/
  | structured
  deriving DecidableEq, Repr

/-- The layouts by their names in a configuration. -/
def PathLoggingMode.names : List (String × PathLoggingMode) :=
  [("formatted", .formatted), ("structured", .structured)]

def PathLoggingMode.name : PathLoggingMode → String
  | .formatted => "formatted"
  | .structured => "structured"

instance : Inhabited PathLoggingMode := ⟨.formatted⟩

theorem RedactionMode.lookup_name (m : RedactionMode) : names.lookup m.name = some m := by
  cases m <;> decide

theorem PathLoggingMode.lookup_name (m : PathLoggingMode) : names.lookup m.name = some m := by
  cases m <;> decide

end CallTelemetry
