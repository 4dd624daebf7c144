import CallTelemetry.Redaction.Redactor
import CallTelemetry.Route.Walk

/-!
# Redacted paths

The parameters that a template finds in a path are shown according to a mode and to the labels of the
parameters. `PathPolicy.format` writes the template with its parameters filled in, and
`PathPolicy.collect` lists the parameters by name.
-/

namespace CallTelemetry

open Route (Piece Template Parameter)

/-- How the parameters of paths are shown. -/
structure PathPolicy where
  mode : RedactionMode
  classes : ParameterClasses
  redactor : Redactor

namespace PathPolicy

/-- A parameter's value behind `out`. -/
def display (policy : PathPolicy) (p : Parameter) (value out : String) : String :=
  match policy.mode, policy.classes.lookup p.name with
  | .verbatim, _ => out ++ value
  | _, some c => policy.redactor.apply c value out
  | .loose, none => out ++ value
  | .strict, none => out ++ Redactor.mark

/-- A piece of a path behind `out`. -/
def writePiece (policy : PathPolicy) (out : String) : Piece → String
  | .literal text => out ++ text
  | .parameter p found => policy.display p (p.value found) out

/-- The path behind `out`: as it is in verbatim mode, otherwise the template filled in. -/
def format (policy : PathPolicy) (t : Template) (path out : String) : String :=
  if policy.mode = .verbatim then out ++ path
  else (t.walk path).foldl policy.writePiece out

/-- The name and the shown value of a piece that is a parameter. -/
def pairOf (policy : PathPolicy) : Piece → Option (String × String)
  | .literal _ => none
  | .parameter p found => some (p.name, policy.display p (p.value found) "")

/-- The parameters of a path behind those already listed. -/
def collect (policy : PathPolicy) (t : Template) (path : String) (out : List (String × String)) :
    List (String × String) :=
  out ++ (t.walk path).filterMap policy.pairOf

end PathPolicy

end CallTelemetry
