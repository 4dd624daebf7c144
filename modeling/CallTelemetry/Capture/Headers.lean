import CallTelemetry.Config.Basic
import CallTelemetry.Http.Header
import CallTelemetry.Pool.Buffer
import CallTelemetry.Redaction.Redactor

/-!
# Captured headers

The configured headers of a message, in the order and the spelling of the configuration. All values of
a header are joined with commas before the redactor sees them; a header that the message lacks leaves
no trace.
-/

namespace CallTelemetry

/-- A header to capture. -/
structure CapturedHeader where
  name : HeaderName
  /-- The spelling under which it is logged. -/
  label : String
  classification : Classification
  deriving DecidableEq, Repr

/-- The headers to capture, in their order. -/
abbrev HeaderCapture := List CapturedHeader

namespace HeaderCapture

/-- The capture of a list of rules, or the first name that is no header name. -/
def ofRules (rules : List HeaderRule) : Except String HeaderCapture :=
  rules.mapM fun rule =>
    match HeaderName.ofString? rule.name with
    | some name => .ok ⟨name, rule.name, rule.classification⟩
    | none => .error rule.name

/-- The text about a name that is no header name. -/
def invalidName (name : String) : String := "invalid header name '" ++ name ++ "'"

/-- The values of a header as one text. -/
def joined (values : List HeaderValue) : String :=
  ",".intercalate (values.map HeaderValue.lossy)

/-- The entry of one header, if the message has it. -/
def captured? (redactor : Redactor) (map : HeaderMap) (h : CapturedHeader) : Option (String × String) :=
  match map.valuesOf h.name with
  | [] => none
  | values => some (h.label, redactor.apply h.classification (joined values) "")

/-- Adds the entries of all headers that a message has. -/
def read (capture : HeaderCapture) (redactor : Redactor) (map : HeaderMap) (out : HeaderList) :
    HeaderList :=
  (capture.filterMap (captured? redactor map)).foldl Buffer.push out

end HeaderCapture

theorem Buffer.items_foldl_push {floor : Nat} {α : Type} (xs : List α) (b : Buffer floor α) :
    (xs.foldl Buffer.push b).items = b.items ++ xs := by
  induction xs generalizing b with
  | nil => simp
  | cons x xs ih => simp [ih, Buffer.push]

theorem HeaderCapture.items_read (capture : HeaderCapture) (redactor : Redactor) (map : HeaderMap)
    (out : HeaderList) :
    (capture.read redactor map out).items = out.items ++ capture.filterMap (captured? redactor map) :=
  Buffer.items_foldl_push _ _

end CallTelemetry
