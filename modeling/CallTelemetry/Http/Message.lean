import CallTelemetry.Http.Header
import CallTelemetry.Http.Uri
import CallTelemetry.Route.Template

/-!
# Requests and responses

A request is built from texts and bytes and refused for its first part that is not well formed, in the
order method, target, headers. The caller may attach the route template of the request and names for
the operation and for the service that is called.
-/

namespace CallTelemetry

/-- The part of a message that is not well formed. -/
inductive MessageError where
  | method
  | uri
  | headerName
  | headerValue
  | status
  deriving DecidableEq, Repr

/-- What a caller says about a request. -/
structure RequestMetadata where
  route : Route.Template
  requestName : Option String := none
  dependencyName : Option String := none
  deriving DecidableEq, Repr

/-- An outgoing request. -/
structure Request where
  method : String
  uri : Uri
  headers : HeaderMap
  body : List UInt8
  metadata : Option RequestMetadata := none
  deriving DecidableEq, Repr

/-- An incoming response. -/
structure Response where
  status : Nat
  headers : HeaderMap
  body : List UInt8
  deriving DecidableEq, Repr

/-- Whether a text is a method. -/
def isMethod (s : String) : Bool :=
  !s.toList.isEmpty && s.toList.all isTokenChar

/-- A header field from a name and the bytes of a value. -/
def headerField (name : String) (value : List UInt8) : Except MessageError (HeaderName × HeaderValue) :=
  match HeaderName.ofString? name with
  | none => .error .headerName
  | some name =>
    match HeaderValue.ofBytes? value with
    | none => .error .headerValue
    | some value => .ok (name, value)

/-- Header fields in the order in which they are given. -/
def headerMap (fields : List (String × List UInt8)) : Except MessageError HeaderMap :=
  fields.mapM fun f => headerField f.1 f.2

namespace Request

/-- A request without metadata. -/
def build (method uri : String) (headers : List (String × List UInt8)) (body : List UInt8) :
    Except MessageError Request := do
  if !isMethod method then throw .method
  match Uri.parse? uri with
  | none => throw .uri
  | some uri => return { method, uri, headers := ← headerMap headers, body }

end Request

namespace Response

/-- A response with a status from 100 to 999. -/
def build (status : Nat) (headers : List (String × List UInt8)) (body : List UInt8) :
    Except MessageError Response := do
  if status < 100 || 999 < status then throw .status
  return { status, headers := ← headerMap headers, body }

end Response

end CallTelemetry
