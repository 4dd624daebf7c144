import CallTelemetry.Capture.Body
import CallTelemetry.Capture.Headers
import CallTelemetry.Config.Validate
import CallTelemetry.Http.Message
import CallTelemetry.Log
import CallTelemetry.Record.Basic
import CallTelemetry.Redaction.Path

/-!
# Readers of calls

A reader fills the two sides of a record from the messages of a call. It is handed a header buffer only
if headers of that side are logged, and it either leaves the buffer, with what it wrote into it, on the
record or lets go of it; it has no other access to what the record has on loan. `HttpReader` is the
reader that a configuration describes. It appends to a record, so it relies on being given a blank one.
-/

namespace CallTelemetry

/-- What becomes of a header buffer. -/
inductive BufferUse where
  /-- It stays on the record, as the headers of the side that is read. -/
  | keep (headers : HeaderList)
  /-- It stays on the record, as the headers of the other side. -/
  | keepAcross (headers : HeaderList)
  | letGo (headers : HeaderList)

/-- What a reader does to a record. -/
structure Reading where
  /-- The fields of the record as the reader leaves them. -/
  fields : CallFields
  /-- What it does with a header buffer that it is handed. -/
  useBuffer : HeaderList → BufferUse
  error : Option CallError := none
  logs : List LogEvent := []

/-- A reader of the two sides of a call. The last argument says whether the call has been cancelled. -/
structure CallReader where
  readRequest : LogRecord → Request → Bool → Reading
  /-- There is no response for a call that failed before one came. -/
  readResponse : LogRecord → Option Response → Bool → Reading

/-- Shown for a host or a path that is not known. -/
def unknownText : String := "unknown"

/-- The reader that a configuration describes. -/
structure HttpReader where
  paths : PathPolicy
  pathMode : PathLoggingMode
  requestHeaders : HeaderCapture
  responseHeaders : HeaderCapture
  body : Option BodyCapture

namespace HttpReader

/-- The reader of a configuration, or the first header name that is none. -/
def ofConfig (c : LoggingConfig) (redactor : Redactor) : Except String HttpReader := do
  return {
    paths := ⟨c.pathRedactionMode, c.routeParameters, redactor⟩
    pathMode := c.pathLoggingMode
    requestHeaders := ← HeaderCapture.ofRules c.requestHeaders
    responseHeaders := ← HeaderCapture.ofRules c.responseHeaders
    body := BodyCapture.ofConfig? c }

/-- Writes the path of a request behind what the record holds. A path that cannot be redacted for want
of a template is not shown at all. -/
def readPath (r : HttpReader) (request : Request) (f : CallFields) : CallFields :=
  let raw := request.uri.path
  if r.paths.mode = .verbatim ∧ r.pathMode = .formatted then { f with path := f.path ++ raw }
  else
    match request.metadata with
    | none => { f with path := f.path ++ (if r.paths.mode = .verbatim then raw else unknownText) }
    | some metadata =>
      match r.pathMode with
      | .formatted => { f with path := r.paths.format metadata.route raw f.path }
      | .structured =>
        { f with
          path := f.path ++ metadata.route.raw
          pathParameters := r.paths.collect metadata.route raw f.pathParameters }

/-- The event of a body that could not be read. -/
def bodyNotLogged (side : String) (e : CallError) : LogEvent where
  level := .debug
  message := side ++ " body not logged"
  fields := [("error", .text e.message)]

/-- The text of a body if it is logged, and the event of a failure to read it. -/
def readBody (r : HttpReader) (side : BodySide) (headers : HeaderMap) (body : List UInt8)
    (cancelled : Bool) : Except CallError (Option (Option String)) :=
  match r.body with
  | none => .ok none
  | some capture => some <$> capture.read side headers body (if cancelled then some 0 else none)

/-- Fills the request side of a record. -/
def readRequest (r : HttpReader) (record : LogRecord) (request : Request) (cancelled : Bool) : Reading :=
  let f := record.toCallFields
  let f := { f with
    method := f.method ++ request.method
    host := f.host ++ request.uri.host?.getD unknownText }
  let f := r.readPath request f
  let useBuffer := fun buffer =>
    BufferUse.keep (r.requestHeaders.read r.paths.redactor request.headers buffer)
  match r.readBody .request request.headers request.body cancelled with
  | .ok none => { fields := f, useBuffer }
  | .ok (some text) => { fields := { f with requestBody := text }, useBuffer }
  | .error e => { fields := f, useBuffer, logs := [bodyNotLogged "Request" e] }

/-- Fills the response side of a record, and leaves it alone if there is no response. -/
def readResponse (r : HttpReader) (record : LogRecord) (response : Option Response) (cancelled : Bool) :
    Reading :=
  match response with
  | none => { fields := record.toCallFields, useBuffer := .letGo }
  | some response =>
    let f := { record.toCallFields with statusCode := some response.status }
    let useBuffer := fun buffer =>
      BufferUse.keep (r.responseHeaders.read r.paths.redactor response.headers buffer)
    match r.readBody .response response.headers response.body cancelled with
    | .ok none => { fields := f, useBuffer }
    | .ok (some text) => { fields := { f with responseBody := text }, useBuffer }
    | .error e => { fields := f, useBuffer, logs := [bodyNotLogged "Response" e] }

/-- The reader as one of the readers that a logger can use. -/
def toCallReader (r : HttpReader) : CallReader where
  readRequest := r.readRequest
  readResponse := r.readResponse

end HttpReader

end CallTelemetry
