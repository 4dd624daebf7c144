import CallTelemetry.Logger.Basic
import CallTelemetry.Probe.CommandLine

/-!
# Probing

A probe sends one request per target through a call logger. Its requests share the settings of the
command line, and each is logged from its start to its end: to the response, to the failure of the
transport, or to the cancellation of the probe.
-/

namespace CallTelemetry.Probe

/-- Why a request could not be built. -/
inductive PlanError where
  | message (e : MessageError)
  | route (text : String)
  deriving DecidableEq, Repr

/-- Metadata for a request from the text of its route. -/
def metadata (route : String) (requestName dependencyName : Option String) :
    Except String RequestMetadata :=
  match Route.Template.parse route with
  | .ok route => .ok { route, requestName, dependencyName }
  | .error e => .error (e.message route)

/-- The request for a target. Faults of the message come before those of the route. -/
def buildRequest (line : CommandLine) (url : String) : Except PlanError Request := do
  let headers := line.headers.map fun h => (h.1, Text.Utf8.encode h.2)
  let request ← (Request.build line.method url headers []).mapError PlanError.message
  match line.route with
  | none => return request
  | some route =>
    let m ← (metadata route line.requestName line.dependency).mapError PlanError.route
    return { request with metadata := some m }

/-- What comes of sending a request. -/
inductive Delivery where
  | answered (response : Response)
  /-- The head of a response came, but its body did not. -/
  | brokenOff (head : Response) (failure : String)
  | failed (failure : String)
  | cancelled
  deriving DecidableEq, Repr

/-- How a probe ends. -/
inductive Outcome where
  | completed (status : Nat)
  | failed
  deriving DecidableEq, Repr

/-- The end of the call of a delivery. -/
def callEnd (request : Request) (elapsedNanos : Nat) (cancelled : Bool) : Delivery → CallEnd
  | .answered response => ⟨request, some response, none, elapsedNanos, cancelled⟩
  | .brokenOff head failure => ⟨request, some head, some failure, elapsedNanos, cancelled⟩
  | .failed failure => ⟨request, none, some failure, elapsedNanos, cancelled⟩
  | .cancelled => ⟨request, none, some CallError.cancelled.message, elapsedNanos, true⟩

/-- The outcome of a delivery. -/
def Delivery.outcome : Delivery → Outcome
  | .answered response => .completed response.status
  | _ => .failed

/-- Sends one request and logs its call. `cancelled` says whether the probe was cancelled before. -/
def run (l : CallLogger) (request : Request) (delivery : Delivery) (elapsedNanos : Nat)
    (cancelled : Bool) : LoggerStep Outcome :=
  let started := l.start request cancelled
  match started.result with
  | .error e => ⟨.error e, started.pools, started.trace⟩
  | .ok record =>
    let finished := { l with pools := started.pools }.complete record
      (callEnd request elapsedNanos cancelled delivery)
    ⟨finished.result.map fun _ => delivery.outcome, finished.pools, started.trace ++ finished.trace⟩

end CallTelemetry.Probe
