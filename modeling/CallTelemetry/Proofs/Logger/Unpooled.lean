import CallTelemetry.Proofs.Logger.Run
import CallTelemetry.Proofs.Record.Shown

/-!
# Calls without pools

What loggers emit, written down without pools, buffers or readers. The record of a call is a value of its own,
made from the request when the call starts and from that value and the response when it ends. Nothing of an
earlier call is there that could get into it.
-/

namespace CallTelemetry

namespace HttpSetup

variable (s : HttpSetup)

def paths : PathPolicy := ⟨s.config.pathRedactionMode, s.config.routeParameters, s.redactor⟩

/-- The path that a request shows, and the parameters beside it. -/
def shownPath (request : Request) : String × List (String × String) :=
  match request.metadata with
  | none => (if s.config.pathRedactionMode = .verbatim then request.uri.path else unknownText, [])
  | some m =>
    match s.config.pathLoggingMode with
    | .formatted => (s.paths.format m.route request.uri.path "", [])
    | .structured => (m.route.raw, s.paths.collect m.route request.uri.path [])

/-- The text of a body, if it is logged and can be read. -/
def bodyText (side : BodySide) (headers : HeaderMap) (body : List UInt8) (cancelled : Bool) :
    Option String :=
  (BodyCapture.ofConfig? s.config).bind fun capture =>
    match capture.read side headers body (if cancelled then some 0 else none) with
    | .ok text => text
    | .error _ => none

/-- The record of a call that has started. -/
def requestSide (request : Request) (cancelled : Bool) : ShownRecord where
  method := request.method
  host := request.uri.host?.getD unknownText
  path := (s.shownPath request).1
  pathParameters := (s.shownPath request).2
  requestBody := s.bodyText .request request.headers request.body cancelled
  requestHeaders :=
    if s.config.logRequestHeaders then
      some (HeaderRule.pairs s.redactor s.config.requestHeaders request.headers)
    else none

/-- What is emitted at the end of a call. -/
def completion (started : ShownRecord) (e : CallEnd) : ShownEmission where
  record :=
    { started with
      statusCode := e.response.map (·.status)
      durationMs := min (e.elapsedNanos / 1000000) (Nat.pow 2 64 - 1)
      responseHeaders :=
        if s.config.logResponseHeaders then
          e.response.map fun r => HeaderRule.pairs s.redactor s.config.responseHeaders r.headers
        else none
      responseBody := e.response.bind fun r => s.bodyText .response r.headers r.body e.cancelled
      enrichment :=
        if s.enrichers.isEmpty then none
        else some (s.enrichers.fanOut {} e.request e.response).bag.toList }
  severity :=
    if e.failure.isSome || e.response.all fun r => 400 ≤ r.status && r.status ≤ 599 then .error
    else .information
  failure := e.failure

end HttpSetup

/-- A call that has started and not ended. -/
structure OpenCall where
  owner : Nat
  started : ShownRecord

/-- Loggers without pools, and the calls in flight by the names of their holders. -/
structure Unpooled where
  setups : List HttpSetup := []
  live : List (String × OpenCall) := []

/-- The setup that a command makes a logger of. -/
def Command.accepted? : Command HttpSetup → Option HttpSetup
  | .create s =>
    match s.config.validate with
    | .ok () => some s
    | .error _ => none
  | .operate _ => none

/-- Loggers are made of valid configurations. -/
theorem Command.valid_of_accepted {commands : List (Command HttpSetup)} {s : HttpSetup}
    (among : s ∈ commands.filterMap accepted?) : s.config.validate = .ok () := by
  obtain ⟨c, -, accepted⟩ := List.mem_filterMap.1 among
  unfold accepted? at accepted
  cases c with
  | create t =>
    dsimp only at accepted
    split at accepted
    next valid =>
      cases accepted
      exact valid
    next => cases accepted
  | operate op => cases accepted

namespace Unpooled

variable (u : Unpooled)

def take (holder : String) : Unpooled := { u with live := u.live.filter fun c => c.1 != holder }

/-- The loggers and the calls after a command. -/
def after : Command HttpSetup → Unpooled
  | .create s =>
    match s.config.validate with
    | .ok () => { u with setups := u.setups ++ [s] }
    | .error _ => u
  | .operate (.start logger holder request cancelled) =>
    match u.setups[logger]? with
    | some s =>
      { u with live := (u.take holder).live ++ [(holder, ⟨logger, s.requestSide request cancelled⟩)] }
    | none => u
  | .operate (.finish logger holder _) => if logger < u.setups.length then u.take holder else u
  | .operate (.stopBlocking logger holder) => if logger < u.setups.length then u.take holder else u
  | .operate (.startBlocking _) => u
  | .operate (.drop holder) => u.take holder

theorem setups_after (c : Command HttpSetup) : (u.after c).setups = u.setups ++ c.accepted?.toList := by
  unfold after Command.accepted?
  cases c with
  | create s =>
    dsimp only
    cases s.config.validate with
    | ok _ => rfl
    | error _ => exact (List.append_nil _).symm
  | operate op =>
    rw [Option.toList_none, List.append_nil]
    cases op with
    | startBlocking _ | drop _ => rfl
    | start _ _ _ _ | finish _ _ _ | stopBlocking _ _ =>
      dsimp only
      split <;> rfl

/-- What a command emits, with the logger that emits it. -/
def emits : Command HttpSetup → List (Nat × ShownEmission)
  | .operate (.start logger _ request cancelled) =>
    match u.setups[logger]? with
    | some s =>
      if s.config.logRequestStart then [(logger, ⟨s.requestSide request cancelled, .information, none⟩)] else []
    | none => []
  | .operate (.finish logger holder e) =>
    match u.setups[logger]?, u.live.lookup holder with
    | some s, some c => if c.owner = logger then [(logger, s.completion c.started e)] else []
    | _, _ => []
  | _ => []

/-- What a list of commands emits, in its order. -/
def emitted (u : Unpooled) : List (Command HttpSetup) → List (Nat × ShownEmission)
  | [] => []
  | c :: rest => u.emits c ++ (u.after c).emitted rest

end Unpooled

end CallTelemetry
