import CallTelemetry.Logger.Basic

/-!
# Loggers and the calls in flight

The loggers of a process with the contexts of the calls that have started and not ended, each kept by
its holder under a name. A context belongs to the logger that started its call; ending it through
another logger is refused and returns what it holds to its owner, just as dropping it does.
-/

namespace CallTelemetry

/-- A call in flight. -/
structure CallContext where
  /-- The index of the logger that started the call. -/
  owner : Nat
  record : LogRecord

/-- Loggers by their index, and contexts by the names of their holders. -/
structure Fleet where
  loggers : List CallLogger := []
  live : List (String × CallContext) := []

/-- One thing that a transport can do. -/
inductive Operation where
  | start (logger : Nat) (holder : String) (request : Request) (cancelled : Bool)
  | finish (logger : Nat) (holder : String) (callEnd : CallEnd)
  | startBlocking (logger : Nat)
  | stopBlocking (logger : Nat) (holder : String)
  | drop (holder : String)

/-- What an operation answers. -/
inductive Answer where
  | started (record : LogRecord)
  | finished
  | refused (e : CallError)
  /-- Whether there was a context to drop. -/
  | dropped (held : Bool)
  | noLogger

/-- An operation's answer and trace, and the loggers and contexts after it. -/
structure FleetStep where
  fleet : Fleet
  answer : Answer
  trace : List TraceEvent := []

namespace Fleet

/-- The fleet with one more logger, whose index is the number of loggers before. -/
def add (f : Fleet) (l : CallLogger) : Fleet := { f with loggers := f.loggers ++ [l] }

/-- The context of a holder. -/
def context? (f : Fleet) (holder : String) : Option CallContext := f.live.lookup holder

/-- The fleet without the context of a holder, whose objects are still out. -/
def take (f : Fleet) (holder : String) : Fleet :=
  { f with live := f.live.filter fun c => c.1 != holder }

/-- Puts new pools in the place of those of a logger. -/
def setPools (f : Fleet) (logger : Nat) (pools : Pools) : Fleet :=
  { f with loggers := f.loggers.modify logger fun l => { l with pools } }

/-- Gives the objects of a context back to its owner. -/
def release (f : Fleet) : Option CallContext → Fleet
  | none => f
  | some c =>
    { f with loggers := f.loggers.modify c.owner fun l => { l with pools := l.pools.releaseRecord c.record } }

/-- Takes the context of a holder and gives its objects back. -/
def drop (f : Fleet) (holder : String) : Fleet :=
  (f.take holder).release (f.context? holder)

/-- Starts a call. A context that the holder still has is dropped once the new one is there. -/
def start (f : Fleet) (logger : Nat) (holder : String) (request : Request) (cancelled : Bool) : FleetStep :=
  match f.loggers[logger]? with
  | none => ⟨f, .noLogger, []⟩
  | some l =>
    let step := l.start request cancelled
    let f := f.setPools logger step.pools
    match step.result with
    | .error e => ⟨f, .refused e, step.trace⟩
    | .ok record =>
      let f := f.drop holder
      ⟨{ f with live := f.live ++ [(holder, ⟨logger, record⟩)] }, .started record, step.trace⟩

/-- Ends a call. The context leaves its holder whatever comes of it. -/
def finish (f : Fleet) (logger : Nat) (holder : String) (e : CallEnd) : FleetStep :=
  match f.loggers[logger]? with
  | none => ⟨f, .noLogger, []⟩
  | some l =>
    match f.context? holder with
    | none => ⟨f, .refused .missingContext, []⟩
    | some c =>
      if c.owner ≠ logger then ⟨f.drop holder, .refused .foreignContext, []⟩
      else
        let step := l.complete c.record e
        let f := (f.take holder).setPools logger step.pools
        match step.result with
        | .error e => ⟨f, .refused e, step.trace⟩
        | .ok () => ⟨f, .finished, step.trace⟩

/-- Performs an operation. No logger supports the blocking hooks; a context handed to one is dropped. -/
def perform (f : Fleet) : Operation → FleetStep
  | .start logger holder request cancelled => f.start logger holder request cancelled
  | .finish logger holder e => f.finish logger holder e
  | .startBlocking logger =>
    if logger < f.loggers.length then ⟨f, .refused (.unsupported "synchronous start"), []⟩
    else ⟨f, .noLogger, []⟩
  | .stopBlocking logger holder =>
    if logger < f.loggers.length then
      ⟨f.drop holder, .refused (.unsupported "synchronous stop"), []⟩
    else ⟨f, .noLogger, []⟩
  | .drop holder => ⟨f.drop holder, .dropped (f.context? holder).isSome, []⟩

/-- Drops all contexts. -/
def dropAll (f : Fleet) : Fleet :=
  f.live.foldl (fun f c => f.drop c.1) f

/-- How a diagnostic shows a context, whose owner it does not tell. -/
def describeContext (c : CallContext) : String :=
  "CallContext \x7b owner: _, method: " ++ Text.quote c.record.method ++ ", path: " ++
    Text.quote c.record.path ++ " \x7d"

end Fleet

end CallTelemetry
