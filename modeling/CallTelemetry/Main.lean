import CallTelemetry.Config.Load
import CallTelemetry.Enrichment.Builtin
import CallTelemetry.Json.Writer
import CallTelemetry.Probe.Run

/-!
# The probe as a program

Reads the command line, loads the configuration from its file and from the environment, and probes the
targets one after another. What the probes log is written line by line, as text or as JSON. The program
has no transport of its own: each request fails as one that no server answers.
-/

namespace CallTelemetry.Probe

/-- The severities of log events from the least to the greatest. -/
def levels : List LogLevel := [.debug, .info, .warn, .error]

/-- Whether an event is written at a level. A name that is no level stands for `info`. -/
def isShown (level : String) (e : LogEvent) : Bool :=
  let least := (levels.find? fun l => l.name = Text.lower level).getD .info
  (levels.dropWhile (· ≠ least)).contains e.level

/-- The value of a field of an event. -/
def fieldJson : LogValue → Json
  | .text s => .str s
  | .count n => Json.nat n

/-- An event as one line of JSON. -/
def eventJson (e : LogEvent) : String :=
  (Json.obj [
    ("level", .str e.level.name),
    ("message", .str e.message),
    ("target", .str (e.target.getD "egress")),
    ("fields", .obj (e.fields.map fun f => (f.1, fieldJson f.2)))]).render

/-- An event as one line of text. -/
def eventText (e : LogEvent) : String :=
  e.level.name ++ " " ++ e.message ++ String.join (e.fields.map fun f =>
    " " ++ f.1 ++ "=" ++ match f.2 with
      | .text s => s
      | .count n => toString n)

/-- The explanation of a refused command line. -/
def UsageError.message : UsageError → String
  | .missingTargets => "no URL to probe"
  | .unknownOption => "unknown option"
  | .refusedValue => "an option does not accept its value"
  | .missingValue => "an option lacks its value"
  | .repeated => "an option is given twice"
  | .unwantedValue => "an option takes no value"
  | .help => "probe [--config FILE] [--log-level LEVEL] [--json] [-X METHOD] [--route TEMPLATE] " ++
      "[--request-name NAME] [--dependency NAME] [-H NAME:VALUE] [--timeout-ms N] " ++
      "[--redaction-format FORMAT] URL..."
  | .version => "probe"

/-- The explanation of a request that could not be built. -/
def PlanError.text : PlanError → String
  | .message .method => "invalid method"
  | .message .uri => "invalid URL"
  | .message .headerName => "invalid header name"
  | .message .headerValue => "invalid header value"
  | .message .status => "invalid status"
  | .route text => "Config error: " ++ text

/-- The explanation of a configuration that could not be loaded. -/
def loadErrorText : LoadError → String
  | .unreadable => "the configuration could not be read"
  | .invalid fault => (CallError.config fault.message).message

/-- The redactor of a command line. An empty format erases. -/
def redactor (line : CommandLine) : Redactor :=
  if line.redactionFormat = "" then .erasing else .formatting line.redactionFormat

/-- The variables of the environment that may hold settings. -/
def readEnvironment : IO (List (String × String)) :=
  LoggingConfig.fieldNames.filterMapM fun field => do
    let name := Environment.namesStart ++ field.toUpper
    return (← IO.getEnv name).map fun value => (name, value)

/-- The text of the configuration file, if there is one. -/
def readConfig (path : String) : IO (Option String) := do
  try
    return some (← IO.FS.readFile path)
  catch
    | .noFileOrDirectory .. => return none
    | e => throw e

/-- What comes of sending a request: as there is no transport, each fails as one that no server
answers. -/
def send (_ : Request) : IO Delivery :=
  return .failed "no transport is available"

/-- Writes one event. -/
def log (line : CommandLine) (e : LogEvent) : IO Unit :=
  if isShown line.logLevel e then
    IO.println (if line.json then eventJson e else eventText e)
  else
    return ()

/-- A new id for a call. -/
def newCallId : IO String := do
  return CallId.ofRandom ((← IO.getRandomBytes 16).toList.map UInt8.toNat)

/-- Probes one target and gives back the state of the pools. -/
def probe (line : CommandLine) (config : LoggingConfig) (pools : Option Pools) (url : String) :
    IO (Option Pools × Bool) := do
  let id ← newCallId
  let (registry, registered) := ({} : EnricherRegistry).registerAll (builtinFactories fun _ => id)
  let built := CallLogger.fromRegistry config (redactor line) registry
  if pools.isNone then (registered ++ built.logs).forM (log line)
  let logger ← match built.result with
    | .ok logger => pure { logger with pools := pools.getD logger.pools }
    | .error e => throw (IO.userError e.message)
  let request ← match buildRequest line url with
    | .ok request => pure request
    | .error e => throw (IO.userError e.text)
  let begun ← IO.monoNanosNow
  let delivery ← send request
  let finished := run logger request delivery ((← IO.monoNanosNow) - begun) false
  finished.trace.forM fun
    | .log e => log line e
    | .emit e => log line e.event
  return (some finished.pools, match finished.result with
    | .ok (.completed _) => true
    | _ => false)

/-- Probes all targets and gives back the number of failures. -/
def probeAll (line : CommandLine) : IO Nat := do
  match LoggingConfig.load (← readConfig line.config) (← readEnvironment) with
  | .error e => throw (IO.userError (loadErrorText e))
  | .ok config => do
    let mut pools := none
    let mut failures := 0
    for url in line.urls do
      let (after, completed) ← probe line config pools url
      pools := after
      if !completed then failures := failures + 1
    return failures

end CallTelemetry.Probe

open CallTelemetry.Probe in
/-- Runs the probe on its command line. -/
def main (args : List String) : IO UInt32 := do
  match CommandLine.parse args with
  | .error e => do
    let asked := e = .help || e = .version
    (if asked then IO.println else IO.eprintln) e.message
    return if asked then 0 else 2
  | .ok line => do
    try
      return if (← probeAll line) = 0 then 0 else 1
    catch e =>
      IO.eprintln (toString e)
      return 1
