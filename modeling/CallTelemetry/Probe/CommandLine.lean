import CallTelemetry.Http.Message
import CallTelemetry.Text.Blank

/-!
# Command line of the probe

The command line is read argument by argument. An option may stand anywhere before `--`, takes its
value from the same argument or from the next one, and may be given once, but for headers. The next
argument is no value if it starts with a hyphen. What is wrong with an option's value comes up when the
next option or target is read, or at the end, so an unknown option right behind it is reported first.
-/

namespace CallTelemetry.Probe

/-- Why a command line is not run. -/
inductive UsageError where
  | missingTargets
  | unknownOption
  | refusedValue
  | missingValue
  | repeated
  | unwantedValue
  | help
  | version
  deriving DecidableEq, Repr

/-- What a command line asks for. -/
structure CommandLine where
  config : String := "egress.yaml"
  logLevel : String := "info"
  json : Bool := false
  method : String := "GET"
  route : Option String := none
  requestName : Option String := none
  dependency : Option String := none
  headers : List (String × String) := []
  timeoutMs : Nat := 10000
  redactionFormat : String := "REDACTED:\x7b0\x7d"
  urls : List String := []
  deriving DecidableEq, Repr

/-- An option of the command line. -/
inductive Switch where
  | config
  | logLevel
  | json
  | method
  | route
  | requestName
  | dependency
  | header
  | timeoutMs
  | redactionFormat
  | help
  | version
  deriving DecidableEq, Repr

namespace Switch

/-- The long names of the options. -/
def longNames : List (String × Switch) :=
  [("config", config), ("log-level", logLevel), ("json", json), ("method", method), ("route", route),
   ("request-name", requestName), ("dependency", dependency), ("header", header),
   ("timeout-ms", timeoutMs), ("redaction-format", redactionFormat), ("help", help),
   ("version", version)]

/-- The short names of the options. -/
def shortNames : List (Char × Switch) :=
  [('c', config), ('X', method), ('H', header), ('h', help), ('V', version)]

/-- Whether an option stands for itself and has no value. -/
def isFlag : Switch → Bool
  | json | help | version => true
  | _ => false

end Switch

/-- A header from a text: the name before the first colon and the value after it, without the blanks
around them. The name must not be empty. -/
def parseHeader (raw : String) : Except String (String × String) :=
  let cs := raw.toList
  let name := Text.trimList (cs.takeWhile (· ≠ ':'))
  match cs.dropWhile (· ≠ ':') with
  | [] => .error ("expected name:value, got '" ++ raw ++ "'")
  | _ :: value =>
    if name.isEmpty then .error ("expected name:value, got '" ++ raw ++ "'")
    else .ok (String.ofList name, String.ofList (Text.trimList value))

/-- A number of 64 bits, perhaps with a plus. -/
def parseWord (s : String) : Option Nat :=
  let digits := match s.toList with
    | '+' :: rest => rest
    | rest => rest
  if digits.isEmpty || !digits.all Char.isDigit then none
  else
    let n := digits.foldl (fun n c => n * 10 + (c.toNat - 48)) 0
    if n < Nat.pow 2 64 then some n else none

/-- A command line in the course of being read. -/
structure Reading where
  line : CommandLine := {}
  /-- The options given so far. -/
  seen : List Switch := []
  /-- The last option, with its value if that has come, before it takes effect. -/
  pending : Option (Switch × Option String) := none

namespace Reading

/-- The command line with the value of an option. -/
def assign (line : CommandLine) (option : Switch) (value : String) : Except UsageError CommandLine :=
  match option with
  | .config => if value = "" then .error .missingValue else .ok { line with config := value }
  | .logLevel => .ok { line with logLevel := value }
  | .method => if isMethod value then .ok { line with method := value } else .error .refusedValue
  | .route => .ok { line with route := some value }
  | .requestName => .ok { line with requestName := some value }
  | .dependency => .ok { line with dependency := some value }
  | .header =>
    match parseHeader value with
    | .ok header => .ok { line with headers := line.headers ++ [header] }
    | .error _ => .error .refusedValue
  | .timeoutMs =>
    match parseWord value with
    | some n => .ok { line with timeoutMs := n }
    | none => .error .refusedValue
  | .redactionFormat => .ok { line with redactionFormat := value }
  | .json => .ok { line with json := true }
  | .help => .error .help
  | .version => .error .version

/-- Lets an option take effect. -/
def apply (r : Reading) (option : Switch) (value : String) : Except UsageError Reading := do
  if r.seen.contains option && option != .header then throw .repeated
  return { r with line := ← assign r.line option value, seen := option :: r.seen }

/-- Lets the pending option take effect, if there is one. -/
def settle (r : Reading) : Except UsageError Reading :=
  match r.pending with
  | none => .ok r
  | some (_, none) => .error .missingValue
  | some (option, some value) => { r with pending := none }.apply option value

/-- An option with the value that came in the same argument, if one did. -/
def take (r : Reading) (option : Switch) (value : Option String) : Except UsageError Reading := do
  match option.isFlag, value with
  | true, some _ => throw .unwantedValue
  | true, none => (← r.settle).apply option ""
  | false, some value => (← r.settle).apply option value
  | false, none => return { (← r.settle) with pending := some (option, none) }

/-- The short options in one argument. The first one with a value takes the rest. -/
def takeShort (r : Reading) : List Char → Except UsageError Reading
  | [] => .ok r
  | c :: rest =>
    match Switch.shortNames.lookup c with
    | none => .error .unknownOption
    | some option =>
      if option.isFlag then do takeShort (← r.take option none) rest
      else
        match rest with
        | [] => r.take option none
        | '=' :: value => r.take option (some (String.ofList value))
        | value => r.take option (some (String.ofList value))

/-- A target. -/
def takeUrl (r : Reading) (url : String) : Except UsageError Reading := do
  let r ← r.settle
  return { r with line := { r.line with urls := r.line.urls ++ [url] } }

/-- An argument that is no option: the value of the option before it, or a target. -/
def takeWord (r : Reading) (word : String) : Except UsageError Reading :=
  match r.pending with
  | some (option, none) => .ok { r with pending := some (option, some word) }
  | _ => r.takeUrl word

/-- A long option: the name up to the first `=` and the value after it. -/
def takeLong (r : Reading) (cs : List Char) : Except UsageError Reading :=
  let name := String.ofList (cs.takeWhile (· ≠ '='))
  match Switch.longNames.lookup name with
  | none => .error .unknownOption
  | some option =>
    r.take option (match cs.dropWhile (· ≠ '=') with
      | [] => none
      | _ :: value => some (String.ofList value))

/-- All arguments in order. After `--` there are only targets. -/
def run (r : Reading) : List String → Except UsageError Reading
  | [] => r.settle
  | arg :: rest =>
    match arg.toList with
    | ['-', '-'] => do
      let r ← rest.foldlM takeUrl r
      r.settle
    | '-' :: '-' :: cs => do run (← r.takeLong cs) rest
    | '-' :: c :: cs => do run (← r.takeShort (c :: cs)) rest
    | _ => do run (← r.takeWord arg) rest

end Reading

/-- The command line that arguments write. There has to be a target. -/
def CommandLine.parse (args : List String) : Except UsageError CommandLine := do
  let r ← Reading.run {} args
  if r.line.urls.isEmpty then throw .missingTargets
  return r.line

end CallTelemetry.Probe
