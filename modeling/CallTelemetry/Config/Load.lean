import CallTelemetry.Config.Environment
import CallTelemetry.Config.Json
import CallTelemetry.Config.Validate
import CallTelemetry.Yaml.Document

/-!
# Loading a configuration

A configuration comes from a YAML file, which may be missing or empty, with settings of the environment
on top. Maps are merged member by member; any other value takes the place of the one below it.
-/

namespace CallTelemetry

/-- Why a configuration could not be loaded. -/
inductive LoadError where
  /-- The file is no YAML mapping, or a setting has the wrong type. -/
  | unreadable
  | invalid (fault : ConfigFault)
  deriving DecidableEq, Repr

namespace LoggingConfig

/-- A layered setting may give one of several names by its position, or as the first name of a map with
the value null. -/
def settleVariant (names : List String) : Json → Json
  | .int n =>
    match names[n.toNat]? with
    | some name => if 0 ≤ n then .str name else .int n
    | none => .int n
  | .obj ((name, .null) :: _) => .str name
  | j => j

/-- Applies a change to the member of a name. -/
def mapMember (name : String) (f : Json → Json) (members : List (String × Json)) :
    List (String × Json) :=
  members.map fun m => if m.1 = name then (m.1, f m.2) else m

/-- The items of a layered list whose own items are records. A record that is written as an array may
have items behind its last field, which do not count. -/
def dropSurplus (fields : Nat) : Json → Json
  | .arr records =>
    .arr (records.map fun
      | .arr items => .arr (items.take fields)
      | j => j)
  | j => j

/-- The members of layered settings as `decode` reads them. -/
def settleMembers (members : List (String × Json)) : List (String × Json) :=
  [("path_logging_mode", settleVariant (PathLoggingMode.names.map (·.1))),
   ("path_redaction_mode", settleVariant (RedactionMode.names.map (·.1))),
   ("request_headers", dropSurplus 2), ("response_headers", dropSurplus 2),
   ("enrichers", dropSurplus 2)].foldl (fun ms s => mapMember s.1 s.2 ms) members

/-- The configuration that layered settings give. The whole numbers in the configurations of enrichers
have to be in the range of JSON. -/
def ofLayers (members : List (String × Json)) : Except DecodeError LoggingConfig :=
  match (members.lookup "enrichers").filter (!·.isInRange) with
  | some j => .error (.outOfRange j "a list of enrichers")
  | none => decode (.obj (settleMembers members))

/-- The settings of a file, which may be missing or hold nothing. -/
def fileSettings : Option String → Option (List (String × Json))
  | none => some []
  | some text => Yaml.mapping? text

/-- The configuration of a file and of the environment. -/
def load (file : Option String) (environment : List (String × String)) :
    Except LoadError LoggingConfig :=
  match fileSettings file with
  | none => .error .unreadable
  | some below =>
    match ofLayers (Json.mergeMembers below (Environment.settings environment)) with
    | .error _ => .error .unreadable
    | .ok config =>
      match config.validate with
      | .error fault => .error (.invalid fault)
      | .ok () => .ok config

end LoggingConfig

end CallTelemetry
