import CallTelemetry.Config.Basic
import CallTelemetry.Enrichment.Enricher
import CallTelemetry.Json.Decode

/-!
# Enricher registry

Factories by name. A later registration takes the place of an earlier one of the same name. Building a
configured list sets up one enricher per entry, in order, or stops at the first entry that names no
factory or that its factory refuses.
-/

namespace CallTelemetry

/-- Why a factory refuses a configuration. -/
inductive Refusal where
  | decode (e : DecodeError)
  | invalidHeader (name : String)
  | emptyKey
  | emptyPropertyKey
  /-- A reason of the factory's own, with the reasons behind it. -/
  | other (causes : List String)
  deriving DecidableEq, Repr

namespace Refusal

/-- The text of a refusal. -/
def message : Refusal → String
  | decode e => e.message
  | invalidHeader name => "invalid header name '" ++ name ++ "'"
  | emptyKey => "key must not be empty"
  | emptyPropertyKey => "property keys must not be empty"
  | other causes => ": ".intercalate causes

end Refusal

/-- A maker of enrichers from configurations. -/
structure EnricherFactory where
  name : String
  /-- Looks a configuration over without setting anything up. -/
  check : Json → Except Refusal Unit := fun _ => .ok ()
  configure : Json → Except Refusal Enricher

namespace EnricherFactory

/-- An enricher for a configuration that passes both the check and the set-up. -/
def make (f : EnricherFactory) (config : Json) : Except Refusal Enricher := do
  f.check config
  f.configure config

end EnricherFactory

/-- Factories in the order of their names' first registration. -/
structure EnricherRegistry where
  factories : List (String × EnricherFactory) := []

/-- What building a list of enrichers gives: the enrichers or the text of an error, and the log. -/
structure RegistryBuild where
  result : Except String EnricherSet
  logs : List LogEvent

namespace EnricherRegistry

/-- The factory that was registered last under a name. -/
def get? (r : EnricherRegistry) (name : String) : Option EnricherFactory := r.factories.lookup name

def size (r : EnricherRegistry) : Nat := r.factories.length

/-- Adds a factory or puts it in the place of the one with its name. -/
def register (r : EnricherRegistry) (f : EnricherFactory) : EnricherRegistry :=
  if (r.get? f.name).isSome then
    ⟨r.factories.map fun p => if p.1 = f.name then (f.name, f) else p⟩
  else ⟨r.factories ++ [(f.name, f)]⟩

/-- The event of a registration. -/
def registered (name : String) : LogEvent where
  level := .info
  message := "Registered enricher"
  fields := [("enricher", .text name)]

/-- The event of a set-up. -/
def configured (name : String) : LogEvent where
  level := .debug
  message := "Configured enricher"
  fields := [("enricher", .text name)]

/-- Registers factories in their order. -/
def registerAll (r : EnricherRegistry) (factories : List EnricherFactory) :
    EnricherRegistry × List LogEvent :=
  (factories.foldl register r, factories.map fun f => registered f.name)

/-- The registered names in order. -/
def list (r : EnricherRegistry) : List String :=
  (r.factories.map (·.1)).mergeSort (fun a b => decide (a ≤ b))

/-- The enricher of one entry, or the text of the error. -/
def resolve (r : EnricherRegistry) (entry : EnricherConfig) : Except String Enricher :=
  match r.get? entry.name with
  | none => .error ("unknown enricher '" ++ entry.name ++ "'")
  | some f =>
    match f.make entry.config with
    | .ok e => .ok e
    | .error refusal => .error ("enricher '" ++ entry.name ++ "': " ++ refusal.message)

/-- The enrichers of a list of entries. -/
def build (r : EnricherRegistry) : List EnricherConfig → RegistryBuild
  | [] => ⟨.ok [], []⟩
  | entry :: rest =>
    match r.resolve entry with
    | .error text => ⟨.error text, []⟩
    | .ok e =>
      let more := r.build rest
      ⟨(e :: ·) <$> more.result, configured entry.name :: more.logs⟩

end EnricherRegistry

end CallTelemetry
