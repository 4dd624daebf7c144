import CallTelemetry.Enrichment.Registry

/-!
# Names of the request

An enricher that copies the names of the operation and of the service from the metadata of a request,
where there are any.
-/

namespace CallTelemetry.RequestNames

/-- The keys under which the names are written. -/
structure Settings where
  requestKey : String := "request_name"
  dependencyKey : String := "dependency_name"

/-- Reads one member of the configuration. -/
def readMember (s : Settings) (member : String × Json) : Except DecodeError Settings :=
  match member.1 with
  | "request_name_key" => return { s with requestKey := ← Decoder.string member.2 }
  | "dependency_name_key" => return { s with dependencyKey := ← Decoder.string member.2 }
  | _ => .ok s

def settings : Json → Except DecodeError Settings
  | .null => .ok {}
  | j => Decoder.record "RequestMetadataConfig" ["request_name_key", "dependency_name_key"] 0
      (·.foldlM readMember {}) j

/-- Adds a pair if there is a value for it. -/
def addSome (bag : PropertyBag) (key : String) : Option String → PropertyBag
  | some value => bag.add key value
  | none => bag

def enricher (s : Settings) : Enricher where
  name := "request-metadata"
  run bag request _ :=
    (match request.metadata with
      | some m => addSome (addSome bag s.requestKey m.requestName) s.dependencyKey m.dependencyName
      | none => bag, .done)

/-- The factory. It has no check of its own. -/
def factory : EnricherFactory where
  name := "request-metadata"
  configure config := do
    let s ← (settings config).mapError Refusal.decode
    return enricher s

end CallTelemetry.RequestNames
