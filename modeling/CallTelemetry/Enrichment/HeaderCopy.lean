import CallTelemetry.Enrichment.Registry

/-!
# Copied headers

An enricher that copies headers of the request and of the response into the bag, each under a common
start of the key and the header's name in small letters. The values are not redacted.
-/

namespace CallTelemetry.HeaderCopy

/-- What is copied. -/
structure Settings where
  /-- What every key starts with. -/
  keyStart : String := ""
  request : List String := []
  response : List String := []

/-- Reads one member of the configuration. -/
def readMember (s : Settings) (member : String × Json) : Except DecodeError Settings :=
  match member.1 with
  | "prefix" => return { s with keyStart := ← Decoder.string member.2 }
  | "request" => return { s with request := ← Decoder.list Decoder.string member.2 }
  | "response" => return { s with response := ← Decoder.list Decoder.string member.2 }
  | _ => .ok s

def settings : Json → Except DecodeError Settings
  | .null => .ok {}
  | j => Decoder.record "HeaderCopyConfig" ["prefix", "request", "response"] 0 (·.foldlM readMember {}) j

/-- A header to copy and the key to copy it to. -/
abbrev Target := HeaderName × String

/-- The targets for a list of header names. -/
def targets (keyStart : String) (names : List String) : Except Refusal (List Target) :=
  names.mapM fun raw =>
    match HeaderName.ofString? raw with
    | some name => .ok (name, keyStart ++ name.text)
    | none => .error (.invalidHeader raw)

/-- Puts a value behind those before it. A comma goes between only if there is some text already, so
empty values at the start leave nothing. -/
def join (joined : String) (value : HeaderValue) : String :=
  (if joined = "" then joined else joined ++ ",") ++ value.lossy

/-- Copies one header, if the message has it. -/
def copyOne (headers : HeaderMap) (bag : PropertyBag) (target : Target) : PropertyBag :=
  match headers.valuesOf target.1 with
  | [] => bag
  | values => bag.add target.2 (values.foldl join "")

/-- Copies all headers that a message has. -/
def copy (targets : List Target) (headers : HeaderMap) (bag : PropertyBag) : PropertyBag :=
  targets.foldl (copyOne headers) bag

def enricher (request response : List Target) : Enricher where
  name := "header-copy"
  run bag req resp :=
    let bag := copy request req.headers bag
    (match resp with
      | some r => copy response r.headers bag
      | none => bag, .done)

def configure (config : Json) : Except Refusal Enricher := do
  let s ← (settings config).mapError Refusal.decode
  return enricher (← targets s.keyStart s.request) (← targets s.keyStart s.response)

def factory : EnricherFactory where
  name := "header-copy"
  check config := do let _ ← configure config
  configure

end CallTelemetry.HeaderCopy
