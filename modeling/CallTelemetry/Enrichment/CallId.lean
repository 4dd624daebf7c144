import CallTelemetry.Enrichment.Registry

/-!
# Call ids

An enricher that labels a call with the value of a correlation header, or with a new id if the request
has no such header. A header that is there counts only if all of it is visible ASCII.
-/

namespace CallTelemetry.CallId

/-- The correlation header and the key of the label. -/
structure Settings where
  header : String := "x-request-id"
  key : String := "call_id"

/-- Reads one member of the configuration. -/
def readMember (s : Settings) (member : String × Json) : Except DecodeError Settings :=
  match member.1 with
  | "header" => return { s with header := ← Decoder.string member.2 }
  | "key" => return { s with key := ← Decoder.string member.2 }
  | _ => .ok s

def settings : Json → Except DecodeError Settings
  | .null => .ok {}
  | j => Decoder.record "CallIdConfig" ["header", "key"] 0 (·.foldlM readMember {}) j

/-- A byte in hexadecimal. -/
def hex (b : Nat) : List Char := [Nat.digitChar (b / 16 % 16), Nat.digitChar (b % 16)]

/-- The id that sixteen random bytes give. Six bits are fixed: they mark the bytes as random. -/
def ofRandom (bytes : List Nat) : String :=
  let marked := (bytes.modify 6 fun b => 64 + b % 16).modify 8 fun b => 128 + b % 64
  let group (start count : Nat) := ((marked.drop start).take count).flatMap hex
  String.ofList ("-".toList.intercalate [group 0 4, group 4 2, group 6 2, group 8 2, group 10 6])

/-- The enricher for a header and a key. `newId` is the id for a request without the header. -/
def enricher (newId : Request → String) (header : HeaderName) (key : String) : Enricher where
  name := "call-id"
  run bag request _ :=
    match request.headers.first? header with
    | none => (bag.add key (newId request), .done)
    | some value =>
      match value.visible? with
      | some id => (bag.add key id, .done)
      | none => (bag, .failed [header.text ++ " is not valid UTF-8"])

def configure (newId : Request → String) (config : Json) : Except Refusal Enricher := do
  let s ← (settings config).mapError Refusal.decode
  match HeaderName.ofString? s.header with
  | none => throw (.invalidHeader s.header)
  | some header =>
    if s.key = "" then throw .emptyKey
    return enricher newId header s.key

def factory (newId : Request → String) : EnricherFactory where
  name := "call-id"
  check config := do let _ ← configure newId config
  configure := configure newId

end CallTelemetry.CallId
