import CallTelemetry.Text.Ascii
import CallTelemetry.Record.PropertyBag

/-!
# Call records

What is known of one call, in the order in which it is written out. The header lists and the property
bag of a record are on loan from pools of their own, so blanking a record is only half of giving it
back; the other half is in `Pools.releaseRecord`. Resetting empties a record field by field and so makes it
blank whatever it held (`reset_eq_blank`).
-/

namespace CallTelemetry

/-- The fields of a record that are not on loan. -/
@[ext]
structure CallFields where
  method : String := ""
  host : String := ""
  /-- The path as it is shown, or the template. -/
  path : String := ""
  /-- The parameters shown beside a template. -/
  pathParameters : List (String × String) := []
  statusCode : Option Nat := none
  durationMs : Nat := 0
  requestBody : Option String := none
  responseBody : Option String := none
  deriving DecidableEq, Repr

/-- What is known of a call. -/
structure LogRecord extends CallFields where
  requestHeaders : Option HeaderList := none
  responseHeaders : Option HeaderList := none
  enrichment : Option PropertyBag := none
  deriving DecidableEq, Repr

/-- The value of the first pair with a name, in any letter case. -/
def findHeader? (pairs : List (String × String)) (name : String) : Option String :=
  (pairs.find? fun p => Text.eqIgnoreCase p.1 name).map (·.2)

namespace LogRecord

def blank : LogRecord := {}

/-- The record with every field emptied. -/
def reset (r : LogRecord) : LogRecord :=
  { r with
    method := "", host := "", path := "", pathParameters := [], statusCode := none, durationMs := 0
    requestHeaders := none, responseHeaders := none, requestBody := none, responseBody := none
    enrichment := none }

instance : Recycle LogRecord where
  blank := blank
  reset := reset
  keeps _ := true

theorem reset_eq_blank (r : LogRecord) : Recycle.reset r = blank := rfl

def requestHeader? (r : LogRecord) (name : String) : Option String :=
  r.requestHeaders.bind fun h => findHeader? h.items name

def responseHeader? (r : LogRecord) (name : String) : Option String :=
  r.responseHeaders.bind fun h => findHeader? h.items name

def enrichmentValue? (r : LogRecord) (key : String) : Option String :=
  r.enrichment.bind (·.get? key)

/-- A member that is there only if there is a value for it. -/
def member {α : Type} (name : String) (write : α → Json) : Option α → List (String × Json)
  | some a => [(name, write a)]
  | none => []

/-- The members of a record beside its scalars. -/
def details (r : LogRecord) : List (String × Json) :=
  (if r.pathParameters.isEmpty then [] else [("path_parameters", Json.ofPairs r.pathParameters)]) ++
  member "request_headers" (fun h => Json.ofPairs h.items) r.requestHeaders ++
  member "response_headers" (fun h => Json.ofPairs h.items) r.responseHeaders ++
  member "request_body" Json.str r.requestBody ++
  member "response_body" Json.str r.responseBody ++
  member "enrichment" PropertyBag.toJson r.enrichment

/-- Whether a record has nothing beside its scalars, found out without writing the members. -/
def lacksDetails (r : LogRecord) : Bool :=
  r.pathParameters.isEmpty && r.requestHeaders.isNone && r.responseHeaders.isNone && r.requestBody.isNone &&
    r.responseBody.isNone && r.enrichment.isNone

/-- The scalar members of a record. -/
def scalars (r : LogRecord) : List (String × Json) :=
  [("method", .str r.method), ("host", .str r.host), ("path", .str r.path),
   ("status_code", Json.opt Json.nat r.statusCode), ("duration_ms", Json.nat r.durationMs)]

/-- The text of the members beside the scalars. -/
def detailsText (r : LogRecord) : String := (Json.obj r.details).render

/-- The text of the whole record. -/
def text (r : LogRecord) : String := (Json.obj (r.scalars ++ r.details)).render

theorem member_eq_nil_iff {α : Type} {name : String} {write : α → Json} {o : Option α} :
    member name write o = [] ↔ o = none := by
  cases o <;> simp [member]

theorem details_eq_nil_iff (r : LogRecord) :
    r.details = [] ↔ r.pathParameters = [] ∧ r.requestHeaders = none ∧ r.responseHeaders = none ∧
      r.requestBody = none ∧ r.responseBody = none ∧ r.enrichment = none := by
  have parameters : (if r.pathParameters.isEmpty then [] else
      [("path_parameters", Json.ofPairs r.pathParameters)]) = [] ↔ r.pathParameters = [] := by
    cases r.pathParameters <;> simp
  simp only [details, List.append_eq_nil_iff, member_eq_nil_iff, parameters, and_assoc]

/-- The test for details agrees with what is written. -/
theorem lacksDetails_iff (r : LogRecord) : r.lacksDetails = true ↔ r.details = [] := by
  simp only [details_eq_nil_iff, lacksDetails, Bool.and_eq_true, List.isEmpty_iff, Option.isNone_iff_eq_none,
    and_assoc]

end LogRecord

end CallTelemetry
