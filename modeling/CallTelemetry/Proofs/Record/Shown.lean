import CallTelemetry.Record.Emission

/-!
# What an emission shows

A record keeps header lists and a bag in buffers that remember how much memory they have. Nobody outside sees
that memory: a copy of an emission and the event that it is written as depend only on what the buffers hold
(`capture_eq_of_shown`, `event_eq_of_shown`). A copy shows all of it, except that it has an empty list for a bag that is
not there (`shown_capture`).
-/

namespace CallTelemetry

/-- A record without the memory behind it. -/
structure ShownRecord extends CallFields where
  requestHeaders : Option (List (String × String)) := none
  responseHeaders : Option (List (String × String)) := none
  enrichment : Option (List (String × String)) := none
  deriving DecidableEq, Repr

/-- An emission without the memory behind it. -/
structure ShownEmission where
  record : ShownRecord
  severity : Severity
  failure : Option String
  deriving DecidableEq, Repr

/-- An emission but for what enrichers have added. -/
def ShownEmission.unenriched (e : ShownEmission) : ShownEmission :=
  { e with record := { e.record with enrichment := none } }

def LogRecord.shown (r : LogRecord) : ShownRecord where
  toCallFields := r.toCallFields
  requestHeaders := r.requestHeaders.map (·.items)
  responseHeaders := r.responseHeaders.map (·.items)
  enrichment := r.enrichment.map (·.toList)

def Emission.shown (e : Emission) : ShownEmission := ⟨e.record.shown, e.severity, e.failure⟩

/-- An emission with an empty list in the place of enrichment that it lacks. -/
def ShownEmission.withEnrichment (e : ShownEmission) : ShownEmission :=
  { e with record := { e.record with enrichment := some (e.record.enrichment.getD []) } }

/-- What a copy of an emission shows. Its enrichment is always there. -/
def EmittedRecord.shown (r : EmittedRecord) : ShownEmission where
  record := {
    method := r.method
    host := r.host
    path := r.path
    pathParameters := r.pathParameters
    statusCode := r.statusCode
    durationMs := r.durationMs
    requestBody := r.requestBody
    responseBody := r.responseBody
    requestHeaders := r.requestHeaders
    responseHeaders := r.responseHeaders
    enrichment := some r.enrichment }
  severity := r.severity
  failure := r.failure

/-- A copy has nothing beyond what it shows and its time. -/
theorem EmittedRecord.eq_iff {r s : EmittedRecord} : r = s ↔ r.timestamp = s.timestamp ∧ r.shown = s.shown := by
  constructor
  · rintro rfl
    exact ⟨rfl, rfl⟩
  · rintro ⟨time, shown⟩
    cases r
    cases s
    simp only [EmittedRecord.shown, ShownEmission.mk.injEq, ShownRecord.mk.injEq, CallFields.mk.injEq,
      Option.some.injEq] at shown
    simp_all

theorem LogRecord.shown_eq_iff {r s : LogRecord} : r.shown = s.shown ↔ r.toCallFields = s.toCallFields ∧
    r.requestHeaders.map (·.items) = s.requestHeaders.map (·.items) ∧
    r.responseHeaders.map (·.items) = s.responseHeaders.map (·.items) ∧
    r.enrichment.map (·.toList) = s.enrichment.map (·.toList) := by
  simp only [shown, ShownRecord.mk.injEq]

theorem LogRecord.member_eq_of_map {α : Type} {name : String} {view : α → List (String × String)}
    {a b : Option α} (same : a.map view = b.map view) :
    member name (fun x => Json.ofPairs (view x)) a = member name (fun x => Json.ofPairs (view x)) b := by
  cases a with
  | none =>
    cases b with
    | none => rfl
    | some y => cases same
  | some x =>
    cases b with
    | none => cases same
    | some y =>
      have shown : view x = view y := Option.some.inj same
      show [(name, Json.ofPairs (view x))] = [(name, Json.ofPairs (view y))]
      rw [shown]

theorem LogRecord.details_eq_of_shown {r s : LogRecord} (same : r.shown = s.shown) : r.details = s.details := by
  obtain ⟨fields, request, response, enrichment⟩ := shown_eq_iff.1 same
  unfold details PropertyBag.toJson
  rw [fields, member_eq_of_map request, member_eq_of_map response, member_eq_of_map enrichment]

namespace Emission

variable {a b : Emission}

/-- A copy shows all that the emission shows, but for whether there is a bag when it is empty. -/
theorem shown_capture (e : Emission) (timestamp : String) : (e.capture timestamp).shown = e.shown.withEnrichment := rfl

/-- Copies are equal exactly if they are made at one time of emissions that show the same. -/
theorem capture_eq_iff {s t : String} :
    a.capture s = b.capture t ↔ s = t ∧ a.shown.withEnrichment = b.shown.withEnrichment := by
  rw [EmittedRecord.eq_iff, shown_capture, shown_capture]
  rfl

theorem capture_eq_of_shown (same : a.shown = b.shown) (timestamp : String) :
    a.capture timestamp = b.capture timestamp :=
  capture_eq_iff.2 ⟨rfl, congrArg ShownEmission.withEnrichment same⟩

theorem event_eq_of_shown (same : a.shown = b.shown) : a.event = b.event := by
  obtain ⟨record, severity, failure⟩ := ShownEmission.mk.inj same
  have details := LogRecord.details_eq_of_shown record
  have lacks : a.record.lacksDetails = b.record.lacksDetails := by
    rw [Bool.eq_iff_iff, LogRecord.lacksDetails_iff, LogRecord.lacksDetails_iff, details]
  obtain ⟨fields, -, -, -⟩ := LogRecord.shown_eq_iff.1 record
  unfold event LogRecord.detailsText
  rw [severity, failure, lacks, details, fields]

end Emission

end CallTelemetry
