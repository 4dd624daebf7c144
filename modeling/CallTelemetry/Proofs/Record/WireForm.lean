import CallTelemetry.Proofs.Json.RoundTrip
import CallTelemetry.Proofs.Record.Shown

/-!
# What the wire form keeps

The event that an emission is written as and the text of a record hold all that an emission and a record show.
Every member of the details is found under its name (`lookup_details`), and every part of an event under its own
(`lookup_event`), so parts that differ are written differently; the texts in between are told apart by `eq_of_render`.
-/

namespace CallTelemetry

namespace LogRecord

theorem lookup_member {α : Type} (name : String) (write : α → Json) (o : Option α) (key : String) :
    (member name write o).lookup key = if key = name then o.map write else none := by
  rw [← lookup_optional]
  cases o <;> rfl

/-- Each member of the details is found under its name. -/
theorem lookup_details (r : LogRecord) :
    r.details.lookup "path_parameters" =
      (if r.pathParameters = [] then none else some (Json.ofPairs r.pathParameters)) ∧
    r.details.lookup "request_headers" = r.requestHeaders.map (fun h => Json.ofPairs h.items) ∧
    r.details.lookup "response_headers" = r.responseHeaders.map (fun h => Json.ofPairs h.items) ∧
    r.details.lookup "request_body" = r.requestBody.map Json.str ∧
    r.details.lookup "response_body" = r.responseBody.map Json.str ∧
    r.details.lookup "enrichment" = r.enrichment.map PropertyBag.toJson := by
  have parameters : (if r.pathParameters.isEmpty then [] else
      [("path_parameters", Json.ofPairs r.pathParameters)]) =
      member "path_parameters" Json.ofPairs (if r.pathParameters = [] then none else some r.pathParameters) := by
    cases r.pathParameters <;> rfl
  simp only [details, parameters, List.lookup_append, lookup_member]
  simp [apply_ite (Option.map Json.ofPairs)]

theorem legible_member {keeping : Json.Keeping} {α : Type} {write : α → Json}
    (legible : ∀ a, (write a).Legible keeping) (name : String) (o : Option α) :
    Json.MembersLegible keeping (member name write o) := by
  cases o with
  | none => trivial
  | some a => exact ⟨legible a, trivial⟩

theorem legible_details (keeping : Json.Keeping) (r : LogRecord) : Json.MembersLegible keeping r.details := by
  have parameters : Json.MembersLegible keeping (if r.pathParameters.isEmpty then [] else
      [("path_parameters", Json.ofPairs r.pathParameters)]) := by
    split
    · trivial
    · exact ⟨Json.legible_ofPairs _, trivial⟩
  have pairs : ∀ h : HeaderList, (Json.ofPairs h.items).Legible keeping := fun h => Json.legible_ofPairs _
  have bag : ∀ b : PropertyBag, b.toJson.Legible keeping := fun b => Json.legible_ofPairs _
  have text : ∀ s, (Json.str s).Legible keeping := fun _ => trivial
  simp only [details, Json.membersLegible_append]
  exact ⟨⟨⟨⟨⟨parameters, legible_member pairs _ _⟩, legible_member pairs _ _⟩, legible_member text _ _⟩,
    legible_member text _ _⟩, legible_member bag _ _⟩

theorem map_ofPairs_injective {α : Type} {view : α → List (String × String)} {a b : Option α}
    (same : a.map (fun x => Json.ofPairs (view x)) = b.map fun x => Json.ofPairs (view x)) :
    a.map view = b.map view := by
  have split : ∀ o : Option α, o.map (fun x => Json.ofPairs (view x)) = (o.map view).map Json.ofPairs := by
    intro o
    rw [Option.map_map]
    rfl
  rw [split, split] at same
  exact Option.map_injective (fun _ _ => Json.ofPairs_injective) same

theorem scalars_eq_iff {r s : LogRecord} : r.scalars = s.scalars ↔ r.method = s.method ∧ r.host = s.host ∧
    r.path = s.path ∧ r.statusCode = s.statusCode ∧ r.durationMs = s.durationMs := by
  have nat : ∀ {a b : Nat}, Json.nat a = Json.nat b ↔ a = b := by
    intro a b
    simp [Json.nat]
  have opt : ∀ {a b : Option Nat}, Json.opt Json.nat a = Json.opt Json.nat b ↔ a = b := by
    intro a b
    cases a <;> cases b <;> simp [Json.opt, Json.nat]
  simp [scalars, nat, opt]

/-- Records that are written alike show the same. -/
theorem shown_eq_of_written {r s : LogRecord} (scalars : r.scalars = s.scalars) (details : r.details = s.details) :
    r.shown = s.shown := by
  obtain ⟨method, host, path, status, duration⟩ := scalars_eq_iff.1 scalars
  obtain ⟨parameters, request, response, requestBody, responseBody, enrichment⟩ := r.lookup_details
  obtain ⟨parameters', request', response', requestBody', responseBody', enrichment'⟩ := s.lookup_details
  rw [details] at parameters request response requestBody responseBody enrichment
  have pathParameters : r.pathParameters = s.pathParameters := by
    have same := parameters.symm.trans parameters'
    split at same <;> split at same
    next none none' => rw [none, none']
    next => cases same
    next => cases same
    next => exact Json.ofPairs_injective (Option.some.inj same)
  have text : Function.Injective Json.str := fun _ _ => Json.str.inj
  rw [shown_eq_iff]
  refine ⟨?_, map_ofPairs_injective (request.symm.trans request'),
    map_ofPairs_injective (response.symm.trans response'), map_ofPairs_injective (enrichment.symm.trans enrichment')⟩
  have requestText := Option.map_injective text (requestBody.symm.trans requestBody')
  have responseText := Option.map_injective text (responseBody.symm.trans responseBody')
  exact CallFields.ext method host path pathParameters status duration requestText responseText

theorem details_eq_of_text {r s : LogRecord} (same : r.detailsText = s.detailsText) : r.details = s.details :=
  Json.obj.inj (Json.eq_of_render (legible_details _ r) (legible_details _ s) same)

theorem legible_text (r : LogRecord) : (Json.obj (r.scalars ++ r.details)).Legible .everything := by
  refine Json.membersLegible_append.2 ⟨?_, legible_details _ r⟩
  refine ⟨trivial, trivial, trivial, ?_, rfl, trivial⟩
  cases r.statusCode with
  | none => trivial
  | some s => rfl

theorem text_eq_iff {r s : LogRecord} : r.text = s.text ↔ r.shown = s.shown := by
  constructor
  · intro same
    have members := Json.obj.inj (Json.eq_of_render (legible_text r) (legible_text s) same)
    obtain ⟨scalars, details⟩ := List.append_inj members rfl
    exact shown_eq_of_written scalars details
  · intro same
    have details := details_eq_of_shown same
    obtain ⟨fields, -, -, -⟩ := shown_eq_iff.1 same
    unfold text scalars
    rw [fields, details]

end LogRecord

namespace Emission

theorem lookup_textField (name : String) (o : Option String) (key : String) :
    (textField name o).lookup key = if key = name then o.map .text else none := by
  rw [← lookup_optional]
  cases o <;> rfl

/-- Each part of an event is found under its name. -/
theorem lookup_event (e : Emission) :
    e.event.fields.lookup "method" = some (.text e.record.method) ∧
    e.event.fields.lookup "host" = some (.text e.record.host) ∧
    e.event.fields.lookup "path" = some (.text e.record.path) ∧
    e.event.fields.lookup "status_code" = e.record.statusCode.map .count ∧
    e.event.fields.lookup "duration_ms" = some (.count e.record.durationMs) ∧
    e.event.fields.lookup "details" = (if e.record.lacksDetails then none else some (.text e.record.detailsText)) ∧
    e.event.fields.lookup "error" = e.failure.map .text := by
  simp only [event, List.lookup_append, lookup_optional, lookup_textField]
  simp [List.lookup_cons, apply_ite (Option.map LogValue.text)]

variable {a b : Emission}

theorem details_eq_of_event (same : a.event = b.event) : a.record.details = b.record.details := by
  obtain ⟨-, -, -, -, -, details, -⟩ := a.lookup_event
  obtain ⟨-, -, -, -, -, details', -⟩ := b.lookup_event
  rw [same, details'] at details
  cases lacks : a.record.lacksDetails <;> cases lacks' : b.record.lacksDetails <;> rw [lacks, lacks'] at details
  case true.true => rw [(LogRecord.lacksDetails_iff _).1 lacks, (LogRecord.lacksDetails_iff _).1 lacks']
  case true.false => cases details
  case false.true => cases details
  case false.false => exact (LogRecord.details_eq_of_text (LogValue.text.inj (Option.some.inj details))).symm

theorem shown_eq_of_event (same : a.event = b.event) : a.shown = b.shown := by
  obtain ⟨method, host, path, status, duration, -, failure⟩ := a.lookup_event
  obtain ⟨method', host', path', status', duration', -, failure'⟩ := b.lookup_event
  rw [same] at method host path status duration failure
  have severity : a.severity = b.severity := by
    have level : a.event.level = b.event.level := congrArg LogEvent.level same
    unfold event at level
    cases h : a.severity <;> cases h' : b.severity <;> rw [h, h'] at level <;> first | rfl | cases level
  have text : Function.Injective LogValue.text := fun _ _ => LogValue.text.inj
  have count : Function.Injective LogValue.count := fun _ _ => LogValue.count.inj
  have scalars : a.record.scalars = b.record.scalars := LogRecord.scalars_eq_iff.2
    ⟨text (Option.some.inj (method.symm.trans method')), text (Option.some.inj (host.symm.trans host')),
      text (Option.some.inj (path.symm.trans path')), Option.map_injective count (status.symm.trans status'),
      count (Option.some.inj (duration.symm.trans duration'))⟩
  have record := LogRecord.shown_eq_of_written scalars (details_eq_of_event same)
  unfold shown
  rw [record, severity, Option.map_injective text (failure.symm.trans failure')]

/-- Nothing is lost in an event or in the text of a record, and a copy shows all but whether there was a bag. -/
theorem written_without_loss (a b : Emission) :
    (a.event = b.event → a.shown = b.shown ∧ ∀ timestamp, a.capture timestamp = b.capture timestamp) ∧
      (∀ timestamp, (a.capture timestamp).shown = a.shown.withEnrichment) ∧
      (a.event.fields.lookup "details" = none ↔ a.record.details = []) ∧
      (a.record.text = b.record.text → a.record.shown = b.record.shown) := by
  refine ⟨fun same => ?_, a.shown_capture, ?_, LogRecord.text_eq_iff.1⟩
  · have shown := shown_eq_of_event same
    exact ⟨shown, capture_eq_of_shown shown⟩
  · obtain ⟨-, -, -, -, -, details, -⟩ := a.lookup_event
    rw [details, ← LogRecord.lacksDetails_iff]
    cases a.record.lacksDetails <;> simp

/-- Two emissions that differ only in the memory behind their headers. -/
theorem written_without_loss_of_memory :
    let headers := [("a", "1"), ("a", "\"\n")]
    let written (allocated : Nat) : Emission :=
      ⟨{ method := "GET", statusCode := some 200, requestHeaders := some ⟨headers, allocated⟩ }, .information, none⟩
    ((written 4).shown = (written 8).shown ∧ ∀ t, (written 4).capture t = (written 8).capture t) ∧
      (written 4).event.fields.lookup "details" ≠ none ∧
      (written 4).record.shown = (written 8).record.shown := by
  intro headers written
  obtain ⟨event, -, details, text⟩ := written_without_loss (written 4) (written 8)
  refine ⟨event rfl, fun none => ?_, text rfl⟩
  cases details.1 none

end Emission

end CallTelemetry
