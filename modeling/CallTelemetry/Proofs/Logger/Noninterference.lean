import CallTelemetry.Proofs.Logger.Service
import CallTelemetry.Proofs.Redaction.Blind

/-!
# Redaction without interference

With a redactor that shows nothing of a value, two requests that differ only in what is withheld cannot be told
apart by what a logger does with them (`steps_eq_of_indistinguishable`). What is withheld is all of the path
and the values of sensitive headers. Nothing else of a request is read unless bodies are logged.
-/

namespace CallTelemetry

namespace HttpSetup

/-- Two requests between which the settings allow no difference to show. -/
structure Indistinguishable (s : HttpSetup) (a b : Request) : Prop where
  method : a.method = b.method
  host : a.uri.host? = b.uri.host?
  route : a.metadata.map (·.route) = b.metadata.map (·.route)
  present : ∀ rule ∈ s.config.requestHeaders, rule.valuesIn a.headers = [] ↔ rule.valuesIn b.headers = []
  shown : ∀ rule ∈ s.config.requestHeaders, rule.classification.isSafe = true →
    HeaderCapture.joined (rule.valuesIn a.headers) = HeaderCapture.joined (rule.valuesIn b.headers)

/-- Paths are redacted, and no parameter of the template, if there is one, is shown as it is. -/
structure WithholdsPath (s : HttpSetup) (template : Option Route.Template) : Prop where
  redacted : s.config.pathRedactionMode ≠ .verbatim
  withheld : ∀ t, template = some t → ∀ p ∈ t.parameters, s.paths.Withholds p

variable {s : HttpSetup} {a b : Request}

theorem Indistinguishable.pairs (h : s.Indistinguishable a b) (ignores : s.redactor.IgnoresValue) :
    HeaderRule.pairs s.redactor s.config.requestHeaders a.headers =
      HeaderRule.pairs s.redactor s.config.requestHeaders b.headers := by
  apply List.filterMap_congr
  intro rule hr
  have present := h.present rule hr
  have shown : s.redactor.apply rule.classification (HeaderCapture.joined (rule.valuesIn a.headers)) "" =
      s.redactor.apply rule.classification (HeaderCapture.joined (rule.valuesIn b.headers)) "" := by
    cases label : rule.classification.isSafe with
    | false => exact Redactor.apply_eq_of_not_isSafe ignores label _ _ ""
    | true => rw [h.shown rule hr label]
  unfold HeaderRule.pair?
  cases left : rule.valuesIn a.headers with
  | nil => rw [present.1 left]
  | cons v vs =>
    cases right : rule.valuesIn b.headers with
    | nil =>
      rw [present.2 right] at left
      cases left
    | cons w ws =>
      rw [left, right] at shown
      exact congrArg (fun text => some (rule.name, text)) shown

end HttpSetup

namespace HttpReader

variable {s : HttpSetup} {r : HttpReader} {a b : Request}

theorem Follows.readPath_eq (h : r.Follows s) (ignores : s.redactor.IgnoresValue)
    (same : s.Indistinguishable a b) (withholds : s.WithholdsPath (a.metadata.map (·.route)))
    (f : CallFields) : r.readPath a f = r.readPath b f := by
  have redacted : r.paths.mode ≠ .verbatim := by
    rw [h.paths]
    exact withholds.redacted
  have copied : ¬(r.paths.mode = .verbatim ∧ r.pathMode = .formatted) := fun verbatim => redacted verbatim.1
  have route := same.route
  unfold HttpReader.readPath
  dsimp only
  rw [if_neg copied, if_neg copied]
  cases described : a.metadata with
  | none =>
    rw [described, Option.map_none] at route
    rw [Option.map_eq_none_iff.1 route.symm]
    dsimp only
    rw [if_neg redacted, if_neg redacted]
  | some m =>
    rw [described, Option.map_some] at route
    obtain ⟨n, described', route⟩ := Option.map_eq_some_iff.1 route.symm
    have withheld : ∀ p ∈ m.route.parameters, s.paths.Withholds p :=
      withholds.withheld m.route (by rw [described, Option.map_some])
    have formatted := PathPolicy.format_eq_of_withholds ignores withheld withholds.redacted
      a.uri.path b.uri.path f.path
    have collected := PathPolicy.collect_eq_of_withholds ignores withheld a.uri.path b.uri.path f.pathParameters
    rw [described']
    dsimp only
    rw [route, h.paths, formatted, collected]

/-- A reading of one request is a reading of the other. -/
theorem Follows.readRequest_eq (h : r.Follows s) (noBody : s.config.logBody = false)
    (ignores : s.redactor.IgnoresValue) (same : s.Indistinguishable a b)
    (withholds : s.WithholdsPath (a.metadata.map (·.route))) (record : LogRecord) (cancelled : Bool) :
    r.readRequest record a cancelled = r.readRequest record b cancelled := by
  have unread : r.body = none := by
    rw [h.body]
    unfold BodyCapture.ofConfig?
    rw [noBody]
    rfl
  have headers : r.requestHeaders.read r.paths.redactor a.headers =
      r.requestHeaders.read r.paths.redactor b.headers := by
    funext out
    unfold HeaderCapture.read
    rw [h.paths, HeaderCapture.filterMap_ofRules h.requestHeaders, HeaderCapture.filterMap_ofRules h.requestHeaders]
    exact congrArg (fun pairs => pairs.foldl Buffer.push out) (same.pairs ignores)
  unfold HttpReader.readRequest readBody
  dsimp only
  rw [unread]
  dsimp only
  rw [same.method, same.host, headers, h.readPath_eq ignores same withholds]

end HttpReader

namespace CallLogger

variable {l : CallLogger} (noEnrichers : l.enrichers = [])

include noEnrichers

theorem enrich_of_no_enrichers (p : Pools) (record : LogRecord) (e : CallEnd) :
    l.enrich p record e = (record, p, []) := by
  unfold enrich
  rw [noEnrichers]
  rfl

/-- Without enrichers the end of a call does not depend on its request. -/
theorem complete_of_no_enrichers (record : LogRecord) (e : CallEnd) (request : Request) :
    l.complete record e = l.complete record { e with request } := by
  rw [complete_eq, complete_eq]
  dsimp only
  rw [enrich_of_no_enrichers noEnrichers, enrich_of_no_enrichers noEnrichers]
  rfl

end CallLogger

namespace HttpSetup

variable {s : HttpSetup} {a b : Request}

/-- A logger without enrichers, wherever its pools stand, starts and ends a call in the same way for two
requests that its settings do not tell apart. -/
theorem steps_eq_of_indistinguishable (valid : s.config.validate = .ok ()) (noBody : s.config.logBody = false)
    (noEnrichers : s.enrichers = []) (ignores : s.redactor.IgnoresValue) (same : s.Indistinguishable a b)
    (withholds : s.WithholdsPath (a.metadata.map (·.route))) :
    ∃ l, s.build = .ok l ∧ ∀ pools cancelled,
      CallLogger.start { l with pools } a cancelled = CallLogger.start { l with pools } b cancelled ∧
        ∀ record response failure elapsedNanos cancelled,
          CallLogger.complete { l with pools } record ⟨a, response, failure, elapsedNanos, cancelled⟩ =
            CallLogger.complete { l with pools } record ⟨b, response, failure, elapsedNanos, cancelled⟩ := by
  obtain ⟨l, made⟩ := exists_build valid
  obtain ⟨-, r, reader, rfl⟩ := build_eq_ok_iff.1 made
  have follows := HttpReader.follows_of_ofConfig reader
  refine ⟨_, made, fun pools cancelled => ⟨?_, fun record response failure elapsedNanos cancelled => ?_⟩⟩
  · have readings := follows.readRequest_eq noBody ignores same withholds
    unfold CallLogger.start
    dsimp only [CallLogger.withReader, HttpReader.toCallReader]
    rw [readings]
  · exact CallLogger.complete_of_no_enrichers noEnrichers record
      ⟨a, response, failure, elapsedNanos, cancelled⟩ b

/-- One path fits the template and the other does not; the users and the credentials differ. -/
theorem steps_eq_of_two_users :
    let setup : HttpSetup :=
      ⟨{ requestHeaders := [⟨"Authorization", .unknown⟩, ⟨"Accept", .safe⟩], pathRedactionMode := .loose
         routeParameters := [("unitId", .unknown)] }, .formatting "[masked]", []⟩
    let unit : Route.Parameter := ⟨"unitId", none, false, false⟩
    let route : Route.Template := ⟨"/v1/units/\x7bunitId\x7d", [.literal "v1/units/", .parameter unit]⟩
    let credentials : HeaderName := ⟨"authorization", by decide⟩
    let a : Request := ⟨"GET", ⟨some "https", some "ann@api.example", "/v1/units/7", some "q=1"⟩,
      [(credentials, ⟨[97], rfl⟩)], [], some ⟨route, none, none⟩⟩
    let b : Request := ⟨"GET", ⟨some "https", some "bob@api.example", "/secret/8/9", none⟩,
      [(HeaderName.contentType, ⟨[97], rfl⟩), (credentials, ⟨[98, 99], rfl⟩)], [1],
      some ⟨route, none, none⟩⟩
    (setup.config.validate = .ok () ∧ setup.redactor.IgnoresValue ∧ setup.Indistinguishable a b ∧
        setup.WithholdsPath (a.metadata.map (·.route))) ∧
      ∃ l, setup.build = .ok l ∧ ∀ pools cancelled,
        CallLogger.start { l with pools } a cancelled = CallLogger.start { l with pools } b cancelled ∧
          ∀ record response failure elapsedNanos cancelled,
            CallLogger.complete { l with pools } record ⟨a, response, failure, elapsedNanos, cancelled⟩ =
              CallLogger.complete { l with pools } record ⟨b, response, failure, elapsedNanos, cancelled⟩ := by
  intro setup unit route credentials a b
  have valid : setup.config.validate = .ok () := by decide +kernel
  have ignores : setup.redactor.IgnoresValue := Redactor.formatting_ignoresValue (by decide +kernel)
  have same : setup.Indistinguishable a b :=
    ⟨rfl, by decide +kernel, rfl, by decide +kernel, by decide +kernel⟩
  have withholds : setup.WithholdsPath (a.metadata.map (·.route)) := by
    refine ⟨by decide, fun t ht p hp => ?_⟩
    cases ht
    rw [List.mem_singleton.1 hp]
    exact Classification.isSafe_unknown
  exact ⟨⟨valid, ignores, same, withholds⟩,
    steps_eq_of_indistinguishable valid rfl rfl ignores same withholds⟩

end HttpSetup

end CallTelemetry
