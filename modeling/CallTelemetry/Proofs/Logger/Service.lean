import CallTelemetry.Proofs.Enrichment.Sight
import CallTelemetry.Proofs.Logger.Custody
import CallTelemetry.Proofs.Logger.Unpooled

/-!
# One call of a pooled logger

A logger that serves a setup starts a call with the request side that the setup gives for the request
(`Serves.start`), and ends it with what its end adds to that side (`Serves.complete`), whatever objects its pools
hand out. The objects are as good as new because the pools account for those that are out, and readers only add
to what they are given (`Reading.Writes`).
-/

namespace CallTelemetry

namespace HttpReader

/-- The reader of a setup. -/
structure Follows (r : HttpReader) (s : HttpSetup) : Prop where
  paths : r.paths = s.paths
  pathMode : r.pathMode = s.config.pathLoggingMode
  requestHeaders : HeaderCapture.ofRules s.config.requestHeaders = .ok r.requestHeaders
  responseHeaders : HeaderCapture.ofRules s.config.responseHeaders = .ok r.responseHeaders
  body : r.body = BodyCapture.ofConfig? s.config

theorem follows_of_ofConfig {s : HttpSetup} {r : HttpReader}
    (made : ofConfig s.config s.redactor = .ok r) : r.Follows s := by
  obtain ⟨request, response, paths, pathMode, body⟩ := ofConfig_eq_ok_iff.1 made
  exact ⟨paths, pathMode, request, response, body⟩

variable {r : HttpReader} {s : HttpSetup}

/-- A path that is read behind nothing. -/
theorem Follows.readPath (h : r.Follows s) (request : Request) {f : CallFields} (path : f.path = "")
    (parameters : f.pathParameters = []) :
    r.readPath request f =
      { f with path := (s.shownPath request).1, pathParameters := (s.shownPath request).2 } := by
  unfold HttpReader.readPath HttpSetup.shownPath
  rw [h.paths, h.pathMode, path, parameters]
  dsimp only [HttpSetup.paths]
  cases request.metadata with
  | none =>
    by_cases e : s.config.pathRedactionMode = .verbatim
    · cases s.config.pathLoggingMode <;> simp [e, ← parameters]
    · simp [e, ← parameters]
  | some m =>
    by_cases e : s.config.pathRedactionMode = .verbatim
    · cases s.config.pathLoggingMode <;> simp [e, PathPolicy.format, ← parameters]
    · cases s.config.pathLoggingMode <;> simp [e, ← parameters]

theorem Follows.bodyText (h : r.Follows s) (side : BodySide) (headers : HeaderMap) (body : List UInt8)
    (cancelled : Bool) :
    s.bodyText side headers body cancelled =
      match r.readBody side headers body cancelled with
      | .ok (some text) => text
      | _ => none := by
  unfold HttpSetup.bodyText readBody
  rw [h.body]
  cases BodyCapture.ofConfig? s.config with
  | none => rfl
  | some capture =>
    dsimp only [Option.bind_some]
    cases capture.read side headers body (if cancelled then some 0 else none) <;> rfl

end HttpReader

/-- A reading that succeeds, with these fields, and puts these pairs behind what its buffer holds. -/
structure Reading.Writes (reading : Reading) (fields : CallFields) (pairs : List (String × String)) : Prop where
  fields : reading.fields = fields
  error : reading.error = none
  buffer : ∀ b, ∃ list, reading.useBuffer b = .keep list ∧ list.items = b.items ++ pairs

namespace HttpReader

variable {r : HttpReader} {s : HttpSetup}

/-- Reading a request into a new record gives the request side of its call. -/
theorem Follows.readRequest (h : r.Follows s) (request : Request) (cancelled : Bool) :
    (r.readRequest LogRecord.blank request cancelled).Writes (s.requestSide request cancelled).toCallFields
      (HeaderRule.pairs s.redactor s.config.requestHeaders request.headers) := by
  have buffer : ∀ b : HeaderList, ∃ list,
      BufferUse.keep (r.requestHeaders.read r.paths.redactor request.headers b) = .keep list ∧
        list.items = b.items ++ HeaderRule.pairs s.redactor s.config.requestHeaders request.headers := by
    intro b
    refine ⟨_, rfl, ?_⟩
    rw [h.paths]
    exact HeaderCapture.items_read_ofRules h.requestHeaders s.redactor request.headers b
  have body := h.bodyText .request request.headers request.body cancelled
  unfold HttpReader.readRequest HttpSetup.requestSide
  dsimp only [LogRecord.blank]
  rw [h.readPath request rfl rfl, body, String.empty_append, String.empty_append]
  cases r.readBody .request request.headers request.body cancelled with
  | error e => exact ⟨rfl, rfl, buffer⟩
  | ok text =>
    cases text with
    | none => exact ⟨rfl, rfl, buffer⟩
    | some text => exact ⟨rfl, rfl, buffer⟩

/-- Reading a response adds the status, the body and the headers to a record that has none of them. -/
theorem Follows.readResponse (h : r.Follows s) (record : LogRecord) (bare : record.responseBody = none)
    (response : Response) (cancelled : Bool) :
    (r.readResponse record (some response) cancelled).Writes
      { record.toCallFields with
        statusCode := some response.status
        responseBody := s.bodyText .response response.headers response.body cancelled }
      (HeaderRule.pairs s.redactor s.config.responseHeaders response.headers) := by
  have buffer : ∀ b : HeaderList, ∃ list,
      BufferUse.keep (r.responseHeaders.read r.paths.redactor response.headers b) = .keep list ∧
        list.items = b.items ++ HeaderRule.pairs s.redactor s.config.responseHeaders response.headers := by
    intro b
    refine ⟨_, rfl, ?_⟩
    rw [h.paths]
    exact HeaderCapture.items_read_ofRules h.responseHeaders s.redactor response.headers b
  rw [h.bodyText .response response.headers response.body cancelled]
  unfold HttpReader.readResponse
  dsimp only
  cases r.readBody .response response.headers response.body cancelled with
  | error e => exact ⟨by rw [← bare], rfl, buffer⟩
  | ok text =>
    cases text with
    | none => exact ⟨by rw [← bare], rfl, buffer⟩
    | some text => exact ⟨rfl, rfl, buffer⟩

end HttpReader

/-- A header list that a logger takes from its pool is empty. -/
theorem Pools.Balanced.items_takeHeaders {p : Pools} {records headers bags : Nat}
    (h : p.Balanced records headers bags) (wanted : Bool) :
    (p.takeHeaders wanted).1.map (·.items) = if wanted then some [] else none := by
  cases wanted with
  | false => rfl
  | true => exact congrArg some (Buffer.items_eq_nil_of_fresh h.headers.fresh_acquire)

/-- The record with other headers on one side. -/
def LogRecord.withHeaders (r : LogRecord) (side : BodySide) (list : Option HeaderList) : LogRecord :=
  match side with
  | .request => { r with requestHeaders := list }
  | .response => { r with responseHeaders := list }

/-- Nothing of a response is on a record, and no enrichment. -/
structure ShownRecord.RequestOnly (r : ShownRecord) : Prop where
  statusCode : r.statusCode = none
  responseBody : r.responseBody = none
  responseHeaders : r.responseHeaders = none
  enrichment : r.enrichment = none

/-- The severity of a finished call by the statuses that count as errors; no status is one of them. -/
theorem Severity.ofCall_eq (status : Option Nat) (failed : Bool) :
    ofCall status failed =
      if failed || status.all fun code => 400 ≤ code && code ≤ 599 then .error else .information := by
  cases failed with
  | true => rfl
  | false =>
    cases status with
    | none => rfl
    | some code => simp [ofCall, ofStatus]

namespace CallLogger

variable {l : CallLogger} {s : HttpSetup}

/-- Storing a reading in a record without headers on its side. -/
theorem store_of_writes (side : BodySide) (p : Pools) {record : LogRecord} {buffer : Option HeaderList}
    {wanted : Bool} {reading : Reading} {fields : CallFields} {pairs : List (String × String)}
    (h : reading.Writes fields pairs) (bare : record.withHeaders side none = record)
    (empty : buffer.map (·.items) = if wanted then some [] else none) :
    ∃ list : Option HeaderList, list.map (·.items) = (if wanted then some pairs else none) ∧
      (store side p record buffer reading).1 =
        LogRecord.withHeaders { record with toCallFields := fields } side list := by
  cases buffer with
  | none =>
    cases wanted with
    | true => cases empty
    | false =>
      refine ⟨none, rfl, ?_⟩
      rw [← h.fields, ← bare]
      cases side <;> rfl
  | some b =>
    cases wanted with
    | false => cases empty
    | true =>
      obtain ⟨list, kept, items⟩ := h.buffer b
      have nothing : b.items = [] := Option.some.inj empty
      rw [nothing, List.nil_append] at items
      refine ⟨some list, congrArg some items, ?_⟩
      unfold store
      rw [Option.map_some, kept, h.fields]
      cases side <;> rfl

/-- A logger with the settings, the reader and the enrichers of a setup, and with any pools. -/
structure Serves (l : CallLogger) (s : HttpSetup) : Prop where
  logRequestStart : l.logRequestStart = s.config.logRequestStart
  logRequestHeaders : l.logRequestHeaders = s.config.logRequestHeaders
  logResponseHeaders : l.logResponseHeaders = s.config.logResponseHeaders
  enrichers : l.enrichers = s.enrichers
  reader : ∃ r : HttpReader, r.Follows s ∧ l.reader = r.toCallReader

theorem Serves.withPools (h : l.Serves s) (pools : Pools) : Serves { l with pools } s :=
  ⟨h.logRequestStart, h.logRequestHeaders, h.logResponseHeaders, h.enrichers, h.reader⟩

theorem serves_of_build (made : s.build = .ok l) : l.Serves s := by
  obtain ⟨-, r, reader, rfl⟩ := HttpSetup.build_eq_ok_iff.1 made
  exact ⟨rfl, rfl, rfl, rfl, ⟨r, HttpReader.follows_of_ofConfig reader, rfl⟩⟩

theorem emissions_append (a b : List TraceEvent) : emissions (a ++ b) = emissions a ++ emissions b :=
  List.filterMap_append

theorem emissions_logs (logs : List LogEvent) : emissions (logs.map .log) = [] := by
  unfold emissions
  rw [List.filterMap_map, List.filterMap_eq_nil_iff]
  exact fun _ _ => rfl

theorem emissions_readingTrace (side : String) (reading : Reading) :
    emissions (readingTrace side reading) = [] :=
  emissions_logs _

variable {calls : List LogRecord}

/-- A call starts with the request side that its request gives, whatever record it takes from the pool. -/
theorem Serves.start (h : l.Serves s) (accounts : l.pools.Accounts calls) (request : Request)
    (cancelled : Bool) :
    ∃ record, (l.start request cancelled).result = .ok record ∧
      record.shown = s.requestSide request cancelled ∧
      emissions (l.start request cancelled).trace =
        if s.config.logRequestStart then [⟨record, .information, none⟩] else [] := by
  obtain ⟨r, follows, reads⟩ := h.reader
  have blank := LogRecord.eq_blank_of_fresh accounts.balanced.records.fresh_acquire
  have writes : (l.requestReading request cancelled).Writes (s.requestSide request cancelled).toCallFields
      (HeaderRule.pairs s.redactor s.config.requestHeaders request.headers) := by
    unfold requestReading
    rw [reads, blank]
    exact follows.readRequest request cancelled
  have taken : Pools.Balanced { l.pools with records := l.pools.records.acquire.2 } _ _ _ :=
    ⟨accounts.balanced.records.acquire, accounts.balanced.headers, accounts.balanced.bags⟩
  have bare : LogRecord.blank.withHeaders .request none = LogRecord.blank := rfl
  obtain ⟨list, items, stored⟩ := store_of_writes .request
    (Pools.takeHeaders { l.pools with records := l.pools.records.acquire.2 } l.logRequestHeaders).2
    writes bare (taken.items_takeHeaders l.logRequestHeaders)
  have record_eq : (l.requestStored request cancelled).1 =
      { LogRecord.blank with
        toCallFields := (s.requestSide request cancelled).toCallFields, requestHeaders := list } := by
    unfold requestStored
    rw [blank]
    exact stored
  have passed : usageError? (l.requestReading request cancelled) = none := by
    unfold usageError?
    rw [writes.error]
    rfl
  rw [start_eq, passed]
  refine ⟨(l.requestStored request cancelled).1, rfl, ?_, ?_⟩
  · rw [record_eq]
    unfold LogRecord.shown HttpSetup.requestSide
    dsimp only
    rw [items, h.logRequestHeaders]
    rfl
  · dsimp only
    rw [emissions_append, emissions_readingTrace, h.logRequestStart, List.nil_append]
    split <;> rfl

/-- What reading the response makes of the record of a call that has started. -/
theorem Serves.responseStored (h : l.Serves s) {record : LogRecord}
    (accounts : l.pools.Accounts (record :: calls)) (started : record.shown.RequestOnly) (e : CallEnd) :
    usageError? (l.reader.readResponse record e.response e.cancelled) = none ∧
      (l.responseStored record e).1.shown =
        { record.shown with
          statusCode := e.response.map (·.status)
          responseHeaders :=
            if s.config.logResponseHeaders then
              e.response.map fun r => HeaderRule.pairs s.redactor s.config.responseHeaders r.headers
            else none
          responseBody := e.response.bind fun r => s.bodyText .response r.headers r.body e.cancelled } := by
  obtain ⟨r, follows, reads⟩ := h.reader
  have noHeaders : record.responseHeaders = none := Option.map_eq_none_iff.1 started.responseHeaders
  have bare : record.withHeaders .response none = record := by
    unfold LogRecord.withHeaders
    rw [← noHeaders]
  have taken := accounts.balanced.items_takeHeaders (l.logResponseHeaders && e.response.isSome)
  unfold CallLogger.responseStored
  rw [reads]
  cases answered : e.response with
  | none =>
    refine ⟨rfl, ?_⟩
    rw [Option.isSome_none, Bool.and_false]
    show record.shown = _
    rw [Option.map_none, Option.map_none, Option.bind_none, ite_self, ← started.statusCode,
      ← started.responseHeaders, ← started.responseBody]
  | some response =>
    have writes := follows.readResponse record started.responseBody response e.cancelled
    rw [answered, Option.isSome_some, Bool.and_true] at taken
    rw [Option.isSome_some, Bool.and_true]
    obtain ⟨list, items, stored⟩ := store_of_writes .response
      (l.pools.takeHeaders l.logResponseHeaders).2 writes bare taken
    refine ⟨?_, ?_⟩
    · unfold usageError?
      show ((r.readResponse record (some response) e.cancelled).error.filter _) = none
      rw [writes.error]
      rfl
    · show ((store .response (l.pools.takeHeaders l.logResponseHeaders).2 record
        (l.pools.takeHeaders l.logResponseHeaders).1
        (r.readResponse record (some response) e.cancelled)).1).shown = _
      rw [stored]
      unfold LogRecord.shown LogRecord.withHeaders
      dsimp only
      rw [items, h.logResponseHeaders]
      rfl

theorem emissions_enrich (l : CallLogger) (p : Pools) (record : LogRecord) (e : CallEnd) :
    emissions (l.enrich p record e).2.2 = [] := by
  unfold enrich
  split
  · rfl
  · exact emissions_logs _

/-- Enrichers change nothing of a record but its enrichment. -/
theorem shown_enrich (l : CallLogger) (p : Pools) (record : LogRecord) (e : CallEnd) :
    (l.enrich p record e).1.shown =
      { record.shown with enrichment := (l.enrich p record e).1.enrichment.map (·.toList) } := by
  unfold enrich
  split <;> rfl

theorem Serves.enrichment_enrich (h : l.Serves s) (sees : ∀ e ∈ s.enrichers, e.ReadsEntries) {p : Pools}
    {records headers bags : Nat} (balanced : p.Balanced records headers bags) {record : LogRecord}
    (bare : record.enrichment = none) (e : CallEnd) :
    (l.enrich p record e).1.enrichment.map (·.toList) =
      if s.enrichers.isEmpty then none else some (s.enrichers.fanOut {} e.request e.response).bag.toList := by
  unfold CallLogger.enrich
  rw [h.enrichers]
  split
  · rw [bare]
    rfl
  · have empty := PropertyBag.toList_eq_nil_of_fresh balanced.bags.fresh_acquire
    exact congrArg some (EnricherSet.toList_bag_fanOut (b := {}) sees empty e.request e.response)

/-- A call ends with what its end adds to its request side, whatever buffers it takes from the pools. Its enrichment
depends on the memory of the bag at most if its enrichers do. -/
theorem Serves.complete (h : l.Serves s) {record : LogRecord}
    (accounts : l.pools.Accounts (record :: calls)) (started : record.shown.RequestOnly) (e : CallEnd) :
    (l.complete record e).result = .ok () ∧
      ∃ emitted, emissions (l.complete record e).trace = [emitted] ∧
        emitted.shown.unenriched = (s.completion record.shown e).unenriched ∧
        ((∀ e ∈ s.enrichers, e.ReadsEntries) → emitted.shown = s.completion record.shown e) := by
  obtain ⟨passed, stored⟩ := h.responseStored accounts started e
  have after := accounts_responseStored accounts e
  have bare : (l.responseStored record e).1.enrichment = none := after.bare _ List.mem_cons_self
  have enriched := l.shown_enrich (l.responseStored record e).2 (l.responseStored record e).1 e
  rw [complete_eq]
  dsimp only
  rw [passed]
  refine ⟨rfl, emission (l.enrich (l.responseStored record e).2 (l.responseStored record e).1 e).1 e, ?_, ?_⟩
  · dsimp only
    rw [emissions_append, emissions_append, emissions_readingTrace, emissions_enrich]
    rfl
  · have last : (emission (l.enrich (l.responseStored record e).2 (l.responseStored record e).1 e).1 e).shown =
        { s.completion record.shown e with
          record := { (s.completion record.shown e).record with
            enrichment := (l.enrich (l.responseStored record e).2 (l.responseStored record e).1 e).1.enrichment.map
              (·.toList) } } := by
      rw [stored] at enriched
      obtain ⟨fields, request, response, -⟩ := ShownRecord.mk.inj enriched
      unfold emission Emission.shown HttpSetup.completion
      rw [Severity.ofCall_eq, fields]
      unfold LogRecord.shown
      dsimp only
      rw [request, response, Option.all_map]
      rfl
    rw [last]
    refine ⟨rfl, fun sees => ?_⟩
    rw [h.enrichment_enrich sees after.balanced bare e]
    rfl

end CallLogger

end CallTelemetry
