import CallTelemetry.Proofs.Logger.Transparency
import CallTelemetry.Proofs.Record.Names

/-!
# Names in what a run emits

Every record that a run emits reports the parameters of a request that one of its loggers was asked to start, and
headers that the rules of this logger have given (`Unpooled.stems_emitted`). The rules of a valid configuration have
names of their own, but a template may have one parameter twice (`names_emitted_distinct_iff`,
`repeated_parameter_emitted`).
-/

namespace CallTelemetry

/-- The parameters of a path are listed under their names in the template. -/
theorem PathPolicy.names_collect (policy : PathPolicy) (t : Route.Template) (path : String) :
    (policy.collect t path []).map (·.1) = t.parameters.map (·.name) := by
  have onward : ∀ (segments : List Route.Segment) (rest : List Char),
      ((Route.walkFrom segments rest).filterMap policy.pairOf).map (·.1) =
        (Route.Template.parameters ⟨t.raw, segments⟩).map (·.name) := by
    intro segments
    induction segments with
    | nil => exact fun _ => rfl
    | cons s segments ih =>
      intro rest
      cases s with
      | literal text => exact ih _
      | parameter p => exact congrArg (p.name :: ·) (ih _)
  exact onward t.segments _

namespace HttpSetup

/-- The parameters of the template are shown by name, if they are, under names of their own. -/
def NamesParametersOnce (s : HttpSetup) (request : Request) : Prop :=
  s.config.pathLoggingMode = .structured →
    ∀ m, request.metadata = some m → (m.route.parameters.map (·.name)).Nodup

theorem nodup_shownPath_iff (s : HttpSetup) (request : Request) :
    ((s.shownPath request).2.map (·.1)).Nodup ↔ s.NamesParametersOnce request := by
  unfold shownPath NamesParametersOnce
  cases request.metadata with
  | none => exact iff_of_true List.nodup_nil nofun
  | some m =>
    dsimp only
    cases s.config.pathLoggingMode with
    | formatted => exact iff_of_true List.nodup_nil nofun
    | structured =>
      rw [PathPolicy.names_collect]
      simp

end HttpSetup

/-- A record shows the parameters of a request and header lists that the rules of a setup have given. -/
structure ShownRecord.Reports (r : ShownRecord) (s : HttpSetup) (request : Request) : Prop where
  pathParameters : r.pathParameters = (s.shownPath request).2
  requestHeaders : ∀ pairs ∈ r.requestHeaders,
    ∃ map, pairs = HeaderRule.pairs s.redactor s.config.requestHeaders map
  responseHeaders : ∀ pairs ∈ r.responseHeaders,
    ∃ map, pairs = HeaderRule.pairs s.redactor s.config.responseHeaders map

namespace HttpSetup

variable {s : HttpSetup} {request : Request}

theorem reports_requestSide (s : HttpSetup) (request : Request) (cancelled : Bool) :
    (s.requestSide request cancelled).Reports s request := by
  refine ⟨rfl, fun pairs among => ?_, nofun⟩
  unfold requestSide at among
  dsimp only at among
  split at among
  · exact ⟨_, (Option.some.inj among).symm⟩
  · cases among

theorem reports_completion {started : ShownRecord} (h : started.Reports s request) (e : CallEnd) :
    (s.completion started e).record.Reports s request := by
  refine ⟨h.pathParameters, h.requestHeaders, fun pairs among => ?_⟩
  unfold completion at among
  dsimp only at among
  split at among
  · obtain ⟨response, -, rfl⟩ := Option.map_eq_some_iff.1 among
    exact ⟨_, rfl⟩
  · cases among

/-- In what a valid setup reports of a request no name is repeated, unless it shows a template that repeats one. -/
theorem hasDistinctNames_iff (valid : s.config.validate = .ok ()) {r : LogRecord} (h : r.shown.Reports s request) :
    (Json.obj r.details).hasDistinctNames = true ↔ s.NamesParametersOnce request := by
  obtain ⟨requestNames, responseNames⟩ := s.config.nodup_of_validate valid
  have requestLists : ∀ list ∈ r.requestHeaders, (list.items.map (·.1)).Nodup := by
    intro list there
    obtain ⟨map, e⟩ := h.requestHeaders list.items (Option.map_eq_some_iff.2 ⟨list, there, rfl⟩)
    rw [e]
    exact requestNames.sublist (HeaderRule.names_pairs_sublist _ _ map)
  have responseLists : ∀ list ∈ r.responseHeaders, (list.items.map (·.1)).Nodup := by
    intro list there
    obtain ⟨map, e⟩ := h.responseHeaders list.items (Option.map_eq_some_iff.2 ⟨list, there, rfl⟩)
    rw [e]
    exact responseNames.sublist (HeaderRule.names_pairs_sublist _ _ map)
  have parameters : r.pathParameters = (s.shownPath request).2 := h.pathParameters
  rw [LogRecord.hasDistinctNames_details, parameters, nodup_shownPath_iff]
  exact and_iff_left ⟨requestLists, responseLists⟩

end HttpSetup

namespace Unpooled

/-- Among the commands there is one that starts a call for the request. -/
def Starts (commands : List (Command HttpSetup)) (logger : Nat) (request : Request) : Prop :=
  ∃ holder cancelled, .operate (.start logger holder request cancelled) ∈ commands

/-- A logger of the commands has started a call for a request that the record reports. -/
def Stems (commands : List (Command HttpSetup)) (logger : Nat) (r : ShownRecord) : Prop :=
  ∃ s request, (commands.filterMap Command.accepted?)[logger]? = some s ∧ Starts commands logger request ∧
    r.Reports s request

/-- The setups are those of the commands but for the ones to come, and every call stems from a start. -/
structure Traces (u : Unpooled) (commands rest : List (Command HttpSetup)) : Prop where
  setups : u.setups ++ rest.filterMap Command.accepted? = commands.filterMap Command.accepted?
  live : ∀ p ∈ u.live, Stems commands p.2.owner p.2.started

variable {u : Unpooled} {commands rest : List (Command HttpSetup)} {c : Command HttpSetup}

theorem Traces.setup (h : u.Traces commands rest) {i : Nat} {s : HttpSetup} (there : u.setups[i]? = some s) :
    (commands.filterMap Command.accepted?)[i]? = some s := by
  rw [← h.setups, List.getElem?_append_left (List.getElem?_eq_some_iff.1 there).1]
  exact there

theorem Traces.take (h : u.Traces commands rest) (holder : String) : (u.take holder).Traces commands rest :=
  ⟨h.setups, fun p hp => h.live p (List.mem_filter.1 hp).1⟩

theorem Traces.after (h : u.Traces commands (c :: rest)) (among : c ∈ commands) :
    (u.after c).Traces commands rest := by
  refine ⟨?_, ?_⟩
  · rw [u.setups_after, List.append_assoc, ← h.setups, List.filterMap_cons]
    cases c.accepted? <;> rfl
  · intro p hp
    unfold Unpooled.after at hp
    cases c with
    | create s =>
      dsimp only at hp
      split at hp <;> exact h.live p hp
    | operate op =>
      cases op with
      | start logger holder request cancelled =>
        dsimp only at hp
        split at hp
        next s there =>
          rcases List.mem_append.1 hp with old | new
          · exact (h.take holder).live p old
          · rw [List.mem_singleton.1 new]
            exact ⟨s, request, h.setup there, ⟨holder, cancelled, among⟩, s.reports_requestSide request cancelled⟩
        next => exact h.live p hp
      | finish logger holder e | stopBlocking logger holder =>
        dsimp only at hp
        split at hp
        · exact (h.take holder).live p hp
        · exact h.live p hp
      | startBlocking logger => exact h.live p hp
      | drop holder => exact (h.take holder).live p hp

theorem Traces.emits (h : u.Traces commands (c :: rest)) (among : c ∈ commands) :
    ∀ p ∈ u.emits c, Stems commands p.1 p.2.record := by
  intro p hp
  unfold Unpooled.emits at hp
  cases c with
  | create s => cases hp
  | operate op =>
    cases op with
    | start logger holder request cancelled =>
      dsimp only at hp
      split at hp
      next s there =>
        split at hp
        · rw [List.mem_singleton.1 hp]
          exact ⟨s, request, h.setup there, ⟨holder, cancelled, among⟩, s.reports_requestSide request cancelled⟩
        · cases hp
      next => cases hp
    | finish logger holder e =>
      dsimp only at hp
      split at hp
      next s c there held =>
        split at hp
        next own =>
          rw [List.mem_singleton.1 hp]
          obtain ⟨before, after, split, -⟩ := List.lookup_eq_some_iff.1 held
          obtain ⟨t, request, there', starts, reports⟩ := h.live (holder, c) (by rw [split]; simp)
          dsimp only at there'
          rw [own, h.setup there] at there'
          cases there'
          exact ⟨s, request, h.setup there, own ▸ starts, HttpSetup.reports_completion reports e⟩
        next => cases hp
      next => cases hp
    | startBlocking logger => cases hp
    | stopBlocking logger holder => cases hp
    | drop holder => cases hp

theorem stems_emitted (commands : List (Command HttpSetup)) :
    ∀ p ∈ Unpooled.emitted {} commands, Stems commands p.1 p.2.record := by
  have onward : ∀ (rest : List (Command HttpSetup)) (u : Unpooled), (∀ c ∈ rest, c ∈ commands) →
      u.Traces commands rest → ∀ p ∈ u.emitted rest, Stems commands p.1 p.2.record := by
    intro rest
    induction rest with
    | nil => exact fun _ _ _ => nofun
    | cons c rest ih =>
      intro u known traces p hp
      have among := known c List.mem_cons_self
      rcases List.mem_append.1 hp with now | later
      · exact traces.emits among p now
      · exact ih _ (fun d hd => known d (List.mem_cons_of_mem c hd)) (traces.after among) p later
  exact onward commands {} (fun _ => id) ⟨rfl, nofun⟩

end Unpooled

namespace Fleet

/-- In the objects of an emitted record no name is repeated, unless the record lists the parameters of a template that
repeats one. A reader of JSON then finds every text in its place. -/
theorem names_emitted_distinct_iff (commands : List (Command HttpSetup)) {i : Nat} {e : Emission}
    (among : (i, e) ∈ emitted HttpSetup.build {} commands) :
    ∃ s request, (commands.filterMap Command.accepted?)[i]? = some s ∧
      (∃ holder cancelled, .operate (.start i holder request cancelled) ∈ commands) ∧
      e.record.pathParameters = (s.shownPath request).2 ∧
      ((Json.obj e.record.details).hasDistinctNames = true ↔ s.NamesParametersOnce request) ∧
      ((Json.obj (e.record.scalars ++ e.record.details)).hasDistinctNames = true ↔ s.NamesParametersOnce request) ∧
      (s.NamesParametersOnce request → ∀ path text, Json.WritesAt path (.obj e.record.details) (.str text) ↔
        ∃ read, Json.parse? e.record.detailsText = some read ∧ Json.find? path read = some (.str text)) := by
  have renders : RendersAll False _ _ := rendersAll_emitted commands nofun
  obtain ⟨⟨j, without⟩, there, same, rendered⟩ := renders.exists_of_mem among
  obtain ⟨s, request, setup, starts, reports⟩ := Unpooled.stems_emitted commands _ there
  have record : e.record.shown.Reports s request := by
    have unenriched := congrArg ShownEmission.record rendered.unenriched
    obtain ⟨fields, requestHeaders, responseHeaders, -⟩ := ShownRecord.mk.inj unenriched
    refine ⟨(congrArg CallFields.pathParameters fields).trans reports.pathParameters, fun pairs among => ?_,
      fun pairs among => ?_⟩
    · exact reports.requestHeaders pairs (requestHeaders ▸ among)
    · exact reports.responseHeaders pairs (responseHeaders ▸ among)
  have valid := Command.valid_of_accepted (List.mem_of_getElem? setup)
  have details := s.hasDistinctNames_iff valid record
  cases same
  refine ⟨s, request, setup, starts, record.pathParameters, details, ?_, fun once path text => ?_⟩
  · rw [LogRecord.hasDistinctNames_text]
    exact details
  · have legible : (Json.obj e.record.details).Legible .sorted := LogRecord.legible_details _ e.record
    exact Json.writesAt_iff_of_read legible (details.2 once) path text

/-- The two parameters of the template have names of their own. -/
theorem names_emitted_distinct_iff_of_two :
    let route : Route.Template := ⟨"/a/\x7bx\x7d/b/\x7by\x7d",
      [.literal "a/", .parameter ⟨"x", none, false, false⟩, .literal "/b/", .parameter ⟨"y", none, false, false⟩]⟩
    let request : Request := ⟨"GET", ⟨some "https", some "api.example", "/a/1/b/2", none⟩, [], [],
      some ⟨route, none, none⟩⟩
    let setup : HttpSetup :=
      ⟨{ pathLoggingMode := .structured, pathRedactionMode := .verbatim, logRequestStart := true }, .erasing, []⟩
    let commands : List (Command HttpSetup) := [.create setup, .operate (.start 0 "a" request false)]
    let e : Emission :=
      { record := { method := "GET", host := "api.example", path := route.raw
                    pathParameters := [("x", "1"), ("y", "2")] }
        severity := .information, failure := none }
    (0, e) ∈ emitted HttpSetup.build {} commands ∧ (Json.obj e.record.details).hasDistinctNames = true ∧
      ∃ read, Json.parse? e.record.detailsText = some read ∧
        Json.find? ["path_parameters", "x"] read = some (.str "1") := by
  intro route request setup commands e
  have among : (0, e) ∈ emitted HttpSetup.build {} commands := by decide +kernel
  obtain ⟨s, started, made, ⟨holder, cancelled, starts⟩, -, details, -, recovered⟩ :=
    names_emitted_distinct_iff commands among
  have once : s.NamesParametersOnce started := by
    have only : started = request := by
      rcases List.mem_cons.1 starts with created | starts
      · cases created
      · cases List.mem_singleton.1 starts
        rfl
    subst only
    intro _ m described
    cases described
    decide
  refine ⟨among, details.2 once, (recovered once _ _).1 ?_⟩
  exact ⟨_, List.mem_singleton_self _, _, List.mem_cons_self, rfl⟩

/-- A template that has one parameter twice is accepted. Both values stand under its name, and a reader of JSON finds
the second one only. -/
theorem repeated_parameter_emitted :
    ∃ route, Route.Template.parse "/a/\x7bid\x7d/b/\x7bid\x7d" = .ok route ∧
      let request : Request := ⟨"GET", ⟨some "https", some "api.example", "/a/1/b/2", none⟩, [], [],
        some ⟨route, none, none⟩⟩
      let setup : HttpSetup :=
        ⟨{ pathLoggingMode := .structured, pathRedactionMode := .verbatim, logRequestStart := true }, .erasing, []⟩
      let e : Emission :=
        { record := { method := "GET", host := "api.example", path := route.raw
                      pathParameters := [("id", "1"), ("id", "2")] }
          severity := .information, failure := none }
      setup.config.validate = .ok () ∧
        emitted HttpSetup.build {} [.create setup, .operate (.start 0 "a" request false)] = [(0, e)] ∧
        (Json.obj e.record.details).hasDistinctNames = false ∧
        Json.WritesAt ["path_parameters", "id"] (.obj e.record.details) (.str "1") ∧
        (Json.parse? e.record.detailsText).bind (Json.find? ["path_parameters", "id"]) = some (.str "2") := by
  refine ⟨⟨"/a/\x7bid\x7d/b/\x7bid\x7d", [.literal "a/", .parameter ⟨"id", none, false, false⟩, .literal "/b/",
    .parameter ⟨"id", none, false, false⟩]⟩, by decide +kernel, ?_⟩
  intro request setup e
  refine ⟨by decide +kernel, by decide +kernel, by decide, ?_, by decide +kernel⟩
  exact ⟨_, List.mem_singleton_self _, _, List.mem_cons_self, rfl⟩

end Fleet

end CallTelemetry
