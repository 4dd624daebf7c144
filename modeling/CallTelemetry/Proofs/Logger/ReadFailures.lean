import CallTelemetry.Proofs.Logger.Leakage
import CallTelemetry.Proofs.Logger.Lifecycle
import CallTelemetry.Proofs.Logger.Service

/-!
# Readers that fail

An error that must not be passed over should end the operation in which a reader reports it, and any other should
leave nothing behind but a warning (`Surfaces`). A logger asks only whether an error is a usage error. So every error
surfaces as it should but those of a configuration, which are fatal and are passed over with a warning all the same
(`surfaces_iff_not_config`).
-/

namespace CallTelemetry

/-- The same reading without its error. -/
def Reading.silent (r : Reading) : Reading := { r with error := none }

/-- The reader that does the same and reports no error. -/
def CallReader.silent (r : CallReader) : CallReader where
  readRequest record request cancelled := (r.readRequest record request cancelled).silent
  readResponse record response cancelled := (r.readResponse record response cancelled).silent

/-- The logger with a reader that reports no error. -/
def CallLogger.silent (l : CallLogger) : CallLogger := { l with reader := l.reader.silent }

/-- A step that fails loudly: it answers with the error, emits nothing, and leaves only the objects of other calls
out. -/
structure LoggerStep.Refused {α : Type} (step : LoggerStep α) (e : CallError) (calls : List LogRecord) : Prop where
  result : step.result = .error e
  quiet : emissions step.trace = []
  accounts : step.pools.Accounts calls

/-- A step that succeeds and does what another does, but for one warning more. -/
structure LoggerStep.Warns {α : Type} (step silent : LoggerStep α) (warning : LogEvent) : Prop where
  succeeds : ∃ a, step.result = .ok a
  result : step.result = silent.result
  pools : step.pools = silent.pools
  trace : ∃ before after, silent.trace = before ++ after ∧ step.trace = before ++ .log warning :: after

/-- A step fails loudly if the error of its reader is fatal; otherwise it succeeds like the step of a reader that
reports no error, and warns. -/
def Surfaces {α : Type} (e : CallError) (step silent : LoggerStep α) (side : String) (calls : List LogRecord) :
    Prop :=
  if e.isFatal then step.Refused e calls else step.Warns silent (CallLogger.notRead side e)

/-- What a step should do about an error is decided by what it does about usage errors and about others, as long as
the error is not one of a configuration. -/
theorem surfaces_iff {α : Type} {e : CallError} {step silent : LoggerStep α} {side : String}
    {calls : List LogRecord} (usage : e.isUsageError = true → step.Refused e calls)
    (passed : e.isUsageError = false → step.Warns silent (CallLogger.notRead side e)) :
    Surfaces e step silent side calls ↔ ∀ reason, e ≠ .config reason := by
  unfold Surfaces
  constructor
  · rintro surfaces reason rfl
    have fatal : (CallError.config reason).isFatal = true := rfl
    obtain ⟨a, succeeds⟩ := (passed rfl).succeeds
    rw [if_pos fatal] at surfaces
    cases surfaces.result.symm.trans succeeds
  · intro other
    cases kind : e.isUsageError with
    | true =>
      rw [if_pos (CallError.isFatal_of_isUsageError kind)]
      exact usage kind
    | false =>
      have passable : ¬e.isFatal = true := by
        rw [CallError.isFatal_iff, kind]
        rintro (h | ⟨reason, h⟩)
        · cases h
        · exact other reason h
      rw [if_neg passable]
      exact passed kind

namespace CallLogger

variable {l : CallLogger} {calls : List LogRecord} {e : CallError}

theorem usageError?_of_usage {r : Reading} (failed : r.error = some e) (usage : e.isUsageError = true) :
    usageError? r = some e := by
  unfold usageError?
  rw [failed, Option.filter_some, if_pos usage]

theorem usageError?_of_passed {r : Reading} (failed : r.error = some e) (passed : e.isUsageError = false) :
    usageError? r = none := by
  unfold usageError?
  rw [failed, Option.filter_some, passed]
  rfl

/-- An error that is passed over puts one warning behind what the reading itself has logged. -/
theorem readingTrace_of_passed {r : Reading} (failed : r.error = some e) (passed : e.isUsageError = false)
    (side : String) :
    readingTrace side r = readingTrace side r.silent ++ [.log (notRead side e)] := by
  unfold readingTrace
  rw [failed]
  dsimp only [Reading.silent]
  rw [passed, List.append_nil, List.map_append]
  rfl

theorem start_refused (accounts : l.pools.Accounts calls) {request : Request} {cancelled : Bool}
    (failed : (l.requestReading request cancelled).error = some e) (usage : e.isUsageError = true) :
    (l.start request cancelled).Refused e calls := by
  have started := accounts_start accounts request cancelled
  have ended : (l.start request cancelled).result = .error e := by
    rw [start_eq, usageError?_of_usage failed usage]
  rw [ended] at started
  refine ⟨ended, ?_, started⟩
  rw [start_eq, usageError?_of_usage failed usage]
  exact emissions_readingTrace _ _

theorem start_warns {request : Request} {cancelled : Bool}
    (failed : (l.requestReading request cancelled).error = some e) (passed : e.isUsageError = false) :
    (l.start request cancelled).Warns (l.silent.start request cancelled) (notRead "request" e) := by
  -- only the trace and the usage error depend on the error of a reading
  have stored : l.silent.requestStored request cancelled = l.requestStored request cancelled := rfl
  have reading : l.silent.requestReading request cancelled = (l.requestReading request cancelled).silent := rfl
  rw [start_eq, start_eq l.silent, usageError?_of_passed failed passed, stored, reading]
  refine ⟨⟨_, rfl⟩, rfl, rfl, _, _, rfl, ?_⟩
  dsimp only
  rw [readingTrace_of_passed failed passed, List.append_assoc]
  rfl

theorem complete_refused {record : LogRecord} (accounts : l.pools.Accounts (record :: calls)) {callEnd : CallEnd}
    (failed : (l.reader.readResponse record callEnd.response callEnd.cancelled).error = some e)
    (usage : e.isUsageError = true) : (l.complete record callEnd).Refused e calls := by
  refine ⟨?_, ?_, accounts_complete accounts callEnd⟩
  · rw [complete_eq]
    dsimp only
    rw [usageError?_of_usage failed usage]
  · rw [complete_eq]
    dsimp only
    rw [usageError?_of_usage failed usage]
    exact emissions_readingTrace _ _

theorem complete_warns {record : LogRecord} {callEnd : CallEnd}
    (failed : (l.reader.readResponse record callEnd.response callEnd.cancelled).error = some e)
    (passed : e.isUsageError = false) :
    (l.complete record callEnd).Warns (l.silent.complete record callEnd) (notRead "response" e) := by
  have stored : l.silent.responseStored record callEnd = l.responseStored record callEnd := rfl
  have reading : l.silent.reader.readResponse record callEnd.response callEnd.cancelled =
      (l.reader.readResponse record callEnd.response callEnd.cancelled).silent := rfl
  rw [complete_eq, complete_eq l.silent]
  dsimp only
  rw [usageError?_of_passed failed passed, stored, reading]
  refine ⟨⟨_, rfl⟩, rfl, rfl, _, _, (List.append_assoc _ _ _), ?_⟩
  dsimp only
  rw [readingTrace_of_passed failed passed, List.append_assoc, List.append_assoc]
  rfl

end CallLogger

namespace Fleet

/-- After every run, and for every error that a reader reports at the start or at the end of a call, the operation
does about the error what it should exactly if it is not one of a configuration. -/
theorem surfaces_iff_not_config (commands : List (Command Setup)) {logger : Nat} {l : CallLogger}
    (there : (run Setup.build {} commands).loggers[logger]? = some l) (holder : String) (e : CallError) :
    let f := run Setup.build {} commands
    (∀ request cancelled, (l.requestReading request cancelled).error = some e →
      f.start logger holder request cancelled = f.begun logger holder (l.start request cancelled) ∧
        (Surfaces e (l.start request cancelled) (l.silent.start request cancelled) "request"
          (recordsOf logger f.contexts) ↔ ∀ reason, e ≠ .config reason)) ∧
      ∀ c callEnd, f.context? holder = some c → c.owner = logger →
        (l.reader.readResponse c.record callEnd.response callEnd.cancelled).error = some e →
        f.finish logger holder callEnd = f.ended logger holder (l.complete c.record callEnd) ∧
          (Surfaces e (l.complete c.record callEnd) (l.silent.complete c.record callEnd) "response"
            (recordsOf logger (f.take holder).contexts) ↔ ∀ reason, e ≠ .config reason) := by
  intro f
  have sound : f.Sound := sound_run makesIdle_setup commands
  constructor
  · intro request cancelled failed
    have accounts := sound.accounted.accounts logger l there
    refine ⟨start_eq_begun there holder request cancelled, ?_⟩
    exact surfaces_iff (CallLogger.start_refused accounts failed) (CallLogger.start_warns failed)
  · rintro c callEnd held rfl failed
    have accounts := sound.accounts_owner held there
    refine ⟨finish_of_own there held rfl callEnd, ?_⟩
    exact surfaces_iff (CallLogger.complete_refused accounts failed) (CallLogger.complete_warns failed)

/-- A body that cannot be read is passed over with a warning, and a call whose end is out of turn is refused. -/
theorem surfaces_iff_not_config_of_body :
    let request : Request := ⟨"GET", ⟨some "https", some "api.example", "/v1/units", none⟩, [], [], none⟩
    let callEnd : CallEnd := ⟨request, some ⟨200, [], []⟩, none, 1500000, false⟩
    let reader : CallReader :=
      { readRequest := fun r _ _ =>
          { fields := r.toCallFields, useBuffer := .keep, error := some (.body "reset by peer") }
        readResponse := fun r _ _ =>
          { fields := r.toCallFields, useBuffer := .letGo, error := some .missingContext } }
    let config : LoggingConfig := { requestHeaders := [⟨"accept", .safe⟩], logRequestStart := true }
    let commands : List (Command Setup) :=
      [.create (.custom config reader []), .operate (.start 0 "a" request false)]
    let f := run Setup.build {} commands
    ∃ l c, f.loggers[0]? = some l ∧ f.context? "a" = some c ∧
      Surfaces (.body "reset by peer") (l.start request false) (l.silent.start request false) "request"
        (recordsOf 0 f.contexts) ∧
      Surfaces .missingContext (l.complete c.record callEnd) (l.silent.complete c.record callEnd) "response"
        (recordsOf 0 (f.take "a").contexts) := by
  intro request callEnd reader config commands f
  obtain ⟨l, there⟩ := Option.isSome_iff_exists.1 (by decide +kernel : (f.loggers[0]?).isSome = true)
  have owner : (f.context? "a").map (·.owner) = some 0 := by decide +kernel
  obtain ⟨c, held, own⟩ := Option.map_eq_some_iff.1 owner
  have reads : l.reader = reader := by
    have made : f.loggers[0]?.map (·.reader) = some reader := rfl
    rw [there] at made
    exact Option.some.inj made
  obtain ⟨starts, -⟩ := surfaces_iff_not_config commands there "a" (.body "reset by peer")
  obtain ⟨-, ends⟩ := surfaces_iff_not_config commands there "a" .missingContext
  refine ⟨l, c, there, held, (starts request false ?_).2.2 ?_, (ends c callEnd held own ?_).2.2 ?_⟩
  · unfold CallLogger.requestReading
    rw [reads]
  · rintro reason ⟨⟩
  · rw [reads]
  · rintro reason ⟨⟩

/-- A start whose reader finds the configuration at fault goes on with a warning. -/
theorem config_error_passed_over :
    let request : Request := ⟨"GET", ⟨some "https", some "api.example", "/v1/units", none⟩, [], [], none⟩
    let reader : CallReader :=
      { readRequest := fun r _ _ =>
          { fields := r.toCallFields, useBuffer := .keep, error := some (.config "bad") }
        readResponse := fun r _ _ => { fields := r.toCallFields, useBuffer := .keep } }
    let l := CallLogger.withReader {} reader []
    (CallError.config "bad").isFatal = true ∧
      (l.requestReading request false).error = some (.config "bad") ∧
      ¬Surfaces (.config "bad") (l.start request false) (l.silent.start request false) "request" [] ∧
      (run Setup.build {} [.create (.custom {} reader []),
        .operate (.start 0 "a" request false)]).holders = ["a"] := by
  intro request reader l
  refine ⟨rfl, rfl, ?_, by decide +kernel⟩
  intro surfaces
  have refused : (l.start request false).Refused (.config "bad") [] := surfaces
  cases refused.result

end Fleet

end CallTelemetry
