import CallTelemetry.Logger.Fleet
import CallTelemetry.Proofs.Capture.HeaderRules

/-!
# Runs of loggers

A process sets up loggers and lets transports start, end and drop calls, in any order and on any of them.
A run is a list of such commands. A property of fleets that every command keeps holds after every run
(`Fleet.run_induction`). Loggers come in two kinds: those whose reader is described by their configuration,
which exist exactly for valid configurations (`HttpSetup.exists_build`), and those around a reader of their
user. A logger keeps the reader that it was set up with (`reader_run`).
-/

namespace CallTelemetry

/-- A logger with the reader that its configuration describes. -/
structure HttpSetup where
  config : LoggingConfig
  redactor : Redactor
  enrichers : EnricherSet

/-- A way to set up a logger. -/
inductive Setup where
  | http (s : HttpSetup)
  /-- Around a reader of the user's own. The configuration is not validated. -/
  | custom (config : LoggingConfig) (reader : CallReader) (enrichers : EnricherSet)

namespace HttpSetup

def build (s : HttpSetup) : Except CallError CallLogger :=
  (CallLogger.new s.config s.redactor s.enrichers).result

/-- The logger of a setup is made around the reader of a valid configuration. -/
theorem build_eq_ok_iff {s : HttpSetup} {l : CallLogger} :
    s.build = .ok l ↔ s.config.validate = .ok () ∧ ∃ r, HttpReader.ofConfig s.config s.redactor = .ok r ∧
      l = CallLogger.withReader s.config r.toCallReader s.enrichers := by
  have reader_eq_ok_iff : ∀ reader, CallLogger.readerOf s.config s.redactor = .ok reader ↔
      s.config.validate = .ok () ∧ ∃ r, HttpReader.ofConfig s.config s.redactor = .ok r ∧
        reader = r.toCallReader := by
    intro reader
    rw [CallLogger.readerOf, unit_bind_eq_ok_iff, bind_eq_ok_iff]
    simp only [mapError_eq_ok_iff, pure_eq_ok_iff]
  unfold build CallLogger.new
  cases e : CallLogger.readerOf s.config s.redactor with
  | error fault =>
    constructor
    · intro h
      cases h
    · rintro ⟨valid, r, made, rfl⟩
      rw [(reader_eq_ok_iff _).2 ⟨valid, r, made, rfl⟩] at e
      cases e
  | ok reader =>
    obtain ⟨valid, r, made, rfl⟩ := (reader_eq_ok_iff reader).1 e
    constructor
    · intro h
      cases h
      exact ⟨valid, r, made, rfl⟩
    · rintro ⟨-, r', made', rfl⟩
      cases made.symm.trans made'
      rfl

end HttpSetup

/-- A valid configuration can be used. -/
theorem HttpSetup.exists_build {s : HttpSetup} (h : s.config.validate = .ok ()) : ∃ l, s.build = .ok l := by
  obtain ⟨r, made⟩ := HttpReader.exists_ofConfig h s.redactor
  exact ⟨_, HttpSetup.build_eq_ok_iff.2 ⟨h, r, made, rfl⟩⟩

def Setup.build : Setup → Except CallError CallLogger
  | http s => s.build
  | custom config reader enrichers => .ok (CallLogger.withReader config reader enrichers)

/-- One step of a process: a logger is set up, or a transport does something. -/
inductive Command (σ : Type) where
  | create (setup : σ)
  | operate (op : Operation)

/-- The logger that an operation addresses, if it addresses one. -/
def Operation.logger? : Operation → Option Nat
  | start logger _ _ _ | finish logger _ _ | startBlocking logger | stopBlocking logger _ => some logger
  | drop _ => none

namespace Fleet

variable {σ : Type} (build : σ → Except CallError CallLogger)

/-- The fleet after a command. A logger that cannot be set up leaves no trace. -/
def after (f : Fleet) : Command σ → Fleet
  | .create setup =>
    match build setup with
    | .ok l => f.add l
    | .error _ => f
  | .operate op => (f.perform op).fleet

theorem after_create_of_ok {build : σ → Except CallError CallLogger} (f : Fleet) {setup : σ} {l : CallLogger}
    (made : build setup = .ok l) : f.after build (.create setup) = f.add l := by
  unfold after
  dsimp only
  rw [made]

theorem after_create_of_error {build : σ → Except CallError CallLogger} (f : Fleet) {setup : σ}
    {e : CallError} (made : build setup = .error e) : f.after build (.create setup) = f := by
  unfold after
  dsimp only
  rw [made]

/-- A logger keeps its reader when its pools change. -/
theorem readers_modify (loggers : List CallLogger) (i : Nat) (pools : CallLogger → Pools) :
    (loggers.modify i fun l => { l with pools := pools l }).map (·.reader) = loggers.map (·.reader) := by
  apply List.ext_getElem?
  intro j
  rw [List.getElem?_map, List.getElem?_map, List.getElem?_modify]
  cases loggers[j]? with
  | none => rfl
  | some l => by_cases same : i = j <;> simp [same]

theorem readers_drop (f : Fleet) (holder : String) :
    (f.drop holder).loggers.map (·.reader) = f.loggers.map (·.reader) := by
  unfold drop
  cases f.context? holder with
  | none => rfl
  | some c => exact readers_modify f.loggers c.owner fun l => l.pools.releaseRecord c.record

theorem readers_setPools (f : Fleet) (logger : Nat) (pools : Pools) :
    (f.setPools logger pools).loggers.map (·.reader) = f.loggers.map (·.reader) :=
  readers_modify f.loggers logger fun _ => pools

/-- No operation changes the reader of a logger, adds a logger or takes one away. -/
theorem readers_perform (f : Fleet) (op : Operation) :
    (f.perform op).fleet.loggers.map (·.reader) = f.loggers.map (·.reader) := by
  cases op with
  | start logger holder request cancelled =>
    unfold perform start
    dsimp only
    split
    · rfl
    · split
      · exact readers_setPools f logger _
      · exact (readers_drop _ holder).trans (readers_setPools f logger _)
  | finish logger holder e =>
    unfold perform finish
    dsimp only
    split
    · rfl
    · split
      · rfl
      · split
        · exact readers_drop f holder
        · split <;> exact readers_setPools (f.take holder) logger _
  | startBlocking logger =>
    unfold perform
    dsimp only
    split <;> rfl
  | stopBlocking logger holder =>
    unfold perform
    dsimp only
    split
    · exact readers_drop f holder
    · rfl
  | drop holder => exact readers_drop f holder

theorem length_loggers_perform (f : Fleet) (op : Operation) :
    (f.perform op).fleet.loggers.length = f.loggers.length := by
  have lengths := congrArg List.length (readers_perform f op)
  rw [List.length_map, List.length_map] at lengths
  exact lengths

/-- The fleet after a list of commands. -/
def run (f : Fleet) (commands : List (Command σ)) : Fleet := commands.foldl (after build) f

/-- The records that a command emits, each with the logger that emits it. -/
def emits (f : Fleet) : Command σ → List (Nat × Emission)
  | .create _ => []
  | .operate op => op.logger?.toList.flatMap fun logger =>
    (emissions (f.perform op).trace).map fun e => (logger, e)

/-- The records that a list of commands emits, in their order. -/
def emitted (f : Fleet) : List (Command σ) → List (Nat × Emission)
  | [] => []
  | c :: rest => f.emits c ++ (f.after build c).emitted rest

/-- The commands of a list, each with the fleet that it finds. -/
def steps (f : Fleet) : List (Command σ) → List (Fleet × Command σ)
  | [] => []
  | c :: rest => (f, c) :: (f.after build c).steps rest

theorem run_induction {P : Fleet → Prop} (step : ∀ f (c : Command σ), P f → P (f.after build c))
    (commands : List (Command σ)) {f : Fleet} (start : P f) : P (f.run build commands) := by
  induction commands generalizing f with
  | nil => exact start
  | cons c rest ih => exact ih (step f c start)

/-- A logger has the reader that it had before a command, or has been set up by it. -/
theorem reader_after {f : Fleet} {c : Command σ} {l : CallLogger} (among : l ∈ (f.after build c).loggers) :
    (∃ old ∈ f.loggers, l.reader = old.reader) ∨ ∃ setup, c = .create setup ∧ build setup = .ok l := by
  cases c with
  | create setup =>
    cases made : build setup with
    | error e =>
      rw [after_create_of_error f made] at among
      exact Or.inl ⟨l, among, rfl⟩
    | ok new =>
      rw [after_create_of_ok f made] at among
      rcases List.mem_append.1 among with among | among
      · exact Or.inl ⟨l, among, rfl⟩
      · rw [List.mem_singleton.1 among]
        exact Or.inr ⟨setup, rfl, made⟩
  | operate op =>
    have reader : l.reader ∈ f.loggers.map (·.reader) := by
      rw [← readers_perform f op]
      exact List.mem_map_of_mem among
    obtain ⟨old, there, same⟩ := List.mem_map.1 reader
    exact Or.inl ⟨old, there, same.symm⟩

/-- Each logger of a run has a reader that was there before or was set up on the way. -/
theorem reader_run {commands : List (Command σ)} {f : Fleet} {l : CallLogger}
    (among : l ∈ (f.run build commands).loggers) : (∃ old ∈ f.loggers, l.reader = old.reader) ∨
      ∃ setup made, .create setup ∈ commands ∧ build setup = .ok made ∧ l.reader = made.reader := by
  induction commands generalizing f with
  | nil => exact Or.inl ⟨l, among, rfl⟩
  | cons c rest ih =>
    rcases ih (f := f.after build c) among with ⟨old, there, same⟩ | ⟨setup, made, listed, built, same⟩
    · rcases reader_after build there with ⟨older, before, kept⟩ | ⟨setup, rfl, built⟩
      · exact Or.inl ⟨older, before, same.trans kept⟩
      · exact Or.inr ⟨setup, old, List.mem_cons_self, built, same⟩
    · exact Or.inr ⟨setup, made, List.mem_cons_of_mem c listed, built, same⟩

/-- Where every logger is set up for a configuration, each has the reader of one. -/
theorem exists_reader_run {commands : List (Command Setup)}
    (configured : ∀ setup, .create setup ∈ commands → ∃ s, setup = .http s) {l : CallLogger}
    (among : l ∈ (run Setup.build {} commands).loggers) : ∃ r : HttpReader, l.reader = r.toCallReader := by
  rcases reader_run Setup.build among with ⟨old, there, -⟩ | ⟨setup, made, listed, built, same⟩
  · cases there
  · obtain ⟨s, rfl⟩ := configured setup listed
    obtain ⟨-, r, -, rfl⟩ := HttpSetup.build_eq_ok_iff.1 built
    exact ⟨r, same⟩

/-- What holds of a fleet and its past goes on to hold if every command keeps it. -/
theorem steps_induction {P : Fleet → List (Fleet × Command σ) → Prop}
    (step : ∀ f past c, P f past → P (f.after build c) (past ++ [(f, c)]))
    (commands : List (Command σ)) {f : Fleet} (start : P f []) :
    P (f.run build commands) (f.steps build commands) := by
  have onward : ∀ past, P f past → P (f.run build commands) (past ++ f.steps build commands) := by
    clear start
    induction commands generalizing f with
    | nil =>
      intro past now
      rw [steps, List.append_nil]
      exact now
    | cons c rest ih =>
      intro past now
      have later := ih (past ++ [(f, c)]) (step f past c now)
      rw [List.append_assoc] at later
      exact later
  exact onward [] start

end Fleet

end CallTelemetry
