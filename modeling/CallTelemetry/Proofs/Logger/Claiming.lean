import CallTelemetry.Enrichment.StaticProperties
import CallTelemetry.Proofs.Logger.Exchange

/-!
# Who may end a call

A logger claims a context that is handed to it by the serial number of its owner. Serial numbers are distinct while
there are fewer loggers than 64 bits can count (`serial_inj`), so a logger claims its own contexts and no others
(`claim_eq_ok_iff`); if its reader is that of a configuration, the answer to an end says so
(`answer_finish_eq_finished_iff`). Which logger issued the context of a holder follows from the commands of the past
(`issuer?`), and every command keeps the owners of the contexts in step with it (`owner?_after`). An end that is
refused leaves no trace and runs no enricher, and the fleet after it is the one after the context was dropped
(`Fleet.Refuses`); what a foreign context holds goes back to its owner (`Pools.TakesBack`).
-/

namespace CallTelemetry

def Answer.isStarted : Answer → Bool
  | started _ => true
  | _ => false

/-- Which logger issued the context that a holder has, once a command has found the fleet and `before` is the
issuer of what the holder had until then. -/
def issuerAfter {σ : Type} (holder : String) (before : Option Nat) (s : Fleet × Command σ) : Option Nat :=
  match s.2 with
  | .operate (.start logger h request cancelled) =>
    if h = holder ∧ (s.1.start logger h request cancelled).answer.isStarted then some logger else before
  | .operate (.finish logger h _) | .operate (.stopBlocking logger h) =>
    if h = holder ∧ logger < s.1.loggers.length then none else before
  | .operate (.drop h) => if h = holder then none else before
  | _ => before

/-- Which logger issued the context that a holder has after the commands of the past. -/
def issuer? {σ : Type} (past : List (Fleet × Command σ)) (holder : String) : Option Nat :=
  past.foldl (issuerAfter holder) none

namespace Fleet

/-- The number that a logger shows its contexts by: 64 bits of a count that begins with one. -/
def serial (index : Nat) : UInt64 := UInt64.ofNat (index + 1)

/-- The context of a holder, if it is one of the logger's own. -/
def claim (f : Fleet) (logger : Nat) (holder : String) : Except CallError CallContext :=
  match f.context? holder with
  | none => .error .missingContext
  | some c => if serial c.owner ≠ serial logger then .error .foreignContext else .ok c

/-- An end of a call that is refused before anything is done for it. `issuer` is the logger whose context is
given up. -/
structure Refuses (f : Fleet) (logger : Nat) (holder : String) (e : CallEnd) (issuer : Option Nat)
    (refusal : CallError) : Prop where
  answer : (f.finish logger holder e).answer = .refused refusal
  quiet : (f.finish logger holder e).trace = []
  untouched : ∀ i, some i ≠ issuer → (f.finish logger holder e).fleet.loggers[i]? = f.loggers[i]?
  /-- No enricher has a part in it. -/
  unenriched : ∀ change, (f.mapEnrichers change).finish logger holder e =
    ⟨(f.finish logger holder e).fleet.mapEnrichers change, (f.finish logger holder e).answer,
      (f.finish logger holder e).trace⟩
  dropped : (f.finish logger holder e).fleet = (f.perform (.drop holder)).fleet

end Fleet

/-- The pools after a record has come back to them with its header lists, once and reset. -/
structure Pools.TakesBack (before after : Pools) (r : LogRecord) : Prop where
  acquired : after.acquired = before.acquired
  records : after.records.released = before.records.released + 1
  headers : after.headers.released = before.headers.released + r.headerLists
  bags : after.bags = before.bags
  recordsOut : before.records.outstanding = after.records.outstanding + 1
  headersOut : before.headers.outstanding = after.headers.outstanding + r.headerLists
  blank : ∀ idle ∈ after.records.idle, idle = LogRecord.blank
  empty : ∀ idle ∈ after.headers.idle, idle.items = []

theorem Pool.released_releaseOption {α : Type} [Recycle α] (p : Pool α) (o : Option α) :
    (p.releaseOption o).released = p.released + onLoan o := by
  cases o with
  | none => rfl
  | some a => exact released_release p a

/-- Pools that account for a call take its objects back. -/
theorem Pools.Accounts.takesBack {p : Pools} {r : LogRecord} {calls : List LogRecord}
    (h : p.Accounts (r :: calls)) : p.TakesBack (p.releaseRecord r) r := by
  have after := h.releaseRecord
  have lists : p.headers.outstanding = totalHeaderLists calls + r.headerLists := by
    rw [h.balanced.headers.outstanding_eq, totalHeaderLists, Nat.add_comm]
  refine
    { acquired := Pools.acquired_releaseRecord p r
      records := Pool.released_release p.records r
      headers := ?_
      bags := ?_
      recordsOut := ?_
      headersOut := ?_
      blank := fun idle among => LogRecord.eq_blank_of_fresh (after.balanced.records.fresh idle among)
      empty := fun idle among => Buffer.items_eq_nil_of_fresh (after.balanced.headers.fresh idle among) }
  · show ((p.headers.releaseOption r.requestHeaders).releaseOption r.responseHeaders).released = _
    rw [Pool.released_releaseOption, Pool.released_releaseOption, LogRecord.headerLists]
    omega
  · show p.bags.releaseOption r.enrichment = p.bags
    rw [h.bare r List.mem_cons_self]
    rfl
  · rw [h.balanced.records.outstanding_eq, after.balanced.records.outstanding_eq]
    rfl
  · rw [lists, after.balanced.headers.outstanding_eq]

namespace Fleet

variable {σ : Type} {build : σ → Except CallError CallLogger} {f : Fleet} {logger : Nat} {l : CallLogger}
  {holder : String} {c : CallContext}

section Issuers

/-- The owner of the context of a holder. -/
def owner? (f : Fleet) (holder : String) : Option Nat := (f.context? holder).map (·.owner)

theorem owner?_drop (f : Fleet) (h holder : String) :
    (f.drop h).owner? holder = if h = holder then none else f.owner? holder := by
  unfold owner?
  rw [context?_drop]
  by_cases e : h = holder
  · rw [if_pos e.symm, if_pos e]
    rfl
  · rw [if_neg (Ne.symm e), if_neg e]

/-- A context that is put behind the others is the one its holder has, if the holder has no other. -/
theorem context?_push (f : Fleet) (h holder : String) (absent : f.context? h = none) (c : CallContext) :
    context? { f with live := f.live ++ [(h, c)] } holder = if h = holder then some c else f.context? holder := by
  unfold context? at absent ⊢
  dsimp only
  rw [List.lookup_append, List.lookup_cons, List.lookup_nil]
  by_cases e : h = holder
  · subst e
    rw [absent, beq_self_eq_true, if_pos rfl]
    rfl
  · have apart : (holder == h) = false := beq_eq_false_iff_ne.2 (Ne.symm e)
    rw [apart, if_neg e]
    exact Option.or_none

theorem owner?_start (f : Fleet) (logger : Nat) (h : String) (request : Request) (cancelled : Bool)
    (holder : String) :
    (f.start logger h request cancelled).fleet.owner? holder =
      issuerAfter holder (f.owner? holder) (f, (.operate (.start logger h request cancelled) : Command σ)) := by
  unfold issuerAfter
  dsimp only
  cases there : f.loggers[logger]? with
  | none =>
    have same : f.start logger h request cancelled = ⟨f, .noLogger, []⟩ := by
      unfold Fleet.start
      rw [there]
    rw [same]
    exact (if_neg fun both => by cases both.2).symm
  | some l =>
    rw [start_eq_begun there]
    generalize l.start request cancelled = step
    obtain ⟨result, pools, trace⟩ := step
    cases result with
    | error e => exact (if_neg fun both => by cases both.2).symm
    | ok record =>
      -- what the holder had is gone before the new context is put behind the others
      let after := (f.setPools logger pools).drop h
      have absent : after.context? h = none := by
        rw [context?_drop, if_pos rfl]
      show ((context? { after with live := after.live ++ [(h, ⟨logger, record⟩)] } holder).map _) = _
      rw [context?_push after h holder absent]
      by_cases e : h = holder
      · rw [if_pos e, if_pos ⟨e, rfl⟩]
        rfl
      · rw [if_neg e, if_neg fun both => e both.1, context?_drop, if_neg (Ne.symm e)]
        rfl

theorem owner?_finish (f : Fleet) (logger : Nat) (h : String) (e : CallEnd) (holder : String) :
    (f.finish logger h e).fleet.owner? holder =
      if h = holder ∧ logger < f.loggers.length then none else f.owner? holder := by
  cases there : f.loggers[logger]? with
  | none =>
    have beyond : ¬logger < f.loggers.length := Nat.not_lt.2 (List.getElem?_eq_none_iff.1 there)
    unfold finish
    rw [there, if_neg fun both => beyond both.2]
  | some l =>
    have within := (List.getElem?_eq_some_iff.1 there).1
    have dropped : (f.drop h).owner? holder =
        if h = holder ∧ logger < f.loggers.length then none else f.owner? holder := by
      rw [owner?_drop]
      simp only [within, and_true]
    rw [← dropped]
    cases held : f.context? h with
    | none => rw [finish_of_missing there held, drop_eq_self held]
    | some c =>
      by_cases own : c.owner = logger
      · rw [finish_of_own there held own]
        show ((f.take h).context? holder).map _ = ((f.drop h).context? holder).map _
        rw [context?_take, context?_drop]
      · rw [finish_of_foreign there held own]

/-- Each command keeps the owners of the contexts in step with who issued them. -/
theorem owner?_after (f : Fleet) (c : Command σ) (holder : String) :
    (f.after build c).owner? holder = issuerAfter holder (f.owner? holder) (f, c) := by
  cases c with
  | create setup =>
    cases made : build setup with
    | error e =>
      rw [after_create_of_error f made]
      rfl
    | ok l =>
      rw [after_create_of_ok f made]
      rfl
  | operate op =>
    cases op with
    | start logger h request cancelled => exact owner?_start f logger h request cancelled holder
    | finish logger h e => exact owner?_finish f logger h e holder
    | startBlocking logger =>
      unfold Fleet.after perform issuerAfter
      dsimp only
      split <;> rfl
    | stopBlocking logger h =>
      unfold Fleet.after perform issuerAfter
      dsimp only
      split
      · rename_i within
        rw [owner?_drop]
        simp only [within, and_true]
      · rename_i beyond
        rw [if_neg fun both => beyond both.2]
    | drop h => exact owner?_drop f h holder

/-- The owner of a context is the logger that issued it. -/
theorem owner?_run (commands : List (Command σ)) (holder : String) :
    (run build {} commands).owner? holder = issuer? (steps build {} commands) holder := by
  refine steps_induction build (P := fun f past => f.owner? holder = issuer? past holder) ?_ commands rfl
  intro f past c now
  unfold issuer? at now ⊢
  rw [owner?_after, now, List.foldl_append]
  rfl

end Issuers

/-- No two loggers have the same serial number. -/
theorem serial_inj {i j bound : Nat} (few : bound < UInt64.size) (hi : i < bound) (hj : j < bound) :
    serial i = serial j ↔ i = j := by
  constructor
  · intro same
    have counts := congrArg UInt64.toNat same
    unfold serial at counts
    rw [UInt64.toNat_ofNat_of_lt' (by omega), UInt64.toNat_ofNat_of_lt' (by omega)] at counts
    exact Nat.succ.inj counts
  · rintro rfl
    rfl

theorem claim_of_own (held : f.context? holder = some c) (own : c.owner = logger) :
    f.claim logger holder = .ok c := by
  unfold claim
  rw [held]
  exact if_neg (not_not_intro (congrArg serial own))

/-- A logger claims its own contexts and no others. -/
theorem claim_eq_ok_iff (few : f.loggers.length < UInt64.size) (sound : f.Sound)
    (within : logger < f.loggers.length) :
    f.claim logger holder = .ok c ↔ f.context? holder = some c ∧ c.owner = logger := by
  constructor
  · intro claimed
    unfold claim at claimed
    cases held : f.context? holder with
    | none =>
      rw [held] at claimed
      cases claimed
    | some d =>
      rw [held] at claimed
      dsimp only at claimed
      split at claimed
      · cases claimed
      · rename_i same
        cases claimed
        exact ⟨rfl, (serial_inj few (sound.owner_lt held) within).1 (Decidable.not_not.1 same)⟩
  · rintro ⟨held, own⟩
    exact claim_of_own held own

/-- An end that only drops the context, whatever the enrichers of the loggers are. -/
theorem refuses_of_dropped {e : CallEnd} {issuer : Option Nat} {refusal : CallError}
    (refused : f.finish logger holder e = ⟨f.drop holder, .refused refusal, []⟩)
    (mapped : ∀ change, (f.mapEnrichers change).finish logger holder e =
      ⟨(f.mapEnrichers change).drop holder, .refused refusal, []⟩)
    (untouched : ∀ i, some i ≠ issuer → (f.drop holder).loggers[i]? = f.loggers[i]?) :
    f.Refuses logger holder e issuer refusal where
  answer := by rw [refused]
  quiet := by rw [refused]
  untouched := by rw [refused]; exact untouched
  unenriched change := by rw [refused, mapped, drop_mapEnrichers]
  dropped := by rw [refused]; rfl

theorem refuses_of_missing (there : f.loggers[logger]? = some l) (held : f.context? holder = none)
    (e : CallEnd) : f.Refuses logger holder e none .missingContext := by
  have same := drop_eq_self held
  refine refuses_of_dropped ?_ (fun change => ?_) fun i _ => by rw [same]
  · rw [finish_of_missing there held, same]
  · have there' := getElem?_mapEnrichers f change logger
    rw [there] at there'
    rw [finish_of_missing there' held, drop_mapEnrichers, same]

theorem refuses_of_foreign (there : f.loggers[logger]? = some l) (held : f.context? holder = some c)
    (foreign : c.owner ≠ logger) (e : CallEnd) :
    f.Refuses logger holder e (some c.owner) .foreignContext := by
  refine refuses_of_dropped (finish_of_foreign there held foreign e) (fun change => ?_) fun i other => ?_
  · have there' := getElem?_mapEnrichers f change logger
    rw [there] at there'
    exact finish_of_foreign there' held foreign e
  · have apart : c.owner ≠ i := fun same => other (congrArg some same.symm)
    unfold drop
    rw [held]
    exact List.getElem?_modify_ne _ _ apart

/-- A logger with the reader of a configuration says of its own contexts, and of no others, that their calls have
ended. -/
theorem answer_finish_eq_finished_iff (there : f.loggers[logger]? = some l)
    (reader : ∃ r : HttpReader, l.reader = r.toCallReader) (holder : String) (e : CallEnd) :
    (f.finish logger holder e).answer = .finished ↔ f.owner? holder = some logger := by
  unfold owner?
  cases held : f.context? holder with
  | none =>
    rw [finish_of_missing there held]
    exact iff_of_false nofun nofun
  | some c =>
    by_cases own : c.owner = logger
    · rw [finish_of_own there held own]
      unfold ended
      rw [CallLogger.result_complete reader]
      exact iff_of_true rfl (congrArg some own)
    · rw [finish_of_foreign there held own]
      exact iff_of_false nofun fun same => own (Option.some.inj same)

/-- The owner of a context that another logger is asked to end gets back what it holds. -/
theorem owner_takesBack (sound : f.Sound) (there : f.loggers[logger]? = some l)
    (held : f.context? holder = some c) (foreign : c.owner ≠ logger) (e : CallEnd) :
    ∃ m, f.loggers[c.owner]? = some m ∧
      (f.finish logger holder e).fleet.loggers[c.owner]? =
        some { m with pools := m.pools.releaseRecord c.record } ∧
      m.pools.TakesBack (m.pools.releaseRecord c.record) c.record ∧
      (f.finish logger holder e).fleet.context? holder = none := by
  have owner := List.getElem?_eq_getElem (sound.owner_lt held)
  refine ⟨_, owner, ?_, (sound.accounts_owner held owner).takesBack, ?_⟩
  · rw [finish_of_foreign there held foreign]
    unfold drop
    rw [held]
    show (f.loggers.modify c.owner _)[c.owner]? = _
    rw [List.getElem?_modify_eq, owner]
    rfl
  · rw [finish_of_foreign there held foreign, context?_drop, if_pos rfl]

/-- After every run, a logger lets the end of a call through exactly for a context that one of its own starts has
issued; with the reader of a configuration it answers exactly then that the call has ended. Any other end is refused
and is the same as dropping the context: nothing is logged or emitted, no enricher runs, no logger but the one that
issued the context changes, and that one takes back what the context holds. -/
theorem finish_claims_own_contexts (commands : List (Command Setup))
    (few : (run Setup.build {} commands).loggers.length < UInt64.size) {logger : Nat} {l : CallLogger}
    (there : (run Setup.build {} commands).loggers[logger]? = some l) (holder : String) (e : CallEnd) :
    let f := run Setup.build {} commands
    let issuer := issuer? (steps Setup.build {} commands) holder
    ((∃ c, f.claim logger holder = .ok c) ↔ issuer = some logger) ∧
      (∀ c, f.claim logger holder = .ok c →
        f.finish logger holder e = f.ended logger holder (l.complete c.record e)) ∧
      ((∃ r : HttpReader, l.reader = r.toCallReader) →
        ((f.finish logger holder e).answer = .finished ↔ issuer = some logger)) ∧
      (issuer = none → f.Refuses logger holder e none .missingContext) ∧
      (∀ i, issuer = some i → i ≠ logger →
        f.Refuses logger holder e (some i) .foreignContext ∧
          ∃ c m, f.context? holder = some c ∧ f.loggers[i]? = some m ∧
            (f.finish logger holder e).fleet.loggers[i]? =
              some { m with pools := m.pools.releaseRecord c.record } ∧
            m.pools.TakesBack (m.pools.releaseRecord c.record) c.record ∧
            (f.finish logger holder e).fleet.context? holder = none) ∧
      (issuer ≠ some logger → ∀ later : List (Command Setup),
        (f.finish logger holder e).fleet.emitted Setup.build later =
          (f.perform (.drop holder)).fleet.emitted Setup.build later) := by
  intro f issuer
  have sound : f.Sound := sound_run makesIdle_setup commands
  have within : logger < f.loggers.length := (List.getElem?_eq_some_iff.1 there).1
  have issued : f.owner? holder = issuer := owner?_run commands holder
  have missing : issuer = none → f.Refuses logger holder e none .missingContext := fun none =>
    refuses_of_missing there (Option.map_eq_none_iff.1 (issued.trans none)) e
  have foreign : ∀ i, issuer = some i → i ≠ logger →
      f.Refuses logger holder e (some i) .foreignContext ∧
        ∃ c m, f.context? holder = some c ∧ f.loggers[i]? = some m ∧
          (f.finish logger holder e).fleet.loggers[i]? =
            some { m with pools := m.pools.releaseRecord c.record } ∧
          m.pools.TakesBack (m.pools.releaseRecord c.record) c.record ∧
          (f.finish logger holder e).fleet.context? holder = none := by
    intro i some other
    obtain ⟨c, held, rfl⟩ := Option.map_eq_some_iff.1 (issued.trans some)
    obtain ⟨m, owner, after⟩ := owner_takesBack sound there held other e
    exact ⟨refuses_of_foreign there held other e, c, m, held, owner, after⟩
  refine ⟨⟨?_, ?_⟩, ?_, fun reader => ?_, missing, foreign, ?_⟩
  · rintro ⟨c, claimed⟩
    obtain ⟨held, rfl⟩ := (claim_eq_ok_iff few sound within).1 claimed
    rw [← issued]
    unfold owner?
    rw [held]
    rfl
  · intro own
    obtain ⟨c, held, owner⟩ := Option.map_eq_some_iff.1 (issued.trans own)
    exact ⟨c, claim_of_own held owner⟩
  · intro c claimed
    obtain ⟨held, own⟩ := (claim_eq_ok_iff few sound within).1 claimed
    exact finish_of_own there held own e
  · rw [← issued]
    exact answer_finish_eq_finished_iff there reader holder e
  · intro other later
    have dropped : (f.finish logger holder e).fleet = (f.perform (.drop holder)).fleet := by
      cases who : issuer with
      | none => exact (missing who).dropped
      | some i => exact (foreign i who fun same => other (by rw [who, same])).1.dropped
    rw [dropped]

/-- Two loggers; the context that the first one issued is handed to the second, and a holder has none. -/
theorem finish_claims_own_contexts_of_two :
    let request : Request := ⟨"GET", ⟨some "https", some "api.example", "/v1/units", none⟩, [], [], none⟩
    let callEnd : CallEnd := ⟨request, some ⟨200, [], []⟩, none, 1500000, false⟩
    let config : LoggingConfig := { requestHeaders := [⟨"accept", .safe⟩] }
    let setup : Setup := .http ⟨config, .erasing, [StaticProperties.enricher [("team", "edge")]]⟩
    let commands : List (Command Setup) :=
      [.create setup, .create setup, .operate (.start 1 "a" request false),
        .operate (.start 0 "a" request false), .operate (.start 1 "b" request false),
        .operate (.finish 1 "b" callEnd)]
    let f := run Setup.build {} commands
    (∃ c, f.claim 0 "a" = .ok c) ∧ (¬∃ c, f.claim 1 "a" = .ok c) ∧ (f.finish 0 "a" callEnd).answer = .finished ∧
      f.Refuses 1 "a" callEnd (some 0) .foreignContext ∧ f.Refuses 1 "b" callEnd none .missingContext := by
  intro request callEnd config setup commands f
  have few : f.loggers.length < UInt64.size := by decide +kernel
  have first : (f.loggers[0]?).isSome = true := by decide +kernel
  have second : (f.loggers[1]?).isSome = true := by decide +kernel
  have a : issuer? (steps Setup.build {} commands) "a" = some 0 := by decide +kernel
  have b : issuer? (steps Setup.build {} commands) "b" = none := by decide +kernel
  obtain ⟨l, there⟩ := Option.isSome_iff_exists.1 first
  obtain ⟨m, there'⟩ := Option.isSome_iff_exists.1 second
  have reader : ∃ r : HttpReader, l.reader = r.toCallReader := by
    refine exists_reader_run (fun s listed => ?_) (List.mem_of_getElem? there)
    have same : s = setup := by simpa [commands] using listed
    exact ⟨_, same⟩
  obtain ⟨claims, -, finished, -⟩ := finish_claims_own_contexts commands few there "a" callEnd
  obtain ⟨others, -, -, -, foreign, -⟩ := finish_claims_own_contexts commands few there' "a" callEnd
  obtain ⟨-, -, -, missing, -⟩ := finish_claims_own_contexts commands few there' "b" callEnd
  refine ⟨claims.2 a, fun claimed => ?_, (finished reader).2 a, (foreign 0 a (by decide)).1, missing b⟩
  have own := others.1 claimed
  rw [a] at own
  cases own

end Fleet

end CallTelemetry
