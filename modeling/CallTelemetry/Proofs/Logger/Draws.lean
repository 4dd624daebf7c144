import CallTelemetry.Proofs.Logger.Custody

/-!
# What a logger draws from its pools

Only a start takes a record, and a release takes nothing, so how often a logger has drawn from each of its
pools tells how often it was used: records for calls started, header lists for the sides that are logged, and
bags for calls ended if there are enrichers (`CallLogger.Drawn`).
-/

namespace CallTelemetry

/-- How many objects of each kind have been handed out so far. -/
structure Acquired where
  records : Nat
  headers : Nat
  bags : Nat
  deriving DecidableEq, Repr

/-- One for a thing that happens. -/
def once (happens : Bool) : Nat := if happens then 1 else 0

theorem Pool.acquired_releaseOption {α : Type} [Recycle α] (p : Pool α) (o : Option α) :
    (p.releaseOption o).acquired = p.acquired := by
  cases o with
  | none => rfl
  | some a => exact acquired_release p a

namespace Pools

def acquired (p : Pools) : Acquired := ⟨p.records.acquired, p.headers.acquired, p.bags.acquired⟩

theorem acquired_releaseHeaders (p : Pools) (o : Option HeaderList) :
    (p.releaseHeaders o).acquired = p.acquired := by
  unfold acquired releaseHeaders
  rw [Pool.acquired_releaseOption]

theorem acquired_releaseBag (p : Pools) (o : Option PropertyBag) : (p.releaseBag o).acquired = p.acquired := by
  unfold acquired releaseBag
  rw [Pool.acquired_releaseOption]

theorem acquired_releaseRecord (p : Pools) (r : LogRecord) : (p.releaseRecord r).acquired = p.acquired := by
  have lists : (((p.releaseHeaders r.requestHeaders).releaseHeaders r.responseHeaders).releaseBag
      r.enrichment).acquired = p.acquired := by
    rw [acquired_releaseBag, acquired_releaseHeaders, acquired_releaseHeaders]
  rw [← lists]
  unfold releaseRecord acquired
  dsimp only
  rw [Pool.acquired_release]

theorem acquired_takeHeaders (p : Pools) (wanted : Bool) :
    (p.takeHeaders wanted).2.acquired = { p.acquired with headers := p.acquired.headers + once wanted } := by
  cases wanted with
  | false => rfl
  | true =>
    unfold takeHeaders acquired
    rw [if_pos rfl, Pool.acquired_acquire]
    rfl

end Pools

namespace CallLogger

variable {l : CallLogger}

theorem acquired_putHeaders (side : BodySide) (p : Pools) (r : LogRecord) (b : HeaderList) :
    (putHeaders side p r b).2.acquired = p.acquired := by
  cases side with
  | request => exact Pools.acquired_releaseHeaders p r.requestHeaders
  | response => exact Pools.acquired_releaseHeaders p r.responseHeaders

theorem acquired_store (side : BodySide) (p : Pools) (r : LogRecord) (buffer : Option HeaderList)
    (reading : Reading) : (store side p r buffer reading).2.acquired = p.acquired := by
  cases buffer with
  | none => rfl
  | some b =>
    unfold store
    dsimp only [Option.map_some]
    cases reading.useBuffer b with
    | keep b => exact acquired_putHeaders ..
    | keepAcross b => exact acquired_putHeaders ..
    | letGo b => exact Pools.acquired_releaseHeaders p (some b)

theorem acquired_start (l : CallLogger) (request : Request) (cancelled : Bool) :
    (l.start request cancelled).pools.acquired =
      { l.pools.acquired with
        records := l.pools.acquired.records + 1
        headers := l.pools.acquired.headers + once l.logRequestHeaders } := by
  have stored : (l.requestStored request cancelled).2.acquired =
      { l.pools.acquired with
        records := l.pools.acquired.records + 1
        headers := l.pools.acquired.headers + once l.logRequestHeaders } := by
    unfold requestStored
    rw [acquired_store, Pools.acquired_takeHeaders]
    unfold Pools.acquired
    dsimp only
    rw [Pool.acquired_acquire]
  rw [start_eq]
  cases usageError? (l.requestReading request cancelled) with
  | some e =>
    rw [← stored]
    exact Pools.acquired_releaseRecord ..
  | none => exact stored

theorem acquired_enrich (l : CallLogger) (p : Pools) (record : LogRecord) (e : CallEnd) :
    (l.enrich p record e).2.1.acquired =
      { p.acquired with bags := p.acquired.bags + once (!l.enrichers.isEmpty) } := by
  unfold enrich
  split
  · rename_i none
    rw [none]
    rfl
  · rename_i some
    rw [Bool.not_eq_true] at some
    dsimp only
    rw [Pools.acquired_releaseBag, some]
    unfold Pools.acquired
    rw [Pool.acquired_acquire]
    rfl

/-- A call that its reader refuses to end draws no bag. -/
theorem acquired_complete (l : CallLogger) (record : LogRecord) (e : CallEnd) :
    (l.complete record e).pools.acquired =
      { l.pools.acquired with
        headers := l.pools.acquired.headers + once (l.logResponseHeaders && e.response.isSome)
        bags := l.pools.acquired.bags + once ((usageError? (l.reader.readResponse record e.response
          e.cancelled)).isNone && !l.enrichers.isEmpty) } := by
  have stored : (l.responseStored record e).2.acquired =
      { l.pools.acquired with
        headers := l.pools.acquired.headers + once (l.logResponseHeaders && e.response.isSome) } := by
    unfold responseStored
    rw [acquired_store, Pools.acquired_takeHeaders]
  rw [complete_eq]
  dsimp only
  cases usageError? (l.reader.readResponse record e.response e.cancelled) with
  | some error =>
    dsimp only
    rw [Pools.acquired_releaseRecord, stored]
    rfl
  | none =>
    dsimp only
    rw [Pools.acquired_releaseRecord, acquired_enrich, stored]
    rfl

/-- The reader of a configuration lets every call end. -/
theorem usageError?_readResponse (r : HttpReader) (record : LogRecord) (response : Option Response)
    (cancelled : Bool) : usageError? (r.toCallReader.readResponse record response cancelled) = none := by
  have passed : (r.readResponse record response cancelled).error = none := by
    unfold HttpReader.readResponse
    cases response with
    | none => rfl
    | some response =>
      dsimp only
      split <;> rfl
  unfold usageError?
  show (r.readResponse record response cancelled).error.filter _ = none
  rw [passed]
  rfl

/-- So no end of a call is refused for what its reader says. -/
theorem result_complete {l : CallLogger} (reader : ∃ r : HttpReader, l.reader = r.toCallReader) (record : LogRecord)
    (e : CallEnd) : (l.complete record e).result = .ok () := by
  obtain ⟨r, reads⟩ := reader
  rw [complete_eq, reads]
  dsimp only
  rw [usageError?_readResponse]

end CallLogger

/-- How often a logger has started a call, ended a call of its own, and ended one that had a response. -/
structure Usage where
  started : Nat := 0
  ended : Nat := 0
  answered : Nat := 0
  deriving DecidableEq, Repr

namespace CallLogger

variable {l : CallLogger} {u : Usage}

/-- What a logger has drawn from its pools is what its use has required. Readers of the user's own may refuse
to end a call, and such an end draws no bag. -/
structure Drawn (l : CallLogger) (u : Usage) : Prop where
  records : l.pools.records.acquired = u.started
  headers : l.pools.headers.acquired =
    (if l.logRequestHeaders then u.started else 0) + if l.logResponseHeaders then u.answered else 0
  bags : (∃ r : HttpReader, l.reader = r.toCallReader) →
    l.pools.bags.acquired = if l.enrichers.isEmpty then 0 else u.ended

/-- A logger that has not been used. -/
theorem drawn_of_pools_eq {capacity : Nat} (new : l.pools = .ofCapacity capacity) : l.Drawn {} := by
  refine ⟨?_, ?_, fun _ => ?_⟩ <;> rw [new]
  · rfl
  · rw [ite_self, ite_self]
    rfl
  · rw [ite_self]
    rfl

theorem Drawn.start (h : l.Drawn u) (request : Request) (cancelled : Bool) :
    Drawn { l with pools := (l.start request cancelled).pools } { u with started := u.started + 1 } := by
  have acquired := acquired_start l request cancelled
  simp only [Pools.acquired, Acquired.mk.injEq] at acquired
  obtain ⟨records, headers, bags⟩ := acquired
  refine ⟨?_, ?_, fun reader => ?_⟩
  · exact records.trans (by rw [h.records])
  · refine headers.trans ?_
    rw [h.headers]
    cases l.logRequestHeaders with
    | false => simp [once]
    | true =>
      simp only [once, if_true]
      omega
  · exact bags.trans (h.bags reader)

theorem Drawn.complete (h : l.Drawn u) (record : LogRecord) (e : CallEnd) :
    Drawn { l with pools := (l.complete record e).pools }
      { u with ended := u.ended + 1, answered := u.answered + once e.response.isSome } := by
  have acquired := acquired_complete l record e
  simp only [Pools.acquired, Acquired.mk.injEq] at acquired
  obtain ⟨records, headers, bags⟩ := acquired
  refine ⟨records.trans h.records, ?_, fun reader => ?_⟩
  · refine headers.trans ?_
    rw [h.headers]
    cases l.logResponseHeaders with
    | false => simp [once]
    | true =>
      simp only [Bool.true_and, if_true]
      omega
  · refine bags.trans ?_
    rw [h.bags reader]
    obtain ⟨r, reads⟩ := reader
    dsimp only at reads
    rw [reads, usageError?_readResponse]
    cases l.enrichers.isEmpty <;> rfl

/-- Giving an object back draws nothing. -/
theorem Drawn.release (h : l.Drawn u) (record : LogRecord) :
    Drawn { l with pools := l.pools.releaseRecord record } u := by
  have acquired := Pools.acquired_releaseRecord l.pools record
  simp only [Pools.acquired, Acquired.mk.injEq] at acquired
  obtain ⟨records, headers, bags⟩ := acquired
  exact ⟨records.trans h.records, headers.trans h.headers, fun reader => bags.trans (h.bags reader)⟩

end CallLogger

end CallTelemetry
