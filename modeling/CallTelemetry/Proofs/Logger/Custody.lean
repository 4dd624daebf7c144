import CallTelemetry.Logger.Basic
import CallTelemetry.Proofs.Pool.Balance

/-!
# What the pools of a logger account for

A call in flight is one record that is out, together with the header lists on it; the property bag is out
only while a call is being ended. The pools of a logger account for a list of calls when exactly their
records and header lists are out (`Pools.Accounts`). Starting a call adds it to the list, or nothing if the
reader refuses it (`accounts_start`), and ending one takes it off however it ends (`accounts_complete`).
-/

namespace CallTelemetry

/-- One object for a value that is there. -/
def onLoan {α : Type} (o : Option α) : Nat := o.toList.length

@[simp] theorem onLoan_none {α : Type} : onLoan (none : Option α) = 0 := rfl

@[simp] theorem onLoan_some {α : Type} (a : α) : onLoan (some a) = 1 := rfl

/-- How many header lists a record has on loan. -/
def LogRecord.headerLists (r : LogRecord) : Nat := onLoan r.requestHeaders + onLoan r.responseHeaders

/-- How many header lists the records of some calls have on loan. -/
def totalHeaderLists : List LogRecord → Nat
  | [] => 0
  | r :: calls => r.headerLists + totalHeaderLists calls

theorem totalHeaderLists_perm {calls others : List LogRecord} (same : calls.Perm others) :
    totalHeaderLists calls = totalHeaderLists others := by
  induction same with
  | nil => rfl
  | cons r _ ih => rw [totalHeaderLists, totalHeaderLists, ih]
  | swap r s rest => exact Nat.add_left_comm _ _ _
  | trans _ _ first second => exact first.trans second

theorem Pool.Balanced.releaseOption {α : Type} [Recycle α] {p : Pool α} {out : Nat} {o : Option α}
    (h : p.Balanced (out + onLoan o)) : (p.releaseOption o).Balanced out := by
  cases o with
  | none => exact h
  | some a => exact h.release a

namespace Pools

variable {p : Pools} {records headers bags : Nat}

/-- How many objects of each kind are out. -/
structure Balanced (p : Pools) (records headers bags : Nat) : Prop where
  records : p.records.Balanced records
  headers : p.headers.Balanced headers
  bags : p.bags.Balanced bags

theorem Balanced.takeHeaders (h : p.Balanced records headers bags) (wanted : Bool) :
    (p.takeHeaders wanted).2.Balanced records (headers + onLoan (p.takeHeaders wanted).1) bags := by
  cases wanted with
  | false => exact h
  | true => exact ⟨h.records, h.headers.acquire, h.bags⟩

theorem Balanced.releaseHeaders {o : Option HeaderList} (h : p.Balanced records (headers + onLoan o) bags) :
    (p.releaseHeaders o).Balanced records headers bags :=
  ⟨h.records, h.headers.releaseOption, h.bags⟩

theorem Balanced.releaseBag {o : Option PropertyBag} (h : p.Balanced records headers (bags + onLoan o)) :
    (p.releaseBag o).Balanced records headers bags :=
  ⟨h.records, h.headers, h.bags.releaseOption⟩

/-- A record takes all that it has on loan with it. -/
theorem Balanced.releaseRecord {r : LogRecord}
    (h : p.Balanced (records + 1) (headers + r.headerLists) (bags + onLoan r.enrichment)) :
    (p.releaseRecord r).Balanced records headers bags := by
  have request : p.Balanced (records + 1) (headers + onLoan r.responseHeaders + onLoan r.requestHeaders)
      (bags + onLoan r.enrichment) := by
    rw [Nat.add_assoc, Nat.add_comm (onLoan r.responseHeaders)]
    exact h
  have rest := request.releaseHeaders.releaseHeaders.releaseBag
  exact ⟨rest.records.release r, rest.headers, rest.bags⟩

/-- Exactly the records of the calls and the header lists on them are out. -/
structure Accounts (p : Pools) (calls : List LogRecord) : Prop where
  balanced : p.Balanced calls.length (totalHeaderLists calls) 0
  bare : ∀ r ∈ calls, r.enrichment = none

theorem accounts_ofCapacity (capacity : Nat) : (ofCapacity capacity).Accounts [] :=
  ⟨⟨Pool.balanced_ofCapacity capacity, Pool.balanced_ofCapacity capacity, Pool.balanced_ofCapacity capacity⟩,
    by simp⟩

variable {calls : List LogRecord} {r : LogRecord}

theorem accounts_cons_iff : p.Accounts (r :: calls) ↔
    p.Balanced (calls.length + 1) (totalHeaderLists calls + r.headerLists) 0 ∧
      r.enrichment = none ∧ ∀ r ∈ calls, r.enrichment = none := by
  constructor
  · rintro ⟨balanced, bare⟩
    rw [List.length_cons, totalHeaderLists, Nat.add_comm r.headerLists] at balanced
    exact ⟨balanced, bare r List.mem_cons_self, fun s hs => bare s (List.mem_cons_of_mem r hs)⟩
  · rintro ⟨balanced, bare, others⟩
    refine ⟨?_, ?_⟩
    · rw [List.length_cons, totalHeaderLists, Nat.add_comm r.headerLists]
      exact balanced
    · intro s hs
      rcases List.mem_cons.1 hs with rfl | hs
      · exact bare
      · exact others s hs

theorem Accounts.perm {others : List LogRecord} (h : p.Accounts calls) (same : calls.Perm others) :
    p.Accounts others := by
  refine ⟨?_, fun r hr => h.bare r (same.mem_iff.2 hr)⟩
  rw [← same.length_eq, ← totalHeaderLists_perm same]
  exact h.balanced

/-- Giving the record of a call back settles the call. -/
theorem Accounts.releaseRecord (h : p.Accounts (r :: calls)) : (p.releaseRecord r).Accounts calls := by
  obtain ⟨balanced, bare, others⟩ := accounts_cons_iff.1 h
  refine ⟨Balanced.releaseRecord ?_, others⟩
  rw [bare]
  exact balanced

end Pools

namespace CallLogger

variable {l : CallLogger} {p : Pools} {records headers bags : Nat} {calls : List LogRecord}

theorem balanced_putHeaders {side : BodySide} {r : LogRecord} {b : HeaderList}
    (h : p.Balanced records (headers + r.headerLists + 1) bags) :
    (putHeaders side p r b).2.Balanced records (headers + (putHeaders side p r b).1.headerLists) bags := by
  cases side with
  | request =>
    apply Pools.Balanced.releaseHeaders
    have same : headers + (onLoan (some b) + onLoan r.responseHeaders) + onLoan r.requestHeaders =
        headers + r.headerLists + 1 := by
      rw [onLoan_some, LogRecord.headerLists]
      omega
    show p.Balanced records (headers + (onLoan (some b) + onLoan r.responseHeaders) + _) bags
    rw [same]
    exact h
  | response =>
    apply Pools.Balanced.releaseHeaders
    have same : headers + (onLoan r.requestHeaders + onLoan (some b)) + onLoan r.responseHeaders =
        headers + r.headerLists + 1 := by
      rw [onLoan_some, LogRecord.headerLists]
      omega
    show p.Balanced records (headers + (onLoan r.requestHeaders + onLoan (some b)) + _) bags
    rw [same]
    exact h

theorem enrichment_putHeaders (side : BodySide) (p : Pools) (r : LogRecord) (b : HeaderList) :
    (putHeaders side p r b).1.enrichment = r.enrichment := by
  cases side <;> rfl

/-- A buffer that a reader is handed ends on the record or in its pool, and the list that it takes the place
of goes back. -/
theorem balanced_store {side : BodySide} {r : LogRecord} {buffer : Option HeaderList} {reading : Reading}
    (h : p.Balanced records (headers + r.headerLists + onLoan buffer) bags) :
    (store side p r buffer reading).2.Balanced records
      (headers + (store side p r buffer reading).1.headerLists) bags := by
  cases buffer with
  | none => exact h
  | some b =>
    unfold store
    dsimp only [Option.map_some]
    cases reading.useBuffer b with
    | keep b => exact balanced_putHeaders h
    | keepAcross b => exact balanced_putHeaders h
    | letGo b => exact Pools.Balanced.releaseHeaders h

theorem enrichment_store (side : BodySide) (p : Pools) (r : LogRecord) (buffer : Option HeaderList)
    (reading : Reading) : (store side p r buffer reading).1.enrichment = r.enrichment := by
  cases buffer with
  | none => rfl
  | some b =>
    unfold store
    dsimp only [Option.map_some]
    cases reading.useBuffer b with
    | keep b => exact enrichment_putHeaders ..
    | keepAcross b => exact enrichment_putHeaders ..
    | letGo b => rfl

/-- The reading of a request into a record from the pool. -/
def requestReading (l : CallLogger) (request : Request) (cancelled : Bool) : Reading :=
  l.reader.readRequest l.pools.records.acquire.1 request cancelled

/-- The record of a call and the pools once the request has been read. -/
def requestStored (l : CallLogger) (request : Request) (cancelled : Bool) : LogRecord × Pools :=
  let taken := { l.pools with records := l.pools.records.acquire.2 }.takeHeaders l.logRequestHeaders
  store .request taken.2 l.pools.records.acquire.1 taken.1 (l.requestReading request cancelled)

/-- The record of a call and the pools once the response has been read. -/
def responseStored (l : CallLogger) (record : LogRecord) (e : CallEnd) : LogRecord × Pools :=
  let taken := l.pools.takeHeaders (l.logResponseHeaders && e.response.isSome)
  store .response taken.2 record taken.1 (l.reader.readResponse record e.response e.cancelled)

theorem start_eq (l : CallLogger) (request : Request) (cancelled : Bool) :
    l.start request cancelled =
      match usageError? (l.requestReading request cancelled) with
      | some e => ⟨.error e, (l.requestStored request cancelled).2.releaseRecord
          (l.requestStored request cancelled).1, readingTrace "request" (l.requestReading request cancelled)⟩
      | none => ⟨.ok (l.requestStored request cancelled).1, (l.requestStored request cancelled).2,
          readingTrace "request" (l.requestReading request cancelled) ++
            if l.logRequestStart then
              [TraceEvent.emit ⟨(l.requestStored request cancelled).1, .information, none⟩]
            else []⟩ := rfl

theorem complete_eq (l : CallLogger) (record : LogRecord) (e : CallEnd) :
    l.complete record e =
      let reading := l.reader.readResponse record e.response e.cancelled
      let stored := l.responseStored record e
      let enriched := l.enrich stored.2 stored.1 e
      match usageError? reading with
      | some error => ⟨.error error, stored.2.releaseRecord stored.1, readingTrace "response" reading⟩
      | none => ⟨.ok (), enriched.2.1.releaseRecord (emission enriched.1 e).record,
          readingTrace "response" reading ++ enriched.2.2 ++ [.emit (emission enriched.1 e)]⟩ := rfl

/-- A call that has read its request is one more call. -/
theorem accounts_requestStored (h : l.pools.Accounts calls) (request : Request) (cancelled : Bool) :
    (l.requestStored request cancelled).2.Accounts ((l.requestStored request cancelled).1 :: calls) := by
  have blank := LogRecord.eq_blank_of_fresh h.balanced.records.fresh_acquire
  have drawn : Pools.Balanced { l.pools with records := l.pools.records.acquire.2 } (calls.length + 1)
      (totalHeaderLists calls) 0 :=
    ⟨h.balanced.records.acquire, h.balanced.headers, h.balanced.bags⟩
  refine Pools.accounts_cons_iff.2 ⟨?_, ?_, h.bare⟩
  · apply balanced_store
    rw [blank]
    exact drawn.takeHeaders l.logRequestHeaders
  · unfold requestStored
    rw [enrichment_store, blank]
    rfl

/-- Reading the response may add a header list to the call and changes nothing else that is out. -/
theorem accounts_responseStored {record : LogRecord} (h : l.pools.Accounts (record :: calls)) (e : CallEnd) :
    (l.responseStored record e).2.Accounts ((l.responseStored record e).1 :: calls) := by
  obtain ⟨balanced, bare, others⟩ := Pools.accounts_cons_iff.1 h
  refine Pools.accounts_cons_iff.2 ⟨?_, ?_, others⟩
  · apply balanced_store
    exact balanced.takeHeaders (l.logResponseHeaders && e.response.isSome)
  · unfold responseStored
    rw [enrichment_store]
    exact bare

/-- A start that succeeds adds its record to the calls in flight; one that fails leaves nothing out. -/
theorem accounts_start (h : l.pools.Accounts calls) (request : Request) (cancelled : Bool) :
    match (l.start request cancelled).result with
    | .ok record => (l.start request cancelled).pools.Accounts (record :: calls)
    | .error _ => (l.start request cancelled).pools.Accounts calls := by
  have stored := accounts_requestStored h request cancelled
  rw [start_eq]
  cases usageError? (l.requestReading request cancelled) with
  | some e => exact stored.releaseRecord
  | none => exact stored

/-- The bag of the enrichers is on the record, and nothing else has moved. -/
theorem balanced_enrich {record : LogRecord} (h : p.Balanced records headers 0)
    (bare : record.enrichment = none) (e : CallEnd) :
    (l.enrich p record e).2.1.Balanced records headers (onLoan (l.enrich p record e).1.enrichment) ∧
      (l.enrich p record e).1.headerLists = record.headerLists := by
  unfold enrich
  split
  · rw [bare]
    exact ⟨h, rfl⟩
  · refine ⟨?_, rfl⟩
    apply Pools.Balanced.releaseBag
    rw [bare]
    exact ⟨h.records, h.headers, h.bags.acquire⟩

/-- However a call ends, all that it holds goes back. -/
theorem accounts_complete {record : LogRecord} (h : l.pools.Accounts (record :: calls)) (e : CallEnd) :
    (l.complete record e).pools.Accounts calls := by
  have stored := accounts_responseStored h e
  rw [complete_eq]
  dsimp only
  cases usageError? (l.reader.readResponse record e.response e.cancelled) with
  | some error => exact stored.releaseRecord
  | none =>
    obtain ⟨balanced, bare, others⟩ := Pools.accounts_cons_iff.1 stored
    obtain ⟨enriched, lists⟩ := balanced_enrich (l := l) balanced bare e
    refine ⟨Pools.Balanced.releaseRecord ?_, others⟩
    rw [Nat.zero_add]
    rw [← lists] at enriched
    exact enriched

end CallLogger

end CallTelemetry
