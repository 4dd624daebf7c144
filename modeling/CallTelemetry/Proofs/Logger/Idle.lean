import CallTelemetry.Proofs.Logger.Leakage

/-!
# What the pools of loggers keep

A pool keeps an object only if it is worth it when it comes back, and nothing happens to an object while it is idle.
So whatever readers and enrichers have made of header lists and bags, after every run the pools of every logger hold
only such as are worth keeping (`Fleet.slim_run`).
-/

namespace CallTelemetry

/-- All idle header lists and bags are worth keeping. -/
structure Pools.Slim (p : Pools) : Prop where
  headers : p.headers.Slim
  bags : p.bags.Slim

namespace Pools

variable {p : Pools}

theorem slim_ofCapacity (capacity : Nat) : (ofCapacity capacity).Slim := ⟨nofun, nofun⟩

theorem Slim.takeHeaders (h : p.Slim) (wanted : Bool) : (p.takeHeaders wanted).2.Slim := by
  cases wanted with
  | false => exact h
  | true => exact ⟨h.headers.acquire, h.bags⟩

theorem Slim.releaseHeaders (h : p.Slim) (o : Option HeaderList) : (p.releaseHeaders o).Slim :=
  ⟨h.headers.releaseOption o, h.bags⟩

theorem Slim.releaseBag (h : p.Slim) (o : Option PropertyBag) : (p.releaseBag o).Slim :=
  ⟨h.headers, h.bags.releaseOption o⟩

theorem Slim.releaseRecord (h : p.Slim) (r : LogRecord) : (p.releaseRecord r).Slim :=
  have rest := ((h.releaseHeaders r.requestHeaders).releaseHeaders r.responseHeaders).releaseBag r.enrichment
  ⟨rest.headers, rest.bags⟩

end Pools

namespace CallLogger

variable {l : CallLogger} {p : Pools}

theorem slim_putHeaders (h : p.Slim) (side : BodySide) (r : LogRecord) (b : HeaderList) :
    (putHeaders side p r b).2.Slim := by
  cases side <;> exact h.releaseHeaders _

theorem slim_store (h : p.Slim) (side : BodySide) (r : LogRecord) (buffer : Option HeaderList) (reading : Reading) :
    (store side p r buffer reading).2.Slim := by
  unfold store
  dsimp only
  split
  · exact h
  · exact h.releaseHeaders _
  · exact slim_putHeaders h ..
  · exact slim_putHeaders h ..

theorem slim_start (h : l.pools.Slim) (request : Request) (cancelled : Bool) :
    (l.start request cancelled).pools.Slim := by
  have drawn : Pools.Slim { l.pools with records := l.pools.records.acquire.2 } := ⟨h.headers, h.bags⟩
  have stored : (l.requestStored request cancelled).2.Slim := slim_store (drawn.takeHeaders _) ..
  rw [start_eq]
  split
  · exact stored.releaseRecord _
  · exact stored

theorem slim_enrich (h : p.Slim) (record : LogRecord) (e : CallEnd) : (l.enrich p record e).2.1.Slim := by
  have drawn : Pools.Slim { p with bags := p.bags.acquire.2 } := ⟨h.headers, h.bags.acquire⟩
  unfold enrich
  split
  · exact h
  · exact drawn.releaseBag record.enrichment

theorem slim_complete (h : l.pools.Slim) (record : LogRecord) (e : CallEnd) : (l.complete record e).pools.Slim := by
  have stored : (l.responseStored record e).2.Slim := slim_store (h.takeHeaders _) ..
  rw [complete_eq]
  dsimp only
  split
  · exact stored.releaseRecord _
  · exact (slim_enrich stored ..).releaseRecord _

end CallLogger

namespace Fleet

variable {σ : Type} {build : σ → Except CallError CallLogger} {f : Fleet}

/-- The pools of every logger keep only what is worth it. -/
def Slim (f : Fleet) : Prop := ∀ l ∈ f.loggers, l.pools.Slim

theorem Slim.modify (h : f.Slim) {logger : Nat} {pools : CallLogger → Pools}
    (slim : ∀ l, f.loggers[logger]? = some l → (pools l).Slim) {live : List (String × CallContext)} :
    Slim ⟨f.loggers.modify logger fun l => { l with pools := pools l }, live⟩ := by
  intro l among
  obtain ⟨i, found⟩ := List.mem_iff_getElem?.1 among
  rw [List.getElem?_modify] at found
  obtain ⟨old, there, rfl⟩ := Option.map_eq_some_iff.1 found
  split
  next same => exact slim old (same ▸ there)
  next => exact h old (List.mem_of_getElem? there)

theorem Slim.drop (h : f.Slim) (holder : String) : (f.drop holder).Slim := by
  unfold Fleet.drop
  cases f.context? holder with
  | none => exact h
  | some c => exact Slim.modify (f := f) h fun l there => (h l (List.mem_of_getElem? there)).releaseRecord c.record

theorem Slim.start (h : f.Slim) (logger : Nat) (holder : String) (request : Request) (cancelled : Bool) :
    (f.start logger holder request cancelled).fleet.Slim := by
  unfold Fleet.start
  split
  · exact h
  · rename_i l there
    have started := CallLogger.slim_start (h l (List.mem_of_getElem? there)) request cancelled
    have set : (f.setPools logger (l.start request cancelled).pools).Slim := h.modify fun _ _ => started
    dsimp only
    split
    · exact set
    · exact Slim.drop set holder

theorem Slim.finish (h : f.Slim) (logger : Nat) (holder : String) (e : CallEnd) :
    (f.finish logger holder e).fleet.Slim := by
  unfold Fleet.finish
  split
  · exact h
  · rename_i l there
    split
    · exact h
    · rename_i c held
      split
      · exact h.drop holder
      · have ended := CallLogger.slim_complete (h l (List.mem_of_getElem? there)) c.record e
        have set : ((f.take holder).setPools logger (l.complete c.record e).pools).Slim :=
          Slim.modify (f := f.take holder) h fun _ _ => ended
        dsimp only
        split <;> exact set

theorem Slim.perform (h : f.Slim) (op : Operation) : (f.perform op).fleet.Slim := by
  cases op with
  | start logger holder request cancelled => exact h.start logger holder request cancelled
  | finish logger holder e => exact h.finish logger holder e
  | startBlocking logger =>
    unfold Fleet.perform
    dsimp only
    split <;> exact h
  | stopBlocking logger holder =>
    unfold Fleet.perform
    dsimp only
    split
    · exact h.drop holder
    · exact h
  | drop holder => exact h.drop holder

theorem Slim.after (h : f.Slim) (idle : MakesIdle build) (c : Command σ) : (f.after build c).Slim := by
  cases c with
  | create setup =>
    cases made : build setup with
    | error e =>
      rw [after_create_of_error f made]
      exact h
    | ok l =>
      rw [after_create_of_ok f made]
      obtain ⟨capacity, new⟩ := idle setup l made
      intro k among
      rcases List.mem_append.1 among with among | among
      · exact h k among
      · rw [List.mem_singleton.1 among, new]
        exact Pools.slim_ofCapacity capacity
  | operate op => exact h.perform op

theorem slim_run (idle : MakesIdle build) (commands : List (Command σ)) : (run build {} commands).Slim :=
  run_induction build (fun _ c h => h.after idle c) commands nofun

end Fleet

end CallTelemetry
