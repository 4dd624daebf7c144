import CallTelemetry.Logger.Fleet
import CallTelemetry.Proofs.Logger.Custody
import CallTelemetry.Lookup

/-!
# Every object of a fleet is accounted for

A fleet is sound if no two contexts in flight have the same holder and the pools of each logger account for
the calls that it started, which are those of the contexts it owns (`Fleet.Sound`). Loggers share nothing:
an operation changes the pools of the logger that it addresses and of the owner of the context that it ends,
and moves the same context into or out of the list (`Accounted.replace`). Every operation keeps a fleet sound
(`Sound.perform`).
-/

namespace CallTelemetry

/-- The records of the calls that a logger started. -/
def recordsOf (logger : Nat) (contexts : List CallContext) : List LogRecord :=
  (contexts.filter fun c => c.owner = logger).map (·.record)

theorem recordsOf_cons_owner (c : CallContext) (contexts : List CallContext) :
    recordsOf c.owner (c :: contexts) = c.record :: recordsOf c.owner contexts := by
  simp [recordsOf]

theorem recordsOf_cons_of_ne {c : CallContext} {logger : Nat} (h : c.owner ≠ logger)
    (contexts : List CallContext) : recordsOf logger (c :: contexts) = recordsOf logger contexts := by
  simp [recordsOf, h]

/-- The pools of each logger account for the calls that it started. -/
structure Accounted (loggers : List CallLogger) (contexts : List CallContext) : Prop where
  owned : ∀ c ∈ contexts, c.owner < loggers.length
  accounts : ∀ (i : Nat) (l : CallLogger), loggers[i]? = some l → l.pools.Accounts (recordsOf i contexts)

namespace Accounted

variable {loggers : List CallLogger} {contexts others : List CallContext} {c : CallContext}

theorem perm (h : Accounted loggers contexts) (same : contexts.Perm others) : Accounted loggers others := by
  refine ⟨fun c hc => h.owned c (same.mem_iff.2 hc), fun i l hl => ?_⟩
  exact (h.accounts i l hl).perm ((same.filter _).map _)

/-- New pools for one logger, if no other logger gains or loses a call. -/
theorem replace (h : Accounted loggers contexts) {j : Nat} {pools : CallLogger → Pools}
    (owned : ∀ c ∈ others, c.owner < loggers.length)
    (mine : ∀ l, loggers[j]? = some l → (pools l).Accounts (recordsOf j others))
    (rest : ∀ i, i ≠ j → recordsOf i others = recordsOf i contexts) :
    Accounted (loggers.modify j fun l => { l with pools := pools l }) others := by
  refine ⟨?_, fun i l hl => ?_⟩
  · rw [List.length_modify]
    exact owned
  · rw [List.getElem?_modify] at hl
    obtain ⟨old, there, rfl⟩ := Option.map_eq_some_iff.1 hl
    by_cases e : j = i
    · subst e
      rw [if_pos rfl]
      exact mine old there
    · rw [if_neg e, rest i (Ne.symm e)]
      exact h.accounts i old there

/-- A logger that has started one more call. -/
theorem start (h : Accounted loggers contexts) {j : Nat} {l : CallLogger} (there : loggers[j]? = some l)
    {pools : Pools} {record : LogRecord} (accounts : pools.Accounts (record :: recordsOf j contexts)) :
    Accounted (loggers.modify j fun l => { l with pools }) (⟨j, record⟩ :: contexts) := by
  refine h.replace (fun c hc => ?_) (fun _ _ => ?_) (fun i e => ?_)
  · rcases List.mem_cons.1 hc with rfl | hc
    · exact (List.getElem?_eq_some_iff.1 there).1
    · exact h.owned c hc
  · rw [recordsOf_cons_owner ⟨j, record⟩]
    exact accounts
  · exact recordsOf_cons_of_ne (Ne.symm e) contexts

/-- An owner that has settled one of its calls. -/
theorem settle (h : Accounted loggers (c :: contexts)) {pools : CallLogger → Pools}
    (accounts : ∀ l, l.pools.Accounts (c.record :: recordsOf c.owner contexts) →
      (pools l).Accounts (recordsOf c.owner contexts)) :
    Accounted (loggers.modify c.owner fun l => { l with pools := pools l }) contexts := by
  refine h.replace (fun d hd => h.owned d (List.mem_cons_of_mem c hd)) (fun l hl => ?_) (fun i e => ?_)
  · have before := h.accounts c.owner l hl
    rw [recordsOf_cons_owner] at before
    exact accounts l before
  · exact (recordsOf_cons_of_ne (Ne.symm e) contexts).symm

/-- A logger without calls. -/
theorem add (h : Accounted loggers contexts) {l : CallLogger} (idle : l.pools.Accounts []) :
    Accounted (loggers ++ [l]) contexts := by
  refine ⟨fun c hc => ?_, fun i k hk => ?_⟩
  · have := h.owned c hc
    rw [List.length_append]
    omega
  · rw [List.getElem?_append] at hk
    split at hk
    · exact h.accounts i k hk
    · rename_i beyond
      have new : l = k := by
        rw [List.getElem?_singleton] at hk
        split at hk
        · exact Option.some.inj hk
        · cases hk
      subst new
      have none : recordsOf i contexts = [] := by
        rw [recordsOf, List.map_eq_nil_iff, List.filter_eq_nil_iff]
        intro c hc
        have := h.owned c hc
        simp only [decide_eq_true_eq]
        omega
      rw [none]
      exact idle

end Accounted

namespace Fleet

/-- The contexts of the calls in flight. -/
def contexts (f : Fleet) : List CallContext := f.live.map (·.2)

/-- The names of those who hold a context. -/
def holders (f : Fleet) : List String := f.live.map (·.1)

/-- The context of a holder is one of those in flight, next to the ones that remain without it. -/
theorem contexts_perm_take {f : Fleet} (distinct : f.holders.Nodup) {holder : String} {c : CallContext}
    (held : f.context? holder = some c) : f.contexts.Perm (c :: (f.take holder).contexts) :=
  perm_of_lookup distinct held

/-- Nothing is taken from a holder that has no context. -/
theorem take_eq_self {f : Fleet} {holder : String} (held : f.context? holder = none) :
    f.take holder = f := by
  unfold take
  rw [filter_ne_eq_self held]

theorem live_release (f : Fleet) (c : Option CallContext) : (f.release c).live = f.live := by
  cases c <;> rfl

theorem live_drop (f : Fleet) (holder : String) : (f.drop holder).live = (f.take holder).live :=
  live_release _ _

/-- Each context has one holder and each object one owner. -/
structure Sound (f : Fleet) : Prop where
  distinct : f.holders.Nodup
  accounted : Accounted f.loggers f.contexts

variable {f : Fleet}

theorem Sound.nodup_take (h : f.Sound) (holder : String) : (f.take holder).holders.Nodup :=
  h.distinct.sublist (List.Sublist.map _ List.filter_sublist)

/-- Dropping the context of a holder settles its call, whatever other calls there are. -/
theorem accounted_drop (extra : List CallContext) (distinct : f.holders.Nodup)
    (h : Accounted f.loggers (extra ++ f.contexts)) (holder : String) :
    Accounted (f.drop holder).loggers (extra ++ (f.drop holder).contexts) := by
  unfold drop
  cases held : f.context? holder with
  | none =>
    rw [take_eq_self held]
    exact h
  | some c =>
    have apart : (extra ++ f.contexts).Perm (c :: (extra ++ (f.take holder).contexts)) :=
      ((contexts_perm_take distinct held).append_left extra).trans List.perm_middle
    exact (h.perm apart).settle fun l accounts => accounts.releaseRecord

theorem Sound.drop (h : f.Sound) (holder : String) : (f.drop holder).Sound := by
  refine ⟨?_, accounted_drop [] h.distinct h.accounted holder⟩
  unfold holders
  rw [live_drop]
  exact h.nodup_take holder

theorem Sound.start (h : f.Sound) (logger : Nat) (holder : String) (request : Request) (cancelled : Bool) :
    (f.start logger holder request cancelled).fleet.Sound := by
  unfold Fleet.start
  split
  · exact h
  · rename_i l there
    have started := CallLogger.accounts_start (h.accounted.accounts logger l there) request cancelled
    dsimp only
    split
    · rename_i e result
      rw [result] at started
      exact ⟨h.distinct, h.accounted.replace h.accounted.owned (fun _ _ => started) fun _ _ => rfl⟩
    · rename_i record result
      rw [result] at started
      let after := f.setPools logger (l.start request cancelled).pools
      have accounted : Accounted after.loggers ([⟨logger, record⟩] ++ after.contexts) :=
        h.accounted.start there started
      have dropped := accounted_drop [⟨logger, record⟩] (f := after) h.distinct accounted holder
      refine ⟨?_, ?_⟩
      · show (((after.drop holder).live ++ [(holder, CallContext.mk logger record)]).map Prod.fst).Nodup
        rw [live_drop]
        exact nodup_names_replace h.distinct holder _
      · refine dropped.perm ?_
        unfold contexts
        rw [List.map_append]
        exact List.perm_append_comm

theorem Sound.finish (h : f.Sound) (logger : Nat) (holder : String) (e : CallEnd) :
    (f.finish logger holder e).fleet.Sound := by
  unfold Fleet.finish
  split
  · exact h
  · rename_i l there
    split
    · exact h
    · rename_i c held
      split
      · exact h.drop holder
      · rename_i own
        have owner : c.owner = logger := Decidable.not_not.1 own
        subst owner
        have settled : Accounted (f.loggers.modify c.owner fun k =>
            { k with pools := (l.complete c.record e).pools }) (f.take holder).contexts := by
          have taken := h.accounted.perm (contexts_perm_take h.distinct held)
          refine taken.replace (fun d hd => taken.owned d (List.mem_cons_of_mem c hd)) (fun k hk => ?_)
            fun i e => (recordsOf_cons_of_ne (Ne.symm e) _).symm
          have before := taken.accounts c.owner l there
          rw [recordsOf_cons_owner] at before
          exact CallLogger.accounts_complete before e
        have sound : ((f.take holder).setPools c.owner (l.complete c.record e).pools).Sound :=
          ⟨h.nodup_take holder, settled⟩
        dsimp only
        split
        · exact sound
        · exact sound

/-- No operation loses an object or gives one back twice. -/
theorem Sound.perform (h : f.Sound) (op : Operation) : (f.perform op).fleet.Sound := by
  cases op with
  | start logger holder request cancelled => exact h.start logger holder request cancelled
  | finish logger holder e => exact h.finish logger holder e
  | startBlocking logger =>
    unfold Fleet.perform
    dsimp only
    split <;> exact h
  | stopBlocking logger holder =>
    unfold Fleet.perform
    dsimp only
    split
    · exact h.drop holder
    · exact h
  | drop holder => exact h.drop holder

end Fleet

end CallTelemetry
