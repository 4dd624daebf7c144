import CallTelemetry.Proofs.Logger.FleetAccounts

/-!
# Starts and ends of calls

What a fleet makes of the steps of its loggers: a start puts a new context in the place of the one that its holder
has, unless the logger refuses it (`start_eq_begun`). An end is passed to the logger if the context is the logger's
own (`finish_of_own`), and refused if there is none or it is another logger's. And what each of them leaves of the
contexts of a holder.
-/

namespace CallTelemetry

namespace Fleet

variable {f : Fleet} {logger : Nat} {l : CallLogger} {holder : String} {c : CallContext}

/-- The logger has gone through the start of a call, and its holder has the new context in the place of any
other. -/
def begun (f : Fleet) (logger : Nat) (holder : String) (step : LoggerStep LogRecord) : FleetStep :=
  match step.result with
  | .error e => ⟨f.setPools logger step.pools, .refused e, step.trace⟩
  | .ok record =>
    let f := (f.setPools logger step.pools).drop holder
    ⟨{ f with live := f.live ++ [(holder, ⟨logger, record⟩)] }, .started record, step.trace⟩

theorem start_eq_begun (there : f.loggers[logger]? = some l) (holder : String) (request : Request)
    (cancelled : Bool) :
    f.start logger holder request cancelled = f.begun logger holder (l.start request cancelled) := by
  unfold start
  split
  · rename_i absent
    rw [absent] at there
    cases there
  · rename_i k found
    cases there.symm.trans found
    rfl

/-- The context of a holder is taken, and its logger has gone through the end of the call. -/
def ended (f : Fleet) (logger : Nat) (holder : String) (step : LoggerStep Unit) : FleetStep :=
  ⟨(f.take holder).setPools logger step.pools,
    match step.result with
    | .ok () => .finished
    | .error e => .refused e,
    step.trace⟩

theorem finish_of_missing (there : f.loggers[logger]? = some l) (held : f.context? holder = none)
    (e : CallEnd) : f.finish logger holder e = ⟨f, .refused .missingContext, []⟩ := by
  unfold finish
  rw [there]
  dsimp only
  rw [held]

theorem finish_of_foreign (there : f.loggers[logger]? = some l) (held : f.context? holder = some c)
    (foreign : c.owner ≠ logger) (e : CallEnd) :
    f.finish logger holder e = ⟨f.drop holder, .refused .foreignContext, []⟩ := by
  unfold finish
  rw [there]
  dsimp only
  rw [held]
  exact if_pos foreign

theorem finish_of_own (there : f.loggers[logger]? = some l) (held : f.context? holder = some c)
    (own : c.owner = logger) (e : CallEnd) :
    f.finish logger holder e = f.ended logger holder (l.complete c.record e) := by
  unfold finish ended
  rw [there]
  dsimp only
  rw [held]
  dsimp only
  rw [if_neg (not_not_intro own)]
  cases (l.complete c.record e).result <;> rfl

/-- A holder whose context is taken has none any more, and the others keep theirs. -/
theorem context?_take (f : Fleet) (holder other : String) :
    (f.take holder).context? other = if other = holder then none else f.context? other :=
  lookup_filter_ne f.live holder other

theorem context?_drop (f : Fleet) (holder other : String) :
    (f.drop holder).context? other = if other = holder then none else f.context? other := by
  have same : (f.drop holder).context? other = (f.take holder).context? other := by
    unfold drop
    cases f.context? holder <;> rfl
  rw [same, context?_take]

/-- Dropping a context that is not there changes nothing. -/
theorem drop_eq_self (held : f.context? holder = none) : f.drop holder = f := by
  unfold drop
  rw [take_eq_self held, held]
  rfl

/-- The owner of a context is one of the loggers. -/
theorem Sound.owner_lt (h : f.Sound) (held : f.context? holder = some c) : c.owner < f.loggers.length :=
  h.accounted.owned c ((contexts_perm_take h.distinct held).mem_iff.2 List.mem_cons_self)

/-- The pools of an owner account for the context, next to the calls that remain without it. -/
theorem Sound.accounts_owner (h : f.Sound) (held : f.context? holder = some c) {m : CallLogger}
    (there : f.loggers[c.owner]? = some m) :
    m.pools.Accounts (c.record :: recordsOf c.owner (f.take holder).contexts) := by
  have accounts := (h.accounted.perm (contexts_perm_take h.distinct held)).accounts c.owner m there
  rw [recordsOf_cons_owner] at accounts
  exact accounts

end Fleet

end CallTelemetry
