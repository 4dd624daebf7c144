import CallTelemetry.Proofs.Logger.Draws
import CallTelemetry.Proofs.Logger.FleetAccounts
import CallTelemetry.Proofs.Logger.Run

/-!
# No run leaks a pooled object

After every run, the objects that a logger has out are the records of its calls in flight and the header lists
on them, and the counts of its pools say so. How often it has drawn from them follows from how often it was
used (`no_object_leaks`). Both come from invariants that every command keeps: the fleet is sound
(`Sound.after`), and what each logger has drawn is what its use in the past has required (`Tallied.after`).
-/

namespace CallTelemetry

/-- The counts of a pool of which `out` objects are out: none is lost and none has come back twice. -/
structure Pool.Consistent {α : Type} (p : Pool α) (out : Nat) : Prop where
  outstanding : p.outstanding = out
  settled : p.acquired = p.released + out
  within : p.idle.length ≤ p.capacity
  created : p.created = p.idle.length + p.outstanding + p.discarded

theorem Pool.Balanced.consistent {α : Type} [Recycle α] {p : Pool α} {out : Nat} (h : p.Balanced out) :
    p.Consistent out :=
  ⟨h.outstanding_eq, h.settled, h.within, h.created_eq⟩

namespace Fleet

variable {σ : Type} {build : σ → Except CallError CallLogger} {f : Fleet}

/-- New loggers come with pools from which nothing has been drawn. -/
def MakesIdle (build : σ → Except CallError CallLogger) : Prop :=
  ∀ s l, build s = .ok l → ∃ capacity, l.pools = .ofCapacity capacity

theorem Sound.after (h : f.Sound) (idle : MakesIdle build) (c : Command σ) : (f.after build c).Sound := by
  cases c with
  | create setup =>
    cases made : build setup with
    | error e =>
      rw [after_create_of_error f made]
      exact h
    | ok l =>
      rw [after_create_of_ok f made]
      obtain ⟨capacity, new⟩ := idle setup l made
      refine ⟨h.distinct, h.accounted.add ?_⟩
      rw [new]
      exact Pools.accounts_ofCapacity capacity
  | operate op => exact h.perform op

theorem sound_empty : ({} : Fleet).Sound :=
  ⟨List.nodup_nil, by simp [contexts], by simp⟩

theorem sound_run (idle : MakesIdle build) (commands : List (Command σ)) :
    (run build {} commands).Sound :=
  run_induction build (fun _ c h => h.after idle c) commands sound_empty

/-- Whether a command starts a call on a logger. -/
def startsOn (logger : Nat) (s : Fleet × Command σ) : Bool :=
  match s.2 with
  | .operate (.start i _ _ _) => i == logger && decide (i < s.1.loggers.length)
  | _ => false

/-- The end of a call that a command hands to the logger that started it. -/
def endOn? (logger : Nat) (s : Fleet × Command σ) : Option CallEnd :=
  match s.2 with
  | .operate (.finish i holder e) =>
    if i = logger ∧ (s.1.context? holder).any fun c => c.owner = logger then some e else none
  | _ => none

/-- How a logger was used by the commands of the past. -/
def usage (past : List (Fleet × Command σ)) (logger : Nat) : Usage where
  started := past.countP (startsOn logger)
  ended := past.countP fun s => (endOn? logger s).isSome
  answered := past.countP fun s => (endOn? logger s).any (·.response.isSome)

section Usage

variable {past : List (Fleet × Command σ)} {s : Fleet × Command σ} {i : Nat}

theorem usage_append_idle (start : startsOn i s = false) (finish : endOn? i s = none) :
    usage (past ++ [s]) i = usage past i := by
  simp [usage, List.countP_append, start, finish]

theorem usage_append_start (start : startsOn i s = true) (finish : endOn? i s = none) :
    usage (past ++ [s]) i = { usage past i with started := (usage past i).started + 1 } := by
  simp [usage, List.countP_append, start, finish]

theorem usage_append_end {e : CallEnd} (start : startsOn i s = false) (finish : endOn? i s = some e) :
    usage (past ++ [s]) i =
      { usage past i with
        ended := (usage past i).ended + 1
        answered := (usage past i).answered + once e.response.isSome } := by
  simp [usage, List.countP_append, List.countP_singleton, start, finish, once]

end Usage

/-- What each logger has drawn is what its use has required. -/
def AllDrawn (loggers : List CallLogger) (used : Nat → Usage) : Prop :=
  ∀ (i : Nat) (l : CallLogger), loggers[i]? = some l → l.Drawn (used i)

theorem AllDrawn.modify {loggers : List CallLogger} {used used' : Nat → Usage} (h : AllDrawn loggers used)
    {j : Nat} {g : CallLogger → CallLogger}
    (mine : ∀ l, loggers[j]? = some l → l.Drawn (used j) → (g l).Drawn (used' j))
    (rest : ∀ i, i ≠ j → used' i = used i) : AllDrawn (loggers.modify j g) used' := by
  intro i l hl
  rw [List.getElem?_modify] at hl
  obtain ⟨old, there, rfl⟩ := Option.map_eq_some_iff.1 hl
  by_cases e : j = i
  · subst e
    rw [if_pos rfl]
    exact mine old there (h j old there)
  · rw [if_neg e, rest i (Ne.symm e)]
    exact h i old there

theorem AllDrawn.drop {used : Nat → Usage} (h : AllDrawn f.loggers used) (holder : String) :
    AllDrawn (f.drop holder).loggers used := by
  unfold Fleet.drop
  cases f.context? holder with
  | none => exact h
  | some c => exact h.modify (fun _ _ drawn => drawn.release c.record) fun _ _ => rfl

/-- What the loggers of a fleet have drawn is what the commands of the past have required of them. -/
structure Tallied (f : Fleet) (past : List (Fleet × Command σ)) : Prop where
  drawn : AllDrawn f.loggers (usage past)
  unused : ∀ i, f.loggers.length ≤ i → usage past i = {}

variable {past : List (Fleet × Command σ)}

theorem Tallied.start (h : f.Tallied past) (logger : Nat) (holder : String) (request : Request)
    (cancelled : Bool) :
    AllDrawn (f.start logger holder request cancelled).fleet.loggers
      (usage (past ++ [(f, .operate (.start logger holder request cancelled))])) := by
  have rest : ∀ i, i ≠ logger → usage (past ++ [(f, .operate (.start logger holder request cancelled))]) i =
      usage past i := by
    intro i e
    exact usage_append_idle (by simp [startsOn, Ne.symm e]) rfl
  unfold Fleet.start
  split
  · rename_i absent
    intro i l hl
    have present : i ≠ logger := by
      intro e
      rw [e, absent] at hl
      cases hl
    rw [rest i present]
    exact h.drawn i l hl
  · rename_i l there
    have started : usage (past ++ [(f, .operate (.start logger holder request cancelled))]) logger =
        { usage past logger with started := (usage past logger).started + 1 } := by
      have present := (List.getElem?_eq_some_iff.1 there).1
      exact usage_append_start (by simp [startsOn, present]) rfl
    have drawn : AllDrawn (f.setPools logger (l.start request cancelled).pools).loggers
        (usage (past ++ [(f, .operate (.start logger holder request cancelled))])) := by
      refine h.drawn.modify (fun k hk used => ?_) rest
      cases there.symm.trans hk
      rw [started]
      exact used.start request cancelled
    dsimp only
    split
    · exact drawn
    · exact AllDrawn.drop (f := f.setPools logger (l.start request cancelled).pools) drawn holder

theorem Tallied.finish (h : f.Tallied past) (logger : Nat) (holder : String) (e : CallEnd) :
    AllDrawn (f.finish logger holder e).fleet.loggers
      (usage (past ++ [(f, .operate (.finish logger holder e))])) := by
  have idle : ∀ i, ¬(logger = i ∧ (f.context? holder).any fun c => c.owner = i) →
      usage (past ++ [(f, .operate (.finish logger holder e))]) i = usage past i := by
    intro i other
    exact usage_append_idle rfl (if_neg other)
  unfold Fleet.finish
  split
  · rename_i absent
    intro i l hl
    rw [idle i ?_]
    · exact h.drawn i l hl
    · rintro ⟨rfl, -⟩
      rw [absent] at hl
      cases hl
  · rename_i l there
    split
    · rename_i held
      intro i k hk
      rw [idle i (by simp [held])]
      exact h.drawn i k hk
    · rename_i c held
      split
      · rename_i foreign
        have dropped := h.drawn.drop holder
        intro i k hk
        rw [idle i ?_]
        · exact dropped i k hk
        · rintro ⟨rfl, own⟩
          rw [held, Option.any_some, decide_eq_true_eq] at own
          exact foreign own
      · rename_i own
        have owner : c.owner = logger := Decidable.not_not.1 own
        have ended : usage (past ++ [(f, .operate (.finish logger holder e))]) logger =
            { usage past logger with
              ended := (usage past logger).ended + 1
              answered := (usage past logger).answered + once e.response.isSome } :=
          usage_append_end rfl (if_pos ⟨rfl, by simp [held, owner]⟩)
        have drawn : AllDrawn ((f.take holder).setPools logger (l.complete c.record e).pools).loggers
            (usage (past ++ [(f, .operate (.finish logger holder e))])) := by
          refine h.drawn.modify (fun k hk used => ?_) fun i e => idle i fun own => e own.1.symm
          cases there.symm.trans hk
          rw [ended]
          exact used.complete c.record e
        dsimp only
        split
        · exact drawn
        · exact drawn

theorem Tallied.perform (h : f.Tallied past) (op : Operation) :
    AllDrawn (f.perform op).fleet.loggers (usage (past ++ [(f, .operate op)])) := by
  cases op with
  | start logger holder request cancelled => exact h.start logger holder request cancelled
  | finish logger holder e => exact h.finish logger holder e
  | startBlocking logger =>
    intro i l hl
    rw [usage_append_idle rfl rfl]
    unfold Fleet.perform at hl
    dsimp only at hl
    split at hl <;> exact h.drawn i l hl
  | stopBlocking logger holder =>
    intro i l hl
    rw [usage_append_idle rfl rfl]
    unfold Fleet.perform at hl
    dsimp only at hl
    split at hl
    · exact h.drawn.drop holder i l hl
    · exact h.drawn i l hl
  | drop holder =>
    intro i l hl
    rw [usage_append_idle rfl rfl]
    exact h.drawn.drop holder i l hl

/-- A logger that does not exist is not used. -/
theorem usage_append_beyond (sound : f.Sound) (c : Command σ) {i : Nat} (beyond : f.loggers.length ≤ i) :
    usage (past ++ [(f, c)]) i = usage past i := by
  apply usage_append_idle
  · unfold startsOn
    split
    · simp only [Bool.and_eq_false_iff, beq_eq_false_iff_ne, decide_eq_false_iff_not]
      omega
    · rfl
  · unfold endOn?
    split
    · rename_i j holder e _
      refine if_neg ?_
      rintro ⟨-, own⟩
      dsimp only at own
      cases held : f.context? holder with
      | none =>
        rw [held] at own
        cases own
      | some d =>
        rw [held, Option.any_some, decide_eq_true_eq] at own
        have among : d ∈ f.contexts := (contexts_perm_take sound.distinct held).mem_iff.2 List.mem_cons_self
        have := sound.accounted.owned d among
        omega
    · rfl

theorem Tallied.after (h : f.Tallied past) (sound : f.Sound) (idle : MakesIdle build) (c : Command σ) :
    (f.after build c).Tallied (past ++ [(f, c)]) := by
  cases c with
  | create setup =>
    have same : usage (past ++ [(f, .create setup)]) = usage past :=
      funext fun i => usage_append_idle rfl rfl
    cases made : build setup with
    | error e =>
      rw [after_create_of_error f made]
      exact ⟨same ▸ h.drawn, same ▸ h.unused⟩
    | ok l =>
      rw [after_create_of_ok f made]
      obtain ⟨capacity, new⟩ := idle setup l made
      refine ⟨fun i k hk => ?_, fun i beyond => ?_⟩
      · rw [same]
        unfold add at hk
        rw [List.getElem?_append] at hk
        split at hk
        · exact h.drawn i k hk
        · rename_i beyond
          rw [List.getElem?_singleton] at hk
          split at hk
          · cases hk
            rw [h.unused i (Nat.not_lt.1 beyond)]
            exact CallLogger.drawn_of_pools_eq new
          · cases hk
      · rw [same]
        unfold add at beyond
        rw [List.length_append] at beyond
        exact h.unused i (by omega)
  | operate op =>
    refine ⟨h.perform op, fun i beyond => ?_⟩
    have beyond : f.loggers.length ≤ i := length_loggers_perform f op ▸ beyond
    rw [usage_append_beyond sound (.operate op) beyond]
    exact h.unused i beyond

theorem tallied_run (idle : MakesIdle build) (commands : List (Command σ)) :
    (run build {} commands).Tallied (steps build {} commands) := by
  have both := steps_induction build (P := fun f past => f.Sound ∧ f.Tallied past)
    (fun f past c h => ⟨h.1.after idle c, h.2.after h.1 idle c⟩) commands
    ⟨sound_empty, fun i l hl => by simp at hl, fun i _ => rfl⟩
  exact both.2

theorem makesIdle_setup : MakesIdle Setup.build := by
  intro s l made
  cases s with
  | http s =>
    obtain ⟨-, r, -, rfl⟩ := HttpSetup.build_eq_ok_iff.1 made
    exact ⟨_, rfl⟩
  | custom config reader enrichers =>
    cases made
    exact ⟨_, rfl⟩

/-- After every run a logger has out exactly what its calls in flight hold, in the counts of its pools too,
and has drawn exactly what it has been used for. -/
theorem no_object_leaks (commands : List (Command Setup)) {i : Nat} {l : CallLogger}
    (there : (run Setup.build {} commands).loggers[i]? = some l) :
    let calls := recordsOf i (run Setup.build {} commands).contexts
    l.pools.records.Consistent calls.length ∧
      l.pools.headers.Consistent (totalHeaderLists calls) ∧
      l.pools.bags.Consistent 0 ∧
      (calls = [] → l.pools.outstanding = 0) ∧
      l.Drawn (usage (steps Setup.build {} commands) i) := by
  intro calls
  have sound := sound_run makesIdle_setup commands
  have balanced := (sound.accounted.accounts i l there).balanced
  refine ⟨balanced.records.consistent, balanced.headers.consistent, balanced.bags.consistent, ?_,
    (tallied_run makesIdle_setup commands).drawn i l there⟩
  intro none
  have records := balanced.records.outstanding_eq
  have headers := balanced.headers.outstanding_eq
  have bags := balanced.bags.outstanding_eq
  rw [show recordsOf i (run Setup.build {} commands).contexts = [] from none] at records headers
  unfold Pools.outstanding
  rw [records, headers, bags]
  rfl

/-- A call in flight, one that its reader refuses to end, and one that the wrong logger is asked to end. -/
theorem no_object_leaks_three_ends :
    let request : Request := ⟨"GET", ⟨some "https", some "api.example", "/v1/units", none⟩, [], [], none⟩
    let callEnd : CallEnd := ⟨request, some ⟨200, [], []⟩, none, 1500000, false⟩
    let refusing : CallReader :=
      { readRequest := fun r _ _ => { fields := r.toCallFields, useBuffer := .keepAcross }
        readResponse := fun r _ _ =>
          { fields := r.toCallFields, useBuffer := .letGo, error := some .missingContext } }
    let headers : List HeaderRule := [⟨"accept", .safe⟩]
    let commands : List (Command Setup) :=
      [.create (.http ⟨{ requestHeaders := headers, poolCapacity := 1 }, .erasing,
          [⟨"panics", fun bag _ _ => (bag, .panicked none)⟩]⟩),
        .create (.custom { requestHeaders := headers, responseHeaders := headers } refusing []),
        .operate (.start 0 "a" request false), .operate (.start 0 "b" request false),
        .operate (.start 1 "c" request false), .operate (.start 1 "d" request false),
        .operate (.finish 0 "a" callEnd), .operate (.finish 1 "b" callEnd), .operate (.finish 1 "c" callEnd)]
    (∃ l, (run Setup.build {} commands).loggers[0]? = some l ∧ l.pools.outstanding = 0 ∧ l.Drawn ⟨2, 1, 1⟩) ∧
      ∃ l, (run Setup.build {} commands).loggers[1]? = some l ∧ l.pools.records.Consistent 1 ∧
        l.pools.headers.Consistent 1 ∧ l.pools.bags.Consistent 0 ∧ l.Drawn ⟨2, 1, 1⟩ := by
  intro request callEnd refusing headers commands
  have first : ((run Setup.build {} commands).loggers[0]?).isSome = true := by decide +kernel
  have second : ((run Setup.build {} commands).loggers[1]?).isSome = true := by decide +kernel
  constructor
  · obtain ⟨l, there⟩ := Option.isSome_iff_exists.1 first
    obtain ⟨-, -, -, settled, drawn⟩ := no_object_leaks commands there
    have none : recordsOf 0 (run Setup.build {} commands).contexts = [] := by decide +kernel
    have used : usage (steps Setup.build {} commands) 0 = ⟨2, 1, 1⟩ := by decide +kernel
    exact ⟨l, there, settled none, used ▸ drawn⟩
  · obtain ⟨l, there⟩ := Option.isSome_iff_exists.1 second
    obtain ⟨records, lists, bags, -, drawn⟩ := no_object_leaks commands there
    have one : (recordsOf 1 (run Setup.build {} commands).contexts).length = 1 := by decide +kernel
    have list : totalHeaderLists (recordsOf 1 (run Setup.build {} commands).contexts) = 1 := by
      decide +kernel
    have used : usage (steps Setup.build {} commands) 1 = ⟨2, 1, 1⟩ := by decide +kernel
    exact ⟨l, there, one ▸ records, list ▸ lists, bags, used ▸ drawn⟩

end Fleet

end CallTelemetry
