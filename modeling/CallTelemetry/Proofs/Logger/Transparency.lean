import CallTelemetry.Proofs.Logger.Leakage
import CallTelemetry.Proofs.Logger.Service
import Mathlib.Data.List.Forall2

/-!
# Pools are invisible

Loggers that reuse records, header lists and bags emit what they would emit if every call had new ones
(`emitted_eq_unpooled`). A fleet mirrors the loggers and calls of a run without pools if its loggers are set up
alike and each record in flight shows what the call without pools shows (`Fleet.Mirrors`). Every command keeps
this and emits the same on both sides (`Mirrors.after`), but for the enrichment of a record if an enricher sees
the memory of its bag (`Emission.Renders`).
-/

namespace CallTelemetry

theorem HttpSetup.requestOnly_requestSide (s : HttpSetup) (request : Request) (cancelled : Bool) :
    (s.requestSide request cancelled).RequestOnly :=
  ⟨rfl, rfl, rfl, rfl⟩

/-- A context as the run without pools keeps it. -/
def CallContext.unpooled (c : CallContext) : OpenCall := ⟨c.owner, c.record.shown⟩

/-- An emission is one of the run without pools, up to its enrichment unless `sees` holds. -/
structure Emission.Renders (sees : Prop) (e : Emission) (without : ShownEmission) : Prop where
  unenriched : e.shown.unenriched = without.unenriched
  whole : sees → e.shown = without

theorem Emission.renders_of_shown {sees : Prop} {e : Emission} {without : ShownEmission} (same : e.shown = without) :
    e.Renders sees without :=
  ⟨congrArg ShownEmission.unenriched same, fun _ => same⟩

namespace Fleet

/-- Emissions with their loggers, one by one those of the run without pools. -/
abbrev RendersAll (sees : Prop) : List (Nat × Emission) → List (Nat × ShownEmission) → Prop :=
  List.Forall₂ fun p q => p.1 = q.1 ∧ p.2.Renders sees q.2

theorem RendersAll.exists_of_mem {sees : Prop} {emitted : List (Nat × Emission)}
    {without : List (Nat × ShownEmission)} (h : RendersAll sees emitted without) {p : Nat × Emission} (among : p ∈ emitted) :
    ∃ q ∈ without, p.1 = q.1 ∧ p.2.Renders sees q.2 := exists_of_mem_left h among

/-- The loggers are set up like those of the run without pools, and the same calls are in flight. -/
structure Mirrors (f : Fleet) (u : Unpooled) : Prop where
  length : f.loggers.length = u.setups.length
  serves : ∀ (i : Nat) (l : CallLogger) (s : HttpSetup),
    f.loggers[i]? = some l → u.setups[i]? = some s → l.Serves s
  live : u.live = f.live.map fun p => (p.1, p.2.unpooled)
  started : ∀ p ∈ u.live, p.2.started.RequestOnly

/-- A set-up that makes no logger is not kept without pools either. -/
theorem unpooled_after_of_error (u : Unpooled) {s : HttpSetup} {e : CallError} (made : s.build = .error e) :
    u.after (.create s) = u := by
  unfold Unpooled.after
  dsimp only
  cases valid : s.config.validate with
  | error fault => rfl
  | ok _ =>
    obtain ⟨l, made'⟩ := HttpSetup.exists_build (s := s) valid
    rw [made] at made'
    cases made'

theorem unpooled_after_of_ok (u : Unpooled) {s : HttpSetup} {l : CallLogger} (made : s.build = .ok l) :
    u.after (.create s) = { u with setups := u.setups ++ [s] } := by
  unfold Unpooled.after
  dsimp only
  rw [(HttpSetup.build_eq_ok_iff.1 made).1]

namespace Mirrors

variable {f : Fleet} {u : Unpooled} {sees : Prop}

theorem setup_of_logger (h : f.Mirrors u) {i : Nat} {l : CallLogger} (there : f.loggers[i]? = some l) :
    ∃ s, u.setups[i]? = some s ∧ l.Serves s := by
  have within := (List.getElem?_eq_some_iff.1 there).1
  rw [h.length] at within
  exact ⟨_, List.getElem?_eq_getElem within, h.serves i l _ there (List.getElem?_eq_getElem within)⟩

theorem setup_eq_none (h : f.Mirrors u) {i : Nat} (absent : f.loggers[i]? = none) : u.setups[i]? = none := by
  rw [List.getElem?_eq_none_iff, h.length] at absent
  exact List.getElem?_eq_none absent

theorem lookup_live (h : f.Mirrors u) (holder : String) :
    u.live.lookup holder = (f.context? holder).map CallContext.unpooled := by
  rw [h.live]
  exact lookup_map_snd _ _ _

/-- Which pools the loggers have does not matter. -/
theorem modify (h : f.Mirrors u) (j : Nat) (pools : CallLogger → Pools) :
    Mirrors { f with loggers := f.loggers.modify j fun l => { l with pools := pools l } } u := by
  refine ⟨?_, fun i l s hl hs => ?_, h.live, h.started⟩
  · rw [List.length_modify]
    exact h.length
  · rw [List.getElem?_modify] at hl
    obtain ⟨old, there, rfl⟩ := Option.map_eq_some_iff.1 hl
    have serves := h.serves i old s there hs
    split
    · exact serves.withPools (pools old)
    · exact serves

theorem take (h : f.Mirrors u) (holder : String) : (f.take holder).Mirrors (u.take holder) := by
  refine ⟨h.length, h.serves, ?_, fun p hp => h.started p (List.mem_filter.1 hp).1⟩
  unfold Unpooled.take Fleet.take
  dsimp only
  rw [h.live, List.filter_map]
  rfl

theorem drop (h : f.Mirrors u) (holder : String) : (f.drop holder).Mirrors (u.take holder) := by
  unfold Fleet.drop
  cases f.context? holder with
  | none => exact h.take holder
  | some c => exact (h.take holder).modify c.owner _

theorem start (h : f.Mirrors u) (sound : f.Sound) (logger : Nat) (holder : String) (request : Request)
    (cancelled : Bool) :
    (f.start logger holder request cancelled).fleet.Mirrors
        (u.after (.operate (.start logger holder request cancelled))) ∧
      RendersAll sees ((emissions (f.start logger holder request cancelled).trace).map fun e => (logger, e))
        (u.emits (.operate (.start logger holder request cancelled))) := by
  unfold Fleet.start Unpooled.after Unpooled.emits
  dsimp only
  cases there : f.loggers[logger]? with
  | none =>
    rw [h.setup_eq_none there]
    exact ⟨h, .nil⟩
  | some l =>
    obtain ⟨s, setup, serves⟩ := h.setup_of_logger there
    obtain ⟨record, started, shown, emits⟩ :=
      serves.start (sound.accounted.accounts logger l there) request cancelled
    rw [setup]
    dsimp only
    rw [started]
    dsimp only
    refine ⟨?_, ?_⟩
    · have dropped := (h.modify logger fun _ => (l.start request cancelled).pools).drop holder
      refine ⟨dropped.length, dropped.serves, ?_, ?_⟩
      · show (u.take holder).live ++ _ = _
        rw [dropped.live, List.map_append, ← shown]
        rfl
      · intro p hp
        rcases List.mem_append.1 hp with hp | hp
        · exact dropped.started p hp
        · rw [List.mem_singleton.1 hp]
          exact s.requestOnly_requestSide request cancelled
    · rw [emits, ← shown]
      split
      · exact .cons ⟨rfl, Emission.renders_of_shown rfl⟩ .nil
      · exact .nil

theorem finish (h : f.Mirrors u) (sound : f.Sound)
    (reads : sees → ∀ s ∈ u.setups, ∀ e ∈ s.enrichers, e.ReadsEntries) (logger : Nat) (holder : String)
    (e : CallEnd) :
    (f.finish logger holder e).fleet.Mirrors (u.after (.operate (.finish logger holder e))) ∧
      RendersAll sees ((emissions (f.finish logger holder e).trace).map fun e => (logger, e))
        (u.emits (.operate (.finish logger holder e))) := by
  unfold Fleet.finish Unpooled.after Unpooled.emits
  dsimp only
  rw [h.lookup_live holder]
  cases there : f.loggers[logger]? with
  | none =>
    have absent := h.setup_eq_none there
    have beyond : ¬logger < u.setups.length := Nat.not_lt.2 (List.getElem?_eq_none_iff.1 absent)
    rw [absent, if_neg beyond]
    exact ⟨h, .nil⟩
  | some l =>
    obtain ⟨s, setup, serves⟩ := h.setup_of_logger there
    rw [setup, if_pos (List.getElem?_eq_some_iff.1 setup).1]
    dsimp only
    cases held : f.context? holder with
    | none =>
      have taken := h.take holder
      rw [take_eq_self held] at taken
      exact ⟨taken, .nil⟩
    | some c =>
      dsimp only [Option.map_some, CallContext.unpooled]
      by_cases own : c.owner = logger
      · subst own
        have accounts := (sound.accounted.perm (contexts_perm_take sound.distinct held)).accounts c.owner l there
        rw [recordsOf_cons_owner] at accounts
        have started : c.record.shown.RequestOnly := by
          have found := h.lookup_live holder
          rw [held] at found
          obtain ⟨before, after, split, -⟩ := List.lookup_eq_some_iff.1 found
          exact h.started (holder, c.unpooled) (by rw [split]; simp)
        obtain ⟨ended, emitted, emits, unenriched, whole⟩ := serves.complete accounts started e
        rw [if_neg (not_not_intro rfl), if_pos rfl]
        rw [ended]
        refine ⟨(h.take holder).modify c.owner _, ?_⟩
        dsimp only
        rw [emits]
        exact .cons ⟨rfl, unenriched, fun sees => whole (reads sees s (List.mem_of_getElem? setup))⟩ .nil
      · rw [if_pos own, if_neg own]
        exact ⟨h.drop holder, .nil⟩

theorem add (h : f.Mirrors u) {s : HttpSetup} {l : CallLogger} (serves : l.Serves s) :
    (f.add l).Mirrors { u with setups := u.setups ++ [s] } := by
  refine ⟨?_, fun i k t hk ht => ?_, h.live, h.started⟩
  · unfold Fleet.add
    rw [List.length_append, List.length_append, h.length]
    rfl
  · unfold Fleet.add at hk
    rw [List.getElem?_append] at hk ht
    rw [h.length] at hk
    split at hk
    · rename_i within
      rw [if_pos within] at ht
      exact h.serves i k t hk ht
    · rename_i beyond
      rw [if_neg beyond] at ht
      rw [List.getElem?_singleton] at hk ht
      split at hk
      · rename_i new
        rw [if_pos new] at ht
        cases hk
        cases ht
        exact serves
      · cases hk

/-- A command finds the same calls in flight, and emits the same, with pools and without. -/
theorem after (h : f.Mirrors u) (sound : f.Sound)
    (reads : sees → ∀ s ∈ u.setups, ∀ e ∈ s.enrichers, e.ReadsEntries) (c : Command HttpSetup) :
    (f.after HttpSetup.build c).Mirrors (u.after c) ∧ RendersAll sees (f.emits c) (u.emits c) := by
  cases c with
  | create s =>
    refine ⟨?_, .nil⟩
    cases made : s.build with
    | error e =>
      rw [after_create_of_error f made, unpooled_after_of_error u made]
      exact h
    | ok l =>
      rw [after_create_of_ok f made, unpooled_after_of_ok u made]
      exact h.add (CallLogger.serves_of_build made)
  | operate op =>
    have lift : ∀ (logger : Nat) (trace : List TraceEvent),
        ((some logger).toList.flatMap fun i => (emissions trace).map fun e => (i, e)) =
          (emissions trace).map fun e => (logger, e) := by
      intro logger trace
      rw [Option.toList_some, List.flatMap_singleton]
    cases op with
    | start logger holder request cancelled =>
      have step : _ ∧ RendersAll sees _ _ := h.start sound logger holder request cancelled
      rw [← lift] at step
      exact step
    | finish logger holder e =>
      have step := h.finish sound reads logger holder e
      rw [← lift] at step
      exact step
    | startBlocking logger =>
      unfold Fleet.after Fleet.emits Fleet.perform
      dsimp only
      split <;> exact ⟨h, .nil⟩
    | stopBlocking logger holder =>
      unfold Fleet.after Fleet.emits Fleet.perform Unpooled.after
      dsimp only
      rw [h.length]
      split
      · exact ⟨h.drop holder, .nil⟩
      · exact ⟨h, .nil⟩
    | drop holder => exact ⟨h.drop holder, .nil⟩

end Mirrors

theorem makesIdle_httpSetup : MakesIdle HttpSetup.build := by
  intro s l made
  obtain ⟨-, r, -, rfl⟩ := HttpSetup.build_eq_ok_iff.1 made
  exact ⟨_, rfl⟩

theorem mem_setups_after {u : Unpooled} {c : Command HttpSetup} {s : HttpSetup} (among : s ∈ (u.after c).setups) :
    s ∈ u.setups ∨ c = .create s := by
  rw [u.setups_after, List.mem_append, Option.mem_toList] at among
  refine among.imp_right fun accepted => ?_
  unfold Command.accepted? at accepted
  cases c with
  | create t =>
    dsimp only at accepted
    split at accepted
    · cases accepted
      rfl
    · cases accepted
  | operate op => cases accepted

/-- A run emits what it would emit if every call had a record of its own, up to what an enricher makes of the memory
of a bag. -/
theorem rendersAll_emitted {sees : Prop} (commands : List (Command HttpSetup))
    (reads : sees → ∀ s, .create s ∈ commands → ∀ e ∈ s.enrichers, e.ReadsEntries) :
    RendersAll sees (emitted HttpSetup.build {} commands) (Unpooled.emitted {} commands) := by
  have onward : ∀ (f : Fleet) (u : Unpooled), f.Sound → f.Mirrors u →
      (sees → ∀ s ∈ u.setups, ∀ e ∈ s.enrichers, e.ReadsEntries) →
      RendersAll sees (f.emitted HttpSetup.build commands) (u.emitted commands) := by
    induction commands with
    | nil => exact fun _ _ _ _ _ => .nil
    | cons c rest ih =>
      intro f u sound mirrors present
      obtain ⟨later, emits⟩ := mirrors.after sound present c
      have next : sees → ∀ s ∈ (u.after c).setups, ∀ e ∈ s.enrichers, e.ReadsEntries := by
        intro sees s among
        rcases mem_setups_after among with old | rfl
        · exact present sees s old
        · exact reads sees s List.mem_cons_self
      have others := ih (fun sees s hs => reads sees s (List.mem_cons_of_mem c hs)) _ _
        (sound.after makesIdle_httpSetup c) later next
      exact List.rel_append emits others
  exact onward {} {} sound_empty ⟨rfl, fun i l s hl => by simp at hl, rfl, by simp⟩ fun _ => by simp

/-- A run emits what it would emit if every call had a record of its own. -/
theorem emitted_eq_unpooled (commands : List (Command HttpSetup))
    (sees : ∀ s, .create s ∈ commands → ∀ e ∈ s.enrichers, e.ReadsEntries) :
    (emitted HttpSetup.build {} commands).map (fun p => (p.1, p.2.shown)) =
      Unpooled.emitted {} commands := by
  have renders : RendersAll True _ _ := rendersAll_emitted commands fun _ => sees
  rw [← List.forall₂_eq_eq_eq, List.forall₂_map_left_iff]
  exact renders.imp fun p q same => Prod.ext same.1 (same.2.whole trivial)

/-- The second call takes over the record, the header list and the bag of the first one. -/
theorem emitted_eq_unpooled_of_reuse :
    let first : Request := ⟨"POST", ⟨some "https", some "one.example", "/v1/units", none⟩,
      [(HeaderName.contentType, ⟨[97], rfl⟩)], [], none⟩
    let second : Request := ⟨"GET", ⟨some "https", some "two.example", "/v1/users", none⟩, [], [], none⟩
    let config : LoggingConfig :=
      { requestHeaders := [⟨"Content-Type", .safe⟩], pathRedactionMode := .verbatim, poolCapacity := 1 }
    let setup : HttpSetup := ⟨config, .erasing, [StaticProperties.enricher [("team", "edge")]]⟩
    let commands : List (Command HttpSetup) :=
      [.create setup, .operate (.start 0 "a" first false),
        .operate (.finish 0 "a" ⟨first, some ⟨503, [], []⟩, none, 2500000, false⟩),
        .operate (.start 0 "b" second false),
        .operate (.finish 0 "b" ⟨second, none, some "refused", 900000, false⟩)]
    (∀ e ∈ setup.enrichers, e.ReadsEntries) ∧
      (emitted HttpSetup.build {} commands).map (fun p => (p.1, p.2.shown)) =
        [(0, { record := { method := "POST", host := "one.example", path := "/v1/units", statusCode := some 503
                           durationMs := 2, requestHeaders := some [("Content-Type", "a")]
                           enrichment := some [("team", "edge")] }
               severity := .error, failure := none }),
          (0, { record := { method := "GET", host := "two.example", path := "/v1/users"
                            requestHeaders := some [], enrichment := some [("team", "edge")] }
                severity := .error, failure := some "refused" })] := by
  intro first second config setup commands
  have reads : ∀ e ∈ setup.enrichers, e.ReadsEntries := by
    intro e he
    rw [List.mem_singleton.1 he]
    exact StaticProperties.readsEntries_enricher _
  refine ⟨reads, (emitted_eq_unpooled commands ?_).trans (by decide +kernel)⟩
  intro s hs
  simp only [commands, List.mem_cons, Command.create.injEq, reduceCtorEq, List.not_mem_nil, or_false] at hs
  rw [hs]
  exact reads

end Fleet

end CallTelemetry
