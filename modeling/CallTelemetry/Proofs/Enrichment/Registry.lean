import CallTelemetry.Enrichment.Builtin
import CallTelemetry.Lookup
import CallTelemetry.Proofs.Except

/-!
# What a registry builds

The factory of a name is the one that was registered last under it (`get?_registerAll`). A list of entries is built
exactly when the factory of each entry accepts its configuration, and the enrichers are then those that the factories
make, one for each entry (`build_eq_ok_iff`). For each factory of the library there is a lemma on the configurations
that it accepts and on what it makes of them.
-/

namespace CallTelemetry

/-- A factory makes an enricher if nothing stands against it in the check or in the set-up. -/
theorem EnricherFactory.make_eq_ok_iff {f : EnricherFactory} {config : Json} {e : Enricher} :
    f.make config = .ok e ↔ f.check config = .ok () ∧ f.configure config = .ok e := by
  unfold make
  exact unit_bind_eq_ok_iff

/-- A factory whose check is a set-up with the enricher thrown away makes what it sets up. -/
theorem EnricherFactory.make_eq_ok_iff_of_check {f : EnricherFactory} {config : Json} {e : Enricher}
    (check : f.check config = do let _ ← f.configure config) :
    f.make config = .ok e ↔ f.configure config = .ok e := by
  rw [make_eq_ok_iff, check, bind_eq_ok_iff]
  constructor
  · exact And.right
  · intro configured
    exact ⟨⟨e, configured, rfl⟩, configured⟩

namespace EnricherRegistry

variable {r : EnricherRegistry}

theorem get?_register (r : EnricherRegistry) (f : EnricherFactory) (name : String) :
    (r.register f).get? name = if name = f.name then some f else r.get? name := by
  unfold register
  split
  next known =>
    obtain ⟨old, known⟩ := Option.isSome_iff_exists.1 known
    show (r.factories.map fun p => if p.1 = f.name then (f.name, f) else p).lookup name = _
    rw [lookup_map_replace, show r.factories.lookup f.name = some old from known]
    rfl
  next unknown =>
    rw [Bool.not_eq_true, Option.isSome_eq_false_iff, Option.isNone_iff_eq_none] at unknown
    show (r.factories ++ [(f.name, f)]).lookup name = _
    rw [List.lookup_append, List.lookup_cons]
    by_cases same : name = f.name
    · rw [if_pos same, same, show r.factories.lookup f.name = none from unknown, beq_self_eq_true]
      rfl
    · rw [if_neg same, beq_eq_false_iff_ne.2 same]
      exact Option.or_none

/-- Of several factories with one name the last one counts. -/
theorem get?_registerAll (r : EnricherRegistry) (factories : List EnricherFactory) (name : String) :
    (r.registerAll factories).1.get? name =
      (factories.reverse.find? fun f => f.name = name).or (r.get? name) := by
  show (factories.foldl register r).get? name = _
  induction factories generalizing r with
  | nil => rfl
  | cons f rest ih =>
    rw [List.foldl_cons, ih, get?_register, List.reverse_cons, List.find?_append, Option.or_assoc]
    congr 1
    by_cases same : name = f.name
    · rw [if_pos same, List.find?_cons_of_pos (by simpa using same.symm)]
      rfl
    · rw [if_neg same, List.find?_cons_of_neg (by simpa using Ne.symm same)]
      rfl

theorem resolve_eq_ok_iff {entry : EnricherConfig} {e : Enricher} :
    r.resolve entry = .ok e ↔ ∃ f, r.get? entry.name = some f ∧ f.make entry.config = .ok e := by
  unfold resolve
  cases r.get? entry.name with
  | none => simp
  | some f => cases made : f.make entry.config <;> simp [made]

theorem result_build (r : EnricherRegistry) (entries : List EnricherConfig) :
    (r.build entries).result = entries.mapM r.resolve := by
  induction entries with
  | nil => rfl
  | cons entry rest ih =>
    rw [build, List.mapM_cons]
    cases r.resolve entry with
    | error text => rfl
    | ok e =>
      show (e :: ·) <$> (r.build rest).result = _
      rw [ih]
      rfl

/-- A list is built if each of its entries is. -/
theorem build_eq_ok_iff {entries : List EnricherConfig} {set : EnricherSet} :
    (r.build entries).result = .ok set ↔ List.Forall₂ (fun entry e => r.resolve entry = .ok e) entries set := by
  rw [result_build, mapM_eq_ok_iff]

end EnricherRegistry

theorem mem_builtinFactories_of_get? {newId : Request → String} {name : String} {f : EnricherFactory}
    (found : (builtinRegistry newId).get? name = some f) : f ∈ builtinFactories newId ∧ f.name = name := by
  rw [builtinRegistry, EnricherRegistry.get?_registerAll, show ({} : EnricherRegistry).get? name = none from rfl,
    Option.or_none] at found
  exact ⟨List.mem_reverse.1 (List.mem_of_find?_eq_some found), by simpa using List.find?_some found⟩

theorem StaticProperties.configure_eq_ok_iff {config : Json} {e : Enricher} :
    factory.configure config = .ok e ↔ ∃ pairs, properties config = .ok pairs ∧ e = enricher pairs := by
  unfold factory
  simp only [bind_eq_ok_iff, mapError_eq_ok_iff, pure_eq_ok_iff]

theorem StaticProperties.check_eq_ok_iff {config : Json} :
    factory.check config = .ok () ↔ ∃ pairs, properties config = .ok pairs ∧ "" ∉ pairs.map (·.1) := by
  have empty : ∀ pairs : List (String × String), "" ∈ pairs.map (·.1) ↔ (pairs.any fun p => p.1 = "") = true := by
    simp
  unfold factory
  simp only [bind_eq_ok_iff, mapError_eq_ok_iff, empty]
  refine exists_congr fun pairs => and_congr_right fun _ => ?_
  split
  next there => exact iff_of_false nofun (not_not_intro there)
  next none => exact iff_of_true rfl none

/-- The check and the set-up read the same pairs, and the check lets no empty key through. -/
theorem StaticProperties.make_eq_ok_iff {config : Json} {e : Enricher} :
    factory.make config = .ok e ↔
      ∃ pairs, properties config = .ok pairs ∧ "" ∉ pairs.map (·.1) ∧ e = enricher pairs := by
  rw [EnricherFactory.make_eq_ok_iff, check_eq_ok_iff, configure_eq_ok_iff]
  constructor
  · rintro ⟨⟨pairs, read, named⟩, again, reread, made⟩
    rw [read, Except.ok.injEq] at reread
    exact ⟨pairs, read, named, reread ▸ made⟩
  · rintro ⟨pairs, read, named, made⟩
    exact ⟨⟨pairs, read, named⟩, pairs, read, made⟩

theorem HeaderCopy.targets_eq_ok_iff {keyStart : String} {names : List String} {made : List Target} :
    targets keyStart names = .ok made ↔
      List.Forall₂ (fun name t => ∃ n, HeaderName.ofString? name = some n ∧ t = (n, keyStart ++ n.text)) names made := by
  unfold targets
  rw [mapM_eq_ok_iff]
  constructor
  · refine List.Forall₂.imp fun name t spelled => ?_
    split at spelled
    next n named =>
      cases spelled
      exact ⟨n, named, rfl⟩
    next => cases spelled
  · refine List.Forall₂.imp ?_
    rintro name t ⟨n, named, rfl⟩
    rw [named]

theorem HeaderCopy.configure_eq_ok_iff {config : Json} {e : Enricher} :
    configure config = .ok e ↔ ∃ s, settings config = .ok s ∧
      ∃ request, targets s.keyStart s.request = .ok request ∧
        ∃ response, targets s.keyStart s.response = .ok response ∧ e = enricher request response := by
  unfold configure
  simp only [bind_eq_ok_iff, mapError_eq_ok_iff, pure_eq_ok_iff]

theorem HeaderCopy.make_eq_ok_iff {config : Json} {e : Enricher} :
    factory.make config = .ok e ↔ configure config = .ok e :=
  EnricherFactory.make_eq_ok_iff_of_check rfl

theorem RequestNames.configure_eq_ok_iff {config : Json} {e : Enricher} :
    factory.configure config = .ok e ↔ ∃ s, settings config = .ok s ∧ e = enricher s := by
  unfold factory
  simp only [bind_eq_ok_iff, mapError_eq_ok_iff, pure_eq_ok_iff]

/-- Nothing but the reading of the settings stands against a configuration. -/
theorem RequestNames.make_eq_ok_iff {config : Json} {e : Enricher} :
    factory.make config = .ok e ↔ ∃ s, settings config = .ok s ∧ e = enricher s :=
  (EnricherFactory.make_eq_ok_iff.trans (and_iff_right rfl)).trans configure_eq_ok_iff

theorem CallId.configure_eq_ok_iff {newId : Request → String} {config : Json} {e : Enricher} :
    configure newId config = .ok e ↔ ∃ s, settings config = .ok s ∧
      ∃ header, HeaderName.ofString? s.header = some header ∧ s.key ≠ "" ∧ e = enricher newId header s.key := by
  unfold configure
  simp only [bind_eq_ok_iff, mapError_eq_ok_iff]
  refine exists_congr fun s => and_congr_right fun _ => ?_
  cases HeaderName.ofString? s.header with
  | none => exact iff_of_false nofun (by rintro ⟨header, ⟨⟩, -⟩)
  | some header =>
    simp only [Option.some.injEq, exists_eq_left']
    split
    next empty => exact iff_of_false nofun (fun accepted => accepted.1 empty)
    next named => exact pure_eq_ok_iff.trans (and_iff_right named).symm

theorem CallId.make_eq_ok_iff {newId : Request → String} {config : Json} {e : Enricher} :
    (factory newId).make config = .ok e ↔ configure newId config = .ok e :=
  EnricherFactory.make_eq_ok_iff_of_check rfl

end CallTelemetry
