import CallTelemetry.Proofs.Enrichment.Building

/-!
# What a check foretells

A list of entries can be looked over with the checks of their factories alone, before anything is set up. A check
foretells the set-up of a configuration if it does not let it pass in vain (`EnricherFactory.Foretells`). Of the
library's factories those for fixed pairs, copied headers and call ids foretell every set-up. The one for the names of
a request has no check, so it foretells the set-up of those configurations only that it can read
(`RequestNames.GivesKeys`). A list is therefore built exactly if all its entries pass and those for the names of a
request can be read (`checks_foretell_iff`).
-/

namespace CallTelemetry

/-- If the check lets the configuration pass, it can be set up. -/
def EnricherFactory.Foretells (f : EnricherFactory) (config : Json) : Prop :=
  f.check config = .ok () → ∃ e, f.configure config = .ok e

/-- The last factory under the entry's name lets its configuration pass in the check. -/
def EnricherConfig.Passes (entry : EnricherConfig) (factories : List EnricherFactory) : Prop :=
  ∃ f, LastNamed factories entry.name f ∧ f.check entry.config = .ok ()

/-- A check that is a set-up with the enricher thrown away foretells everything. -/
theorem EnricherFactory.foretells_of_check {f : EnricherFactory} {config : Json}
    (check : f.check config = do let _ ← f.configure config) : f.Foretells config := by
  intro passed
  rw [check, bind_eq_ok_iff] at passed
  obtain ⟨e, configured, -⟩ := passed
  exact ⟨e, configured⟩

/-- Check and set-up read the same pairs, and the check asks for more. -/
theorem StaticProperties.foretells (config : Json) : factory.Foretells config := by
  intro passed
  obtain ⟨pairs, read, -⟩ := check_eq_ok_iff.1 passed
  exact ⟨_, configure_eq_ok_iff.2 ⟨pairs, read, rfl⟩⟩

/-- Only a text is read as a text, whatever is made of it. -/
theorem Decoder.exists_string_eq_ok_iff {α : Type} {j : Json} {make : String → α} :
    (∃ a, (do return make (← string j)) = Except.ok a) ↔ ∃ text, j = .str text := by
  rw [exists_bind_eq_ok_iff]
  cases j with
  | str text => exact iff_of_true ⟨text, rfl, make text, rfl⟩ ⟨text, rfl⟩
  | null | bool | int | float | arr | obj =>
    refine iff_of_false ?_ (by rintro ⟨text, ⟨⟩⟩)
    rintro ⟨text, ⟨⟩, -⟩

/-- A record that has a default for each of its fields is read from an array of no more items than it has fields. -/
theorem Decoder.exists_record_arr_iff {α : Type} {name : String} {fields : List String}
    {read : Members → Except DecodeError α} {items : List Json} :
    (∃ a, record name fields 0 read (.arr items) = .ok a) ↔
      items.length ≤ fields.length ∧ ∃ a, read (fields.zip items) = .ok a := by
  unfold record
  simp only [Nat.not_lt_zero, if_false]
  refine exists_bind_eq_ok_iff.trans ?_
  by_cases long : fields.length < items.length
  · simp only [if_pos long]
    refine iff_of_false ?_ (fun both => absurd both.1 (Nat.not_le.2 long))
    rintro ⟨a, -, b, ⟨⟩⟩
  · simp only [if_neg long, Nat.not_lt.1 long, true_and]
    exact exists_congr fun a => and_iff_left ⟨a, rfl⟩

namespace RequestNames

/-- The configuration gives keys as texts, or leaves them out: it is nothing at all, or an object in which the members
for the keys are texts, or an array of no more than the two keys. -/
inductive GivesKeys : Json → Prop
  | nothing : GivesKeys .null
  | members {members : List (String × Json)}
      (texts : ∀ m ∈ members, m.1 = "request_name_key" ∨ m.1 = "dependency_name_key" → ∃ text, m.2 = .str text) :
      GivesKeys (.obj members)
  | items {items : List Json} (few : items.length ≤ 2) (texts : ∀ item ∈ items, ∃ text, item = .str text) :
      GivesKeys (.arr items)

theorem exists_readMember_iff (s : Settings) (m : String × Json) : (∃ s', readMember s m = .ok s') ↔
    (m.1 = "request_name_key" ∨ m.1 = "dependency_name_key" → ∃ text, m.2 = .str text) := by
  unfold readMember
  split
  next key => rw [Decoder.exists_string_eq_ok_iff, imp_iff_right (Or.inl key)]
  next key => rw [Decoder.exists_string_eq_ok_iff, imp_iff_right (Or.inr key)]
  next notFirst notSecond =>
    refine iff_of_true ⟨s, rfl⟩ fun key => ?_
    exact (key.elim notFirst notSecond).elim

theorem exists_settings_arr_iff {items : List Json} : (∃ s, settings (.arr items) = .ok s) ↔
    items.length ≤ 2 ∧ ∀ item ∈ items, ∃ text, item = .str text := by
  unfold settings
  rw [Decoder.exists_record_arr_iff, exists_foldlM_eq_ok_iff exists_readMember_iff]
  refine and_congr_right fun few => ?_
  match items, few with
  | [], _ => simp
  | [first], _ => simp
  | [first, second], _ => simp

/-- The settings are read from a configuration that gives the keys as texts, and from no other. -/
theorem exists_settings_iff {config : Json} : (∃ s, settings config = .ok s) ↔ GivesKeys config := by
  cases config with
  | null => exact iff_of_true ⟨{}, rfl⟩ .nothing
  | obj members =>
    refine (exists_foldlM_eq_ok_iff exists_readMember_iff).trans ⟨.members, ?_⟩
    rintro ⟨⟩
    assumption
  | arr items =>
    rw [exists_settings_arr_iff]
    constructor
    · rintro ⟨few, texts⟩
      exact .items few texts
    · rintro ⟨⟩
      exact ⟨‹_›, ‹_›⟩
  | bool | int | float | str => exact iff_of_false (not_exists_error_eq_ok _) nofun

/-- As every configuration passes, the check foretells what the set-up can read and nothing else. -/
theorem foretells_iff {config : Json} : factory.Foretells config ↔ GivesKeys config := by
  rw [← exists_settings_iff]
  constructor
  · intro foretells
    obtain ⟨e, configured⟩ := foretells rfl
    obtain ⟨s, read, -⟩ := configure_eq_ok_iff.1 configured
    exact ⟨s, read⟩
  · rintro ⟨s, read⟩ -
    exact ⟨_, configure_eq_ok_iff.2 ⟨s, read, rfl⟩⟩

end RequestNames

section

variable {factories : List EnricherFactory} {name : String} {f : EnricherFactory}

theorem LastNamed.mem (last : LastNamed factories name f) : f ∈ factories := by
  obtain ⟨earlier, later, rfl, -⟩ := last
  simp

theorem LastNamed.name_eq (last : LastNamed factories name f) : f.name = name := by
  obtain ⟨-, -, -, named, -⟩ := last
  exact named

end

/-- Only the factory for the names of a request lets configurations pass in vain. -/
theorem foretells_iff_of_builtin {newId : Request → String} {f : EnricherFactory} (known : f ∈ builtinFactories newId)
    (config : Json) : f.Foretells config ↔ (f.name = "request-metadata" → RequestNames.GivesKeys config) := by
  have other : f.name ≠ "request-metadata" → f.Foretells config →
      (f.Foretells config ↔ (f.name = "request-metadata" → RequestNames.GivesKeys config)) :=
    fun apart foretells => iff_of_true foretells fun same => absurd same apart
  unfold builtinFactories at known
  simp only [List.mem_cons, List.not_mem_nil, or_false] at known
  rcases known with rfl | rfl | rfl | rfl
  · exact other (by decide) (StaticProperties.foretells config)
  · exact other (by decide) (EnricherFactory.foretells_of_check rfl)
  · exact RequestNames.foretells_iff.trans (imp_iff_right rfl).symm
  · exact other (show "call-id" ≠ "request-metadata" by decide) (EnricherFactory.foretells_of_check rfl)

/-- Whatever an entry for the names of a request configures, it passes. -/
theorem EnricherConfig.passes_request_names {newId : Request → String} (config : Json) :
    EnricherConfig.Passes ⟨"request-metadata", config⟩ (builtinFactories newId) := by
  have last : ∀ g ∈ [CallId.factory newId], g.name ≠ "request-metadata" := by
    simp [CallId.factory]
  exact ⟨RequestNames.factory, ⟨[StaticProperties.factory, HeaderCopy.factory], _, rfl, rfl, last⟩, rfl⟩

/-- An entry yields an enricher if it passes the check, and not in vain. -/
theorem EnricherConfig.exists_yields_iff {newId : Request → String} {entry : EnricherConfig} :
    (∃ e, entry.Yields (builtinFactories newId) e) ↔ entry.Passes (builtinFactories newId) ∧
      (entry.name = "request-metadata" → RequestNames.GivesKeys entry.config) := by
  have foretells : ∀ {f}, LastNamed (builtinFactories newId) entry.name f → (f.Foretells entry.config ↔
      (entry.name = "request-metadata" → RequestNames.GivesKeys entry.config)) := by
    intro f last
    rw [foretells_iff_of_builtin last.mem, last.name_eq]
  constructor
  · rintro ⟨e, f, last, passed, made⟩
    exact ⟨⟨f, last, passed⟩, (foretells last).1 fun _ => ⟨e, made⟩⟩
  · rintro ⟨⟨f, last, passed⟩, read⟩
    obtain ⟨e, made⟩ := (foretells last).2 read passed
    exact ⟨e, f, last, passed, made⟩

namespace EnricherRegistry

/-- For the library's factories a configuration that passes the check can be set up, unless the factory is that for the
names of a request and the configuration does not give it the keys. And a list of entries is built exactly if all of
them pass and those for the names of a request give the keys. -/
theorem checks_foretell_iff (newId : Request → String) :
    (∀ f ∈ builtinFactories newId, ∀ config, f.check config = .ok () →
      ((∃ e, f.configure config = .ok e) ↔ (f.name = "request-metadata" → RequestNames.GivesKeys config))) ∧
    ∀ entries, (∃ set, ((builtinRegistry newId).build entries).result = .ok set) ↔
      ∀ entry ∈ entries, entry.Passes (builtinFactories newId) ∧
        (entry.name = "request-metadata" → RequestNames.GivesKeys entry.config) := by
  refine ⟨fun f known config passed => ?_, fun entries => ?_⟩
  · rw [← foretells_iff_of_builtin known]
    exact (imp_iff_right passed).symm
  · refine exists_result_build_iff.trans ?_
    simp only [EnricherConfig.exists_yields_iff]

/-- Both keys can be given in an array. An array with a number passes too, but no enricher is set up with it. -/
theorem checks_foretell_iff_of_array :
    let keys : Json := .arr [.str "operation", .str "service"]
    let entries : List EnricherConfig := [⟨"call-id", .null⟩, ⟨"request-metadata", keys⟩]
    (RequestNames.factory.check keys = .ok () ∧ ∃ e, RequestNames.factory.configure keys = .ok e) ∧
      (∃ set, ((builtinRegistry fun _ => "1").build entries).result = .ok set) ∧
      ¬ ∃ set, ((builtinRegistry fun _ => "1").build [⟨"request-metadata", .arr [.int 5]⟩]).result = .ok set := by
  intro keys entries
  obtain ⟨factories, lists⟩ := checks_foretell_iff fun _ => "1"
  have given : RequestNames.GivesKeys keys := .items (by decide) (by simp)
  have known : RequestNames.factory ∈ builtinFactories fun _ => "1" := by simp [builtinFactories]
  have label : EnricherConfig.Passes ⟨"call-id", .null⟩ (builtinFactories fun _ => "1") :=
    ⟨CallId.factory fun _ => "1", ⟨[StaticProperties.factory, HeaderCopy.factory, RequestNames.factory], [], rfl, rfl,
      nofun⟩, rfl⟩
  refine ⟨⟨rfl, (factories _ known keys rfl).2 fun _ => given⟩, (lists entries).2 ?_, fun built => ?_⟩
  · intro entry among
    rcases List.mem_cons.1 among with rfl | among
    · exact ⟨label, fun same => absurd same (by decide)⟩
    · cases List.mem_singleton.1 among
      exact ⟨EnricherConfig.passes_request_names keys, fun _ => given⟩
  · have given := ((lists _).1 built _ List.mem_cons_self).2 rfl
    cases given with
    | items few texts =>
      obtain ⟨text, number⟩ := texts (.int 5) List.mem_cons_self
      cases number

/-- A number is no configuration for the names of a request, but it passes the check, alone and in a list. -/
theorem unreadable_keys_pass :
    let entry : EnricherConfig := ⟨"request-metadata", .int 5⟩
    RequestNames.factory.check entry.config = .ok () ∧ entry.Passes (builtinFactories fun _ => "1") ∧
      (¬ ∃ e, RequestNames.factory.configure entry.config = .ok e) ∧
      ((builtinRegistry fun _ => "1").build [entry]).result = .error
        "enricher 'request-metadata': invalid type: integer `5`, expected struct RequestMetadataConfig" :=
  ⟨rfl, EnricherConfig.passes_request_names (.int 5), not_exists_error_eq_ok _, by rfl⟩

end EnricherRegistry

end CallTelemetry
