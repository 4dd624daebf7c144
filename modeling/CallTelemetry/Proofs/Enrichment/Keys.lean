import CallTelemetry.Proofs.Enrichment.FanOut
import CallTelemetry.Proofs.Enrichment.Registry

/-!
# The keys that enrichers write

An enricher that only adds to a bag keeps the keys that are there and puts keys of its own to them, which depend on
the call alone (`Enricher.Writes`). The enrichers of the library are such. The factories for fixed pairs and for call
ids refuse an empty key, and the keys of copied headers end in a header's name, which is not empty. The factory for
the names of a request takes any two keys. So the keys that a configured list leaves are not empty exactly if no entry
of it has an empty key for a name that the request carries (`keys_nonempty_iff`).
-/

namespace CallTelemetry

/-- The enricher keeps the keys of every bag and puts these to them. -/
def Enricher.Writes (e : Enricher) (keys : Request → Option Response → List String) : Prop :=
  ∀ (bag : PropertyBag) (request : Request) (response : Option Response) (key : String),
    key ∈ (e.run bag request response).1.keys ↔ key ∈ bag.keys ∨ key ∈ keys request response

theorem PropertyBag.mem_keys_addAll {bag : PropertyBag} {pairs : List (String × String)} {key : String} :
    key ∈ (bag.addAll pairs).keys ↔ key ∈ bag.keys ∨ key ∈ pairs.map (·.1) := by
  induction pairs generalizing bag with
  | nil => exact (or_iff_left List.not_mem_nil).symm
  | cons p rest ih =>
    show key ∈ ((bag.add p.1 p.2).addAll rest).keys ↔ _
    rw [ih, mem_keys_add, List.map_cons, List.mem_cons, or_assoc]

theorem StaticProperties.writes_enricher (pairs : List (String × String)) :
    (enricher pairs).Writes fun _ _ => pairs.map (·.1) :=
  fun _ _ _ _ => PropertyBag.mem_keys_addAll

namespace HeaderCopy

/-- The keys of the headers that a message has. -/
def keysFor (targets : List Target) (headers : HeaderMap) : List String :=
  (targets.filter fun t => !(headers.valuesOf t.1).isEmpty).map (·.2)

theorem mem_keys_copy {targets : List Target} {headers : HeaderMap} {bag : PropertyBag} {key : String} :
    key ∈ (copy targets headers bag).keys ↔ key ∈ bag.keys ∨ key ∈ keysFor targets headers := by
  induction targets generalizing bag with
  | nil => exact (or_iff_left List.not_mem_nil).symm
  | cons target rest ih =>
    show key ∈ (copy rest headers (copyOne headers bag target)).keys ↔ _
    rw [ih]
    unfold keysFor copyOne
    cases given : headers.valuesOf target.1 with
    | nil => rw [List.filter_cons_of_neg (by simp [given])]
    | cons v vs =>
      rw [List.filter_cons_of_pos (by simp [given]), List.map_cons, List.mem_cons, PropertyBag.mem_keys_add, or_assoc]

theorem writes_enricher (request response : List Target) :
    (enricher request response).Writes fun req resp =>
      keysFor request req.headers ++ resp.elim [] fun r => keysFor response r.headers := by
  intro bag req resp key
  rw [List.mem_append, ← or_assoc, ← mem_keys_copy]
  cases resp with
  | none => exact (or_iff_left List.not_mem_nil).symm
  | some r => exact mem_keys_copy

/-- A key ends in the name of its header. -/
theorem snd_of_mem_targets {keyStart : String} {names : List String} {made : List Target}
    (accepted : targets keyStart names = .ok made) {t : Target} (among : t ∈ made) : t.2 = keyStart ++ t.1.text := by
  obtain ⟨_, -, n, -, rfl⟩ := exists_of_mem_right (targets_eq_ok_iff.1 accepted) among
  rfl

theorem empty_not_mem_keysFor {keyStart : String} {names : List String} {made : List Target}
    (accepted : targets keyStart names = .ok made) (headers : HeaderMap) : "" ∉ keysFor made headers := by
  intro there
  obtain ⟨t, among, empty⟩ := List.mem_map.1 there
  rw [snd_of_mem_targets accepted (List.mem_of_mem_filter among), String.append_eq_empty_iff] at empty
  exact t.1.text_ne_empty empty.2

end HeaderCopy

namespace RequestNames

/-- The keys of the names that a request carries. -/
def Settings.keysFor (s : Settings) (request : Request) : List String :=
  match request.metadata with
  | none => []
  | some m => (m.requestName.map fun _ => s.requestKey).toList ++
      (m.dependencyName.map fun _ => s.dependencyKey).toList

theorem mem_keys_addSome {bag : PropertyBag} {name key : String} {value : Option String} :
    key ∈ (addSome bag name value).keys ↔ key ∈ bag.keys ∨ key ∈ (value.map fun _ => name).toList := by
  cases value with
  | none => exact (or_iff_left List.not_mem_nil).symm
  | some value => exact PropertyBag.mem_keys_add.trans (or_congr_right List.mem_singleton.symm)

theorem writes_enricher (s : Settings) : (enricher s).Writes fun request _ => s.keysFor request := by
  intro bag request response key
  unfold enricher Settings.keysFor
  dsimp only
  cases request.metadata with
  | none => exact (or_iff_left List.not_mem_nil).symm
  | some m =>
    dsimp only
    rw [mem_keys_addSome, mem_keys_addSome, List.mem_append, or_assoc]

end RequestNames

namespace CallId

/-- The key, unless the request has a header that cannot be read. -/
def keysFor (header : HeaderName) (key : String) (request : Request) : List String :=
  match request.headers.first? header with
  | none => [key]
  | some value => (value.visible?.map fun _ => key).toList

theorem writes_enricher (newId : Request → String) (header : HeaderName) (key : String) :
    (enricher newId header key).Writes fun request _ => keysFor header key request := by
  intro bag request response k
  unfold enricher keysFor
  dsimp only
  cases request.headers.first? header with
  | none => exact PropertyBag.mem_keys_add.trans (or_congr_right List.mem_singleton.symm)
  | some value =>
    dsimp only
    cases value.visible? with
    | none => exact (or_iff_left List.not_mem_nil).symm
    | some id => exact PropertyBag.mem_keys_add.trans (or_congr_right List.mem_singleton.symm)

theorem empty_not_mem_keysFor {header : HeaderName} {key : String} (named : key ≠ "") (request : Request) :
    "" ∉ keysFor header key request := by
  unfold keysFor
  split <;> simp [named]

end CallId

/-- The entry has an empty key for a name that the request carries. -/
def EnricherConfig.NamesEmptyKey (entry : EnricherConfig) (request : Request) : Prop :=
  entry.name = RequestNames.factory.name ∧
    ∃ s, RequestNames.settings entry.config = .ok s ∧ "" ∈ s.keysFor request

/-- Of the library's enrichers only the one for the names of a request can write an empty key. -/
theorem exists_writes_of_resolve {newId : Request → String} {entry : EnricherConfig} {e : Enricher}
    (resolved : (builtinRegistry newId).resolve entry = .ok e) :
    ∃ keys, e.Writes keys ∧ ∀ request response, "" ∈ keys request response ↔ entry.NamesEmptyKey request := by
  obtain ⟨f, found, made⟩ := EnricherRegistry.resolve_eq_ok_iff.1 resolved
  obtain ⟨known, named⟩ := mem_builtinFactories_of_get? found
  have without : ∀ {keys : Request → Option Response → List String}, f.name ≠ RequestNames.factory.name →
      (∀ request response, "" ∉ keys request response) →
      ∀ request response, "" ∈ keys request response ↔ entry.NamesEmptyKey request := by
    intro keys other none request response
    exact iff_of_false (none request response) fun empty => other (named.trans empty.1)
  unfold builtinFactories at known
  simp only [List.mem_cons, List.not_mem_nil, or_false] at known
  rcases known with rfl | rfl | rfl | rfl
  · obtain ⟨pairs, -, full, rfl⟩ := StaticProperties.make_eq_ok_iff.1 made
    exact ⟨_, StaticProperties.writes_enricher pairs, without (by decide) fun _ _ => full⟩
  · obtain ⟨s, -, request, forRequest, response, forResponse, rfl⟩ :=
      HeaderCopy.configure_eq_ok_iff.1 (HeaderCopy.make_eq_ok_iff.1 made)
    refine ⟨_, HeaderCopy.writes_enricher request response, without (by decide) fun req resp there => ?_⟩
    rcases List.mem_append.1 there with there | there
    · exact HeaderCopy.empty_not_mem_keysFor forRequest req.headers there
    · cases resp with
      | none => cases there
      | some r => exact HeaderCopy.empty_not_mem_keysFor forResponse r.headers there
  · obtain ⟨s, read, rfl⟩ := RequestNames.make_eq_ok_iff.1 made
    refine ⟨_, RequestNames.writes_enricher s, fun request _ => ?_⟩
    constructor
    · intro there
      exact ⟨named.symm, s, read, there⟩
    · rintro ⟨-, again, reread, there⟩
      rw [read, Except.ok.injEq] at reread
      exact reread ▸ there
  · obtain ⟨s, -, header, -, full, rfl⟩ := CallId.configure_eq_ok_iff.1 (CallId.make_eq_ok_iff.1 made)
    exact ⟨_, CallId.writes_enricher newId header s.key,
      without (show "call-id" ≠ "request-metadata" by decide)
        fun request _ => CallId.empty_not_mem_keysFor full request⟩

namespace EnricherSet

/-- A pass puts the keys that its enrichers write to those of the bag. -/
theorem mem_keys_fanOut {α : Type} {sources : List α} {set : EnricherSet} {key : String} {request : Request}
    {response : Option Response} {writes : α → Prop}
    (each : List.Forall₂ (fun a e => ∀ bag, key ∈ (Enricher.run e bag request response).1.keys ↔
      key ∈ bag.keys ∨ writes a) sources set) (bag : PropertyBag) :
    key ∈ (set.fanOut bag request response).bag.keys ↔ key ∈ bag.keys ∨ ∃ a ∈ sources, writes a := by
  induction each generalizing bag with
  | nil => simp [fanOut]
  | cons first _ ih =>
    rw [fanOut_cons]
    refine (ih _).trans ?_
    show key ∈ (Enricher.run _ bag request response).1.keys ∨ _ ↔ _
    rw [first, or_assoc, List.exists_mem_cons_iff]

/-- The keys that a configured list of the library's enrichers leaves are not empty if the keys before are not and no
entry has an empty key for a name that the request carries, and only then. -/
theorem keys_nonempty_iff {newId : Request → String} {entries : List EnricherConfig} {set : EnricherSet}
    (built : ((builtinRegistry newId).build entries).result = .ok set) {bag : PropertyBag}
    (before : ∀ key ∈ bag.keys, key ≠ "") (request : Request) (response : Option Response) :
    (∀ key ∈ (set.fanOut bag request response).bag.keys, key ≠ "") ↔
      ∀ entry ∈ entries, ¬ entry.NamesEmptyKey request := by
  have each : List.Forall₂ (fun entry e => ∀ bag, "" ∈ (Enricher.run e bag request response).1.keys ↔
      "" ∈ bag.keys ∨ entry.NamesEmptyKey request) entries set := by
    refine (EnricherRegistry.build_eq_ok_iff.1 built).imp fun entry e resolved bag => ?_
    obtain ⟨keys, writes, empty⟩ := exists_writes_of_resolve resolved
    rw [writes, empty]
  have nonempty : ∀ keys : List String, (∀ key ∈ keys, key ≠ "") ↔ "" ∉ keys :=
    fun keys => ⟨fun all there => all "" there rfl, fun none key there empty => none (empty ▸ there)⟩
  rw [nonempty] at before ⊢
  rw [mem_keys_fanOut each, or_iff_right before]
  simp only [not_exists, not_and]

/-- An empty key does no harm as long as the request does not carry the name that it is for. -/
theorem keys_nonempty_of_one_name :
    let entries : List EnricherConfig :=
      [⟨"static-properties", .obj [("properties", .obj [("region", .str "north")])]⟩,
        ⟨"request-metadata", .obj [("request_name_key", .str "")]⟩]
    let request : Request := ⟨"GET", ⟨none, none, "/users", none⟩, [], [],
      some ⟨⟨"/users", [.literal "users"]⟩, none, some "users-api"⟩⟩
    let set : EnricherSet :=
      [StaticProperties.enricher [("region", "north")], RequestNames.enricher ⟨"", "dependency_name"⟩]
    ((builtinRegistry fun _ => "1").build entries).result = .ok set ∧
      (set.fanOut {} request none).bag.keys = ["region", "dependency_name"] ∧
      ∀ key ∈ (set.fanOut {} request none).bag.keys, key ≠ "" := by
  intro entries request set
  have built : ((builtinRegistry fun _ => "1").build entries).result = .ok set := by rfl
  have nothing : ∀ key ∈ ({} : PropertyBag).keys, key ≠ "" := fun _ there => absurd there List.not_mem_nil
  refine ⟨built, by decide +kernel, (keys_nonempty_iff built nothing request none).2 ?_⟩
  rintro entry among ⟨named, s, read, there⟩
  rcases List.mem_cons.1 among with rfl | among
  · exact absurd named (by decide)
  · cases List.mem_singleton.1 among
    cases read
    exact absurd there (by decide)

/-- A list that gives the names of requests no key is built, and a request with a name gets an empty key. -/
theorem empty_key_written :
    let entries : List EnricherConfig := [⟨"request-metadata", .obj [("request_name_key", .str "")]⟩]
    let request : Request := ⟨"GET", ⟨none, none, "/users", none⟩, [], [],
      some ⟨⟨"/users", [.literal "users"]⟩, some "GetUser", none⟩⟩
    ∃ set, ((builtinRegistry fun _ => "1").build entries).result = .ok set ∧
      (set.fanOut {} request none).bag.toList = [("", "GetUser")] :=
  ⟨[RequestNames.enricher ⟨"", "dependency_name"⟩], rfl, rfl⟩

end EnricherSet

end CallTelemetry
