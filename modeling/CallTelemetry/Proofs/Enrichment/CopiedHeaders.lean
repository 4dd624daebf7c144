import CallTelemetry.Proofs.Capture.HeaderEntries
import CallTelemetry.Proofs.Enrichment.Registry
import CallTelemetry.Proofs.Text.Utf8

/-!
# Copied headers next to captured ones

Two parts of the library put the values of a header into one text with commas. The capture puts a comma before every
value but the first. The copying enricher puts one only where there is some text already, so that its text is that of
the values from the first one on that is not empty (`foldl_join`). The two texts are the same unless there are several
values and the first of them is empty (`joined_seen_eq_joined_iff`). What a run of the enricher leaves under the key of
a header is told by the names of its configuration and by the messages (`get?_run`), and `copies_each_header` compares
it with what is captured.
-/

namespace CallTelemetry

theorem HeaderValue.lossy_eq_empty_iff {v : HeaderValue} : v.lossy = "" ↔ v.bytes = [] := by
  unfold lossy Text.Utf8.decode
  rw [← String.toList_inj, String.toList_ofList]
  exact Text.Utf8.decodeList_eq_nil_iff

/-- The values of a header as one text, if a message has it. -/
def HeaderMap.joined? (map : HeaderMap) (name : String) : Option String :=
  if map.valuesNamed name = [] then none else some (HeaderCapture.joined (map.valuesNamed name))

namespace HeaderCapture

theorem joined_cons_cons (v w : HeaderValue) (rest : List HeaderValue) :
    joined (v :: w :: rest) = v.lossy ++ "," ++ joined (w :: rest) := String.intercalate_cons_cons

/-- A header that needs no redaction is captured with all its values. -/
theorem items_read_of_isSafe {name : String} (valid : HeaderName.isValid name = true) {c : Classification}
    (safe : c.isSafe = true) {capture : HeaderCapture} (made : ofRules [⟨name, c⟩] = .ok capture)
    (redactor : Redactor) (map : HeaderMap) (out : HeaderList) :
    (capture.read redactor map out).items = out.items ++ (map.joined? name).toList.map (name, ·) := by
  have values : HeaderRule.valuesIn ⟨name, c⟩ map = map.valuesNamed name :=
    HeaderRule.valuesIn_eq ⟨name, c⟩ valid map
  have pair : HeaderRule.pair? redactor map ⟨name, c⟩ = (map.joined? name).map (name, ·) := by
    unfold HeaderRule.pair? HeaderMap.joined?
    rw [values]
    cases map.valuesNamed name with
    | nil => rfl
    | cons v rest =>
      dsimp only
      rw [Redactor.apply_of_isSafe safe, String.empty_append, if_neg (List.cons_ne_nil v rest)]
      rfl
  rw [items_read_ofRules made, HeaderRule.pairs, List.filterMap_cons, pair]
  cases map.joined? name <;> rfl

end HeaderCapture

namespace HeaderCopy

open HeaderCapture (joined)

/-- The values from the first one on that is not empty. -/
def seen (values : List HeaderValue) : List HeaderValue := values.dropWhile (·.bytes = [])

theorem seen_cons_of_empty {v : HeaderValue} (empty : v.bytes = []) (rest : List HeaderValue) :
    seen (v :: rest) = seen rest := List.dropWhile_cons_of_pos (by simpa using empty)

theorem seen_cons_of_not_empty {v : HeaderValue} (some : v.bytes ≠ []) (rest : List HeaderValue) :
    seen (v :: rest) = v :: rest := List.dropWhile_cons_of_neg (by simpa using some)

/-- There are several values, and the first of them is empty. -/
def StartsEmpty : List HeaderValue → Prop
  | first :: _ :: _ => first.bytes = []
  | _ => False

theorem foldl_join_of_ne_empty {text : String} (some : text ≠ "") (values : List HeaderValue) :
    values.foldl join text = ",".intercalate (text :: values.map HeaderValue.lossy) := by
  induction values generalizing text with
  | nil => exact String.intercalate_singleton.symm
  | cons v rest ih =>
    have longer : join text v = text ++ ("," ++ v.lossy) := by
      unfold join
      rw [if_neg some, String.append_assoc]
    have still : text ++ ("," ++ v.lossy) ≠ "" := fun empty => some (String.append_eq_empty_iff.1 empty).1
    rw [List.foldl_cons, longer, ih still, String.intercalate_cons_append, List.map_cons,
      String.intercalate_cons_cons, String.intercalate_cons_append]
    simp only [String.append_assoc]

/-- Empty values leave nothing until there is a value that is not empty. -/
theorem foldl_join (values : List HeaderValue) : values.foldl join "" = joined (seen values) := by
  induction values with
  | nil => exact String.intercalate_nil.symm
  | cons v rest ih =>
    have first : join "" v = v.lossy := String.empty_append
    rw [List.foldl_cons, first]
    by_cases empty : v.bytes = []
    · rw [HeaderValue.lossy_eq_empty_iff.2 empty, ih, seen_cons_of_empty empty]
    · rw [seen_cons_of_not_empty empty]
      exact foldl_join_of_ne_empty (mt HeaderValue.lossy_eq_empty_iff.1 empty) rest

theorem length_joined_seen_le (values : List HeaderValue) : (joined (seen values)).length ≤ (joined values).length := by
  induction values with
  | nil => exact Nat.le_refl _
  | cons v rest ih =>
    by_cases empty : v.bytes = []
    · rw [seen_cons_of_empty empty]
      cases rest with
      | nil => exact Nat.zero_le _
      | cons w later =>
        rw [HeaderCapture.joined_cons_cons, String.length_append]
        omega
    · exact Nat.le_of_eq (by rw [seen_cons_of_not_empty empty])

theorem joined_seen_eq_joined_iff {values : List HeaderValue} :
    joined (seen values) = joined values ↔ ¬ StartsEmpty values := by
  cases values with
  | nil => exact iff_of_true rfl id
  | cons v rest =>
    by_cases empty : v.bytes = []
    · rw [seen_cons_of_empty empty]
      cases rest with
      | nil =>
        refine iff_of_true ?_ id
        exact (HeaderValue.lossy_eq_empty_iff.2 empty).symm.trans String.intercalate_singleton.symm
      | cons w later =>
        -- the comma behind the first value makes the text of the capture longer
        refine iff_of_false (fun same => ?_) (not_not_intro empty)
        have shorter := length_joined_seen_le (w :: later)
        rw [same, HeaderCapture.joined_cons_cons, String.length_append, String.length_append] at shorter
        have comma : ",".length = 1 := rfl
        omega
    · rw [seen_cons_of_not_empty empty]
      refine iff_of_true rfl ?_
      cases rest with
      | nil => exact id
      | cons w later => exact empty

/-- The key that a header is copied to. -/
def Settings.key (s : Settings) (name : String) : String := s.keyStart ++ Text.lower name

/-- What is copied of a header, if one of these names asks for it and a message has it. -/
def copied? (names : List String) (map : HeaderMap) (name : String) : Option String :=
  if Text.lower name ∈ names.map Text.lower ∧ map.valuesNamed name ≠ [] then
    some (joined (seen (map.valuesNamed name)))
  else none

theorem copied?_of_mem {names : List String} {name : String} (there : name ∈ names) (map : HeaderMap) :
    copied? names map name =
      if map.valuesNamed name = [] then none else some (joined (seen (map.valuesNamed name))) := by
  have asked : Text.lower name ∈ names.map Text.lower := List.mem_map_of_mem there
  unfold copied?
  simp only [asked, true_and, ne_eq, ite_not]

/-- What is copied of a header is the text of all its values unless the first of several is empty. -/
theorem copied?_eq_joined?_iff {names : List String} {name : String} (there : name ∈ names) (map : HeaderMap) :
    copied? names map name = map.joined? name ↔ ¬ StartsEmpty (map.valuesNamed name) := by
  rw [copied?_of_mem there, HeaderMap.joined?]
  split
  next absent =>
    rw [absent]
    exact iff_of_true rfl id
  next => rw [Option.some.injEq, joined_seen_eq_joined_iff]

theorem copied?_cons (first : String) (names : List String) (map : HeaderMap) (name : String) :
    copied? (first :: names) map name = (copied? names map name).or (copied? [first] map name) := by
  unfold copied?
  by_cases later : Text.lower name ∈ names.map Text.lower
  · by_cases there : map.valuesNamed name = []
    · simp [there]
    · simp [there, later]
  · simp [later]

theorem copyOne_eq (map : HeaderMap) (bag : PropertyBag) (t : Target) :
    copyOne map bag t =
      if map.valuesOf t.1 = [] then bag else bag.add t.2 (joined (seen (map.valuesOf t.1))) := by
  unfold copyOne
  cases map.valuesOf t.1 with
  | nil => rfl
  | cons v rest =>
    dsimp only
    rw [if_neg (List.cons_ne_nil v rest), foldl_join]

theorem get?_copyOne {keyStart first : String} {n : HeaderName} (spelled : HeaderName.ofString? first = some n)
    (map : HeaderMap) (bag : PropertyBag) (name : String) :
    (copyOne map bag (n, keyStart ++ n.text)).get? (keyStart ++ Text.lower name) =
      (copied? [first] map name).or (bag.get? (keyStart ++ Text.lower name)) := by
  have key : keyStart ++ Text.lower name = keyStart ++ n.text ↔ Text.lower name = Text.lower first := by
    rw [HeaderName.text_of_ofString? spelled]
    exact String.append_right_inj keyStart
  rw [copyOne_eq, HeaderMap.valuesOf_eq_valuesNamed spelled]
  by_cases asked : Text.lower name = Text.lower first
  · rw [← HeaderMap.valuesNamed_congr asked]
    by_cases absent : map.valuesNamed name = []
    · have nothing : copied? [first] map name = none := if_neg fun both => both.2 absent
      rw [if_pos absent, nothing]
      rfl
    · have text : copied? [first] map name = some (joined (seen (map.valuesNamed name))) :=
        if_pos ⟨List.mem_singleton.2 asked, absent⟩
      rw [if_neg absent, PropertyBag.get?_add, if_pos (key.2 asked), text]
      rfl
  · have nothing : copied? [first] map name = none := if_neg fun both => asked (List.mem_singleton.1 both.1)
    rw [nothing]
    split
    · rfl
    · rw [PropertyBag.get?_add, if_neg (mt key.1 asked)]
      rfl

/-- Copying the headers of a message leaves its text under the key of each header that it has and that is asked for. -/
theorem get?_copy {keyStart : String} {names : List String} {made : List Target}
    (accepted : targets keyStart names = .ok made) (map : HeaderMap) (bag : PropertyBag) (name : String) :
    (copy made map bag).get? (keyStart ++ Text.lower name) =
      (copied? names map name).or (bag.get? (keyStart ++ Text.lower name)) := by
  have spelled := targets_eq_ok_iff.1 accepted
  clear accepted
  unfold copy
  induction spelled generalizing bag with
  | nil => rfl
  | @cons first target names made here _ ih =>
    obtain ⟨n, spelled, rfl⟩ := here
    rw [List.foldl_cons, ih, get?_copyOne spelled, copied?_cons first names, Option.or_assoc]

/-- A header of the response stands before one of the request with the same key. -/
theorem get?_run {config : Json} {s : Settings} (read : settings config = .ok s) {e : Enricher}
    (made : configure config = .ok e) (bag : PropertyBag) (request : Request) (response : Option Response)
    (name : String) :
    (e.run bag request response).1.get? (s.key name) =
      (response.bind fun r => copied? s.response r.headers name).or
        ((copied? s.request request.headers name).or (bag.get? (s.key name))) := by
  obtain ⟨again, reread, onRequest, forRequest, onResponse, forResponse, rfl⟩ := configure_eq_ok_iff.1 made
  cases read.symm.trans reread
  unfold Settings.key
  rw [← get?_copy forRequest]
  cases response with
  | none => rfl
  | some r => exact get?_copy forResponse r.headers (copy onRequest request.headers bag) name

/-- An accepted configuration has only names of headers. -/
theorem isValid_of_targets {keyStart : String} {names : List String} {made : List Target}
    (accepted : targets keyStart names = .ok made) {name : String} (there : name ∈ names) :
    HeaderName.isValid name = true := by
  obtain ⟨_, -, n, spelled, -⟩ := exists_of_mem_left (targets_eq_ok_iff.1 accepted) there
  exact Option.isSome_iff_exists.2 ⟨n, spelled⟩

theorem isValid_of_configure {config : Json} {s : Settings} (read : settings config = .ok s) {e : Enricher}
    (made : configure config = .ok e) {names : List String} (among : names ∈ [s.request, s.response]) {name : String}
    (there : name ∈ names) : HeaderName.isValid name = true := by
  obtain ⟨again, reread, onRequest, forRequest, onResponse, forResponse, -⟩ := configure_eq_ok_iff.1 made
  cases read.symm.trans reread
  rcases List.mem_cons.1 among with rfl | among
  · exact isValid_of_targets forRequest there
  · cases List.mem_singleton.1 among
    exact isValid_of_targets forResponse there

/-- A run of the enricher writes a property for each header that it is set up for and that the message has. The text
is that of the capture exactly if the values do not start with an empty one that others follow. -/
theorem copies_each_header {config : Json} {s : Settings} (read : settings config = .ok s) {e : Enricher}
    (made : configure config = .ok e) :
    (∀ (bag : PropertyBag) (request : Request) (response : Option Response) (name : String),
      (e.run bag request response).1.get? (s.key name) =
        (response.bind fun r => copied? s.response r.headers name).or
          ((copied? s.request request.headers name).or (bag.get? (s.key name)))) ∧
      ∀ names ∈ [s.request, s.response], ∀ name ∈ names, ∀ map : HeaderMap,
        ((copied? names map name).isSome ↔ map.valuesNamed name ≠ []) ∧
        (copied? names map name = map.joined? name ↔ ¬ StartsEmpty (map.valuesNamed name)) ∧
        ∀ c : Classification, c.isSafe = true → ∃ capture, HeaderCapture.ofRules [⟨name, c⟩] = .ok capture ∧
          ∀ (redactor : Redactor) (out : HeaderList),
            (capture.read redactor map out).items = out.items ++ (map.joined? name).toList.map (name, ·) := by
  refine ⟨get?_run read made, fun names among name there map => ⟨?_, copied?_eq_joined?_iff there map, fun c safe => ?_⟩⟩
  · rw [copied?_of_mem there]
    split
    next absent => exact iff_of_false Bool.false_ne_true (not_not_intro absent)
    next present => exact iff_of_true rfl present
  · have valid := isValid_of_configure read made among there
    have rules : ∀ rule ∈ [(⟨name, c⟩ : HeaderRule)], HeaderName.isValid rule.name = true :=
      List.forall_mem_singleton.2 valid
    obtain ⟨capture, captured⟩ := HeaderCapture.exists_ofRules rules
    exact ⟨capture, captured, fun redactor => HeaderCapture.items_read_of_isSafe valid safe captured redactor map⟩

/-- An empty value in the middle keeps its commas, one header is absent, and one has a single empty value. -/
theorem copies_each_header_of_empty_middle :
    let config : Json := .obj [("prefix", .str "h."), ("request", .arr [.str "X-Tag", .str "absent", .str "note"])]
    let s : Settings := ⟨"h.", ["X-Tag", "absent", "note"], []⟩
    let map : HeaderMap := [(⟨"x-tag", by decide⟩, ⟨[97], by decide⟩), (⟨"note", by decide⟩, ⟨[], by decide⟩),
      (⟨"x-tag", by decide⟩, ⟨[], by decide⟩), (⟨"x-tag", by decide⟩, ⟨[98], by decide⟩)]
    let request : Request := ⟨"GET", ⟨none, none, "/", none⟩, map, [], none⟩
    settings config = .ok s ∧ ∃ e, configure config = .ok e ∧
      (e.run {} request none).1.get? "h.x-tag" = some "a,,b" ∧ (e.run {} request none).1.get? "h.absent" = none ∧
      (e.run {} request none).1.get? "h.note" = some "" ∧
      ∃ capture, HeaderCapture.ofRules [⟨"X-Tag", ⟨"None"⟩⟩] = .ok capture ∧
        (capture.read .erasing map {}).items = [("X-Tag", "a,,b")] := by
  intro config s map request
  have read : settings config = .ok s := by rfl
  have made : ∃ e, configure config = .ok e := ⟨_, rfl⟩
  obtain ⟨e, made⟩ := made
  obtain ⟨runs, texts⟩ := copies_each_header read made
  obtain ⟨-, -, captures⟩ := texts s.request List.mem_cons_self "X-Tag" List.mem_cons_self map
  obtain ⟨capture, captured, adds⟩ := captures ⟨"None"⟩ (by decide +kernel)
  refine ⟨read, e, made, ?_, ?_, ?_, capture, captured, ?_⟩
  · exact (runs {} request none "X-Tag").trans (by decide +kernel)
  · exact (runs {} request none "absent").trans (by decide +kernel)
  · exact (runs {} request none "note").trans (by decide +kernel)
  · exact (adds .erasing {}).trans (by decide +kernel)

/-- Of an empty value and one that follows it only the second is copied, and the capture has a comma before it. -/
theorem empty_start_lost :
    let map : HeaderMap := [(⟨"x-tag", by decide⟩, ⟨[], by decide⟩), (⟨"x-tag", by decide⟩, ⟨[97], by decide⟩)]
    ∃ e capture, configure (.obj [("request", .arr [.str "x-tag"])]) = .ok e ∧
      HeaderCapture.ofRules [⟨"x-tag", .safe⟩] = .ok capture ∧
      (e.run {} ⟨"GET", ⟨none, none, "/", none⟩, map, [], none⟩ none).1.toList = [("x-tag", "a")] ∧
      (capture.read .erasing map {}).items = [("x-tag", ",a")] := by
  refine ⟨_, _, rfl, rfl, ?_, ?_⟩
  · decide +kernel
  · decide +kernel

end HeaderCopy

end CallTelemetry
