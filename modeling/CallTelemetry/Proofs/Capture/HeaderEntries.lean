import CallTelemetry.Proofs.Capture.HeaderRules

/-!
# Entries of captured headers

A rule asks for a header by its name in any letter case, and what it gets is told by the fields of the message alone:
whether one has the name (`HeaderRule.has`), and all their values in one text (`HeaderRule.raw`). Reading a message
adds one entry for each rule whose header is there, in the order of the rules (`items_read_eq`). A valid configuration
has no two rules for one header, so an entry is found again under the name of its rule in any letter case
(`findHeader?_entries`).
-/

namespace CallTelemetry

namespace HeaderName

/-- A header name is in small letters. -/
theorem lower_text (n : HeaderName) : Text.lower n.text = n.text := by
  have all := n.canonical
  unfold isCanonical at all
  simp only [Bool.and_eq_true, List.all_eq_true, Bool.not_eq_true'] at all
  have small : ∀ c ∈ n.text.toList, c.toLower = id c := by
    intro c there
    exact dif_neg (of_decide_eq_false (all.2 c there).2)
  unfold Text.lower
  rw [List.map_congr_left small, List.map_id, String.ofList_toList]

theorem eq_iff_text {a b : HeaderName} : a = b ↔ a.text = b.text := by
  cases a
  cases b
  simp

/-- A field has the name that a text spells if it has the text in some letter case. -/
theorem eq_iff_eqIgnoreCase {s : String} {n : HeaderName} (spelled : ofString? s = some n) (m : HeaderName) :
    m = n ↔ Text.eqIgnoreCase m.text s = true := by
  rw [Text.eqIgnoreCase_iff, lower_text, eq_iff_text, text_of_ofString? spelled]

end HeaderName

/-- The values of the header that a text names in some letter case, in the order of their arrival. -/
def HeaderMap.valuesNamed (map : HeaderMap) (name : String) : List HeaderValue :=
  (map.filter fun f => Text.eqIgnoreCase f.1.text name).map (·.2)

theorem HeaderMap.valuesOf_eq_valuesNamed {name : String} {n : HeaderName}
    (spelled : HeaderName.ofString? name = some n) (map : HeaderMap) : map.valuesOf n = map.valuesNamed name := by
  unfold valuesOf valuesNamed
  congr 1
  refine List.filter_congr fun f _ => ?_
  rw [Bool.eq_iff_iff, decide_eq_true_eq]
  exact HeaderName.eq_iff_eqIgnoreCase spelled f.1

/-- The letter case of a name does not matter. -/
theorem HeaderMap.valuesNamed_congr {a b : String} (same : Text.lower a = Text.lower b) (map : HeaderMap) :
    map.valuesNamed a = map.valuesNamed b := by
  unfold valuesNamed
  congr 1
  refine List.filter_congr fun f _ => ?_
  rw [Bool.eq_iff_iff, Text.eqIgnoreCase_iff, Text.eqIgnoreCase_iff, same]

namespace HeaderRule

variable {rule : HeaderRule} {redactor : Redactor} {map : HeaderMap}

/-- A message has the header of a rule. -/
def has (rule : HeaderRule) (map : HeaderMap) : Bool := map.any fun f => Text.eqIgnoreCase f.1.text rule.name

/-- All values of the header of a rule, in the order of their arrival, with commas between them. -/
def raw (rule : HeaderRule) (map : HeaderMap) : String :=
  ",".intercalate ((map.valuesNamed rule.name).map HeaderValue.lossy)

/-- What is logged of the values. -/
def logged (redactor : Redactor) (map : HeaderMap) (rule : HeaderRule) : String :=
  if Text.lower rule.classification.label = "none" then rule.raw map
  else redactor.redactInto rule.classification (rule.raw map) ""

/-- The entries of the rules whose headers a message has. -/
def entries (redactor : Redactor) (rules : List HeaderRule) (map : HeaderMap) : List (String × String) :=
  (rules.filter (·.has map)).map fun rule => (rule.name, rule.logged redactor map)

theorem valuesIn_eq (rule : HeaderRule) (valid : HeaderName.isValid rule.name = true) (map : HeaderMap) :
    rule.valuesIn map = map.valuesNamed rule.name := by
  obtain ⟨n, spelled⟩ := Option.isSome_iff_exists.1 valid
  unfold valuesIn
  rw [spelled]
  exact HeaderMap.valuesOf_eq_valuesNamed spelled map

theorem has_eq_false_iff : rule.has map = false ↔ map.valuesNamed rule.name = [] := by
  unfold has HeaderMap.valuesNamed
  rw [List.any_eq_false, List.map_eq_nil_iff, List.filter_eq_nil_iff]

theorem pair?_eq (valid : HeaderName.isValid rule.name = true) (redactor : Redactor) (map : HeaderMap) :
    rule.pair? redactor map = if rule.has map then some (rule.name, rule.logged redactor map) else none := by
  have shown : redactor.apply rule.classification (rule.raw map) "" = rule.logged redactor map := by
    unfold Redactor.apply Classification.isSafe logged
    simp only [Text.eqIgnoreCase_iff, show Text.lower "none" = "none" by decide, String.empty_append]
  rw [← shown]
  unfold pair? raw
  rw [valuesIn_eq rule valid]
  cases values : map.valuesNamed rule.name with
  | nil => rw [has_eq_false_iff.2 values, if_neg Bool.false_ne_true]
  | cons v vs =>
    have has : rule.has map = true := by
      rw [← Bool.not_eq_false, has_eq_false_iff, values]
      exact List.cons_ne_nil v vs
    rw [if_pos has]
    rfl

theorem pairs_eq_entries {rules : List HeaderRule} (valid : ∀ rule ∈ rules, HeaderName.isValid rule.name = true)
    (redactor : Redactor) (map : HeaderMap) : pairs redactor rules map = entries redactor rules map := by
  unfold pairs entries
  induction rules with
  | nil => rfl
  | cons rule rest ih =>
    have later := ih fun r there => valid r (List.mem_cons_of_mem rule there)
    rw [List.filterMap_cons, pair?_eq (valid rule List.mem_cons_self)]
    cases has : rule.has map with
    | true => simp [has, later]
    | false => simp [has, later]

theorem findHeader?_cons (p : String × String) (rest : List (String × String)) (name : String) :
    findHeader? (p :: rest) name = if Text.eqIgnoreCase p.1 name then some p.2 else findHeader? rest name := by
  unfold findHeader?
  rw [List.find?_cons]
  cases Text.eqIgnoreCase p.1 name <;> rfl

theorem findHeader?_entries_of_not_mem {rules : List HeaderRule} {name : String}
    (absent : Text.lower name ∉ rules.map fun rule => Text.lower rule.name) (redactor : Redactor) (map : HeaderMap) :
    findHeader? (entries redactor rules map) name = none := by
  unfold findHeader?
  rw [Option.map_eq_none_iff, List.find?_eq_none]
  intro p there same
  obtain ⟨rule, among, rfl⟩ := List.mem_map.1 there
  rw [Text.eqIgnoreCase_iff] at same
  exact absent (List.mem_map.2 ⟨rule, List.mem_of_mem_filter among, same⟩)

/-- Among entries with different names the one of a rule is found under its name in any letter case. -/
theorem findHeader?_entries {rules : List HeaderRule} (distinct : (rules.map fun rule => Text.lower rule.name).Nodup)
    (there : rule ∈ rules) {name : String} (spelled : Text.lower name = Text.lower rule.name) (redactor : Redactor)
    (map : HeaderMap) :
    findHeader? (entries redactor rules map) name = if rule.has map then some (rule.logged redactor map) else none := by
  induction rules with
  | nil => cases there
  | cons first rest ih =>
    rw [List.map_cons, List.nodup_cons] at distinct
    have parted : entries redactor (first :: rest) map =
        (if first.has map then [(first.name, first.logged redactor map)] else []) ++ entries redactor rest map := by
      unfold entries
      cases has : first.has map <;> simp [has]
    rw [parted]
    rcases List.mem_cons.1 there with rfl | later
    · cases rule.has map with
      | true =>
        have same : Text.eqIgnoreCase rule.name name = true := Text.eqIgnoreCase_iff.2 spelled.symm
        simp [findHeader?_cons, same]
      | false => exact findHeader?_entries_of_not_mem (spelled ▸ distinct.1) redactor map
    · have other : Text.eqIgnoreCase first.name name = false := by
        rw [← Bool.not_eq_true, Text.eqIgnoreCase_iff, spelled]
        exact fun same => distinct.1 (List.mem_map.2 ⟨rule, later, same.symm⟩)
      rw [← ih distinct.2 later]
      cases first.has map with
      | true => simp [findHeader?_cons, other]
      | false => rfl

/-- The names of the entries are names of the rules. -/
theorem nodup_entries {rules : List HeaderRule} (distinct : (rules.map fun rule => Text.lower rule.name).Nodup)
    (redactor : Redactor) (map : HeaderMap) :
    ((entries redactor rules map).map fun e => Text.lower e.1).Nodup := by
  unfold entries
  rw [List.map_map]
  exact distinct.sublist (List.Sublist.map _ List.filter_sublist)

/-- A lookup gives each rule what is logged of its header, whatever letters its name is looked up in. -/
def FoundBy (redactor : Redactor) (rules : List HeaderRule) (map : HeaderMap) (find? : String → Option String) : Prop :=
  ∀ rule ∈ rules, ∀ name, Text.lower name = Text.lower rule.name →
    find? name = if rule.has map then some (rule.logged redactor map) else none

end HeaderRule

namespace HeaderCapture

open HeaderRule

/-- Reading a message adds an entry for each rule whose header it has. -/
theorem items_read_eq {rules : List HeaderRule} (valid : ∀ rule ∈ rules, HeaderName.isValid rule.name = true)
    {capture : HeaderCapture} (made : ofRules rules = .ok capture) (redactor : Redactor) (map : HeaderMap)
    (out : HeaderList) : (capture.read redactor map out).items = out.items ++ entries redactor rules map := by
  rw [items_read_ofRules made, pairs_eq_entries valid]

end HeaderCapture

namespace HttpReader

open HeaderRule

/-- A header is captured under the name of its rule if a message has it, and not otherwise. The headers of a valid
configuration are captured under different names, and a record gives each of them back in any letter case. -/
theorem captures_each_header (redactor : Redactor) :
    (∀ rules : List HeaderRule, (∀ rule ∈ rules, HeaderName.isValid rule.name = true) →
      ∃ capture, HeaderCapture.ofRules rules = .ok capture ∧ ∀ (map : HeaderMap) (out : HeaderList),
        (capture.read redactor map out).items = out.items ++ entries redactor rules map) ∧
      ∀ c : LoggingConfig, c.validate = .ok () → ∃ r, ofConfig c redactor = .ok r ∧
        ∀ (map : HeaderMap) (out : HeaderList), out.items = [] →
          let request := r.requestHeaders.read redactor map out
          let response := r.responseHeaders.read redactor map out
          (request.items.map fun e => Text.lower e.1).Nodup ∧ (response.items.map fun e => Text.lower e.1).Nodup ∧
            ∀ record : LogRecord,
              FoundBy redactor c.requestHeaders map
                ({ record with requestHeaders := some request } : LogRecord).requestHeader? ∧
              FoundBy redactor c.responseHeaders map
                ({ record with responseHeaders := some response } : LogRecord).responseHeader? := by
  constructor
  · intro rules valid
    obtain ⟨capture, made⟩ := HeaderCapture.exists_ofRules valid
    exact ⟨capture, made, HeaderCapture.items_read_eq valid made redactor⟩
  · intro c accepted
    obtain ⟨requestValid, responseValid⟩ := c.isValid_of_validate accepted
    obtain ⟨requestDistinct, responseDistinct⟩ := c.nodup_lower_of_validate accepted
    obtain ⟨r, made⟩ := exists_ofConfig accepted redactor
    obtain ⟨requestMade, responseMade, -⟩ := ofConfig_eq_ok_iff.1 made
    refine ⟨r, made, fun map out empty => ?_⟩
    intro request response
    have requestItems : request.items = entries redactor c.requestHeaders map := by
      rw [HeaderCapture.items_read_eq requestValid requestMade, empty, List.nil_append]
    have responseItems : response.items = entries redactor c.responseHeaders map := by
      rw [HeaderCapture.items_read_eq responseValid responseMade, empty, List.nil_append]
    refine ⟨?_, ?_, fun record => ⟨?_, ?_⟩⟩
    · rw [requestItems]
      exact nodup_entries requestDistinct redactor map
    · rw [responseItems]
      exact nodup_entries responseDistinct redactor map
    · intro rule there name spelled
      show findHeader? request.items name = _
      rw [requestItems]
      exact findHeader?_entries requestDistinct there spelled redactor map
    · intro rule there name spelled
      show findHeader? response.items name = _
      rw [responseItems]
      exact findHeader?_entries responseDistinct there spelled redactor map

/-- Of three headers one is absent, one has an empty value and a value that is not UTF-8, and one is redacted. -/
theorem captures_each_header_of_three :
    let redactor := Redactor.formatting "<\x7b0\x7d>"
    let c : LoggingConfig :=
      { requestHeaders := [⟨"X-Tag", ⟨"NONE"⟩⟩, ⟨"Absent", ⟨"none"⟩⟩, ⟨"accept", ⟨"private"⟩⟩] }
    let map : HeaderMap := [(⟨"accept", by decide⟩, ⟨[97], by decide⟩), (⟨"x-tag", by decide⟩, ⟨[], by decide⟩),
      (⟨"other", by decide⟩, ⟨[98], by decide⟩), (⟨"x-tag", by decide⟩, ⟨[255], by decide⟩)]
    (∀ rule ∈ c.requestHeaders, HeaderName.isValid rule.name = true) ∧ c.validate = .ok () ∧
      (∃ capture, HeaderCapture.ofRules c.requestHeaders = .ok capture ∧
        (capture.read redactor map ⟨[("a", "b")], 4⟩).items = [("a", "b"), ("X-Tag", ",\uFFFD"), ("accept", "<a>")]) ∧
      ∃ r, ofConfig c redactor = .ok r ∧
        let record : LogRecord := { requestHeaders := some (r.requestHeaders.read redactor map {}) }
        record.requestHeader? "x-TAG" = some ",\uFFFD" ∧ record.requestHeader? "absent" = none ∧
          record.requestHeader? "Accept" = some "<a>" := by
  intro redactor c map
  have valid : ∀ rule ∈ c.requestHeaders, HeaderName.isValid rule.name = true := by decide +kernel
  have accepted : c.validate = .ok () := by decide +kernel
  obtain ⟨each, found⟩ := captures_each_header redactor
  obtain ⟨capture, made, reads⟩ := each c.requestHeaders valid
  obtain ⟨r, built, kept⟩ := found c accepted
  have lookup := ((kept map {} rfl).2.2 {}).1
  refine ⟨valid, accepted, ⟨capture, made, ?_⟩, r, built, ?_, ?_, ?_⟩
  · rw [reads]
    decide +kernel
  · exact (lookup ⟨"X-Tag", ⟨"NONE"⟩⟩ (by decide +kernel) "x-TAG" (by decide +kernel)).trans (by decide +kernel)
  · exact (lookup ⟨"Absent", ⟨"none"⟩⟩ (by decide +kernel) "absent" (by decide +kernel)).trans (by decide +kernel)
  · exact (lookup ⟨"accept", ⟨"private"⟩⟩ (by decide +kernel) "Accept" (by decide +kernel)).trans (by decide +kernel)

end HttpReader

end CallTelemetry
