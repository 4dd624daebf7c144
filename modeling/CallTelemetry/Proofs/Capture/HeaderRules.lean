import CallTelemetry.Capture.Reader
import CallTelemetry.Proofs.Config.Validity

/-!
# What the rules of a configuration capture

A list of header rules, read as it stands in a configuration, says which pairs a message gives
(`HeaderRule.pairs`). The capture that is made of the rules before the first message gives the same pairs
(`items_read_ofRules`), and it can be made of any list with valid names (`exists_ofRules`). So a valid configuration
has a reader (`HttpReader.exists_ofConfig`).
-/

namespace CallTelemetry

namespace HeaderRule

/-- The values that a message has for the header of a rule. -/
def valuesIn (rule : HeaderRule) (map : HeaderMap) : List HeaderValue :=
  match HeaderName.ofString? rule.name with
  | some name => map.valuesOf name
  | none => []

/-- The pair of one rule, if the message has its header. -/
def pair? (redactor : Redactor) (map : HeaderMap) (rule : HeaderRule) : Option (String × String) :=
  match rule.valuesIn map with
  | [] => none
  | values => some (rule.name, redactor.apply rule.classification (HeaderCapture.joined values) "")

/-- The pairs of a list of rules, in its order. -/
def pairs (redactor : Redactor) (rules : List HeaderRule) (map : HeaderMap) : List (String × String) :=
  rules.filterMap (pair? redactor map)

/-- Each pair of a message stands under the name of its rule. -/
theorem names_pairs_sublist (redactor : Redactor) (rules : List HeaderRule) (map : HeaderMap) :
    ((pairs redactor rules map).map (·.1)).Sublist (rules.map (·.name)) := by
  induction rules with
  | nil => exact List.Sublist.refl _
  | cons rule rest ih =>
    unfold pairs at ih ⊢
    rw [List.filterMap_cons]
    unfold pair?
    cases rule.valuesIn map with
    | nil => exact ih.cons _
    | cons v vs => exact ih.cons_cons rule.name

end HeaderRule

namespace HeaderCapture

theorem exists_ofRules {rules : List HeaderRule}
    (valid : ∀ rule ∈ rules, HeaderName.isValid rule.name = true) : ∃ capture, ofRules rules = .ok capture := by
  induction rules with
  | nil => exact ⟨[], rfl⟩
  | cons rule rest ih =>
    obtain ⟨capture, made⟩ := ih fun r hr => valid r (List.mem_cons_of_mem rule hr)
    have named := valid rule List.mem_cons_self
    obtain ⟨name, spelled⟩ := Option.isSome_iff_exists.1 named
    refine ⟨⟨name, rule.name, rule.classification⟩ :: capture, ?_⟩
    unfold ofRules at made ⊢
    rw [List.mapM_cons, made, spelled]
    rfl

/-- The capture of a list of rules gives for every message the pairs of the rules. -/
theorem filterMap_ofRules {rules : List HeaderRule} {capture : HeaderCapture}
    (made : ofRules rules = .ok capture) (redactor : Redactor) (map : HeaderMap) :
    capture.filterMap (captured? redactor map) = HeaderRule.pairs redactor rules map := by
  unfold ofRules at made
  rw [mapM_eq_ok_iff] at made
  induction made with
  | nil => rfl
  | @cons rule h rest _ first _ ih =>
    cases spelled : HeaderName.ofString? rule.name with
    | none =>
      rw [spelled] at first
      cases first
    | some name =>
      simp only [spelled, Except.ok.injEq] at first
      subst first
      have values : rule.valuesIn map = map.valuesOf name := by
        unfold HeaderRule.valuesIn
        rw [spelled]
      have same : captured? redactor map ⟨name, rule.name, rule.classification⟩ =
          rule.pair? redactor map := by
        unfold captured? HeaderRule.pair?
        generalize rule.valuesIn map = found at values ⊢
        subst values
        cases map.valuesOf name <;> rfl
      rw [List.filterMap_cons, same, ih, HeaderRule.pairs, HeaderRule.pairs, List.filterMap_cons]

/-- Reading a message adds the pairs of the rules behind what is there. -/
theorem items_read_ofRules {rules : List HeaderRule} {capture : HeaderCapture}
    (made : ofRules rules = .ok capture) (redactor : Redactor) (map : HeaderMap) (out : HeaderList) :
    (capture.read redactor map out).items = out.items ++ HeaderRule.pairs redactor rules map := by
  rw [items_read, filterMap_ofRules made]

end HeaderCapture

namespace HttpReader

theorem ofConfig_eq_ok_iff {c : LoggingConfig} {redactor : Redactor} {r : HttpReader} :
    ofConfig c redactor = .ok r ↔ HeaderCapture.ofRules c.requestHeaders = .ok r.requestHeaders ∧
      HeaderCapture.ofRules c.responseHeaders = .ok r.responseHeaders ∧
      r.paths = ⟨c.pathRedactionMode, c.routeParameters, redactor⟩ ∧ r.pathMode = c.pathLoggingMode ∧
      r.body = BodyCapture.ofConfig? c := by
  unfold ofConfig
  constructor
  · intro made
    obtain ⟨request, madeRequest, made⟩ := bind_eq_ok_iff.1 made
    obtain ⟨response, madeResponse, made⟩ := bind_eq_ok_iff.1 made
    cases made
    exact ⟨madeRequest, madeResponse, rfl, rfl, rfl⟩
  · obtain ⟨paths, pathMode, requestHeaders, responseHeaders, body⟩ := r
    rintro ⟨madeRequest, madeResponse, rfl, rfl, rfl⟩
    rw [madeRequest, madeResponse]
    rfl

/-- The reader of a configuration whose headers have valid names. -/
theorem exists_ofConfig {c : LoggingConfig} (h : c.validate = .ok ()) (redactor : Redactor) :
    ∃ r, ofConfig c redactor = .ok r := by
  obtain ⟨request, response⟩ := c.isValid_of_validate h
  obtain ⟨requestCapture, madeRequest⟩ := HeaderCapture.exists_ofRules request
  obtain ⟨responseCapture, madeResponse⟩ := HeaderCapture.exists_ofRules response
  exact ⟨⟨_, _, requestCapture, responseCapture, _⟩, ofConfig_eq_ok_iff.2 ⟨madeRequest, madeResponse, rfl, rfl, rfl⟩⟩

end HttpReader

end CallTelemetry
