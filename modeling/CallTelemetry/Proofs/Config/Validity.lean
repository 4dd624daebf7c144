import CallTelemetry.Config.Validate
import CallTelemetry.Proofs.Except

/-!
# What a valid configuration promises

Validation is a chain of checks that stops at the first fault, so a configuration that passes has passed
every one of them. The headers of its lists have header names (`isValid_of_validate`), no two of which differ in
their letter case alone (`nodup_lower_of_validate`).
-/

namespace CallTelemetry

theorem require_bind_eq_ok_iff {condition : Bool} {fault : ConfigFault} {next : Unit → Except ConfigFault Unit} :
    (require condition fault >>= next) = .ok () ↔ condition = true ∧ next () = .ok () := by
  rw [unit_bind_eq_ok_iff, require_eq_ok_iff]

/-- A list of headers passes if each is valid and labelled, and no two of them or of those seen have one name. -/
theorem validateHeaders_eq_ok_iff {list : String} {rules : List HeaderRule} {seen : List String} :
    validateHeaders list seen rules = .ok () ↔
      (∀ rule ∈ rules, HeaderName.isValid rule.name = true ∧ rule.classification.label ≠ "") ∧
        (rules.map fun rule => Text.lower rule.name).Nodup ∧ ∀ rule ∈ rules, Text.lower rule.name ∉ seen := by
  induction rules generalizing seen with
  | nil => simp [validateHeaders]
  | cons rule rest ih =>
    have checks : validateHeaders list seen (rule :: rest) = .ok () ↔
        HeaderName.isValid rule.name = true ∧ rule.classification.label ≠ "" ∧ Text.lower rule.name ∉ seen ∧
          validateHeaders list (Text.lower rule.name :: seen) rest = .ok () := by
      rw [validateHeaders, require_bind_eq_ok_iff, require_bind_eq_ok_iff, require_bind_eq_ok_iff, bne_iff_ne,
        Bool.not_eq_true', List.contains_eq_mem, decide_eq_false_iff_not]
    have apart : (∀ other ∈ rest, Text.lower other.name ∉ Text.lower rule.name :: seen) ↔
        Text.lower rule.name ∉ rest.map (fun rule => Text.lower rule.name) ∧
          ∀ other ∈ rest, Text.lower other.name ∉ seen := by
      simp only [List.mem_cons, not_or, List.mem_map, not_exists, not_and, forall_and]
    rw [checks, ih, apart, List.forall_mem_cons, List.forall_mem_cons, List.map_cons, List.nodup_cons]
    constructor
    · rintro ⟨valid, labelled, new, others, distinct, fresh, unseen⟩
      exact ⟨⟨⟨valid, labelled⟩, others⟩, ⟨fresh, distinct⟩, new, unseen⟩
    · rintro ⟨⟨⟨valid, labelled⟩, others⟩, ⟨fresh, distinct⟩, new, unseen⟩
      exact ⟨valid, labelled, new, others, distinct, fresh, unseen⟩

namespace LoggingConfig

variable {c : LoggingConfig}

theorem validateHeaders_of_validate (h : c.validate = .ok ()) :
    validateHeaders "request_headers" [] c.requestHeaders = .ok () ∧
      validateHeaders "response_headers" [] c.responseHeaders = .ok () := by
  unfold validate at h
  obtain ⟨_, -, h⟩ := bind_eq_ok_iff.1 h
  obtain ⟨_, -, h⟩ := bind_eq_ok_iff.1 h
  obtain ⟨_, -, h⟩ := bind_eq_ok_iff.1 h
  obtain ⟨_, request, h⟩ := bind_eq_ok_iff.1 h
  obtain ⟨_, response, -⟩ := bind_eq_ok_iff.1 h
  exact ⟨request, response⟩

/-- Every header of a valid configuration has a header name. -/
theorem isValid_of_validate (h : c.validate = .ok ()) :
    (∀ rule ∈ c.requestHeaders, HeaderName.isValid rule.name = true) ∧
      ∀ rule ∈ c.responseHeaders, HeaderName.isValid rule.name = true := by
  obtain ⟨request, response⟩ := validateHeaders_of_validate h
  exact ⟨fun rule among => ((validateHeaders_eq_ok_iff.1 request).1 rule among).1,
    fun rule among => ((validateHeaders_eq_ok_iff.1 response).1 rule among).1⟩

/-- No two headers of one list of a valid configuration have the same name in any letter case. -/
theorem nodup_lower_of_validate (h : c.validate = .ok ()) :
    (c.requestHeaders.map fun rule => Text.lower rule.name).Nodup ∧
      (c.responseHeaders.map fun rule => Text.lower rule.name).Nodup := by
  obtain ⟨request, response⟩ := validateHeaders_of_validate h
  exact ⟨(validateHeaders_eq_ok_iff.1 request).2.1, (validateHeaders_eq_ok_iff.1 response).2.1⟩

theorem nodup_names_of_nodup_lower {rules : List HeaderRule}
    (lowered : (rules.map fun rule => Text.lower rule.name).Nodup) : (rules.map (·.name)).Nodup := by
  rw [List.Nodup, List.pairwise_map] at lowered ⊢
  exact lowered.imp fun apart same => apart (congrArg Text.lower same)

/-- No two headers of one list of a valid configuration have the same name. -/
theorem nodup_of_validate (h : c.validate = .ok ()) :
    (c.requestHeaders.map (·.name)).Nodup ∧ (c.responseHeaders.map (·.name)).Nodup :=
  (nodup_lower_of_validate h).imp nodup_names_of_nodup_lower nodup_names_of_nodup_lower

end LoggingConfig

end CallTelemetry
