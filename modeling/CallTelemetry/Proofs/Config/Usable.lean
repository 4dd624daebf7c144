import CallTelemetry.Proofs.Logger.Run

/-!
# Which configurations are accepted

A configuration can be used (`LoggingConfig.Usable`) if its numbers are within their bounds, its headers have names
that a message may carry, no header is there twice, and nothing in it lacks its name or label. Validation lets exactly
these pass (`validate_eq_ok_iff`). The reader of a configuration looks at the names of its headers once more, but they
have been looked at before, so setting up a logger is refused for a fault that validation finds and for nothing else
(`accepts_iff_usable`).
-/

namespace CallTelemetry

namespace HeaderName

/-- A capital letter and its small letter may both stand in a name, and take the same room. -/
theorem toLower_of_isUpper {c : Char} (capital : c.isUpper = true) :
    isTokenChar c = true ∧ isTokenChar c.toLower = true ∧ c.toLower.isUpper = false ∧ c.toLower.utf8Size = c.utf8Size := by
  have letters : ∀ n < 91, 65 ≤ n → isTokenChar (Char.ofNat n) = true ∧ isTokenChar (Char.ofNat n).toLower = true ∧
      (Char.ofNat n).toLower.isUpper = false ∧ (Char.ofNat n).toLower.utf8Size = (Char.ofNat n).utf8Size := by decide
  obtain ⟨low, high⟩ := of_decide_eq_true capital
  rw [← Char.ofNat_toNat c]
  exact letters c.toNat (Nat.lt_succ_of_le high) low

theorem toLower_of_not_isUpper {c : Char} (other : c.isUpper = false) : c.toLower = c :=
  dif_neg (of_decide_eq_false other)

theorem utf8Size_toLower (c : Char) : c.toLower.utf8Size = c.utf8Size := by
  cases capital : c.isUpper with
  | true => exact (toLower_of_isUpper capital).2.2.2
  | false => rw [toLower_of_not_isUpper capital]

theorem utf8ByteSize_lower (s : String) : (Text.lower s).utf8ByteSize = s.utf8ByteSize := by
  have sized : ∀ cs : List Char, (String.ofList (cs.map Char.toLower)).utf8ByteSize = (String.ofList cs).utf8ByteSize := by
    intro cs
    induction cs with
    | nil => rfl
    | cons c rest ih =>
      rw [List.map_cons, String.ofList_cons, String.ofList_cons, String.utf8ByteSize_append, String.utf8ByteSize_append,
        String.utf8ByteSize_singleton, String.utf8ByteSize_singleton, ih, utf8Size_toLower]
  rw [Text.lower, sized, String.ofList_toList]

/-- A character may stand in a name in small letters if it may stand in any name. -/
theorem isTokenChar_toLower (c : Char) : (isTokenChar c.toLower && !c.toLower.isUpper) = isTokenChar c := by
  cases capital : c.isUpper with
  | true =>
    obtain ⟨token, small, noCapital, -⟩ := toLower_of_isUpper capital
    rw [token, small, noCapital]
    rfl
  | false => rw [toLower_of_not_isUpper capital, capital, Bool.not_false, Bool.and_true]

/-- What spells a header name: a text of token characters that is neither empty nor too long. -/
theorem isValid_iff {s : String} :
    isValid s = true ↔ s ≠ "" ∧ s.utf8ByteSize ≤ maxHeaderName ∧ ∀ c ∈ s.toList, isTokenChar c = true := by
  have canonical : isValid s = isCanonical (Text.lower s) := by
    unfold isValid ofString?
    split
    next h => exact h.symm
    next h => exact (Bool.eq_false_iff.2 h).symm
  have empty : (Text.lower s).toList.isEmpty = s.toList.isEmpty := by
    rw [Text.toList_lower, List.isEmpty_map]
  have all : ((Text.lower s).toList.all fun c => isTokenChar c && !c.isUpper) = s.toList.all isTokenChar := by
    rw [Text.toList_lower, List.all_map]
    exact congrArg (s.toList.all ·) (funext isTokenChar_toLower)
  have nonempty : s.toList.isEmpty = false ↔ s ≠ "" := by
    rw [List.isEmpty_eq_false_iff, Ne, String.toList_eq_nil_iff]
  rw [canonical, isCanonical, empty, all, utf8ByteSize_lower, Bool.and_eq_true, Bool.and_eq_true, Bool.not_eq_true',
    nonempty, decide_eq_true_iff, List.all_eq_true, and_assoc]

end HeaderName

/-- Headers that can be captured side by side. -/
structure HeaderRule.Distinguishable (rules : List HeaderRule) : Prop where
  named : ∀ rule ∈ rules, rule.name ≠ "" ∧ rule.name.utf8ByteSize ≤ 65535 ∧ ∀ c ∈ rule.name.toList, isTokenChar c = true
  labelled : ∀ rule ∈ rules, rule.classification.label ≠ ""
  /-- No two have one name in any letter case. -/
  apart : rules.Pairwise fun a b => Text.eqIgnoreCase a.name b.name = false

namespace LoggingConfig

/-- Nothing stands in the way of using a configuration. -/
structure Usable (c : LoggingConfig) : Prop where
  bodySizeLimit : 1 ≤ c.bodySizeLimit.toNat ∧ c.bodySizeLimit.toNat ≤ 1572864
  bodyReadTimeout : 1 ≤ c.bodyReadTimeoutMs.toNat ∧ c.bodyReadTimeoutMs.toNat ≤ 60000
  poolCapacity : c.poolCapacity.toNat ≤ 65536
  requestHeaders : HeaderRule.Distinguishable c.requestHeaders
  responseHeaders : HeaderRule.Distinguishable c.responseHeaders
  routeParameters : ∀ p ∈ c.routeParameters, p.1 ≠ "" ∧ p.2.label ≠ ""
  contentTypes : ∀ type ∈ c.requestBodyContentTypes ++ c.responseBodyContentTypes, '/' ∈ type.toList
  enrichers : ∀ e ∈ c.enrichers, e.name ≠ ""

end LoggingConfig

theorem validateHeaders_iff_distinguishable {list : String} {rules : List HeaderRule} :
    validateHeaders list [] rules = .ok () ↔ HeaderRule.Distinguishable rules := by
  have apart : (rules.map fun rule => Text.lower rule.name).Nodup ↔
      rules.Pairwise fun a b => Text.eqIgnoreCase a.name b.name = false := by
    simp only [List.Nodup, List.pairwise_map, ← Bool.not_eq_true, Text.eqIgnoreCase_iff]
  rw [validateHeaders_eq_ok_iff, apart]
  simp only [HeaderName.isValid_iff]
  constructor
  · rintro ⟨each, apart, -⟩
    exact ⟨fun rule among => (each rule among).1, fun rule among => (each rule among).2, apart⟩
  · rintro ⟨named, labelled, apart⟩
    exact ⟨fun rule among => ⟨named rule among, labelled rule among⟩, apart, fun _ _ => List.not_mem_nil⟩

theorem validateParameter_eq_ok_iff {p : String × Classification} :
    validateParameter p = .ok () ↔ p.1 ≠ "" ∧ p.2.label ≠ "" := by
  rw [validateParameter, require_bind_eq_ok_iff, require_eq_ok_iff, bne_iff_ne, bne_iff_ne]

namespace LoggingConfig

/-- Validation lets a configuration pass if it can be used, and no other. -/
theorem validate_eq_ok_iff {c : LoggingConfig} : c.validate = .ok () ↔ c.Usable := by
  unfold validate
  simp only [unit_bind_eq_ok_iff, forM_eq_ok_iff, validateHeaders_iff_distinguishable,
    validateParameter_eq_ok_iff, require_eq_ok_iff, Bool.and_eq_true, decide_eq_true_iff, bne_iff_ne,
    List.contains_iff_mem]
  constructor
  · rintro ⟨size, timeout, capacity, request, response, parameters, types, enrichers⟩
    exact ⟨size, timeout, capacity, request, response, parameters, types, enrichers⟩
  · rintro ⟨size, timeout, capacity, request, response, parameters, types, enrichers⟩
    exact ⟨size, timeout, capacity, request, response, parameters, types, enrichers⟩

variable (c : LoggingConfig) (redactor : Redactor) (enrichers : EnricherSet)

theorem exists_new_iff : (∃ l, (CallLogger.new c redactor enrichers).result = .ok l) ↔ c.validate = .ok () := by
  constructor
  · rintro ⟨l, made⟩
    exact (HttpSetup.build_eq_ok_iff (s := ⟨c, redactor, enrichers⟩).1 made).1
  · exact HttpSetup.exists_build (s := ⟨c, redactor, enrichers⟩)

/-- A logger is refused with the fault that validation finds, and for no other reason. -/
theorem result_new_eq_error_iff {e : CallError} : (CallLogger.new c redactor enrichers).result = .error e ↔
    ∃ fault, c.validate = .error fault ∧ e = .config fault.message := by
  cases checked : c.validate with
  | error fault =>
    have refused : CallLogger.readerOf c redactor = .error (.config fault.message) := by
      rw [CallLogger.readerOf, checked]
      rfl
    rw [CallLogger.new, refused, Except.error.injEq]
    constructor
    · rintro rfl
      exact ⟨fault, rfl, rfl⟩
    · rintro ⟨_, ⟨⟩, rfl⟩
      rfl
  | ok =>
    obtain ⟨l, made⟩ := (exists_new_iff c redactor enrichers).2 checked
    rw [made]
    constructor
    · intro refused
      cases refused
    · rintro ⟨fault, refused, -⟩
      cases refused

/-- A configuration passes validation if it can be used, and then a logger can be set up with it. If not, both fail for
the same fault. No configuration passes validation and is refused by its reader for the name of a header. -/
theorem accepts_iff_usable :
    (c.validate = .ok () ↔ c.Usable) ∧
      ((∃ l, (CallLogger.new c redactor enrichers).result = .ok l) ↔ c.validate = .ok ()) ∧
      (∀ e, (CallLogger.new c redactor enrichers).result = .error e ↔
        ∃ fault, c.validate = .error fault ∧ e = .config fault.message) ∧
      ¬ ∃ name, c.validate = .ok () ∧ HttpReader.ofConfig c redactor = .error name := by
  refine ⟨validate_eq_ok_iff, exists_new_iff c redactor enrichers,
    fun _ => result_new_eq_error_iff c redactor enrichers, ?_⟩
  rintro ⟨name, valid, refused⟩
  obtain ⟨reader, made⟩ := HttpReader.exists_ofConfig valid redactor
  rw [refused] at made
  cases made

/-- Names that differ in their letter case alone cannot be told apart. -/
example : ({ responseHeaders := [⟨"X-User", ⟨"private"⟩⟩, ⟨"x-user", ⟨"none"⟩⟩] } : LoggingConfig).validate =
    .error (.duplicateHeader "response_headers" "x-user") := by decide

end LoggingConfig

end CallTelemetry
