import CallTelemetry.Proofs.Redaction.Blind
import CallTelemetry.Proofs.Route.Separation

/-!
# Which templates conceal their sensitive parameters

A template conceals if the values of its sensitive parameters do not matter for the paths that it gives, neither
for the path that is written nor for the parameters that are listed (`Template.Conceals`). Separated templates do
(`conceals_of_separated`): their walks find at each parameter what its own value gives, so what differs is found
at a sensitive parameter and goes to the redactor. A list of parameters of which one name is erased shows just
what is found for the others (`collect_exposing`), so a leak in what is found is seen. Hence a template whose
neighbouring parameters have different names conceals just if it is separated (`conceals_iff_separated`).
-/

namespace CallTelemetry

open Route

namespace PathPolicy

variable {policy : PathPolicy}

/-- A parameter has a label that is not safe. -/
def Sensitive (policy : PathPolicy) (p : Parameter) : Prop :=
  ∃ c, policy.classes.lookup p.name = some c ∧ c.isSafe = false

theorem withholds_of_sensitive (redacted : policy.mode ≠ .verbatim) {p : Parameter}
    (sensitive : policy.Sensitive p) : policy.Withholds p := by
  obtain ⟨c, label, unsafe_label⟩ := sensitive
  unfold Withholds
  cases mode : policy.mode with
  | verbatim => exact absurd mode redacted
  | loose =>
    rw [label]
    exact unsafe_label
  | strict =>
    rw [label]
    exact unsafe_label

/-- Two walks are alike if what they find differs only at parameters that are withheld. -/
theorem walkFrom_alike_of_found (ignores : policy.redactor.IgnoresValue) {segments : List Segment}
    (alternating : alternates segments = true) {x y : List Char}
    (agree : AgreeBut policy.Withholds ((slots segments).map (·.parameter))
      (found (slots segments) (afterLeading segments x)) (found (slots segments) (afterLeading segments y))) :
    List.Forall₂ policy.Alike (walkFrom segments x) (walkFrom segments y) := by
  induction segments generalizing x y with
  | nil => exact .nil
  | cons s rest ih =>
    cases s with
    | literal text =>
      rw [← afterLeading_literal alternating, ← afterLeading_literal alternating] at agree
      exact .cons (alike_refl _) (ih (alternates_tail alternating) agree)
    | parameter p =>
      rw [found_parameter, found_parameter] at agree
      cases agree with
      | cons first later =>
        refine .cons (alike_of_display fun out => ?_) (ih alternating later)
        by_cases withheld : policy.Withholds p
        · exact display_eq_of_withholds ignores withheld _ _ out
        · rw [first withheld]

end PathPolicy

namespace Route

namespace Template

variable {text : String} {t : Template}

/-- Under every policy that redacts, with a redactor that is blind to values, two paths of the template are
written alike and give the same list of parameters if only the values of sensitive parameters differ. -/
def Conceals (t : Template) : Prop :=
  ∀ (policy : PathPolicy) (values others : List String), policy.mode ≠ .verbatim →
    policy.redactor.IgnoresValue → (∀ v ∈ values, IsValue v.toList) → (∀ w ∈ others, IsValue w.toList) →
    AgreeBut policy.Sensitive t.parameters values others →
    (∀ out, policy.format t (t.path values) out = policy.format t (t.path others) out) ∧
      ∀ out, policy.collect t (t.path values) out = policy.collect t (t.path others) out

/-- A walk takes the slash off that a path of a template starts with, and nothing else. -/
theorem dropSlashes_path (parsed : Template.parse text = .ok t) {values : List String}
    (isValue : ∀ v ∈ values, IsValue v.toList) (length : values.length = t.parameters.length) :
    dropSlashes (t.path values).toList =
      leadingText t.segments ++ layout (slots t.segments) (values.map String.toList) := by
  obtain ⟨alternating, start⟩ := alternates_of_parse parsed
  have enough : (values.map String.toList).length = (slots t.segments).length := by
    rw [List.length_map, length, ← map_parameter_slots, List.length_map]
  unfold path
  rw [String.toList_ofList, substitute_eq alternating enough]
  refine dropSlashes_cons ?_
  cases leading : leadingText t.segments with
  | cons c rest =>
    rw [leading] at start
    exact start
  | nil => exact head?_layout_ne (isValue_toList isValue)

theorem afterLeading_path (parsed : Template.parse text = .ok t) {values : List String}
    (isValue : ∀ v ∈ values, IsValue v.toList) (length : values.length = t.parameters.length) :
    afterLeading t.segments (dropSlashes (t.path values).toList) =
      layout (slots t.segments) (values.map String.toList) := by
  rw [dropSlashes_path parsed isValue length]
  exact dropBytes_byteLength_append _ _

theorem conceals_of_separated (parsed : Template.parse text = .ok t) (separated : t.separated = true) :
    t.Conceals := by
  intro policy values others redacted ignores isValue isOther agree
  obtain ⟨length, length'⟩ := agree.length_eq
  have texts := agree.map String.toList
  rw [← map_parameter_slots] at texts
  have finds := found_agree_of_separated separated (isValue_toList isValue) (isValue_toList isOther) texts
  rw [dropBytes_zero, dropBytes_zero, ← afterLeading_path parsed isValue length,
    ← afterLeading_path parsed isOther length'] at finds
  have withheld := finds.imp fun p => policy.withholds_of_sensitive redacted
  have alike := PathPolicy.walkFrom_alike_of_found ignores (alternates_of_parse parsed).1 withheld
  refine ⟨fun out => ?_, fun out => ?_⟩
  · unfold PathPolicy.format
    rw [if_neg redacted, if_neg redacted]
    exact PathPolicy.foldl_writePiece_of_alike alike out
  · exact congrArg (out ++ ·) (PathPolicy.filterMap_pairOf_of_alike alike)

/-- Only the parameters of one name are redacted, and those are erased. -/
def exposing (name : String) : PathPolicy := ⟨.loose, [(name, .unknown)], .erasing⟩

theorem sensitive_exposing {name : String} {p : Parameter} (same : p.name = name) :
    (exposing name).Sensitive p := by
  refine ⟨.unknown, ?_, Classification.isSafe_unknown⟩
  unfold exposing
  rw [same, List.lookup_cons_self]

theorem display_exposing (name : String) (p : Parameter) (value : String) :
    (exposing name).display p value "" = if p.name = name then "" else value := by
  unfold PathPolicy.display exposing
  by_cases same : p.name = name
  · rw [if_pos same, same, List.lookup_cons_self]
    exact Redactor.apply_of_not_isSafe Classification.isSafe_unknown value ""
  · rw [if_neg same, List.lookup_cons, beq_false_of_ne same]
    exact String.empty_append

theorem filterMap_pairOf_exposing {segments : List Segment} (alternating : alternates segments = true)
    (name : String) (x : List Char) : (walkFrom segments x).filterMap (exposing name).pairOf =
      shown name (slots segments) (found (slots segments) (afterLeading segments x)) := by
  induction segments generalizing x with
  | nil => rfl
  | cons s rest ih =>
    cases s with
    | literal text =>
      rw [← afterLeading_literal alternating]
      exact ih (alternates_tail alternating) _
    | parameter p =>
      have pair : (exposing name).pairOf (.parameter p (String.ofList (p.take x))) =
          some (p.name, if p.name = name then "" else p.value (String.ofList (p.take x))) :=
        congrArg (fun value => some (p.name, value)) (display_exposing name p _)
      rw [walkFrom, List.filterMap_cons, pair, ih alternating, found_parameter, slots, shown]

theorem collect_exposing (parsed : Template.parse text = .ok t) (name : String) {values : List String}
    (isValue : ∀ v ∈ values, IsValue v.toList) (length : values.length = t.parameters.length) :
    (exposing name).collect t (t.path values) [] = shown name (slots t.segments)
      (found (slots t.segments) (layout (slots t.segments) (values.map String.toList))) := by
  rw [← afterLeading_path parsed isValue length]
  exact filterMap_pairOf_exposing (alternates_of_parse parsed).1 name _

theorem separated_of_conceals (parsed : Template.parse text = .ok t)
    (distinct : (t.parameters.map (·.name)).IsChain (· ≠ ·)) (conceals : t.Conceals) : t.separated = true := by
  by_contra mixed
  rw [← map_parameter_slots, List.map_map] at distinct
  obtain ⟨name, vs, ws, leak⟩ := exists_leak_of_not_separated distinct (Bool.not_eq_true _ ▸ mixed)
  have agree := leak.agree.map String.ofList
  rw [map_parameter_slots] at agree
  obtain ⟨length, length'⟩ := agree.length_eq
  have isValue := isValue_ofList leak.values
  have isOther := isValue_ofList leak.others
  have redacts : (exposing name).mode ≠ .verbatim := fun verbatim => by cases verbatim
  have same := (conceals (exposing name) _ _ redacts Redactor.erasing_ignoresValue isValue isOther
    (agree.imp fun p => sensitive_exposing)).2 []
  rw [collect_exposing parsed name isValue length, collect_exposing parsed name isOther length',
    map_toList_ofList, map_toList_ofList] at same
  refine leak.differs ?_
  rw [dropBytes_zero, dropBytes_zero]
  exact same

/-- A separated template conceals, and if its neighbouring parameters have different names no other one does. -/
theorem conceals_iff_separated {text : String} {t : Template} (parsed : Template.parse text = .ok t) :
    (t.separated = true → t.Conceals) ∧
      ((t.parameters.map (·.name)).IsChain (· ≠ ·) → (t.Conceals ↔ t.separated = true)) := by
  refine ⟨conceals_of_separated parsed, fun distinct => ?_⟩
  constructor
  · exact separated_of_conceals parsed distinct
  · exact conceals_of_separated parsed

/-- In the second template a walk runs three bytes ahead behind a tenant, past the slash of a short user. -/
theorem unit_users_conceals_tenant_user_not :
    (∃ t, Template.parse "/v1/unit/\x7bunitId\x7d/users/\x7buserId\x7d" = .ok t ∧ t.Conceals) ∧
      ∃ t, Template.parse "/\x7btenant\x7d.eu/\x7buser\x7d/\x7bid\x7d" = .ok t ∧ ¬ t.Conceals := by
  let required (name : String) : Segment := .parameter ⟨name, none, false, false⟩
  let unitUsers : Template := ⟨"/v1/unit/\x7bunitId\x7d/users/\x7buserId\x7d",
    [.literal "v1/unit/", required "unitId", .literal "/users/", required "userId"]⟩
  let tenantUser : Template := ⟨"/\x7btenant\x7d.eu/\x7buser\x7d/\x7bid\x7d",
    [required "tenant", .literal ".eu/", required "user", .literal "/", required "id"]⟩
  have parsed : Template.parse unitUsers.raw = .ok unitUsers := by decide +kernel
  have parsed' : Template.parse tenantUser.raw = .ok tenantUser := by decide +kernel
  refine ⟨⟨unitUsers, parsed, (conceals_iff_separated parsed).1 (by decide +kernel)⟩, tenantUser, parsed',
    fun conceals => ?_⟩
  have separated := ((conceals_iff_separated parsed').2 (by decide +kernel)).1 conceals
  exact absurd separated (by decide +kernel)

/-- Of two parameters in one segment the first one takes the value of the second one with its own. -/
theorem name_token_not_conceals : ∃ t, Template.parse "/files/\x7bname\x7d-\x7btoken\x7d" = .ok t ∧
    ¬ t.Conceals := by
  let name : Parameter := ⟨"name", none, false, false⟩
  let token : Parameter := ⟨"token", none, false, false⟩
  let t : Template := ⟨"/files/\x7bname\x7d-\x7btoken\x7d",
    [.literal "files/", .parameter name, .literal "-", .parameter token]⟩
  let policy : PathPolicy := ⟨.loose, [("token", ⟨"private"⟩)], .formatting "[masked]"⟩
  have parsed : Template.parse "/files/\x7bname\x7d-\x7btoken\x7d" = .ok t := by decide +kernel
  refine ⟨t, parsed, fun conceals => ?_⟩
  have isValue : ∀ v ∈ ["doc", "s3cret"], IsValue v.toList := by
    unfold IsValue
    decide +kernel
  have isOther : ∀ v ∈ ["doc", "hunter2"], IsValue v.toList := by
    unfold IsValue
    decide +kernel
  have sensitive : policy.Sensitive token := ⟨⟨"private"⟩, by decide +kernel, by decide +kernel⟩
  have agree : AgreeBut policy.Sensitive t.parameters ["doc", "s3cret"] ["doc", "hunter2"] :=
    .cons (fun _ => rfl) (.cons (fun plain => absurd sensitive plain) .nil)
  have blind : policy.redactor.IgnoresValue :=
    Redactor.formatting_ignoresValue (by decide +kernel)
  have written := (conceals policy _ _ (by decide +kernel) blind isValue isOther agree).1 ""
  have shows : policy.format t (t.path ["doc", "s3cret"]) "" = "files/doc-s3cret-[masked]" := by decide +kernel
  have shows_other : policy.format t (t.path ["doc", "hunter2"]) "" = "files/doc-hunter2-[masked]" := by
    decide +kernel
  rw [shows, shows_other] at written
  exact absurd written (by decide)

end Template

end Route

end CallTelemetry
