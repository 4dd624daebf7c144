import CallTelemetry.Capture.Reader
import CallTelemetry.Proofs.Route.Layout
import Mathlib.Data.List.Forall2

/-!
# The two layouts of a redacted path

A path that is redacted is either written as one text or laid out as a list of its parameters. What is shown of a
parameter depends on the mode and on its label (`PathPolicy.Shows`), and not on the layout: the text is the template
with the listed values in the places of its parameters (`format_eq_filled`). So a record tells the same of a path in
both layouts (`readPath_formatted_of_structured`).
-/

namespace CallTelemetry

open Route (Piece Template Parameter Segment substitute walkFrom)

/-- A parameter that a walk meets, with its value. -/
def Route.Piece.valueOf : Piece → Option (Parameter × String)
  | .literal _ => none
  | .parameter p found => some (p, p.value found)

/-- The parameters of a template in their order, each with the value that a walk gives it. -/
def Route.Template.values (t : Template) (path : String) : List (Parameter × String) :=
  (t.walk path).filterMap Piece.valueOf

theorem Route.map_fst_valueOf_walkFrom (segments : List Segment) (path : List Char) :
    ((walkFrom segments path).filterMap Piece.valueOf).map (·.1) =
      segments.filterMap fun | .parameter p => some p | .literal _ => none := by
  induction segments generalizing path with
  | nil => rfl
  | cons s rest ih =>
    cases s with
    | literal text => exact ih _
    | parameter p => exact congrArg (p :: ·) (ih _)

namespace PathPolicy

/-- The text for a value of a parameter in a redacted path, by the label of the parameter and by the mode. -/
structure Shows (policy : PathPolicy) (p : Parameter) (value text : String) : Prop where
  sensitive : ∀ c, policy.classes.lookup p.name = some c → Text.lower c.label ≠ "none" →
    text = policy.redactor.redact c value
  safe : ∀ c, policy.classes.lookup p.name = some c → Text.lower c.label = "none" → text = value
  loose : policy.classes.lookup p.name = none → policy.mode = .loose → text = value
  strict : policy.classes.lookup p.name = none → policy.mode = .strict → text = "REDACTED"

/-- The template with the values of a list of pairs in the places of its parameters. -/
def filled (t : Template) (pairs : List (String × String)) : String :=
  String.ofList (substitute t.segments (pairs.map fun pair => pair.2.toList))

variable {policy : PathPolicy}

theorem shows_display (appends : policy.redactor.Appends) (redacted : policy.mode ≠ .verbatim) (p : Parameter)
    (value : String) : policy.Shows p value (policy.display p value "") := by
  have shown : policy.display p value "" =
      match policy.classes.lookup p.name with
      | some c => policy.redactor.apply c value ""
      | none => if policy.mode = .strict then Redactor.mark else value := by
    unfold display
    cases mode : policy.mode with
    | verbatim => exact absurd mode redacted
    | loose => cases policy.classes.lookup p.name <;> simp
    | strict => cases policy.classes.lookup p.name <;> simp
  constructor
  · intro c label sensitive
    have unsafe_ : c.isSafe = false := Bool.eq_false_iff.2 fun safe => sensitive (Text.eqIgnoreCase_iff.1 safe)
    rw [shown, label]
    dsimp only
    rw [Redactor.apply_of_not_isSafe unsafe_, appends, String.empty_append]
  · intro c label safe
    rw [shown, label]
    dsimp only
    rw [Redactor.apply_of_isSafe (Text.eqIgnoreCase_iff.2 safe), String.empty_append]
  · intro label loose
    rw [shown, label]
    simp [loose]
  · intro label strict
    rw [shown, label]
    simp [strict, Redactor.mark]

section Append

variable (appends : policy.redactor.Appends)

include appends

theorem display_eq_append (p : Parameter) (value out : String) :
    policy.display p value out = out ++ policy.display p value "" := by
  have applied : ∀ c, policy.redactor.apply c value out = out ++ policy.redactor.apply c value "" := by
    intro c
    unfold Redactor.apply
    split
    · rw [String.empty_append]
    · rw [appends, appends, String.empty_append]
  unfold display
  cases policy.mode with
  | verbatim => simp only [String.empty_append]
  | loose =>
    cases policy.classes.lookup p.name with
    | none => simp only [String.empty_append]
    | some c => exact applied c
  | strict =>
    cases policy.classes.lookup p.name with
    | none => simp only [String.empty_append]
    | some c => exact applied c

theorem foldl_writePiece_walkFrom (segments : List Segment) (path : List Char) (out : String) :
    (walkFrom segments path).foldl policy.writePiece out = out ++ String.ofList
      (substitute segments (((walkFrom segments path).filterMap policy.pairOf).map fun pair => pair.2.toList)) := by
  induction segments generalizing path out with
  | nil => exact String.append_empty.symm
  | cons s rest ih =>
    cases s with
    | literal text =>
      have listed : policy.pairOf (.literal text) = none := rfl
      rw [walkFrom, List.foldl_cons, ih, List.filterMap_cons_none listed, substitute, String.ofList_append,
        String.ofList_toList, ← String.append_assoc]
      rfl
    | parameter p =>
      have listed : policy.pairOf (.parameter p (String.ofList (p.take path))) =
          some (p.name, policy.display p (p.value (String.ofList (p.take path))) "") := rfl
      rw [walkFrom, List.foldl_cons, ih, List.filterMap_cons_some listed, List.map_cons, substitute,
        String.ofList_append, String.ofList_toList, ← String.append_assoc, ← display_eq_append appends]
      rfl

/-- A redacted path is the template with the listed values filled in. -/
theorem format_eq_filled (redacted : policy.mode ≠ .verbatim) (t : Template) (path out : String) :
    policy.format t path out = out ++ filled t (policy.collect t path []) := by
  unfold format collect filled
  rw [if_neg redacted, List.nil_append]
  exact foldl_writePiece_walkFrom appends t.segments _ out

end Append

theorem collect_eq_append (t : Template) (path : String) (listed : List (String × String)) :
    policy.collect t path listed = listed ++ policy.collect t path [] := rfl

/-- Each value of a walk is listed as it is shown. -/
theorem forall₂_shows_collect (appends : policy.redactor.Appends) (redacted : policy.mode ≠ .verbatim) (t : Template)
    (path : String) :
    List.Forall₂ (fun v pair => pair.1 = v.1.name ∧ policy.Shows v.1 v.2 pair.2) (t.values path)
      (policy.collect t path []) := by
  unfold collect Template.values
  rw [List.nil_append]
  induction t.walk path with
  | nil => exact .nil
  | cons piece rest ih =>
    cases piece with
    | literal text => exact ih
    | parameter p found => exact .cons ⟨rfl, shows_display appends redacted p (p.value found)⟩ ih

/-- The text of a redacted path and the list of its parameters show the same values, and what they show of a value is
told by the label of its parameter and by the mode. -/
theorem layouts_agree (appends : policy.redactor.Appends) (redacted : policy.mode ≠ .verbatim) (t : Template)
    (path : String) :
    ∃ pairs, (∀ listed, policy.collect t path listed = listed ++ pairs) ∧
      (∀ out, policy.format t path out = out ++ filled t pairs) ∧
      List.Forall₂ (fun v pair => pair.1 = v.1.name ∧ policy.Shows v.1 v.2 pair.2) (t.values path) pairs ∧
      (t.values path).map (·.1) = t.parameters :=
  ⟨policy.collect t path [], collect_eq_append t path, format_eq_filled appends redacted t path,
    forall₂_shows_collect appends redacted t path, Route.map_fst_valueOf_walkFrom t.segments _⟩

/-- A parameter with a safe label, one without a label and one with a default and a sensitive label. -/
theorem layouts_agree_of_three_labels :
    let policy : PathPolicy := ⟨.strict, [("id", ⟨"None"⟩), ("page", ⟨"private"⟩)], .formatting "<\x7b0\x7d>"⟩
    policy.redactor.Appends ∧ policy.mode ≠ .verbatim ∧
      ∃ t, Template.parse "/a/\x7bid\x7d/\x7buser\x7d/\x7bpage=1\x7d" = .ok t ∧
        policy.collect t "/a/7/bob/" [("x", "y")] = [("x", "y"), ("id", "7"), ("user", "REDACTED"), ("page", "<1>")] ∧
        policy.format t "/a/7/bob/" ">" = ">a/7/REDACTED/<1>" := by
  intro policy
  have appends : policy.redactor.Appends := Redactor.formatting_appends _
  have redacted : policy.mode ≠ .verbatim := by decide
  let t : Template := ⟨"/a/\x7bid\x7d/\x7buser\x7d/\x7bpage=1\x7d",
    [.literal "a/", .parameter ⟨"id", none, false, false⟩, .literal "/", .parameter ⟨"user", none, false, false⟩,
      .literal "/", .parameter ⟨"page", some "1", false, false⟩]⟩
  obtain ⟨pairs, listed, written, -, -⟩ := layouts_agree appends redacted t "/a/7/bob/"
  have shown : pairs = [("id", "7"), ("user", "REDACTED"), ("page", "<1>")] :=
    (listed []).symm.trans (by decide +kernel)
  refine ⟨appends, redacted, t, by decide +kernel, ?_, ?_⟩
  · rw [listed, shown]
    rfl
  · rw [written, shown]
    decide +kernel

end PathPolicy

/-- A reader leaves the same values on a record in both layouts: the path of the one is the template with the
parameters of the other filled in. -/
theorem HttpReader.readPath_formatted_of_structured {r : HttpReader} (appends : r.paths.redactor.Appends)
    (redacted : r.paths.mode ≠ .verbatim) {request : Request} {m : RequestMetadata} (known : request.metadata = some m)
    (f : CallFields) :
    ∃ pairs,
      { r with pathMode := .structured }.readPath request f =
        { f with path := f.path ++ m.route.raw, pathParameters := f.pathParameters ++ pairs } ∧
      { r with pathMode := .formatted }.readPath request f =
        { f with path := f.path ++ PathPolicy.filled m.route pairs } := by
  refine ⟨r.paths.collect m.route request.uri.path [], ?_, ?_⟩
  · unfold readPath
    rw [known]
    simp [PathPolicy.collect]
  · unfold readPath
    rw [known]
    simp [redacted, PathPolicy.format_eq_filled appends redacted]

end CallTelemetry
