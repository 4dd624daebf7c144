import CallTelemetry.Proofs.Route.Separation
import CallTelemetry.Redaction.Path
import Mathlib.Data.List.Forall2

/-!
# Walks along the paths of a template

A walk compares no literal with the path. It stays aligned all the same if the path is the template with values in
the places of its parameters and every parameter but a last one has text behind it that starts with a slash
(`Template.endsAtSlashes`): a value ends where the walk looks for its end, and a literal is as long as the text that
stands for it. Then the walk finds the values that were put in (`walkFrom_substitute`), however many slashes stand
before the path, and a policy that redacts nothing writes the path as it is (`walk_inverts_substitution`).
-/

namespace CallTelemetry.Route

/-- Behind every parameter but a last one, which alone may be a catch-all, stands text that starts with a slash. -/
def endsAtSlashesFrom : List Segment → Bool
  | [] => true
  | .literal _ :: rest => endsAtSlashesFrom rest
  | [.parameter _] => true
  | .parameter p :: rest => !p.catchAll && (leadingText rest).head? == some '/' && endsAtSlashesFrom rest

def Template.endsAtSlashes (t : Template) : Bool := endsAtSlashesFrom t.segments

/-- A text may stand in the place of a parameter. Only a catch-all takes slashes, though not at the start. -/
def Parameter.Admits (p : Parameter) (v : String) : Prop :=
  v ≠ "" ∧ if p.catchAll then v.toList.head? ≠ some '/' else '/' ∉ v.toList

instance (p : Parameter) (v : String) : Decidable (p.Admits v) := by
  unfold Parameter.Admits
  infer_instance

/-- The pieces of segments whose parameters have been given values. -/
def assign : List Segment → List String → List Piece
  | .literal text :: rest, values => .literal text :: assign rest values
  | .parameter p :: rest, v :: values => .parameter p v :: assign rest values
  | _, _ => []

theorem Parameter.Admits.toList_ne_nil {p : Parameter} {v : String} (admits : p.Admits v) : v.toList ≠ [] :=
  fun empty => admits.1 (String.toList_eq_nil_iff.1 empty)

theorem Parameter.Admits.whole {p : Parameter} {v : String} (admits : p.Admits v) :
    p.catchAll = true ∨ '/' ∉ v.toList := by
  have slashes := admits.2
  split at slashes
  · exact Or.inl ‹_›
  · exact Or.inr slashes

theorem Parameter.Admits.head?_ne {p : Parameter} {v : String} (admits : p.Admits v) :
    v.toList.head? ≠ some '/' := by
  have slashes := admits.2
  split at slashes
  · exact slashes
  · exact fun first => slashes (List.mem_of_mem_head? first)

/-- A value is found whole if the parameter takes nothing of what stands behind it. -/
theorem Parameter.take_and_rest_of_stop {p : Parameter} {v later : List Char} (whole : p.catchAll = true ∨ '/' ∉ v)
    (stops : p.take later = []) : p.take (v ++ later) = v ∧ p.rest (v ++ later) = later := by
  have takes : p.take (v ++ later) = v := by rw [p.take_append whole, stops, List.append_nil]
  have parts := p.take_append_rest (v ++ later)
  rw [takes] at parts
  exact ⟨takes, List.append_cancel_left parts⟩

theorem Parameter.take_nil (p : Parameter) : p.take [] = [] := by
  unfold Parameter.take
  split <;> rfl

theorem Parameter.take_slash {p : Parameter} (single : p.catchAll = false) {later : List Char}
    (slash : later.head? = some '/') : p.take later = [] := by
  obtain ⟨rest, rfl⟩ := List.head?_eq_some_iff.1 slash
  unfold Parameter.take
  rw [single, if_neg Bool.false_ne_true]
  exact List.takeWhile_cons_of_neg (by simp)

/-- What stands behind a parameter begins with its text. -/
theorem head?_substitute {rest : List Segment} {c : Char} (first : (leadingText rest).head? = some c)
    (values : List (List Char)) : (substitute rest values).head? = some c := by
  cases rest with
  | nil => nomatch first
  | cons s rest =>
    cases s with
    | parameter p => nomatch first
    | literal text =>
      obtain ⟨more, text_eq⟩ := List.head?_eq_some_iff.1 first
      have begins : text.toList = c :: more := text_eq
      rw [substitute, begins]
      rfl

theorem take_substitute {p : Parameter} {rest : List Segment} (aligned : endsAtSlashesFrom (.parameter p :: rest) = true)
    (values : List (List Char)) : p.take (substitute rest values) = [] := by
  cases rest with
  | nil => exact p.take_nil
  | cons s rest =>
    unfold endsAtSlashesFrom at aligned
    simp only [Bool.and_eq_true, Bool.not_eq_true', beq_iff_eq] at aligned
    obtain ⟨⟨single, slash⟩, -⟩ := aligned
    exact Parameter.take_slash single (head?_substitute slash values)

theorem endsAtSlashesFrom_tail {s : Segment} {rest : List Segment} (aligned : endsAtSlashesFrom (s :: rest) = true) :
    endsAtSlashesFrom rest = true := by
  cases s with
  | literal text => exact aligned
  | parameter p =>
    cases rest with
    | nil => rfl
    | cons s rest =>
      unfold endsAtSlashesFrom at aligned
      exact ((Bool.and_eq_true _ _).mp aligned).2

/-- A walk along segments that are filled in finds what they are filled with. -/
theorem walkFrom_substitute {segments : List Segment} {values : List String}
    (aligned : endsAtSlashesFrom segments = true)
    (admits : List.Forall₂ Parameter.Admits ((slots segments).map (·.parameter)) values) :
    walkFrom segments (substitute segments (values.map String.toList)) = assign segments values := by
  induction segments generalizing values with
  | nil => rfl
  | cons s rest ih =>
    cases s with
    | literal text =>
      have later := ih (endsAtSlashesFrom_tail aligned) admits
      rw [substitute, walkFrom, utf8ByteSize_eq, dropBytes_byteLength_append, later]
      rfl
    | parameter p =>
      cases admits with
      | @cons _ v _ values first admits =>
        have later := ih (endsAtSlashesFrom_tail aligned) admits
        obtain ⟨takes, leaves⟩ := Parameter.take_and_rest_of_stop first.whole
          (take_substitute aligned (values.map String.toList))
        rw [List.map_cons, substitute, walkFrom, takes, leaves, later, String.ofList_toList]
        rfl

/-- A path of a template that is filled in has no slash at its start. -/
theorem head?_substitute_ne {text : String} {t : Template} (parsed : Template.parse text = .ok t)
    {values : List String} (admits : List.Forall₂ Parameter.Admits t.parameters values) :
    (substitute t.segments (values.map String.toList)).head? ≠ some '/' := by
  obtain ⟨segments, scanned, made⟩ := bind_eq_ok_iff.1 parsed
  cases made
  have start := (alternates_of_parse parsed).2
  have filled := scan_literal_ne_empty scanned
  dsimp only at start ⊢
  cases segments with
  | nil => exact fun slash => nomatch slash
  | cons s rest =>
    cases s with
    | literal text =>
      have nonempty : text.toList ≠ [] := fun empty =>
        filled (.literal text) List.mem_cons_self (congrArg _ (String.toList_eq_nil_iff.1 empty))
      rw [substitute, List.head?_append_of_ne_nil _ nonempty]
      exact start
    | parameter p =>
      cases admits with
      | @cons _ v _ values first admits =>
        rw [List.map_cons, substitute, List.head?_append_of_ne_nil _ first.toList_ne_nil]
        exact first.head?_ne

theorem ne_empty_of_mem_assign {segments : List Segment} {values : List String} {p : Parameter} {found : String}
    (admits : List.Forall₂ Parameter.Admits ((slots segments).map (·.parameter)) values)
    (there : .parameter p found ∈ assign segments values) : found ≠ "" := by
  induction segments generalizing values with
  | nil => nomatch there
  | cons s rest ih =>
    cases s with
    | literal text =>
      rcases List.mem_cons.1 there with same | later
      · nomatch same
      · exact ih admits later
    | parameter q =>
      cases admits with
      | cons first admits =>
        rcases List.mem_cons.1 there with same | later
        · cases same
          exact first.1
        · exact ih admits later

/-- Without labels, loose redaction writes what a walk finds. -/
theorem foldl_writePiece_assign (redactor : Redactor) (segments : List Segment) {values : List String}
    (admits : List.Forall₂ Parameter.Admits ((slots segments).map (·.parameter)) values) (out : String) :
    (assign segments values).foldl (PathPolicy.writePiece ⟨.loose, [], redactor⟩) out =
      out ++ String.ofList (substitute segments (values.map String.toList)) := by
  induction segments generalizing values out with
  | nil => exact String.append_empty.symm
  | cons s rest ih =>
    cases s with
    | literal text =>
      rw [assign, List.foldl_cons, ih admits, substitute, String.ofList_append, String.ofList_toList,
        ← String.append_assoc]
      rfl
    | parameter p =>
      cases admits with
      | @cons _ v _ values first admits =>
        have shown : p.value v = v := if_neg first.1
        have written : PathPolicy.writePiece ⟨.loose, [], redactor⟩ out (.parameter p v) = out ++ p.value v := rfl
        rw [assign, List.foldl_cons, ih admits, written, shown, List.map_cons, substitute, String.ofList_append,
          String.ofList_toList, ← String.append_assoc]

/-- A walk along a filled in template finds each literal and each value, and a policy that redacts nothing writes
the path without the slashes at its start. -/
theorem walk_inverts_substitution {text : String} {t : Template} (parsed : Template.parse text = .ok t)
    (aligned : t.endsAtSlashes = true) {values : List String}
    (admits : List.Forall₂ Parameter.Admits t.parameters values) (slashes : Nat) :
    let filled := substitute t.segments (values.map String.toList)
    let path := String.ofList (List.replicate slashes '/' ++ filled)
    dropSlashes path.toList = filled ∧ t.walk path = assign t.segments values ∧
      (∀ p found, .parameter p found ∈ t.walk path → p.value found = found) ∧
      ∀ redactor out, PathPolicy.format ⟨.loose, [], redactor⟩ t path out = out ++ String.ofList filled := by
  intro filled path
  have body : dropSlashes path.toList = filled := by
    rw [String.toList_ofList]
    exact dropSlashes_replicate_append slashes (head?_substitute_ne parsed admits)
  rw [← map_parameter_slots] at admits
  have walked : t.walk path = assign t.segments values := by
    unfold Template.walk
    rw [body]
    exact walkFrom_substitute aligned admits
  refine ⟨body, walked, fun p found there => ?_, fun redactor out => ?_⟩
  · rw [walked] at there
    exact if_neg (ne_empty_of_mem_assign admits there)
  · have redacts : PathPolicy.format ⟨.loose, [], redactor⟩ t path out =
        (t.walk path).foldl (PathPolicy.writePiece ⟨.loose, [], redactor⟩) out :=
      if_neg fun verbatim => nomatch verbatim
    rw [redacts, walked]
    exact foldl_writePiece_assign redactor t.segments admits out

/-- A literal with a long character, a value with one, and a catch-all with slashes. -/
theorem walk_inverts_substitution_of_parts :
    ∃ t, Template.parse "/größe/\x7bid\x7d/teil/\x7b*rest\x7d" = .ok t ∧ t.endsAtSlashes = true ∧
      List.Forall₂ Parameter.Admits t.parameters ["7é", "a//b/"] ∧
      t.walk "///größe/7é/teil/a//b/" = assign t.segments ["7é", "a//b/"] ∧
      PathPolicy.format ⟨.loose, [], .erasing⟩ t "///größe/7é/teil/a//b/" ">" = ">größe/7é/teil/a//b/" := by
  let t : Template := ⟨"/größe/\x7bid\x7d/teil/\x7b*rest\x7d",
    [.literal "größe/", .parameter ⟨"id", none, false, false⟩, .literal "/teil/",
      .parameter ⟨"rest", none, false, true⟩]⟩
  have parsed : Template.parse t.raw = .ok t := by decide +kernel
  have aligned : t.endsAtSlashes = true := by decide +kernel
  have admits : List.Forall₂ Parameter.Admits t.parameters ["7é", "a//b/"] :=
    .cons (by decide +kernel) (.cons (by decide +kernel) .nil)
  obtain ⟨-, walked, -, written⟩ := walk_inverts_substitution parsed aligned admits 3
  exact ⟨t, parsed, aligned, admits, walked, written .erasing ">"⟩

end CallTelemetry.Route
