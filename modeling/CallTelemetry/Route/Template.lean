/-!
# Route templates

A template such as `/v1/units/{unitId}/users/{userId}` alternates literal text with parameters in
braces. Slashes at its start belong to no segment. The text of a parameter runs to the next closing
brace and has these parts, of which only the name is required:

* `*` or `**`: the parameter takes the rest of the path, slashes included;
* the name, up to the first `:`, `=` or `?`;
* `:` and a constraint, which is ignored;
* `=` and the default value;
* `?` at the end: the parameter is optional.

The main statement says that no literal of an accepted template is empty (`scan_literal_ne_empty`).
-/

namespace CallTelemetry.Route

/-- A parameter of a template. -/
structure Parameter where
  name : String
  default : Option String
  optional : Bool
  catchAll : Bool
  deriving DecidableEq, Repr

/-- One piece of a template. -/
inductive Segment where
  | literal (text : String)
  | parameter (p : Parameter)
  deriving DecidableEq, Repr

/-- A template with the text it was read from. -/
structure Template where
  raw : String
  segments : List Segment
  deriving DecidableEq, Repr

/-- Why a text is no template. -/
inductive TemplateError where
  | unexpectedClose
  | unclosed
  | emptyName
  deriving DecidableEq, Repr

/-- The text of a template error, which names the whole template. -/
def TemplateError.message (template : String) (e : TemplateError) : String :=
  "route template '" ++ template ++ "': " ++
    match e with
    | unexpectedClose => "unexpected '\x7d'"
    | unclosed => "unclosed '\x7b'"
    | emptyName => "empty parameter name"

namespace Parameter

/-- Whether a character ends the name of a parameter. -/
def endsName (c : Char) : Bool :=
  c = ':' || c = '=' || c = '?'

/-- Takes a leading `**` or `*` off, and tells whether there was one. -/
def splitStar : List Char → Bool × List Char
  | '*' :: '*' :: rest => (true, rest)
  | '*' :: rest => (true, rest)
  | rest => (false, rest)

/-- The text without the question marks at its end. -/
def dropMarks (cs : List Char) : List Char :=
  (cs.reverse.dropWhile (· = '?')).reverse

/-- What follows the first `=`, if there is one, without the question marks at the end. -/
def defaultOf (tail : List Char) : Option String :=
  match tail.dropWhile (· ≠ '=') with
  | [] => none
  | _ :: rest => some (String.ofList (dropMarks rest))

/-- The parameter that the text between two braces describes. -/
def parse (inner : List Char) : Except TemplateError Parameter :=
  let (catchAll, rest) := splitStar inner
  let name := rest.takeWhile (!endsName ·)
  let tail := rest.dropWhile (!endsName ·)
  if name.isEmpty then .error .emptyName
  else .ok ⟨String.ofList name, defaultOf tail, tail.getLast? == some '?', catchAll⟩

end Parameter

/-- Where a scan stands: in a literal or inside braces, with the characters since then, last one first. -/
inductive Region where
  | literal (done : List Char)
  | parameter (done : List Char)

/-- The segment of a literal, none if it is empty. -/
def literalSegments (done : List Char) : List Segment :=
  if done.isEmpty then [] else [.literal (String.ofList done.reverse)]

/-- The segments of a text from left to right. The first fault ends the scan. -/
def scan : Region → List Char → Except TemplateError (List Segment)
  | .literal done, [] => .ok (literalSegments done)
  | .literal done, c :: rest =>
    if c = '\x7d' then .error .unexpectedClose
    else if c = '\x7b' then do
      let segments ← scan (.parameter []) rest
      return literalSegments done ++ segments
    else scan (.literal (c :: done)) rest
  | .parameter _, [] => .error .unclosed
  | .parameter done, c :: rest =>
    if c = '\x7d' then do
      let p ← Parameter.parse done.reverse
      let segments ← scan (.literal []) rest
      return .parameter p :: segments
    else scan (.parameter (c :: done)) rest

/-- The text without the slashes at its start. -/
def dropSlashes (cs : List Char) : List Char :=
  cs.dropWhile (· = '/')

namespace Template

/-- The template that a text writes. -/
def parse (text : String) : Except TemplateError Template := do
  let segments ← scan (.literal []) (dropSlashes text.toList)
  return ⟨text, segments⟩

/-- The parameters of a template in their order. -/
def parameters (t : Template) : List Parameter :=
  t.segments.filterMap fun
    | .parameter p => some p
    | .literal _ => none

end Template

theorem literalSegments_ne_empty {done : List Char} {s : Segment} (h : s ∈ literalSegments done) :
    s ≠ .literal "" := by
  cases done with
  | nil => simp [literalSegments] at h
  | cons c r =>
    simp only [literalSegments, List.isEmpty_cons, Bool.false_eq_true, if_false, List.mem_singleton] at h
    subst h
    intro h
    injection h with h
    have := congrArg String.toList h
    simp at this

/-- No literal of a scanned text is empty. -/
theorem scan_literal_ne_empty {region : Region} {cs : List Char} {segments : List Segment}
    (h : scan region cs = .ok segments) : ∀ s ∈ segments, s ≠ .literal "" := by
  induction cs generalizing region segments with
  | nil =>
    cases region with
    | literal done =>
      simp only [scan, Except.ok.injEq] at h
      subst h
      exact fun s hs => literalSegments_ne_empty hs
    | parameter done => simp [scan] at h
  | cons c rest ih =>
    cases region with
    | literal done =>
      rw [scan] at h
      split at h
      · simp at h
      · split at h
        · cases hr : scan (.parameter []) rest with
          | error e => simp [hr, bind, Except.bind] at h
          | ok more =>
            simp only [hr, bind, Except.bind, pure, Except.pure, Except.ok.injEq] at h
            subst h
            intro s hs
            rcases List.mem_append.1 hs with hs | hs
            · exact literalSegments_ne_empty hs
            · exact ih hr s hs
        · exact ih h
    | parameter done =>
      rw [scan] at h
      split at h
      · cases hp : Parameter.parse done.reverse with
        | error e => simp [hp, bind, Except.bind] at h
        | ok p =>
          cases hr : scan (.literal []) rest with
          | error e => simp [hp, hr, bind, Except.bind] at h
          | ok more =>
            simp only [hp, hr, bind, Except.bind, pure, Except.pure, Except.ok.injEq] at h
            subst h
            intro s hs
            rcases List.mem_cons.1 hs with rfl | hs
            · simp
            · exact ih hr s hs
      · exact ih h

end CallTelemetry.Route
