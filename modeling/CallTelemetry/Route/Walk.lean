import CallTelemetry.Route.Template

/-!
# Matching a path against a template

A template is walked along a path by position. A literal is taken to be there and moves on by its own
length in bytes, whatever the path holds; a parameter takes the text up to the next slash, or all that
is left if it is a catch-all. A path that is too short gives the later parameters empty texts. Each
segment gives exactly one piece (`length_walkFrom`).
-/

namespace CallTelemetry.Route

/-- One segment of a template as it was met along a path. -/
inductive Piece where
  | literal (text : String)
  /-- A parameter and the text that stands in its place. -/
  | parameter (p : Parameter) (found : String)
  deriving DecidableEq, Repr

/-- The value of a parameter: the text found, or the default if that is empty and there is one. -/
def Parameter.value (p : Parameter) (found : String) : String :=
  if found = "" then p.default.getD "" else found

/-- The characters left after `n` bytes. A character that the count ends in goes as a whole. -/
def dropBytes : Nat → List Char → List Char
  | 0, cs => cs
  | _ + 1, [] => []
  | n + 1, c :: cs => dropBytes (n + 1 - c.utf8Size) cs

/-- The text that a parameter takes from the head of a path. -/
def Parameter.take (p : Parameter) (path : List Char) : List Char :=
  if p.catchAll then path else path.takeWhile (· ≠ '/')

/-- What a parameter leaves of a path. -/
def Parameter.rest (p : Parameter) (path : List Char) : List Char :=
  if p.catchAll then [] else path.dropWhile (· ≠ '/')

/-- The pieces of a list of segments along a path. -/
def walkFrom : List Segment → List Char → List Piece
  | [], _ => []
  | .literal text :: segments, path =>
    .literal text :: walkFrom segments (dropBytes text.utf8ByteSize path)
  | .parameter p :: segments, path =>
    .parameter p (String.ofList (p.take path)) :: walkFrom segments (p.rest path)

/-- The pieces of a template along a path, whose leading slashes do not count. -/
def Template.walk (t : Template) (path : String) : List Piece :=
  walkFrom t.segments (dropSlashes path.toList)

theorem Parameter.take_append_rest (p : Parameter) (path : List Char) :
    p.take path ++ p.rest path = path := by
  unfold Parameter.take Parameter.rest
  split
  · simp
  · exact List.takeWhile_append_dropWhile

@[simp] theorem dropBytes_nil (n : Nat) : dropBytes n [] = [] := by
  cases n <;> rfl

/-- Dropping bytes leaves an end of the text. -/
theorem dropBytes_suffix (n : Nat) (cs : List Char) : dropBytes n cs <:+ cs := by
  induction cs generalizing n with
  | nil => simp
  | cons c cs ih =>
    cases n with
    | zero => exact List.suffix_refl _
    | succ n => exact (ih _).trans (List.suffix_cons c cs)

@[simp] theorem length_walkFrom (segments : List Segment) (path : List Char) :
    (walkFrom segments path).length = segments.length := by
  induction segments generalizing path with
  | nil => rfl
  | cons s segments ih => cases s <;> simp [walkFrom, ih]

end CallTelemetry.Route
