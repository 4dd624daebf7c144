import CallTelemetry.Proofs.Except
import CallTelemetry.Route.Walk

/-!
# The paths of a template

A template is a leading literal and then parameters, each with the literal text behind it (`slots`). Values put
in the places of the parameters give a path (`Template.path`), which is the leading literal and then the values
and literals in turn (`substitute_eq`). Walking the template along any path takes the texts that its slots find
one after the other (`found`). That a template has this form is a property of its parser (`alternates_of_parse`).
-/

namespace CallTelemetry.Route

/-- The length of a text in bytes. -/
def byteLength : List Char → Nat
  | [] => 0
  | c :: cs => c.utf8Size + byteLength cs

@[simp] theorem byteLength_nil : byteLength [] = 0 := rfl

@[simp] theorem byteLength_cons (c : Char) (cs : List Char) :
    byteLength (c :: cs) = c.utf8Size + byteLength cs := rfl

@[simp] theorem byteLength_append (a b : List Char) : byteLength (a ++ b) = byteLength a + byteLength b := by
  induction a with
  | nil => exact (Nat.zero_add _).symm
  | cons c rest ih =>
    rw [List.cons_append, byteLength_cons, byteLength_cons, ih]
    omega

theorem utf8ByteSize_eq (s : String) : s.utf8ByteSize = byteLength s.toList := by
  have sized : ∀ cs : List Char, (String.ofList cs).utf8ByteSize = byteLength cs := by
    intro cs
    induction cs with
    | nil => rfl
    | cons c rest ih =>
      rw [String.ofList_cons, String.utf8ByteSize_append, String.utf8ByteSize_singleton, ih, byteLength_cons]
  rw [← sized, String.ofList_toList]

@[simp] theorem dropBytes_zero (cs : List Char) : dropBytes 0 cs = cs := by
  cases cs <;> rfl

/-- Dropping some of the bytes of the first part leaves the second part alone. -/
theorem dropBytes_append_of_le {n : Nat} {a : List Char} (h : n ≤ byteLength a) (b : List Char) :
    dropBytes n (a ++ b) = dropBytes n a ++ b := by
  induction a generalizing n with
  | nil =>
    obtain rfl : n = 0 := Nat.le_zero.1 h
    rw [dropBytes_zero, dropBytes_nil]
  | cons c rest ih =>
    cases n with
    | zero => rfl
    | succ n =>
      rw [byteLength_cons] at h
      exact ih (by omega)

/-- Dropping all bytes of the first part, and then some, drops those of the second part. -/
theorem dropBytes_add_append (n : Nat) (a b : List Char) : dropBytes (byteLength a + n) (a ++ b) = dropBytes n b := by
  induction a with
  | nil => rw [byteLength_nil, Nat.zero_add, List.nil_append]
  | cons c rest ih =>
    have wide := c.utf8Size_pos
    obtain ⟨m, split⟩ : ∃ m, byteLength (c :: rest) + n = m + 1 := by
      refine ⟨byteLength (c :: rest) + n - 1, ?_⟩
      rw [byteLength_cons]
      omega
    rw [split, List.cons_append]
    show dropBytes (m + 1 - c.utf8Size) (rest ++ b) = _
    rw [← ih]
    congr 1
    rw [byteLength_cons] at split
    omega

theorem dropBytes_byteLength_append (a b : List Char) : dropBytes (byteLength a) (a ++ b) = b := by
  have dropped := dropBytes_add_append 0 a b
  rwa [Nat.add_zero, dropBytes_zero] at dropped

/-- A character that the count ends in goes as a whole. -/
theorem byteLength_dropBytes_le (n : Nat) (cs : List Char) : byteLength (dropBytes n cs) ≤ byteLength cs - n := by
  induction cs generalizing n with
  | nil => rw [dropBytes_nil]; exact Nat.zero_le _
  | cons c rest ih =>
    cases n with
    | zero => exact Nat.le_refl _
    | succ n =>
      have wide := c.utf8Size_pos
      have dropped := ih (n + 1 - c.utf8Size)
      rw [byteLength_cons]
      show byteLength (dropBytes (n + 1 - c.utf8Size) rest) ≤ _
      omega

/-- A parameter and the literal text behind it, which is empty if there is none. -/
structure Slot where
  parameter : Parameter
  text : List Char
  deriving DecidableEq, Repr

/-- The text before the first parameter. -/
def leadingText : List Segment → List Char
  | .literal text :: _ => text.toList
  | _ => []

def slots : List Segment → List Slot
  | [] => []
  | .literal _ :: rest => slots rest
  | .parameter p :: rest => ⟨p, leadingText rest⟩ :: slots rest

/-- No text follows a literal but that of a parameter. -/
def alternates : List Segment → Bool
  | [] => true
  | .literal _ :: rest => (leadingText rest).isEmpty && alternates rest
  | .parameter _ :: rest => alternates rest

theorem alternates_tail {s : Segment} {rest : List Segment} (h : alternates (s :: rest) = true) :
    alternates rest = true := by
  cases s with
  | literal text => exact ((Bool.and_eq_true _ _).mp h).2
  | parameter p => exact h

theorem map_parameter_slots (t : Template) : (slots t.segments).map (·.parameter) = t.parameters := by
  unfold Template.parameters
  induction t.segments with
  | nil => rfl
  | cons s rest ih =>
    cases s with
    | literal text => exact ih
    | parameter p => exact congrArg (p :: ·) ih

theorem leadingText_literalSegments (done : List Char) {rest : List Segment} (none : leadingText rest = []) :
    leadingText (literalSegments done ++ rest) = done.reverse := by
  cases done with
  | nil => exact none
  | cons c before => exact String.toList_ofList

theorem alternates_literalSegments (done : List Char) {rest : List Segment} (none : leadingText rest = [])
    (later : alternates rest = true) : alternates (literalSegments done ++ rest) = true := by
  cases done with
  | nil => exact later
  | cons c before =>
    show ((leadingText rest).isEmpty && alternates rest) = true
    rw [none, later]
    rfl

/-- The text that a scan puts before the first parameter: in a literal, all up to the next opening brace. -/
def Region.leading : Region → List Char → List Char
  | .literal done, cs => done.reverse ++ cs.takeWhile (· ≠ '\x7b')
  | .parameter _, _ => []

theorem alternates_of_scan {region : Region} {cs : List Char} {segments : List Segment}
    (scanned : scan region cs = .ok segments) :
    alternates segments = true ∧ leadingText segments = region.leading cs := by
  induction cs generalizing region segments with
  | nil =>
    cases region with
    | parameter done => cases scanned
    | literal done =>
      cases scanned
      have nothing : leadingText [] = [] := rfl
      have alternating := alternates_literalSegments done nothing rfl
      have leading := leadingText_literalSegments done nothing
      rw [List.append_nil] at alternating leading
      exact ⟨alternating, leading.trans (List.append_nil _).symm⟩
  | cons c rest ih =>
    cases region with
    | literal done =>
      rw [scan] at scanned
      split at scanned
      · cases scanned
      · split at scanned
        · rename_i opens
          obtain ⟨more, inner, scanned⟩ := bind_eq_ok_iff.1 scanned
          cases scanned
          obtain ⟨alternating, leading⟩ := ih inner
          refine ⟨alternates_literalSegments done leading alternating, ?_⟩
          rw [leadingText_literalSegments done leading]
          simp [Region.leading, opens]
        · rename_i plain
          obtain ⟨alternating, leading⟩ := ih scanned
          refine ⟨alternating, ?_⟩
          rw [leading]
          simp [Region.leading, plain]
    | parameter done =>
      rw [scan] at scanned
      split at scanned
      · obtain ⟨p, -, scanned⟩ := bind_eq_ok_iff.1 scanned
        obtain ⟨more, inner, scanned⟩ := bind_eq_ok_iff.1 scanned
        cases scanned
        exact ⟨(ih inner).1, rfl⟩
      · exact ih scanned

theorem head?_dropSlashes_ne (cs : List Char) : (dropSlashes cs).head? ≠ some '/' := by
  intro slash
  have left := List.head?_dropWhile_not (fun c : Char => decide (c = '/')) cs
  unfold dropSlashes at slash
  rw [slash] at left
  simp at left

/-- Slashes before a text that does not start with one are what is dropped of it. -/
theorem dropSlashes_replicate_append (slashes : Nat) {cs : List Char} (h : cs.head? ≠ some '/') :
    dropSlashes (List.replicate slashes '/' ++ cs) = cs := by
  induction slashes with
  | zero =>
    cases cs with
    | nil => rfl
    | cons c rest =>
      refine List.dropWhile_cons_of_neg ?_
      rw [decide_eq_true_eq]
      exact fun slash => h (congrArg some slash)
  | succ slashes ih =>
    rw [List.replicate_succ, List.cons_append]
    exact (List.dropWhile_cons_of_pos rfl).trans ih

theorem dropSlashes_cons {cs : List Char} (h : cs.head? ≠ some '/') : dropSlashes ('/' :: cs) = cs :=
  dropSlashes_replicate_append 1 h

/-- The segments of an accepted template alternate, and the first of them does not start with a slash. -/
theorem alternates_of_parse {text : String} {t : Template} (parsed : Template.parse text = .ok t) :
    alternates t.segments = true ∧ (leadingText t.segments).head? ≠ some '/' := by
  unfold Template.parse at parsed
  obtain ⟨segments, scanned, parsed⟩ := bind_eq_ok_iff.1 parsed
  cases parsed
  obtain ⟨alternating, leading⟩ := alternates_of_scan scanned
  refine ⟨alternating, ?_⟩
  have start := head?_dropSlashes_ne text.toList
  rw [leading]
  show ((dropSlashes text.toList).takeWhile (· ≠ '\x7b')).head? ≠ some '/'
  cases body : dropSlashes text.toList with
  | nil => simp
  | cons c rest =>
    rw [body] at start
    by_cases opens : c = '\x7b'
    · rw [List.takeWhile_cons_of_neg (by simp [opens])]
      simp
    · rw [List.takeWhile_cons_of_pos (by simp [opens])]
      exact start

/-- The text that a list of segments gives with values in the places of its parameters. -/
def substitute : List Segment → List (List Char) → List Char
  | [], _ => []
  | .literal text :: rest, values => text.toList ++ substitute rest values
  | .parameter _ :: rest, v :: values => v ++ substitute rest values
  | .parameter _ :: rest, [] => substitute rest []

/-- The path that a template gives with values in the places of its parameters. -/
def Template.path (t : Template) (values : List String) : String :=
  String.ofList ('/' :: substitute t.segments (values.map String.toList))

/-- The text of slots with values in their places. -/
def layout : List Slot → List (List Char) → List Char
  | s :: slots, v :: values => v ++ (s.text ++ layout slots values)
  | _, _ => []

theorem substitute_eq {segments : List Segment} {values : List (List Char)}
    (alternating : alternates segments = true) (length : values.length = (slots segments).length) :
    substitute segments values = leadingText segments ++ layout (slots segments) values := by
  induction segments generalizing values with
  | nil => rfl
  | cons s rest ih =>
    cases s with
    | literal text =>
      unfold alternates at alternating
      rw [Bool.and_eq_true, List.isEmpty_iff] at alternating
      have later := ih alternating.2 length
      rw [alternating.1, List.nil_append] at later
      show text.toList ++ substitute rest values = text.toList ++ layout (slots rest) values
      rw [later]
    | parameter p =>
      cases values with
      | nil => cases length
      | cons v values => exact congrArg (v ++ ·) (ih alternating (Nat.succ.inj length))

/-- The texts that a walk finds at a list of slots when it comes to the first of them. -/
def found : List Slot → List Char → List (List Char)
  | [], _ => []
  | s :: slots, path =>
    s.parameter.take path :: found slots (dropBytes (byteLength s.text) (s.parameter.rest path))

/-- What a walk has before it once it has passed the leading text. -/
def afterLeading (segments : List Segment) (path : List Char) : List Char :=
  dropBytes (byteLength (leadingText segments)) path

theorem afterLeading_literal {text : String} {rest : List Segment}
    (alternating : alternates (.literal text :: rest) = true) (path : List Char) :
    afterLeading rest (dropBytes text.utf8ByteSize path) = afterLeading (.literal text :: rest) path := by
  unfold alternates at alternating
  rw [Bool.and_eq_true, List.isEmpty_iff] at alternating
  unfold afterLeading
  rw [alternating.1, byteLength_nil, dropBytes_zero, utf8ByteSize_eq]
  rfl

theorem found_parameter (p : Parameter) (rest : List Segment) (path : List Char) :
    found (slots (.parameter p :: rest)) (afterLeading (.parameter p :: rest) path) =
      p.take path :: found (slots rest) (afterLeading rest (p.rest path)) := by
  have start : afterLeading (.parameter p :: rest) path = path := dropBytes_zero path
  rw [start, slots, found]
  rfl

end CallTelemetry.Route
