import CallTelemetry.Proofs.Route.Layout
import Mathlib.Data.List.Chain
import Mathlib.Data.List.Forall2

/-!
# Templates as texts

A template is read from a text just if the text is written by its segments one after the other: a literal by itself,
without braces, and a parameter by any text between braces that describes it (`scan_eq_ok_iff`). A parameter is
printed with its star, name, default and question mark, and reading the print gives it back
(`Parameter.parse_print`), so a list of segments is read from what it prints, also behind slashes, and what a
template is read from is its segments in writing (`parse_inverts_print`).
-/

namespace CallTelemetry.Route

namespace Parameter

/-- The question mark of an optional parameter. -/
def mark (p : Parameter) : List Char := if p.optional then ['?'] else []

/-- What is printed of a parameter behind its name. -/
def printTail (p : Parameter) : List Char :=
  (match p.default with
    | some text => '=' :: text.toList
    | none => []) ++ p.mark

/-- The text of a parameter between its braces. -/
def print (p : Parameter) : List Char :=
  (if p.catchAll then ['*'] else []) ++ (p.name.toList ++ p.printTail)

/-- A parameter that its print can tell from all others. -/
structure Printable (p : Parameter) : Prop where
  name : p.name ≠ ""
  plain : '\x7d' ∉ p.name.toList ∧ ':' ∉ p.name.toList ∧ '=' ∉ p.name.toList ∧ '?' ∉ p.name.toList
  star : p.name.toList.head? ≠ some '*'
  default : ∀ text ∈ p.default, '\x7d' ∉ text.toList ∧ text.toList.getLast? ≠ some '?'

instance (p : Parameter) : Decidable p.Printable :=
  decidable_of_iff (p.name ≠ "" ∧ ('\x7d' ∉ p.name.toList ∧ ':' ∉ p.name.toList ∧ '=' ∉ p.name.toList ∧
      '?' ∉ p.name.toList) ∧ p.name.toList.head? ≠ some '*' ∧
      ∀ text ∈ p.default, '\x7d' ∉ text.toList ∧ text.toList.getLast? ≠ some '?')
    ⟨fun ⟨name, plain, star, default⟩ => ⟨name, plain, star, default⟩,
      fun ⟨name, plain, star, default⟩ => ⟨name, plain, star, default⟩⟩

theorem splitStar_print {p : Parameter} (printable : p.Printable) :
    splitStar p.print = (p.catchAll, p.name.toList ++ p.printTail) := by
  have start : ∃ c rest, p.name.toList = c :: rest ∧ c ≠ '*' := by
    cases chars : p.name.toList with
    | nil => exact absurd (String.toList_eq_nil_iff.1 chars) printable.name
    | cons c rest =>
      refine ⟨c, rest, rfl, fun star => printable.star ?_⟩
      rw [chars, star]
      rfl
  obtain ⟨c, rest, chars, star⟩ := start
  unfold print
  rw [chars]
  cases p.catchAll with
  | true => simp [splitStar, star]
  | false => simp [splitStar, star]

/-- What is printed behind a name ends the name. -/
theorem split_printTail (p : Parameter) :
    p.printTail.takeWhile (!endsName ·) = [] ∧ p.printTail.dropWhile (!endsName ·) = p.printTail := by
  unfold printTail mark
  cases p.default with
  | none => cases p.optional <;> exact ⟨rfl, rfl⟩
  | some text => exact ⟨rfl, rfl⟩

theorem Printable.split_name {p : Parameter} (printable : p.Printable) :
    (p.name.toList ++ p.printTail).takeWhile (!endsName ·) = p.name.toList ∧
      (p.name.toList ++ p.printTail).dropWhile (!endsName ·) = p.printTail := by
  obtain ⟨none, all⟩ := p.split_printTail
  obtain ⟨-, colon, equals, question⟩ := printable.plain
  have plain : ∀ c ∈ p.name.toList, (!endsName c) = true := by
    intro c there
    have distinct : c ≠ ':' ∧ c ≠ '=' ∧ c ≠ '?' :=
      ⟨fun same => colon (same ▸ there), fun same => equals (same ▸ there), fun same => question (same ▸ there)⟩
    simp [endsName, distinct]
  rw [List.takeWhile_append_of_pos plain, List.dropWhile_append_of_pos plain, none, all, List.append_nil]
  exact ⟨rfl, rfl⟩

theorem dropMarks_append_mark {p : Parameter} {cs : List Char} (bare : cs.getLast? ≠ some '?') :
    dropMarks (cs ++ p.mark) = cs := by
  have kept : cs.reverse.dropWhile (· = '?') = cs.reverse := by
    cases turned : cs.reverse with
    | nil => rfl
    | cons c rest =>
      refine List.dropWhile_cons_of_neg ?_
      rw [decide_eq_true_eq]
      rintro rfl
      rw [← List.head?_reverse, turned] at bare
      exact bare rfl
  unfold dropMarks mark
  cases p.optional with
  | false => rw [if_neg Bool.false_ne_true, List.append_nil, kept, List.reverse_reverse]
  | true =>
    have marked : (cs ++ ['?']).reverse = '?' :: cs.reverse := List.reverse_concat
    rw [if_pos rfl, marked, List.dropWhile_cons_of_pos rfl, kept, List.reverse_reverse]

theorem Printable.defaultOf_printTail {p : Parameter} (printable : p.Printable) :
    defaultOf p.printTail = p.default := by
  unfold printTail
  cases is : p.default with
  | none =>
    unfold mark
    cases p.optional <;> rfl
  | some text =>
    have shown : defaultOf ('=' :: text.toList ++ p.mark) =
        some (String.ofList (dropMarks (text.toList ++ p.mark))) := rfl
    dsimp only
    rw [shown, dropMarks_append_mark (printable.default text is).2, String.ofList_toList]

theorem Printable.getLast?_printTail {p : Parameter} (printable : p.Printable) :
    (p.printTail.getLast? == some '?') = p.optional := by
  unfold printTail mark
  cases is : p.default with
  | none => cases p.optional <;> rfl
  | some text =>
    cases p.optional with
    | true =>
      have last : ('=' :: text.toList ++ ['?']).getLast? = some '?' := List.getLast?_concat
      exact beq_iff_eq.2 last
    | false =>
      have bare := (printable.default text is).2
      dsimp only
      rw [if_neg Bool.false_ne_true, List.append_nil, List.getLast?_cons]
      cases last : text.toList.getLast? with
      | none => rfl
      | some c =>
        rw [last] at bare
        exact beq_false_of_ne bare

/-- A printed parameter is read as itself. -/
theorem Printable.parse_print {p : Parameter} (printable : p.Printable) : parse p.print = .ok p := by
  obtain ⟨name, tail⟩ := printable.split_name
  have named : p.name.toList.isEmpty = false := by
    rw [List.isEmpty_eq_false_iff]
    exact fun empty => printable.name (String.toList_eq_nil_iff.1 empty)
  unfold parse
  rw [splitStar_print printable]
  dsimp only
  rw [name, tail, named, printable.defaultOf_printTail, printable.getLast?_printTail, String.ofList_toList]
  rfl

theorem Printable.not_mem_print {p : Parameter} (printable : p.Printable) : '\x7d' ∉ p.print := by
  unfold print printTail mark
  intro close
  rcases List.mem_append.1 close with close | close
  · split at close
    · simp at close
    · nomatch close
  rcases List.mem_append.1 close with close | close
  · exact printable.plain.1 close
  rcases List.mem_append.1 close with close | close
  · cases is : p.default with
    | none =>
      rw [is] at close
      nomatch close
    | some text =>
      rw [is] at close
      rcases List.mem_cons.1 close with same | close
      · exact absurd same (by decide)
      · exact (printable.default text is).1 close
  · split at close
    · simp at close
    · nomatch close

end Parameter

namespace Segment

/-- The text of a segment in a template. -/
def print : Segment → List Char
  | .literal text => text.toList
  | .parameter p => '\x7b' :: (p.print ++ ['\x7d'])

def isLiteral : Segment → Bool
  | .literal _ => true
  | .parameter _ => false

/-- A segment that its print can tell from all others. -/
def Printable : Segment → Prop
  | .literal text => text ≠ "" ∧ '\x7b' ∉ text.toList ∧ '\x7d' ∉ text.toList
  | .parameter p => p.Printable

instance : (s : Segment) → Decidable s.Printable
  | .literal text => inferInstanceAs (Decidable (text ≠ "" ∧ '\x7b' ∉ text.toList ∧ '\x7d' ∉ text.toList))
  | .parameter p => inferInstanceAs (Decidable p.Printable)

/-- A text that a segment is read from: a literal only from itself, a parameter from a text between braces that
describes it. -/
def WrittenAs : Segment → List Char → Prop
  | .literal text, cs => cs = text.toList
  | .parameter p, cs => ∃ inner, '\x7d' ∉ inner ∧ Parameter.parse inner = .ok p ∧ cs = '\x7b' :: (inner ++ ['\x7d'])

end Segment

/-- Texts that a list of segments is read from. Between two literals is a parameter. -/
inductive Written : List Segment → List Char → Prop where
  | nil : Written [] []
  | literal {text : String} {segments : List Segment} {cs : List Char} (plain : (Segment.literal text).Printable)
      (alone : ∀ s ∈ segments.head?, s.isLiteral = false) (later : Written segments cs) :
      Written (.literal text :: segments) (text.toList ++ cs)
  | parameter {p : Parameter} {inner cs : List Char} {segments : List Segment} (closed : '\x7d' ∉ inner)
      (describes : Parameter.parse inner = .ok p) (later : Written segments cs) :
      Written (.parameter p :: segments) ('\x7b' :: (inner ++ '\x7d' :: cs))

/-- Braces read the text between them as a parameter. -/
theorem scan_parameter {inner : List Char} (closed : '\x7d' ∉ inner) (done cs : List Char) :
    scan (.parameter done) (inner ++ '\x7d' :: cs) = (do
      let p ← Parameter.parse (done.reverse ++ inner)
      let segments ← scan (.literal []) cs
      return .parameter p :: segments) := by
  induction inner generalizing done with
  | nil =>
    rw [List.nil_append, scan, if_pos rfl, List.append_nil]
  | cons c rest ih =>
    have plain : c ≠ '\x7d' := fun same => closed (same ▸ List.mem_cons_self)
    have later := ih (fun there => closed (List.mem_cons_of_mem c there)) (c :: done)
    rw [List.reverse_cons, List.append_assoc, List.singleton_append] at later
    rw [List.cons_append, scan, if_neg plain, later]

/-- A text without braces becomes part of the literal. -/
theorem scan_literal {text : List Char} (opens : '\x7b' ∉ text) (closes : '\x7d' ∉ text) (done cs : List Char) :
    scan (.literal done) (text ++ cs) = scan (.literal (text.reverse ++ done)) cs := by
  induction text generalizing done with
  | nil => rfl
  | cons c rest ih =>
    have open_ : c ≠ '\x7b' := fun same => opens (same ▸ List.mem_cons_self)
    have close : c ≠ '\x7d' := fun same => closes (same ▸ List.mem_cons_self)
    rw [List.cons_append, scan, if_neg close, if_neg open_,
      ih (fun there => opens (List.mem_cons_of_mem c there)) (fun there => closes (List.mem_cons_of_mem c there)),
      List.reverse_cons, List.append_assoc]
    rfl

theorem scan_open (done cs : List Char) :
    scan (.literal done) ('\x7b' :: cs) = (do
      let segments ← scan (.parameter []) cs
      return literalSegments done ++ segments) := by
  rw [scan, if_neg (by decide), if_pos rfl]

theorem literalSegments_reverse {text : String} (some : text ≠ "") :
    literalSegments text.toList.reverse = [.literal text] := by
  unfold literalSegments
  rw [List.reverse_reverse, String.ofList_toList, if_neg]
  rw [List.isEmpty_reverse, List.isEmpty_iff]
  exact fun none => some (String.toList_eq_nil_iff.1 none)

/-- Segments are read from every text that they are written as. -/
theorem scan_of_written {segments : List Segment} {cs : List Char} (written : Written segments cs) :
    scan (.literal []) cs = .ok segments := by
  induction written with
  | nil => rfl
  | parameter closed describes later ih =>
    rw [scan_open, scan_parameter closed, List.reverse_nil, List.nil_append, describes, ih]
    rfl
  | @literal text segments cs plain alone later ih =>
    obtain ⟨some, opens, closes⟩ := plain
    rw [scan_literal opens closes, List.append_nil]
    cases later with
    | nil =>
      rw [scan, literalSegments_reverse some]
    | literal => exact Bool.noConfusion (alone _ rfl)
    | parameter closed describes later =>
      rw [scan_open] at ih ⊢
      obtain ⟨read, inner, made⟩ := bind_eq_ok_iff.1 ih
      cases made
      rw [inner, literalSegments_reverse some]
      rfl

/-- What a scan has read since the last segment, and its brace. -/
def Region.text : Region → List Char
  | .literal done => done.reverse
  | .parameter done => '\x7b' :: done.reverse

/-- A scan has met no brace in what it stands in. -/
def Region.Plain : Region → Prop
  | .literal done => '\x7b' ∉ done ∧ '\x7d' ∉ done
  | .parameter done => '\x7d' ∉ done

theorem Region.plain_literal_nil : (Region.literal []).Plain :=
  ⟨List.not_mem_nil, List.not_mem_nil⟩

theorem Region.plain_parameter_nil : (Region.parameter []).Plain := List.not_mem_nil

theorem Region.text_literal_cons (c : Char) (done cs : List Char) :
    (Region.literal (c :: done)).text ++ cs = (Region.literal done).text ++ c :: cs := by
  show (c :: done).reverse ++ cs = done.reverse ++ c :: cs
  rw [List.reverse_cons, List.append_assoc, List.singleton_append]

theorem Region.text_parameter_cons (c : Char) (done cs : List Char) :
    (Region.parameter (c :: done)).text ++ cs = (Region.parameter done).text ++ c :: cs :=
  congrArg ('\x7b' :: ·) (Region.text_literal_cons c done cs)

theorem Written.alone_of_open {segments : List Segment} {cs : List Char}
    (written : Written segments ('\x7b' :: cs)) : ∀ s ∈ segments.head?, s.isLiteral = false := by
  cases segments with
  | nil => exact fun s none => nomatch none
  | cons first rest =>
    intro s there
    cases there
    cases first with
    | parameter p => rfl
    | literal text =>
      generalize whole : '\x7b' :: cs = all at written
      cases written with
      | literal plain alone later =>
        obtain ⟨some, opens, -⟩ := plain
        cases chars : text.toList with
        | nil => exact absurd (String.toList_eq_nil_iff.1 chars) some
        | cons c more =>
          rw [chars] at whole opens
          cases whole
          exact absurd List.mem_cons_self opens

theorem Written.after {segments : List Segment} {cs done : List Char} (written : Written segments cs)
    (alone : ∀ s ∈ segments.head?, s.isLiteral = false) (plain : (Region.literal done).Plain) :
    Written (literalSegments done ++ segments) (done.reverse ++ cs) := by
  cases done with
  | nil => exact written
  | cons c before =>
    obtain ⟨opens, closes⟩ := plain
    have chars : (String.ofList (c :: before).reverse).toList = (c :: before).reverse := String.toList_ofList
    have printable : (Segment.literal (String.ofList (c :: before).reverse)).Printable := by
      refine ⟨fun none => ?_, ?_, ?_⟩
      · rw [← String.toList_eq_nil_iff, chars, List.reverse_eq_nil_iff] at none
        nomatch none
      · rw [chars, List.mem_reverse]
        exact opens
      · rw [chars, List.mem_reverse]
        exact closes
    have first := Written.literal printable alone written
    rw [chars] at first
    exact first

/-- What segments are read from is a text that they are written as. -/
theorem written_of_scan {region : Region} {cs : List Char} {segments : List Segment} (plain : region.Plain)
    (scanned : scan region cs = .ok segments) : Written segments (region.text ++ cs) := by
  induction cs generalizing region segments with
  | nil =>
    cases region with
    | parameter done => cases scanned
    | literal done =>
      cases scanned
      have lone : ∀ s ∈ ([] : List Segment).head?, s.isLiteral = false := by
        intro s there
        cases there
      have last := Written.nil.after lone plain
      rw [List.append_nil] at last
      exact last
  | cons c rest ih =>
    cases region with
    | literal done =>
      rw [scan] at scanned
      split at scanned
      · cases scanned
      · rename_i close
        split at scanned
        · rename_i opens
          obtain ⟨more, inner, made⟩ := bind_eq_ok_iff.1 scanned
          cases made
          have written : Written more ('\x7b' :: rest) := ih Region.plain_parameter_nil inner
          rw [opens]
          exact written.after written.alone_of_open plain
        · rename_i opens
          have longer : (Region.literal (c :: done)).Plain := by
            refine ⟨fun there => ?_, fun there => ?_⟩
            · exact plain.1 ((List.mem_cons.1 there).resolve_left (Ne.symm opens))
            · exact plain.2 ((List.mem_cons.1 there).resolve_left (Ne.symm close))
          rw [← Region.text_literal_cons]
          exact ih longer scanned
    | parameter done =>
      rw [scan] at scanned
      split at scanned
      · rename_i close
        obtain ⟨p, describes, scanned⟩ := bind_eq_ok_iff.1 scanned
        obtain ⟨more, inner, made⟩ := bind_eq_ok_iff.1 scanned
        cases made
        have later : Written more rest := ih Region.plain_literal_nil inner
        have closed : '\x7d' ∉ done.reverse := fun there => plain (List.mem_reverse.1 there)
        rw [close]
        exact .parameter closed describes later
      · rename_i close
        have longer : (Region.parameter (c :: done)).Plain := fun there =>
          plain ((List.mem_cons.1 there).resolve_left (Ne.symm close))
        rw [← Region.text_parameter_cons]
        exact ih longer scanned

/-- Segments are read from the texts that they are written as, and from no other. -/
theorem scan_eq_ok_iff {cs : List Char} {segments : List Segment} :
    scan (.literal []) cs = .ok segments ↔ Written segments cs := by
  constructor
  · exact written_of_scan Region.plain_literal_nil
  · exact scan_of_written

/-- Two neighbours in a template are not both literals. -/
def Segment.Apart (a b : Segment) : Prop := a.isLiteral = true → b.isLiteral = false

instance (a b : Segment) : Decidable (a.Apart b) := inferInstanceAs (Decidable (_ → _))

/-- The text that a list of segments prints. -/
def printSegments (segments : List Segment) : List Char := segments.flatMap Segment.print

theorem written_print {segments : List Segment} (printable : ∀ s ∈ segments, s.Printable)
    (apart : segments.IsChain Segment.Apart) : Written segments (printSegments segments) := by
  induction segments with
  | nil => exact .nil
  | cons s rest ih =>
    have first := printable s List.mem_cons_self
    have written := ih (fun u there => printable u (List.mem_cons_of_mem s there)) apart.tail
    cases s with
    | literal text =>
      refine .literal first (fun u next => ?_) written
      exact (List.isChain_cons.1 apart).1 u next rfl
    | parameter p =>
      have print : printSegments (.parameter p :: rest) = '\x7b' :: (p.print ++ '\x7d' :: printSegments rest) := by
        unfold printSegments
        rw [List.flatMap_cons, Segment.print, List.cons_append, List.append_assoc]
        rfl
      rw [print]
      exact .parameter (Parameter.Printable.not_mem_print first) (Parameter.Printable.parse_print first) written

theorem head?_printSegments_ne {segments : List Segment} (printable : ∀ s ∈ segments, s.Printable)
    (start : ∀ text, segments.head? = some (.literal text) → text.toList.head? ≠ some '/') :
    (printSegments segments).head? ≠ some '/' := by
  cases segments with
  | nil => exact fun slash => nomatch slash
  | cons s rest =>
    cases s with
    | parameter p =>
      intro slash
      have brace : (printSegments (.parameter p :: rest)).head? = some '\x7b' := rfl
      rw [brace] at slash
      exact absurd slash (by decide)
    | literal text =>
      have some := (printable _ List.mem_cons_self).1
      have nonempty : text.toList ≠ [] := fun none => some (String.toList_eq_nil_iff.1 none)
      have print : printSegments (.literal text :: rest) = text.toList ++ printSegments rest := List.flatMap_cons
      rw [print, List.head?_append_of_ne_nil _ nonempty]
      exact start text rfl

/-- A text that segments are written as consists of one part for each of them. -/
theorem Written.exists_parts {segments : List Segment} {cs : List Char} (written : Written segments cs) :
    ∃ parts, List.Forall₂ Segment.WrittenAs segments parts ∧ cs = parts.flatten := by
  induction written with
  | nil => exact ⟨[], .nil, rfl⟩
  | @literal text segments cs plain alone later ih =>
    obtain ⟨parts, each, rfl⟩ := ih
    exact ⟨text.toList :: parts, .cons rfl each, rfl⟩
  | @parameter p inner cs segments closed describes later ih =>
    obtain ⟨parts, each, rfl⟩ := ih
    refine ⟨('\x7b' :: (inner ++ ['\x7d'])) :: parts, .cons ⟨inner, closed, describes, rfl⟩ each, ?_⟩
    rw [List.flatten_cons, List.cons_append, List.append_assoc]
    rfl

theorem Written.apart {segments : List Segment} {cs : List Char} (written : Written segments cs) :
    (∀ s ∈ segments, s ≠ .literal "") ∧ segments.IsChain Segment.Apart := by
  induction written with
  | nil => exact ⟨fun s there => absurd there List.not_mem_nil, .nil⟩
  | literal plain alone later ih =>
    refine ⟨fun s there => ?_, List.isChain_cons.2 ⟨fun u next _ => alone u next, ih.2⟩⟩
    rcases List.mem_cons.1 there with rfl | there
    · intro empty
      cases empty
      exact plain.1 rfl
    · exact ih.1 s there
  | parameter closed describes later ih =>
    refine ⟨fun s there => ?_, List.isChain_cons.2 ⟨fun u _ literal => (nomatch literal), ih.2⟩⟩
    rcases List.mem_cons.1 there with rfl | there
    · exact fun empty => nomatch empty
    · exact ih.1 s there

/-- Printed segments are read as themselves, also behind slashes. What a template is read from, without the slashes
at its start, consists of its literals and of a text between braces for each parameter that describes it. -/
theorem parse_inverts_print :
    (∀ segments : List Segment, (∀ s ∈ segments, s.Printable) → segments.IsChain Segment.Apart →
      (∀ text, segments.head? = some (.literal text) → text.toList.head? ≠ some '/') → ∀ slashes : Nat,
        let text := String.ofList (List.replicate slashes '/' ++ printSegments segments)
        Template.parse text = .ok ⟨text, segments⟩) ∧
      ∀ (text : String) (t : Template), Template.parse text = .ok t →
        (∃ parts, List.Forall₂ Segment.WrittenAs t.segments parts ∧ dropSlashes text.toList = parts.flatten) ∧
          (∀ s ∈ t.segments, s ≠ .literal "") ∧ t.segments.IsChain Segment.Apart := by
  refine ⟨fun segments printable apart start slashes => ?_, fun text t parsed => ?_⟩
  · intro text
    have body : dropSlashes text.toList = printSegments segments := by
      rw [String.toList_ofList]
      exact dropSlashes_replicate_append slashes (head?_printSegments_ne printable start)
    unfold Template.parse
    rw [body, scan_of_written (written_print printable apart)]
    rfl
  · obtain ⟨segments, scanned, made⟩ := bind_eq_ok_iff.1 parsed
    cases made
    have written := scan_eq_ok_iff.1 scanned
    exact ⟨written.exists_parts, written.apart⟩

/-- Neighbouring parameters with all marks, one of them with a question mark and a brace in its default. -/
theorem parse_inverts_print_of_marks :
    ∃ t, Template.parse "//v1/\x7bid\x7d/\x7bpage=a?\x7bb?\x7d\x7b*rest=\x7d" = .ok t ∧
      t.segments = [.literal "v1/", .parameter ⟨"id", none, false, false⟩, .literal "/",
        .parameter ⟨"page", some "a?\x7bb", true, false⟩, .parameter ⟨"rest", some "", false, true⟩] ∧
      (∀ s ∈ t.segments, s.Printable) ∧ t.segments.IsChain Segment.Apart ∧
      ∃ parts, List.Forall₂ Segment.WrittenAs t.segments parts ∧
        "v1/\x7bid\x7d/\x7bpage=a?\x7bb?\x7d\x7b*rest=\x7d".toList = parts.flatten := by
  let t : Template := ⟨"//v1/\x7bid\x7d/\x7bpage=a?\x7bb?\x7d\x7b*rest=\x7d",
    [.literal "v1/", .parameter ⟨"id", none, false, false⟩, .literal "/",
      .parameter ⟨"page", some "a?\x7bb", true, false⟩, .parameter ⟨"rest", some "", false, true⟩]⟩
  have printable : ∀ s ∈ t.segments, s.Printable := by decide +kernel
  have apart : t.segments.IsChain Segment.Apart := by decide +kernel
  have start : ∀ text, t.segments.head? = some (.literal text) → text.toList.head? ≠ some '/' := by
    intro text first
    cases first
    decide
  have parsed : Template.parse t.raw = .ok t := parse_inverts_print.1 t.segments printable apart start 2
  obtain ⟨parts, -, -⟩ := parse_inverts_print.2 t.raw t parsed
  have body : dropSlashes t.raw.toList = "v1/\x7bid\x7d/\x7bpage=a?\x7bb?\x7d\x7b*rest=\x7d".toList := by
    decide +kernel
  rw [body] at parts
  exact ⟨t, parsed, rfl, printable, apart, parts⟩

end CallTelemetry.Route
