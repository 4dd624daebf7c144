/-!
# Lines

A document is read line by line. A line is split into the spaces at its start, which are its
indentation, and the text after them.
-/

namespace CallTelemetry.Yaml

/-- A line: the number of spaces at its start, and what comes after them. -/
structure Line where
  indent : Nat
  text : List Char

def isBlank (c : Char) : Bool := c = ' ' || c = '\t'

def skipBlanks (cs : List Char) : List Char := cs.dropWhile isBlank

/-- The characters without the blanks at their end. -/
def dropTrailing (cs : List Char) : List Char := (cs.reverse.dropWhile isBlank).reverse

/-- Whether nothing but a comment follows. -/
def isVoid (cs : List Char) : Bool :=
  match skipBlanks cs with
  | [] => true
  | c :: _ => c = '#'

/-- The characters of a text in lines. -/
def splitLines : List Char → List (List Char)
  | [] => [[]]
  | '\r' :: '\n' :: rest => [] :: splitLines rest
  | c :: rest =>
    if c = '\n' || c = '\r' then [] :: splitLines rest
    else
      match splitLines rest with
      | [] => [[c]]
      | line :: more => (c :: line) :: more

namespace Line

def ofChars (cs : List Char) : Line :=
  ⟨(cs.takeWhile (· = ' ')).length, cs.dropWhile (· = ' ')⟩

/-- The characters of a line, indentation included. -/
def chars (l : Line) : List Char := List.replicate l.indent ' ' ++ l.text

theorem chars_ofChars (cs : List Char) : (ofChars cs).chars = cs := by
  have spaces : List.replicate (cs.takeWhile (· = ' ')).length ' ' = cs.takeWhile (· = ' ') := by
    rw [eq_comm, List.eq_replicate_iff]
    refine ⟨rfl, fun c h => ?_⟩
    have := List.all_eq_true.1 List.all_takeWhile c h
    simpa using this
  simp only [ofChars, chars, spaces]
  exact List.takeWhile_append_dropWhile

end Line

/-- Lines as one text, each with its line break. -/
def joinLines (lines : List Line) : List Char :=
  lines.flatMap fun l => l.chars ++ ['\n']

/-- Skips lines that hold nothing but blanks or a comment. -/
def skipVoid (lines : List Line) : List Line :=
  lines.dropWhile fun l => isVoid l.text

/-- Whether a line opens an entry of a sequence. -/
def isDash : List Char → Bool
  | ['-'] => true
  | '-' :: c :: _ => isBlank c
  | _ => false

end CallTelemetry.Yaml
