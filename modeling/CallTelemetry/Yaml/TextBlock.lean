import CallTelemetry.Yaml.Line

/-!
# Blocks of text

A literal block keeps the line breaks of the lines below it, and a folded block joins lines that are
neither empty nor indented further. Marks behind the indicator say what becomes of the last line breaks
and may give the indentation, which otherwise is that of the first line with a text.
-/

namespace CallTelemetry.Yaml

/-- What becomes of the line breaks at the end of a block. -/
inductive Chomp where
  | strip
  | clip
  | keep

/-- A digit from one to nine. -/
def indentDigit? (c : Char) : Option Nat :=
  if '1' ≤ c ∧ c ≤ '9' then some (c.toNat - 48) else none

/-- The marks after the indicator of a block, and nothing else but a comment. -/
def readChomp (cs : List Char) : Option (Chomp × Option Nat) :=
  let isMark (c : Char) : Bool := c = '-' || c = '+' || c.isDigit
  if !isVoid (cs.dropWhile isMark) then none
  else
    match cs.takeWhile isMark with
    | [] => some (.clip, none)
    | ['-'] => some (.strip, none)
    | ['+'] => some (.keep, none)
    | [d] => (indentDigit? d).map fun n => (.clip, some n)
    | [d, '-'] | ['-', d] => (indentDigit? d).map fun n => (.strip, some n)
    | [d, '+'] | ['+', d] => (indentDigit? d).map fun n => (.keep, some n)
    | _ => none

/-- Joins the lines of folded text: a break between two lines that are neither empty nor indented
becomes a space. -/
def foldLines : List (List Char) → List Char
  | [] => []
  | [line] => line
  | line :: next :: more =>
    let solid (l : List Char) : Bool := !l.isEmpty && !(l.head?.any isBlank)
    if solid line && solid next then line ++ ' ' :: foldLines (next :: more)
    else if solid line && next.isEmpty then
      let empty := (next :: more).takeWhile List.isEmpty
      let after := (next :: more).dropWhile List.isEmpty
      let breaks := if solid (after.headD []) then empty.length else empty.length + 1
      line ++ List.replicate breaks '\n' ++ foldLines ((next :: more).dropWhile List.isEmpty)
    else line ++ '\n' :: foldLines (next :: more)
termination_by lines => lines.length
decreasing_by
  all_goals simp_wf
  have := (List.dropWhile_suffix (l := next :: more) List.isEmpty).length_le
  simp only [List.length_cons] at this
  omega

/-- The text of a block below a line, and the lines after it. -/
def readBlock (folded : Bool) (min : Nat) (marks : List Char) (lines : List Line) :
    Option (List Char × List Line) := do
  let (chomp, explicit) ← readChomp marks
  let indent := match explicit with
    | some n => min - 1 + n
    | none => max min (((lines.find? fun l => !l.text.isEmpty).map (·.indent)).getD min)
  let inside (l : Line) : Bool := l.text.isEmpty || indent ≤ l.indent
  let body := (lines.takeWhile inside).map fun l => l.chars.drop indent
  let text := (body.reverse.dropWhile List.isEmpty).reverse
  let trailing := body.length - text.length
  let joined := if folded then foldLines text else (['\n'].intercalate text)
  let ending := match chomp with
    | .strip => []
    | .clip => if text.isEmpty then [] else ['\n']
    | .keep => List.replicate (if text.isEmpty then trailing else trailing + 1) '\n'
  return (joined ++ ending, lines.dropWhile inside)

end CallTelemetry.Yaml
