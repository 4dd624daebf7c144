import CallTelemetry.Yaml.Flow
import CallTelemetry.Yaml.TextBlock

/-!
# Block collections

Mappings and sequences that are laid out by indentation. What follows the dash of a sequence entry is
taken as a line of its own with a larger indentation, so an entry is read like any other node. Names
are kept as texts; a name that is no scalar on one line is refused.
-/

namespace CallTelemetry.Yaml

/-- The plain text before a comment. `blank` says whether the last character was one. -/
def beforeComment (blank : Bool) : List Char → List Char
  | [] => []
  | c :: rest => if c = '#' && blank then [] else c :: beforeComment (isBlank c) rest

/-- A plain text up to the colon that ends a name, and what follows the colon. -/
def splitName : List Char → Option (List Char × List Char)
  | [] => none
  | c :: rest =>
    if c = ':' && endsName rest then some ([], rest)
    else (splitName rest).map fun (name, tail) => (c :: name, tail)

/-- The further lines of a plain scalar that are indented by at least `min`, and the lines after them.
A line with a name in it is no text. `done` holds the characters before, last one first. -/
def readPlainLines (min : Nat) (done : List Char) (breaks : Nat) :
    List Line → Option (List Char × List Line)
  | [] => some (done.reverse, [])
  | l :: rest =>
    let text := dropTrailing l.text
    if text.isEmpty then readPlainLines min done (breaks + 1) rest
    else if l.indent < min || text.head? = some '#' then some (done.reverse, l :: rest)
    else
      let part := beforeComment true text
      if (splitName part).isSome then none
      else
        let done := (dropTrailing part).reverse ++ fold done breaks
        if part.length < text.length then some (done.reverse, rest) else readPlainLines min done 1 rest

/-- A plain scalar that starts on a line. -/
def readPlain (min : Nat) (cs : List Char) (lines : List Line) : Option (List Char × List Line) :=
  let part := beforeComment true cs
  if !startsPlain cs || (splitName part).isSome then none
  else
    let first := dropTrailing part
    if part.length < cs.length then some (first, lines) else readPlainLines min first.reverse 1 lines

/-- Goes back to lines from the middle of the text of `cs` and of the lines below it. Nothing but a
comment may stand on the rest of the line. -/
def resume (cs : List Char) (lines : List Line) (node : Node) (rest : List Char) :
    Option (Node × List Line) :=
  let total := (cs ++ '\n' :: joinLines lines).count '\n'
  if isVoid (rest.takeWhile (· ≠ '\n')) then some (node, lines.drop (total - rest.count '\n')) else none

/-- A node that starts on a line and is no block collection. Its further lines are indented by at least
`min`. -/
def readInline (fuel min : Nat) (cs : List Char) (lines : List Line) : Option (Node × List Line) :=
  match cs with
  | '[' :: _ | '\x7b' :: _ | '"' :: _ | '\'' :: _ => do
    let (node, rest) ← readFlow fuel (cs ++ '\n' :: joinLines lines)
    resume cs lines node rest
  | '*' :: name => do
    let (node, rest) ← readReference name
    if isVoid rest then some (node, lines) else none
  | '|' :: marks => (readBlock false min marks lines).map fun (s, rest) => (.scalar s false, rest)
  | '>' :: marks => (readBlock true min marks lines).map fun (s, rest) => (.scalar s false, rest)
  | cs => (readPlain min cs lines).map fun (s, rest) => (.scalar s true, rest)

/-- The name at the start of a line of a mapping, and what follows its colon. -/
def readName (fuel : Nat) (cs : List Char) : Option (String × List Char) := do
  let (name, rest) ← match cs with
    | '"' :: rest => readDouble fuel [] rest
    | '\'' :: rest => readSingle fuel [] rest
    | cs =>
      if !startsPlain cs then none
      else (splitName (beforeComment true cs)).map fun (name, _) => (dropTrailing name, cs.drop name.length)
  match skipBlanks rest with
  | ':' :: rest => if endsName rest then some (String.ofList name, rest) else none
  | _ => none

mutual

/-- A node whose lines are indented by at least `min`. There may be none. -/
def readNode : Nat → Nat → List Line → Option (Node × List Line)
  | 0, _, _ => none
  | fuel + 1, min, lines =>
    match skipVoid lines with
    | [] => some (Node.empty, [])
    | l :: rest =>
      if l.indent < min then some (Node.empty, l :: rest)
      else if l.text.head? = some '\t' then none
      else if isDash l.text then readSequence fuel l.indent [] (l :: rest)
      else if (readName fuel l.text).isSome then readMapping fuel l.indent [] (l :: rest)
      else readBehind fuel min min l.text rest

/-- A node that starts behind something else on its line, or else below it: a sequence from the
indentation `dash` on, any other node from `min` on. -/
def readBehind : Nat → Nat → Nat → List Char → List Line → Option (Node × List Line)
  | 0, _, _, _, _ => none
  | fuel + 1, dash, min, cs, lines => do
    let (marks, cs) ← readMarks 3 {} (skipBlanks cs)
    let (node, rest) ←
      if isVoid cs then
        let least := if (skipVoid lines).head?.any fun l => isDash l.text then dash else min
        readNode fuel least lines
      else if isDash cs then none
      else readInline fuel min cs lines
    return (← marks.apply node, rest)

/-- The entries of a sequence whose dashes are indented by `indent`. -/
def readSequence : Nat → Nat → List Node → List Line → Option (Node × List Line)
  | 0, _, _, _ => none
  | fuel + 1, indent, done, lines =>
    match skipVoid lines with
    | [] => some (.sequence done.reverse, [])
    | l :: rest =>
      if indent < l.indent || l.text.head? = some '\t' then none
      else if l.indent < indent || !isDash l.text then some (.sequence done.reverse, l :: rest)
      else do
        let content := l.text.drop 1
        let lines :=
          if isVoid content then rest
          else ⟨indent + 1 + (content.takeWhile isBlank).length, skipBlanks content⟩ :: rest
        let (item, rest) ← readNode fuel (indent + 1) lines
        readSequence fuel indent (item :: done) rest

/-- The members of a mapping whose names are indented by `indent`. -/
def readMapping : Nat → Nat → List (String × Node) → List Line → Option (Node × List Line)
  | 0, _, _, _ => none
  | fuel + 1, indent, done, lines =>
    match skipVoid lines with
    | [] => some (.mapping done.reverse, [])
    | l :: rest =>
      if l.indent < indent then some (.mapping done.reverse, l :: rest)
      else if indent < l.indent || l.text.head? = some '\t' then none
      else do
        let (name, tail) ← readName fuel l.text
        let (value, rest) ← readBehind fuel indent (indent + 1) tail rest
        readMapping fuel indent ((name, value) :: done) rest

end

end CallTelemetry.Yaml
