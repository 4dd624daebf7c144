import CallTelemetry.Yaml.Node
import CallTelemetry.Yaml.Quoted

/-!
# Flow collections

Sequences in brackets and mappings in braces, which may run over several lines without regard to
indentation, and the scalars in them. A name in a mapping may lack its value, and an item of a sequence
may be a mapping with one member that is written without braces.
-/

namespace CallTelemetry.Yaml

/-- Whether a colon with this after it ends a name. -/
def endsName : List Char → Bool
  | [] => true
  | c :: _ => isBlank c || c = '\n'

/-- Whether a character cannot start a plain scalar. -/
def isIndicator (c : Char) : Bool := ",[]\x7b\x7d#&*!|>'\"%@`".toList.contains c

/-- Whether a plain scalar can start here. -/
def startsPlain : List Char → Bool
  | [] => false
  | c :: rest =>
    if c = '-' || c = '?' || c = ':' then !endsName rest else !isIndicator c

def isAnchorChar (c : Char) : Bool := c.isAlphanum || c = '_' || c = '-'

/-- Whether a character delimits the parts of a flow collection. -/
def isDelimiter (c : Char) : Bool := c = ',' || c = '[' || c = ']' || c = '\x7b' || c = '\x7d'

/-- Whether a mark or a reference may end here. -/
def endsMark (cs : List Char) : Bool :=
  endsName cs || cs.head?.any isDelimiter

/-- The marks at the head of a text and what follows them. Each kind of mark may come once, and of the
tags only those of the core schema are known. -/
def readMarks : Nat → Marks → List Char → Option (Marks × List Char)
  | 0, marks, cs => some (marks, cs)
  | n + 1, marks, cs =>
    match cs with
    | '&' :: rest =>
      let name := rest.takeWhile isAnchorChar
      let rest := rest.dropWhile isAnchorChar
      if name.isEmpty || marks.anchor.isSome || !endsMark rest then none
      else readMarks n { marks with anchor := some (String.ofList name) } (skipBlanks rest)
    | '!' :: '!' :: rest =>
      let name := rest.takeWhile isAnchorChar
      let rest := rest.dropWhile isAnchorChar
      if name.isEmpty || marks.tag.isSome || !endsMark rest then none
      else readMarks n { marks with tag := some (Tag.ofName (String.ofList name)) } (skipBlanks rest)
    | '!' :: _ => none
    | cs => some (marks, cs)

/-- A reference after its star, and what follows it. -/
def readReference (cs : List Char) : Option (Node × List Char) :=
  let name := cs.takeWhile isAnchorChar
  let rest := cs.dropWhile isAnchorChar
  if name.isEmpty || !endsMark rest then none else some (.reference (String.ofList name), rest)

/-- Skips blanks, line breaks and comments between the parts of a flow collection. -/
def skipFlow : Nat → List Char → List Char
  | 0, cs => cs
  | _ + 1, [] => []
  | fuel + 1, c :: rest =>
    if isBlank c || c = '\n' then skipFlow fuel rest
    else if c = '#' then skipFlow fuel (rest.dropWhile (· ≠ '\n'))
    else c :: rest

/-- The rest of a plain scalar in a flow collection. A colon right before a delimiter is refused. -/
def readFlowPlain : Nat → List Char → List Char → Option (List Char × List Char)
  | 0, _, _ => none
  | _ + 1, done, [] => some (done.reverse, [])
  | fuel + 1, done, c :: rest =>
    if isDelimiter c || (c = ':' && endsName rest) || (c = '#' && done.head?.any isBlank) then
      some (done.reverse, c :: rest)
    else if c = ':' && rest.head?.any (fun d => isDelimiter d || d = '?') then none
    else if c = '\n' then
      let (breaks, rest) := skipBreaks 1 rest
      readFlowPlain fuel (fold done breaks) rest
    else readFlowPlain fuel (c :: done) rest

/-- A scalar in a flow collection: its characters, whether it is plain, and the rest. -/
def readFlowScalar (fuel : Nat) (cs : List Char) : Option (List Char × Bool × List Char) :=
  match cs with
  | '"' :: rest => (readDouble fuel [] rest).map fun (s, rest) => (s, false, rest)
  | '\'' :: rest => (readSingle fuel [] rest).map fun (s, rest) => (s, false, rest)
  | cs =>
    if startsPlain cs then
      (readFlowPlain fuel [] cs).map fun (s, rest) => (dropTrailing s, true, rest)
    else none

/-- Whether a node may be missing here. -/
def isMissing (cs : List Char) : Bool :=
  cs.head?.any fun c => c = ',' || c = ']' || c = '\x7d'

mutual

/-- A node in a flow collection. -/
def readFlow : Nat → List Char → Option (Node × List Char)
  | 0, _ => none
  | fuel + 1, cs => do
    let (marks, cs) ← readMarks 3 {} cs
    let cs := skipFlow fuel cs
    let (node, rest) ←
      match cs with
      | '[' :: rest => readFlowItems fuel [] (skipFlow fuel rest)
      | '\x7b' :: rest => readFlowMembers fuel [] (skipFlow fuel rest)
      | '*' :: rest => readReference rest
      | cs =>
        if isMissing cs && !marks.isEmpty then some (Node.empty, cs)
        else (readFlowScalar fuel cs).map fun (s, plain, rest) => (Node.scalar s plain, rest)
    return (← marks.apply node, rest)

/-- The value after a colon, which may be missing. -/
def readFlowValue : Nat → List Char → Option (Node × List Char)
  | 0, _ => none
  | fuel + 1, cs =>
    let cs := skipFlow fuel cs
    if isMissing cs then some (Node.empty, cs) else readFlow fuel cs

/-- The items of a flow sequence from the next one on. -/
def readFlowItems : Nat → List Node → List Char → Option (Node × List Char)
  | 0, _, _ => none
  | fuel + 1, done, cs =>
    match cs with
    | ']' :: rest => some (.sequence done.reverse, rest)
    | cs => do
      let (item, rest) ← readFlow fuel cs
      let (item, rest) ←
        match item, skipFlow fuel rest with
        | .scalar name _, ':' :: rest => do
          let (value, rest) ← readFlowValue fuel rest
          some (Node.mapping [(String.ofList name, value)], rest)
        | item, rest => some (item, rest)
      match skipFlow fuel rest with
      | ',' :: rest => readFlowItems fuel (item :: done) (skipFlow fuel rest)
      | ']' :: rest => some (.sequence (item :: done).reverse, rest)
      | _ => none

/-- The members of a flow mapping from the next one on. -/
def readFlowMembers : Nat → List (String × Node) → List Char → Option (Node × List Char)
  | 0, _, _ => none
  | fuel + 1, done, cs =>
    match cs with
    | '\x7d' :: rest => some (.mapping done.reverse, rest)
    | cs => do
      let (name, _, rest) ← readFlowScalar fuel cs
      let (value, rest) ←
        match skipFlow fuel rest with
        | ':' :: rest => readFlowValue fuel rest
        | rest => some (Node.empty, rest)
      let done := (String.ofList name, value) :: done
      match skipFlow fuel rest with
      | ',' :: rest => readFlowMembers fuel done (skipFlow fuel rest)
      | '\x7d' :: rest => some (.mapping done.reverse, rest)
      | _ => none

end

end CallTelemetry.Yaml
