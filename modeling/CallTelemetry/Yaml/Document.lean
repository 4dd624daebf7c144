import CallTelemetry.Yaml.Block

/-!
# YAML documents

A text holds one document, perhaps between marks of its start and its end, or none. `mapping?` reads a
document that is a mapping; a text that holds nothing counts as a mapping without members.
-/

namespace CallTelemetry.Yaml

/-- Whether a line is a mark between documents: three dashes or three points, and perhaps more text. -/
def isMark (mark : Char) (l : Line) : Bool :=
  l.indent == 0 && l.text.take 3 == [mark, mark, mark] && (l.text.drop 3).head?.all isBlank

/-- Whether a line states a version of YAML that is known here. -/
def isVersion (l : Line) : Bool :=
  l.indent == 0 && (l.text.take 9 == "%YAML 1.1".toList || l.text.take 9 == "%YAML 1.2".toList) &&
    (l.text.drop 9).head?.all isBlank && isVoid (l.text.drop 9)

/-- Takes the version and the mark of the start off, and gives back what follows the mark on its line.
A version has to be followed by a mark. -/
def splitStart (lines : List Line) : Option (List Char × List Line) :=
  match skipVoid lines with
  | [] => some ([], [])
  | l :: rest =>
    if isVersion l then
      match skipVoid rest with
      | next :: more => if isMark '-' next then some (next.text.drop 3, more) else none
      | [] => none
    else if isMark '-' l then some (l.text.drop 3, rest)
    else some ([], l :: rest)

/-- The lines before the end of the document, none if another document follows. -/
def beforeEnd (lines : List Line) : Option (List Line) :=
  match lines.dropWhile fun l => !isMark '-' l && !isMark '.' l with
  | [] => some lines
  | l :: more =>
    if isMark '.' l && (skipVoid more).isEmpty then
      some (lines.takeWhile fun l => !isMark '-' l && !isMark '.' l)
    else none

/-- Whether a character may stand in a document. -/
def isAllowed (c : Char) : Bool :=
  c = '\t' || c = '\n' || c = '\r' || (0x20 ≤ c.toNat && c.toNat ≤ 0x7E) || c.toNat = 0x85 ||
    (0xA0 ≤ c.toNat && c.toNat ≤ 0xFFFD && c.toNat != 0xFEFF) || 0x10000 ≤ c.toNat

/-- The text of a document without a byte order mark. -/
def content (text : String) : List Char :=
  match text.toList with
  | '\uFEFF' :: rest => rest
  | cs => cs

/-- The node of the only document of a text. -/
def document? (text : String) : Option Node := do
  let cs := content text
  if !cs.all isAllowed then none
  let (head, lines) ← splitStart ((splitLines cs).map Line.ofChars)
  let lines ← beforeEnd lines
  let fuel := 4 * cs.length + 16
  let (node, rest) ← if isVoid head then readNode fuel 0 lines else readBehind fuel 0 0 head lines
  if (skipVoid rest).isEmpty then some node else none

/-- The members of a document that is a mapping or empty. -/
def mapping? (text : String) : Option (List (String × Json)) := do
  match ← document? text with
  | .scalar [] true => some []
  | node =>
    match ← node.toJson? with
    | .obj members => some members
    | _ => none

end CallTelemetry.Yaml
