import CallTelemetry.Yaml.Scalar

/-!
# Nodes of a document

A node is a scalar, a sequence or a mapping, perhaps with a tag and with an anchor under which later
nodes may refer to it. `Node.toJson?` follows the references: each stands for the value of the anchor
that was set last before it. Of a repeated name in a mapping the last value counts.
-/

namespace CallTelemetry.Yaml

/-- A node as it is written. -/
inductive Node where
  | scalar (text : List Char) (plain : Bool)
  | sequence (items : List Node)
  | mapping (members : List (String × Node))
  | tagged (tag : Tag) (node : Node)
  | anchored (anchor : String) (node : Node)
  | reference (anchor : String)

/-- The values of the anchors that have been set, the last one first. -/
abbrev Anchors := List (String × Json)

namespace Node

/-- What stands where nothing is written. -/
def empty : Node := .scalar [] true

mutual

/-- The value of a node, and the anchors after it. -/
def value? (known : Anchors) : Node → Option (Json × Anchors)
  | .scalar text plain => some (if plain then resolve text else .str (String.ofList text), known)
  | .sequence items => (items? known items).map fun (values, known) => (.arr values, known)
  | .mapping members => (members? known members).map fun (values, known) => (Json.ofMembers values, known)
  | .tagged tag node =>
    match node with
    | .scalar text _ => (tag.resolve text).map fun j => (j, known)
    | _ => value? known node
  | .anchored anchor node => (value? known node).map fun (j, known) => (j, (anchor, j) :: known)
  | .reference anchor => (known.lookup anchor).map fun j => (j, known)

/-- The values of nodes in order. -/
def items? (known : Anchors) : List Node → Option (List Json × Anchors)
  | [] => some ([], known)
  | node :: rest => do
    let (j, known) ← value? known node
    let (more, known) ← items? known rest
    return (j :: more, known)

/-- The values of members in order. -/
def members? (known : Anchors) : List (String × Node) → Option (List (String × Json) × Anchors)
  | [] => some ([], known)
  | (name, node) :: rest => do
    let (j, known) ← value? known node
    let (more, known) ← members? known rest
    return ((name, j) :: more, known)

end

/-- The value of a whole document. -/
def toJson? (node : Node) : Option Json := (node.value? []).map (·.1)

end Node

/-- The tag and the anchor before a node. -/
structure Marks where
  tag : Option Tag := none
  anchor : Option String := none

namespace Marks

def isEmpty (m : Marks) : Bool := m.tag.isNone && m.anchor.isNone

/-- A node with marks. A reference takes none. -/
def apply (m : Marks) (node : Node) : Option Node :=
  match node with
  | .reference _ => if m.isEmpty then some node else none
  | _ =>
    let node := match m.tag with
      | some tag => .tagged tag node
      | none => node
    some (match m.anchor with
      | some anchor => .anchored anchor node
      | none => node)

end Marks

end CallTelemetry.Yaml
