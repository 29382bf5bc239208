import Wirework.Record.Graph
import Wirework.Record.Nesting

/-!
# Copies

A copy of a node or of an edge is taken apart into data and read anew as a whole. What is nested too
deeply cannot be taken apart. A setting in metadata comes back as a map, and what was taken over from
a member of an enumeration as it stood is then a value like any other, which has to be an integer or a
bound by itself.
-/

namespace Wirework

/-! ## Taking apart -/

namespace Setting

mutual

/-- A setting as the map of its kind and its content. -/
def unpacked (v : Setting) : Data := .object [("kind", .kind v.kind), ("value", unpackedContent v)]

def unpackedContent : Setting → Data
  | .array items => .list (unpackedItems items)
  | .object entries => .object (unpackedEntries entries)
  | v => v.contentData

def unpackedItems : List Setting → List Data
  | [] => []
  | v :: rest => v.unpacked :: unpackedItems rest

def unpackedEntries : List (String × Setting) → List (String × Data)
  | [] => []
  | (key, v) :: rest => (key, v.unpacked) :: unpackedEntries rest

end

/-- Whether a setting that is an entry of a record can be taken apart at a depth. -/
def unpacks (depth : Nat) (v : Setting) : Bool := 2 * (depth + 1) + v.nesting ≤ 2 * Reading.depthLimit

end Setting

def DataType.unpacks (depth : Nat) (t : DataType) : Bool := depth + 1 + t.nesting ≤ Reading.depthLimit

namespace Data

/-- A value of metadata with its settings taken apart, as deep as there is room; below that it stays
as it is. -/
def unpacked : Nat → Data → Data
  | room + 1, .list items => .list (items.map (unpacked room))
  | room + 1, .tuple items => .tuple (items.map (unpacked room))
  | room + 1, .object entries => .object (entries.map fun e => (e.1, unpacked room e.2))
  | room + 1, .mapping pairs => .mapping (pairs.map fun e => (e.1, unpacked room e.2))
  | _ + 1, .setting v => v.unpacked
  | _, d => d

/-- Whether all settings that are taken apart in a value pass a test, given the room below them. -/
def allSettings (test : Nat → Setting → Bool) : Nat → Data → Bool
  | room + 1, .list items => items.all (allSettings test room)
  | room + 1, .tuple items => items.all (allSettings test room)
  | room + 1, .object entries => entries.all fun e => allSettings test room e.2
  | room + 1, .mapping pairs => pairs.all fun e => allSettings test room e.2
  | room + 1, .setting v => test room v
  | _, _ => true

/-- How deep values of metadata are taken apart. -/
def unpackedLevels : Nat := Reading.depthLimit - 1

end Data

def Dict.unpacks (d : Dict Data) : Bool :=
  d.values.all (Data.allSettings (fun room v => v.nesting ≤ 2 * room) Data.unpackedLevels)

def Dict.unpacked (d : Dict Data) : Dict Data := d.mapValues (Data.unpacked Data.unpackedLevels)

def Field.unpacks (f : Field) : Bool :=
  f.dataType.unpacks 0 && f.defaultValue.all (Setting.unpacks 0) && f.metadata.unpacks

def Field.unpacked (f : Field) : Field := { f with metadata := f.metadata.unpacked }

/-- A port of a node stands one level deeper than a field. -/
def Port.unpacks (p : Port) : Bool :=
  p.dataType.unpacks 1 && p.defaultValue.all (Setting.unpacks 1)

/-- Whether nothing in a node is nested too deeply to be taken apart. -/
def Node.unpacks (n : Node) : Bool :=
  n.fields.all Field.unpacks && n.ports.inputs.all Port.unpacks && n.ports.outputs.all Port.unpacks
    && n.config.values.all (Setting.unpacks 0) && n.metadata.unpacks

def Node.unpacked (n : Node) : Node :=
  { n with fields := n.fields.map Field.unpacked, metadata := n.metadata.unpacked }

def Edge.unpacked (e : Edge) : Edge := { e with metadata := e.metadata.unpacked }

/-! ## Reading anew -/

/-- What is read, or why it cannot be read. Ids that were drawn on the way are given back. -/
def Reading.result (r : Reading α) : ExceptT Failure (StateM Mint) α := do
  match r.run (← get) with
  | .ok (a, _) => return a
  | .error refusal => throw (.ofRefusal refusal)

def Data.without (keys : List String) : Data → Data
  | .object entries => .object (entries.filter fun e => !keys.contains e.1)
  | d => d

/-! ## Nodes -/

namespace Node

def copyOffset : Double := .ofRatio false 20 1

/-- The node as it is read from what it was taken apart into. -/
def renewed (n : Node) : ExceptT Failure (StateM Mint) Node := do
  if !n.unpacks then throw .overnested
  let data := (Record.toData n.unpacked).without ["id", "created_at", "modified_at"]
  (Record.read [] data : Reading Node).result

/-- A copy under a fresh id, with fresh field ids: renamed, moved aside and outside of groups. -/
def duplicate (n : Node) : ExceptT Failure (StateM Mint) Node := do
  let copy ← n.renewed
  let id ← modifyGet fun m : Mint => m.draw .node
  let now := (← get).now
  let fields ← copy.fields.mapM fun f => do
    let id ← modifyGet fun m : Mint => m.draw .field
    return { f with id }
  return { copy with
    id, fields
    name := n.name ++ " (copy)"
    position := n.position.offset copyOffset copyOffset
    groupId := none
    createdAt := now
    modifiedAt := now }

end Node

/-! ## Edges -/

namespace Edge

/-- The edge as it is read from what it was taken apart into, under a fresh id. -/
def renewed (e : Edge) : ExceptT Failure (StateM Mint) Edge := do
  if !e.metadata.unpacks then throw .overnested
  let copy ← (Record.read [] ((Record.toData e.unpacked).without ["id"]) : Reading Edge).result
  let id ← modifyGet fun m : Mint => m.draw .edge
  return { copy with id }

/-- A new edge the other way round; the cardinality turns with it. -/
def reverse (e : Edge) : ExceptT Failure (StateM Mint) Edge :=
  renewed { e with
    fromNode := e.toNode
    fromPort := e.toPort
    toNode := e.fromNode
    toPort := e.fromPort
    relation := e.relation.map Relation.flip }

/-- A copy under a fresh id, with new ends where they are given. -/
def duplicate (e : Edge) (fromNode toNode : Option String := none) :
    ExceptT Failure (StateM Mint) Edge :=
  renewed { e with fromNode := fromNode.getD e.fromNode, toNode := toNode.getD e.toNode }

end Edge

end Wirework
