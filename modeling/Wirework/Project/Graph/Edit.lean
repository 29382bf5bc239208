import Wirework.Project.Copy
import Wirework.Project.Graph

/-!
# Edits of a project graph

The edits keep three promises: the ends of every edge exist, every member of a group exists and
points back at its group, and a node that goes takes its edges and its membership along. An edit
that fails leaves the graph as it was, with two exceptions that need a graph from outside or an id
that was handed out before: the removal of edges stops at an edge kept under a key that is not its
id, and a copy of several nodes stops at the first one that cannot be copied or whose id is taken.
-/

namespace Wirework

namespace Graph

/-- The graph with unsaved changes, modified now. -/
def markDirty (g : Graph) (now : Moment) : Graph :=
  { g with dirty := true, about := g.about.touch now }

/-! ## Nodes -/

/-- The graph with a node under its id. The node joins the group it names; if there is none, it
forgets the name. -/
def placeNode (g : Graph) (n : Node) : Graph :=
  match n.groupId with
  | none => { g with nodes := g.nodes.insert n.id n }
  | some group =>
    if g.groups.contains group then
      { g with nodes := g.nodes.insert n.id n, groups := g.groups.modify group (·.addNode n.id) }
    else { g with nodes := g.nodes.insert n.id { n with groupId := none } }

def addNode (g : Graph) (now : Moment) (n : Node) : Except Failure Graph :=
  if g.hasNode n.id then .error (.nodeExists n.id) else .ok ((g.placeNode n).markDirty now)

/-- The edges without some of them, each removed by its id. The removal stops at an edge that is not
there. -/
def eraseEdges (g : Graph) : List Edge → Except Failure Unit × Graph
  | [] => (.ok (), g)
  | e :: rest =>
    if g.edges.contains e.id then eraseEdges { g with edges := g.edges.erase e.id } rest
    else (.error (.strayEdge e.id), g)

def removeEdgesFor (g : Graph) (now : Moment) (id : String) : Except Failure (List Edge) × Graph :=
  match g.edgesFor id with
  | [] => (.ok [], g)
  | doomed =>
    match g.eraseEdges doomed with
    | (.ok _, g) => (.ok doomed, g.markDirty now)
    | (.error f, g) => (.error f, g)

/-- The graph without a node, its edges and its memberships, and that node. -/
def removeNode (g : Graph) (now : Moment) (id : String) : Except Failure (Option Node) × Graph :=
  match g.node? id with
  | none => (.ok none, g)
  | some n =>
    match { g with nodes := g.nodes.erase id }.removeEdgesFor now id with
    | (.error f, g) => (.error f, g)
    | (.ok _, g) =>
      (.ok (some { n with groupId := none }),
        { g with groups := g.groups.mapValues (·.removeNode id) }.markDirty now)

/-! ## Edges -/

/-- Whether the ends of an edge exist, and its ports where it runs between ports. -/
def checkEnds (g : Graph) (e : Edge) : Except Failure Unit := do
  let source ← g.requireNode e.fromNode
  let target ← g.requireNode e.toNode
  if e.connection.connectsPorts then
    if (source.outputPort? e.fromPort).isNone then .error (.portNotFound e.fromNode e.fromPort)
    else if (target.inputPort? e.toPort).isNone then .error (.portNotFound e.toNode e.toPort)
    else .ok ()
  else .ok ()

def addEdge (g : Graph) (now : Moment) (e : Edge) : Except Failure Graph :=
  if g.edges.contains e.id then .error (.edgeExists e.id)
  else (g.checkEnds e).map fun _ => { g with edges := g.edges.insert e.id e }.markDirty now

def removeEdge (g : Graph) (now : Moment) (id : String) : Option Edge × Graph :=
  match g.edge? id with
  | none => (none, g)
  | some e => (some e, { g with edges := g.edges.erase id }.markDirty now)

/-! ## Groups -/

/-- The graph with a node as a member of a group, and of no other one that it names. -/
def attach (g : Graph) (nodeId groupKey : String) : Graph :=
  match g.node? nodeId, g.group? groupKey with
  | some n, some group =>
    let groups :=
      match n.groupId with
      | some previous =>
        if previous = group.id then g.groups else g.groups.modify previous (·.removeNode nodeId)
      | none => g.groups
    { g with
      groups := groups.modify groupKey (·.addNode nodeId)
      nodes := g.nodes.modify nodeId fun n => { n with groupId := some group.id } }
  | _, _ => g

/-- The members that a new group lists, each attached if it exists and struck off otherwise. -/
def enlist (g : Graph) (groupKey : String) : List String → Graph
  | [] => g
  | id :: rest =>
    if g.hasNode id then (g.attach id groupKey).enlist groupKey rest
    else { g with groups := g.groups.modify groupKey (·.removeNode id) }.enlist groupKey rest

def addGroup (g : Graph) (now : Moment) (group : Group) : Except Failure Graph :=
  if g.groups.contains group.id then .error (.groupExists group.id)
  else
    let g := { g with groups := g.groups.insert group.id group }
    .ok ((g.enlist group.id group.nodeIds).markDirty now)

def addToGroup (g : Graph) (now : Moment) (nodeId groupId : String) : Except Failure Graph := do
  let _ ← g.requireNode nodeId
  if g.groups.contains groupId then .ok ((g.attach nodeId groupId).markDirty now)
  else .error (.groupNotFound groupId)

/-- The graph with a node outside of its group, and whether it was in one. -/
def removeFromGroup (g : Graph) (now : Moment) (nodeId : String) : Except Failure (Bool × Graph) := do
  let n ← g.requireNode nodeId
  match n.groupId with
  | none => .ok (false, g)
  | some group =>
    let g := { g with
      groups := g.groups.modify group (·.removeNode nodeId)
      nodes := g.nodes.modify nodeId fun n => { n with groupId := none } }
    .ok (true, g.markDirty now)

/-- The graph without a group, and that group. Its members stay, and the groups inside it become
outermost. -/
def removeGroup (g : Graph) (now : Moment) (id : String) : Option Group × Graph :=
  match g.group? id with
  | none => (none, g)
  | some group =>
    let leave := fun (nodes : Dict Node) (member : String) =>
      nodes.modify member fun n => if n.groupId = some id then { n with groupId := none } else n
    let orphan := fun other : Group =>
      if other.parentId = some id then { other with parentId := none } else other
    (some group,
      { g with
        nodes := group.nodeIds.foldl leave g.nodes
        groups := (g.groups.erase id).mapValues orphan }.markDirty now)

/-- The graph without a group, and the former members of that group. -/
def ungroup (g : Graph) (now : Moment) (id : String) : Except Failure (List String × Graph) :=
  match g.removeGroup now id with
  | (some group, g) => .ok (group.nodeIds, g)
  | (none, _) => .error (.groupNotFound id)

def clear (g : Graph) (now : Moment) : Graph :=
  { g with nodes := .empty, edges := .empty, groups := .empty }.markDirty now

end Graph

/-! ## Edits as data -/

/-- A graph with the source of its ids. -/
structure Workspace where
  graph : Graph
  mint : Mint
  deriving Inhabited

/-- Something done to a workspace. What was changed before a failure stays changed. -/
abbrev Store := ExceptT Failure (StateM Workspace)

namespace Store

/-- Builds a new thing with ids from the workspace. -/
def build (make : StateM Mint α) : Store α := fun w =>
  let (a, mint) := make w.mint
  (.ok a, { w with mint })

/-- Copies a thing with ids from the workspace, if it can be copied. -/
def copy (make : ExceptT Failure (StateM Mint) α) : Store α := fun w =>
  let (a, mint) := make w.mint
  (a, { w with mint })

def change (f : Graph → Moment → Except Failure Graph) : Store Unit := fun w =>
  match f w.graph w.mint.now with
  | .ok graph => (.ok (), { w with graph })
  | .error e => (.error e, w)

/-- Applies a change that gives an answer and the next graph. -/
def update (f : Graph → Moment → Except Failure α × Graph) : Store α := fun w =>
  match f w.graph w.mint.now with
  | (answer, graph) => (answer, { w with graph })

def require (id : String) : Store Node := fun w => (w.graph.requireNode id, w)

/-- Copies a node under a fresh id; edges are not copied. -/
def duplicateNode (id : String) : Store String := do
  let n ← require id
  let twin ← copy n.duplicate
  change fun g now => g.addNode now twin
  return twin.id

/-- Copies nodes one after the other, each once, and lists the ids of the copies by node. -/
def duplicateEach (copies : Dict String) : List String → Store (Dict String)
  | [] => return copies
  | id :: rest => do
    if copies.contains id then duplicateEach copies rest
    else
      let copy ← duplicateNode id
      duplicateEach (copies.insert id copy) rest

def copyEdges (copies : Dict String) : List Edge → Store Unit
  | [] => return
  | e :: rest => do
    match copies.get? e.fromNode, copies.get? e.toNode with
    | some source, some target =>
      let twin ← copy (e.duplicate (some source) (some target))
      update fun g _ => (.ok (), { g with edges := g.edges.insert twin.id twin })
      copyEdges copies rest
    | _, _ => copyEdges copies rest

/-- Copies nodes together with the edges among them. -/
def duplicateNodes (ids : List String) : Store (Dict String) := do
  ids.forM fun id => discard (require id)
  let copies ← duplicateEach .empty ids
  copyEdges copies (← get).graph.edges.values
  update fun g now => (.ok (), g.markDirty now)
  return copies

def createGroup (name : String) (ids : List String) : Store String := do
  ids.forM fun id => discard (require id)
  let group ← build (Group.create name)
  change fun g now => g.addGroup now group
  ids.forM fun id => change fun g now => g.addToGroup now id group.id
  return group.id

end Store

inductive Edit where
  | addNode (node : Node)
  | createNode (componentType name : String)
  | removeNode (id : String)
  | duplicateNode (id : String)
  | duplicateNodes (ids : List String)
  | addEdge (edge : Edge)
  | connect (fromNode fromPort toNode toPort : String) (connection : Connection)
  | addRelationship (fromNode toNode : String) (relation : Relation)
  | addDependency (fromNode toNode : String)
  | removeEdge (id : String)
  | removeEdgesFor (nodeId : String)
  | addGroup (group : Group)
  | createGroup (name : String) (nodeIds : List String)
  | removeGroup (id : String)
  | addToGroup (nodeId groupId : String)
  | removeFromGroup (nodeId : String)
  | ungroup (id : String)
  | clear

/-- What an edit answers. Nodes, edges and groups are answered by their ids. -/
inductive Edit.Answer where
  | nothing
  | flag (b : Bool)
  | id (id : String)
  | found (id : Option String)
  | ids (ids : List String)
  /-- Each copied node with its copy. -/
  | copies (copies : Dict String)

def Edit.run : Edit → Store Edit.Answer
  | .addNode n => do
    Store.change fun g now => g.addNode now n
    return .id n.id
  | .createNode componentType name => do
    let n ← Store.build (Node.create componentType name)
    Store.change fun g now => g.addNode now n
    return .id n.id
  | .removeNode id => do
    let gone ← Store.update fun g now => g.removeNode now id
    return .found (gone.map (·.id))
  | .duplicateNode id => return .id (← Store.duplicateNode id)
  | .duplicateNodes ids => return .copies (← Store.duplicateNodes ids)
  | .addEdge e => addEdge (pure e)
  | .connect a p b q connection => addEdge (Edge.create a p b q connection)
  | .addRelationship a b relation => addEdge (Edge.relationship a b relation)
  | .addDependency a b => addEdge (Edge.dependency a b)
  | .removeEdge id => do
    let gone ← Store.update fun g now => let (e, g) := g.removeEdge now id; (.ok e, g)
    return .found (gone.map (·.id))
  | .removeEdgesFor id => do
    let gone ← Store.update fun g now => g.removeEdgesFor now id
    return .ids (gone.map (·.id))
  | .addGroup group => do
    Store.change fun g now => g.addGroup now group
    return .id group.id
  | .createGroup name ids => return .id (← Store.createGroup name ids)
  | .removeGroup id => do
    let gone ← Store.update fun g now => let (group, g) := g.removeGroup now id; (.ok group, g)
    return .found (gone.map (·.id))
  | .addToGroup node group => do
    Store.change fun g now => g.addToGroup now node group
    return .nothing
  | .removeFromGroup node => do
    let was ← Store.update fun g now =>
      match g.removeFromGroup now node with
      | .ok (was, g) => (.ok was, g)
      | .error f => (.error f, g)
    return .flag was
  | .ungroup id => do
    let members ← Store.update fun g now =>
      match g.ungroup now id with
      | .ok (members, g) => (.ok members, g)
      | .error f => (.error f, g)
    return .ids members
  | .clear => do
    Store.update fun g now => (.ok (), g.clear now)
    return .nothing
where
  addEdge (make : StateM Mint Edge) : Store Edit.Answer := do
    let e ← Store.build make
    Store.change fun g now => g.addEdge now e
    return .id e.id

end Wirework
