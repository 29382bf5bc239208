import Wirework.Project.About
import Wirework.Project.Edge
import Wirework.Project.Group
import Wirework.Project.Node
import Wirework.Text.Case

/-!
# Project graphs

A project graph owns the nodes, edges and groups of one project, each under a key. They refer to each
other by these keys only. Graphs that were built by the edits of this library keep every node and
edge under its own id; a graph that was read from a file need not.
-/

namespace Wirework

/-- All nodes, edges and groups of one project. -/
structure Graph where
  about : About
  nodes : Dict Node := .empty
  edges : Dict Edge := .empty
  groups : Dict Group := .empty
  /-- Whether there are changes that have not been saved. -/
  dirty : Bool := false
  deriving Inhabited

namespace Graph

def create (name : String) (now : Moment) : Graph := { about := .create name now }

/-! ## Nodes -/

def node? (g : Graph) (id : String) : Option Node := g.nodes.get? id

def edge? (g : Graph) (id : String) : Option Edge := g.edges.get? id

def group? (g : Graph) (id : String) : Option Group := g.groups.get? id

def hasNode (g : Graph) (id : String) : Bool := g.nodes.contains id

def requireNode (g : Graph) (id : String) : Except Failure Node :=
  match g.node? id with
  | some n => .ok n
  | none => .error (.nodeNotFound id)

def nodesOfType (g : Graph) (componentType : String) : List Node :=
  g.nodes.values.filter (·.componentType = componentType)

def nodesOfFamily (g : Graph) (family : String) : List Node :=
  g.nodes.values.filter fun n => Text.startsWith n.componentType family

def nodesNamedLike (g : Graph) (part : String) : List Node :=
  g.nodes.values.filter fun n => Text.containsFolded n.name part

def nodesOfCategory (g : Graph) (category : Category) : List Node :=
  g.nodes.values.filter (·.category = category)

def entities (g : Graph) : List Node := g.nodesOfType Component.entity

def entity? (g : Graph) (name : String) : Option Node := g.entities.find? (·.name = name)

def isEmpty (g : Graph) : Bool := g.nodes.isEmpty

/-! ## Connectivity -/

def edgesFor (g : Graph) (id : String) : List Edge := g.edges.values.filter (·.connectsTo id)

def incoming (g : Graph) (id : String) : List Edge := g.edges.values.filter (·.toNode = id)

def outgoing (g : Graph) (id : String) : List Edge := g.edges.values.filter (·.fromNode = id)

def edgesBetween (g : Graph) (a b : String) : List Edge := g.edges.values.filter (·.isBetween a b)

def areConnected (g : Graph) (a b : String) : Bool := g.edges.values.any (·.isBetween a b)

/-- The nodes one step away, in either direction. -/
def neighbours (g : Graph) (id : String) : List String :=
  ((g.edgesFor id).map (·.otherEnd id)).eraseDups

def sources (g : Graph) (id : String) : List String := ((g.incoming id).map (·.fromNode)).eraseDups

def targets (g : Graph) (id : String) : List String := ((g.outgoing id).map (·.toNode)).eraseDups

end Graph

end Wirework
