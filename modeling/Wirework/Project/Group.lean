import Wirework.Dict
import Wirework.Mint
import Wirework.Ordinal
import Wirework.Project.Geometry

/-!
# Groups

Groups are containers that hold nodes by their ids, and may lie inside each other.
-/

namespace Wirework

def Group.defaultSize : Size := .ofNat 300 200

/-- A container of nodes. -/
structure Group where
  id : String
  name : String
  description : Option String := none
  position : Position := {}
  size : Size := Group.defaultSize
  nodeIds : List String := []
  parentId : Option String := none
  collapsed : Bool := false
  locked : Bool := false
  visible : Bool := true
  color : Option String := none
  tags : List String := []
  metadata : Dict Data := .empty
  /-- Groups are drawn behind nodes. -/
  zIndex : Ordinal := .int (-1)
  padding : Double := .ofRatio false 20 1
  deriving Inhabited

namespace Group

def create (name : String) : StateM Mint Group := do
  let id ← modifyGet fun m : Mint => m.draw .group
  return { id, name }

/-- The group with a member, which is kept once. -/
def addNode (g : Group) (nodeId : String) : Group :=
  if g.nodeIds.contains nodeId then g else { g with nodeIds := g.nodeIds ++ [nodeId] }

/-- The group without the first mention of a member. -/
def removeNode (g : Group) (nodeId : String) : Group :=
  { g with nodeIds := g.nodeIds.erase nodeId }

def containsNode (g : Group) (nodeId : String) : Bool := g.nodeIds.contains nodeId

def nodeCount (g : Group) : Nat := g.nodeIds.length

def withParent (g : Group) (parentId : Option String) : Group := { g with parentId }

def isChildOf (g : Group) (parentId : Option String) : Bool := g.parentId = parentId

def isRoot (g : Group) : Bool := g.parentId.isNone

end Group

end Wirework
