import Wirework.Dict
import Wirework.Mint
import Wirework.Ordinal
import Wirework.Project.Geometry
import Wirework.Project.Vocabulary

/-!
# Edges

An edge runs from an output port of one node to an input port of another. Relationships and
dependencies join whole nodes; their port ids are conventional.
-/

namespace Wirework

structure EdgeStyle where
  color : Option String := none
  width : Double := .ofRatio false 2 1
  dashed : Bool := false
  animated : Bool := false
  deriving DecidableEq, Inhabited

/-- A connection between two nodes. -/
structure Edge where
  id : String
  fromNode : String
  fromPort : String
  toNode : String
  toPort : String
  connection : Connection := .dataFlow
  /-- The cardinality of a relationship. -/
  relation : Option Relation := none
  dataMapping : Dict String := .empty
  label : Option String := none
  enabled : Bool := true
  style : EdgeStyle := {}
  description : Option String := none
  metadata : Dict Data := .empty
  waypoints : List Position := []
  zIndex : Ordinal := 0
  deriving Inhabited

namespace Edge

/-! ## New edges -/

def create (fromNode fromPort toNode toPort : String) (connection : Connection) :
    StateM Mint Edge := do
  let id ← modifyGet fun m : Mint => m.draw .edge
  return { id, fromNode, fromPort, toNode, toPort, connection }

def dataFlow (fromNode fromPort toNode toPort : String) : StateM Mint Edge :=
  create fromNode fromPort toNode toPort .dataFlow

def trigger (fromNode fromPort toNode toPort : String) : StateM Mint Edge := do
  let e ← create fromNode fromPort toNode toPort .trigger
  return { e with style := { dashed := true } }

def navigation (fromNode fromPort toNode toPort : String) : StateM Mint Edge :=
  create fromNode fromPort toNode toPort .navigation

/-- A relationship between two entities, labelled with its cardinality. -/
def relationship (fromNode toNode : String) (relation : Relation) : StateM Mint Edge := do
  let e ← create fromNode "entity" toNode "entity" .relationship
  return { e with relation := some relation, label := some relation.arrow }

def dependency (fromNode toNode : String) : StateM Mint Edge := do
  let e ← create fromNode "out" toNode "in" .dependency
  return { e with style := { dashed := true } }

/-! ## Changes -/

def withLabel (e : Edge) (label : Option String) : Edge := { e with label }

def withMapping (e : Edge) (source target : String) : Edge :=
  { e with dataMapping := e.dataMapping.insert source target }

/-! ## Queries -/

def connectsTo (e : Edge) (nodeId : String) : Bool := e.fromNode = nodeId || e.toNode = nodeId

def isFromTo (e : Edge) (fromNode toNode : String) : Bool :=
  e.fromNode = fromNode && e.toNode = toNode

def isBetween (e : Edge) (a b : String) : Bool := e.isFromTo a b || e.isFromTo b a

def isSelfReference (e : Edge) : Bool := e.fromNode = e.toNode

def isDataFlow (e : Edge) : Bool := e.connection = .dataFlow

def isRelationship (e : Edge) : Bool := e.connection = .relationship

/-- The cardinality, which counts only on a relationship. -/
def relation? (e : Edge) : Option Relation := if e.isRelationship then e.relation else none

def otherEnd (e : Edge) (nodeId : String) : String :=
  if e.fromNode = nodeId then e.toNode else e.fromNode

end Edge

end Wirework
