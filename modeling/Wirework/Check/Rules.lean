import Wirework.Check.Cycle
import Wirework.Check.Issue

/-!
# Rules for projects

Each rule looks at a whole project and lists what it finds. A rule does not repeat what another rule
reports: edges with a missing end are left to the first one, and edges with a missing port to the
second.
-/

namespace Wirework

/-- A named test of projects. -/
structure ProjectRule where
  name : String
  findings : Graph → List Issue

namespace ProjectRule

/-- Edges and groups refer to nodes that exist. -/
def nodesExist : ProjectRule where
  name := "Node Existence"
  findings g :=
    let dangling := fun (e : Edge) (ending id : String) =>
      if g.hasNode id then []
      else [{
        kind := .danglingEdge
        message := "Edge references non-existent " ++ ending ++ " node: " ++ id
        edgeId := some e.id : Issue }]
    let missing := fun (group : Group) =>
      (group.nodeIds.filter fun id => !g.hasNode id).map fun id => {
        kind := .missingNode
        message := "Group '" ++ group.name ++ "' references non-existent node: " ++ id : Issue }
    (g.edges.values.flatMap fun e => dangling e "source" e.fromNode ++ dangling e "target" e.toNode)
      ++ g.groups.values.flatMap missing

def portsExist : ProjectRule where
  name := "Edge Validity"
  findings g :=
    let missing := fun (e : Edge) (ending portId : String) (n : Node) => {
      kind := .missingPort
      message := ending ++ " port '" ++ portId ++ "' not found on node '" ++ n.name ++ "'"
      edgeId := some e.id : Issue }
    (g.edges.values.filter (·.connection.connectsPorts)).flatMap fun e =>
      let source := (g.node? e.fromNode).filter fun n => (n.outputPort? e.fromPort).isNone
      let target := (g.node? e.toNode).filter fun n => (n.inputPort? e.toPort).isNone
      (source.map (missing e "Source" e.fromPort)).toList
        ++ (target.map (missing e "Target" e.toPort)).toList

/-- The two ports of an edge, where both exist. -/
def portsOf? (g : Graph) (e : Edge) : Option (Port × Port) := do
  let source ← g.node? e.fromNode
  let target ← g.node? e.toNode
  let output ← source.outputPort? e.fromPort
  let input ← target.inputPort? e.toPort
  return (output, input)

/-- The ports at the ends of an edge can be connected. Relationships are not asked. -/
def portsFit : ProjectRule where
  name := "Port Compatibility"
  findings g :=
    (g.edges.values.filter fun e => !e.isRelationship).filterMap fun e => do
      let (output, input) ← portsOf? g e
      if output.canConnectTo input then none
      else some {
        kind := .incompatiblePorts
        message := "Port types are incompatible: " ++ output.name ++ " ("
          ++ output.dataType.displayName ++ ") -> " ++ input.name ++ " ("
          ++ input.dataType.displayName ++ ")"
        edgeId := some e.id }

/-- The nodes that share component type and name with an earlier one; `seen` holds those that were
the first of theirs. -/
def repeatedNames (seen : List Node) : List Node → List Issue
  | [] => []
  | n :: rest =>
    match seen.find? fun s => s.componentType = n.componentType && s.name = n.name with
    | some first =>
      { kind := .duplicateNodeName
        message := "Duplicate node name '" ++ n.name ++ "' (conflicts with node " ++ first.id ++ ")"
        nodeId := some n.id } :: repeatedNames seen rest
    | none => repeatedNames (n :: seen) rest

/-- Names are unique within each component type. -/
def uniqueNames : ProjectRule where
  name := "Unique Names"
  findings g := repeatedNames [] g.nodes.values

def primaryKeys : ProjectRule where
  name := "Entity Primary Key"
  findings g :=
    (g.entities.filter (·.primaryKeyFields.isEmpty)).map fun n => {
      kind := .missingPrimaryKey
      message := "Entity '" ++ n.name ++ "' has no primary key field"
      severity := .warning
      nodeId := some n.id }

/-- Data does not flow in cycles. At most one node is reported. -/
def noCycles : ProjectRule where
  name := "Cyclic Dependency"
  findings g :=
    match g.cycleNode? with
    | some id => [{
        kind := .cyclicDependency
        message := "Cyclic dependency detected in data flow"
        nodeId := some id }]
    | none => []

def neverFilled (f : Field) : Bool :=
  f.required && f.readOnly && !f.isPrimaryKey && f.defaultValue.isNone

def hasIdentity (n : Node) : Bool := n.hasField "email" || n.hasField "username"

/-- Required fields can be filled, and logins know who signs in. -/
def requiredFields : ProjectRule where
  name := "Required Fields"
  findings g :=
    let unfilled := fun (n : Node) =>
      (n.fields.filter neverFilled).map fun f => {
        kind := .missingRequiredField
        message := "Field '" ++ f.name ++ "' on entity '" ++ n.name
          ++ "' is required and read-only but has no default value"
        severity := .warning
        nodeId := some n.id : Issue }
    let anonymous := (g.nodesOfType Component.login).filter fun n => !hasIdentity n
    g.entities.flatMap unfilled ++ anonymous.map fun n => {
      kind := .missingRequiredField
      message := "Login '" ++ n.name ++ "' has no email or username field; 'email' will be used"
      severity := .info
      nodeId := some n.id }

/-- Relationships join entities. -/
def relationshipEnds : ProjectRule where
  name := "Relationship Targets"
  findings g :=
    (g.edges.values.filter (·.isRelationship)).flatMap fun e =>
      match g.node? e.fromNode, g.node? e.toNode with
      | some source, some target =>
        ([source, target].filter fun n => !n.isEntity).map fun n => {
          kind := .invalidRelationship
          message := "Relationship edge touches non-entity node '" ++ n.name ++ "' ("
            ++ n.componentType ++ ")"
          severity := .warning
          edgeId := some e.id }
      | _, _ => []

def builtin : List ProjectRule :=
  [nodesExist, portsExist, portsFit, uniqueNames, primaryKeys, noCycles, requiredFields,
    relationshipEnds]

end ProjectRule

end Wirework
