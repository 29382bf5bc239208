import Wirework.Labelled

/-!
# Findings

What the checks of a project report: a kind, a message, how severe it is, and the node or edge that
it concerns. Only errors make a project invalid.
-/

namespace Wirework

/-- How severe a finding is, from `info` up to `error`. -/
inductive Severity where
  | info | warning | error
  deriving DecidableEq, Inhabited

namespace Severity

instance : Labelled Severity where
  all := [.info, .warning, .error]
  label
    | .info => "info"
    | .warning => "warning"
    | .error => "error"

def rank : Severity → Nat
  | .info => 0
  | .warning => 1
  | .error => 2

/-- Whether a finding is at least as severe as another. -/
def atLeast (s other : Severity) : Bool := other.rank ≤ s.rank

/-- The severity in capitals, in front of a finding's message. -/
def banner : Severity → String
  | .info => "INFO"
  | .warning => "WARNING"
  | .error => "ERROR"

end Severity

inductive IssueKind where
  | emptyGraph | cyclicDependency | disconnectedNodes | invalidConnection
  | missingNode | duplicateNodeName | invalidNodeType
  | missingRequiredField | invalidFieldType | invalidFieldValue
  | missingEdge | danglingEdge | invalidEdgeType
  | incompatiblePorts | duplicateEdge | missingPort | unconnectedRequiredPort
  | multipleConnectionsOnSinglePort
  | invalidDatabaseConfig | invalidApiConfig | invalidSchema | missingPrimaryKey
  | invalidRelationship | circularReference | custom
  deriving DecidableEq, Inhabited

namespace IssueKind

instance : Labelled IssueKind where
  all := [.emptyGraph, .cyclicDependency, .disconnectedNodes, .invalidConnection, .missingNode,
    .duplicateNodeName, .invalidNodeType, .missingRequiredField, .invalidFieldType,
    .invalidFieldValue, .missingEdge, .danglingEdge, .invalidEdgeType, .incompatiblePorts,
    .duplicateEdge, .missingPort, .unconnectedRequiredPort, .multipleConnectionsOnSinglePort,
    .invalidDatabaseConfig, .invalidApiConfig, .invalidSchema, .missingPrimaryKey,
    .invalidRelationship, .circularReference, .custom]
  label
    | .emptyGraph => "empty_graph"
    | .cyclicDependency => "cyclic_dependency"
    | .disconnectedNodes => "disconnected_nodes"
    | .invalidConnection => "invalid_connection"
    | .missingNode => "missing_node"
    | .duplicateNodeName => "duplicate_node_name"
    | .invalidNodeType => "invalid_node_type"
    | .missingRequiredField => "missing_required_field"
    | .invalidFieldType => "invalid_field_type"
    | .invalidFieldValue => "invalid_field_value"
    | .missingEdge => "missing_edge"
    | .danglingEdge => "dangling_edge"
    | .invalidEdgeType => "invalid_edge_type"
    | .incompatiblePorts => "incompatible_ports"
    | .duplicateEdge => "duplicate_edge"
    | .missingPort => "missing_port"
    | .unconnectedRequiredPort => "unconnected_required_port"
    | .multipleConnectionsOnSinglePort => "multiple_connections_on_single_port"
    | .invalidDatabaseConfig => "invalid_database_config"
    | .invalidApiConfig => "invalid_api_config"
    | .invalidSchema => "invalid_schema"
    | .missingPrimaryKey => "missing_primary_key"
    | .invalidRelationship => "invalid_relationship"
    | .circularReference => "circular_reference"
    | .custom => "custom"

def displayName : IssueKind → String
  | .emptyGraph => "Empty Graph"
  | .cyclicDependency => "Cyclic Dependency"
  | .disconnectedNodes => "Disconnected Nodes"
  | .invalidConnection => "Invalid Connection"
  | .missingNode => "Missing Node"
  | .duplicateNodeName => "Duplicate Node Name"
  | .invalidNodeType => "Invalid Node Type"
  | .missingRequiredField => "Missing Required Field"
  | .invalidFieldType => "Invalid Field Type"
  | .invalidFieldValue => "Invalid Field Value"
  | .missingEdge => "Missing Edge"
  | .danglingEdge => "Dangling Edge"
  | .invalidEdgeType => "Invalid Edge Type"
  | .incompatiblePorts => "Incompatible Ports"
  | .duplicateEdge => "Duplicate Edge"
  | .missingPort => "Missing Port"
  | .unconnectedRequiredPort => "Unconnected Required Port"
  | .multipleConnectionsOnSinglePort => "Multiple Connections"
  | .invalidDatabaseConfig => "Invalid Database Config"
  | .invalidApiConfig => "Invalid API Config"
  | .invalidSchema => "Invalid Schema"
  | .missingPrimaryKey => "Missing Primary Key"
  | .invalidRelationship => "Invalid Relationship"
  | .circularReference => "Circular Reference"
  | .custom => "Custom"

end IssueKind

structure Issue where
  kind : IssueKind
  message : String
  severity : Severity := .error
  nodeId : Option String := none
  edgeId : Option String := none
  deriving DecidableEq, Inhabited

namespace Issue

def isError (i : Issue) : Bool := i.severity = .error

def isWarning (i : Issue) : Bool := i.severity = .warning

def isInfo (i : Issue) : Bool := i.severity = .info

def text (i : Issue) : String :=
  let banner := "[" ++ i.severity.banner ++ "] "
  match nonEmpty? i.nodeId, nonEmpty? i.edgeId with
  | some n, _ => banner ++ "Node " ++ n ++ ": " ++ i.message
  | none, some e => banner ++ "Edge " ++ e ++ ": " ++ i.message
  | none, none => banner ++ i.message

end Issue

end Wirework
