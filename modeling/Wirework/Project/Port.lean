import Wirework.Ordinal
import Wirework.Project.DataType
import Wirework.Project.Vocabulary
import Wirework.Sorting

/-!
# Ports

Ports are the typed connection points of a node. An edge between ports runs from an output port to
an input port.
-/

namespace Wirework

/-- A connection point of a node. -/
structure Port where
  id : String
  name : String
  description : Option String := none
  direction : Direction
  kind : PortKind := .data
  dataType : DataType := .ofScalar .any
  /-- Whether more than one edge may meet here. -/
  multiple : Bool := false
  required : Bool := false
  defaultValue : Option Setting := none
  order : Ordinal := 0
  deriving Inhabited

namespace Port

/-! ## New ports -/

/-- The name of a new port: a given one, else its id. -/
def nameOr (id : String) (name : Option String) : String := (nonEmpty? name).getD id

def dataIn (id : String) (dataType : DataType) (name : Option String := none) : Port :=
  { id, name := nameOr id name, direction := .input, dataType }

def dataOut (id : String) (dataType : DataType) (name : Option String := none) : Port :=
  { id, name := nameOr id name, direction := .output, dataType, multiple := true }

def triggerIn (id : String) (name : Option String := none) : Port :=
  { id, name := nameOr id name, direction := .input, kind := .trigger,
    dataType := .ofScalar .trigger }

def triggerOut (id : String) (name : Option String := none) : Port :=
  { id, name := nameOr id name, direction := .output, kind := .trigger,
    dataType := .ofScalar .trigger, multiple := true }

def flowIn (id : String) (name : Option String := none) : Port :=
  { id, name := nameOr id name, direction := .input, kind := .flow, dataType := .ofScalar .trigger }

def flowOut (id : String) (name : Option String := none) : Port :=
  { id, name := nameOr id name, direction := .output, kind := .flow,
    dataType := .ofScalar .trigger }

/-! ## Changes and queries -/

def withDescription (p : Port) (description : Option String) : Port := { p with description }

def withOrder (p : Port) (order : Ordinal) : Port := { p with order }

def markRequired (p : Port) : Port := { p with required := true }

def markMultiple (p : Port) : Port := { p with multiple := true }

def isInput (p : Port) : Bool := p.direction = .input

def isOutput (p : Port) : Bool := p.direction = .output

/-- Whether an edge may join two ports: opposite sides, one kind, and the type of the output flows
into the type of the input. -/
def canConnectTo (p other : Port) : Bool :=
  if p.direction = other.direction || p.kind ≠ other.kind then false
  else if p.isOutput then p.dataType.flowsInto other.dataType
  else other.dataType.flowsInto p.dataType

/-- The colour in which an editor may draw a port. -/
def color (p : Port) : String :=
  match p.kind with
  | .trigger => "#f5a623"
  | .flow => "#ffffff"
  | .data =>
    let kind := p.dataType.unwrapOptional.kind
    if kind = .scalar .string ∨ kind = .scalar .text then "#7ed321"
    else if p.dataType.isNumeric then "#4a90e2"
    else
      match kind with
      | .scalar .bool => "#d0021b"
      | .named _ => "#9013fe"
      | .wrap .array => "#50e3c2"
      | _ => "#9b9b9b"

end Port

structure Ports where
  inputs : List Port := []
  outputs : List Port := []
  deriving Inhabited

namespace Ports

def addInput (ps : Ports) (p : Port) : Ports := { ps with inputs := ps.inputs ++ [p] }

def addOutput (ps : Ports) (p : Port) : Ports := { ps with outputs := ps.outputs ++ [p] }

/-- The ports with one more on the side that its direction names. -/
def add (ps : Ports) (p : Port) : Ports := if p.isInput then ps.addInput p else ps.addOutput p

def input? (ps : Ports) (id : String) : Option Port := ps.inputs.find? (·.id = id)

def output? (ps : Ports) (id : String) : Option Port := ps.outputs.find? (·.id = id)

/-- The port with an id, an input before an output. -/
def get? (ps : Ports) (id : String) : Option Port := (ps.input? id).or (ps.output? id)

def all (ps : Ports) : List Port := ps.inputs ++ ps.outputs

def sorted (ports : List Port) : Sorting.Sorted Port :=
  Sorting.sort (fun p q => p.order.before? q.order) ports

/-- Both sides sorted by order, the inputs first, as far as there is an order; and whether there is
one throughout. -/
def sortByOrder (ps : Ports) : Ports × Bool :=
  let inputs := sorted ps.inputs
  if inputs.isComplete then
    let outputs := sorted ps.outputs
    (⟨inputs.items, outputs.items⟩, outputs.isComplete)
  else ({ ps with inputs := inputs.items }, false)

def size (ps : Ports) : Nat := ps.inputs.length + ps.outputs.length

end Ports

end Wirework
