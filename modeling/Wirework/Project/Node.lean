import Wirework.Failure
import Wirework.Project.Field
import Wirework.Project.Geometry
import Wirework.Project.Port
import Wirework.Text.Basic

/-!
# Nodes

A node is one component placed in a project: an entity, a sign-in flow, an endpoint, a store. Its
component type decides how checks and generators treat it. Changes take the current time, which
becomes the node's time of modification.
-/

namespace Wirework

/-! ## Component types with a meaning of their own -/

namespace Component

def entity : String := "data.entity"
def login : String := "auth.login"
def register : String := "auth.register"
def logout : String := "auth.logout"
def session : String := "auth.session"
def rest : String := "api.rest"
def database : String := "storage.database"

/-- The start of every component type of the sign-in family. -/
def authFamily : String := "auth."

/-- The start of every component type of the endpoint family. -/
def apiFamily : String := "api."

end Component

/-- A component of a project. -/
structure Node where
  id : String
  componentType : String
  name : String
  position : Position := {}
  size : Size := default
  fields : List Field := []
  ports : Ports := {}
  config : Dict Setting := .empty
  category : Category := .custom
  collapsed : Bool := false
  locked : Bool := false
  visible : Bool := true
  description : Option String := none
  icon : Option String := none
  color : Option String := none
  tags : List String := []
  metadata : Dict Data := .empty
  zIndex : Ordinal := 0
  groupId : Option String := none
  createdAt : Moment
  modifiedAt : Moment
  deriving Inhabited

namespace Node

/-! ## Queries -/

def isEntity (n : Node) : Bool := n.componentType = Component.entity

def isAuth (n : Node) : Bool := Text.startsWith n.componentType Component.authFamily

def isApi (n : Node) : Bool := Text.startsWith n.componentType Component.apiFamily

/-- The part of the component type before its first dot. -/
def domain (n : Node) : String := String.ofList (n.componentType.toList.takeWhile (· ≠ '.'))

def field? (n : Node) (name : String) : Option Field := n.fields.find? (·.name = name)

def hasField (n : Node) (name : String) : Bool := (n.field? name).isSome

def primaryKeyFields (n : Node) : List Field := n.fields.filter (·.isPrimaryKey)

def inputPort? (n : Node) (id : String) : Option Port := n.ports.input? id

def outputPort? (n : Node) (id : String) : Option Port := n.ports.output? id

def configString? (n : Node) (key : String) : Option String := (n.config.get? key).bind (·.asString?)

def configBool? (n : Node) (key : String) : Option Bool := (n.config.get? key).bind (·.asBool?)

def configInt? (n : Node) (key : String) : Option Int := (n.config.get? key).bind (·.asInt?)

/-! ## Changes -/

def touch (n : Node) (now : Moment) : Node := { n with modifiedAt := now }

/-- The node moved by a distance; a locked node stays where it is. -/
def moveBy (n : Node) (now : Moment) (dx dy : Double) : Node :=
  if n.locked then n else { n with position := n.position.offset dx dy, modifiedAt := now }

/-- The node with one more field, unless it has one of that name. -/
def addField (n : Node) (now : Moment) (f : Field) : Except Failure Node :=
  if n.hasField f.name then .error (.fieldExists n.name f.name)
  else .ok { n with fields := n.fields ++ [f], modifiedAt := now }

/-- The first field of a name and the fields without it. -/
def splitField (name : String) : List Field → Option (Field × List Field)
  | [] => none
  | f :: rest =>
    if f.name = name then some (f, rest)
    else (splitField name rest).map fun (found, others) => (found, f :: others)

def removeField (n : Node) (now : Moment) (name : String) : Option Field × Node :=
  match splitField name n.fields with
  | some (f, rest) => (some f, { n with fields := rest, modifiedAt := now })
  | none => (none, n)

def setConfig (n : Node) (now : Moment) (key : String) (value : Setting) : Node :=
  { n with config := n.config.insert key value, modifiedAt := now }

def withTag (n : Node) (tag : String) : Node :=
  if n.tags.contains tag then n else { n with tags := n.tags ++ [tag] }

def addInput (n : Node) (p : Port) : Node := { n with ports := n.ports.addInput p }

def addOutput (n : Node) (p : Port) : Node := { n with ports := n.ports.addOutput p }

def appendField (n : Node) (f : Field) : Node := { n with fields := n.fields ++ [f] }

/-! ## New nodes -/

def create (componentType name : String) (category : Category := .custom)
    (icon : Option String := none) : StateM Mint Node := do
  let id ← modifyGet fun m : Mint => m.draw .node
  let now := (← get).now
  return { id, componentType, name, category, icon, createdAt := now, modifiedAt := now }

end Node

end Wirework
