import Wirework.Data.Basic
import Wirework.Dict
import Wirework.Mint
import Wirework.Ordinal
import Wirework.Project.Constraint
import Wirework.Project.DataType
import Wirework.Project.Rule

/-!
# Fields

A field is a named, typed attribute of a node, with rules on its values, constraints on its database
column and hints for the editor.
-/

namespace Wirework

structure Hints where
  label : Option String := none
  placeholder : Option String := none
  help : Option String := none
  /-- Whether the value is hidden, as for passwords. -/
  secret : Bool := false
  showInList : Bool := true
  widget : Option String := none
  order : Ordinal := 0
  deriving Inhabited

/-- An attribute of a node. -/
structure Field where
  id : String
  name : String
  label : Option String := none
  dataType : DataType := .ofScalar .string
  required : Bool := false
  defaultValue : Option Setting := none
  rules : List Rule := []
  hints : Hints := {}
  constraints : List Constraint := []
  description : Option String := none
  readOnly : Bool := false
  deprecated : Bool := false
  deprecationMessage : Option String := none
  metadata : Dict Data := .empty
  deriving Inhabited

namespace Field

def create (name : String) (dataType : DataType) : StateM Mint Field := do
  let id ← modifyGet fun m : Mint => m.draw .field
  return { id, name, dataType }

/-! ## Changes -/

def withLabel (f : Field) (label : Option String) : Field :=
  { f with label, hints := { f.hints with label } }

def withDefault (f : Field) (value : Setting) : Field := { f with defaultValue := some value }

def withRule (f : Field) (rule : Rule) : Field := { f with rules := f.rules ++ [rule] }

def withConstraint (f : Field) (constraint : Constraint) : Field :=
  { f with constraints := f.constraints ++ [constraint] }

def withDescription (f : Field) (description : Option String) : Field := { f with description }

def withPlaceholder (f : Field) (placeholder : Option String) : Field :=
  { f with hints := { f.hints with placeholder } }

/-- The field as a required one, with the rule that says so. -/
def markRequired (f : Field) : Field :=
  let f := { f with required := true }
  if f.rules.any (·.kind = .required) then f else f.withRule { kind := .required }

/-- The field as a primary key; a primary key is required. -/
def primaryKey (f : Field) : Field :=
  { f.withConstraint { kind := .primaryKey } with required := true }

def unique (f : Field) : Field := f.withConstraint { kind := .unique }

def indexed (f : Field) : Field := f.withConstraint { kind := .indexed }

/-- The field with its value hidden and left out of lists. -/
def secret (f : Field) : Field :=
  { f with hints := { f.hints with secret := true, showInList := false } }

def markReadOnly (f : Field) : Field := { f with readOnly := true }

def markDeprecated (f : Field) (message : Option String) : Field :=
  { f with deprecated := true, deprecationMessage := message }

/-! ## Queries -/

def hasConstraint (f : Field) (kind : ConstraintKind) : Bool := f.constraints.any (·.kind = kind)

def isPrimaryKey (f : Field) : Bool := f.hasConstraint .primaryKey

/-- A primary key is unique as well. -/
def isUnique (f : Field) : Bool := f.isPrimaryKey || f.hasConstraint .unique

def isIndexed (f : Field) : Bool := f.hasConstraint .indexed

def isForeignKey (f : Field) : Bool := f.hasConstraint .foreignKey

def isAutoIncrement (f : Field) : Bool := f.hasConstraint .autoIncrement

def isSecret (f : Field) : Bool := f.hints.secret

/-- Whether a model wraps the field in an optional type: neither required nor a key. -/
def isOptionalInModel (f : Field) : Bool := !(f.required || f.isPrimaryKey)

/-- The name shown to people: the label, else the hint's label, else the name. -/
def displayLabel (f : Field) : String :=
  ((nonEmpty? f.label).or (nonEmpty? f.hints.label)).getD f.name

def foreignKey? (f : Field) : Option Constraint := f.constraints.find? (·.kind = .foreignKey)

/-- The entity that the field points at: by its foreign key, else by its type. -/
def referencedEntity? (f : Field) : Option String :=
  match f.foreignKey? with
  | some fk => fk.entity
  | none => f.dataType.unwrapOptional.entityName?

end Field

end Wirework
