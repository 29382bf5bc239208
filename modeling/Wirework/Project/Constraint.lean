import Wirework.Labelled

/-!
# Column constraints

The constraints that a field puts on its database column.
-/

namespace Wirework

/-- What happens to a row when the row it refers to is deleted or changed. -/
inductive ForeignKeyAction where
  | noAction | restrict | cascade | setNull | setDefault
  deriving DecidableEq, Inhabited

namespace ForeignKeyAction

instance : Labelled ForeignKeyAction where
  all := [.noAction, .restrict, .cascade, .setNull, .setDefault]
  label
    | .noAction => "no_action"
    | .restrict => "restrict"
    | .cascade => "cascade"
    | .setNull => "set_null"
    | .setDefault => "set_default"

def sql : ForeignKeyAction → String
  | .noAction => "NO ACTION"
  | .restrict => "RESTRICT"
  | .cascade => "CASCADE"
  | .setNull => "SET NULL"
  | .setDefault => "SET DEFAULT"

end ForeignKeyAction

inductive ConstraintKind where
  | primaryKey | unique | indexed | foreignKey | autoIncrement | check | defaultExpression
  deriving DecidableEq, Inhabited

instance : Labelled ConstraintKind where
  all := [.primaryKey, .unique, .indexed, .foreignKey, .autoIncrement, .check, .defaultExpression]
  label
    | .primaryKey => "primary_key"
    | .unique => "unique"
    | .indexed => "indexed"
    | .foreignKey => "foreign_key"
    | .autoIncrement => "auto_increment"
    | .check => "check"
    | .defaultExpression => "default_expression"

structure Constraint where
  kind : ConstraintKind
  entity : Option String := none
  field : Option String := none
  onDelete : ForeignKeyAction := .noAction
  onUpdate : ForeignKeyAction := .noAction
  expression : Option String := none
  deriving DecidableEq, Inhabited

def Constraint.foreignKey (entity : String) (field : String := "id")
    (onDelete onUpdate : ForeignKeyAction := .noAction) : Constraint :=
  { kind := .foreignKey, entity := some entity, field := some field, onDelete, onUpdate }

end Wirework
