import Wirework.Project.Field
import Wirework.Record.DataType
import Wirework.Record.Setting

/-!
# Fields in documents
-/

namespace Wirework

open Record

/-- The bound that a member's value is, as it stands. -/
def Bound.ofMember : Data → Option Bound
  | .null => none
  | .int n => some (.int n)
  | .float x => some (.float x)
  | .text s => some (.text s)
  | value => some (.other value)

/-- A bound may be an integer, a number or a text; a truth value counts as an integer. -/
def Bound.read (path : List String) : Data → Reading (Option Bound)
  | .null => pure none
  | .int n => pure (some (.int n))
  | .bool b => pure (some (.int b.toNat))
  | .float x => pure (some (.float x))
  | .text s => pure (some (.text s))
  | .member _ _ value => pure (Bound.ofMember value)
  | _ => .complain path .noAlternative

def Bound.toData : Bound → Data
  | .int n => .int n
  | .float x => .float x
  | .text s => .text s
  | .other value => value

/-- The bound of a rule is nullable by itself. -/
instance : Record (Option Bound) where
  read := Bound.read
  toData := Data.ofOption Bound.toData

instance : Record Rule where
  read := readRecord fun s => do
    return {
      kind := ← s.field "kind"
      value := ← s.fieldOr "value" none
      name := ← s.fieldOr "name" none
      message := ← s.fieldOr "message" none }
  toData r := .object [
    ("kind", toData r.kind),
    ("value", toData r.value),
    ("name", toData r.name),
    ("message", toData r.message)]

instance : Record Hints where
  read := readRecord fun s => do
    return {
      label := ← s.fieldOr "label" none
      placeholder := ← s.fieldOr "placeholder" none
      help := ← s.fieldOr "help" none
      secret := ← s.fieldOr "secret" false
      showInList := ← s.fieldOr "show_in_list" true
      widget := ← s.fieldOr "widget" none
      order := ← s.fieldOr "order" 0 }
  toData h := .object [
    ("label", toData h.label),
    ("placeholder", toData h.placeholder),
    ("help", toData h.help),
    ("secret", toData h.secret),
    ("show_in_list", toData h.showInList),
    ("widget", toData h.widget),
    ("order", toData h.order)]

instance : Record Constraint where
  read := readRecord fun s => do
    return {
      kind := ← s.field "kind"
      entity := ← s.fieldOr "entity" none
      field := ← s.fieldOr "field" none
      onDelete := ← s.fieldOr "on_delete" .noAction
      onUpdate := ← s.fieldOr "on_update" .noAction
      expression := ← s.fieldOr "expression" none }
  toData c := .object [
    ("kind", toData c.kind),
    ("entity", toData c.entity),
    ("field", toData c.field),
    ("on_delete", toData c.onDelete),
    ("on_update", toData c.onUpdate),
    ("expression", toData c.expression)]

instance : Record Field where
  read := readRecord fun s => do
    return {
      id := ← s.fieldElse "id" (.fresh .field)
      name := ← s.field "name"
      label := ← s.fieldOr "label" none
      dataType := ← s.fieldOr "data_type" (.ofScalar .string)
      required := ← s.fieldOr "required" false
      defaultValue := ← s.fieldOr "default_value" none
      rules := ← s.fieldOr "validations" []
      hints := ← s.fieldOr "ui_hints" {}
      constraints := ← s.fieldOr "constraints" []
      description := ← s.fieldOr "description" none
      readOnly := ← s.fieldOr "read_only" false
      deprecated := ← s.fieldOr "deprecated" false
      deprecationMessage := ← s.fieldOr "deprecation_message" none
      metadata := ← s.fieldOr "metadata" .empty }
  toData f := .object [
    ("id", toData f.id),
    ("name", toData f.name),
    ("label", toData f.label),
    ("data_type", toData f.dataType),
    ("required", toData f.required),
    ("default_value", toData f.defaultValue),
    ("validations", toData f.rules),
    ("ui_hints", toData f.hints),
    ("constraints", toData f.constraints),
    ("description", toData f.description),
    ("read_only", toData f.readOnly),
    ("deprecated", toData f.deprecated),
    ("deprecation_message", toData f.deprecationMessage),
    ("metadata", toData f.metadata)]

end Wirework
