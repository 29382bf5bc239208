import Wirework.Project.Node
import Wirework.Record.Field

/-!
# Nodes, ports and geometry in documents
-/

namespace Wirework

open Record

instance : Record Position where
  read := readRecord fun s => do
    return {
      x := ← s.fieldOr "x" (.zero false)
      y := ← s.fieldOr "y" (.zero false) }
  toData p := .object [("x", toData p.x), ("y", toData p.y)]

instance : Record Size where
  read := readRecord fun s => do
    return {
      width := ← s.fieldOr "width" (default : Size).width
      height := ← s.fieldOr "height" (default : Size).height }
  toData z := .object [("width", toData z.width), ("height", toData z.height)]

instance : Record Rect where
  read := readRecord fun s => do
    return {
      position := ← s.fieldOr "position" {}
      size := ← s.fieldOr "size" default }
  toData r := .object [("position", toData r.position), ("size", toData r.size)]

instance : Record Port where
  read := readRecord fun s => do
    return {
      id := ← s.field "id"
      name := ← s.field "name"
      description := ← s.fieldOr "description" none
      direction := ← s.field "direction"
      kind := ← s.fieldOr "kind" .data
      dataType := ← s.fieldOr "data_type" (.ofScalar .any)
      multiple := ← s.fieldOr "multiple" false
      required := ← s.fieldOr "required" false
      defaultValue := ← s.fieldOr "default_value" none
      order := ← s.fieldOr "order" 0 }
  toData p := .object [
    ("id", toData p.id),
    ("name", toData p.name),
    ("description", toData p.description),
    ("direction", toData p.direction),
    ("kind", toData p.kind),
    ("data_type", toData p.dataType),
    ("multiple", toData p.multiple),
    ("required", toData p.required),
    ("default_value", toData p.defaultValue),
    ("order", toData p.order)]

/-- The ports of a node stand one level deeper than a port by itself. -/
instance : Record Ports where
  read := readRecord fun s => do
    return {
      inputs := ← Reading.below (s.fieldOr "inputs" [])
      outputs := ← Reading.below (s.fieldOr "outputs" []) }
  toData ps := .object [("inputs", toData ps.inputs), ("outputs", toData ps.outputs)]

instance : Record Node where
  read := readRecord fun s => do
    return {
      id := ← s.fieldElse "id" (.fresh .node)
      componentType := ← s.field "component_type"
      name := ← s.field "name"
      position := ← s.fieldOr "position" {}
      size := ← s.fieldOr "size" default
      fields := ← s.fieldOr "fields" []
      ports := ← s.fieldOr "ports" {}
      config := ← s.fieldOr "config" .empty
      category := ← s.fieldOr "category" .custom
      collapsed := ← s.fieldOr "collapsed" false
      locked := ← s.fieldOr "locked" false
      visible := ← s.fieldOr "visible" true
      description := ← s.fieldOr "description" none
      icon := ← s.fieldOr "icon" none
      color := ← s.fieldOr "color" none
      tags := ← s.fieldOr "tags" []
      metadata := ← s.fieldOr "metadata" .empty
      zIndex := ← s.fieldOr "z_index" 0
      groupId := ← s.fieldOr "group_id" none
      createdAt := ← s.fieldElse "created_at" .now
      modifiedAt := ← s.fieldElse "modified_at" .now }
  toData n := .object [
    ("id", toData n.id),
    ("component_type", toData n.componentType),
    ("name", toData n.name),
    ("position", toData n.position),
    ("size", toData n.size),
    ("fields", toData n.fields),
    ("ports", toData n.ports),
    ("config", toData n.config),
    ("category", toData n.category),
    ("collapsed", toData n.collapsed),
    ("locked", toData n.locked),
    ("visible", toData n.visible),
    ("description", toData n.description),
    ("icon", toData n.icon),
    ("color", toData n.color),
    ("tags", toData n.tags),
    ("metadata", toData n.metadata),
    ("z_index", toData n.zIndex),
    ("group_id", toData n.groupId),
    ("created_at", toData n.createdAt),
    ("modified_at", toData n.modifiedAt)]

end Wirework
