import Wirework.Catalog.Definition
import Wirework.Record.Node

/-!
# Component definitions, findings and places in documents

How a definition makes nodes is not written; one that is read makes them from its parts.
-/

namespace Wirework

open Record

instance : Record Definition where
  read := readRecord fun s => do
    return {
      id := ← s.field "id"
      name := ← s.field "name"
      category := ← s.field "category"
      description := ← s.fieldOr "description" ""
      icon := ← s.fieldOr "icon" none
      fields := ← s.fieldOr "fields" []
      inputs := ← s.fieldOr "inputs" []
      outputs := ← s.fieldOr "outputs" []
      config := ← s.fieldOr "config" .empty
      tags := ← s.fieldOr "tags" [] }
  toData d := .object [
    ("id", toData d.id),
    ("name", toData d.name),
    ("category", toData d.category),
    ("description", toData d.description),
    ("icon", toData d.icon),
    ("fields", toData d.fields),
    ("inputs", toData d.inputs),
    ("outputs", toData d.outputs),
    ("config", toData d.config),
    ("tags", toData d.tags)]

instance : Record Issue where
  read := readRecord fun s => do
    return {
      severity := ← s.field "severity"
      kind := ← s.field "kind"
      message := ← s.field "message"
      nodeId := ← s.fieldOr "node_id" none
      edgeId := ← s.fieldOr "edge_id" none }
  toData i := .object [
    ("severity", toData i.severity),
    ("kind", toData i.kind),
    ("message", toData i.message),
    ("node_id", toData i.nodeId),
    ("edge_id", toData i.edgeId)]

instance : Record Context where
  read := readRecord fun s => do
    return {
      nodeId := ← s.fieldOr "node_id" none
      edgeId := ← s.fieldOr "edge_id" none
      portId := ← s.fieldOr "port_id" none
      path := ← s.fieldOr "path" none }
  toData c := .object [
    ("node_id", toData c.nodeId),
    ("edge_id", toData c.edgeId),
    ("port_id", toData c.portId),
    ("path", toData c.path)]

end Wirework
