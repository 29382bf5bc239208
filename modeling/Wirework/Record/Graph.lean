import Wirework.Project.Graph
import Wirework.Record.Node

/-!
# Projects in documents

Whether a project has unsaved changes is not written.
-/

namespace Wirework

open Record

instance : Record EdgeStyle where
  read := readRecord fun s => do
    return {
      color := ← s.fieldOr "color" none
      width := ← s.fieldOr "width" (default : EdgeStyle).width
      dashed := ← s.fieldOr "dashed" false
      animated := ← s.fieldOr "animated" false }
  toData e := .object [
    ("color", toData e.color),
    ("width", toData e.width),
    ("dashed", toData e.dashed),
    ("animated", toData e.animated)]

instance : Record Edge where
  read := readRecord fun s => do
    return {
      id := ← s.fieldElse "id" (.fresh .edge)
      fromNode := ← s.field "from_node"
      fromPort := ← s.field "from_port"
      toNode := ← s.field "to_node"
      toPort := ← s.field "to_port"
      connection := ← s.fieldOr "connection_type" .dataFlow
      relation := ← s.fieldOr "relation_type" none
      dataMapping := ← s.fieldOr "data_mapping" .empty
      label := ← s.fieldOr "label" none
      enabled := ← s.fieldOr "enabled" true
      style := ← s.fieldOr "style" {}
      description := ← s.fieldOr "description" none
      metadata := ← s.fieldOr "metadata" .empty
      waypoints := ← s.fieldOr "waypoints" []
      zIndex := ← s.fieldOr "z_index" 0 }
  toData e := .object [
    ("id", toData e.id),
    ("from_node", toData e.fromNode),
    ("from_port", toData e.fromPort),
    ("to_node", toData e.toNode),
    ("to_port", toData e.toPort),
    ("connection_type", toData e.connection),
    ("relation_type", toData e.relation),
    ("data_mapping", toData e.dataMapping),
    ("label", toData e.label),
    ("enabled", toData e.enabled),
    ("style", toData e.style),
    ("description", toData e.description),
    ("metadata", toData e.metadata),
    ("waypoints", toData e.waypoints),
    ("z_index", toData e.zIndex)]

instance : Record Group where
  read := readRecord fun s => do
    return {
      id := ← s.fieldElse "id" (.fresh .group)
      name := ← s.field "name"
      description := ← s.fieldOr "description" none
      position := ← s.fieldOr "position" {}
      size := ← s.fieldOr "size" Group.defaultSize
      nodeIds := ← s.fieldOr "node_ids" []
      parentId := ← s.fieldOr "parent_id" none
      collapsed := ← s.fieldOr "collapsed" false
      locked := ← s.fieldOr "locked" false
      visible := ← s.fieldOr "visible" true
      color := ← s.fieldOr "color" none
      tags := ← s.fieldOr "tags" []
      metadata := ← s.fieldOr "metadata" .empty
      zIndex := ← s.fieldOr "z_index" (.int (-1))
      padding := ← s.fieldOr "padding" (.ofRatio false 20 1) }
  toData g := .object [
    ("id", toData g.id),
    ("name", toData g.name),
    ("description", toData g.description),
    ("position", toData g.position),
    ("size", toData g.size),
    ("node_ids", toData g.nodeIds),
    ("parent_id", toData g.parentId),
    ("collapsed", toData g.collapsed),
    ("locked", toData g.locked),
    ("visible", toData g.visible),
    ("color", toData g.color),
    ("tags", toData g.tags),
    ("metadata", toData g.metadata),
    ("z_index", toData g.zIndex),
    ("padding", toData g.padding)]

instance : Record Domain where
  read := readRecord fun s => do
    return {
      enabled := ← s.fieldOr "enabled" true
      settings := ← s.fieldOr "settings" .empty
      priority := ← s.fieldOr "priority" 0
      features := ← s.fieldOr "features" []
      templatesDir := ← s.fieldOr "templates_dir" none }
  toData d := .object [
    ("enabled", toData d.enabled),
    ("settings", toData d.settings),
    ("priority", toData d.priority),
    ("features", toData d.features),
    ("templates_dir", toData d.templatesDir)]

instance : Record About where
  read := readRecord fun s => do
    return {
      name := ← s.field "name"
      version := ← s.fieldOr "version" "0.1.0"
      description := ← s.fieldOr "description" none
      authors := ← s.fieldOr "authors" []
      license := ← s.fieldOr "license" none
      repository := ← s.fieldOr "repository" none
      homepage := ← s.fieldOr "homepage" none
      documentation := ← s.fieldOr "documentation" none
      keywords := ← s.fieldOr "keywords" []
      categories := ← s.fieldOr "categories" []
      domains := ← s.fieldOr "domains" .empty
      targetLanguage := ← s.fieldOr "target_language" "rust"
      targetFramework := ← s.fieldOr "target_framework" none
      outputDir := ← s.fieldOr "output_dir" "generated"
      generateTests := ← s.fieldOr "generate_tests" true
      generateDocs := ← s.fieldOr "generate_docs" true
      metadata := ← s.fieldOr "metadata" .empty
      irVersion := ← s.fieldOr "ir_version" formatVersion
      createdAt := ← s.fieldElse "created_at" .now
      modifiedAt := ← s.fieldElse "modified_at" .now }
  toData a := .object [
    ("name", toData a.name),
    ("version", toData a.version),
    ("description", toData a.description),
    ("authors", toData a.authors),
    ("license", toData a.license),
    ("repository", toData a.repository),
    ("homepage", toData a.homepage),
    ("documentation", toData a.documentation),
    ("keywords", toData a.keywords),
    ("categories", toData a.categories),
    ("domains", toData a.domains),
    ("target_language", toData a.targetLanguage),
    ("target_framework", toData a.targetFramework),
    ("output_dir", toData a.outputDir),
    ("generate_tests", toData a.generateTests),
    ("generate_docs", toData a.generateDocs),
    ("metadata", toData a.metadata),
    ("ir_version", toData a.irVersion),
    ("created_at", toData a.createdAt),
    ("modified_at", toData a.modifiedAt)]

instance : Record Graph where
  read := readRecord fun s => do
    return {
      about := ← s.field "meta"
      nodes := ← s.fieldOr "nodes" .empty
      edges := ← s.fieldOr "edges" .empty
      groups := ← s.fieldOr "groups" .empty
      dirty := ← s.fieldOr "dirty" false }
  toData g := .object [
    ("meta", toData g.about),
    ("nodes", toData g.nodes),
    ("edges", toData g.edges),
    ("groups", toData g.groups)]

end Wirework
