import Wirework.Proofs.Dict
import Wirework.Proofs.Migration.Versions
import Wirework.Proofs.Template.Essence
import Mathlib.Data.List.Basic

/-!
# What migrations see of a node

Of a node, the code generators see its component type, its name, its description, its fields and its
settings. Entities are put in order by a table of their references that is kept under their ids, so
the ids have to be distinct for the order not to depend on them (`order_essence`). Main statement:
entities that are alike in all that is seen have the same migrations (`plan_congr`).
-/

namespace Wirework

/-- The node without what is for editors only. -/
def Node.essence (n : Node) : Node where
  id := ""
  componentType := n.componentType
  name := n.name
  fields := n.fields.map Field.essence
  config := n.config
  description := n.description
  createdAt := default
  modifiedAt := default

namespace Node

variable (n : Node)

theorem field?_essence (name : String) :
    n.essence.field? name = (n.field? name).map Field.essence :=
  List.find?_map ..

@[simp] theorem hasField_essence (name : String) : n.essence.hasField name = n.hasField name := by
  rw [hasField, hasField, field?_essence, Option.isSome_map]

/-- Nodes of a kind that can be seen are found by their essences. -/
theorem filter_essence (p : Node → Bool) (hp : ∀ n, p (essence n) = p n) (nodes : List Node) :
    (nodes.map essence).filter p = (nodes.filter p).map essence := by
  rw [List.filter_map]
  exact congrArg (List.map essence) (List.filter_congr fun n _ => hp n)

end Node

namespace Migration

/-! ## The order of entities -/

theorem references_essence (entities : List Node) (e : Node) :
    references (entities.map Node.essence) e.essence = references entities e := by
  have hfields : e.essence.fields.filterMap (·.referencedEntity?) =
      e.fields.filterMap (·.referencedEntity?) :=
    List.filterMap_map ..
  have hnames : (entities.map Node.essence).map (·.name) = entities.map (·.name) :=
    List.map_map ..
  rw [references, references, hfields, hnames]
  rfl

/-- With distinct ids every entity waits for its own references. -/
theorem get?_referencesById {entities : List Node} (hids : (entities.map (·.id)).Nodup) {e : Node}
    (he : e ∈ entities) : (referencesById entities).get? e.id = some (references entities e) := by
  have hkeys : ((entities.map fun e => (e.id, references entities e)).map Prod.fst).Nodup := by
    rwa [List.map_map]
  rw [← Dict.mem_entries_iff, referencesById, Dict.entries_ofList_iff.mpr hkeys]
  exact List.mem_map_of_mem (f := fun e => (e.id, references entities e)) he

variable {waits waits' : Node → List String} {placed : List String}

theorem takeReady_essence {remaining : List Node}
    (h : ∀ e ∈ remaining, waits' e.essence = waits e) :
    takeReady waits' placed (remaining.map Node.essence) =
      (takeReady waits placed remaining).map fun found =>
        (found.1.essence, found.2.map Node.essence) := by
  induction remaining with
  | nil => rfl
  | cons e remaining ih =>
    obtain ⟨hfirst, hrest⟩ := List.forall_mem_cons.mp h
    rw [List.map_cons, takeReady, takeReady, hfirst, ih hrest]
    split
    · rfl
    · cases takeReady waits placed remaining <;> rfl

theorem placeAll_essence {remaining : List Node} {count : Nat}
    (h : ∀ e ∈ remaining, waits' e.essence = waits e) :
    placeAll waits' placed (remaining.map Node.essence) count =
      (placeAll waits placed remaining count).map Node.essence := by
  induction count generalizing placed remaining with
  | zero => rfl
  | succ count ih =>
    rw [placeAll, placeAll, takeReady_essence h]
    cases hready : takeReady waits placed remaining with
    | none => rfl
    | some found =>
      obtain ⟨ready, others⟩ := found
      have hothers : ∀ e ∈ others, waits' e.essence = waits e := fun e he =>
        h e ((takeReady_perm hready).mem_iff.mp (List.mem_cons_of_mem ready he))
      exact congrArg (ready.essence :: ·) (ih hothers)

/-- Entities in the order in which their tables are created, by their own references. -/
def place (entities : List Node) : List Node :=
  placeAll (references entities) [] entities entities.length

theorem order_essence {entities : List Node} (hids : (entities.map (·.id)).Nodup) :
    (order entities).map Node.essence = place (entities.map Node.essence) := by
  rw [order, place, List.length_map]
  -- With a repeated id an entity would wait for the references of another one.
  refine (placeAll_essence fun e he => ?_).symm
  rw [references_essence, get?_referencesById hids he, Option.getD_some]

/-! ## Statements -/

theorem foreignKeys_essence (o : Options) (n : Node) :
    foreignKeys o n.essence = (foreignKeys o n).map fun key => (key.1.essence, key.2) := by
  rw [foreignKeys, foreignKeys, List.map_filterMap]
  refine (List.filterMap_map ..).trans (List.filterMap_congr fun f _ => ?_)
  simp only [Option.map_map]
  rfl

theorem createTable_essence (o : Options) (n : Node) :
    createTable o n.essence = createTable o n := by
  have hcolumns : n.essence.fields.map (column o) = n.fields.map (column o) := List.map_map ..
  have hadded : addedColumns o n.essence = addedColumns o n := by
    simp only [addedColumns, Node.hasField_essence]
  rw [createTable, createTable, foreignKeys_essence, hcolumns, hadded, List.map_map]
  rfl

theorem schemaMigration_essence (o : Options) (version : String) (entities : List Node) :
    schemaMigration o version (entities.map Node.essence) = schemaMigration o version entities := by
  have hup : (entities.map Node.essence).map (createTable o) = entities.map (createTable o) := by
    simp only [List.map_map, Function.comp_def, createTable_essence]
  have hdown : ((entities.map Node.essence).reverse.map fun e => dropTable o e.name) =
      entities.reverse.map fun e => dropTable o e.name := by
    rw [← List.map_reverse, List.map_map]
    rfl
  rw [schemaMigration, schemaMigration, hup, hdown]

theorem indexedFields_essence (entities : List Node) :
    indexedFields (entities.map Node.essence) =
      (indexedFields entities).map fun pair => (pair.1.essence, pair.2.essence) := by
  rw [indexedFields, indexedFields, List.flatMap_map, List.map_flatMap]
  refine List.flatMap_congr fun e _ => ?_
  have hfields : (e.essence.fields.filter fun f => f.isIndexed || f.isForeignKey) =
      (e.fields.filter fun f => f.isIndexed || f.isForeignKey).map Field.essence :=
    List.filter_map ..
  rw [hfields, List.map_map, List.map_map]
  rfl

theorem firstNamed_essence (seen : List String) (pairs : List (Node × Field)) :
    firstNamed seen (pairs.map fun pair => (pair.1.essence, pair.2.essence)) =
      (firstNamed seen pairs).map fun pair => (pair.1.essence, pair.2.essence) := by
  induction pairs generalizing seen with
  | nil => rfl
  | cons pair pairs ih =>
    obtain ⟨e, f⟩ := pair
    have hindex : indexName e.essence.name f.essence.name = indexName e.name f.name := rfl
    rw [List.map_cons, firstNamed, firstNamed, hindex]
    split
    · exact ih seen
    · rw [List.map_cons, ih]

theorem indexMigration?_essence (o : Options) (version : String) (entities : List Node) :
    indexMigration? o version (entities.map Node.essence) = indexMigration? o version entities := by
  rw [indexMigration?, indexMigration?, indexedFields_essence, firstNamed_essence, List.map_map]
  rfl

theorem foreignKeyMigration?_essence (o : Options) (version : String) (entities : List Node) :
    foreignKeyMigration? o version (entities.map Node.essence) =
      foreignKeyMigration? o version entities := by
  rw [foreignKeyMigration?, foreignKeyMigration?, List.flatMap_map]
  refine congrArg (paired? _ _) (List.flatMap_congr fun e _ => ?_)
  rw [foreignKeys_essence, List.map_map]
  rfl

theorem drafts_essence (o : Options) (version : String) (entities : List Node) :
    drafts o version (entities.map Node.essence) = drafts o version entities := by
  rw [drafts, drafts, schemaMigration_essence, indexMigration?_essence,
    foreignKeyMigration?_essence]

/-! ## Runs -/

/-- Entities with distinct ids that are alike in what is seen of them have the same migrations. -/
theorem plan_congr {nodes nodes' : List Node} (hids : (nodes.map (·.id)).Nodup)
    (hids' : (nodes'.map (·.id)).Nodup) (h : nodes.map Node.essence = nodes'.map Node.essence)
    (o : Options) (now base : Moment) :
    plan o now (some base) nodes = plan o now (some base) nodes' := by
  have hentities : (nodes.filter (·.isEntity)).map Node.essence =
      (nodes'.filter (·.isEntity)).map Node.essence := by
    have hfilter := Node.filter_essence (·.isEntity) fun _ => rfl
    rw [← hfilter, ← hfilter, h]
  have horder : (order (nodes.filter (·.isEntity))).map Node.essence =
      (order (nodes'.filter (·.isEntity))).map Node.essence := by
    rw [order_essence (hids.sublist (List.filter_sublist.map _)),
      order_essence (hids'.sublist (List.filter_sublist.map _)), hentities]
  by_cases hnil : nodes.filter (·.isEntity) = []
  · have hnil' : nodes'.filter (·.isEntity) = [] := by
      rw [hnil] at hentities
      exact List.map_eq_nil_iff.mp hentities.symm
    rw [plan, plan, hnil, hnil']
  · have hnil' : nodes'.filter (·.isEntity) ≠ [] := by
      intro hnone
      rw [hnone] at hentities
      exact hnil (List.map_eq_nil_iff.mp hentities)
    rw [plan_eq_drafts hnil, plan_eq_drafts hnil', ← drafts_essence, ← schemaMigration_essence, horder,
      drafts_essence, schemaMigration_essence]

end Migration

end Wirework
