import Mathlib.Data.List.Flatten
import Mathlib.Data.List.Forall2
import Wirework.Proofs.Except
import Wirework.Proofs.Migration.Versions

/-!
# Foreign keys in every dialect

SQLite declares foreign keys inside its tables, and the other databases add them in a migration of
their own, which is left out if there are none. Both come from one list for each entity
(`entityKeys`), and the dialect decides only where its items are written (`keysDeclared_drafts`,
`keysAdded_drafts`). So all databases get the same keys in the same order, one for each field of an
entity that has one (`foreignKeys_agree`).
-/

namespace Wirework

def Statement.declaredKeys : Statement → List (String × Reference)
  | .createTable table _ references => references.map fun r => (table, r)
  | _ => []

def Statement.addedKeys : Statement → List (String × Reference)
  | .addForeignKey table _ reference => [(table, reference)]
  | _ => []

namespace Migration

variable {o : Options} {b : Backend} {now : Moment} {base : Option Moment} {version name : String}
  {nodes entities : List Node} {e : Node} {ms ms' : List Migration}

/-! ## What a run declares and adds -/

/-- The foreign keys that migrations declare inside of tables, each with its table. -/
def keysDeclared (ms : List Migration) : List (String × Reference) :=
  ms.flatMap fun m => m.up.flatMap Statement.declaredKeys

/-- The foreign keys that the migration of foreign keys adds, each with its table. -/
def keysAdded (ms : List Migration) : List (String × Reference) :=
  ms.flatMap fun m =>
    if m.name = "add_foreign_keys" then m.up.flatMap Statement.addedKeys else []

def entityKeys (o : Options) (e : Node) : List (String × Reference) :=
  (foreignKeys o e).map fun key => (tableName o e.name, key.2.2)

theorem declaredKeys_createTable : (createTable o e).declaredKeys =
    if o.backend = .sqlite then entityKeys o e else [] := by
  rw [createTable, Statement.declaredKeys]
  split
  · rw [List.map_map]
    rfl
  · rfl

theorem keysDeclared_schema : keysDeclared [schemaMigration o version entities] =
    if o.backend = .sqlite then entities.flatMap (entityKeys o) else [] := by
  have hup : (schemaMigration o version entities).up = entities.map (createTable o) := rfl
  simp only [keysDeclared, List.flatMap_singleton, hup, List.flatMap_map, declaredKeys_createTable]
  split
  · rfl
  · simp

/-- What the first statements of pairs declare, the migration made of them declares. -/
theorem keysDeclared_paired? {pairs : List (Statement × Statement)} :
    keysDeclared (paired? name version pairs).toList =
      pairs.flatMap fun pair => pair.1.declaredKeys := by
  cases pairs with
  | nil => rfl
  | cons pair rest => simp [paired?, keysDeclared, List.flatMap_map]

theorem keysAdded_paired? {pairs : List (Statement × Statement)} :
    keysAdded (paired? name version pairs).toList =
      if name = "add_foreign_keys" then pairs.flatMap fun pair => pair.1.addedKeys else [] := by
  cases pairs with
  | nil => simp [paired?, keysAdded]
  | cons pair rest =>
    by_cases hname : name = "add_foreign_keys"
    · simp [paired?, keysAdded, List.flatMap_map, hname]
    · simp [paired?, keysAdded, hname]

theorem declaredKeys_index (o : Options) (e : Node) (f : Field) :
    (indexStatements o e f).1.declaredKeys = [] := by
  unfold indexStatements
  split <;> rfl

theorem keysDeclared_drafts : keysDeclared (drafts o version entities) =
    if o.backend = .sqlite then entities.flatMap (entityKeys o) else [] := by
  have happend : ∀ xs ys, keysDeclared (xs ++ ys) = keysDeclared xs ++ keysDeclared ys :=
    fun _ _ => List.flatMap_append
  have hindexes : keysDeclared
      (if o.indexes then (indexMigration? o version entities).toList else []) = [] := by
    split
    · rw [indexMigration?, keysDeclared_paired?, List.flatMap_map]
      exact List.flatMap_eq_nil_iff.mpr fun _ _ => declaredKeys_index ..
    · rfl
  have hkeys : keysDeclared (if o.backend = .sqlite then []
      else (foreignKeyMigration? o version entities).toList) = [] := by
    split
    · rfl
    · rw [foreignKeyMigration?, keysDeclared_paired?, List.flatMap_assoc]
      refine List.flatMap_eq_nil_iff.mpr fun e _ => ?_
      rw [List.flatMap_map]
      exact List.flatMap_eq_nil_iff.mpr fun _ _ => rfl
  rw [drafts, ← List.singleton_append, happend, happend, hindexes, hkeys, keysDeclared_schema,
    List.append_nil, List.append_nil]

theorem keysAdded_drafts : keysAdded (drafts o version entities) =
    if o.backend = .sqlite then [] else entities.flatMap (entityKeys o) := by
  have happend : ∀ xs ys, keysAdded (xs ++ ys) = keysAdded xs ++ keysAdded ys :=
    fun _ _ => List.flatMap_append
  have hschema : keysAdded [schemaMigration o version entities] = [] := by
    simp [keysAdded, schemaMigration]
  have hindexes : keysAdded
      (if o.indexes then (indexMigration? o version entities).toList else []) = [] := by
    split
    · rw [indexMigration?, keysAdded_paired?, if_neg (by decide)]
    · rfl
  have hkeys : keysAdded (if o.backend = .sqlite then []
      else (foreignKeyMigration? o version entities).toList) =
      if o.backend = .sqlite then [] else entities.flatMap (entityKeys o) := by
    split
    · rfl
    · rw [foreignKeyMigration?, keysAdded_paired?, if_pos rfl, List.flatMap_assoc]
      refine List.flatMap_congr fun e _ => ?_
      rw [List.flatMap_map]
      exact List.map_eq_flatMap.symm
  rw [drafts, ← List.singleton_append, happend, happend, hschema, hindexes, hkeys]
  rfl

/-! ## Runs -/

/-- What a run declares and adds does not depend on its versions. -/
theorem keys_plan (h : plan o now base nodes = .ok ms) :
    keysDeclared ms = keysDeclared (drafts o now.stamp (order (nodes.filter (·.isEntity)))) ∧
      keysAdded ms = keysAdded (drafts o now.stamp (order (nodes.filter (·.isEntity)))) := by
  have h := assignVersions_of_plan h
  have hdeclared : keysDeclared ms = keysDeclared (unversioned o now.stamp nodes) :=
    congrArg List.flatten (assignVersions_map _ (fun _ _ => rfl) h)
  have hadded : keysAdded ms = keysAdded (unversioned o now.stamp nodes) :=
    congrArg List.flatten (assignVersions_map _ (fun _ _ => rfl) h)
  rw [hdeclared, hadded, unversioned]
  split
  · -- Without entities there are no migrations, and the drafts of none have no keys.
    rename_i hnone
    have hnil : order (nodes.filter (·.isEntity)) = [] := by
      rw [List.isEmpty_iff.mp hnone]
      rfl
    rw [hnil, keysDeclared_drafts, keysAdded_drafts]
    simp [keysDeclared, keysAdded]
  · exact ⟨rfl, rfl⟩

/-- Without a base, or with one that is more than two seconds before the end of the calendar, a run
makes its migrations. -/
theorem plan_succeeds (now : Moment) (hnodes : Scriptable o nodes)
    (hbase : ∀ t ∈ base, t.Admits 2) : ∃ ms, plan o now base nodes = .ok ms := by
  cases base with
  | none =>
    rw [plan_of_short hnodes.short]
    cases unversioned o now.stamp nodes with
    | nil => exact ⟨[], rfl⟩
    | cons m rest => exact ⟨m :: rest, rfl⟩
  | some t =>
    by_cases hne : nodes.filter (·.isEntity) = []
    · exact ⟨[], plan_nil hne⟩
    · refine (plan_cases now t hne hnodes.short).1 ((hbase t rfl).mono ?_)
      have := draftCount_le o (nodes.filter (·.isEntity))
      omega

/-! ## One key for each field -/

def keyedFields (entities : List Node) : List (Node × Field) :=
  entities.flatMap fun e => (e.fields.filter (·.isForeignKey)).map fun f => (e, f)

/-- A key is that of a field of an entity: it is on the entity's table and says what the first
foreign key of the field says. -/
def IsKeyOf (o : Options) (entry : Node × Field) (key : String × Reference) : Prop :=
  key.1 = tableName o entry.1.name ∧
    ∃ fk, entry.2.foreignKey? = some fk ∧ key.2 = reference o entry.2 fk

theorem isKeyOf_entityKeys (o : Options) (e : Node) : List.Forall₂ (IsKeyOf o)
    ((e.fields.filter (·.isForeignKey)).map fun f => (e, f)) (entityKeys o e) := by
  rw [entityKeys, foreignKeys]
  induction e.fields with
  | nil => exact .nil
  | cons f rest ih =>
    rw [List.filter_cons, List.filterMap_cons, isForeignKey_eq]
    cases hfk : f.foreignKey? with
    | none => simpa using ih
    | some fk =>
      have hkey : IsKeyOf o (e, f) (tableName o e.name, reference o f fk) :=
        ⟨rfl, fk, hfk, rfl⟩
      simpa [hkey] using ih

theorem isKeyOf_keys (o : Options) (entities : List Node) : List.Forall₂ (IsKeyOf o)
    (keyedFields entities) (entities.flatMap (entityKeys o)) := by
  induction entities with
  | nil => exact .nil
  | cons e rest ih => exact List.rel_append (isKeyOf_entityKeys o e) ih

theorem keyedFields_order (nodes : List Node) :
    (keyedFields (order nodes)).Perm (keyedFields nodes) :=
  (order_perm nodes).flatMap_right _

/-- Two runs over the same nodes, one that declares foreign keys and one that adds them, agree on
what they are: one for each field of an entity that has a foreign key, in the order of the tables. -/
structure SameKeys (o : Options) (nodes : List Node) (declaring adding : List Migration) : Prop where
  same : keysDeclared declaring = keysAdded adding
  one_each : List.Forall₂ (IsKeyOf o) (keyedFields (order (nodes.filter (·.isEntity))))
    (keysDeclared declaring)
  all_fields : (keyedFields (order (nodes.filter (·.isEntity)))).Perm
    (keyedFields (nodes.filter (·.isEntity)))
  declaring_adds : keysAdded declaring = []
  adding_declares : keysDeclared adding = []

/-- **Foreign keys are the same on every database.** Runs that differ in the dialect only are made
unless a default is too long or the calendar ends, and whenever they are made the keys that SQLite
declares are those that the other database adds. -/
theorem foreignKeys_agree (o : Options) (nodes : List Node) (now : Moment) (base : Option Moment)
    (hb : b ≠ .sqlite) :
    ((∀ t ∈ base, t.Admits 2) → Scriptable { o with backend := .sqlite } nodes →
        Scriptable { o with backend := b } nodes →
      ∃ ms ms', plan { o with backend := .sqlite } now base nodes = .ok ms ∧
        plan { o with backend := b } now base nodes = .ok ms') ∧
    ∀ ms ms', plan { o with backend := .sqlite } now base nodes = .ok ms →
      plan { o with backend := b } now base nodes = .ok ms' → SameKeys o nodes ms ms' := by
  constructor
  · intro hbase hdeclares hadds
    obtain ⟨ms, hms⟩ := plan_succeeds now hdeclares hbase
    obtain ⟨ms', hms'⟩ := plan_succeeds now hadds hbase
    exact ⟨ms, ms', hms, hms'⟩
  · intro ms ms' h h'
    have hdeclared : keysDeclared ms =
        (order (nodes.filter (·.isEntity))).flatMap (entityKeys o) := by
      rw [(keys_plan h).1, keysDeclared_drafts, if_pos rfl]
      rfl
    have hadded : keysAdded ms' = (order (nodes.filter (·.isEntity))).flatMap (entityKeys o) := by
      rw [(keys_plan h').2, keysAdded_drafts, if_neg hb]
      rfl
    constructor
    · rw [hdeclared, hadded]
    · rw [hdeclared]
      exact isKeyOf_keys o _
    · exact keyedFields_order _
    · rw [(keys_plan h).2, keysAdded_drafts, if_pos rfl]
    · rw [(keys_plan h').1, keysDeclared_drafts, if_neg hb]

def entity (id name : String) (fields : List Field) : Node where
  id := id
  componentType := Component.entity
  name := name
  fields := fields
  createdAt := default
  modifiedAt := default

/-- Two entities, the second of which refers to the first. -/
def shop : List Node := [
  entity "u" "User" [{ id := "f", name := "id" }],
  entity "o" "Order" [
    { id := "g", name := "buyer", constraints := [
        { kind := .indexed },
        .foreignKey "User" "id" .cascade,
        .foreignKey "Order"] },
    { id := "h", name := "note" }]]

theorem scriptable_shop (o : Options) : Scriptable o shop := by
  refine scriptable_of_no_defaults ?_
  decide

/-- Both databases get the one foreign key of the shop, the first that its field has. -/
theorem foreignKeys_shop :
    ∃ ms ms', plan { schema := some "app", backend := .sqlite } default none shop = .ok ms ∧
      plan { schema := some "app", backend := .mysql } default none shop = .ok ms' ∧
      keysDeclared ms = keysAdded ms' ∧ keysDeclared ms =
        [("app.order", ⟨"buyer", "app.user", "id", .cascade, .noAction⟩)] := by
  have hb : Backend.mysql ≠ .sqlite := by decide
  obtain ⟨hruns, hsame⟩ := foreignKeys_agree { schema := some "app" } shop default none hb
  obtain ⟨ms, ms', h, h'⟩ := hruns (fun t ht => by cases ht) (scriptable_shop _) (scriptable_shop _)
  refine ⟨ms, ms', h, h', (hsame ms ms' h h').same, ?_⟩
  rw [(keys_plan h).1, keysDeclared_drafts]
  decide +kernel

end Migration

end Wirework
