import Wirework.Migration.Order
import Wirework.Migration.Statement

/-!
# Migrations

A run makes up to three migrations: the tables, their indexes, and their foreign keys. SQLite
cannot add foreign keys to a table, so its tables declare them themselves. The down script of a
migration undoes its up script statement by statement, in reverse order.
-/

namespace Wirework

/-- A pair of scripts, one that makes a change and one that undoes it. -/
structure Migration where
  name : String
  up : List Statement
  down : List Statement
  /-- What stands between two statements. -/
  separator : String
  /-- A time stamp by which migrations are ordered. -/
  version : String

namespace Migration

structure Options where
  backend : Backend := .postgres
  /-- The schema that tables are put in. -/
  schema : Option String := none
  indexes : Bool := true
  /-- Whether tables get the columns that say when a row was created and changed. -/
  timestamps : Bool := true
  autoIncrement : Bool := true
  deriving DecidableEq, Inhabited

/-! ## Texts -/

def script (m : Migration) (statements : List Statement) : Option String := do
  return m.separator.intercalate (← statements.mapM Statement.sql)

def upText (m : Migration) : Option String := m.script m.up

def downText (m : Migration) : Option String := m.script m.down

def filename (m : Migration) : String := m.version ++ "_" ++ Naming.snake m.name ++ ".sql"

def text (m : Migration) : Option String := do
  return "-- Migration: " ++ m.name ++ "\n-- Version: " ++ m.version ++ "\n\n-- Up\n"
    ++ (← m.upText) ++ "\n\n-- Down\n" ++ (← m.downText) ++ "\n"

/-! ## Names -/

/-- A name inside the schema, where there is one. -/
def qualified (o : Options) (name : String) : String :=
  match nonEmpty? o.schema with
  | some schema => schema ++ "." ++ name
  | none => name

def tableName (o : Options) (entity : String) : String := qualified o (Naming.snake entity)

def indexName (entity field : String) : String :=
  "idx_" ++ Naming.snake entity ++ "_" ++ Naming.snake field

def foreignKeyName (entity field target : String) : String :=
  "fk_" ++ Naming.snake entity ++ "_" ++ Naming.snake field ++ "_" ++ Naming.snake target

/-! ## Tables -/

def constraintClause? (c : Constraint) : Option ColumnClause :=
  match c.kind with
  | .primaryKey => some .primaryKey
  | .unique => some .unique
  | .defaultExpression => (nonEmpty? c.expression).map .defaultExpression
  | .check => (nonEmpty? c.expression).map .check
  | _ => none

/-- The column of a field. SQLite counts only in an integer key, and Postgres by its own types. -/
def column (o : Options) (f : Field) : Column :=
  let name := Naming.snake f.name
  let counted := o.autoIncrement && f.isAutoIncrement
  if counted && o.backend = .sqlite && f.isPrimaryKey then
    ⟨name, "INTEGER", [.primaryKey, .counted "AUTOINCREMENT"]⟩
  else
    let type :=
      if counted && o.backend = .postgres then
        if f.dataType.unwrapOptional.kind = .scalar .int64 then "BIGSERIAL" else "SERIAL"
      else Sql.columnType o.backend f.dataType
    let constraints := f.constraints.filterMap constraintClause?
    let counter := if counted && o.backend = .mysql then [.counted "AUTO_INCREMENT"] else []
    let notNull := if f.required && !f.isPrimaryKey then [.notNull] else []
    let value :=
      match f.defaultValue with
      | some v => if constraints.any (·.isDefault) then [] else [.defaultValue v]
      | none => []
    ⟨name, type, constraints ++ counter ++ notNull ++ value⟩

def currentTime : Backend → String
  | .postgres => "NOW()"
  | .sqlite | .mysql => "CURRENT_TIMESTAMP"

def timestampColumns : List String := ["created_at", "updated_at"]

def addedColumns (o : Options) (n : Node) : List Column :=
  if o.timestamps then
    (timestampColumns.filter fun name => !n.hasField name).map fun name =>
      ⟨name, Sql.columnType o.backend (.ofScalar .datetime),
        [.defaultExpression (currentTime o.backend), .notNull]⟩
  else []

/-- What a foreign key of a field refers to; the row's id unless it says otherwise. -/
def reference (o : Options) (f : Field) (fk : Constraint) : Reference :=
  { column := Naming.snake f.name
    table := tableName o (fk.entity.getD "")
    targetColumn := Naming.snake ((nonEmpty? fk.field).getD "id")
    onDelete := fk.onDelete
    onUpdate := fk.onUpdate }

/-- The references of an entity's fields, each with its field and the entity it refers to. -/
def foreignKeys (o : Options) (n : Node) : List (Field × String × Reference) :=
  n.fields.filterMap fun f => f.foreignKey?.map fun fk => (f, fk.entity.getD "", reference o f fk)

def createTable (o : Options) (n : Node) : Statement :=
  let inline := if o.backend = .sqlite then (foreignKeys o n).map (·.2.2) else []
  .createTable (tableName o n.name) (n.fields.map (column o) ++ addedColumns o n) inline

def dropTable (o : Options) (entity : String) : Statement :=
  .dropTable (tableName o entity) (o.backend ≠ .sqlite)

def schemaMigration (o : Options) (version : String) (entities : List Node) : Migration where
  name := "initial_schema"
  up := entities.map (createTable o)
  down := entities.reverse.map fun e => dropTable o e.name
  separator := "\n\n"
  version

/-! ## Indexes -/

/-- The fields that get an index, each with its entity. -/
def indexedFields (entities : List Node) : List (Node × Field) :=
  entities.flatMap fun e =>
    (e.fields.filter fun f => f.isIndexed || f.isForeignKey).map fun f => (e, f)

/-- The fields whose index name has not occurred before. -/
def firstNamed (seen : List String) : List (Node × Field) → List (Node × Field)
  | [] => []
  | (e, f) :: rest =>
    let index := indexName e.name f.name
    if seen.contains index then firstNamed seen rest
    else (e, f) :: firstNamed (index :: seen) rest

def indexStatements (o : Options) (e : Node) (f : Field) : Statement × Statement :=
  let index := indexName e.name f.name
  let table := tableName o e.name
  let column := Naming.snake f.name
  if o.backend = .mysql then
    (.createIndex index table column false, .dropTableIndex index table)
  else (.createIndex index table column (!f.isIndexed), .dropIndex (qualified o index))

def paired? (name version : String) (pairs : List (Statement × Statement)) : Option Migration :=
  if pairs.isEmpty then none
  else some {
    name
    up := pairs.map Prod.fst
    down := (pairs.map Prod.snd).reverse
    separator := "\n"
    version }

def indexMigration? (o : Options) (version : String) (entities : List Node) : Option Migration :=
  paired? "create_indexes" version
    ((firstNamed [] (indexedFields entities)).map fun (e, f) => indexStatements o e f)

/-! ## Foreign keys -/

def foreignKeyStatements (o : Options) (e : Node) (f : Field) (target : String) (r : Reference) :
    Statement × Statement :=
  let table := tableName o e.name
  let name := foreignKeyName e.name f.name target
  (.addForeignKey table name r,
    if o.backend = .mysql then .dropForeignKey table name else .dropConstraint table name)

def foreignKeyMigration? (o : Options) (version : String) (entities : List Node) :
    Option Migration :=
  paired? "add_foreign_keys" version
    (entities.flatMap fun e =>
      (foreignKeys o e).map fun (f, target, r) => foreignKeyStatements o e f target r)

/-! ## Runs -/

/-- Versions from a base on, one second apart; without a base all of them are the current time. -/
def assignVersions (base : Option Moment) (index : Nat) :
    List Migration → Except Failure (List Migration)
  | [] => .ok []
  | m :: rest =>
    match base with
    | none => .ok (m :: rest)
    | some base =>
      match base.addSeconds? index with
      | none => .error .overflow
      | some t => do
        let others ← assignVersions (some base) (index + 1) rest
        return { m with version := t.stamp } :: others

/-- A migration whose scripts can be written. -/
def written (m : Migration) : Except Failure Migration :=
  if m.text.isSome then .ok m else .error .integerTooLong

/-- The migrations of the entities among some nodes. -/
def plan (o : Options) (now : Moment) (base : Option Moment) (nodes : List Node) :
    Except Failure (List Migration) :=
  match order (nodes.filter (·.isEntity)) with
  | [] => .ok []
  | entities =>
    let version := now.stamp
    let indexes := if o.indexes then (indexMigration? o version entities).toList else []
    let keys := if o.backend = .sqlite then [] else (foreignKeyMigration? o version entities).toList
    do
      let schema ← (schemaMigration o version entities).written
      assignVersions base 0 (schema :: indexes ++ keys)

def forEntity (o : Options) (now : Moment) (base : Option Moment) (n : Node) :
    Except Failure Migration :=
  if n.isEntity then
    let m : Migration := {
      name := "create_" ++ Naming.snake n.name
      up := [createTable o n]
      down := [dropTable o n.name]
      separator := "\n"
      version := now.stamp }
    match base with
    | some t => written { m with version := t.stamp }
    | none => m.written
  else .error (.notAnEntity n.name)

def files (migrations : List Migration) : Option (Dict String) := do
  return .ofList (← migrations.mapM fun m => do return (m.filename, ← m.text))

end Migration

end Wirework
