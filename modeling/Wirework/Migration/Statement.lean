import Wirework.Naming
import Wirework.Sql.Basic

/-!
# Schema statements

The statements that migrations consist of, as data. `Statement.sql` writes them, unless a default
value has too many digits.
-/

namespace Wirework

inductive ColumnClause where
  | primaryKey
  | unique
  | check (expression : String)
  | defaultExpression (expression : String)
  | defaultValue (v : Setting)
  /-- Numbers are handed out by the database, in the words of its dialect. -/
  | counted (words : String)
  | notNull

namespace ColumnClause

def sql : ColumnClause → Option String
  | .primaryKey => some "PRIMARY KEY"
  | .unique => some "UNIQUE"
  | .check expression => some ("CHECK (" ++ expression ++ ")")
  | .defaultExpression expression => some ("DEFAULT " ++ expression)
  | .defaultValue v => (Sql.literal v).map ("DEFAULT " ++ ·)
  | .counted words => some words
  | .notNull => some "NOT NULL"

def isDefault : ColumnClause → Bool
  | .defaultExpression _ => true
  | .defaultValue _ => true
  | _ => false

def isPrimaryKey : ColumnClause → Bool
  | .primaryKey => true
  | _ => false

def isNotNull : ColumnClause → Bool
  | .notNull => true
  | _ => false

end ColumnClause

structure Column where
  name : String
  type : String
  clauses : List ColumnClause

def Column.sql (c : Column) : Option String := do
  return " ".intercalate (("    " ++ c.name) :: c.type :: (← c.clauses.mapM ColumnClause.sql))

/-- What a column refers to. -/
structure Reference where
  column : String
  table : String
  targetColumn : String
  onDelete : ForeignKeyAction
  onUpdate : ForeignKeyAction
  deriving DecidableEq

def Reference.sql (r : Reference) : String :=
  "FOREIGN KEY (" ++ r.column ++ ") REFERENCES " ++ r.table ++ "(" ++ r.targetColumn
    ++ ") ON DELETE " ++ r.onDelete.sql ++ " ON UPDATE " ++ r.onUpdate.sql

/-- A change of the schema. -/
inductive Statement where
  | createTable (table : String) (columns : List Column) (references : List Reference)
  /-- Drops a table if it exists; `cascade` drops what depends on it as well. -/
  | dropTable (table : String) (cascade : Bool)
  | createIndex (index table column : String) (ifMissing : Bool)
  /-- Drops an index by its qualified name, if it exists. -/
  | dropIndex (index : String)
  | dropTableIndex (index table : String)
  | addForeignKey (table name : String) (reference : Reference)
  | dropConstraint (table name : String)
  | dropForeignKey (table name : String)

def Statement.sql : Statement → Option String
  | .createTable table columns references => do
    let lines ← columns.mapM Column.sql
    return "CREATE TABLE " ++ table ++ " (\n"
      ++ ",\n".intercalate (lines ++ references.map fun r => "    " ++ r.sql) ++ "\n);"
  | .dropTable table cascade =>
    some ("DROP TABLE IF EXISTS " ++ table ++ (if cascade then " CASCADE;" else ";"))
  | .createIndex index table column ifMissing =>
    some ("CREATE INDEX " ++ (if ifMissing then "IF NOT EXISTS " else "") ++ index ++ " ON "
      ++ table ++ " (" ++ column ++ ");")
  | .dropIndex index => some ("DROP INDEX IF EXISTS " ++ index ++ ";")
  | .dropTableIndex index table => some ("DROP INDEX " ++ index ++ " ON " ++ table ++ ";")
  | .addForeignKey table name reference =>
    some ("ALTER TABLE " ++ table ++ " ADD CONSTRAINT " ++ name ++ " " ++ reference.sql ++ ";")
  | .dropConstraint table name =>
    some ("ALTER TABLE " ++ table ++ " DROP CONSTRAINT IF EXISTS " ++ name ++ ";")
  | .dropForeignKey table name =>
    some ("ALTER TABLE " ++ table ++ " DROP FOREIGN KEY " ++ name ++ ";")

end Wirework
