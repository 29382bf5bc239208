import Wirework.Project.Field
import Wirework.Target
import Wirework.Text.Basic

/-!
# SQL types and literals
-/

namespace Wirework.Sql

def postgresType : Scalar → String
  | .string => "VARCHAR(255)"
  | .text => "TEXT"
  | .int32 => "INTEGER"
  | .int64 => "BIGINT"
  | .float32 => "REAL"
  | .float64 => "DOUBLE PRECISION"
  | .bool => "BOOLEAN"
  | .uuid => "UUID"
  | .datetime => "TIMESTAMP WITH TIME ZONE"
  | .date => "DATE"
  | .time => "TIME"
  | .bytes => "BYTEA"
  | .json | .any => "JSONB"
  | .trigger => "TEXT"

def sqliteType : Scalar → String
  | .int32 | .int64 | .bool => "INTEGER"
  | .float32 | .float64 => "REAL"
  | .bytes => "BLOB"
  | _ => "TEXT"

def mysqlType : Scalar → String
  | .string => "VARCHAR(255)"
  | .text => "TEXT"
  | .int32 => "INT"
  | .int64 => "BIGINT"
  | .float32 => "FLOAT"
  | .float64 => "DOUBLE"
  | .bool => "TINYINT(1)"
  | .uuid => "CHAR(36)"
  | .datetime => "DATETIME"
  | .date => "DATE"
  | .time => "TIME"
  | .bytes => "BLOB"
  | .json | .any => "JSON"
  | .trigger => "TEXT"

/-- The column type of a data type that is not optional on the outside. -/
def plainType (backend : Backend) : DataType → String
  | .scalar k _ =>
    match backend with
    | .postgres => postgresType k
    | .sqlite => sqliteType k
    | .mysql => mysqlType k
  | .wrap .array inner _ =>
    match backend with
    | .postgres =>
      (match inner with
        | .wrap .optional item _ => plainType backend item
        | item => plainType backend item) ++ "[]"
    | .sqlite => "TEXT"
    | .mysql => "JSON"
  | .named .. =>
    match backend with
    | .postgres => "UUID"
    | .sqlite => "TEXT"
    | .mysql => "CHAR(36)"
  | _ => "TEXT"

/-- The column type of a data type. An optional type has the column type of what it wraps. -/
def columnType (backend : Backend) (t : DataType) : String := plainType backend t.unwrapOptional

/-- Characters inside a string literal: a quote is written twice. -/
def escape (cs : List Char) : List Char := Text.replaceChar '\'' ['\'', '\''] cs

def stringLiteral (s : String) : String := String.ofList ('\'' :: escape s.toList ++ ['\''])

/-- The literal of a setting, unless it is an integer of too many digits. Lists and objects are not
written. -/
def literal : Setting → Option String
  | .bool b => some (if b then "TRUE" else "FALSE")
  | .int n => Number.decimal? n
  | .float x => some (Layout.display.write x)
  | .string s => some (stringLiteral s)
  | _ => some "NULL"

end Wirework.Sql
