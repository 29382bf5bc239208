/-!
# Data types

The types that fields and ports carry. `DataType.flowsInto` decides whether a value of one type may
flow into a slot of another: on types without `any` and optional parts it is a preorder.

A project file may fill in parts of a type's record that its kind does not use. They mean nothing,
but they are kept as the type's `Surplus`, and two types are equal only if these agree as well.
-/

namespace Wirework

/-- Types without parts. -/
inductive Scalar where
  | string | text | int32 | int64 | float32 | float64 | bool | uuid | datetime | date | time
  | bytes | json | any | trigger
  deriving DecidableEq, Inhabited

inductive Wrapper where
  | optional | array
  deriving DecidableEq

/-- Types that name an entity: its row by id, or the entity itself. -/
inductive Naming where
  | reference | entity
  deriving DecidableEq

inductive TypeSlot where
  | inner | key | value | name | domain
  deriving DecidableEq

mutual

inductive DataType where
  | scalar (kind : Scalar) (surplus : Surplus)
  | wrap (kind : Wrapper) (inner : DataType) (surplus : Surplus)
  | map (key value : DataType) (surplus : Surplus)
  | named (kind : Naming) (name : String) (surplus : Surplus)
  | custom (domain name : String) (surplus : Surplus)
  deriving DecidableEq

/-- Parts of a type's record that its kind does not use, in the order of `TypeSlot`. -/
inductive Surplus where
  | none
  | type (slot : TypeSlot) (t : DataType) (rest : Surplus)
  | text (slot : TypeSlot) (s : String) (rest : Surplus)
  deriving DecidableEq

end

namespace DataType

/-! ## Constructors -/

def ofScalar (kind : Scalar) : DataType := .scalar kind .none

instance : Inhabited DataType := ⟨ofScalar .string⟩

def optional (inner : DataType) : DataType := .wrap .optional inner .none

def array (inner : DataType) : DataType := .wrap .array inner .none

def mapOf (key value : DataType) : DataType := .map key value .none

def reference (entity : String) : DataType := .named .reference entity .none

def entity (name : String) : DataType := .named .entity name .none

def customOf (domain name : String) : DataType := .custom domain name .none

/-! ## Kinds -/

inductive Kind where
  | scalar (kind : Scalar)
  | wrap (kind : Wrapper)
  | map
  | named (kind : Naming)
  | custom
  deriving DecidableEq

def kind : DataType → Kind
  | .scalar k _ => .scalar k
  | .wrap k _ _ => .wrap k
  | .map .. => .map
  | .named k _ _ => .named k
  | .custom .. => .custom

instance : Inhabited Kind := ⟨.scalar .string⟩

/-- Every kind, in the order of the documentation. -/
def Kind.all : List Kind := [
  .scalar .string, .scalar .text, .scalar .int32, .scalar .int64, .scalar .float32,
  .scalar .float64, .scalar .bool, .scalar .uuid, .scalar .datetime, .scalar .date, .scalar .time,
  .scalar .bytes, .scalar .json, .wrap .optional, .wrap .array, .map, .named .reference,
  .named .entity, .scalar .any, .scalar .trigger, .custom]

def Kind.label : Kind → String
  | .scalar .string => "string"
  | .scalar .text => "text"
  | .scalar .int32 => "int32"
  | .scalar .int64 => "int64"
  | .scalar .float32 => "float32"
  | .scalar .float64 => "float64"
  | .scalar .bool => "bool"
  | .scalar .uuid => "uuid"
  | .scalar .datetime => "datetime"
  | .scalar .date => "date"
  | .scalar .time => "time"
  | .scalar .bytes => "bytes"
  | .scalar .json => "json"
  | .scalar .any => "any"
  | .scalar .trigger => "trigger"
  | .wrap .optional => "optional"
  | .wrap .array => "array"
  | .map => "map"
  | .named .reference => "reference"
  | .named .entity => "entity"
  | .custom => "custom"

/-! ## Queries -/

def isAny (t : DataType) : Bool := t.kind = .scalar .any

def isOptional (t : DataType) : Bool := t.kind = .wrap .optional

/-- Whether the type stands for plain data: neither a composite nor `any` nor a trigger. -/
def isPrimitive (t : DataType) : Bool :=
  match t.kind with
  | .scalar k => k ≠ .any && k ≠ .trigger
  | _ => false

def isNumeric (t : DataType) : Bool :=
  match t.kind with
  | .scalar .int32 | .scalar .int64 | .scalar .float32 | .scalar .float64 => true
  | _ => false

def entityName? : DataType → Option String
  | .named _ name _ => some name
  | _ => none

def isEntityLike (t : DataType) : Bool := t.entityName?.isSome

def unwrapOptional : DataType → DataType
  | .wrap .optional inner _ => inner
  | t => t

def scalarName : Scalar → String
  | .string => "String"
  | .text => "Text"
  | .int32 => "Int32"
  | .int64 => "Int64"
  | .float32 => "Float32"
  | .float64 => "Float64"
  | .bool => "Bool"
  | .uuid => "Uuid"
  | .datetime => "DateTime"
  | .date => "Date"
  | .time => "Time"
  | .bytes => "Bytes"
  | .json => "Json"
  | .any => "Any"
  | .trigger => "Trigger"

/-- The name shown to people, such as `Optional<String>` or `Ref<User>`. -/
def displayName : DataType → String
  | .scalar k _ => scalarName k
  | .wrap .optional inner _ => "Optional<" ++ inner.displayName ++ ">"
  | .wrap .array inner _ => "Array<" ++ inner.displayName ++ ">"
  | .map key value _ => "Map<" ++ key.displayName ++ ", " ++ value.displayName ++ ">"
  | .named .reference name _ => "Ref<" ++ name ++ ">"
  | .named .entity name _ => "Entity<" ++ name ++ ">"
  | .custom domain name _ => domain ++ "::" ++ name

/-! ## Compatibility -/

/-- The conversions between numbers that lose nothing. -/
def widens : Kind → Kind → Bool
  | .scalar .int32, .scalar .int64 => true
  | .scalar .float32, .scalar .float64 => true
  | .scalar .int32, .scalar .float64 => true
  | .scalar .int64, .scalar .float64 => true
  | _, _ => false

/-- Whether a value of the first type may flow into a slot of the second. The first rule that
applies decides: `any` on either side, equality, an optional source into its inner type, arrays by
their elements, two names of one entity, and lossless widening. -/
def flowsInto (source target : DataType) : Bool :=
  if source.isAny || target.isAny then true
  else if source = target then true
  else
    match source, target with
    | .wrap .optional inner _, target => inner = target
    | .wrap .array a _, .wrap .array b _ => flowsInto a b
    | .named _ a _, .named _ b _ => a = b
    | source, target => widens source.kind target.kind

end DataType

end Wirework
