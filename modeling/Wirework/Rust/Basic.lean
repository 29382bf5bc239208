import Wirework.Failure
import Wirework.Naming
import Wirework.Project.Field

/-!
# Rust names, types and literals

How the names, types and default values of a project are written in Rust. Types and initializers are
kept as structures, so that what may stand where is a matter of their shape; `text` writes them.
-/

namespace Wirework.Rust

/-! ## Identifiers -/

/-- The words that an identifier must not be. -/
def keywords : List String := [
  "as", "async", "await", "break", "const", "continue", "crate", "dyn", "else", "enum", "extern",
  "false", "fn", "for", "if", "impl", "in", "let", "loop", "match", "mod", "move", "mut", "pub",
  "ref", "return", "static", "struct", "super", "trait", "true", "type", "unsafe", "use", "where",
  "while"]

def rawMark : String := "r#"

/-- A word as an identifier; a keyword is written raw. -/
def escapeKeyword (word : String) : String :=
  if keywords.contains word then rawMark ++ word else word

def ident (name : String) : String := escapeKeyword (Naming.snake name)

/-- An identifier without its mark, as it stands in a path. -/
def unraw (name : String) : String :=
  if Text.startsWith name rawMark then String.ofList (name.toList.drop rawMark.length) else name

/-! ## Types -/

inductive Ty where
  | string | i32 | i64 | f32 | f64 | bool | uuid | dateTime | date | time | json | byte | unit
  | vec (item : Ty)
  | option (inner : Ty)
  | hashMap (key value : Ty)
  | named (s : String)
  deriving DecidableEq, Inhabited

namespace Ty

def text : Ty → String
  | .string => "String"
  | .i32 => "i32"
  | .i64 => "i64"
  | .f32 => "f32"
  | .f64 => "f64"
  | .bool => "bool"
  | .uuid => "uuid::Uuid"
  | .dateTime => "chrono::DateTime<chrono::Utc>"
  | .date => "chrono::NaiveDate"
  | .time => "chrono::NaiveTime"
  | .json => "serde_json::Value"
  | .byte => "u8"
  | .unit => "()"
  | .vec item => "Vec<" ++ item.text ++ ">"
  | .option inner => "Option<" ++ inner.text ++ ">"
  | .hashMap key value =>
    "std::collections::HashMap<" ++ key.text ++ ", " ++ value.text ++ ">"
  | .named s => s

def isOption : Ty → Bool
  | .option _ => true
  | _ => false

def ofScalar : Scalar → Ty
  | .string | .text => .string
  | .int32 => .i32
  | .int64 => .i64
  | .float32 => .f32
  | .float64 => .f64
  | .bool => .bool
  | .uuid => .uuid
  | .datetime => .dateTime
  | .date => .date
  | .time => .time
  | .bytes => .vec .byte
  | .json | .any => .json
  | .trigger => .unit

/-- The type that a name in a project stands for, or free-form data if nothing of it can be
written. -/
def ofName (s : String) : Ty :=
  let name := Naming.pascal s
  if name.isEmpty then .json else .named name

/-- The type of a value. A reference is held as the id of the row it refers to. -/
def ofDataType : DataType → Ty
  | .scalar k _ => ofScalar k
  | .wrap .optional inner _ => .option (ofDataType inner)
  | .wrap .array inner _ => .vec (ofDataType inner)
  | .map key value _ => .hashMap (ofDataType key) (ofDataType value)
  | .named .reference _ _ => .uuid
  | .named .entity name _ => ofName name
  | .custom _ name _ => ofName name

/-- The type of a model's field; one that is neither required nor a key is optional. -/
def ofField (f : Field) : Ty :=
  if f.isOptionalInModel && !f.dataType.isOptional then .option (ofDataType f.dataType)
  else ofDataType f.dataType

end Ty

/-! ## Initializers -/

/-- Characters inside a string literal: backslashes are escaped, and then quotes. -/
def escape (cs : List Char) : List Char :=
  Text.replaceChar '"' ['\\', '"'] (Text.replaceChar '\\' ['\\', '\\'] cs)

def stringLiteral (s : String) : String := String.ofList ('"' :: escape s.toList ++ ['"'])

/-- An expression for a default value. -/
inductive Expr where
  | owned (s : String)
  | emptyString
  | bool (b : Bool)
  | int (n : Int)
  | float (x : Double)
  | zeroFloat
  | freshUuid
  | emptyVec
  | fallback
  deriving DecidableEq, Inhabited

def Expr.text : Expr → String
  | .owned s => stringLiteral s ++ ".to_string()"
  | .emptyString => "String::new()"
  | .bool b => if b then "true" else "false"
  | .int n => toString n
  | .float x => Layout.display.write x
  | .zeroFloat => "0.0"
  | .freshUuid => "uuid::Uuid::new_v4()"
  | .emptyVec => "Vec::new()"
  | .fallback => "Default::default()"

/-- The text of a setting without parts. That of an integer may be too long to be written. -/
def scalarText? : Setting → Except Failure (Option String)
  | .string s => .ok (some s)
  | .bool b => .ok (some (if b then "true" else "false"))
  | .int n =>
    match Number.decimal? n with
    | some text => .ok (some text)
    | none => .error .integerTooLong
  | .float x => .ok (some (Layout.display.write x))
  | _ => .ok none

def fitsBits (bits : Nat) (n : Int) : Bool :=
  -(Number.pow2 (bits - 1) : Int) ≤ n && n < (Number.pow2 (bits - 1) : Int)

/-- A setting as a signed integer, if it is one exactly and in range. The number that it rounds to
has to be whole; the integer itself is not rounded. -/
def intLiteral (bits : Nat) (v : Setting) : Except Failure Expr :=
  match v.asNumber with
  | .tooLarge => .error .overflow
  | .none => .ok .fallback
  | .number x =>
    match x.toInt? with
    | some whole =>
      let n := v.asInt?.getD whole
      .ok (if fitsBits bits n then .int n else .fallback)
    | none => .ok .fallback

/-- A setting as a floating-point number, if it is finite. -/
def floatLiteral (v : Setting) : Except Failure Expr :=
  match v.asNumber with
  | .tooLarge => .error .overflow
  | .none => .ok .fallback
  | .number x => .ok (if x.isFinite then .float x else .fallback)

/-- A setting as a value of a type, one optional layer aside. Settings without parts become texts
where a text is wanted; what does not fit becomes the type's own default. -/
def literal (v : Setting) (t : DataType) : Except Failure Expr :=
  match t.unwrapOptional.kind with
  | .scalar .string | .scalar .text =>
    (scalarText? v).map fun
      | some s => .owned s
      | none => .fallback
  | .scalar .bool =>
    .ok (match v with
      | .bool b => .bool b
      | _ => .fallback)
  | .scalar .int32 => intLiteral 32 v
  | .scalar .int64 => intLiteral 64 v
  | .scalar .float32 | .scalar .float64 => floatLiteral v
  | _ => .ok .fallback

def zeroValue : DataType.Kind → Expr
  | .scalar .string | .scalar .text => .emptyString
  | .scalar .int32 | .scalar .int64 => .int 0
  | .scalar .float32 | .scalar .float64 => .zeroFloat
  | .scalar .bool => .bool false
  | .scalar .uuid => .freshUuid
  | .wrap .array => .emptyVec
  | _ => .fallback

/-- How a field is initialized. -/
inductive Initializer where
  | none
  | some (e : Expr)
  | bare (e : Expr)
  deriving DecidableEq

def Initializer.text : Initializer → String
  | .none => "None"
  | .some e => "Some(" ++ e.text ++ ")"
  | .bare e => e.text

def Initializer.ofField (f : Field) : Except Failure Initializer := do
  let optional := f.isOptionalInModel || f.dataType.isOptional
  match f.defaultValue.filter (!·.isNull) with
  | Option.some v =>
    let e ← literal v f.dataType
    return if optional then .some e else .bare e
  | Option.none => return if optional then .none else .bare (zeroValue f.dataType.kind)

end Wirework.Rust
