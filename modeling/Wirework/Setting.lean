import Wirework.Number.Double

/-!
# Settings

A setting is a tagged configuration value: what a node's configuration, a domain's settings and a
field's default hold. The `as…?` queries answer only for the matching kind, except that an integer
is also a number.
-/

namespace Wirework

/-- A configuration value. Keys of an object are distinct and keep their order. -/
inductive Setting where
  | null
  | bool (b : Bool)
  | int (n : Int)
  | float (x : Double)
  | string (s : String)
  | array (items : List Setting)
  | object (entries : List (String × Setting))

namespace Setting

instance : Inhabited Setting := ⟨.null⟩

inductive Kind where
  | null | bool | int | float | string | array | object
  deriving DecidableEq, Inhabited

def Kind.all : List Kind := [.null, .bool, .int, .float, .string, .array, .object]

def Kind.label : Kind → String
  | .null => "null"
  | .bool => "bool"
  | .int => "int"
  | .float => "float"
  | .string => "string"
  | .array => "array"
  | .object => "object"

def kind : Setting → Kind
  | .null => .null
  | .bool _ => .bool
  | .int _ => .int
  | .float _ => .float
  | .string _ => .string
  | .array _ => .array
  | .object _ => .object

def isNull (v : Setting) : Bool := v.kind = .null

def asBool? : Setting → Option Bool
  | .bool b => some b
  | _ => none

def asInt? : Setting → Option Int
  | .int n => some n
  | _ => none

def asString? : Setting → Option String
  | .string s => some s
  | _ => none

def asArray? : Setting → Option (List Setting)
  | .array items => some items
  | _ => none

def asObject? : Setting → Option (List (String × Setting))
  | .object entries => some entries
  | _ => none

inductive Numeric where
  /-- The setting is not a number. -/
  | none
  | number (x : Double)
  /-- The setting is an integer beyond the largest finite number. -/
  | tooLarge
  deriving DecidableEq

/-- The number that a float is or an integer rounds to. -/
def asNumber : Setting → Numeric
  | .float x => .number x
  | .int n =>
    match Double.ofInt? n with
    | some x => .number x
    | Option.none => .tooLarge
  | _ => .none

end Setting

end Wirework
