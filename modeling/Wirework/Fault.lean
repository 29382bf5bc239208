/-!
# Faults

What is wrong in a document, place by place.
-/

namespace Wirework

/-- What is wrong at one place of a document. -/
inductive Fault where
  | missing
  | notRecord
  | notList
  | notMap
  | notText
  | notMember
  | notBool
  | unreadableBool
  | notInteger
  | unreadableInteger
  | integerTooLarge
  | fraction
  | notFinite
  | notPositive
  | notNumber
  | unreadableNumber
  | notMoment
  | noAlternative
  | unknownKey
  /-- A key is no text. -/
  | notKey
  /-- Records of one kind are nested too deeply. -/
  | tooDeep
  /-- The entry must not change after the record was built. -/
  | frozen
  /-- The text is no document at all. -/
  | notDocument
  /-- The entries do not fit together. -/
  | inconsistent (message : String)
  deriving DecidableEq

/-- A short name of a fault, for tools. -/
def Fault.code : Fault → String
  | .missing => "missing"
  | .notRecord => "model_type"
  | .notList => "list_type"
  | .notMap => "dict_type"
  | .notText => "string_type"
  | .notMember => "enum"
  | .notBool => "bool_type"
  | .unreadableBool => "bool_parsing"
  | .notInteger => "int_type"
  | .unreadableInteger => "int_parsing"
  | .integerTooLarge => "int_parsing_size"
  | .fraction => "int_from_float"
  | .notFinite => "finite_number"
  | .notPositive => "greater_than"
  | .notNumber => "float_type"
  | .unreadableNumber => "float_parsing"
  | .notMoment => "datetime"
  | .noAlternative => "union"
  | .unknownKey => "extra_forbidden"
  | .notKey => "invalid_key"
  | .tooDeep => "recursion_depth_exceeded"
  | .frozen => "frozen_field"
  | .notDocument => "json_invalid"
  | .inconsistent _ => "value_error"

/-- A fault and its place: keys and indexes, the outermost first. -/
structure Complaint where
  path : List String
  fault : Fault
  deriving DecidableEq

/-- What ends the reading of a record at once. -/
inductive Halt where
  /-- An integer is beyond the floating-point format. -/
  | overflow
  /-- A collection that is taken as it stands holds something that is no setting. -/
  | notSetting
  /-- An integer that is taken by its text has too many digits. -/
  | tooLong
  deriving DecidableEq

/-- Why a record cannot be read. -/
inductive Refusal where
  | complaints (list : List Complaint)
  | halted (why : Halt)
  deriving DecidableEq

end Wirework
