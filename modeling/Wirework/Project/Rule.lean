import Wirework.Data.Basic
import Wirework.Labelled

/-!
# Field rules

A rule restricts the values of a field, such as a least length or a pattern. Each rule has the
message that is shown when a value breaks it.
-/

namespace Wirework

inductive RuleKind where
  | required | minLength | maxLength | min | max | pattern | email | url | uuid | custom
  deriving DecidableEq, Inhabited

instance : Labelled RuleKind where
  all := [.required, .minLength, .maxLength, .min, .max, .pattern, .email, .url, .uuid, .custom]
  label
    | .required => "required"
    | .minLength => "min_length"
    | .maxLength => "max_length"
    | .min => "min"
    | .max => "max"
    | .pattern => "pattern"
    | .email => "email"
    | .url => "url"
    | .uuid => "uuid"
    | .custom => "custom"

/-- What a rule compares with. Any rule may be written with any of these. -/
inductive Bound where
  | int (n : Int)
  | float (x : Double)
  | text (s : String)
  /-- The value of a member of an enumeration that is none of these. -/
  | other (value : Data)

/-- The text of a bound in messages, unless it is too long to be written. -/
def Bound.display : Bound → Option String
  | .int n => Number.decimal? n
  | .float x => some (Layout.display.write x)
  | .text s => some s
  | .other value => value.display

/-- A restriction on the values of a field. -/
structure Rule where
  kind : RuleKind
  value : Option Bound := none
  name : Option String := none
  message : Option String := none
  deriving Inhabited

namespace Rule

def boundText (r : Rule) : Option String :=
  match r.value with
  | some b => b.display
  | none => some "None"

/-- The message shown when a value breaks a rule, unless the bound in it is too long. -/
def complaint (r : Rule) : Option String :=
  match r.kind with
  | .required => some "This field is required"
  | .minLength => r.boundText.map ("Minimum length is " ++ ·)
  | .maxLength => r.boundText.map ("Maximum length is " ++ ·)
  | .min => r.boundText.map ("Minimum value is " ++ ·)
  | .max => r.boundText.map ("Maximum value is " ++ ·)
  | .pattern => r.boundText.map ("Must match pattern: " ++ ·)
  | .email => some "Must be a valid email address"
  | .url => some "Must be a valid URL"
  | .uuid => some "Must be a valid UUID"
  | .custom =>
    match nonEmpty? r.message with
    | some m => some m
    | none => some ("Failed custom validation '" ++ r.name.getD "None" ++ "'")

end Rule

end Wirework
