import Wirework.Pattern.Reader
import Wirework.Pattern.Search
import Wirework.Project.Field
import Wirework.Text.Basic
import Wirework.Text.Blank

/-!
# Values of a field

Candidate values are tested against a field's rules. A rule about lengths or forms concerns texts
only, and a rule about sizes numbers only; any other value passes it. A pattern that cannot be read
is never met.
-/

namespace Wirework

/-- Why a rule cannot be applied. -/
inductive RuleError where
  /-- The bound is missing, or is nothing that can be compared with. -/
  | missingBound
  | unreadableBound
  | overflow
  /-- The bound is a pattern whose groups are nested too deeply. -/
  | tooDeep
  /-- The bound has too many digits to be written. -/
  | tooLong
  deriving DecidableEq

/-- A short name of the error, for tools. -/
def RuleError.code : RuleError → String
  | .missingBound => "Type"
  | .unreadableBound | .tooLong => "Value"
  | .overflow => "Overflow"
  | .tooDeep => "Recursion"

/-- The bound of a rule as an integer; the fraction of a number is dropped. -/
def Bound.toInt : Option Bound → Except RuleError Int
  | none => .error .missingBound
  | some (.int n) => .ok n
  | some (.float x) =>
    match x.truncate? with
    | some n => .ok n
    | none => .error (if x.isNan then .unreadableBound else .overflow)
  | some (.text s) =>
    match Number.int? s with
    | some n => .ok n
    | none => .error .unreadableBound
  | some (.other (.bool b)) => .ok b.toNat
  | some (.other _) => .error .missingBound

def Bound.toDouble : Option Bound → Except RuleError Double
  | none => .error .missingBound
  | some (.int n) =>
    match Double.ofInt? n with
    | some x => .ok x
    | none => .error .overflow
  | some (.float x) => .ok x
  | some (.text s) =>
    match Number.float? s with
    | some x => .ok x
    | none => .error .unreadableBound
  | some (.other (.bool b)) => .ok (.ofRatio false b.toNat 1)
  | some (.other _) => .error .missingBound

/-! ## Forms of texts -/

/-- A text without one line feed at its end. -/
def dropFinalNewline (cs : List Char) : List Char :=
  if cs.getLast? = some '\n' then cs.dropLast else cs

/-- Whether a text has the form of an address: one `@` between parts without blanks, and a point
inside the second part. A line feed at the end does not count. -/
def isEmail (text : String) : Bool :=
  let plain := fun c => c ≠ '@' && !Text.isBlank c
  match (dropFinalNewline text.toList).span (· ≠ '@') with
  | (user, '@' :: host) =>
    !user.isEmpty && user.all plain && host.all plain && (host.drop 1).dropLast.contains '.'
  | _ => false

def dropBraces (cs : List Char) : List Char :=
  let brace := fun c => c = '\x7b' || c = '\x7d'
  ((cs.dropWhile brace).reverse.dropWhile brace).reverse

/-- Whether a text names a universally unique id: 32 characters that spell a hexadecimal number of
128 bits, apart from marks in front, braces around and hyphens between them. -/
def isUuid (text : String) : Bool :=
  let bare := Text.removeAll "uuid:" (Text.removeAll "urn:" text.toList)
  let digits := (dropBraces bare).filter (· ≠ '-')
  digits.length = 32 &&
    match Number.hexInt? digits with
    | some n => 0 ≤ n && n < Number.pow2 128
    | none => false

def meetsPattern (pattern text : String) : Except RuleError Bool :=
  match Pattern.read pattern with
  | .ok p => .ok (p.occursIn text)
  | .error .invalid => .ok false
  | .error .countTooLarge => .error .overflow
  | .error .unreadable => .error .unreadableBound
  | .error .tooDeep => .error .tooDeep

/-! ## Rules -/

def Rule.passes (r : Rule) (v : Setting) : Except RuleError Bool :=
  match v.asNumber with
  | .tooLarge => .error .overflow
  | .number x =>
    match r.kind with
    | .min => (Bound.toDouble r.value).map fun bound => bound.le x
    | .max => (Bound.toDouble r.value).map fun bound => x.le bound
    | _ => .ok true
  | .none =>
    match v.asString? with
    | none => .ok true
    | some s =>
      match r.kind with
      | .minLength => (Bound.toInt r.value).map fun bound => bound ≤ (s.length : Int)
      | .maxLength => (Bound.toInt r.value).map fun bound => (s.length : Int) ≤ bound
      | .email => .ok (isEmail s)
      | .uuid => .ok (isUuid s)
      | .pattern =>
        match r.boundText with
        | some pattern => meetsPattern pattern s
        | none => .error .tooLong
      | _ => .ok true

namespace Field

def remark (f : Field) (message : String) : String := f.displayLabel ++ ": " ++ message

end Field

end Wirework
