import Wirework.Number.Double
import Wirework.Text.Alphanumeric
import Wirework.Text.Blank

/-!
# Numbers in text

Readers for integers and floating-point numbers. The grammar of digits is shared: single underscores
may stand between digits. The readers differ in which digits count, in what they trim, and in
whether words such as `inf` are numbers.
-/

namespace Wirework.Number

/-- The value of a digit in bases up to sixteen; decimal digits of every script count. -/
def digitValue? (base : Nat) (c : Char) : Option Nat :=
  let value? :=
    match Text.decimalValue? c with
    | some v => some v
    | none =>
      let n := c.toNat
      if 'a'.toNat ≤ n ∧ n ≤ 'f'.toNat then some (n - 'a'.toNat + 10)
      else if 'A'.toNat ≤ n ∧ n ≤ 'F'.toNat then some (n - 'A'.toNat + 10)
      else none
  value?.filter (· < base)

def asciiDigit? (c : Char) : Option Nat := if c.isDigit then some (c.toNat - '0'.toNat) else none

/-- The digits that continue a run of digits, with single underscores between them, and the rest. -/
def moreDigits (digit? : Char → Option Nat) : List Char → List Nat × List Char
  | [] => ([], [])
  | '_' :: c :: rest =>
    match digit? c with
    | some d => let (ds, tail) := moreDigits digit? rest; (d :: ds, tail)
    | none => ([], '_' :: c :: rest)
  | c :: rest =>
    match digit? c with
    | some d => let (ds, tail) := moreDigits digit? rest; (d :: ds, tail)
    | none => ([], c :: rest)

/-- The run of digits at the start of a text, and the rest. -/
def takeDigits (digit? : Char → Option Nat) : List Char → List Nat × List Char
  | [] => ([], [])
  | c :: rest =>
    match digit? c with
    | some d => let (ds, tail) := moreDigits digit? rest; (d :: ds, tail)
    | none => ([], c :: rest)

def ofDigits (base : Nat) (ds : List Nat) : Nat := ds.foldl (fun n d => n * base + d) 0

/-- A sign at the start of a text, and the rest. -/
def takeSign : List Char → Bool × List Char
  | '-' :: rest => (true, rest)
  | '+' :: rest => (false, rest)
  | cs => (false, cs)

def signed (negative : Bool) (n : Nat) : Int := if negative then -(n : Int) else n

/-- Ascii lower case, for the words `inf`, `infinity` and `nan` and for the exponent mark. -/
def isWord (word : String) (cs : List Char) : Bool := cs.map Char.toLower = word.toList

/-- White space around a number: as `Text.isBlank`, without the four separator controls. -/
def isMargin (c : Char) : Bool := Text.isBlank c && !(0x1C ≤ c.toNat && c.toNat ≤ 0x1F)

/-- A text without the white space that may stand around a number. -/
def trimMargin (cs : List Char) : List Char :=
  ((cs.dropWhile isMargin).reverse.dropWhile isMargin).reverse

/-- A text without its underscores, which stand alone and inside it; nothing if it has none or has
others. -/
def withoutUnderscores? (cs : List Char) : Option (List Char) :=
  let single := !(cs.zip (cs.drop 1)).contains ('_', '_')
  if cs.contains '_' && cs.head? ≠ some '_' && cs.getLast? ≠ some '_' && single then
    some (cs.filter (· ≠ '_'))
  else none

/-! ## Integers -/

/-- The most digits that the decimal text of an integer may have. -/
def digitLimit : Nat := 4300

def isShort (n : Int) : Bool := (Nat.toDigits 10 n.natAbs).length ≤ digitLimit

/-- The decimal text of an integer, unless it has too many digits to be written. -/
def decimal? (n : Int) : Option String := if isShort n then some (toString n) else none

@[simp] theorem isSome_decimal? (n : Int) : (decimal? n).isSome = isShort n := by
  cases h : isShort n <;> simp [decimal?, h]

/-- A whole text as an integer in base ten: white space around it, a sign, digits of any script. -/
def int? (text : String) : Option Int :=
  let (negative, cs) := takeSign (trimMargin text.toList)
  match takeDigits (digitValue? 10) cs with
  | (d :: ds, []) =>
    if ds.length < digitLimit then some (signed negative (ofDigits 10 (d :: ds))) else none
  | _ => none

/-- A whole text as an integer in base sixteen, where `0x` may stand in front. -/
def hexInt? (cs : List Char) : Option Int :=
  let (negative, cs) := takeSign (trimMargin cs)
  let cs :=
    match cs with
    | '0' :: x :: '_' :: rest => if x = 'x' ∨ x = 'X' then rest else cs
    | '0' :: x :: rest => if x = 'x' ∨ x = 'X' then rest else cs
    | _ => cs
  match takeDigits (digitValue? 16) cs with
  | (d :: ds, []) => some (signed negative (ofDigits 16 (d :: ds)))
  | _ => none

/-- Why the text of a setting is no integer. -/
inductive IntTrouble where
  | unreadable
  | tooLong
  deriving DecidableEq

/-- The plainest form of an integer: a minus sign or none, then ASCII digits without a zero in front.
A text that begins with more than the limit is too long, whatever follows. -/
def plainInt (cs : List Char) : Except IntTrouble Int :=
  let (negative, body) :=
    match cs with
    | '-' :: rest => (true, rest)
    | _ => (false, cs)
  let (ds, rest) := body.span Char.isDigit
  if ds.isEmpty ∨ (ds.head? = some '0' ∧ 1 < ds.length) then .error .unreadable
  else if digitLimit < ds.length then .error .tooLong
  else if rest.isEmpty then
    .ok (signed negative (ofDigits 10 (ds.map fun c => c.toNat - '0'.toNat)))
  else .error .unreadable

/-- What is left of digits once a zero was read: zeros and underscores are dropped up to a digit or a
sign. One character in front of a point or of the end stays. -/
def dropZeros (last : Char) : List Char → Option (List Char)
  | [] => some [last]
  | c :: rest =>
    if c = '0' ∨ c = '_' then dropZeros c rest
    else if c = '-' ∨ c.isDigit then some (c :: rest)
    else if c = '.' then some (last :: c :: rest)
    else none

def dropZeroFraction (cs : List Char) : List Char :=
  match cs.span (· ≠ '.') with
  | (whole, _ :: zeros) => if !zeros.isEmpty && zeros.all (· = '0') then whole else cs
  | (_, []) => cs

/-- A sign in front of a setting's digits, with whether it is a minus sign, and the rest. A sign behind
a minus sign or a minus sign behind a plus sign is refused. -/
def takeSettingSign : List Char → Option (Bool × List Char)
  | '+' :: '-' :: _ | '-' :: '-' :: _ | '-' :: '+' :: _ => none
  | cs => some (takeSign cs)

/-- The plainest form that a text with white space around it, a sign, zeros in front, a fraction of
zeros or underscores comes down to. -/
def plainForm? (cs : List Char) : Option (List Char) := do
  let (negative, body) ← takeSettingSign (trimMargin cs)
  let stripped ←
    match body with
    | '0' :: rest => dropZeros '0' rest
    | c :: _ => if c.isDigit then some body else none
    | [] => none
  let whole := dropZeroFraction stripped
  let digits := (withoutUnderscores? whole).getD whole
  return if negative then '-' :: digits else digits

def settingInt (text : String) : Except IntTrouble Int :=
  match plainInt text.toList with
  | .error .unreadable =>
    match plainForm? text.toList with
    | some cs => plainInt cs
    | none => .error .unreadable
  | result => result

/-! ## Floating-point numbers -/

/-- The exponent part at the start of a text, zero if there is none, and the rest. -/
def takeExponent (digit? : Char → Option Nat) (cs : List Char) : Int × List Char :=
  match cs with
  | mark :: rest =>
    if mark = 'e' ∨ mark = 'E' then
      let (negative, body) := takeSign rest
      match takeDigits digit? body with
      | (d :: ds, tail) => (signed negative (ofDigits 10 (d :: ds)), tail)
      | ([], _) => (0, cs)
    else (0, cs)
  | [] => (0, [])

/-- An unsigned decimal with optional fraction and exponent, at least one digit in all. -/
def takeDecimal (digit? : Char → Option Nat) (negative : Bool) (cs : List Char) :
    Option (Double × List Char) :=
  let (whole, rest) := takeDigits digit? cs
  let (fraction, rest) :=
    match rest with
    | '.' :: body =>
      let (ds, tail) := takeDigits digit? body
      if whole.isEmpty ∧ ds.isEmpty then ([], rest) else (ds, tail)
    | _ => ([], rest)
  if whole.isEmpty ∧ fraction.isEmpty then none
  else
    let (exponent, rest) := takeExponent digit? rest
    let digits := ofDigits 10 (whole ++ fraction)
    some (Double.ofDecimal negative digits (exponent - fraction.length), rest)

/-- A trimmed text as a floating-point number, by a choice of digits. -/
def double? (digit? : Char → Option Nat) (cs : List Char) : Option Double :=
  let (negative, cs) := takeSign cs
  if isWord "inf" cs || isWord "infinity" cs then some (.infinity negative)
  else if isWord "nan" cs then some .nan
  else
    match takeDecimal digit? negative cs with
    | some (x, []) => some x
    | _ => none

/-- A whole text as a floating-point number: white space around it, digits of any script. -/
def float? (text : String) : Option Double :=
  double? (digitValue? 10) (trimMargin text.toList)

/-- A text of ASCII digits without underscores as a floating-point number. -/
def plainFloat? (cs : List Char) : Option Double :=
  if cs.contains '_' then none else double? asciiDigit? cs

/-- A setting's text as a floating-point number. It may have white space around it or underscores
inside it, but not both. -/
def settingFloat? (text : String) : Option Double :=
  (plainFloat? (trimMargin text.toList)).or
    ((withoutUnderscores? text.toList).bind plainFloat?)

end Wirework.Number
