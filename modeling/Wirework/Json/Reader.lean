import Wirework.Data.Basic
import Wirework.Number.Reading

/-!
# Reading JSON

A strict reader: no comments, no trailing commas, no leading zeros, no raw control characters. The
words `NaN`, `Infinity` and `-Infinity` are numbers, what stands before the point of a number has at
most as many digits as the limit, and a number too large for the floating-point format is an
infinity. Objects keep all their entries in order, also those under a key that occurs twice.
-/

namespace Wirework.Json

def isSpace (c : Char) : Bool := c = ' ' || c = '\t' || c = '\n' || c = '\r'

def skipSpace (cs : List Char) : List Char := cs.dropWhile isSpace

def hexDigit? (c : Char) : Option Nat :=
  let n := c.toNat
  if c.isDigit then some (n - '0'.toNat)
  else if 'a'.toNat ≤ n ∧ n ≤ 'f'.toNat then some (n - 'a'.toNat + 10)
  else if 'A'.toNat ≤ n ∧ n ≤ 'F'.toNat then some (n - 'A'.toNat + 10)
  else none

/-- Four hexadecimal digits. -/
def hexUnit? (a b c d : Char) : Option Nat := do
  return (((← hexDigit? a) * 16 + (← hexDigit? b)) * 16 + (← hexDigit? c)) * 16 + (← hexDigit? d)

def escape? : Char → Option Char
  | '"' => some '"'
  | '\\' => some '\\'
  | '/' => some '/'
  | 'b' => some '\x08'
  | 'f' => some '\x0c'
  | 'n' => some '\n'
  | 'r' => some '\r'
  | 't' => some '\t'
  | _ => none

/-- The rest of a string after its opening quote, and what follows the closing one. A character
beyond the first plane is escaped by two units; a unit that stands alone is refused. -/
def string? (acc : List Char) : List Char → Option (String × List Char)
  | [] => none
  | '"' :: rest => some (String.ofList acc.reverse, rest)
  | '\\' :: 'u' :: a :: b :: c :: d :: rest =>
    match hexUnit? a b c d with
    | none => none
    | some high =>
      if 0xD800 ≤ high ∧ high < 0xDC00 then
        match rest with
        | '\\' :: 'u' :: a' :: b' :: c' :: d' :: rest' =>
          match hexUnit? a' b' c' d' with
          | none => none
          | some low =>
            if 0xDC00 ≤ low ∧ low < 0xE000 then
              string? (Char.ofNat (0x10000 + (high - 0xD800) * 0x400 + (low - 0xDC00)) :: acc) rest'
            else none
        | _ => none
      else if 0xDC00 ≤ high ∧ high < 0xE000 then none
      else string? (Char.ofNat high :: acc) rest
  | '\\' :: c :: rest =>
    match escape? c with
    | some e => string? (e :: acc) rest
    | none => none
  | c :: rest => if c.toNat < 0x20 then none else string? (c :: acc) rest

/-- The ASCII digits at the start of a text, and the rest. -/
def digits (cs : List Char) : List Char × List Char := cs.span Char.isDigit

/-- The number that ASCII digits spell. -/
def natOf (ds : List Char) : Nat := Number.ofDigits 10 (ds.map fun c => c.toNat - '0'.toNat)

/-- A fraction with at least one digit, or nothing where there is no point. -/
def fraction? : List Char → Option (Option (List Char) × List Char)
  | '.' :: rest =>
    match digits rest with
    | ([], _) => none
    | (ds, tail) => some (some ds, tail)
  | cs => some (none, cs)

/-- An exponent with at least one digit, or nothing where there is no mark. -/
def exponent? : List Char → Option (Option Int × List Char)
  | c :: rest =>
    if c = 'e' ∨ c = 'E' then
      let (negative, body) := Number.takeSign rest
      match digits body with
      | ([], _) => none
      | (ds, tail) => some (some (Number.signed negative (natOf ds)), tail)
    else some (none, c :: rest)
  | [] => some (none, [])

/-- A number: an integer unless it has a fraction or an exponent. -/
def number? (cs : List Char) : Option (Data × List Char) := do
  let (negative, body) :=
    match cs with
    | '-' :: rest => (true, rest)
    | _ => (false, cs)
  let (whole, rest) := digits body
  if whole.isEmpty || (whole.length > 1 && whole.head? = some '0') then none
  else if Number.digitLimit < whole.length then none
  else
    let (fraction, rest) ← fraction? rest
    let (exponent, rest) ← exponent? rest
    if fraction.isNone && exponent.isNone then
      some (.int (Number.signed negative (natOf whole)), rest)
    else
      let ds := fraction.getD []
      let power := exponent.getD 0 - ds.length
      some (.float (Double.ofDecimal negative (natOf (whole ++ ds)) power), rest)

/-- A word with the value it stands for, and what follows it. -/
def word? (word : String) (d : Data) (cs : List Char) : Option (Data × List Char) :=
  if word.toList.isPrefixOf cs then some (d, cs.drop word.length) else none

mutual

/-- A value and what follows it. The fuel bounds the steps, and `depth` the nesting of lists and
objects that hold something. -/
def value? (depth : Nat) (cs : List Char) : Nat → Option (Data × List Char)
  | 0 => none
  | fuel + 1 =>
    match skipSpace cs with
    | '"' :: rest => (string? [] rest).map fun (s, tail) => (.text s, tail)
    | '[' :: rest =>
      match skipSpace rest, depth with
      | ']' :: tail, _ => some (.list [], tail)
      | _, 0 => none
      | rest, depth + 1 => (items? depth [] rest fuel).map fun (xs, tail) => (.list xs, tail)
    | '\x7b' :: rest =>
      match skipSpace rest, depth with
      | '\x7d' :: tail, _ => some (.object [], tail)
      | _, 0 => none
      | rest, depth + 1 => (entries? depth [] rest fuel).map fun (es, tail) => (.object es, tail)
    | 't' :: rest => word? "true" (.bool true) ('t' :: rest)
    | 'f' :: rest => word? "false" (.bool false) ('f' :: rest)
    | 'n' :: rest => word? "null" .null ('n' :: rest)
    | 'N' :: rest => word? "NaN" (.float .nan) ('N' :: rest)
    | 'I' :: rest => word? "Infinity" (.float (.infinity false)) ('I' :: rest)
    | '-' :: 'I' :: rest => word? "-Infinity" (.float (.infinity true)) ('-' :: 'I' :: rest)
    | rest => number? rest

/-- The items of a list up to its closing bracket, in reverse before `acc` is turned. -/
def items? (depth : Nat) (acc : List Data) (cs : List Char) : Nat → Option (List Data × List Char)
  | 0 => none
  | fuel + 1 =>
    match value? depth cs fuel with
    | none => none
    | some (d, rest) =>
      match skipSpace rest with
      | ',' :: rest => items? depth (d :: acc) rest fuel
      | ']' :: rest => some ((d :: acc).reverse, rest)
      | _ => none

def entries? (depth : Nat) (acc : List (String × Data)) (cs : List Char) :
    Nat → Option (List (String × Data) × List Char)
  | 0 => none
  | fuel + 1 =>
    match skipSpace cs with
    | '"' :: rest =>
      match string? [] rest with
      | none => none
      | some (key, rest) =>
        match skipSpace rest with
        | ':' :: rest =>
          match value? depth rest fuel with
          | none => none
          | some (d, rest) =>
            match skipSpace rest with
            | ',' :: rest => entries? depth ((key, d) :: acc) rest fuel
            | '\x7d' :: rest => some (((key, d) :: acc).reverse, rest)
            | _ => none
        | _ => none
    | _ => none

end

/-- The deepest nesting that a document may have. -/
def depthLimit : Nat := 200

/-- A whole text as one value, with the nesting bounded by `depth`. -/
def parseWithin (depth : Nat) (text : String) : Option Data :=
  let cs := text.toList
  match value? depth cs (2 * cs.length + 2) with
  | some (d, rest) => if (skipSpace rest).isEmpty then some d else none
  | none => none

def parse? (text : String) : Option Data := parseWithin depthLimit text

end Wirework.Json
