import Wirework.Calendar
import Wirework.Data.Basic

/-!
# Tokens of TOML

The readers for blanks, comments, keys, strings, numbers and dates. Each takes the characters that
are left, and gives what it read with the rest. Lines end in `\n` alone.
-/

namespace Wirework.Toml

/-- The names that lead to a place in a document, the outermost first. -/
abbrev Key := List String

/-- A reader: what was read and the characters that are left. -/
abbrev Reader (α : Type) := List Char → Option (α × List Char)

inductive Error where
  | malformed
  /-- A decimal integer has more digits than the limit. -/
  | integerTooLong
  | tooDeep
  deriving DecidableEq

/-- What was read, where nothing is an error of form. -/
def need : Option α → Except Error α
  | some a => .ok a
  | none => .error .malformed

/-! ## Blanks and comments -/

def isBlank (c : Char) : Bool := c = ' ' || c = '\t'

/-- White space that may stretch over lines. -/
def isGap (c : Char) : Bool := isBlank c || c = '\n'

def skipBlanks (cs : List Char) : List Char := cs.dropWhile isBlank

def skipGaps (cs : List Char) : List Char := cs.dropWhile isGap

/-- A character that neither strings nor comments may hold as it stands. -/
def isControl (c : Char) : Bool := (c.toNat < 0x20 && c ≠ '\t') || c.toNat = 0x7F

/-- What follows the line on which a comment has begun. -/
def comment? : List Char → Option (List Char)
  | [] => some []
  | '\n' :: rest => some rest
  | c :: rest => if isControl c then none else comment? rest

/-- What follows a line of which nothing is left but a comment. -/
def lineEnd? : List Char → Option (List Char)
  | [] => some []
  | '\n' :: rest => some rest
  | '#' :: rest => comment? rest
  | _ => none

/-- What follows white space and comments over any number of lines. -/
def skipFiller? (inComment : Bool) : List Char → Option (List Char)
  | [] => some []
  | c :: rest =>
    if c = '\n' then skipFiller? false rest
    else if inComment then if isControl c then none else skipFiller? true rest
    else if isBlank c then skipFiller? false rest
    else if c = '#' then skipFiller? true rest
    else some (c :: rest)

/-! ## Strings -/

def hexDigit? (c : Char) : Option Nat :=
  let n := c.toNat
  if c.isDigit then some (n - '0'.toNat)
  else if 'a'.toNat ≤ n ∧ n ≤ 'f'.toNat then some (n - 'a'.toNat + 10)
  else if 'A'.toNat ≤ n ∧ n ≤ 'F'.toNat then some (n - 'A'.toNat + 10)
  else none

/-- The character with a number in `count` hexadecimal digits. -/
def hexChar? (count : Nat) (cs : List Char) : Option (Char × List Char) := do
  let head := cs.take count
  let ds ← head.mapM hexDigit?
  let n := Number.ofDigits 16 ds
  if head.length = count ∧ n.isValidChar then some (Char.ofNat n, cs.drop count) else none

def escape? : Char → Option Char
  | 'b' => some '\x08'
  | 't' => some '\t'
  | 'n' => some '\n'
  | 'f' => some '\x0c'
  | 'r' => some '\r'
  | '"' => some '"'
  | '\\' => some '\\'
  | _ => none

/-- What follows a backslash at the end of a line: the next character that is no white space. -/
def continued? (cs : List Char) : Option (List Char) :=
  match skipBlanks cs with
  | '\n' :: rest => some (skipGaps rest)
  | _ => none

/-- The rest of a string in which a backslash escapes, after its opening quotes. -/
def basic? (multiline : Bool) (acc : List Char) (cs : List Char) :
    Nat → Option (String × List Char)
  | 0 => none
  | fuel + 1 =>
    match cs with
    | [] => none
    | '"' :: rest =>
      if !multiline then some (String.ofList acc.reverse, rest)
      else
        match rest with
        | '"' :: '"' :: rest => some (String.ofList acc.reverse, rest)
        | _ => basic? multiline ('"' :: acc) rest fuel
    | '\\' :: 'u' :: rest => (hexChar? 4 rest).bind fun (c, rest) => basic? multiline (c :: acc) rest fuel
    | '\\' :: 'U' :: rest => (hexChar? 8 rest).bind fun (c, rest) => basic? multiline (c :: acc) rest fuel
    | '\\' :: c :: rest =>
      if multiline && isGap c then (continued? (c :: rest)).bind (basic? multiline acc · fuel)
      else (escape? c).bind fun e => basic? multiline (e :: acc) rest fuel
    | c :: rest =>
      if isControl c && !(multiline && c = '\n') then none
      else basic? multiline (c :: acc) rest fuel

/-- The rest of a string without escapes, after its opening apostrophe. -/
def literal? (acc : List Char) : Reader String
  | [] => none
  | c :: rest =>
    if c = '\x27' then some (String.ofList acc.reverse, rest)
    else if isControl c then none else literal? (c :: acc) rest

/-- The rest of a string without escapes over several lines, after its three apostrophes. -/
def literalLines? (acc : List Char) : Reader String
  | '\x27' :: '\x27' :: '\x27' :: rest => some (String.ofList acc.reverse, rest)
  | [] => none
  | c :: rest => if isControl c && c ≠ '\n' then none else literalLines? (c :: acc) rest

/-- A string with up to two quotes that stand right after the three that close it. -/
def withQuotes (quote : Char) : String × List Char → String × List Char
  | (s, rest) =>
    let extra := (rest.take 2).takeWhile (· = quote)
    (s ++ String.ofList extra, rest.drop extra.length)

def dropBreak : List Char → List Char
  | '\n' :: rest => rest
  | cs => cs

def string? (cs : List Char) : Option (String × List Char) :=
  match cs with
  | '"' :: '"' :: '"' :: rest => (basic? true [] (dropBreak rest) cs.length).map (withQuotes '"')
  | '"' :: rest => basic? false [] rest cs.length
  | '\x27' :: '\x27' :: '\x27' :: rest => (literalLines? [] (dropBreak rest)).map (withQuotes '\x27')
  | '\x27' :: rest => literal? [] rest
  | _ => none

/-! ## Keys -/

def isBare (c : Char) : Bool := c.isAlphanum || c = '-' || c = '_'

def startsKey (c : Char) : Bool := isBare c || c = '"' || c = '\x27'

/-- One part of a key: a bare word or a string on one line. -/
def keyPart? (cs : List Char) : Option (String × List Char) :=
  match cs with
  | '"' :: rest => basic? false [] rest cs.length
  | '\x27' :: rest => literal? [] rest
  | _ =>
    match cs.span isBare with
    | ([], _) => none
    | (word, rest) => some (String.ofList word, rest)

/-- The parts of a key, with points and blanks between them. -/
def keyParts? (cs : List Char) : Nat → Option (Key × List Char)
  | 0 => none
  | fuel + 1 => do
    let (part, rest) ← keyPart? cs
    match skipBlanks rest with
    | '.' :: rest =>
      let (parts, rest) ← keyParts? (skipBlanks rest) fuel
      return (part :: parts, rest)
    | rest => return ([part], rest)

def key? (cs : List Char) : Option (Key × List Char) := keyParts? cs (cs.length + 1)

/-! ## Numbers -/

def digitBelow? (base : Nat) (c : Char) : Option Nat := (hexDigit? c).filter (· < base)

def based? (base : Nat) (cs : List Char) : Option (Data × List Char) :=
  match Number.takeDigits (digitBelow? base) cs with
  | ([], _) => none
  | (ds, rest) => some (.int (Number.ofDigits base ds), rest)

/-- The whole part of a decimal number, which has no zero in front. -/
def whole? : Reader (List Nat)
  | '0' :: rest => some ([0], rest)
  | cs =>
    match Number.takeDigits Number.asciiDigit? cs with
    | ([], _) => none
    | (ds, rest) => some (ds, rest)

/-- A fraction with at least one digit, or nothing. -/
def takeFraction : List Char → Option (List Nat) × List Char
  | '.' :: rest =>
    match Number.takeDigits Number.asciiDigit? rest with
    | ([], _) => (none, '.' :: rest)
    | (ds, tail) => (some ds, tail)
  | cs => (none, cs)

/-- A decimal number: an integer unless it has a fraction or an exponent. -/
def decimal? (cs : List Char) : Option (Except Error (Data × List Char)) := do
  let (negative, body) := Number.takeSign cs
  let (ds, afterWhole) ← whole? body
  let (fraction, afterFraction) := takeFraction afterWhole
  let (exponent, rest) := Number.takeExponent Number.asciiDigit? afterFraction
  if fraction.isNone ∧ rest.length = afterFraction.length then
    if Number.digitLimit < ds.length then return .error .integerTooLong
    else return .ok (.int (Number.signed negative (Number.ofDigits 10 ds)), rest)
  else
    let places := fraction.getD []
    return .ok (.float (Double.ofDecimal negative (Number.ofDigits 10 (ds ++ places))
      (exponent - places.length)), rest)

/-- An infinity or the value that is no number, with or without a sign. -/
def special? (cs : List Char) : Option (Data × List Char) :=
  let (negative, body) := Number.takeSign cs
  match body with
  | 'i' :: 'n' :: 'f' :: rest => some (.float (.infinity negative), rest)
  | 'n' :: 'a' :: 'n' :: rest => some (.float .nan, rest)
  | _ => none

def number (cs : List Char) : Except Error (Data × List Char) :=
  let prefixed :=
    match cs with
    | '0' :: 'x' :: rest => based? 16 rest
    | '0' :: 'b' :: rest => based? 2 rest
    | '0' :: 'o' :: rest => based? 8 rest
    | _ => none
  match prefixed, decimal? cs with
  | some found, _ => .ok found
  | none, some result => result
  | none, none => need (special? cs)

/-! ## Dates and times -/

def twoDigits? (least most : Nat) (cs : List Char) : Option (Nat × List Char) :=
  (Moment.takeExactly 2 cs).filter fun (n, _) => least ≤ n && n ≤ most

/-- The part of a text that a reader has passed over. -/
def passed (cs rest : List Char) : List Char := cs.take (cs.length - rest.length)

/-- What follows the time of a day, to the second or finer. -/
def afterTime? (cs : List Char) : Option (List Char) := do
  let (_, cs) ← twoDigits? 0 23 cs
  let cs ← Moment.takeChar ':' cs
  let (_, cs) ← twoDigits? 0 59 cs
  let cs ← Moment.takeChar ':' cs
  let (_, cs) ← twoDigits? 0 59 cs
  match cs with
  | '.' :: rest =>
    match rest.span Char.isDigit with
    | ([], _) => return cs
    | (_, tail) => return tail
  | _ => return cs

/-- What follows an offset from universal time, if there is one. -/
def afterOffset (cs : List Char) : List Char :=
  match cs with
  | [] => []
  | c :: rest =>
    if c = 'Z' ∨ c = 'z' then rest
    else if c = '+' ∨ c = '-' then
      let offset := do
        let (_, rest) ← twoDigits? 0 23 rest
        let rest ← Moment.takeChar ':' rest
        let (_, rest) ← twoDigits? 0 59 rest
        return rest
      offset.getD cs
    else cs

def afterDayTime (cs : List Char) : List Char :=
  match cs with
  | [] => []
  | c :: rest =>
    if c = 'T' ∨ c = 't' ∨ c = ' ' then ((afterTime? rest).map afterOffset).getD cs else cs

/-- A date in digits, whether the calendar has it or not, and what follows. -/
def day? (cs : List Char) : Option (Option Date × List Char) := do
  let (year, cs) ← Moment.takeExactly 4 cs
  let cs ← Moment.takeChar '-' cs
  let (month, cs) ← twoDigits? 1 12 cs
  let cs ← Moment.takeChar '-' cs
  let (day, cs) ← twoDigits? 1 31 cs
  return (Date.of? year month day, cs)

/-- A value that starts like a date or a time: what it says, and nothing where the calendar has no
such date. -/
def moment? (cs : List Char) : Option (Option (Data × List Char)) :=
  let found := fun rest => (Data.named (String.ofList (passed cs rest)), rest)
  match day? cs with
  | some (date, rest) => some (date.map fun _ => found (afterDayTime rest))
  | none => (afterTime? cs).map fun rest => some (found rest)

end Wirework.Toml
