import Wirework.Number.Reading
import Wirework.Text.Alphanumeric
import Wirework.Text.Basic
import Wirework.Text.CharName

/-!
# Literals

The arguments of the handlers that tags on the console name are literals: numbers, texts, the words
`True`, `False` and `None`, an ellipsis, tuples in parentheses, and sets and mappings in braces.
`Literal.isLiteral` tells whether a text is one. Square brackets are no part of a tag, and so there
are no lists.
-/

namespace Wirework.Literal

inductive Kind where
  /-- A number without a sign and without an imaginary part. -/
  | real
  /-- A number with an imaginary part only. -/
  | imaginary
  /-- A real number with a sign. -/
  | signed
  | text
  /-- Bytes in quotation marks. -/
  | bytes
  /-- Another literal that may be a key. -/
  | constant
  /-- A set or a mapping, or a tuple that holds one. -/
  | collection
  deriving DecidableEq

/-- Whether a literal may be a member of a set or a key of a mapping. -/
def Kind.isKey (k : Kind) : Bool := k ≠ .collection

/-- A literal at the start of a text, and the rest. -/
abbrev Found := Option (Kind × List Char)

/-! ## Blanks and words -/

/-- A text without the blanks and comments at its start. Ends of lines count as blanks `inside`
brackets, and everywhere after a backslash if more follows. -/
def skip (inside inComment : Bool) : List Char → List Char
  | [] => []
  | '\\' :: '\n' :: c :: rest =>
    if inComment then skip inside true ('\n' :: c :: rest) else skip inside false (c :: rest)
  | c :: rest =>
    if inComment && c ≠ '\n' then skip inside true rest
    else if c = ' ' || c = '\t' || c = '\x0c' || (inside && c = '\n') then skip inside false rest
    else if c = '#' then skip inside true rest
    else c :: rest

/-- A text from its first word on, which stands at the start of a line; lines without words are left
out. `column` blanks have been read, and `margin` blanks stood before a line that goes on after a
backslash. -/
def lineStart (column margin : Nat) (inComment : Bool) : List Char → Option (List Char)
  | [] => if inComment || (column = 0 && margin = 0) then some [] else none
  | '\n' :: rest => lineStart 0 0 false rest
  | '\\' :: '\n' :: c :: rest =>
    if inComment then lineStart column margin true ('\n' :: c :: rest)
    else lineStart column (if margin = 0 then column else margin) false (c :: rest)
  | c :: rest =>
    if inComment then lineStart column margin true rest
    else if c = ' ' || c = '\t' then lineStart (column + 1) margin false rest
    else if c = '\x0c' then lineStart 0 margin false rest
    else if c = '#' then lineStart column margin true rest
    else if column = 0 && margin = 0 then some (c :: rest)
    else none

def isNameChar (c : Char) : Bool := c = '_' || Text.isAlphanumeric c

/-! ## Numbers -/

/-- The end of a number, which no name follows directly. -/
def numberEnd (kind : Kind) : List Char → Found
  | [] => some (kind, [])
  | c :: rest =>
    if c = 'j' || c = 'J' then
      if rest.head?.any isNameChar then none else some (.imaginary, rest)
    else if isNameChar c then none
    else some (kind, c :: rest)

def based? (base : Nat) (cs : List Char) : Found :=
  let cs := if cs.head? = some '_' then cs.tail else cs
  match Number.takeDigits (fun c => (if c.toNat < 128 then Number.digitValue? base c else none)) cs with
  | ([], _) => none
  | (_, rest) => if rest.head?.any isNameChar then none else some (.real, rest)

/-- The exponent of a number, if one stands at the start of a text, and the rest. -/
def exponent : List Char → Bool × List Char
  | c :: rest =>
    if c = 'e' || c = 'E' then
      match Number.takeDigits Number.asciiDigit? (Number.takeSign rest).2 with
      | ([], _) => (false, c :: rest)
      | (_, rest) => (true, rest)
    else (false, c :: rest)
  | [] => (false, [])

/-- A number in base ten. A whole number starts with a zero only if it is zero, and has a limited
number of digits. -/
def decimal? (cs : List Char) : Found :=
  let (whole, rest) := Number.takeDigits Number.asciiDigit? cs
  let (part, rest) :=
    match rest with
    | '.' :: rest =>
      let (digits, rest) := Number.takeDigits Number.asciiDigit? rest
      (some digits, rest)
    | rest => (none, rest)
  let (hasExponent, rest) := exponent rest
  if whole.isEmpty && (part.getD []).isEmpty then none
  else
    match numberEnd .real rest with
    | some (.real, rest) =>
      let isWhole := part.isNone && !hasExponent
      let isPadded := whole.head? = some 0 && whole.any (· ≠ 0)
      if isWhole && (isPadded || Number.digitLimit < whole.length) then none
      else some (.real, rest)
    | found => found

def number? : List Char → Found
  | '0' :: c :: rest =>
    if c = 'x' || c = 'X' then based? 16 rest
    else if c = 'o' || c = 'O' then based? 8 rest
    else if c = 'b' || c = 'B' then based? 2 rest
    else decimal? ('0' :: c :: rest)
  | cs => decimal? cs

/-! ## Texts -/

/-- How a text in quotation marks is read. -/
structure Quoting where
  isBytes : Bool := false
  isRaw : Bool := false
  quote : Char := '"'
  /-- Whether three marks stand on each side, so that the text may have several lines. -/
  isLong : Bool := false

def Quoting.digits (q : Quoting) (c : Char) : Nat :=
  if q.isRaw then 0
  else if c = 'x' then 2
  else if q.isBytes then 0
  else if c = 'u' then 4
  else if c = 'U' then 8
  else 0

/-- Whether the name of a character stands in braces at the start of a text. -/
def startsWithName : List Char → Bool
  | '\x7b' :: cs =>
    let name := cs.takeWhile (· ≠ '\x7d')
    name.length < cs.length && (Text.CharName.code? name).isSome
  | _ => false

/-- Whether an escape with its digits or its name stands for a character. -/
def Quoting.takes (q : Quoting) (c : Char) (rest : List Char) : Bool :=
  (c ≠ 'N' || q.isRaw || q.isBytes || startsWithName rest) &&
  let ds := (rest.take (q.digits c)).filterMap fun d =>
    if d.toNat < 128 then Number.digitValue? 16 d else none
  ds.length = q.digits c && Number.ofDigits 16 ds < 0x110000

/-- The rest of a text after its closing marks. -/
def Quoting.close? (q : Quoting) : List Char → Option (List Char)
  | [] => none
  | '\\' :: c :: rest =>
    if (q.isBytes && 128 ≤ c.toNat) || !q.takes c rest then none else q.close? rest
  | c :: rest =>
    if c = q.quote then
      if !q.isLong then some rest
      else
        match rest with
        | d :: e :: after => if d = q.quote && e = q.quote then some after else q.close? rest
        | _ => none
    else if (q.isBytes && 128 ≤ c.toNat) || (!q.isLong && c = '\n') then none
    else q.close? rest

/-- A text after the letters in front of its quotation marks. -/
def Quoting.open? (q : Quoting) : List Char → Found
  | c :: rest =>
    if c = '"' || c = '\x27' then
      let q := { q with quote := c }
      let rest? :=
        match rest with
        | d :: e :: after =>
          if d = c && e = c then { q with isLong := true : Quoting }.close? after else q.close? rest
        | _ => q.close? rest
      rest?.map fun rest => (if q.isBytes then .bytes else .text, rest)
    else none
  | [] => none

/-- One text in quotation marks, with letters in front that say how it is read. -/
def quoted? (cs : List Char) : Found :=
  let letters := (cs.takeWhile Char.isAlpha).map Char.toLower
  let rest := cs.dropWhile Char.isAlpha
  match letters with
  | [] | ['u'] => ({} : Quoting).open? rest
  | ['r'] => { isRaw := true : Quoting }.open? rest
  | ['b'] => { isBytes := true : Quoting }.open? rest
  | ['b', 'r'] | ['r', 'b'] => { isBytes := true, isRaw := true : Quoting }.open? rest
  | _ => none

/-- Texts that follow each other are one text; bytes and characters do not mix. -/
def texts? (inside : Bool) : Nat → List Char → Found
  | 0, _ => none
  | fuel + 1, cs => do
    let (kind, rest) ← quoted? cs
    match skip inside false rest with
    | [] => some (kind, [])
    | c :: more =>
      if c = '"' || c = '\x27' || c.isAlpha then
        let (next, rest) ← texts? inside fuel (c :: more)
        if next = kind then some (kind, rest) else none
      else some (kind, c :: more)

/-! ## Values -/

/-- The number of brackets that may stand around each other. -/
def depthLimit : Nat := 200

/-- A word that is a literal: a truth value, nothing, or the empty set. -/
def word? (depth : Nat) (cs : List Char) : Found :=
  let rest := cs.dropWhile isNameChar
  match String.ofList (cs.takeWhile isNameChar) with
  | "True" | "False" | "None" => some (.constant, rest)
  | "set" =>
    match skip (depth ≠ 0) false rest with
    | '(' :: rest =>
      match skip true false rest with
      | ')' :: rest => if depth < depthLimit then some (.collection, rest) else none
      | _ => none
    | _ => none
  | _ => none

/-- A literal without parts, between `depth` brackets. -/
def simple? (depth : Nat) (cs : List Char) : Found :=
  match cs with
  | '.' :: '.' :: '.' :: rest => some (.constant, rest)
  | _ =>
    (number? cs).orElse fun _ =>
      (texts? (depth ≠ 0) cs.length cs).orElse fun _ => word? depth cs

def Kind.with (a b : Kind) : Kind := if a.isKey && b.isKey then .constant else .collection

/-- What follows the members of a tuple or a set, if they end here: a closing bracket is passed over,
and without one they end with the line. -/
def ending? (closing : Option Char) (cs : List Char) : Option (List Char) :=
  match closing with
  | some c => if cs.head? = some c then some cs.tail else none
  | none => if cs.isEmpty || cs.head? = some '\n' then some cs else none

mutual

/-- A literal without a sign, between `depth` brackets. -/
def atom? (depth : Nat) : Nat → List Char → Found
  | 0, _ => none
  | fuel + 1, '(' :: cs =>
    if depthLimit ≤ depth then none
    else
      match skip true false cs with
      | ')' :: rest => some (.constant, rest)
      | cs => do
        let (kind, rest) ← value? (depth + 1) fuel cs
        match rest with
        | ')' :: rest => some (kind, rest)
        | ',' :: rest => members? (some ')') (depth + 1) fuel kind (skip true false rest)
        | _ => none
  | fuel + 1, '\x7b' :: cs =>
    if depthLimit ≤ depth then none
    else
      match skip true false cs with
      | '\x7d' :: rest => some (.collection, rest)
      | cs => do
        let (kind, rest) ← value? (depth + 1) fuel cs
        match rest with
        | '\x7d' :: rest => if kind.isKey then some (.collection, rest) else none
        | ',' :: rest =>
          if !kind.isKey then none
          else do
            let (kind, rest) ← members? (some '\x7d') (depth + 1) fuel kind (skip true false rest)
            if kind.isKey then some (.collection, rest) else none
        | ':' :: rest => do
          let (_, rest) ← value? (depth + 1) fuel (skip true false rest)
          if kind.isKey then entries? (depth + 1) fuel rest else none
        | _ => none
  | _, cs => simple? depth cs
termination_by structural fuel => fuel

/-- A literal with a sign or with two parts, and the rest without the blanks in front. -/
def value? (depth : Nat) : Nat → List Char → Found
  | 0, _ => none
  | fuel + 1, cs => do
    let inside := depth ≠ 0
    let (kind, rest) ←
      match cs with
      | c :: rest =>
        if c = '+' || c = '-' then
          match atom? depth fuel (skip inside false rest) with
          | some (.real, rest) => some (.signed, rest)
          | some (.imaginary, rest) => some (.constant, rest)
          | _ => none
        else atom? depth fuel cs
      | [] => none
    match skip inside false rest with
    | c :: rest =>
      if c = '+' || c = '-' then
        match atom? depth fuel (skip inside false rest) with
        | some (.imaginary, rest) =>
          if kind = .real || kind = .signed then some (.constant, skip inside false rest) else none
        | _ => none
      else some (kind, c :: rest)
    | [] => some (kind, [])
termination_by structural fuel => fuel

/-- Further members of a tuple or a set up to its end, after a comma. -/
def members? (closing : Option Char) (depth : Nat) : Nat → Kind → List Char → Found
  | 0, _, _ => none
  | fuel + 1, kind, cs =>
    match ending? closing cs with
    | some rest => some (kind.with kind, rest)
    | none => do
      let (next, rest) ← value? depth fuel cs
      match rest with
      | ',' :: rest =>
        members? closing depth fuel (kind.with next) (skip (depth ≠ 0) false rest)
      | rest => (ending? closing rest).map fun rest => (kind.with next, rest)
termination_by structural fuel => fuel

/-- Further entries of a mapping, after the first one. -/
def entries? (depth : Nat) : Nat → List Char → Found
  | 0, _ => none
  | fuel + 1, cs =>
    match cs with
    | '\x7d' :: rest => some (.collection, rest)
    | ',' :: rest =>
      match skip true false rest with
      | '\x7d' :: rest => some (.collection, rest)
      | rest => do
        let (key, rest) ← value? depth fuel rest
        match rest with
        | ':' :: rest => do
          let (_, rest) ← value? depth fuel (skip true false rest)
          if key.isKey then entries? depth fuel rest else none
        | _ => none
    | _ => none
termination_by structural fuel => fuel

end

/-- Whether nothing but empty lines follows a literal. -/
def isEnd : List Char → Bool
  | [] => true
  | '\n' :: rest => lineStart 0 0 false rest = some []
  | _ => false

/-- Whether a text is a literal. A tuple may stand without its parentheses. -/
def isLiteral (text : List Char) : Bool :=
  let cs := Text.unifyLineEnds (text.dropWhile fun c => c = ' ' || c = '\t')
  let fuel := 3 * cs.length + 3
  !cs.contains '\x00' &&
    match lineStart 0 0 false cs with
    | none => false
    | some cs =>
      match value? 0 fuel cs with
      | some (kind, ',' :: rest) =>
        (members? none 0 fuel kind (skip false false rest)).any fun found => isEnd found.2
      | some (_, rest) => isEnd rest
      | none => false

end Wirework.Literal
