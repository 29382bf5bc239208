import Wirework.Data.Basic

/-!
# Writing JSON

A `Style` records the format's decisions: the indentation, whether characters beyond ASCII are
escaped, and how numbers are set out. Lists and tuples are written alike, and a member of an
enumeration as its value. Writing fails on a value that no document can hold.
-/

namespace Wirework.Json

/-- The decisions of one written form. -/
structure Style where
  /-- Blanks per level; nothing for a text on one line without blanks. -/
  indent : Option Nat
  /-- Whether characters beyond ASCII are written as escapes. -/
  asciiOnly : Bool
  number : Double → String

/-- Project files: characters stand for themselves. -/
def Style.file (compact : Bool) : Style :=
  ⟨if compact then none else some 2, false, Layout.document.write⟩

/-- Reports: only ASCII, two blanks per level. -/
def Style.report : Style := ⟨some 2, true, Layout.report.write⟩

def escapeUnit (n : Nat) : List Char := '\\' :: 'u' :: Text.hex 4 n

/-- One character inside a string. -/
def escapeChar (style : Style) (c : Char) : List Char :=
  let n := c.toNat
  if c = '"' then ['\\', '"']
  else if c = '\\' then ['\\', '\\']
  else if n = 0x08 then ['\\', 'b']
  else if n = 0x09 then ['\\', 't']
  else if n = 0x0A then ['\\', 'n']
  else if n = 0x0C then ['\\', 'f']
  else if n = 0x0D then ['\\', 'r']
  else if n < 0x20 then escapeUnit n
  else if style.asciiOnly ∧ 0x7F ≤ n then
    if n = 0x7F then [c]
    else if n < 0x10000 then escapeUnit n
    else escapeUnit (0xD800 + (n - 0x10000) / 0x400) ++ escapeUnit (0xDC00 + (n - 0x10000) % 0x400)
  else [c]

def writeString (style : Style) (s : String) : String :=
  String.ofList ('"' :: s.toList.flatMap (escapeChar style) ++ ['"'])

/-- The start of a line at a level, where lines are broken. -/
def Style.break (style : Style) (level : Nat) : String :=
  match style.indent with
  | some n => "\n" ++ String.ofList (List.replicate (n * level) ' ')
  | none => ""

/-- What stands between a key and its value. -/
def Style.colon (style : Style) : String := if style.indent.isSome then ": " else ":"

/-- Written parts between two brackets, each on a line of its own where lines are broken. -/
def Style.enclose (style : Style) (level : Nat) (left right : String) : List String → String
  | [] => left ++ right
  | parts =>
    left ++ style.break (level + 1) ++ ("," ++ style.break (level + 1)).intercalate parts
      ++ style.break level ++ right

mutual

def writeSetting (style : Style) (level : Nat) (v : Setting) : String :=
  style.enclose level "\x7b" "\x7d" [
    writeString style "kind" ++ style.colon ++ writeString style v.kind.label,
    writeString style "value" ++ style.colon ++ writePayload style (level + 1) v]

def writePayload (style : Style) (level : Nat) : Setting → String
  | .null => "null"
  | .bool b => if b then "true" else "false"
  | .int n => toString n
  | .float x => style.number x
  | .string s => writeString style s
  | .array items => style.enclose level "[" "]" (writeSettings style (level + 1) items)
  | .object entries => style.enclose level "\x7b" "\x7d" (writeFields style (level + 1) entries)

def writeSettings (style : Style) (level : Nat) : List Setting → List String
  | [] => []
  | v :: rest => writeSetting style level v :: writeSettings style level rest

def writeFields (style : Style) (level : Nat) : List (String × Setting) → List String
  | [] => []
  | (k, v) :: rest =>
    (writeString style k ++ style.colon ++ writeSetting style level v)
      :: writeFields style level rest

end

mutual

/-- The key under which an entry is written: the text of a plain value, and the keys of a tuple's items
with commas between them. -/
def keyText? : Data → Option String
  | .text s => some s
  | .int n => some (toString n)
  | .bool b => some (if b then "true" else "false")
  | .null => some "None"
  | .float x => some (if x.isFinite then Layout.display.write x else "None")
  | .tuple items => (keyTexts? items).map ",".intercalate
  | .member _ _ value => keyText? value
  | .setting v => Data.displaySetting v
  | .kind k => some k.label
  | _ => none

def keyTexts? : List Data → Option (List String)
  | [] => some []
  | d :: rest => do
    let first ← keyText? d
    let others ← keyTexts? rest
    return first :: others

end

mutual

/-- A value at a level, unless it holds something that no document can hold. -/
def write? (style : Style) (level : Nat) : Data → Option String
  | .null => some "null"
  | .bool b => some (if b then "true" else "false")
  | .int n => some (toString n)
  | .float x => some (style.number x)
  | .text s => some (writeString style s)
  | .list items => (writeItems? style (level + 1) items).map (style.enclose level "[" "]")
  | .tuple items => (writeItems? style (level + 1) items).map (style.enclose level "[" "]")
  | .object entries =>
    (writeEntries? style (level + 1) entries).map (style.enclose level "\x7b" "\x7d")
  | .mapping entries =>
    (writePairs? style (level + 1) entries).map (style.enclose level "\x7b" "\x7d")
  | .member _ _ value => write? style level value
  | .setting v => some (writeSetting style level v)
  | .kind k => some (writeString style k.label)
  | .named _ => none
  | .sealed => none

def writeItems? (style : Style) (level : Nat) : List Data → Option (List String)
  | [] => some []
  | d :: rest => do
    let first ← write? style level d
    let others ← writeItems? style level rest
    return first :: others

def writeEntries? (style : Style) (level : Nat) : List (String × Data) → Option (List String)
  | [] => some []
  | (k, d) :: rest => do
    let first ← write? style level d
    let others ← writeEntries? style level rest
    return (writeString style k ++ style.colon ++ first) :: others

def writePairs? (style : Style) (level : Nat) : List (Data × Data) → Option (List String)
  | [] => some []
  | (k, d) :: rest => do
    let key ← keyText? k
    let first ← write? style level d
    let others ← writePairs? style level rest
    return (writeString style key ++ style.colon ++ first) :: others

end

def document? (style : Style) (d : Data) : Option String := write? style 0 d

end Wirework.Json
