import Wirework.Setting
import Wirework.Number.Layout
import Wirework.Number.Reading
import Wirework.Text.Quoted

/-!
# Free-form data

What metadata may hold, what documents parse to, and what templates are rendered with. Objects keep
the order of their entries. `Data.display` and `Data.quoted` are the two texts of a value: the plain
one, and the one shown inside other values and in messages. A value has neither where an integer in
it has too many digits.
-/

namespace Wirework

/-- A free-form value. -/
inductive Data where
  | null
  | bool (b : Bool)
  | int (n : Int)
  | float (x : Double)
  | text (s : String)
  | list (items : List Data)
  | tuple (items : List Data)
  /-- Entries under texts. -/
  | object (entries : List (String × Data))
  /-- Entries under values of any kind. -/
  | mapping (entries : List (Data × Data))
  /-- A member of an enumeration: its name there, and its value. -/
  | member (enumeration label : String) (value : Data)
  | setting (v : Setting)
  | kind (k : Setting.Kind)
  /-- A value of which only the text is known. -/
  | named (s : String)
  /-- A value that no document can hold. -/
  | sealed

namespace Data

instance : Inhabited Data := ⟨.null⟩

def ofEntries (entries : List (String × Data)) : Data := .object entries

def ofOption (f : α → Data) : Option α → Data
  | some a => f a
  | none => .null

def ofStrings (xs : List String) : Data := .list (xs.map .text)

/-- The last entry under a key. -/
def lookup? (key : String) (entries : List (String × α)) : Option α :=
  entries.foldl (fun found e => if e.1 = key then some e.2 else found) none

/-- Entries with one value for each key: the last value, at the place of the first. -/
def mergeKeys (entries : List (String × α)) : List (String × α) :=
  entries.foldl
    (fun done e =>
      if done.any (·.1 = e.1) then done.map fun d => if d.1 = e.1 then (d.1, e.2) else d
      else done ++ [e])
    []

mutual

/-- Every object of a value with its keys merged. -/
def settle : Data → Data
  | .list items => .list (settleItems items)
  | .tuple items => .tuple (settleItems items)
  | .object entries => .object (mergeKeys (settleEntries entries))
  | d => d

def settleItems : List Data → List Data
  | [] => []
  | d :: rest => d.settle :: settleItems rest

def settleEntries : List (String × Data) → List (String × Data)
  | [] => []
  | (k, d) :: rest => (k, d.settle) :: settleEntries rest

end

/-! ## Texts -/

def boolText (b : Bool) : String := if b then "True" else "False"

def kindName (k : Setting.Kind) : String :=
  "ConfigValueKind." ++ String.ofList (k.label.toList.map Char.toUpper)

/-- A kind of settings as it is shown inside other values. -/
def quotedKind (k : Setting.Kind) : String := "<" ++ kindName k ++ ": '" ++ k.label ++ "'>"

/-- Texts between two brackets, with commas between them. -/
def enclosed (left right : String) (texts : List String) : String :=
  left ++ ", ".intercalate texts ++ right

mutual

def quotedSetting (v : Setting) : Option String := do
  return "ConfigValue(kind=" ++ quotedKind v.kind ++ ", value=" ++ (← quotedPayload v) ++ ")"

def quotedPayload : Setting → Option String
  | .null => some "None"
  | .bool b => some (boolText b)
  | .int n => Number.decimal? n
  | .float x => some (Layout.display.write x)
  | .string s => some (Text.quoted s)
  | .array items => (quotedSettings items).map (enclosed "[" "]")
  | .object entries => (quotedFields entries).map (enclosed "\x7b" "\x7d")

def quotedSettings : List Setting → Option (List String)
  | [] => some []
  | v :: rest => do return (← quotedSetting v) :: (← quotedSettings rest)

def quotedFields : List (String × Setting) → Option (List String)
  | [] => some []
  | (k, v) :: rest => do
    return (Text.quoted k ++ ": " ++ (← quotedSetting v)) :: (← quotedFields rest)

end

def displaySetting (v : Setting) : Option String := do
  return "kind=" ++ quotedKind v.kind ++ " value=" ++ (← quotedPayload v)

mutual

/-- The text of a value as it is shown inside other values. -/
def quoted : Data → Option String
  | .null => some "None"
  | .bool b => some (boolText b)
  | .int n => Number.decimal? n
  | .float x => some (Layout.display.write x)
  | .text s => some (Text.quoted s)
  | .list items => (quotedItems items).map (enclosed "[" "]")
  | .tuple [item] => item.quoted.map fun text => "(" ++ text ++ ",)"
  | .tuple items => (quotedItems items).map (enclosed "(" ")")
  | .object entries => (quotedEntries entries).map (enclosed "\x7b" "\x7d")
  | .mapping entries => (quotedPairs entries).map (enclosed "\x7b" "\x7d")
  | .member enumeration label value =>
    value.quoted.map fun text => "<" ++ enumeration ++ "." ++ label ++ ": " ++ text ++ ">"
  | .setting v => quotedSetting v
  | .kind k => some (quotedKind k)
  | .named s => some s
  | .sealed => some "<sealed>"

def quotedItems : List Data → Option (List String)
  | [] => some []
  | d :: rest => do return (← d.quoted) :: (← quotedItems rest)

def quotedEntries : List (String × Data) → Option (List String)
  | [] => some []
  | (k, d) :: rest => do
    return (Text.quoted k ++ ": " ++ (← d.quoted)) :: (← quotedEntries rest)

def quotedPairs : List (Data × Data) → Option (List String)
  | [] => some []
  | (k, d) :: rest => do
    return ((← k.quoted) ++ ": " ++ (← d.quoted)) :: (← quotedPairs rest)

end

/-- The plain text of a value. -/
def display : Data → Option String
  | .text s => some s
  | .setting v => displaySetting v
  | .kind k => some (kindName k)
  | .member enumeration label _ => some (enumeration ++ "." ++ label)
  | d => d.quoted

/-- The content of a setting, whose parts are settings themselves. -/
def ofContent : Setting → Data
  | .null => .null
  | .bool b => .bool b
  | .int n => .int n
  | .float x => .float x
  | .string s => .text s
  | .array items => .list (items.map .setting)
  | .object entries => .object (entries.map fun e => (e.1, .setting e.2))

def settingPairs (v : Setting) : List Data :=
  [.tuple [.text "kind", .kind v.kind], .tuple [.text "value", .ofContent v]]

end Data

end Wirework
