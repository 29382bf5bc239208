import Wirework.Record.Basic

/-!
# Settings in documents

A setting is written as its kind and its content. The content may have any form that some kind of
setting has; whether it fits the kind is tested afterwards. Settings are also made from free-form
data and turned back into it.
-/

namespace Wirework.Setting

instance : Labelled Setting.Kind where
  all := Kind.all
  label := Kind.label

/-! ## Settings and free-form data -/

mutual

/-- The setting that stands for a free-form value. Keys of other kinds are taken by their text, which
may be too long to be written, and so is a value of which nothing else is known. -/
def ofData : Data → Option Setting
  | .null => some .null
  | .bool b => some (.bool b)
  | .int n => some (.int n)
  | .float x => some (.float x)
  | .text s => some (.string s)
  | .list items => (ofItems items).map .array
  | .tuple items => (ofItems items).map .array
  | .object entries => (ofEntries entries).map fun es => .object (Data.mergeKeys es)
  | .mapping entries => (ofPairs entries).map fun es => .object (Data.mergeKeys es)
  | .member _ _ value => ofData value
  | .setting v => some v
  | .kind k => some (.string k.label)
  | .named s => some (.string s)
  | .sealed => some (.string "<sealed>")

def ofItems : List Data → Option (List Setting)
  | [] => some []
  | d :: rest => do return (← ofData d) :: (← ofItems rest)

def ofEntries : List (String × Data) → Option (List (String × Setting))
  | [] => some []
  | (key, d) :: rest => do return (key, ← ofData d) :: (← ofEntries rest)

def ofPairs : List (Data × Data) → Option (List (String × Setting))
  | [] => some []
  | (key, d) :: rest => do return (← key.display, ← ofData d) :: (← ofPairs rest)

end

mutual

/-- The free-form value that a setting stands for. -/
def plain : Setting → Data
  | .null => .null
  | .bool b => .bool b
  | .int n => .int n
  | .float x => .float x
  | .string s => .text s
  | .array items => .list (plainItems items)
  | .object entries => .object (plainEntries entries)

def plainItems : List Setting → List Data
  | [] => []
  | v :: rest => v.plain :: plainItems rest

def plainEntries : List (String × Setting) → List (String × Data)
  | [] => []
  | (key, v) :: rest => (key, v.plain) :: plainEntries rest

end

/-! ## Writing -/

mutual

def toData (v : Setting) : Data :=
  .object [("kind", .text v.kind.label), ("value", contentData v)]

def contentData : Setting → Data
  | .null => .null
  | .bool b => .bool b
  | .int n => .int n
  | .float x => .float x
  | .string s => .text s
  | .array items => .list (itemsData items)
  | .object entries => .object (entriesData entries)

def itemsData : List Setting → List Data
  | [] => []
  | v :: rest => v.toData :: itemsData rest

def entriesData : List (String × Setting) → List (String × Data)
  | [] => []
  | (key, v) :: rest => (key, v.toData) :: entriesData rest

end

/-! ## Reading -/

/-- What stands under `value`: a setting's content, or another value. -/
inductive Content where
  | fits (v : Setting)
  | other (d : Data)

namespace Content

instance : Inhabited Content := ⟨.fits .null⟩

def quoted : Content → Option String
  | .fits v => Data.quotedPayload v
  | .other d => d.quoted

def settings? (items : List Data) : Option (List Setting) :=
  items.mapM fun
    | .setting v => some v
    | _ => none

/-- The value of a member, which is taken as it stands. -/
def ofMember : Data → Content
  | .null => .fits .null
  | .bool b => .fits (.bool b)
  | .int n => .fits (.int n)
  | .float x => .fits (.float x)
  | .text s => .fits (.string s)
  | .list items =>
    match settings? items with
    | some vs => .fits (.array vs)
    | none => .other (.list items)
  | .object entries =>
    match settings? (entries.map (·.2)) with
    | some vs => .fits (.object ((entries.map (·.1)).zip vs))
    | none => .other (.object entries)
  | d => .other d

end Content

/-- The content as a setting of a given kind. An integer serves for a float. -/
def fit (path : List String) (kind : Kind) (content : Content) : Reading Setting :=
  let mismatch : Reading Setting := .complain path (.inconsistent
    (match content.quoted with
      | some text => "value " ++ text ++ " does not match kind '" ++ kind.label ++ "'"
      | none => "Exceeds the limit (4300 digits) for integer string conversion; use "
        ++ "sys.set_int_max_str_digits() to increase the limit"))
  match kind, content with
  | .float, .fits (.int n) =>
    match Double.ofInt? n with
    | some x => pure (.float x)
    | none => .stop .overflow
  | _, .fits v => if v.kind = kind then pure v else mismatch
  | .array, .other (.list _) | .object, .other (.object _) | .object, .other (.mapping _) =>
    .stop .notSetting
  | _, .other _ => mismatch

/-- A setting from its kind and the way to read its content, which stands under `value`. -/
def assemble (source : Record.Source) (content : Option (Reading (Option Content))) :
    Reading Setting :=
  let parts : Reading (Kind × Content) := do
    let kind ← source.fieldOr "kind" Kind.null
    match content with
    | none => return (kind, .fits .null)
    | some read =>
      match ← read with
      | some v => return (kind, v)
      | none => return (kind, ← .complain ("value" :: source.path) .noAlternative)
  parts.checked fun (kind, content) => fit source.path kind content

mutual

/-- Reads a setting, which is nested in the settings around it. -/
def read (path : List String) : Data → Reading Setting
  | .setting v => pure v
  | .object entries => .deeper path (assemble (.ofEntries path entries) (readContent entries))
  | .mapping pairs => .deeper path (assemble (.ofPairs path pairs) (readPairContent pairs))
  | _ => .complain path .notRecord

/-- The way to read the last entry under `value`. -/
def readContent : List (String × Data) → Option (Reading (Option Content))
  | [] => none
  | (key, d) :: rest =>
    (readContent rest).or (if key = "value" then some (readAny d) else none)

def readPairContent : List (Data × Data) → Option (Reading (Option Content))
  | [] => none
  | (key, d) :: rest =>
    (readPairContent rest).or
      (match key with
        | .text name => if name = "value" then some (readAny d) else none
        | _ => none)

/-- Reads content of any form; nothing if there is no such form. -/
def readAny : Data → Reading (Option Content)
  | .null => pure (some (.fits .null))
  | .bool b => pure (some (.fits (.bool b)))
  | .int n => pure (some (.fits (.int n)))
  | .float x => pure (some (.fits (.float x)))
  | .text s => pure (some (.fits (.string s)))
  | .list items => do return (← (readItems items).attempt).map fun vs => .fits (.array vs)
  | .tuple items => do return (← (readItems items).attempt).map fun vs => .fits (.array vs)
  | .object entries => do
    return (← (readEntries entries).attempt).map fun es => .fits (.object (Data.mergeKeys es))
  | .mapping pairs => do
    return (← (readPairs pairs).attempt).map fun es => .fits (.object (Data.mergeKeys es))
  | .member _ _ value => pure (some (.ofMember value))
  | _ => pure none

def readItems : List Data → Reading (List Setting)
  | [] => pure []
  | d :: rest => do return (← read [] d) :: (← readItems rest)

def readEntries : List (String × Data) → Reading (List (String × Setting))
  | [] => pure []
  | (key, d) :: rest => do return (key, ← read [] d) :: (← readEntries rest)

def readPairs : List (Data × Data) → Reading (List (String × Setting))
  | [] => pure []
  | (key, d) :: rest => do return (← Record.read [] key, ← read [] d) :: (← readPairs rest)

end

/-- As an entry of another record, a setting stands one level deeper. -/
instance : Record Setting where
  read path d := .deeper path (read path d)
  toData := toData

end Wirework.Setting
