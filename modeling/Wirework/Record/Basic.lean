import Wirework.Data.Basic
import Wirework.Dict
import Wirework.Fault
import Wirework.Labelled
import Wirework.Mint
import Wirework.Number.Reading
import Wirework.Ordinal

/-!
# Records

A type with a `Record` instance can be read from free-form data and written back. Reading goes on
after a fault, so that all faults of a document are reported, in the order of the declared entries.
It draws ids and takes the time for entries that are missing. Only a `Halt` stops it at once.
-/

namespace Wirework

/-- What reading carries along. -/
structure ReadState where
  mint : Mint
  /-- Whether the data comes from the text of a document. -/
  inDocument : Bool := false
  /-- How many records that may hold records of their own kind are being read. -/
  depth : Nat := 0
  complaints : List Complaint := []

abbrev Reading := StateT ReadState (Except Halt)

namespace Reading

/-- Notes a fault and goes on with a stand-in. The path has its innermost part first. -/
def complain [Inhabited α] (path : List String) (fault : Fault) : Reading α := fun s =>
  .ok (default, { s with complaints := s.complaints ++ [⟨path.reverse, fault⟩] })

/-- A value, or a fault that is noted. -/
def orComplain [Inhabited α] (path : List String) : Except Fault α → Reading α
  | .ok a => pure a
  | .error fault => complain path fault

def fresh (kind : IdKind) : Reading String := fun s =>
  let (id, mint) := s.mint.draw kind
  .ok (id, { s with mint })

def now : Reading Moment := fun s => .ok (s.mint.now, s)

def stop (why : Halt) : Reading α := fun _ => .error why

/-- The deepest nesting of records that may hold records of their own kind. -/
def depthLimit : Nat := 255

def below (r : Reading α) : Reading α := fun s =>
  (r { s with depth := s.depth + 1 }).map fun (a, s') => (a, { s' with depth := s.depth })

/-- Reads one level deeper, within the limit. The text of a document is nested within bounds of its
own. -/
def deeper [Inhabited α] (path : List String) (r : Reading α) : Reading α := fun s =>
  if s.inDocument then r s
  else if depthLimit ≤ s.depth then complain path .tooDeep s
  else below r s

/-- What is read, unless there are faults, which are dropped. -/
def attempt (r : Reading α) : Reading (Option α) := fun s =>
  (r { s with complaints := [] }).map fun (a, s') =>
    (if s'.complaints.isEmpty then some a else none, { s' with complaints := s.complaints })

/-- A further step, taken only if the first one noted no fault. -/
def checked [Inhabited β] (r : Reading α) (next : α → Reading β) : Reading β := fun s =>
  match r s with
  | .error why => .error why
  | .ok (a, s') =>
    if s'.complaints.length = s.complaints.length then next a s' else .ok (default, s')

/-- The outcome of reading, with the ids drawn. -/
def run (r : Reading α) (mint : Mint) (inDocument : Bool := false) : Except Refusal (α × Mint) :=
  match StateT.run r { mint, inDocument } with
  | .error why => .error (.halted why)
  | .ok (a, s) =>
    if s.complaints.isEmpty then .ok (a, s.mint) else .error (.complaints s.complaints)

end Reading

/-- A type with a form in documents. -/
class Record (α : Type) where
  /-- Reads data at a path, whose innermost part comes first. -/
  read : List String → Data → Reading α
  toData : α → Data

namespace Record

/-! ## Plain values -/

/-- The text that a value is taken for: a text, or the value of a member in words. -/
def textOf? : Data → Option String
  | .text s => some s
  | .member _ _ value => value.display
  | _ => none

/-- What becomes of a value that is taken for no text: that of a member is too long for one. -/
def refuseText [Inhabited α] (path : List String) : Data → Reading α
  | .member .. => .stop .tooLong
  | _ => .complain path .notText

instance : Record String where
  read path d :=
    match textOf? d with
    | some s => pure s
    | none => refuseText path d
  toData := .text

def falseWords : List String := ["0", "off", "f", "false", "n", "no"]

def trueWords : List String := ["1", "on", "t", "true", "y", "yes"]

/-- The truth value of a word, case aside. -/
def boolOfWord? (s : String) : Option Bool :=
  let word := String.ofList (s.toList.map Char.toLower)
  if falseWords.contains word then some false
  else if trueWords.contains word then some true else none

/-- The integer that a number stands for, or what is wrong with it. -/
def intOfDouble (x : Double) : Except Fault Int :=
  if !x.isFinite then .error .notFinite
  else
    match x.toInt? with
    | none => .error .fraction
    | some n => if n.natAbs < Number.pow2 63 then .ok n else .error .integerTooLarge

/-- The truth value of an integer: zero or one. -/
def boolOfInt (n : Int) : Except Fault Bool :=
  if n = 0 then .ok false else if n = 1 then .ok true else .error .unreadableBool

instance : Record Bool where
  read path
    | .bool b => pure b
    | .int n =>
      if -(Number.pow2 63 : Int) ≤ n ∧ n < Number.pow2 63 then .orComplain path (boolOfInt n)
      else .complain path .notBool
    | .float x =>
      match intOfDouble x with
      | .ok n => .orComplain path (boolOfInt n)
      | .error _ => .complain path .notBool
    | .text s =>
      match boolOfWord? s with
      | some b => pure b
      | none => .complain path .unreadableBool
    | _ => .complain path .notBool
  toData := .bool

def readInt (path : List String) : Data → Reading Int
  | .int n => pure n
  | .bool b => pure b.toNat
  | .float x => .orComplain path (intOfDouble x)
  | .text s =>
    match Number.settingInt s with
    | .ok n => pure n
    | .error .unreadable => .complain path .unreadableInteger
    | .error .tooLong => .complain path .integerTooLarge
  | .member _ _ (.int n) => pure n
  | .member _ _ (.bool b) => pure b.toNat
  | _ => .complain path .notInteger

instance : Record Int where
  read := readInt
  toData := .int

instance : Record Ordinal where
  read path
    | .member _ _ value => pure (.ofData value)
    | d => .int <$> readInt path d
  toData := Ordinal.toData

/-- An integer as a number. In the text of a document one beyond the format is an infinity. -/
def doubleOfInt (path : List String) (n : Int) : Reading Double := do
  match Double.ofInt? n with
  | some x => return x
  | none =>
    if (← get).inDocument then return .infinity (n < 0) else .complain path .notNumber

instance : Record Double where
  read path
    | .float x => pure x
    | .int n => doubleOfInt path n
    | .bool b => pure (.ofRatio false b.toNat 1)
    | .text s =>
      match Number.settingFloat? s with
      | some x => pure x
      | none => .complain path .unreadableNumber
    | _ => .complain path .notNumber
  toData := .float

def momentOf? : Data → Option Moment
  | .text s => Moment.ofText? s
  | .int n => Moment.ofTimestamp? n
  | .float x => Moment.ofFloat? x
  | _ => none

instance : Record Moment where
  read path d :=
    match momentOf? d with
    | some t => pure t
    | none => .complain path .notMoment
  toData t := .text t.toIso

instance (priority := low) [Labelled α] [Inhabited α] : Record α where
  read path d :=
    match (textOf? d).bind Labelled.ofLabel? with
    | some a => pure a
    | none => .complain path .notMember
  toData a := .text (Labelled.label a)

/-- Free-form data stands for itself. -/
instance : Record Data where
  read _ d := pure d.settle
  toData := id

/-! ## Containers -/

instance [Record α] : Record (Option α) where
  read path
    | .null => pure none
    | d => some <$> Record.read path d
  toData := Data.ofOption Record.toData

/-- The items of a list, each at its index. -/
def readItems [Record α] (path : List String) (index : Nat) : List Data → Reading (List α)
  | [] => pure []
  | d :: rest => do
    let first ← Record.read (toString index :: path) d
    let others ← readItems path (index + 1) rest
    return first :: others

/-- A setting given for a list counts as the list of its entries. -/
instance [Record α] : Record (List α) where
  read path
    | .list items => readItems path 0 items
    | .tuple items => readItems path 0 items
    | .setting v => readItems path 0 (Data.settingPairs v)
    | _ => .complain path .notList
  toData xs := .list (xs.map Record.toData)

/-- The entries of a map, each at its key. Every value of a key that occurs twice is read, and the
last one counts. -/
def readEntries [Record α] (path : List String) (done : Dict α) :
    List (String × Data) → Reading (Dict α)
  | [] => pure done
  | (key, d) :: rest => do
    let value ← Record.read (key :: path) d
    readEntries path (done.insert key value) rest

/-- What stands in a path for a key that has no text of its own. -/
def unprintable (type : String) : String := "<unprintable " ++ type ++ " object>"

/-- A key in a path: a text stands for itself, and a truth value counts as a number. -/
def keyPart : Data → String
  | .text s => s
  | .bool b => toString b.toNat
  | .int n => (Number.decimal? n).getD (unprintable "int")
  | .member enumeration label value =>
    (Data.member enumeration label value).quoted.getD (unprintable enumeration)
  | .setting v => (Data.quotedSetting v).getD (unprintable "ConfigValue")
  | key => key.quoted.getD (unprintable "tuple")

/-- The entries of a map whose keys may be other than texts, which is a fault. -/
def readPairs [Record α] (path : List String) (done : Dict α) :
    List (Data × Data) → Reading (Dict α)
  | [] => pure done
  | (key, d) :: rest => do
    let path' := keyPart key :: path
    match textOf? key with
    | some name =>
      let value ← Record.read path' d
      readPairs path (done.insert name value) rest
    | none =>
      let _ ← (refuseText ("[key]" :: path') key : Reading String)
      let _ ← (Record.read path' d : Reading α)
      readPairs path done rest

instance [Record α] : Record (Dict α) where
  read path
    | .object entries => readEntries path .empty entries
    | .mapping entries => readPairs path .empty entries
    | _ => .complain path .notMap
  toData d := .object (d.entries.map fun e => (e.1, Record.toData e.2))

/-! ## Entries of a record -/

/-- The entries of a record that is being read, and where it stands. -/
structure Source where
  path : List String
  entries : List (String × Data)
  /-- All keys in order, each with whether it is a text. -/
  keys : List (String × Bool)

def textEntries (pairs : List (Data × Data)) : List (String × Data) :=
  pairs.filterMap fun
    | (.text key, d) => some (key, d)
    | _ => none

namespace Source

def ofEntries (path : List String) (entries : List (String × Data)) : Source :=
  ⟨path, entries, entries.map fun e => (e.1, true)⟩

def ofPairs (path : List String) (pairs : List (Data × Data)) : Source :=
  ⟨path, textEntries pairs, pairs.map fun
    | (.text key, _) => (key, true)
    | (key, _) => (keyPart key, false)⟩

/-- An entry that has to be there. -/
def field [Record α] [Inhabited α] (s : Source) (key : String) : Reading α :=
  match Data.lookup? key s.entries with
  | some d => Record.read (key :: s.path) d
  | none => .complain (key :: s.path) .missing

/-- An entry that is made up where it is missing. -/
def fieldElse [Record α] (s : Source) (key : String) (make : Reading α) : Reading α :=
  match Data.lookup? key s.entries with
  | some d => Record.read (key :: s.path) d
  | none => make

/-- An entry with a value that stands for a missing one. -/
def fieldOr [Record α] (s : Source) (key : String) (fallback : α) : Reading α :=
  s.fieldElse key (pure fallback)

end Source

def readRecord [Inhabited α] (body : Source → Reading α) (path : List String) : Data → Reading α
  | .object entries => body (.ofEntries path entries)
  | .mapping pairs => body (.ofPairs path pairs)
  | _ => .complain path .notRecord

/-- Notes every key of a record that is not among those it may have. -/
def refuseOthers (allowed : List String) (path : List String) :
    List (String × Bool) → Reading Unit
  | [] => pure ()
  | (key, isText) :: rest => do
    if !isText then (.complain (key :: path) .notKey : Reading Unit)
    else if !allowed.contains key then (.complain (key :: path) .unknownKey : Reading Unit)
    refuseOthers allowed path rest

/-- Reads a record that may have only the given keys. -/
def readClosed [Inhabited α] (allowed : List String) (body : Source → Reading α) :
    List String → Data → Reading α :=
  readRecord fun s => do
    let a ← body s
    refuseOthers allowed s.path s.keys
    return a

end Record

end Wirework
