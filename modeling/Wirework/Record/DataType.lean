import Wirework.Project.DataType
import Wirework.Record.Basic

/-!
# Data types in documents

A data type is written as its kind and five parts, of which each kind uses its own. Parts that the
kind does not use are kept.
-/

namespace Wirework.DataType

instance : Labelled DataType.Kind where
  all := Kind.all
  label := Kind.label

structure Parts where
  inner : Option DataType := none
  key : Option DataType := none
  value : Option DataType := none
  name : Option String := none
  domain : Option String := none

namespace Parts

def surplus (p : Parts) : Surplus :=
  let type := fun (slot : TypeSlot) (part : Option DataType) (rest : Surplus) =>
    match part with
    | some t => .type slot t rest
    | none => rest
  let text := fun (slot : TypeSlot) (part : Option String) (rest : Surplus) =>
    match part with
    | some s => .text slot s rest
    | none => rest
  type .inner p.inner (type .key p.key (type .value p.value
    (text .name p.name (text .domain p.domain .none))))

def ofSurplus : Surplus → Parts
  | .none => {}
  | .type .inner t rest => { ofSurplus rest with inner := some t }
  | .type .key t rest => { ofSurplus rest with key := some t }
  | .type .value t rest => { ofSurplus rest with value := some t }
  | .text .name s rest => { ofSurplus rest with name := some s }
  | .text .domain s rest => { ofSurplus rest with domain := some s }
  | .type _ _ rest => ofSurplus rest
  | .text _ _ rest => ofSurplus rest

end Parts

def ofParts (kind : Kind) (p : Parts) : Except String DataType :=
  match kind with
  | .scalar k => .ok (.scalar k p.surplus)
  | .wrap k =>
    match p.inner with
    | some t => .ok (.wrap k t { p with inner := none }.surplus)
    | none => .error (kind.label ++ " type requires an inner type")
  | .map =>
    match p.key, p.value with
    | some k, some v => .ok (.map k v { p with key := none, value := none }.surplus)
    | _, _ => .error "map type requires key and value types"
  | .named k =>
    match nonEmpty? p.name with
    | some name => .ok (.named k name { p with name := none }.surplus)
    | none => .error (kind.label ++ " type requires an entity name")
  | .custom =>
    match nonEmpty? p.name, nonEmpty? p.domain with
    | some name, some domain =>
      .ok (.custom domain name { p with name := none, domain := none }.surplus)
    | _, _ => .error "custom type requires a domain and a name"

def parts : DataType → Parts
  | .scalar _ extra => .ofSurplus extra
  | .wrap _ t extra => { Parts.ofSurplus extra with inner := some t }
  | .map k v extra => { Parts.ofSurplus extra with key := some k, value := some v }
  | .named _ name extra => { Parts.ofSurplus extra with name := some name }
  | .custom domain name extra =>
    { Parts.ofSurplus extra with name := some name, domain := some domain }

/-! ## Writing -/

/-- The data of the parts, once the types among them are written. -/
structure Written where
  inner : Data := .null
  key : Data := .null
  value : Data := .null
  name : Data := .null
  domain : Data := .null

def Written.record (kind : Kind) (w : Written) : Data :=
  .object [("kind", .text kind.label), ("inner", w.inner), ("key", w.key), ("value", w.value),
    ("name", w.name), ("domain", w.domain)]

mutual

def toData : DataType → Data
  | .scalar k extra => Written.record (.scalar k) (writeSurplus extra)
  | .wrap k t extra => Written.record (.wrap k) { writeSurplus extra with inner := toData t }
  | .map k v extra =>
    Written.record .map { writeSurplus extra with key := toData k, value := toData v }
  | .named k name extra => Written.record (.named k) { writeSurplus extra with name := .text name }
  | .custom domain name extra =>
    Written.record .custom { writeSurplus extra with name := .text name, domain := .text domain }

def writeSurplus : Surplus → Written
  | .none => {}
  | .type .inner t rest => { writeSurplus rest with inner := toData t }
  | .type .key t rest => { writeSurplus rest with key := toData t }
  | .type .value t rest => { writeSurplus rest with value := toData t }
  | .text .name s rest => { writeSurplus rest with name := .text s }
  | .text .domain s rest => { writeSurplus rest with domain := .text s }
  | .type _ _ rest => writeSurplus rest
  | .text _ _ rest => writeSurplus rest

end

/-! ## Reading -/

/-- The ways to read the types among the parts, at the path of their record. -/
structure Readers where
  inner : Option (List String → Reading (Option DataType)) := none
  key : Option (List String → Reading (Option DataType)) := none
  value : Option (List String → Reading (Option DataType)) := none

/-- A type from its kind and the ways to read the types among its parts. -/
def assemble (source : Record.Source) (readers : Readers) : Reading DataType :=
  let part := fun (key : String) (read : Option (List String → Reading (Option DataType))) =>
    match read with
    | some read => read (key :: source.path)
    | none => pure none
  let all : Reading (Kind × Parts) := do
    let kind ← source.field "kind"
    return (kind, {
      inner := ← part "inner" readers.inner
      key := ← part "key" readers.key
      value := ← part "value" readers.value
      name := ← source.fieldOr "name" none
      domain := ← source.fieldOr "domain" none })
  all.checked fun (kind, parts) =>
    match ofParts kind parts with
    | .ok t => pure t
    | .error message => .complain source.path (.inconsistent message)

/-- One more way to read a type, where a later entry under the key comes first. -/
def Readers.add (key : String) (here : List String → Reading (Option DataType)) (later : Readers) :
    Readers :=
  if key = "inner" then { later with inner := later.inner.or (some here) }
  else if key = "key" then { later with key := later.key.or (some here) }
  else if key = "value" then { later with value := later.value.or (some here) }
  else later

mutual

/-- Reads a type, which is nested in the types around it. -/
def read (path : List String) : Data → Reading DataType
  | .object entries => .deeper path (assemble (.ofEntries path entries) (readParts entries))
  | .mapping pairs => .deeper path (assemble (.ofPairs path pairs) (readPairs pairs))
  | _ => .complain path .notRecord

/-- The ways to read the last entries under the keys of types. -/
def readParts : List (String × Data) → Readers
  | [] => {}
  | (key, d) :: rest => .add key (fun path => readNullable path d) (readParts rest)

def readPairs : List (Data × Data) → Readers
  | [] => {}
  | (.text key, d) :: rest => .add key (fun path => readNullable path d) (readPairs rest)
  | _ :: rest => readPairs rest

def readNullable (path : List String) : Data → Reading (Option DataType)
  | .null => pure none
  | .object entries =>
    some <$> .deeper path (assemble (.ofEntries path entries) (readParts entries))
  | .mapping pairs => some <$> .deeper path (assemble (.ofPairs path pairs) (readPairs pairs))
  | _ => some <$> .complain path .notRecord

end

/-- As an entry of another record, a type stands one level deeper. -/
instance : Record DataType where
  read path d := .deeper path (read path d)
  toData := toData

end Wirework.DataType
