import Wirework.Data.Same
import Wirework.Rust.Basic
import Wirework.Template.Basic

/-!
# Rendering

A template is rendered with a context of named values. A name without a value may not be written,
tested, compared or looped over. Values of the wrong kind are refused, each misuse in its own way.
-/

namespace Wirework.Template

inductive Value where
  | plain (d : Data)
  | field (f : Field)
  | list (items : List Value)
  | record (entries : List (String × Value))

instance : Inhabited Value := ⟨.plain .null⟩

namespace Value

def ofText (s : String) : Value := .plain (.text s)

def ofBool (b : Bool) : Value := .plain (.bool b)

def ofInt (n : Int) : Value := .plain (.int n)

def ofTexts (xs : List String) : Value := .list (xs.map ofText)

mutual

/-- A value as data; of a field only its name is left. -/
def toData : Value → Data
  | .plain d => d
  | .field f => .text f.name
  | .list items => .list (itemsData items)
  | .record entries => .object (entriesData entries)

def itemsData : List Value → List Data
  | [] => []
  | v :: rest => v.toData :: itemsData rest

def entriesData : List (String × Value) → List (String × Data)
  | [] => []
  | (key, v) :: rest => (key, v.toData) :: entriesData rest

end

end Value

inductive Trouble where
  | undefined
  | wrongKind
  /-- A value lacks what is asked of it. -/
  | lacking
  /-- An item of a loop over pairs is no pair. -/
  | notPair
  | overflow
  | tooLong
  deriving DecidableEq

/-- A short name of the trouble, for tools. -/
def Trouble.code : Trouble → String
  | .undefined => "TemplateRender"
  | .wrongKind => "Type"
  | .lacking => "Attribute"
  | .notPair | .tooLong => "Value"
  | .overflow => "Overflow"

/-- Named values; the first of a name counts. -/
abbrev Scope := List (String × Value)

/-! ## Values -/

def Value.get? (name : String) : Value → Option Value
  | .plain (.object es) => (Data.lookup? name es).map .plain
  | .plain (.mapping es) => (es.find? fun e => e.1.same (.text name)).map fun e => .plain e.2
  | .plain (.member _ label value) =>
    match name with
    | "name" => some (.ofText label)
    | "value" => some (.plain value)
    | _ => none
  | .record es => es.lookup name
  | .field f =>
    match name with
    | "name" => some (.ofText f.name)
    | "description" => some (.plain (Data.ofOption .text f.description))
    | "is_secret" => some (.ofBool f.isSecret)
    | _ => none
  | _ => none

/-- Whether a value counts as true: neither nothing nor zero nor empty. -/
def Value.holds : Value → Bool
  | .plain .null => false
  | .plain (.bool b) => b
  | .plain (.int n) => n ≠ 0
  | .plain (.float x) => x.toInt? ≠ some 0
  | .plain (.text s) => !s.isEmpty
  | .plain (.list items) => !items.isEmpty
  | .plain (.tuple items) => !items.isEmpty
  | .plain (.object es) => !es.isEmpty
  | .plain (.mapping es) => !es.isEmpty
  | .list items => !items.isEmpty
  | .record es => !es.isEmpty
  | _ => true

def Value.display : Value → Except Trouble String
  | .plain d =>
    match d.display with
    | some text => .ok text
    | none => .error .tooLong
  | .field f => .ok f.name
  | .list _ => .ok "[]"
  | .record _ => .ok "\x7b\x7d"

def Value.items? : Value → Option (List Value)
  | .plain (.list items) => some (items.map .plain)
  | .plain (.tuple items) => some (items.map .plain)
  | .plain (.object es) => some (es.map fun e => .ofText e.1)
  | .plain (.mapping es) => some (es.map fun e => .plain e.1)
  | .plain (.text s) => some (s.toList.map fun c => .ofText (String.singleton c))
  | .plain (.kind k) => some (k.label.toList.map fun c => .ofText (String.singleton c))
  | .plain (.setting v) => some ((Data.settingPairs v).map .plain)
  | .list items => some items
  | .record es => some (es.map fun e => .ofText e.1)
  | _ => none

/-- How many items a value has; a setting has no size. -/
def Value.size? : Value → Option Nat
  | .plain (.setting _) => none
  | v => v.items?.map List.length

def Value.same : Value → Value → Bool
  | .plain a, .plain b => a.same b
  | _, _ => false

def Value.isMap : Value → Bool
  | .plain (.object _) | .plain (.mapping _) | .record _ => true
  | _ => false

def Value.isKey : Value → Bool
  | .plain d => d.isKey
  | _ => false

/-- Whether a value is among those of a container, or in a text. A map is searched by its keys. -/
def Value.isIn (item container : Value) : Except Trouble Bool :=
  match item, container with
  | .plain (.text part), .plain (.text s) => .ok (Text.occursIn part.toList s.toList)
  | _, .plain (.text _) => .error .wrongKind
  | item, container =>
    match container.items? with
    | some items =>
      if container.isMap && !item.isKey then .error .wrongKind else .ok (items.any item.same)
    | none => .error .wrongKind

/-! ## Filters -/

/-- The texts that a name is put together from. Something else than a text among them is refused. -/
def Value.pieces (v : Value) : Except Trouble (List String) :=
  match v.items? with
  | none => .error .wrongKind
  | some items => items.mapM fun
    | .plain (.text s) => .ok s
    | .plain (.kind k) => .ok k.label
    | _ => .error .lacking

def Filter.apply (f : Filter) (v : Value) : Except Trouble Value :=
  match f, v with
  | .stringLiteral, v => v.display.map fun text => .ofText (Rust.stringLiteral text)
  | .lower, v => v.display.map fun text => .ofText (Text.lower text)
  | .pascal, .plain (.text s) => .ok (.ofText (Naming.pascal s))
  | .pascal, .plain (.kind k) => .ok (.ofText (Naming.pascal k.label))
  | .pascal, _ => .error .wrongKind
  | .snakeIdent, .plain (.text s) => .ok (.ofText (Rust.ident s))
  | .snakeIdent, v => do
    return .ofText (Rust.escapeKeyword (Naming.snakePieces (← v.pieces)))
  | .size, v =>
    match v.size? with
    | some n => .ok (.ofInt n)
    | none => .error .wrongKind
  | .fieldType, .field f => .ok (.ofText (Rust.Ty.ofField f).text)
  | .fieldDefault, .field f =>
    match Rust.Initializer.ofField f with
    | .ok e => .ok (.ofText e.text)
    | .error .integerTooLong => .error .tooLong
    | .error _ => .error .overflow
  | .fieldType, _ | .fieldDefault, _ => .error .lacking

def Filter.onUndefined : Filter → Trouble
  | .pascal => .wrongKind
  | _ => .undefined

/-! ## Expressions -/

/-- The value of an expression; nothing for a name without one. -/
def Expr.eval (scope : Scope) : Expr → Except Trouble (Option Value)
  | .var name => .ok (scope.lookup name)
  | .get e name => do
    match ← e.eval scope with
    | some v => .ok (v.get? name)
    | none => .error .undefined
  | .text s => .ok (some (.ofText s))
  | .int n => .ok (some (.ofInt n))
  | .filtered f e => do
    match ← e.eval scope with
    | some v => some <$> f.apply v
    | none => .error f.onUndefined
  | .equals a b => do
    match ← a.eval scope, ← b.eval scope with
    | some a, some b => .ok (some (.ofBool (a.same b)))
    | _, _ => .error .undefined
  | .within item container => do
    match ← item.eval scope, ← container.eval scope with
    | some item, some container => (fun b => some (.ofBool b)) <$> item.isIn container
    | _, none => .error .undefined
    | none, some (.plain (.text _)) => .error .wrongKind
    | none, some (.plain (.object _)) | none, some (.plain (.mapping _)) => .error .undefined
    | none, some container =>
      match container.items? with
      | some [] => .ok (some (.ofBool false))
      | some _ => .error .undefined
      | none => .error .wrongKind
  | .not e => do
    match ← e.eval scope with
    | some v => .ok (some (.ofBool !v.holds))
    | none => .error .undefined
  | .both a b => do
    match ← a.eval scope with
    | some v => if v.holds then b.eval scope else .ok (some v)
    | none => .error .undefined
  | .choose test yes no => do
    match ← test.eval scope with
    | some v => if v.holds then yes.eval scope else no.eval scope
    | none => .error .undefined

def Expr.test (scope : Scope) (e : Expr) : Except Trouble Bool := do
  match ← e.eval scope with
  | some v => .ok v.holds
  | none => .error .undefined

def Expr.items (scope : Scope) (e : Expr) : Except Trouble (List Value) := do
  match ← e.eval scope with
  | none => .error .undefined
  | some v =>
    match v.items? with
    | some items => .ok items
    | none => .error .wrongKind

def Value.pair (v : Value) : Except Trouble (Value × Value) :=
  match v.items? with
  | some [a, b] => .ok (a, b)
  | some _ => .error .notPair
  | none => .error .wrongKind

/-! ## Blocks -/

def Piece.render (scope : Scope) : Piece → Except Trouble String
  | .text s => .ok s
  | .put e => do
    match ← e.eval scope with
    | some v => v.display
    | none => .error .undefined

def renderLine (scope : Scope) (pieces : List Piece) : Except Trouble String := do
  return String.join (← pieces.mapM (Piece.render scope)) ++ "\n"

mutual

def Block.render (scope : Scope) : Block → Except Trouble String
  | .text lines => .ok (String.join (lines.map (· ++ "\n")))
  | .line pieces => renderLine scope pieces
  | .choose test yes no => do
    if ← test.test scope then renderAll scope yes else renderAll scope no
  | .each name items body => do
    let texts ← (← items.items scope).mapM fun v => renderAll ((name, v) :: scope) body
    return String.join texts
  | .eachPair first second items body => do
    let texts ← (← items.items scope).mapM fun v => do
      let (a, b) ← v.pair
      renderAll ((second, b) :: (first, a) :: scope) body
    return String.join texts

def renderAll (scope : Scope) : List Block → Except Trouble String
  | [] => .ok ""
  | b :: rest => do
    let first ← b.render scope
    let others ← renderAll scope rest
    return first ++ others

end

end Wirework.Template

namespace Wirework

def Template.render (t : Template) (scope : Template.Scope) : Except Template.Trouble String :=
  Template.renderAll scope t

end Wirework
