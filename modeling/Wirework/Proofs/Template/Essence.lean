import Wirework.Proofs.Except
import Wirework.Template.Render

/-!
# What templates see of a field

The id and the free-form data of a field are for editors only. Main statement: a template is
rendered the same with and without them (`renderAll_essence`).
-/

namespace Wirework

/-- The field without what is for editors only. -/
def Field.essence (f : Field) : Field := { f with id := "", metadata := .empty }

namespace Template

/-! ## Values -/

namespace Value

mutual

def essence : Value → Value
  | .plain d => .plain d
  | .field f => .field f.essence
  | .list items => .list (essenceItems items)
  | .record entries => .record (essenceEntries entries)

def essenceItems : List Value → List Value
  | [] => []
  | v :: rest => v.essence :: essenceItems rest

def essenceEntries : List (String × Value) → List (String × Value)
  | [] => []
  | (key, v) :: rest => (key, v.essence) :: essenceEntries rest

end

theorem essenceItems_eq (items : List Value) : essenceItems items = items.map essence := by
  induction items with
  | nil => rfl
  | cons v items ih => rw [essenceItems, List.map_cons, ih]

theorem essenceEntries_eq (entries : List (String × Value)) :
    essenceEntries entries = entries.map fun e => (e.1, e.2.essence) := by
  induction entries with
  | nil => rfl
  | cons e entries ih => rw [essenceEntries, List.map_cons, ih]

@[simp] theorem essence_plain (d : Data) : (plain d).essence = .plain d := by rw [essence]

@[simp] theorem essence_field (f : Field) : (field f).essence = .field f.essence := by rw [essence]

@[simp] theorem essence_list (items : List Value) :
    (list items).essence = .list (items.map essence) := by rw [essence, essenceItems_eq]

@[simp] theorem essence_record (entries : List (String × Value)) :
    (record entries).essence = .record (entries.map fun e => (e.1, e.2.essence)) := by
  rw [essence, essenceEntries_eq]

@[simp] theorem essence_ofText (s : String) : (ofText s).essence = .ofText s := essence_plain _

@[simp] theorem essence_ofBool (b : Bool) : (ofBool b).essence = .ofBool b := essence_plain _

@[simp] theorem essence_ofInt (n : Int) : (ofInt n).essence = .ofInt n := essence_plain _

end Value

def Scope.essence (scope : Scope) : Scope := scope.map fun e => (e.1, e.2.essence)

theorem lookup_essence (scope : Scope) (name : String) :
    scope.essence.lookup name = (scope.lookup name).map Value.essence := by
  induction scope with
  | nil => rfl
  | cons e scope ih =>
    obtain ⟨key, v⟩ := e
    rw [Scope.essence, List.map_cons, List.lookup_cons, List.lookup_cons, ← Scope.essence, ih]
    cases name == key <;> rfl

namespace Value

variable (v : Value)

@[simp] theorem holds_essence : v.essence.holds = v.holds := by
  cases v with
  | plain d => rw [essence_plain]
  | field f => rw [essence_field]; rfl
  | list items => simp [holds]
  | record entries => simp [holds]

@[simp] theorem display_essence : v.essence.display = v.display := by
  cases v with
  | plain d => rw [essence_plain]
  | field f => rw [essence_field]; rfl
  | list items => rw [essence_list]; rfl
  | record entries => rw [essence_record]; rfl

theorem get?_essence (name : String) : v.essence.get? name = (v.get? name).map essence := by
  cases v with
  | plain d =>
    rw [essence_plain]
    cases d with
    | object entries => simp [get?, Function.comp_def]
    | mapping entries => simp [get?, Function.comp_def]
    | member value =>
      simp only [get?]
      split <;> simp
    | _ => rfl
  | field f =>
    rw [essence_field]
    simp only [get?]
    split
    · simp
      rfl
    · simp
      rfl
    · simp
      rfl
    · simp
  | list items =>
    rw [essence_list]
    rfl
  | record entries =>
    rw [essence_record]
    exact lookup_essence entries name

theorem items?_essence : v.essence.items? = v.items?.map (List.map essence) := by
  cases v with
  | plain d =>
    rw [essence_plain]
    cases d <;> simp [items?, Function.comp_def]
  | field f => rw [essence_field]; rfl
  | list items => rw [essence_list]; rfl
  | record entries =>
    rw [essence_record]
    simp [items?, Function.comp_def]

@[simp] theorem size?_essence : v.essence.size? = v.size? := by
  cases v with
  | plain d => rw [essence_plain]
  | field f => rw [essence_field]; rfl
  | list items => simp [size?, items?]
  | record entries => simp [size?, items?]

@[simp] theorem isMap_essence : v.essence.isMap = v.isMap := by
  cases v with
  | plain d => rw [essence_plain]
  | _ => simp [isMap]

@[simp] theorem isKey_essence : v.essence.isKey = v.isKey := by
  cases v with
  | plain d => rw [essence_plain]
  | _ => simp [isKey]

@[simp] theorem same_essence (w : Value) : v.essence.same w.essence = v.same w := by
  cases v with
  | plain d => cases w <;> simp [same]
  | _ => simp [same]

theorem isIn_eq {container : Value} (h : ∀ s, container ≠ .plain (.text s)) :
    v.isIn container = container.items?.elim (.error .wrongKind) fun items =>
      if container.isMap && !v.isKey then .error .wrongKind else .ok (items.any v.same) := by
  unfold isIn
  split
  · exact absurd rfl (h _)
  · exact absurd rfl (h _)
  · cases container.items? <;> rfl

theorem isIn_essence (container : Value) : v.essence.isIn container.essence = v.isIn container := by
  by_cases htext : ∃ s, container = .plain (.text s)
  · obtain ⟨s, rfl⟩ := htext
    rw [essence_plain]
    cases v with
    | plain d => rw [essence_plain]
    | _ => simp [isIn]
  · have hcontainer := not_exists.mp htext
    have hessence : ∀ s, container.essence ≠ .plain (.text s) := by
      cases container with
      | plain d => rwa [essence_plain]
      | _ => simp
    have hany (items : List Value) : (items.map essence).any v.essence.same = items.any v.same := by
      simp [List.any_map, Function.comp_def]
    rw [isIn_eq v hcontainer, isIn_eq v.essence hessence, items?_essence]
    cases container.items? with
    | none => rfl
    | some items =>
      simp only [Option.map_some, Option.elim_some, isMap_essence, isKey_essence, hany]

theorem pieces_essence : v.essence.pieces = v.pieces := by
  rw [pieces, pieces, items?_essence]
  cases v.items? with
  | none => rfl
  | some items =>
    simp only [Option.map_some]
    induction items with
    | nil => rfl
    | cons item items ih =>
      rw [List.map_cons, List.mapM_cons, List.mapM_cons, ih]
      cases item with
      | plain d => rw [essence_plain]
      | _ => simp

theorem pair_essence : v.essence.pair = v.pair.map fun p => (p.1.essence, p.2.essence) := by
  rw [pair, pair, items?_essence]
  cases v.items? with
  | none => rfl
  | some items =>
    rcases items with _ | ⟨a, _ | ⟨b, _ | ⟨c, rest⟩⟩⟩
    · rfl
    · rfl
    · rfl
    · rfl

end Value

theorem Filter.apply_snakeIdent {v : Value} (h : ∀ s, v ≠ .plain (.text s)) :
    Filter.apply .snakeIdent v = v.pieces.map fun pieces =>
      .ofText (Rust.escapeKeyword (Naming.snakePieces pieces)) := by
  have hbind (x : Except Trouble (List String)) (g : List String → Value) :
      (x >>= fun pieces => pure (g pieces)) = x.map g := by cases x <;> rfl
  cases v with
  | plain d =>
    cases d with
    | text s => exact absurd rfl (h s)
    | _ => exact hbind _ _
  | _ => exact hbind _ _

theorem Filter.apply_essence (f : Filter) (v : Value) :
    f.apply v.essence = (f.apply v).map Value.essence := by
  cases f with
  | stringLiteral =>
    simp only [apply, Value.display_essence]
    cases v.display <;> simp [Except.map]
  | lower =>
    simp only [apply, Value.display_essence]
    cases v.display <;> simp [Except.map]
  | pascal =>
    cases v with
    | plain d =>
      rw [Value.essence_plain]
      cases d <;> simp [apply, Except.map]
    | _ => simp [apply, Except.map]
  | snakeIdent =>
    by_cases htext : ∃ s, v = .plain (.text s)
    · obtain ⟨s, rfl⟩ := htext
      simp [apply, Except.map]
    · have hv := not_exists.mp htext
      have hessence : ∀ s, v.essence ≠ .plain (.text s) := by
        cases v with
        | plain d => rwa [Value.essence_plain]
        | _ => simp
      rw [apply_snakeIdent hv, apply_snakeIdent hessence, Value.pieces_essence]
      cases v.pieces <;> simp [Except.map]
  | size =>
    simp only [apply, Value.size?_essence]
    cases v.size? <;> simp [Except.map]
  | fieldType =>
    cases v with
    | field f => 
      rw [Value.essence_field]
      simp [apply, Except.map]
      rfl
    | _ => simp [apply, Except.map]
  | fieldDefault =>
    cases v with
    | field f =>
      have hsame : Rust.Initializer.ofField f.essence = Rust.Initializer.ofField f := rfl
      rw [Value.essence_field]
      simp only [apply, hsame]
      cases Rust.Initializer.ofField f with
      | ok i => simp [Except.map]
      | error why => cases why <;> rfl
    | _ => simp [apply, Except.map]

/-! ## Expressions -/

/-- Whether a value is in a container depends only on what is seen of the two. -/
theorem Expr.within_essence {scope : Scope} {item container : Expr}
    (ihi : item.eval scope.essence = (item.eval scope).map (Option.map Value.essence))
    (ihc : container.eval scope.essence = (container.eval scope).map (Option.map Value.essence)) :
    (within item container).eval scope.essence =
      ((within item container).eval scope).map (Option.map Value.essence) := by
  rw [eval, eval, ihi, ihc]
  rcases item.eval scope with _ | _ | v
  · rfl
  -- A missing value may be looked for in some containers only, and these tell by their form.
  · rcases container.eval scope with _ | _ | w
    · rfl
    · rfl
    · cases w with
      | plain d =>
        simp only [Except.map, Option.map_some, Value.essence_plain]
        cases d with
        | list items => cases items <;> rfl
        | tuple items => cases items <;> rfl
        | kind k => cases k <;> rfl
        | _ => rfl
      | field f => simp only [Except.map, Option.map_some, Value.essence_field]; rfl
      | list items =>
        simp only [Except.map, Option.map_some, Value.essence_list]
        cases items <;> rfl
      | record entries =>
        simp only [Except.map, Option.map_some, Value.essence_record]
        cases entries <;> rfl
  · rcases container.eval scope with _ | _ | w
    · rfl
    · rfl
    · change (fun b => some (Value.ofBool b)) <$> v.essence.isIn w.essence =
        ((fun b => some (Value.ofBool b)) <$> v.isIn w).map _
      rw [Value.isIn_essence]
      cases v.isIn w with
      | error t => rfl
      | ok b => exact congrArg (fun v => Except.ok (some v)) (Value.essence_ofBool b).symm

theorem Expr.eval_essence (scope : Scope) (e : Expr) :
    e.eval scope.essence = (e.eval scope).map (Option.map Value.essence) := by
  induction e with
  | var name => simp [eval, lookup_essence, Except.map]
  | get e name ih =>
    rw [eval, eval, ih]
    rcases e.eval scope with _ | _ | v
    · rfl
    · rfl
    · exact congrArg Except.ok (Value.get?_essence v name)
  | text s => simp [eval, Except.map]
  | int n => simp [eval, Except.map]
  | filtered f e ih =>
    rw [eval, eval, ih]
    rcases e.eval scope with _ | _ | v
    · rfl
    · rfl
    · change some <$> f.apply v.essence = (some <$> f.apply v).map _
      rw [Filter.apply_essence]
      cases f.apply v <;> rfl
  | equals a b iha ihb =>
    rw [eval, eval, iha, ihb]
    rcases a.eval scope with _ | _ | v
    · rfl
    · rcases b.eval scope with _ | _ | w <;> rfl
    · rcases b.eval scope with _ | _ | w
      · rfl
      · rfl
      · change Except.ok (some (Value.ofBool (v.essence.same w.essence))) =
          .ok (some (Value.essence _))
        rw [Value.same_essence, Value.essence_ofBool]
  | within item container ihi ihc => exact within_essence ihi ihc
  | not e ih =>
    rw [eval, eval, ih]
    rcases e.eval scope with _ | _ | v
    · rfl
    · rfl
    · change Except.ok (some (Value.ofBool !v.essence.holds)) = .ok (some (Value.essence _))
      rw [Value.holds_essence, Value.essence_ofBool]
  | both a b iha ihb =>
    rw [eval, eval, iha, ihb]
    rcases a.eval scope with _ | _ | v
    · rfl
    · rfl
    · change (if v.essence.holds then _ else _) = Except.map _ (if v.holds then _ else _)
      rw [Value.holds_essence]
      split <;> rfl
  | choose test yes no iht ihy ihn =>
    rw [eval, eval, iht, ihy, ihn]
    rcases test.eval scope with _ | _ | v
    · rfl
    · rfl
    · change (if v.essence.holds then _ else _) = Except.map _ (if v.holds then _ else _)
      rw [Value.holds_essence]
      split <;> rfl

theorem Expr.test_essence (scope : Scope) (e : Expr) : e.test scope.essence = e.test scope := by
  rw [test, test, eval_essence]
  rcases e.eval scope with _ | _ | v
  · rfl
  · rfl
  · exact congrArg Except.ok v.holds_essence

theorem Expr.items_essence (scope : Scope) (e : Expr) :
    e.items scope.essence = (e.items scope).map (List.map Value.essence) := by
  rw [items, items, eval_essence]
  rcases e.eval scope with _ | _ | v
  · rfl
  · rfl
  · simp only [Except.map, bind, Except.bind, Option.map_some, Value.items?_essence]
    cases v.items? <;> rfl

/-! ## Blocks -/

theorem Piece.render_essence (scope : Scope) (p : Piece) :
    p.render scope.essence = p.render scope := by
  cases p with
  | text s => rfl
  | put e =>
    rw [render, render, Expr.eval_essence]
    rcases e.eval scope with _ | _ | v
    · rfl
    · rfl
    · exact v.display_essence

theorem renderLine_essence (scope : Scope) (pieces : List Piece) :
    renderLine scope.essence pieces = renderLine scope pieces := by
  rw [renderLine, renderLine, funext (Piece.render_essence scope)]

/-- A loop whose body is rendered the same for an item and its essence. -/
theorem loop_essence {f f' : Value → Except Trouble String} (h : ∀ v, f v.essence = f' v)
    (items : Except Trouble (List Value)) :
    (do return String.join (← (← items.map (List.map Value.essence)).mapM f)) =
      (do return String.join (← (← items).mapM f')) := by
  cases items with
  | error e => rfl
  | ok vs =>
    simp only [Except.map, bind, Except.bind]
    rw [mapM_map_eq fun v _ => h v]

mutual

theorem Block.render_essence (scope : Scope) (b : Block) :
    b.render scope.essence = b.render scope := by
  cases b with
  | text lines => rw [Block.render, Block.render]
  | line pieces => rw [Block.render, Block.render, renderLine_essence]
  | choose test yes no =>
    rw [Block.render, Block.render, Expr.test_essence, renderAll_essence scope yes,
      renderAll_essence scope no]
  | each name items body =>
    rw [Block.render, Block.render, Expr.items_essence]
    exact loop_essence (fun v => renderAll_essence ((name, v) :: scope) body) _
  | eachPair first second items body =>
    rw [Block.render, Block.render, Expr.items_essence]
    refine loop_essence (fun v => ?_) _
    rw [Value.pair_essence]
    rcases v.pair with e | ⟨a, b⟩
    · rfl
    · exact renderAll_essence ((second, b) :: (first, a) :: scope) body

theorem renderAll_essence (scope : Scope) (blocks : List Block) :
    renderAll scope.essence blocks = renderAll scope blocks := by
  cases blocks with
  | nil => rw [renderAll, renderAll]
  | cons b blocks =>
    rw [renderAll, renderAll, Block.render_essence scope b, renderAll_essence scope blocks]

end

end Template

end Wirework
