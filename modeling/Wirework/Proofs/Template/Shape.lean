import Wirework.Proofs.Except
import Wirework.Template.Render

/-!
# Shapes of templates

A template is rendered with values, and it fails where a value is missing or of the wrong kind. A
shape says how far a value can be relied on, and `checkAll` tests a template against the shapes of
the names it is rendered with, before there are any values. A template that passes gets every value
it asks for (`failsOnly_renderAll`).

What a shape does not settle is whether a number or the default of a field has a text, so the
statements are about a set `E` of troubles that are put up with: a value has its shape if writing it
runs into no other trouble. With every trouble ruled out this says that the template is rendered; with
some of them left in, that it fails by no other.
-/

namespace Wirework.Template

/-- What a value can be relied on for. -/
inductive Shape where
  /-- It can be tested. -/
  | any
  /-- It is tested, and does not hold. -/
  | no
  /-- It can be written and tested. -/
  | shown
  | text
  | field
  | pair (first second : Shape)
  /-- It has items of a shape, and perhaps their number can be written. -/
  | list (item : Shape) (counted : Bool := false)
  | record (entries : List (String × Shape))

/-- Whether a value of the shape can be written. -/
def Shape.isShown : Shape → Bool
  | .any | .no => false
  | _ => true

variable {E : Trouble → Prop}

/-! ## Values -/

mutual

/-- A value has a shape, up to some troubles with its text and with the defaults of fields. -/
inductive Value.Fits (E : Trouble → Prop) : Shape → Value → Prop where
  | any (v : Value) : Value.Fits E .any v
  | no {v : Value} (h : v.holds = false) : Value.Fits E .no v
  | shown {v : Value} (h : FailsOnly E v.display) : Value.Fits E .shown v
  | text (s : String) : Value.Fits E .text (.ofText s)
  | field {f : Field} (h : FailsOnly E (Filter.apply .fieldDefault (.field f))) :
      Value.Fits E .field (.field f)
  | pair {a b : Shape} {x y : Value} (hx : Value.Fits E a x) (hy : Value.Fits E b y) :
      Value.Fits E (.pair a b) (.list [x, y])
  | list {s : Shape} {counted : Bool} {items : List Value} (h : ∀ v ∈ items, Value.Fits E s v)
      (hcount : counted = true → FailsOnly E (Value.ofInt items.length).display) :
      Value.Fits E (.list s counted) (.list items)
  | record {shapes : List (String × Shape)} {entries : Scope} (h : Scope.Fits E shapes entries) :
      Value.Fits E (.record shapes) (.record entries)

inductive Scope.Fits (E : Trouble → Prop) : List (String × Shape) → Scope → Prop where
  | nil : Scope.Fits E [] []
  | cons {name : String} {s : Shape} {v : Value} {shapes : List (String × Shape)} {scope : Scope}
      (hv : Value.Fits E s v) (h : Scope.Fits E shapes scope) :
      Scope.Fits E ((name, s) :: shapes) ((name, v) :: scope)

end

variable {shapes : List (String × Shape)} {scope : Scope} {s t : Shape} {v : Value}

theorem Scope.Fits.lookup {name : String} (h : Scope.Fits E shapes scope)
    (hs : shapes.lookup name = some s) : ∃ v, scope.lookup name = some v ∧ v.Fits E s := by
  induction shapes generalizing scope with
  | nil => cases hs
  | cons entry rest ih =>
    cases h with
    | @cons key _ v _ _ hv hrest =>
      rw [List.lookup_cons] at hs ⊢
      cases hk : name == key with
      | true =>
        rw [hk] at hs
        cases hs
        exact ⟨v, rfl, hv⟩
      | false =>
        rw [hk] at hs
        exact ih hrest hs

theorem Value.Fits.failsOnly_display (hv : v.Fits E s) (h : s.isShown = true) :
    FailsOnly E v.display := by
  cases hv with
  | any => cases h
  | no => cases h
  | shown hshown => exact hshown
  | _ => exact failsOnly_ok _

/-- A computation gives a value of a shape, up to some troubles. -/
def Yields (E : Trouble → Prop) (s : Shape) (x : Except Trouble (Option Value)) : Prop :=
  (∃ v, x = .ok (some v) ∧ v.Fits E s) ∨ ∃ e, x = .error e ∧ E e

theorem Yields.error {e : Trouble} (he : E e) : Yields E s (.error e) := Or.inr ⟨e, rfl, he⟩

theorem Yields.ok (h : v.Fits E s) : Yields E s (.ok (some v)) := Or.inl ⟨v, rfl, h⟩

theorem Yields.bind {x : Except Trouble (Option Value)}
    {k : Option Value → Except Trouble (Option Value)} (hx : Yields E s x)
    (hk : ∀ v, v.Fits E s → Yields E t (k (some v))) : Yields E t (x >>= k) := by
  rcases hx with ⟨v, rfl, hv⟩ | ⟨e, rfl, he⟩
  · exact hk v hv
  · exact .error he

theorem Yields.relax {x : Except Trouble (Option Value)} (hx : Yields E s x) : Yields E .any x := by
  rcases hx with ⟨v, rfl, -⟩ | ⟨e, rfl, he⟩
  · exact .ok (.any v)
  · exact .error he

theorem Yields.show {x : Except Trouble (Option Value)} (hx : Yields E s x)
    (h : s.isShown = true) : Yields E .shown x := by
  rcases hx with ⟨v, rfl, hv⟩ | ⟨e, rfl, he⟩
  · exact .ok (.shown (hv.failsOnly_display h))
  · exact .error he

/-! ## Expressions -/

def Filter.shape? : Filter → Shape → Option Shape
  | .stringLiteral, s | .lower, s => if s.isShown then some .text else none
  | .pascal, .text | .snakeIdent, .text => some .text
  | .size, .list _ counted => some (if counted then .shown else .any)
  | .fieldType, .field | .fieldDefault, .field => some .text
  | _, _ => none

theorem Value.Fits.yields_display {g : String → String} (hv : v.Fits E s)
    (h : (if s.isShown then some .text else none) = some t) :
    Yields E t (some <$> v.display.map fun text => .ofText (g text)) := by
  split at h
  · rename_i hshown
    cases h
    have htext := hv.failsOnly_display hshown
    cases hd : v.display with
    | ok text => exact .ok (.text _)
    | error e => exact .error (htext e hd)
  · cases h

theorem Filter.yields_apply {f : Filter} (h : f.shape? s = some t) (hv : v.Fits E s) :
    Yields E t (some <$> f.apply v) := by
  cases f with
  | stringLiteral => exact hv.yields_display h
  | lower => exact hv.yields_display h
  | pascal =>
    cases hv with
    | text => cases h; exact .ok (.text _)
    | _ => cases h
  | snakeIdent =>
    cases hv with
    | text => cases h; exact .ok (.text _)
    | _ => cases h
  | size =>
    cases hv with
    | list _ hcount =>
      cases h
      split
      · exact .ok (.shown (hcount (by assumption)))
      · exact .ok (.any _)
    | _ => cases h
  | fieldType =>
    cases hv with
    | field => cases h; exact .ok (.text _)
    | _ => cases h
  | fieldDefault =>
    cases hv with
    | @field f hf =>
      cases h
      simp only [Filter.apply] at hf ⊢
      cases hi : Rust.Initializer.ofField f with
      | ok i => exact .ok (.text _)
      | error e =>
        rw [hi] at hf
        cases e with
        | integerTooLong => exact .error (hf _ rfl)
        | _ => exact .error (hf _ rfl)
    | _ => cases h

theorem Value.display_ofText (s : String) : (Value.ofText s).display = .ok s := rfl

theorem failsOnly_display_ofOption (o : Option String) :
    FailsOnly E (Value.plain (Data.ofOption .text o)).display := by
  cases o <;> exact failsOnly_ok _

theorem failsOnly_display_ofInt {n : Int} (h : Number.isShort n = true) :
    FailsOnly E (Value.ofInt n).display := by
  have htext : (Data.int n).display = some (toString n) := if_pos h
  rw [Value.ofInt, Value.display, htext]
  exact failsOnly_ok _

def Shape.get? (name : String) : Shape → Option Shape
  | .record entries => entries.lookup name
  | .field =>
    match name with
    | "name" => some .text
    | "description" => some .shown
    | "is_secret" => some .any
    | _ => none
  | _ => none

theorem Value.Fits.get? {name : String} (hv : v.Fits E s) (h : s.get? name = some t) :
    ∃ w, v.get? name = some w ∧ w.Fits E t := by
  cases hv with
  | record hentries => exact hentries.lookup h
  | field =>
    simp only [Shape.get?] at h
    split at h
    · cases h
      exact ⟨_, rfl, .text _⟩
    · cases h
      exact ⟨_, rfl, .shown (failsOnly_display_ofOption _)⟩
    · cases h
      exact ⟨_, rfl, .any _⟩
    · cases h
  | _ => cases h

/-- The shape of an expression, if it has one whatever its names stand for. -/
def Expr.shape? (shapes : List (String × Shape)) : Expr → Option Shape
  | .var name => shapes.lookup name
  | .get e name => (e.shape? shapes).bind (Shape.get? name)
  | .text _ => some .text
  | .int n => some (if Number.isShort n then .shown else .any)
  | .filtered f e => (e.shape? shapes).bind f.shape?
  | .equals a b | .both a b =>
    match a.shape? shapes, b.shape? shapes with
    | some _, some _ => some .any
    | _, _ => none
  | .within item container =>
    match item.shape? shapes, container.shape? shapes with
    | some _, some (.list ..) => some .any
    | _, _ => none
  | .not e => (e.shape? shapes).map fun _ => .any
  | .choose test yes no =>
    match test.shape? shapes, yes.shape? shapes, no.shape? shapes with
    | some _, some s, some t => some (if s.isShown && t.isShown then .shown else .any)
    | _, _, _ => none

theorem Value.isIn_list {item : Value} {items : List Value} :
    item.isIn (.list items) = .ok (items.any item.same) := by
  cases item with
  | plain d => cases d <;> rfl
  | _ => rfl

theorem yields_isIn {item : Value} {counted : Bool} (hv : v.Fits E (.list s counted)) :
    Yields E .any ((fun b => some (Value.ofBool b)) <$> item.isIn v) := by
  cases hv with
  | list =>
    rw [Value.isIn_list]
    exact .ok (.any _)

/-- An expression that has a shape gives a value of it. -/
theorem Expr.yields_eval {e : Expr} (hscope : Scope.Fits E shapes scope)
    (h : e.shape? shapes = some s) : Yields E s (e.eval scope) := by
  induction e generalizing s with
  | var name =>
    obtain ⟨v, hlookup, hv⟩ := hscope.lookup h
    rw [Expr.eval, hlookup]
    exact .ok hv
  | get e name ih =>
    obtain ⟨t, ht, hget⟩ := Option.bind_eq_some_iff.mp h
    rw [Expr.eval]
    refine (ih ht).bind fun v hv => ?_
    obtain ⟨w, hw, hfits⟩ := hv.get? hget
    exact Or.inl ⟨w, congrArg Except.ok hw, hfits⟩
  | text s =>
    cases h
    exact .ok (.text _)
  | int n =>
    cases h
    split
    · exact .ok (.shown (failsOnly_display_ofInt (by assumption)))
    · exact .ok (.any _)
  | filtered f e ih =>
    obtain ⟨t, ht, hfilter⟩ := Option.bind_eq_some_iff.mp h
    rw [Expr.eval]
    exact (ih ht).bind fun v hv => Filter.yields_apply hfilter hv
  | equals a b iha ihb =>
    rw [Expr.shape?] at h
    split at h
    · rename_i ha hb
      cases h
      rw [Expr.eval]
      exact (iha ha).bind fun _ _ => (ihb hb).bind fun _ _ => .ok (.any _)
    · cases h
  | within item container ihi ihc =>
    rw [Expr.shape?] at h
    split at h
    · rename_i hi hc
      cases h
      rw [Expr.eval]
      exact (ihi hi).bind fun _ _ => (ihc hc).bind fun _ hv => yields_isIn hv
    · cases h
  | not e ih =>
    obtain ⟨t, ht, rfl⟩ := Option.map_eq_some_iff.mp h
    rw [Expr.eval]
    exact (ih ht).bind fun _ _ => .ok (.any _)
  | both a b iha ihb =>
    rw [Expr.shape?] at h
    split at h
    · rename_i ha hb
      cases h
      rw [Expr.eval]
      refine (iha ha).bind fun v _ => ?_
      simp only
      split
      · exact (ihb hb).relax
      · exact .ok (.any _)
    · cases h
  | choose test yes no iht ihy ihn =>
    rw [Expr.shape?] at h
    split at h
    · rename_i ht hy hn
      cases h
      rw [Expr.eval]
      refine (iht ht).bind fun v _ => ?_
      simp only
      split
      · rename_i hshown
        obtain ⟨hyes, hno⟩ := Bool.and_eq_true_iff.mp hshown
        split
        · exact (ihy hy).show hyes
        · exact (ihn hn).show hno
      · split
        · exact (ihy hy).relax
        · exact (ihn hn).relax
    · cases h

/-! ## Blocks -/

def Piece.check (shapes : List (String × Shape)) : Piece → Bool
  | .text _ => true
  | .put e => (e.shape? shapes).any Shape.isShown

mutual

/-- Whether a block gets every value it asks for, whatever its names stand for. -/
def Block.check (shapes : List (String × Shape)) : Block → Bool
  | .text _ => true
  | .line pieces => pieces.all (Piece.check shapes)
  | .choose test yes no =>
    match test.shape? shapes with
    | some .no => checkAll shapes no
    | some _ => checkAll shapes yes && checkAll shapes no
    | none => false
  | .each name items body =>
    match items.shape? shapes with
    | some (.list s _) => checkAll ((name, s) :: shapes) body
    | _ => false
  | .eachPair first second items body =>
    match items.shape? shapes with
    | some (.list (.pair a b) _) => checkAll ((second, b) :: (first, a) :: shapes) body
    | _ => false

def checkAll (shapes : List (String × Shape)) : List Block → Bool
  | [] => true
  | b :: rest => b.check shapes && checkAll shapes rest

end

/-- What is done with the value of an expression that has one. -/
theorem Yields.failsOnly_bind {α : Type} {x : Except Trouble (Option Value)}
    {k : Option Value → Except Trouble α} (hx : Yields E s x)
    (hk : ∀ v, v.Fits E s → FailsOnly E (k (some v))) : FailsOnly E (x >>= k) := by
  rcases hx with ⟨v, rfl, hv⟩ | ⟨e, rfl, he⟩
  · exact hk v hv
  · exact failsOnly_error he

theorem Piece.failsOnly_render {piece : Piece} (hscope : Scope.Fits E shapes scope)
    (h : piece.check shapes = true) : FailsOnly E (piece.render scope) := by
  cases piece with
  | text s => exact failsOnly_ok _
  | put e =>
    rw [Piece.check] at h
    rw [Piece.render]
    cases hs : e.shape? shapes with
    | none =>
      rw [hs] at h
      cases h
    | some s =>
      rw [hs] at h
      exact (Expr.yields_eval hscope hs).failsOnly_bind fun _ hv => hv.failsOnly_display h

theorem Expr.failsOnly_test {e : Expr} (hscope : Scope.Fits E shapes scope)
    (h : e.shape? shapes = some s) : FailsOnly E (e.test scope) := by
  rw [Expr.test]
  exact (Expr.yields_eval hscope h).failsOnly_bind fun _ _ => failsOnly_ok _

theorem Expr.test_of_no {e : Expr} {holds : Bool} (hscope : Scope.Fits E shapes scope)
    (h : e.shape? shapes = some .no) (htest : e.test scope = .ok holds) : holds = false := by
  rw [Expr.test] at htest
  rcases Expr.yields_eval hscope h with ⟨v, hv, hfits⟩ | ⟨e, he, -⟩
  · rw [hv] at htest
    cases hfits with
    | no hno => exact (Except.ok.inj htest).symm.trans hno
  · rw [he] at htest
    cases htest

theorem Expr.items_fits {e : Expr} {counted : Bool} (hscope : Scope.Fits E shapes scope)
    (h : e.shape? shapes = some (.list s counted)) : FailsOnly E (e.items scope) ∧
      ∀ items, e.items scope = .ok items → ∀ v ∈ items, v.Fits E s := by
  rw [Expr.items]
  rcases Expr.yields_eval hscope h with ⟨v, hv, hfits⟩ | ⟨e, he, hE⟩
  · rw [hv]
    cases hfits with
    | list hitems =>
      refine ⟨failsOnly_ok _, fun items hok => ?_⟩
      cases hok
      exact hitems
  · rw [he]
    exact ⟨failsOnly_error hE, fun items hok => nomatch hok⟩

theorem Value.Fits.pair_eq {a b : Shape} (hv : v.Fits E (.pair a b)) :
    ∃ x y, v.pair = .ok (x, y) ∧ x.Fits E a ∧ y.Fits E b := by
  cases hv with
  | pair hx hy => exact ⟨_, _, rfl, hx, hy⟩

mutual

/-- A block that passes the check is rendered, up to the troubles that are put up with. -/
theorem Block.failsOnly_render : (b : Block) → {shapes : List (String × Shape)} → {scope : Scope} →
    Scope.Fits E shapes scope → b.check shapes = true → FailsOnly E (b.render scope)
  | .text _, _, _, _, _ => failsOnly_ok _
  | .line pieces, _, _, hscope, h => by
    rw [Block.render, renderLine]
    have hpieces : ∀ piece ∈ pieces, FailsOnly E (piece.render _) := fun piece hp =>
      Piece.failsOnly_render hscope (List.all_eq_true.mp h piece hp)
    exact (FailsOnly.mapM hpieces).bind fun _ _ => failsOnly_ok _
  | .choose test yes no, _, _, hscope, h => by
    rw [Block.check] at h
    rw [Block.render]
    split at h
    · rename_i hs
      refine (Expr.failsOnly_test hscope hs).bind fun holds hholds => ?_
      rw [Expr.test_of_no hscope hs hholds]
      exact failsOnly_renderAll no hscope h
    · rename_i hs
      obtain ⟨hyes, hno⟩ := Bool.and_eq_true_iff.mp h
      refine (Expr.failsOnly_test hscope hs).bind fun holds _ => ?_
      split
      · exact failsOnly_renderAll yes hscope hyes
      · exact failsOnly_renderAll no hscope hno
    · cases h
  | .each name items body, _, _, hscope, h => by
    rw [Block.check] at h
    split at h
    · rename_i s hs
      obtain ⟨hfails, hfits⟩ := Expr.items_fits hscope hs
      rw [Block.render]
      refine hfails.bind fun values hvalues => ?_
      refine FailsOnly.bind (FailsOnly.mapM fun v hv => ?_) fun _ _ => failsOnly_ok _
      exact failsOnly_renderAll body (.cons (hfits values hvalues v hv) hscope) h
    · cases h
  | .eachPair first second items body, _, _, hscope, h => by
    rw [Block.check] at h
    split at h
    · rename_i a b hs
      obtain ⟨hfails, hfits⟩ := Expr.items_fits hscope hs
      rw [Block.render]
      refine hfails.bind fun values hvalues => ?_
      refine FailsOnly.bind (FailsOnly.mapM fun v hv => ?_) fun _ _ => failsOnly_ok _
      obtain ⟨x, y, hpair, hx, hy⟩ := (hfits values hvalues v hv).pair_eq
      rw [hpair]
      exact failsOnly_renderAll body (.cons hy (.cons hx hscope)) h
    · cases h

theorem failsOnly_renderAll : (bs : List Block) → {shapes : List (String × Shape)} →
    {scope : Scope} → Scope.Fits E shapes scope → checkAll shapes bs = true →
    FailsOnly E (renderAll scope bs)
  | [], _, _, _, _ => failsOnly_ok _
  | b :: rest, _, _, hscope, h => by
    rw [checkAll, Bool.and_eq_true] at h
    rw [renderAll]
    refine (Block.failsOnly_render b hscope h.1).bind fun _ _ => ?_
    exact (failsOnly_renderAll rest hscope h.2).bind fun _ _ => failsOnly_ok _

end

/-! ## Parts of a rendered template -/

theorem renderAll_append (blocks rest : List Block) :
    renderAll scope (blocks ++ rest) = (do
      let first ← renderAll scope blocks
      let others ← renderAll scope rest
      return first ++ others) := by
  induction blocks with
  | nil =>
    cases h : renderAll scope rest <;> simp [renderAll, h, bind, Except.bind, pure, Except.pure]
  | cons b blocks ih =>
    rw [List.cons_append, renderAll, renderAll, ih]
    cases b.render scope <;> cases renderAll scope blocks <;> cases renderAll scope rest <;>
      simp [bind, Except.bind, pure, Except.pure, String.append_assoc]

theorem render_of_renderAll_ok {bs : List Block} {text : String}
    (h : renderAll scope bs = .ok text) : ∀ b ∈ bs, ∃ s, b.render scope = .ok s := by
  induction bs generalizing text with
  | nil => exact fun b hb => absurd hb List.not_mem_nil
  | cons b rest ih =>
    rw [renderAll] at h
    obtain ⟨first, hfirst, h⟩ := bind_eq_ok_iff.mp h
    obtain ⟨others, hothers, -⟩ := bind_eq_ok_iff.mp h
    intro b' hb'
    rcases List.mem_cons.mp hb' with rfl | hrest
    · exact ⟨first, hfirst⟩
    · exact ih hothers b' hrest

/-- A loop that is rendered has its body rendered for every item. -/
theorem renderAll_of_each_ok {name text : String} {items : Expr} {body : List Block}
    {values : List Value} (hitems : items.items scope = .ok values)
    (h : (Block.each name items body).render scope = .ok text) :
    ∀ v ∈ values, ∃ s, renderAll ((name, v) :: scope) body = .ok s := by
  rw [Block.render] at h
  obtain ⟨values', hvalues, h⟩ := bind_eq_ok_iff.mp h
  cases hitems.symm.trans hvalues
  obtain ⟨texts, htexts, -⟩ := bind_eq_ok_iff.mp h
  intro v hv
  obtain ⟨s, -, hs⟩ := forall_of_mapM_ok htexts v hv
  exact ⟨s, hs⟩

theorem render_each {α : Type} {name : String} {items : Expr} {body : List Block} {xs : List α}
    {value : α → Value} {text : α → String} (hitems : items.items scope = .ok (xs.map value))
    (hbody : ∀ x, renderAll ((name, value x) :: scope) body = .ok (text x)) :
    (Block.each name items body).render scope = .ok (String.join (xs.map text)) := by
  rw [Block.render, hitems]
  refine bind_eq_ok_iff.mpr ⟨_, rfl, bind_eq_ok_iff.mpr ⟨xs.map text, ?_, rfl⟩⟩
  rw [List.mapM_map]
  exact mapM_eq_ok fun x _ => hbody x

theorem renderAll_of_choose_ok {test : Expr} {yes no : List Block} {text : String}
    (htest : test.test scope = .ok true) (h : (Block.choose test yes no).render scope = .ok text) :
    ∃ s, renderAll scope yes = .ok s := by
  rw [Block.render, htest] at h
  exact ⟨text, h⟩

theorem eval_of_line_ok {pieces : List Piece} {text : String}
    (h : (Block.line pieces).render scope = .ok text) {e : Expr} (he : Piece.put e ∈ pieces) :
    ∃ v s, e.eval scope = .ok (some v) ∧ v.display = .ok s := by
  rw [Block.render, renderLine] at h
  obtain ⟨texts, htexts, -⟩ := bind_eq_ok_iff.mp h
  obtain ⟨s, -, hs⟩ := forall_of_mapM_ok htexts _ he
  rw [Piece.render] at hs
  obtain ⟨r, hr, hs⟩ := bind_eq_ok_iff.mp hs
  cases r with
  | none => cases hs
  | some v => exact ⟨v, s, hr, hs⟩

end Wirework.Template
