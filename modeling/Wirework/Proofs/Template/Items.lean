import Mathlib.Data.List.Basic
import Wirework.Proofs.Except
import Wirework.Template.Render

/-!
# Items that a template declares

A line declares an item if it starts with `pub` and one of a few words; the name comes next
(`item?`). `Writes x names` says that a text is made of whole lines and that those which declare
items name `names`, in this order. There is one rule for each kind of block, so that the names of a
template are found by going through it line by line: what the values of a scope are matters only for
the lines with a name that is filled in, and for the tests on which the names depend.
-/

namespace Wirework.Template

/-! ## Lines -/

/-- What stands between `pub` and the name of an item. -/
def itemKinds : List String := ["struct ", "enum ", "trait ", "const ", "fn ", "async fn "]

/-- The characters before which a name ends. -/
def endsName (c : Char) : Bool := c = ' ' || c = '(' || c = ':' || c = '\n'

def isName (text : String) : Bool := text.toList.all fun c => !endsName c

def itemName? : List Char → Option (List Char)
  | 'p' :: 'u' :: 'b' :: ' ' :: cs =>
    (itemKinds.find? fun kind => kind.toList.isPrefixOf cs).map fun kind =>
      (cs.drop kind.length).takeWhile fun c => !endsName c
  | _ => none

/-- The name of the item that a line declares. Of several lines the first one counts. -/
def item? (line : String) : Option String :=
  (itemName? (line.toList.takeWhile (· ≠ '\n'))).map String.ofList

variable {scope : Scope} {blocks rest yes no : List Block} {pieces : List Piece} {e test : Expr}
  {cs tail : List Char} {c : Char} {lines names names' : List String} {kind name text : String}

theorem item?_ofList : item? (String.ofList cs) =
    (itemName? (cs.takeWhile (· ≠ '\n'))).map String.ofList := by
  rw [item?, String.toList_ofList]

/-- A line that starts with another letter than `pub` declares nothing. -/
theorem item?_of_ne (hc : c ≠ 'p') : item? (String.ofList (c :: cs) ++ text) = none := by
  have hname : ∀ tail, itemName? (c :: tail) = none := fun tail => by
    unfold itemName?
    split
    · rename_i heq
      exact absurd (List.cons.inj heq).1 hc
    · rfl
  rw [item?, String.toList_append, String.toList_ofList, List.cons_append, List.takeWhile_cons]
  split
  · rw [hname]
    rfl
  · rfl

theorem itemName?_kind (hkind : kind ∈ itemKinds) :
    itemName? ("pub ".toList ++ (kind.toList ++ cs)) =
      some (cs.takeWhile fun c => !endsName c) := by
  simp only [itemKinds, List.mem_cons, List.not_mem_nil, or_false] at hkind
  rcases hkind with rfl | rfl | rfl | rfl | rfl | rfl <;> rfl

theorem newline_notMem_kind (hkind : kind ∈ itemKinds) :
    kind.toList.all (· ≠ '\n') = true := by
  simp only [itemKinds, List.mem_cons, List.not_mem_nil, or_false] at hkind
  rcases hkind with rfl | rfl | rfl | rfl | rfl | rfl <;> rfl

theorem isName_append {text' : String} :
    isName (text ++ text') = (isName text && isName text') := by
  simp [isName]

/-- A line that has the form of a declaration declares its name. -/
theorem item?_declaration (hkind : kind ∈ itemKinds) (hname : isName name = true)
    (hc : endsName c = true) :
    item? ("pub " ++ (kind ++ (name ++ String.ofList (c :: tail)))) = some name := by
  have hname := List.all_eq_true.mp hname
  have hline : ∀ x ∈ name.toList, x ≠ '\n' := by
    rintro x hx rfl
    exact absurd (hname _ hx) (by decide)
  have hbehind : ((c :: tail).takeWhile (· ≠ '\n')).takeWhile (fun x => !endsName x) = [] := by
    rw [List.takeWhile_cons]
    split
    · exact List.takeWhile_cons_of_neg (by simp [hc])
    · rfl
  simp only [item?, String.toList_append, String.toList_ofList]
  rw [List.takeWhile_append_of_pos (by simp),
    List.takeWhile_append_of_pos (List.all_eq_true.mp (newline_notMem_kind hkind)),
    List.takeWhile_append_of_pos (by simpa using hline), itemName?_kind hkind,
    List.takeWhile_append_of_pos hname, hbehind, List.append_nil, Option.map_some,
    String.ofList_toList]

/-! ## Texts -/

def unlines (lines : List String) : String := String.join (lines.map (· ++ "\n"))

@[simp] theorem unlines_nil : unlines [] = "" := String.join_nil

@[simp] theorem unlines_cons : unlines (text :: lines) = text ++ "\n" ++ unlines lines := by
  simp [unlines]

@[simp] theorem unlines_append {more : List String} :
    unlines (lines ++ more) = unlines lines ++ unlines more := by
  simp [unlines]

/-- What is written, if anything, is lines in which the items `names` are declared. -/
def Writes (x : Except Trouble String) (names : List String) : Prop :=
  ∀ text, x = .ok text → ∃ lines, text = unlines lines ∧ lines.filterMap item? = names

theorem writes_nil : Writes (renderAll scope []) [] := by
  intro text h
  cases h
  exact ⟨[], unlines_nil.symm, rfl⟩

theorem writes_cons {b : Block} (hfirst : Writes (b.render scope) names)
    (hrest : Writes (renderAll scope rest) names') :
    Writes (renderAll scope (b :: rest)) (names ++ names') := by
  intro text h
  rw [renderAll] at h
  obtain ⟨first, h₁, h⟩ := bind_eq_ok_iff.mp h
  obtain ⟨others, h₂, h⟩ := bind_eq_ok_iff.mp h
  cases h
  obtain ⟨lines, rfl, rfl⟩ := hfirst first h₁
  obtain ⟨lines', rfl, rfl⟩ := hrest others h₂
  exact ⟨lines ++ lines', unlines_append.symm, List.filterMap_append⟩

/-! ## Lines as they stand -/

theorem writes_text (names : List String) (hnames : lines.filterMap item? = names)
    (hrest : Writes (renderAll scope rest) names') :
    Writes (renderAll scope (.text lines :: rest)) (names ++ names') := by
  refine writes_cons (fun text h => ?_) hrest
  cases h
  exact ⟨lines, rfl, hnames⟩

theorem names_skip (h : itemName? (cs.takeWhile (· ≠ '\n')) = none)
    (hrest : lines.filterMap item? = names) :
    (String.ofList cs :: lines).filterMap item? = names := by
  rw [List.filterMap_cons_none (by rw [item?_ofList, h, Option.map_none]), hrest]

theorem names_item (h : itemName? (cs.takeWhile (· ≠ '\n')) = some tail)
    (hrest : lines.filterMap item? = names) :
    (String.ofList cs :: lines).filterMap item? = String.ofList tail :: names := by
  rw [List.filterMap_cons_some (by rw [item?_ofList, h, Option.map_some]), hrest]

/-! ## Lines with values -/

theorem render_line {texts : List String} {line : String}
    (hpieces : pieces.mapM (Piece.render scope) = .ok texts) (hline : String.join texts = line) :
    (Block.line pieces).render scope = .ok (unlines [line]) := by
  rw [Block.render, renderLine, hpieces, unlines_cons, unlines_nil, String.append_empty, ← hline]
  rfl

theorem writes_line (found : Option String)
    (hline : ∀ texts, pieces.mapM (Piece.render scope) = .ok texts →
      item? (String.join texts) = found)
    (hrest : Writes (renderAll scope rest) names) :
    Writes (renderAll scope (.line pieces :: rest)) (found.toList ++ names) := by
  refine writes_cons (fun text h => ?_) hrest
  obtain ⟨texts, htexts, h⟩ := bind_eq_ok_iff.mp h
  cases h
  refine ⟨[String.join texts], by simp, ?_⟩
  rw [List.filterMap_cons, hline texts htexts]
  cases found <;> rfl

theorem writes_line_skip (hc : c ≠ 'p') (hrest : Writes (renderAll scope rest) names) :
    Writes (renderAll scope (.line (.text (String.ofList (c :: cs)) :: pieces) :: rest)) names := by
  refine writes_line none (fun texts h => ?_) hrest
  obtain ⟨first, others, hfirst, -, rfl⟩ := mapM_cons_eq_ok_iff.mp h
  cases hfirst
  rw [String.join_cons]
  exact item?_of_ne hc

/-- A line that declares an item, whatever values follow. -/
theorem writes_line_fixed {opening : String} (kind name after : String)
    (hkind : kind ∈ itemKinds) (hname : isName name = true)
    (hopening : opening = "pub " ++ (kind ++ (name ++ after)))
    (hafter : after = String.ofList (c :: cs)) (hc : endsName c = true)
    (hrest : Writes (renderAll scope rest) names) :
    Writes (renderAll scope (.line (.text opening :: pieces) :: rest)) (name :: names) := by
  refine writes_line (some name) (fun texts h => ?_) hrest
  obtain ⟨first, others, hfirst, -, rfl⟩ := mapM_cons_eq_ok_iff.mp h
  cases hfirst
  have hline : String.join (opening :: others) =
      "pub " ++ (kind ++ (name ++ String.ofList (c :: (cs ++ (String.join others).toList)))) := by
    simp [hopening, hafter, String.append_assoc, ← String.toList_inj]
  rw [hline]
  exact item?_declaration hkind hname hc

/-- A line that declares an item, the name of which is a value and what stands behind it. -/
theorem writes_line_item {opening closing value : String} (kind suffix : String)
    (hkind : kind ∈ itemKinds) (hvalue : e.eval scope = .ok (some (.ofText value)))
    (hname : isName (value ++ suffix) = true) (hc : endsName c = true)
    (hopening : opening = "pub " ++ kind) (hclosing : closing = suffix ++ String.ofList (c :: cs))
    (hrest : Writes (renderAll scope rest) names) :
    Writes (renderAll scope (.line (.text opening :: .put e :: .text closing :: pieces) :: rest))
      ((value ++ suffix) :: names) := by
  refine writes_line (some (value ++ suffix)) (fun texts h => ?_) hrest
  obtain ⟨first, behind, hfirst, hbehind, rfl⟩ := mapM_cons_eq_ok_iff.mp h
  obtain ⟨second, ending, hsecond, hending, rfl⟩ := mapM_cons_eq_ok_iff.mp hbehind
  obtain ⟨third, others, hthird, -, rfl⟩ := mapM_cons_eq_ok_iff.mp hending
  simp only [Piece.render, hvalue] at hfirst hsecond hthird
  cases hfirst
  cases hsecond
  cases hthird
  have hline : String.join (opening :: value :: closing :: others) =
      "pub " ++ (kind ++ ((value ++ suffix) ++
        String.ofList (c :: (cs ++ (String.join others).toList)))) := by
    simp [hopening, hclosing, String.append_assoc, ← String.toList_inj]
  rw [hline]
  exact item?_declaration hkind hname hc

/-! ## Choices and loops -/

/-- Both ways of a choice declare the same items. -/
theorem writes_choose (names : List String)
    (hyes : test.test scope = .ok true → Writes (renderAll scope yes) names)
    (hno : test.test scope = .ok false → Writes (renderAll scope no) names)
    (hrest : Writes (renderAll scope rest) names') :
    Writes (renderAll scope (.choose test yes no :: rest)) (names ++ names') := by
  refine writes_cons (fun text h => ?_) hrest
  rw [Block.render] at h
  obtain ⟨b, hb, h⟩ := bind_eq_ok_iff.mp h
  cases b with
  | true => exact hyes hb text h
  | false => exact hno hb text h

/-- The test of a choice decides what is declared. -/
theorem writes_choose_of {b : Bool} {names₁ names₂ : List String} (htest : test.test scope = .ok b)
    (hyes : Writes (renderAll scope yes) names₁) (hno : Writes (renderAll scope no) names₂)
    (hrest : Writes (renderAll scope rest) names) :
    Writes (renderAll scope (.choose test yes no :: rest))
      ((if b then names₁ else names₂) ++ names) := by
  refine writes_choose _ (fun h => ?_) (fun h => ?_) hrest
  · rw [htest] at h
    cases h
    exact hyes
  · rw [htest] at h
    cases h
    exact hno

theorem writes_choose_last {b : Bool} {names₁ names₂ : List String}
    (htest : test.test scope = .ok b) (hyes : Writes (renderAll scope yes) names₁)
    (hno : Writes (renderAll scope no) names₂) :
    Writes (renderAll scope [.choose test yes no]) (if b then names₁ else names₂) := by
  simpa using writes_choose_of htest hyes hno writes_nil

theorem writes_each {item : String} (hbody : ∀ v, Writes (renderAll ((item, v) :: scope) blocks) [])
    (hrest : Writes (renderAll scope rest) names) :
    Writes (renderAll scope (.each item e blocks :: rest)) names := by
  have hloop : ∀ (values : List Value) texts,
      values.mapM (fun v => renderAll ((item, v) :: scope) blocks) = .ok texts →
        ∃ lines, String.join texts = unlines lines ∧ lines.filterMap item? = [] := by
    intro values
    induction values with
    | nil =>
      intro texts h
      cases h
      exact ⟨[], rfl, rfl⟩
    | cons v others ih =>
      intro texts h
      obtain ⟨first, behind, hfirst, hbehind, rfl⟩ := mapM_cons_eq_ok_iff.mp h
      obtain ⟨lines, rfl, hnames⟩ := hbody v first hfirst
      obtain ⟨lines', hlines', hnames'⟩ := ih behind hbehind
      refine ⟨lines ++ lines', ?_, ?_⟩
      · rw [String.join_cons, hlines', unlines_append]
      · rw [List.filterMap_append, hnames, hnames', List.append_nil]
  have hblock : Writes ((Block.each item e blocks).render scope) [] := by
    intro text h
    rw [Block.render] at h
    obtain ⟨values, -, h⟩ := bind_eq_ok_iff.mp h
    obtain ⟨texts, htexts, h⟩ := bind_eq_ok_iff.mp h
    cases h
    exact hloop values texts htexts
  exact writes_cons hblock hrest

end Wirework.Template
