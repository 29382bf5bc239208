import Wirework.Proofs.Json.Numeral
import Wirework.Proofs.Rust.Initializer

/-!
# Defaults fit their types

The type of a field and its initializer are made apart from each other, the one from the field's data
type, the other from its default. Main statement: what is written for the one fits what is written for
the other (`ofField_fits`). Expressions get types of their own first (`Typed`): a literal has the type
that its data type becomes (`typed_literal`), and so has the value of a field without a default
(`typed_zeroValue`). A text then shows what expression it was written for (`mark_text`), and the name
of a type never passes for an optional type (`text_ofDataType_ne`).
-/

namespace Wirework.Rust

variable {f : Field} {v : Setting} {t : DataType} {ty : Ty} {e : Expr} {i : Initializer}

/-! ## Expressions and their types -/

/-- The types that an expression can stand for a value of. -/
inductive Typed : Ty → Expr → Prop where
  | owned (s : String) : Typed .string (.owned s)
  | emptyString : Typed .string .emptyString
  | bool (b : Bool) : Typed .bool (.bool b)
  | i32 {n : Int} (low : -2147483648 ≤ n) (high : n ≤ 2147483647) : Typed .i32 (.int n)
  | i64 {n : Int} (low : -9223372036854775808 ≤ n) (high : n ≤ 9223372036854775807) :
      Typed .i64 (.int n)
  | f32 {x : Double} (h : x.isFinite = true) : Typed .f32 (.float x)
  | f64 {x : Double} (h : x.isFinite = true) : Typed .f64 (.float x)
  | zero32 : Typed .f32 .zeroFloat
  | zero64 : Typed .f64 .zeroFloat
  | uuid : Typed .uuid .freshUuid
  | vec (item : Ty) : Typed (.vec item) .emptyVec
  | fallback (ty : Ty) : Typed ty .fallback

theorem intLiteral_cases {bits : Nat} (h : intLiteral bits v = .ok e) :
    (∃ n, e = .int n ∧ fitsBits bits n = true) ∨ e = .fallback := by
  unfold intLiteral at h
  split at h
  · cases h
  · exact Or.inr (Except.ok.inj h).symm
  · split at h
    · rename_i whole _
      dsimp only at h
      by_cases hn : fitsBits bits (v.asInt?.getD whole) = true
      · rw [if_pos hn] at h
        exact Or.inl ⟨_, (Except.ok.inj h).symm, hn⟩
      · rw [if_neg hn] at h
        exact Or.inr (Except.ok.inj h).symm
    · exact Or.inr (Except.ok.inj h).symm

theorem floatLiteral_cases (h : floatLiteral v = .ok e) :
    (∃ x, e = .float x ∧ x.isFinite = true) ∨ e = .fallback := by
  unfold floatLiteral at h
  split at h
  · cases h
  · exact Or.inr (Except.ok.inj h).symm
  · rename_i x _
    by_cases hx : x.isFinite = true
    · rw [if_pos hx] at h
      exact Or.inl ⟨x, (Except.ok.inj h).symm, hx⟩
    · rw [if_neg hx] at h
      exact Or.inr (Except.ok.inj h).symm

theorem typed_i32 (h : intLiteral 32 v = .ok e) : Typed .i32 e := by
  rcases intLiteral_cases h with ⟨n, rfl, hn⟩ | rfl
  · rw [fitsBits, Bool.and_eq_true, decide_eq_true_eq, decide_eq_true_eq] at hn
    have hpow : ((Number.pow2 (32 - 1) : Nat) : Int) = 2147483648 := rfl
    rw [hpow] at hn
    exact Typed.i32 hn.1 (by omega)
  · exact Typed.fallback _

theorem typed_i64 (h : intLiteral 64 v = .ok e) : Typed .i64 e := by
  rcases intLiteral_cases h with ⟨n, rfl, hn⟩ | rfl
  · rw [fitsBits, Bool.and_eq_true, decide_eq_true_eq, decide_eq_true_eq] at hn
    have hpow : ((Number.pow2 (64 - 1) : Nat) : Int) = 9223372036854775808 := rfl
    rw [hpow] at hn
    exact Typed.i64 hn.1 (by omega)
  · exact Typed.fallback _

/-- A literal has the type that its data type becomes, one optional layer aside. -/
theorem typed_literal (h : literal v t = .ok e) : Typed (.ofDataType t.unwrapOptional) e := by
  unfold literal at h
  generalize t.unwrapOptional = t at h ⊢
  have hother : ∀ ty, (.ok .fallback : Except Failure Expr) = .ok e → Typed ty e := by
    intro ty heq
    cases heq
    exact Typed.fallback ty
  cases t with
  | scalar k s =>
    cases k with
    | string | text =>
      obtain ⟨text, -, rfl⟩ := exists_of_map_eq_ok h
      cases text with
      | none => exact Typed.fallback _
      | some s => exact Typed.owned s
    | bool =>
      cases v with
      | bool b =>
        cases h
        exact Typed.bool b
      | _ => exact hother _ h
    | int32 => exact typed_i32 h
    | int64 => exact typed_i64 h
    | float32 =>
      rcases floatLiteral_cases h with ⟨x, rfl, hx⟩ | rfl
      · exact Typed.f32 hx
      · exact Typed.fallback _
    | float64 =>
      rcases floatLiteral_cases h with ⟨x, rfl, hx⟩ | rfl
      · exact Typed.f64 hx
      · exact Typed.fallback _
    | _ => exact hother _ h
  | _ => exact hother _ h

theorem typed_zeroValue (t : DataType) : Typed (.ofDataType t) (zeroValue t.kind) := by
  cases t with
  | scalar k s =>
    cases k with
    | string | text => exact Typed.emptyString
    | int32 => exact Typed.i32 (by decide) (by decide)
    | int64 => exact Typed.i64 (by decide) (by decide)
    | float32 => exact Typed.zero32
    | float64 => exact Typed.zero64
    | bool => exact Typed.bool false
    | uuid => exact Typed.uuid
    | _ => exact Typed.fallback _
  | wrap k inner s =>
    cases k with
    | optional => exact Typed.fallback _
    | array => exact Typed.vec _
  | _ => exact Typed.fallback _

/-! ## Fields -/

def omittable (f : Field) : Bool := f.isOptionalInModel || f.dataType.isOptional

/-- A field that can be left out has one optional layer, and any other one has none. -/
theorem ofField_type (f : Field) :
    Ty.ofField f = if omittable f then .option (.ofDataType f.dataType.unwrapOptional)
      else .ofDataType f.dataType := by
  unfold Ty.ofField omittable
  cases hmodel : f.isOptionalInModel with
  | false =>
    cases ht : f.dataType with
    | wrap k inner s => cases k <;> rfl
    | _ => rfl
  | true =>
    cases ht : f.dataType with
    | wrap k inner s => cases k <;> rfl
    | _ => rfl

/-- A field that can be left out is left out or wrapped, and any other one is given as it is. -/
theorem ofField_cases (h : Initializer.ofField f = .ok i) :
    omittable f = true ∧ (i = .none ∨
        ∃ e, i = .some e ∧ Typed (.ofDataType f.dataType.unwrapOptional) e) ∨
      omittable f = false ∧ ∃ e, i = .bare e ∧ Typed (.ofDataType f.dataType) e := by
  have hplain : omittable f = false → f.dataType.unwrapOptional = f.dataType := by
    intro hf
    have hnot : f.dataType.isOptional = false := (Bool.or_eq_false_iff.mp hf).2
    cases ht : f.dataType with
    | wrap k inner s =>
      rw [ht] at hnot
      cases k with
      | optional => cases hnot
      | array => rfl
    | _ => rfl
  unfold Initializer.ofField at h
  have homit : (f.isOptionalInModel || f.dataType.isOptional) = omittable f := rfl
  rw [homit] at h
  cases hv : f.defaultValue.filter (!·.isNull) with
  | some v =>
    rw [hv] at h
    obtain ⟨e, he, heq⟩ := bind_eq_ok_iff.mp h
    cases hf : omittable f with
    | true =>
      rw [hf] at heq
      exact Or.inl ⟨rfl, Or.inr ⟨e, (Except.ok.inj heq).symm, typed_literal he⟩⟩
    | false =>
      rw [hf] at heq
      exact Or.inr ⟨rfl, e, (Except.ok.inj heq).symm, hplain hf ▸ typed_literal he⟩
  | none =>
    rw [hv] at h
    cases hf : omittable f with
    | true =>
      rw [hf] at h
      exact Or.inl ⟨rfl, Or.inl (Except.ok.inj h).symm⟩
    | false =>
      rw [hf] at h
      exact Or.inr ⟨rfl, _, (Except.ok.inj h).symm, typed_zeroValue _⟩

/-! ## Texts of expressions

The first character of an expression's text tells most expressions apart. Numbers are told apart by
their fraction or exponent, which every floating-point number has and no integer.
-/

/-- Whether a text begins as a number does. -/
def startsNumber (cs : List Char) : Bool := cs.head?.any fun c => c = '-' || c.isDigit

/-- Whether a text has a fraction or an exponent, read as a number. -/
def hasPoint (cs : List Char) : Bool := cs.any fun c => c = '.' || c = 'e'

/-- What tells the texts of expressions apart. -/
def mark (s : String) : Char :=
  if startsNumber s.toList then if hasPoint s.toList then '.' else '0'
  else s.toList.headD ' '

def Expr.mark : Expr → Char
  | .owned _ => '"'
  | .emptyString => 'S'
  | .bool b => if b then 't' else 'f'
  | .int _ => '0'
  | .float _ | .zeroFloat => '.'
  | .freshUuid => 'u'
  | .emptyVec => 'V'
  | .fallback => 'D'

def Expr.IsFinite (e : Expr) : Prop := ∀ x, e = .float x → x.isFinite = true

theorem Typed.isFinite (h : Typed ty e) : e.IsFinite := by
  rintro x rfl
  cases h <;> assumption

theorem not_point_of_isDigit {c : Char} (h : c.isDigit = true) :
    (c = '.' || c = 'e') = false := by
  by_contra hpoint
  rw [Bool.not_eq_false, Bool.or_eq_true, decide_eq_true_eq, decide_eq_true_eq] at hpoint
  rcases hpoint with rfl | rfl <;> exact absurd h (by decide)

theorem toList_toString (n : Int) : (toString n).toList =
    (if n < 0 then ['-'] else []) ++ Nat.toDigits 10 n.natAbs := by
  rw [Json.Numeral.toList_toString]
  simp [Json.Numeral.text, Json.Numeral.ofInt, Json.Numeral.fractionText,
    Json.Numeral.exponentText]

theorem mark_int (n : Int) : mark (toString n) = '0' := by
  have hdigits : ∀ c ∈ Nat.toDigits 10 n.natAbs, c.isDigit = true :=
    fun c hc => Json.isDigit_toDigits hc
  have hnil : Nat.toDigits 10 n.natAbs ≠ [] := Nat.toDigits_ne_nil
  obtain ⟨d, ds, hds⟩ := List.exists_cons_of_ne_nil hnil
  have hd : d.isDigit = true := hdigits d (by simp [hds])
  have hplain : hasPoint (Nat.toDigits 10 n.natAbs) = false :=
    List.any_eq_false.mpr fun c hc => Bool.eq_false_iff.mp (not_point_of_isDigit (hdigits c hc))
  have hstart : startsNumber (toString n).toList = true := by
    rw [toList_toString, hds]
    split <;> simp [startsNumber, hd]
  have hpoint : hasPoint (toString n).toList = false := by
    rw [toList_toString, hasPoint, List.any_append, ← hasPoint, ← hasPoint, hplain]
    split <;> rfl
  rw [mark, if_pos hstart, hpoint]
  rfl

/-- A written decimal begins with a digit and has a fraction or an exponent. -/
theorem writeDecimal_marked (l : Layout) (d : Decimal) :
    (∃ c rest, l.writeDecimal d = c :: rest ∧ c.isDigit = true) ∧
      hasPoint (l.writeDecimal d) = true := by
  obtain ⟨c, ds, hds⟩ := List.exists_cons_of_ne_nil
    (Nat.toDigits_ne_nil (n := d.digits) (b := 10))
  have hc : c.isDigit = true := Json.isDigit_toDigits (n := d.digits) (by rw [hds]; simp)
  unfold Layout.writeDecimal
  rw [hds]
  dsimp only
  split
  · unfold Layout.positional
    split
    · exact ⟨⟨'0', _, rfl, by decide⟩, by simp [hasPoint]⟩
    · dsimp only
      split
      · exact ⟨⟨c, _, rfl, hc⟩, by simp [hasPoint]⟩
      · refine ⟨⟨c, _, by rw [List.take_succ_cons]; rfl, hc⟩, by simp [hasPoint]⟩
  · unfold Layout.scientific
    exact ⟨⟨c, _, rfl, hc⟩, by simp [hasPoint]⟩

theorem mark_float {x : Double} (hx : x.isFinite = true) : mark (Layout.display.write x) = '.' := by
  cases x with
  | nan => cases hx
  | infinity negative => cases hx
  | finite negative m k hcanonical =>
    obtain ⟨⟨c, rest, htext, hc⟩, hpoint⟩ :=
      writeDecimal_marked Layout.display (Decimal.shortest m k)
    have hlist : (Layout.display.write (.finite negative m k hcanonical)).toList =
        (if negative then ['-'] else []) ++ Layout.display.writeDecimal (Decimal.shortest m k) :=
      String.toList_ofList
    have hstart : startsNumber (Layout.display.write (.finite negative m k hcanonical)).toList =
        true := by
      rw [hlist, htext]
      cases negative <;> simp [startsNumber, hc]
    have hpoints : hasPoint (Layout.display.write (.finite negative m k hcanonical)).toList =
        true := by
      rw [hlist, hasPoint, List.any_append, ← hasPoint, ← hasPoint, hpoint, Bool.or_true]
    rw [mark, if_pos hstart, if_pos hpoints]

theorem mark_text (h : e.IsFinite) : mark e.text = e.mark := by
  cases e with
  | owned s =>
    have htext : (Expr.owned s).text.toList =
        '"' :: (escape s.toList ++ ['"'] ++ ".to_string()".toList) := by
      simp [Expr.text, stringLiteral]
    rw [mark, htext]
    rfl
  | bool b => cases b <;> decide
  | int n => exact mark_int n
  | float x => exact mark_float (h x rfl)
  | _ => decide

theorem toString_int_inj {n k : Int} (h : (toString n : String) = toString k) : n = k := by
  have hlists := congrArg String.toList h
  rw [toList_toString, toList_toString] at hlists
  have hdash : ∀ (m : Int) (cs : List Char), Nat.toDigits 10 m.natAbs ≠ '-' :: cs := by
    intro m cs heq
    have hdigit : '-'.isDigit = true := Json.isDigit_toDigits (n := m.natAbs) (by simp [heq])
    exact absurd hdigit (by decide)
  have habs : Nat.toDigits 10 n.natAbs = Nat.toDigits 10 k.natAbs → n.natAbs = k.natAbs := by
    intro hdigits
    rw [← Json.natOf_toDigits n.natAbs, hdigits, Json.natOf_toDigits]
  by_cases hn : n < 0 <;> by_cases hk : k < 0 <;>
    simp only [hn, hk, if_true, if_false, List.nil_append, List.cons_append, List.cons.injEq,
      true_and] at hlists
  · have := habs hlists
    omega
  · exact absurd hlists.symm (hdash k _)
  · exact absurd hlists (hdash n _)
  · have := habs hlists
    omega

/-- What a text can be read as has the types of the expression that it was written for. -/
theorem Typed.of_text_eq (h : Typed ty e) (e' : Expr) (hfinite : e'.IsFinite)
    (htext : e.text = e'.text) : Typed ty e' := by
  have hmark : e.mark = e'.mark := by
    rw [← mark_text h.isFinite, htext, mark_text hfinite]
  cases h with
  | owned s | emptyString =>
    cases e' with
    | owned s' => exact Typed.owned s'
    | emptyString => exact Typed.emptyString
    | _ => grind [Expr.mark]
  | bool b =>
    cases e' with
    | bool b' => exact Typed.bool b'
    | _ => grind [Expr.mark]
  | i32 low high =>
    cases e' with
    | int n => exact toString_int_inj htext ▸ Typed.i32 low high
    | _ => grind [Expr.mark]
  | i64 low high =>
    cases e' with
    | int n => exact toString_int_inj htext ▸ Typed.i64 low high
    | _ => grind [Expr.mark]
  | f32 hx | zero32 =>
    cases e' with
    | float x => exact Typed.f32 (hfinite x rfl)
    | zeroFloat => exact Typed.zero32
    | _ => grind [Expr.mark]
  | f64 hx | zero64 =>
    cases e' with
    | float x => exact Typed.f64 (hfinite x rfl)
    | zeroFloat => exact Typed.zero64
    | _ => grind [Expr.mark]
  | uuid =>
    cases e' with
    | freshUuid => exact Typed.uuid
    | _ => grind [Expr.mark]
  | vec item =>
    cases e' with
    | emptyVec => exact Typed.vec item
    | _ => grind [Expr.mark]
  | fallback ty =>
    cases e' with
    | fallback => exact Typed.fallback ty
    | _ => grind [Expr.mark]

/-! ## What is written -/

/-- What is written for a value fits what is written for its type: each form of an expression stands
at the types of its values only, and there is no other form. -/
structure Fits (type expr : String) : Prop where
  text : (∃ s, expr = stringLiteral s ++ ".to_string()") ∨ expr = "String::new()" → type = "String"
  bool : expr = "true" ∨ expr = "false" → type = "bool"
  int (n : Int) : expr = toString n →
    type = "i32" ∧ -2147483648 ≤ n ∧ n ≤ 2147483647 ∨
      type = "i64" ∧ -9223372036854775808 ≤ n ∧ n ≤ 9223372036854775807
  float : (∃ x, x.isFinite = true ∧ expr = Layout.display.write x) → type = "f32" ∨ type = "f64"
  uuid : expr = "uuid::Uuid::new_v4()" → type = "uuid::Uuid"
  vec : expr = "Vec::new()" → ∃ item, type = "Vec<" ++ item ++ ">"
  forms : (∃ s, expr = stringLiteral s ++ ".to_string()") ∨ expr = "String::new()" ∨
    expr = "true" ∨ expr = "false" ∨ (∃ n : Int, expr = toString n) ∨
    (∃ x, x.isFinite = true ∧ expr = Layout.display.write x) ∨ expr = "uuid::Uuid::new_v4()" ∨
    expr = "Vec::new()" ∨ expr = "Default::default()"

theorem write_zero : Layout.display.write (.zero false) = "0.0" := by
  decide +kernel

theorem Typed.fits (h : Typed ty e) : Fits ty.text e.text where
  text htext := by
    rcases htext with ⟨s, hs⟩ | hs
    · cases h.of_text_eq (.owned s) (by rintro x ⟨⟩) hs with
      | owned => rfl
    · cases h.of_text_eq .emptyString (by rintro x ⟨⟩) hs with
      | emptyString => rfl
  bool htext := by
    rcases htext with hs | hs
    · cases h.of_text_eq (.bool true) (by rintro x ⟨⟩) hs with
      | bool => rfl
    · cases h.of_text_eq (.bool false) (by rintro x ⟨⟩) hs with
      | bool => rfl
  int n htext := by
    cases h.of_text_eq (.int n) (by rintro x ⟨⟩) htext with
    | i32 low high => exact Or.inl ⟨rfl, low, high⟩
    | i64 low high => exact Or.inr ⟨rfl, low, high⟩
  float htext := by
    obtain ⟨x, hx, htext⟩ := htext
    cases h.of_text_eq (.float x) (by rintro y ⟨⟩; exact hx) htext with
    | f32 => exact Or.inl rfl
    | f64 => exact Or.inr rfl
  uuid htext := by
    cases h.of_text_eq .freshUuid (by rintro x ⟨⟩) htext with
    | uuid => rfl
  vec htext := by
    cases h.of_text_eq .emptyVec (by rintro x ⟨⟩) htext with
    | vec item => exact ⟨item.text, rfl⟩
  forms := by
    cases h with
    | owned s => exact Or.inl ⟨s, rfl⟩
    | emptyString => exact Or.inr (Or.inl rfl)
    | bool b =>
      cases b with
      | true => exact Or.inr (Or.inr (Or.inl rfl))
      | false => exact Or.inr (Or.inr (Or.inr (Or.inl rfl)))
    | i32 | i64 => exact Or.inr (Or.inr (Or.inr (Or.inr (Or.inl ⟨_, rfl⟩))))
    | f32 hx | f64 hx =>
      exact Or.inr (Or.inr (Or.inr (Or.inr (Or.inr (Or.inl ⟨_, hx, rfl⟩)))))
    | zero32 | zero64 =>
      exact Or.inr (Or.inr (Or.inr (Or.inr (Or.inr (Or.inl ⟨_, rfl, write_zero.symm⟩)))))
    | uuid => simp [Expr.text]
    | vec => simp [Expr.text]
    | fallback => simp [Expr.text]

/-! ## Optional types

Only an optional type begins as one does, but for the name of a type in the project, which has no
angle bracket.
-/

theorem toUpper_ne_angle {c : Char} (h : c.isAlphanum = true) : c.toUpper ≠ '<' := by
  intro hupper
  unfold Char.toUpper at hupper
  split at hupper
  · rename_i hlower
    have hval : c.val + 4294967264 = 60 := by simpa using congrArg Char.val hupper
    grind
  · rw [hupper] at h
    exact absurd h (by decide)

theorem notMem_capitalize (start : Bool) (cs : List Char) :
    '<' ∉ Naming.capitalize start cs := by
  induction cs generalizing start with
  | nil => exact List.not_mem_nil
  | cons c rest ih =>
    rw [Naming.capitalize]
    split
    · rename_i hc
      refine List.not_mem_cons_of_ne_of_not_mem ?_ (ih false)
      split
      · exact (toUpper_ne_angle hc).symm
      · rintro rfl
        exact absurd hc (by decide)
    · exact ih true

theorem toList_option (inner : String) : ("Option<" ++ inner ++ ">").toList =
    'O' :: 'p' :: 't' :: 'i' :: 'o' :: 'n' :: '<' :: (inner.toList ++ ['>']) := by
  simp

theorem head_append {s : String} {c : Char} (h : s.toList.head? = some c) (rest : String) :
    (s ++ rest).toList.head? = some c := by
  rw [String.toList_append, List.head?_append, h, Option.some_or]

/-- The types of the language begin in their own ways. -/
theorem head_text (hoption : ty.isOption = false) (hname : ∀ s, ty ≠ .named s) :
    ty.text.toList.head? ≠ some 'O' := by
  cases ty with
  | option inner => cases hoption
  | named s => exact absurd rfl (hname s)
  | vec item =>
    have hhead : ("Vec<" ++ item.text ++ ">").toList.head? = some 'V' :=
      head_append (head_append (by decide) _) _
    exact fun heq => absurd (hhead.symm.trans heq) (by decide)
  | hashMap key value =>
    have hhead : ("std::collections::HashMap<" ++ key.text ++ ", " ++ value.text ++
        ">").toList.head? = some 's' :=
      head_append (head_append (head_append (head_append (by decide) _) _) _) _
    exact fun heq => absurd (hhead.symm.trans heq) (by decide)
  | _ => decide

theorem ne_option_of_head {s : String} (h : s.toList.head? ≠ some 'O') (inner : String) :
    s ≠ "Option<" ++ inner ++ ">" := by
  rintro rfl
  rw [toList_option] at h
  exact h rfl

theorem text_ofName_ne (s inner : String) : (Ty.ofName s).text ≠ "Option<" ++ inner ++ ">" := by
  unfold Ty.ofName
  dsimp only
  split
  · exact ne_option_of_head (by decide) inner
  · intro heq
    have hmem : '<' ∈ (Naming.pascal s).toList := by
      rw [show Naming.pascal s = _ from heq, toList_option]
      simp
    rw [Naming.pascal, String.toList_ofList] at hmem
    exact notMem_capitalize true _ hmem

/-- No other type is written as an optional one. -/
theorem text_ofDataType_ne (h : t.isOptional = false) (inner : String) :
    (Ty.ofDataType t).text ≠ "Option<" ++ inner ++ ">" := by
  cases t with
  | scalar k s =>
    cases k <;> exact ne_option_of_head (head_text rfl (by rintro s ⟨⟩)) inner
  | wrap k item s =>
    cases k with
    | optional => cases h
    | array => exact ne_option_of_head (head_text rfl (by rintro s ⟨⟩)) inner
  | map key value s => exact ne_option_of_head (head_text rfl (by rintro s ⟨⟩)) inner
  | named k name s =>
    cases k with
    | reference => exact ne_option_of_head (head_text rfl (by rintro s ⟨⟩)) inner
    | entity => exact text_ofName_ne name inner
  | custom _ name s => exact text_ofName_ne name inner

/-! ## Fields as they are written -/

theorem text_option (inner : Ty) : (Ty.option inner).text = "Option<" ++ inner.text ++ ">" := rfl

theorem option_inj {a b : String} : "Option<" ++ a ++ ">" = "Option<" ++ b ++ ">" ↔ a = b := by
  rw [String.append_left_inj, String.append_right_inj]

theorem some_inj {a b : String} : "Some(" ++ a ++ ")" = "Some(" ++ b ++ ")" ↔ a = b := by
  rw [String.append_left_inj, String.append_right_inj]

theorem toList_some (e : String) : ("Some(" ++ e ++ ")").toList =
    'S' :: 'o' :: 'm' :: 'e' :: '(' :: (e.toList ++ [')']) := by
  simp

theorem none_ne_some (e : String) : "None" ≠ "Some(" ++ e ++ ")" := by
  intro h
  have hlists := congrArg String.toList h
  rw [toList_some] at hlists
  have hhead : some 'N' = some 'S' := congrArg List.head? hlists
  exact absurd hhead (by decide)

/-- An expression is not written as the initializer of a field that can be left out. -/
theorem Typed.text_ne (h : Typed ty e) :
    e.text ≠ "None" ∧ ∀ inner, e.text ≠ "Some(" ++ inner ++ ")" := by
  have hmark := mark_text h.isFinite
  constructor
  · intro heq
    rw [heq] at hmark
    have hnone : mark "None" = 'N' := by decide
    cases e <;> grind [Expr.mark]
  · intro inner heq
    have hsome : mark ("Some(" ++ inner ++ ")") = 'S' := by
      rw [mark, toList_some]
      rfl
    rw [heq, hsome] at hmark
    -- an empty string begins with the same letter and goes on with another
    have hempty : e = .emptyString := by
      cases e <;> grind [Expr.mark]
    rw [hempty] at heq
    have hlists := congrArg String.toList heq
    rw [toList_some] at hlists
    have hnext : some 't' = some 'o' := congrArg (·[1]?) hlists
    exact absurd hnext (by decide)

/-- A field's type is an optional one exactly if its initializer is left out or wrapped, and what is
written for its value fits the type without that layer. -/
theorem ofField_fits (h : Initializer.ofField f = .ok i) :
    ((i.text = "None" ∨ ∃ expr, i.text = "Some(" ++ expr ++ ")") ↔
      ∃ type, (Ty.ofField f).text = "Option<" ++ type ++ ">") ∧
    (∀ type expr, (Ty.ofField f).text = "Option<" ++ type ++ ">" →
      i.text = "Some(" ++ expr ++ ")" → Fits type expr) ∧
    ((∀ type, (Ty.ofField f).text ≠ "Option<" ++ type ++ ">") →
      Fits (Ty.ofField f).text i.text) := by
  rcases ofField_cases h with ⟨hf, hi⟩ | ⟨hf, e, rfl, he⟩
  · have htype : (Ty.ofField f).text =
        "Option<" ++ (Ty.ofDataType f.dataType.unwrapOptional).text ++ ">" := by
      rw [ofField_type, if_pos hf, text_option]
    refine ⟨⟨fun _ => ⟨_, htype⟩, fun _ => ?_⟩, ?_, fun hne => absurd htype (hne _)⟩
    · rcases hi with rfl | ⟨e, rfl, -⟩
      · exact Or.inl rfl
      · exact Or.inr ⟨e.text, rfl⟩
    · intro type expr heq hexpr
      rw [htype, option_inj] at heq
      subst heq
      rcases hi with rfl | ⟨e, rfl, he⟩
      · exact absurd hexpr (none_ne_some expr)
      · rw [← some_inj.mp hexpr]
        exact he.fits
  · have htype : Ty.ofField f = .ofDataType f.dataType := by
      rw [ofField_type, hf]
      rfl
    have hne := text_ofDataType_ne (Bool.or_eq_false_iff.mp hf).2
    rw [htype]
    refine ⟨⟨?_, ?_⟩, fun type _ heq => absurd heq (hne type), fun _ => he.fits⟩
    · rintro (htext | ⟨expr, htext⟩)
      · exact absurd htext he.text_ne.1
      · exact absurd htext (he.text_ne.2 expr)
    · rintro ⟨type, heq⟩
      exact absurd heq (hne type)

/-- A field that can be left out, with the least integer of its type as its default. -/
def leastByDefault : Field where
  id := "balance"
  name := "balance"
  dataType := .ofScalar .int64
  defaultValue := some (.int (-9223372036854775808))

theorem ofField_fits_leastByDefault :
    Initializer.ofField leastByDefault = .ok (.some (.int (-9223372036854775808))) ∧
      (Ty.ofField leastByDefault).text = "Option<i64>" ∧ Fits "i64" "-9223372036854775808" := by
  have hfield : Initializer.ofField leastByDefault = .ok (.some (.int (-9223372036854775808))) := by
    rfl
  exact ⟨hfield, by decide, (ofField_fits hfield).2.1 _ _ (by decide) (by decide)⟩

end Wirework.Rust
