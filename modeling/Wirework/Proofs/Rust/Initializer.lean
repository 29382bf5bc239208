import Wirework.Proofs.Except
import Wirework.Proofs.Number.Range
import Wirework.Rust.Basic

/-!
# Initializers that cannot be written

A default becomes a literal by way of the nearest floating-point number where the type is one of
numbers, and by way of its digits where it is one of texts. So an initializer fails for an integer
that has no such number or too many digits, even though such an integer fits into no integer type and
would otherwise be left to the type's own default.
-/

namespace Wirework

/-- The types whose literals are written by way of a number. -/
def DataType.Kind.isNumber (k : DataType.Kind) : Bool :=
  match k with
  | .scalar .int32 | .scalar .int64 | .scalar .float32 | .scalar .float64 => true
  | _ => false

def DataType.Kind.isText (k : DataType.Kind) : Bool :=
  match k with
  | .scalar .string | .scalar .text => true
  | _ => false

/-- An integer is too large for a type: beyond the range of floating-point numbers for one of
numbers, or of too many digits for one of texts. -/
def DataType.Kind.Exceeded (k : DataType.Kind) (n : Int) : Prop :=
  k.isNumber = true ∧ Double.limit ≤ n.natAbs ∨ k.isText = true ∧ Number.isShort n = false

/-- The default of the field is an integer that is too large for its type. -/
def Field.Overflows (f : Field) : Prop :=
  ∃ n, f.defaultValue = some (.int n) ∧ f.dataType.unwrapOptional.kind.Exceeded n

theorem Setting.asNumber_eq_tooLarge_iff {v : Setting} :
    v.asNumber = .tooLarge ↔ ∃ n, v = .int n ∧ Double.limit ≤ n.natAbs := by
  cases v with
  | int n =>
    simp only [asNumber, int.injEq, exists_eq_left', ← Double.ofInt?_eq_none_iff]
    cases Double.ofInt? n <;> simp
  | _ => simp [asNumber]

namespace Rust

variable {v : Setting} {bits : Nat} {t : DataType} {f : Field}

theorem intLiteral_isOk_iff : (∃ e, intLiteral bits v = .ok e) ↔ v.asNumber ≠ .tooLarge := by
  unfold intLiteral
  cases v.asNumber with
  | tooLarge => simp
  | none => simp
  | number x =>
    cases hn : x.toInt? <;> simp [hn]

theorem floatLiteral_isOk_iff : (∃ e, floatLiteral v = .ok e) ↔ v.asNumber ≠ .tooLarge := by
  unfold floatLiteral
  cases v.asNumber <;> simp

theorem scalarText?_isOk_iff :
    (∃ s, scalarText? v = .ok s) ↔ ¬∃ n, v = .int n ∧ Number.isShort n = false := by
  cases v with
  | int n => cases h : Number.isShort n <;> simp [scalarText?, Number.decimal?, h]
  | _ => simp [scalarText?]

/-- A setting can be written as a value of a type unless it is an integer too large for it. -/
theorem literal_isOk_iff : (∃ e, literal v t = .ok e) ↔
    ¬∃ n, v = .int n ∧ t.unwrapOptional.kind.Exceeded n := by
  unfold literal DataType.Kind.Exceeded DataType.Kind.isNumber DataType.Kind.isText
  cases t.unwrapOptional.kind with
  | scalar k =>
    cases k <;> simp [intLiteral_isOk_iff, floatLiteral_isOk_iff, Setting.asNumber_eq_tooLarge_iff,
      map_isOk_iff, scalarText?_isOk_iff]
  | _ => simp

/-- The initializer of a field can be written unless its default is too large for its type. -/
theorem ofField_isOk_iff : (∃ i, Initializer.ofField f = .ok i) ↔ ¬ f.Overflows := by
  unfold Initializer.ofField Field.Overflows
  cases hv : f.defaultValue with
  | none => simp [pure, Except.pure]
  | some v =>
    by_cases hnull : v.isNull = true
    · have hint : ∀ n, v ≠ .int n := by
        rintro n rfl
        cases hnull
      simp [Option.filter_some, hnull, hint, pure, Except.pure]
    · have hliteral := literal_isOk_iff (v := v) (t := f.dataType)
      simp only [Option.filter_some, hnull, Bool.not_false, if_true, bind_eq_ok_iff,
        Option.some.injEq, ← hliteral]
      constructor
      · rintro ⟨i, e, he, -⟩
        exact ⟨e, he⟩
      · rintro ⟨e, he⟩
        exact ⟨_, e, he, rfl⟩

end Rust

end Wirework
