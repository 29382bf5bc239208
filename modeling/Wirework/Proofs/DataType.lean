import Wirework.Project.DataType

/-!
# Compatible types as a preorder

`any` and optional types take part in flows that do not compose: a text flows into `any` and `any`
into a number. Apart from these the rules compose. They are read off as an inductive relation
(`Flows`), which agrees with the check on types that are neither at their core nor on the way to it
(`flowsInto_iff`). Main statement: on such types compatibility is a preorder, and types that are
compatible both ways are equal or name one entity inside as many arrays (`flowsInto_preorder`).
-/

namespace Wirework.DataType

variable {a b c t : DataType}

/-! ## Plain types -/

/-- Types made by the constructors, in which no part is filled in that the kind does not use. -/
inductive Built : DataType → Prop where
  | scalar (kind : Scalar) : Built (ofScalar kind)
  | optional {inner : DataType} (h : Built inner) : Built (optional inner)
  | array {inner : DataType} (h : Built inner) : Built (array inner)
  | map {key value : DataType} (hkey : Built key) (hvalue : Built value) : Built (mapOf key value)
  | reference (name : String) : Built (reference name)
  | entity (name : String) : Built (entity name)
  | custom (domain name : String) : Built (customOf domain name)

/-- Neither the type nor, where it is an array, an element inside it is `any` or optional. -/
def Rigid : DataType → Prop
  | .wrap .array inner _ => inner.Rigid
  | .wrap .optional _ _ => False
  | .scalar kind _ => kind ≠ .any
  | _ => True

/-- A type as the constructors make it, rigid down to the elements of its arrays. -/
structure Plain (t : DataType) : Prop where
  built : t.Built
  rigid : t.Rigid

theorem Rigid.isAny_eq_false (h : t.Rigid) : t.isAny = false := by
  cases t with
  | scalar k _ => exact decide_eq_false fun hk => h (Kind.scalar.inj hk)
  | _ => rfl

theorem Built.inner {s : Surplus} {k : Wrapper} (h : Built (.wrap k t s)) : Built t ∧ s = .none := by
  cases h with
  | optional h => exact ⟨h, rfl⟩
  | array h => exact ⟨h, rfl⟩

theorem Built.surplus_named {s : Surplus} {k : Naming} {name : String}
    (h : Built (.named k name s)) : s = .none := by
  cases h <;> rfl

/-! ## The rules as a relation -/

/-- The rules for types other than `any` and optional ones. -/
inductive Flows : DataType → DataType → Prop where
  | refl (t : DataType) : Flows t t
  | array {a b : DataType} {s s' : Surplus} (h : Flows a b) :
      Flows (.wrap .array a s) (.wrap .array b s')
  | named {k k' : Naming} (name : String) {s s' : Surplus} :
      Flows (.named k name s) (.named k' name s')
  | widen {a b : DataType} (h : widens a.kind b.kind = true) : Flows a b

@[simp] theorem flowsInto_self (t : DataType) : t.flowsInto t = true := by
  unfold flowsInto
  simp only [if_true, ite_self]

/-- Arrays flow as their elements do, whatever these are. -/
theorem flowsInto_array (a b : DataType) (s s' : Surplus) :
    flowsInto (.wrap .array a s) (.wrap .array b s') = a.flowsInto b := by
  have hany : ∀ (t : DataType) (s : Surplus), isAny (.wrap .array t s) = false := fun _ _ => rfl
  by_cases heq : DataType.wrap .array a s = .wrap .array b s'
  · cases heq
    rw [flowsInto_self, flowsInto_self]
  · rw [flowsInto, hany, hany, if_neg heq]
    rfl

/-- The table of lossless conversions. -/
theorem widens_cases {k k' : Kind} (h : widens k k' = true) :
    k = .scalar .int32 ∧ k' = .scalar .int64 ∨ k = .scalar .float32 ∧ k' = .scalar .float64 ∨
      k = .scalar .int32 ∧ k' = .scalar .float64 ∨ k = .scalar .int64 ∧ k' = .scalar .float64 := by
  unfold widens at h
  split at h
  · exact Or.inl ⟨rfl, rfl⟩
  · exact Or.inr (Or.inl ⟨rfl, rfl⟩)
  · exact Or.inr (Or.inr (Or.inl ⟨rfl, rfl⟩))
  · exact Or.inr (Or.inr (Or.inr ⟨rfl, rfl⟩))
  · cases h

theorem widens_trans {k k' k'' : Kind} (h : widens k k' = true) (h' : widens k' k'' = true) :
    widens k k'' = true := by
  rcases widens_cases h with ⟨rfl, rfl⟩ | ⟨rfl, rfl⟩ | ⟨rfl, rfl⟩ | ⟨rfl, rfl⟩ <;>
    rcases widens_cases h' with ⟨hk, rfl⟩ | ⟨hk, rfl⟩ | ⟨hk, rfl⟩ | ⟨hk, rfl⟩ <;>
    first | rfl | cases hk

theorem not_widens_back {k k' : Kind} (h : widens k k' = true) : ¬ widens k' k = true := by
  rcases widens_cases h with ⟨rfl, rfl⟩ | ⟨rfl, rfl⟩ | ⟨rfl, rfl⟩ | ⟨rfl, rfl⟩ <;> decide

theorem flowsInto_named {k k' : Naming} (name : String) {s s' : Surplus} :
    flowsInto (.named k name s) (.named k' name s') = true := by
  by_cases heq : DataType.named k name s = .named k' name s'
  · cases heq
    exact flowsInto_self _
  · rw [flowsInto, if_neg heq]
    simp [isAny, kind]

theorem flowsInto_of_widens (h : widens a.kind b.kind = true) : a.flowsInto b = true := by
  have hscalar : ∀ {t : DataType} {k : Scalar}, t.kind = .scalar k → ∃ s, t = .scalar k s := by
    intro t k hk
    cases t <;> cases hk
    exact ⟨_, rfl⟩
  rcases widens_cases h with ⟨hka, hkb⟩ | ⟨hka, hkb⟩ | ⟨hka, hkb⟩ | ⟨hka, hkb⟩ <;>
  · obtain ⟨s, rfl⟩ := hscalar hka
    obtain ⟨s', rfl⟩ := hscalar hkb
    simp [flowsInto, isAny, kind, widens]

/-- On rigid types the rules are what is checked. -/
theorem flowsInto_iff (ha : a.Rigid) (hb : b.Rigid) : a.flowsInto b = true ↔ Flows a b := by
  constructor
  · intro h
    fun_induction flowsInto a b with
    | case1 _ _ hany =>
      rw [ha.isAny_eq_false, hb.isAny_eq_false] at hany
      cases hany
    | case2 t => exact Flows.refl t
    | case3 => exact absurd ha id
    | case4 _ _ _ _ _ _ ih => exact Flows.array (ih ha hb h)
    | case5 =>
      obtain rfl := of_decide_eq_true h
      exact Flows.named _
    | case6 => exact Flows.widen h
  · intro h
    induction h with
    | refl t => exact flowsInto_self t
    | array _ ih =>
      rw [flowsInto_array]
      exact ih ha hb
    | named name => exact flowsInto_named name
    | widen h => exact flowsInto_of_widens h

theorem Flows.trans (hab : Flows a b) (hbc : Flows b c) : Flows a c := by
  induction hab generalizing c with
  | refl _ => exact hbc
  | array hab ih =>
    cases hbc with
    | refl _ => exact Flows.array hab
    | array hbc => exact Flows.array (ih hbc)
    | widen h => cases h
  | named name =>
    cases hbc with
    | refl _ => exact Flows.named name
    | named _ => exact Flows.named name
    | widen h => cases h
  | widen h =>
    cases hbc with
    | refl _ => exact Flows.widen h
    | array _ => rcases widens_cases h with ⟨-, hk⟩ | ⟨-, hk⟩ | ⟨-, hk⟩ | ⟨-, hk⟩ <;> cases hk
    | named _ => rcases widens_cases h with ⟨-, hk⟩ | ⟨-, hk⟩ | ⟨-, hk⟩ | ⟨-, hk⟩ <;> cases hk
    | widen h' => exact Flows.widen (widens_trans h h')

/-! ## Compatible both ways -/

def inArrays : Nat → DataType → DataType
  | 0, t => t
  | layers + 1, t => array (inArrays layers t)

/-- Two types name one entity, by reference or as such, inside as many arrays. -/
def NameAlike (a b : DataType) : Prop :=
  ∃ layers name, ∃ k k' : Naming,
    a = inArrays layers (.named k name .none) ∧ b = inArrays layers (.named k' name .none)

theorem flows_inArrays (layers : Nat) (h : Flows a b) :
    Flows (inArrays layers a) (inArrays layers b) := by
  induction layers with
  | zero => exact h
  | succ layers ih => exact Flows.array ih

theorem flows_both_iff (ha : a.Built) (hb : b.Built) :
    Flows a b ∧ Flows b a ↔ a = b ∨ NameAlike a b := by
  constructor
  · rintro ⟨hab, hba⟩
    induction hab with
    | refl _ => exact Or.inl rfl
    | array hab ih =>
      obtain ⟨ha', rfl⟩ := ha.inner
      obtain ⟨hb', rfl⟩ := hb.inner
      cases hba with
      | refl _ => exact Or.inl rfl
      | widen h => cases h
      | array hba =>
        rcases ih ha' hb' hba with rfl | ⟨layers, name, k, k', rfl, rfl⟩
        · exact Or.inl rfl
        · exact Or.inr ⟨layers + 1, name, k, k', rfl, rfl⟩
    | named name =>
      obtain rfl := ha.surplus_named
      obtain rfl := hb.surplus_named
      exact Or.inr ⟨0, name, _, _, rfl, rfl⟩
    | widen h =>
      cases hba with
      | refl _ => exact Or.inl rfl
      | array _ => cases h
      | named _ => cases h
      | widen h' => exact absurd h' (not_widens_back h)
  · rintro (rfl | ⟨layers, name, k, k', rfl, rfl⟩)
    · exact ⟨Flows.refl a, Flows.refl a⟩
    · exact ⟨flows_inArrays layers (Flows.named name), flows_inArrays layers (Flows.named name)⟩

/-- **Compatibility of plain types is a preorder.** Every plain type flows into itself, flows compose,
and two of them flow both ways exactly if they are equal or name one entity inside as many arrays.
Arrays of any types whatever flow as their elements do. -/
theorem flowsInto_preorder :
    (∀ a, Plain a → a.flowsInto a = true) ∧
      (∀ a b c, Plain a → Plain b → Plain c → a.flowsInto b = true → b.flowsInto c = true →
        a.flowsInto c = true) ∧
      (∀ a b, Plain a → Plain b →
        (a.flowsInto b = true ∧ b.flowsInto a = true ↔ a = b ∨ NameAlike a b)) ∧
      ∀ a b, (array a).flowsInto (array b) = a.flowsInto b := by
  refine ⟨fun a _ => flowsInto_self a, fun a b c ha hb hc hab hbc => ?_, fun a b ha hb => ?_,
    fun a b => flowsInto_array a b .none .none⟩
  · rw [flowsInto_iff ha.rigid hb.rigid] at hab
    rw [flowsInto_iff hb.rigid hc.rigid] at hbc
    exact (flowsInto_iff ha.rigid hc.rigid).mpr (hab.trans hbc)
  · rw [flowsInto_iff ha.rigid hb.rigid, flowsInto_iff hb.rigid ha.rigid]
    exact flows_both_iff ha.built hb.built

/-- Lists of small integers flow into lists of large ones and so into lists of floating-point numbers;
lists of users and of references to users flow both ways. -/
theorem flowsInto_preorder_lists :
    (array (ofScalar .int32)).flowsInto (array (ofScalar .float64)) = true ∧
      ((array (entity "User")).flowsInto (array (reference "User")) = true ∧
        (array (reference "User")).flowsInto (array (entity "User")) = true) := by
  obtain ⟨-, htrans, hboth, -⟩ := flowsInto_preorder
  have hscalar : ∀ k : Scalar, k ≠ .any → Plain (array (ofScalar k)) := fun k hk =>
    ⟨.array (.scalar k), hk⟩
  constructor
  · exact htrans _ (array (ofScalar .int64)) _ (hscalar .int32 (by decide))
      (hscalar .int64 (by decide)) (hscalar .float64 (by decide)) (by decide) (by decide)
  · exact (hboth (array (entity "User")) (array (reference "User")) ⟨.array (.entity "User"), trivial⟩
      ⟨.array (.reference "User"), trivial⟩).mpr
        (Or.inr ⟨1, "User", .entity, .reference, rfl, rfl⟩)

end Wirework.DataType
