import Wirework.Proofs.Number.Rounding
import Wirework.Proofs.Rust.Defaults

/-!
# Integers that settings stand for

The literal of a signed word passes by way of a floating-point number: the setting's own, or the one
that its integer rounds to. That number is only asked whether it is whole. Main statement: the literal
is an integer exactly if the setting stands for that integer without rounding and the integer fits
into the word, and otherwise there is none (`literal_integer_iff`). Two facts about numbers carry it.
`toInt?` finds the integers among the exact values (`toInt?_eq_some_iff`), and an integer rounds to a
whole number, however large it is, so the question never turns one away (`toInt?_isSome_of_ofInt?`).
-/

namespace Wirework

/-! ## Whole numbers -/

namespace Double

variable {x : Double} {m num : Nat} {e n : Int} {negative : Bool}

def rational? : Double → Option ℚ
  | .finite negative m e _ => some ((if negative then -1 else 1) * (m * 2 ^ e))
  | _ => none

/-- A mantissa is shifted to a natural number if no bit is lost. -/
theorem shift_eq_some_iff {k : Nat} :
    (if 0 ≤ e then some (m <<< e.toNat)
      else if m % Number.pow2 e.natAbs = 0 then some (m >>> e.natAbs) else none) = some k ↔
      (m : ℚ) * 2 ^ e = k := by
  by_cases he : 0 ≤ e
  · obtain ⟨i, rfl⟩ := Int.eq_ofNat_of_zero_le he
    rw [if_pos he, Int.toNat_natCast, Nat.shiftLeft_eq, Option.some.injEq, zpow_natCast]
    exact_mod_cast Iff.rfl
  · obtain ⟨i, rfl⟩ : ∃ i : Nat, e = -i := ⟨e.natAbs, by omega⟩
    have hpos : 0 < 2 ^ i := Nat.two_pow_pos i
    have hvalue : (m : ℚ) * 2 ^ (-(i : Int)) = k ↔ m = k * 2 ^ i := by
      rw [zpow_neg, zpow_natCast, ← div_eq_mul_inv, div_eq_iff (by positivity)]
      exact_mod_cast Iff.rfl
    rw [if_neg he, Int.natAbs_neg, Int.natAbs_natCast, hvalue]
    by_cases hdvd : m % Number.pow2 i = 0
    · rw [if_pos hdvd, Nat.shiftRight_eq_div_pow, Option.some.injEq,
        Nat.div_eq_iff_eq_mul_left hpos (Nat.dvd_of_mod_eq_zero hdvd)]
    · rw [if_neg hdvd]
      refine ⟨nofun, ?_⟩
      rintro rfl
      exact absurd (Nat.mul_mod_left k _) hdvd

theorem toInt?_finite (hc : Canonical m e) :
    (Double.finite negative m e hc).toInt? =
      (if 0 ≤ e then some (m <<< e.toNat)
        else if m % Number.pow2 e.natAbs = 0 then some (m >>> e.natAbs) else none).map
        (Number.signed negative) := by
  simp only [toInt?]
  generalize (if 0 ≤ e then some (m <<< e.toNat) else _) = magnitude
  cases magnitude <;> rfl

theorem toInt?_eq_some_iff : x.toInt? = some n ↔ x.rational? = some (n : ℚ) := by
  cases x with
  | nan => simp [toInt?, rational?]
  | infinity negative => simp [toInt?, rational?]
  | finite negative m e hc =>
    have hnonneg : (0 : ℚ) ≤ m * 2 ^ e := by positivity
    simp only [toInt?_finite, rational?, Option.map_eq_some_iff, shift_eq_some_iff,
      Option.some.injEq, Number.signed]
    constructor
    · rintro ⟨k, hk, rfl⟩
      rw [hk]
      cases negative <;> simp
    · -- The magnitude is not negative, so it is the absolute value of the integer.
      intro hn
      refine ⟨n.natAbs, ?_, ?_⟩
      · rw [Nat.cast_natAbs, Int.cast_abs, ← hn, abs_mul, abs_of_nonneg hnonneg]
        cases negative <;> simp
      · cases negative with
        | false =>
          rw [if_neg Bool.false_ne_true, one_mul] at hn
          have hle : 0 ≤ n := by exact_mod_cast hn ▸ hnonneg
          simp [abs_of_nonneg hle]
        | true =>
          rw [if_pos rfl, neg_one_mul] at hn
          have hle : n ≤ 0 := by exact_mod_cast (hn ▸ neg_nonpos.mpr hnonneg : (n : ℚ) ≤ 0)
          simp [abs_of_nonpos hle]

theorem roundDiv_one (num : Nat) : roundDiv num 1 = num := by
  simp [roundDiv, Nat.mod_one]

theorem toInt?_ofParts (h : 0 ≤ e ∨ 2 ^ e.natAbs ∣ m)
    (hfinite : (ofParts negative m e).isFinite = true) :
    ((ofParts negative m e).toInt?).isSome = true := by
  have hc : Canonical m e := by simpa [isFinite_ofParts] using hfinite
  rw [ofParts_of_canonical hc, toInt?_finite, Option.isSome_map]
  by_cases he : 0 ≤ e
  · rw [if_pos he]
    rfl
  · have hmod : m % Number.pow2 e.natAbs = 0 := Nat.mod_eq_zero_of_dvd (h.resolve_left he)
    rw [if_neg he, if_pos hmod]
    rfl

/-- A natural number is not rounded at a negative exponent, and stays whole at any other. -/
theorem toInt?_ofRatio_one (hfinite : (ofRatio negative num 1).isFinite = true) :
    ((ofRatio negative num 1).toInt?).isSome = true := by
  unfold ofRatio at hfinite ⊢
  by_cases hnum : num = 0
  · rw [if_pos hnum, zero, toInt?_finite, if_neg (by decide), if_pos (Nat.zero_mod _)]
    rfl
  · simp only [if_neg hnum] at hfinite ⊢
    generalize exponentFor num 1 = e at *
    by_cases he : e < 0
    · simp only [scaled, if_pos he, roundDiv_one, Nat.shiftLeft_eq] at hfinite ⊢
      by_cases hround : num * 2 ^ e.natAbs = Number.pow2 53
      · -- Halving the mantissa takes away one of the factors that the shift has put there.
        have hhalf : Number.pow2 52 = num * 2 ^ (e + 1).natAbs := by
          have hexp : e.natAbs = (e + 1).natAbs + 1 := by omega
          rw [hexp, Nat.pow_succ, ← Nat.mul_assoc] at hround
          exact Nat.eq_of_mul_eq_mul_right (by decide : 0 < 2) (hround.symm ▸ rfl)
        rw [if_pos hround] at hfinite ⊢
        exact toInt?_ofParts (Or.inr (hhalf ▸ Nat.dvd_mul_left _ _)) hfinite
      · rw [if_neg hround] at hfinite ⊢
        exact toInt?_ofParts (Or.inr (Nat.dvd_mul_left _ _)) hfinite
    · split at hfinite
      · rename_i hround
        rw [if_pos hround]
        exact toInt?_ofParts (Or.inl (by omega)) hfinite
      · rename_i hround
        rw [if_neg hround]
        exact toInt?_ofParts (Or.inl (by omega)) hfinite

theorem toInt?_isSome_of_ofInt? (h : ofInt? n = some x) : x.toInt?.isSome = true := by
  have hfinite : (ofRatio (n < 0) n.natAbs 1).isFinite = true := by
    rw [← Bool.not_eq_false, ← ofInt?_eq_none_iff_isFinite, h]
    nofun
  have hx : ofRatio (n < 0) n.natAbs 1 = x := by
    unfold ofInt? at h
    split at h
    · rename_i heq
      exact heq.trans (Option.some.inj h)
    · cases h
  rw [← hx]
  exact toInt?_ofRatio_one hfinite

end Double

/-! ## Literals of signed words -/

/-- The setting is the integer, or a floating-point number that has its value exactly. -/
def Setting.Denotes (v : Setting) (n : Int) : Prop :=
  v = .int n ∨ ∃ x, v = .float x ∧ x.rational? = some (n : ℚ)

/-- The bits of the signed word that a type of integers becomes. -/
def DataType.Kind.wordBits? : DataType.Kind → Option Nat
  | .scalar .int32 => some 32
  | .scalar .int64 => some 64
  | _ => none

namespace Rust

variable {v : Setting} {t : DataType} {bits : Nat} {e : Expr} {n : Int}

theorem fitsBits_iff : fitsBits bits n = true ↔ -2 ^ (bits - 1) ≤ n ∧ n ≤ 2 ^ (bits - 1) - 1 := by
  have hpow : ((Number.pow2 (bits - 1) : Nat) : Int) = 2 ^ (bits - 1) := Nat.cast_pow 2 (bits - 1)
  rw [fitsBits, hpow, Bool.and_eq_true, decide_eq_true_eq, decide_eq_true_eq]
  omega

theorem intLiteral_eq_int_iff (h : intLiteral bits v = .ok e) :
    e = .int n ↔ v.Denotes n ∧ fitsBits bits n = true := by
  have hchoice : ∀ k, (if fitsBits bits k then Expr.int k else .fallback) = .int n ↔
      k = n ∧ fitsBits bits n = true := by
    intro k
    by_cases hk : fitsBits bits k = true
    · rw [if_pos hk]
      exact ⟨fun heq => by cases heq; exact ⟨rfl, hk⟩, fun heq => by rw [heq.1]⟩
    · rw [if_neg hk]
      exact ⟨nofun, fun heq => absurd (heq.1 ▸ heq.2) hk⟩
  cases v with
  | int k =>
    cases hx : Double.ofInt? k with
    | none =>
      simp only [intLiteral, Setting.asNumber, hx] at h
      cases h
    | some x =>
      -- The number that the integer rounds to is whole, and the integer takes its place.
      obtain ⟨whole, hwhole⟩ :=
        Option.isSome_iff_exists.mp (Double.toInt?_isSome_of_ofInt? hx)
      simp only [intLiteral, Setting.asNumber, hx, hwhole] at h
      rw [← Except.ok.inj h]
      exact (hchoice k).trans (by simp [Setting.Denotes])
  | float x =>
    have hdenotes : (Setting.float x).Denotes n ↔ x.toInt? = some n := by
      simp [Setting.Denotes, Double.toInt?_eq_some_iff]
    rw [hdenotes]
    cases hwhole : x.toInt? with
    | none =>
      simp only [intLiteral, Setting.asNumber, hwhole] at h
      cases h
      simp
    | some whole =>
      simp only [intLiteral, Setting.asNumber, hwhole] at h
      rw [← Except.ok.inj h, Option.some.injEq]
      exact hchoice whole
  | _ =>
    cases h
    simp [Setting.Denotes]

/-- The text of an integer is that of no other expression that a literal of a word can be. -/
theorem text_eq_toString_iff (h : intLiteral bits v = .ok e) :
    e.text = toString n ↔ e = .int n := by
  rcases intLiteral_cases h with ⟨k, rfl, -⟩ | rfl
  · exact ⟨fun heq => congrArg Expr.int (toString_int_inj heq), fun heq => by rw [heq]; rfl⟩
  · refine ⟨fun heq => ?_, nofun⟩
    have hmark : mark "Default::default()" = mark (toString n) := congrArg mark heq
    rw [mark_int] at hmark
    exact absurd hmark (by decide)

/-- A literal for a signed word is the text of an integer exactly if the setting stands for that
integer and the integer is in range. Otherwise it is left to the type. -/
theorem literal_integer_iff (ht : t.unwrapOptional.kind.wordBits? = some bits)
    (h : literal v t = .ok e) :
    (∀ n : Int, e.text = toString n ↔
        v.Denotes n ∧ -2 ^ (bits - 1) ≤ n ∧ n ≤ 2 ^ (bits - 1) - 1) ∧
      ((∀ n : Int, e.text ≠ toString n) → e.text = "Default::default()") := by
  have hint : intLiteral bits v = .ok e := by
    unfold literal at h
    revert ht h
    cases t.unwrapOptional.kind with
    | scalar k => cases k <;> intro ht h <;> cases ht <;> exact h
    | _ => nofun
  refine ⟨fun n => ?_, fun hne => ?_⟩
  · rw [text_eq_toString_iff hint, intLiteral_eq_int_iff hint, fitsBits_iff]
  · rcases intLiteral_cases hint with ⟨k, rfl, -⟩ | rfl
    · exact absurd rfl (hne k)
    · rfl

/-- The floating-point number just beyond the integers of 64 bits. -/
def beyondLong : Double := .finite false 4503599627370496 11 (by decide)

theorem rational?_beyondLong : beyondLong.rational? = some ((9223372036854775808 : Int) : ℚ) := by
  norm_num [beyondLong, Double.rational?]

/-- An integer that is no floating-point number is written as it is, and the number just beyond the
range is left to the type. -/
theorem literal_integer_long :
    (literal (.int 9007199254740993) (.optional (.ofScalar .int64)) =
        .ok (.int 9007199254740993) ∧
      (Expr.int 9007199254740993).text = toString (9007199254740993 : Int)) ∧
    literal (.float beyondLong) (.ofScalar .int64) = .ok .fallback ∧
      ∀ n : Int, Expr.fallback.text ≠ toString n := by
  have hexact : literal (.int 9007199254740993) (.optional (.ofScalar .int64)) =
      .ok (.int 9007199254740993) := by
    decide +kernel
  have hbeyond : literal (.float beyondLong) (.ofScalar .int64) = .ok .fallback := by
    decide +kernel
  refine ⟨⟨hexact, ?_⟩, hbeyond, fun n hn => ?_⟩
  · exact ((literal_integer_iff rfl hexact).1 _).mpr ⟨Or.inl rfl, by decide, by decide⟩
  · obtain ⟨⟨⟨⟩⟩ | ⟨x, hx, hvalue⟩, -, hle⟩ := ((literal_integer_iff rfl hbeyond).1 n).mp hn
    cases hx
    have hn : (9223372036854775808 : Int) = n := by
      exact_mod_cast Option.some.inj (rational?_beyondLong.symm.trans hvalue)
    rw [← hn] at hle
    exact absurd hle (by decide)

end Rust

end Wirework
