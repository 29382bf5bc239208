import Mathlib.Algebra.Group.Nat.Defs
import Wirework.Number.Double

/-!
# The range of floating-point numbers

An integer has a nearest finite number exactly if it is closer to the largest one than to the next
power of two. The tie goes to the power of two, whose mantissa is even (`ofInt?_eq_none_iff`).
-/

namespace Wirework.Double

variable {num k q r : Nat} {negative : Bool} {m : Nat} {e : Int}

/-- The least magnitude that rounds beyond the largest finite number: the middle between that
number, `(2 ^ 53 - 1) * 2 ^ 971`, and the next power of two. -/
def limit : Nat := (2 ^ 54 - 1) * 2 ^ 970

theorem isFinite_ofParts : (ofParts negative m e).isFinite = decide (Canonical m e) := by
  unfold ofParts
  split <;> simp [isFinite, *]

theorem ofInt?_eq_none_iff_isFinite {n : Int} :
    ofInt? n = none ↔ (ofRatio (n < 0) n.natAbs 1).isFinite = false := by
  unfold ofInt?
  cases ofRatio (n < 0) n.natAbs 1 <;> simp [isFinite]

/-! ## Integers below the 53rd bit -/

theorem exponentFor_small (hnum : num ≠ 0) (hlog : num.log2 + k = 52) (hk : 0 < k) :
    exponentFor num 1 = -k := by
  have hguess : (num.log2 : Int) - (Nat.log2 1 : Int) - 52 = -k := by
    have hone : Nat.log2 1 = 0 := by decide
    rw [hone]
    omega
  have hneg : (-k : Int) < 0 := by omega
  have hquot : ¬ num <<< k / 1 < Number.pow2 52 := by
    rw [Nat.div_one, Nat.shiftLeft_eq, Nat.not_lt]
    calc Number.pow2 52 = 2 ^ num.log2 * 2 ^ k := by rw [← Nat.pow_add, hlog]
      _ ≤ num * 2 ^ k := Nat.mul_le_mul_right _ (Nat.log2_self_le hnum)
  unfold exponentFor
  simp only [hguess, scaled, if_pos hneg, Int.natAbs_neg, Int.natAbs_natCast, if_neg hquot]
  omega

theorem isFinite_ofRatio_small (hnum : num ≠ 0) (hlog : num.log2 + k = 52) (hk : 0 < k) :
    (ofRatio negative num 1).isFinite = true := by
  have hneg : (-k : Int) < 0 := by omega
  have hround : roundDiv (num * 2 ^ k) 1 = num * 2 ^ k := by
    unfold roundDiv
    simp [Nat.mod_one]
  have hlt : num * 2 ^ k < 2 ^ 53 := by
    calc num * 2 ^ k < 2 ^ (num.log2 + 1) * 2 ^ k :=
          Nat.mul_lt_mul_of_pos_right Nat.lt_log2_self (Nat.two_pow_pos k)
      _ = 2 ^ 53 := by rw [← Nat.pow_add, Nat.add_right_comm, hlog]
  have hle : 2 ^ 52 ≤ num * 2 ^ k := by
    calc 2 ^ 52 = 2 ^ num.log2 * 2 ^ k := by rw [← Nat.pow_add, hlog]
      _ ≤ num * 2 ^ k := Nat.mul_le_mul_right _ (Nat.log2_self_le hnum)
  unfold ofRatio
  simp only [if_neg hnum, exponentFor_small hnum hlog hk, scaled, if_pos hneg, Int.natAbs_neg,
    Int.natAbs_natCast, Nat.shiftLeft_eq, hround]
  rw [if_neg (c := num * 2 ^ k = Number.pow2 53) (Nat.ne_of_lt hlt), isFinite_ofParts,
    decide_eq_true_iff]
  exact ⟨hlt, by omega, by omega, Or.inl hle⟩

/-! ## Integers from the 53rd bit on -/

theorem exponentFor_large (hnum : num ≠ 0) (hlog : num.log2 = k + 52) :
    exponentFor num 1 = k := by
  have hguess : (num.log2 : Int) - (Nat.log2 1 : Int) - 52 = k := by
    have hone : Nat.log2 1 = 0 := by decide
    rw [hlog, hone]
    omega
  have hneg : ¬ (k : Int) < 0 := by omega
  have hquot : ¬ num / 2 ^ k < Number.pow2 52 := by
    rw [Nat.not_lt, Nat.le_div_iff_mul_le (Nat.two_pow_pos k)]
    calc Number.pow2 52 * 2 ^ k = 2 ^ num.log2 := by rw [hlog, Nat.add_comm, Nat.pow_add]
      _ ≤ num := Nat.log2_self_le hnum
  unfold exponentFor
  simp only [hguess, scaled, if_neg hneg, Int.toNat_natCast, Nat.one_shiftLeft, if_neg hquot]
  omega

theorem quotient_bounds (hnum : num ≠ 0) (hlog : num.log2 = k + 52) :
    2 ^ 52 ≤ num / 2 ^ k ∧ num / 2 ^ k < 2 ^ 53 := by
  constructor
  · rw [Nat.le_div_iff_mul_le (Nat.two_pow_pos k), ← Nat.pow_add, Nat.add_comm, ← hlog]
    exact Nat.log2_self_le hnum
  · rw [Nat.div_lt_iff_lt_mul (Nat.two_pow_pos k), ← Nat.pow_add]
    have hlt : num < 2 ^ (num.log2 + 1) := Nat.lt_log2_self
    rwa [hlog, show k + 52 + 1 = 53 + k by omega] at hlt

theorem roundDiv_cases (num den : Nat) :
    roundDiv num den = num / den ∨ roundDiv num den = num / den + 1 := by
  unfold roundDiv
  simp only
  repeat' split
  all_goals simp

/-- A mantissa is rounded up to the next power of two if the quotient is the largest odd one and
the remainder is at least half. -/
theorem roundDiv_eq_iff {den : Nat} (hlt : num / den < 2 ^ 53) : roundDiv num den = 2 ^ 53 ↔
    num / den = 2 ^ 53 - 1 ∧ den ≤ 2 * (num % den) := by
  unfold roundDiv
  simp only
  generalize num / den = q at *
  generalize num % den = r
  repeat' split
  all_goals omega

theorem isFinite_ofRatio_large (hnum : num ≠ 0) (hlog : num.log2 = k + 52) :
    (ofRatio negative num 1).isFinite = true ↔
      k < 971 ∨ (k = 971 ∧ roundDiv num (2 ^ k) ≠ 2 ^ 53) := by
  have hneg : ¬ (k : Int) < 0 := by omega
  obtain ⟨hle, hlt⟩ := quotient_bounds hnum hlog
  have hcases := roundDiv_cases num (2 ^ k)
  unfold ofRatio
  simp only [if_neg hnum, exponentFor_large hnum hlog, scaled, if_neg hneg, Int.toNat_natCast,
    Nat.one_shiftLeft]
  by_cases hround : roundDiv num (2 ^ k) = 2 ^ 53
  -- A mantissa rounded up to 54 bits is halved, and the exponent goes up by one.
  · have hpow : Number.pow2 52 < Number.pow2 53 := by decide
    rw [if_pos (c := roundDiv num (2 ^ k) = Number.pow2 53) hround, isFinite_ofParts,
      decide_eq_true_iff]
    constructor
    · rintro ⟨-, -, htop, -⟩
      omega
    · intro h
      exact ⟨hpow, by omega, by omega, Or.inl (Nat.le_refl _)⟩
  · have hm : 2 ^ 52 ≤ roundDiv num (2 ^ k) ∧ roundDiv num (2 ^ k) < 2 ^ 53 := by omega
    rw [if_neg (c := roundDiv num (2 ^ k) = Number.pow2 53) hround, isFinite_ofParts,
      decide_eq_true_iff]
    constructor
    · rintro ⟨-, -, htop, -⟩
      omega
    · intro h
      exact ⟨hm.2, by omega, by omega, Or.inl hm.1⟩

/-! ## The limit

The exponent `t` is that of half the last place of the largest number. It stays a variable until the
end, so that no proof has to do with numbers of a thousand bits. -/

theorem lt_of_log2_lt {t : Nat} (hlog : num.log2 < t + 53) : num < (2 ^ 54 - 1) * 2 ^ t := by
  calc num < 2 ^ (num.log2 + 1) := Nat.lt_log2_self
    _ ≤ 2 ^ (53 + t) := Nat.pow_le_pow_right (by omega) (by omega)
    _ = 2 ^ 53 * 2 ^ t := Nat.pow_add ..
    _ ≤ (2 ^ 54 - 1) * 2 ^ t := Nat.mul_le_mul_right _ (by omega)

theorem le_of_le_log2 {t : Nat} (hnum : num ≠ 0) (hlog : t + 54 ≤ num.log2) :
    (2 ^ 54 - 1) * 2 ^ t ≤ num := by
  calc (2 ^ 54 - 1) * 2 ^ t ≤ 2 ^ 54 * 2 ^ t := Nat.mul_le_mul_right _ (by omega)
    _ = 2 ^ (54 + t) := (Nat.pow_add ..).symm
    _ ≤ 2 ^ num.log2 := Nat.pow_le_pow_right (by omega) (by omega)
    _ ≤ num := Nat.log2_self_le hnum

/-- The largest mantissa is left half a place before the next power of two. -/
theorem roundDiv_succ_iff {t : Nat} (hlt : num / 2 ^ (t + 1) < 2 ^ 53) :
    roundDiv num (2 ^ (t + 1)) = 2 ^ 53 ↔ (2 ^ 54 - 1) * 2 ^ t ≤ num := by
  have hu : 0 < 2 ^ t := Nat.two_pow_pos t
  rw [roundDiv_eq_iff hlt]
  rw [Nat.pow_succ'] at *
  generalize 2 ^ t = u at *
  have hdiv : 2 * u * (num / (2 * u)) + num % (2 * u) = num := Nat.div_add_mod ..
  have hmod : num % (2 * u) < 2 * u := Nat.mod_lt _ (by omega)
  generalize num / (2 * u) = q at *
  generalize num % (2 * u) = r at *
  constructor
  · rintro ⟨rfl, hr⟩
    omega
  · intro hnum
    have hq : 2 ^ 53 - 1 ≤ q := by
      refine Nat.le_of_not_lt fun hsmall => ?_
      have hle : 2 * u * q ≤ 2 * u * (2 ^ 53 - 2) := Nat.mul_le_mul_left _ (by omega)
      omega
    obtain rfl : q = 2 ^ 53 - 1 := by omega
    exact ⟨rfl, by omega⟩

theorem limit_pos : 0 < limit := by
  obtain ⟨t, ht⟩ : ∃ t, t = 970 := ⟨970, rfl⟩
  rw [limit, ← ht]
  exact Nat.mul_pos (by omega) (Nat.two_pow_pos t)

theorem isFinite_ofRatio_iff (hnum : num ≠ 0) :
    (ofRatio negative num 1).isFinite = true ↔ num < limit := by
  obtain ⟨t, ht⟩ : ∃ t, t = 970 := ⟨970, rfl⟩
  rw [limit, ← ht]
  by_cases hsmall : num.log2 < 52
  · have hlog : num.log2 + (52 - num.log2) = 52 := by omega
    have hlt : num < (2 ^ 54 - 1) * 2 ^ t := lt_of_log2_lt (by omega)
    exact iff_of_true (isFinite_ofRatio_small hnum hlog (by omega)) hlt
  · obtain ⟨k, hlog⟩ : ∃ k, num.log2 = k + 52 := ⟨num.log2 - 52, by omega⟩
    rw [isFinite_ofRatio_large hnum hlog]
    rcases Nat.lt_trichotomy k (t + 1) with hk | hk | hk
    · have hlt : num < (2 ^ 54 - 1) * 2 ^ t := lt_of_log2_lt (by omega)
      exact iff_of_true (Or.inl (by omega)) hlt
    · subst hk
      rw [ne_eq, roundDiv_succ_iff (quotient_bounds hnum hlog).2]
      omega
    · have hle : (2 ^ 54 - 1) * 2 ^ t ≤ num := le_of_le_log2 hnum (by omega)
      exact iff_of_false (by omega) (by omega)

theorem ofInt?_eq_none_iff {n : Int} : ofInt? n = none ↔ limit ≤ n.natAbs := by
  rw [ofInt?_eq_none_iff_isFinite]
  by_cases hzero : n.natAbs = 0
  · have hfinite : (ofRatio (n < 0) n.natAbs 1).isFinite = true := by
      rw [hzero]
      rfl
    have hpos := limit_pos
    rw [hfinite]
    exact iff_of_false (by simp) (by omega)
  · rw [← Bool.not_eq_true, isFinite_ofRatio_iff hzero, Nat.not_lt]

end Wirework.Double
