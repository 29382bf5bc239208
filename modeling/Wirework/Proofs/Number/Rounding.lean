import Mathlib.Algebra.Order.Field.Power
import Mathlib.Algebra.Order.Field.Rat
import Mathlib.Tactic.FieldSimp
import Mathlib.Tactic.Linarith
import Mathlib.Tactic.Positivity
import Mathlib.Tactic.Ring
import Wirework.Proofs.Number.Range

/-!
# What rounds to a number

The rationals that round to a finite number form an interval around it, closed if the mantissa is
even: half a place to either side, and only a quarter below a power of two, where the places are
half as wide (`Near`). Main statement: the rounding of a fraction depends on nothing but the
interval that its value lies in (`ofRatio_of_near`).
-/

namespace Wirework.Double

variable {num den m : Nat} {e : Int} {negative : Bool} {x : ℚ}

/-! ## Intervals -/

/-- How far below a number, in units of its last place, a rational still rounds to it. -/
def reach (m : Nat) (e : Int) : ℚ := if m = 2 ^ 52 ∧ -1074 < e then 1 / 4 else 1 / 2

/-- The rational rounds to `m * 2 ^ e`. The ends of the interval belong to an even mantissa. -/
structure Near (m : Nat) (e : Int) (x : ℚ) : Prop where
  low : (m - reach m e) * 2 ^ e ≤ x
  high : x ≤ (m + 1 / 2) * 2 ^ e
  inside : m % 2 = 1 → (m - reach m e) * 2 ^ e < x ∧ x < (m + 1 / 2) * 2 ^ e

theorem reach_le : reach m e ≤ 1 / 2 := by
  unfold reach
  split <;> norm_num

theorem Near.of_lt (hlow : (m - reach m e) * 2 ^ e < x) (hhigh : x < (m + 1 / 2) * 2 ^ e) :
    Near m e x :=
  ⟨hlow.le, hhigh.le, fun _ => ⟨hlow, hhigh⟩⟩

/-- A value in the interval of a number lies below it by half of the last place at most. -/
theorem Near.le_of_le {c : ℚ} (h : Near m e x) (hc : c + 1 / 2 ≤ m) : c * 2 ^ e ≤ x := by
  have hreach := reach_le (m := m) (e := e)
  have hunit : (0 : ℚ) < 2 ^ e := by positivity
  have hle : c * 2 ^ e ≤ (m - reach m e) * 2 ^ e := by
    gcongr
    linarith
  exact hle.trans h.low

/-! ## Quotients -/

/-- A quotient is rounded to a natural number that is at most a half away, and to an even one
where it is a half away. -/
theorem roundDiv_eq {n d : Nat} (hd : 0 < d) (hlow : 2 * m * d ≤ 2 * n + d)
    (hhigh : 2 * n ≤ (2 * m + 1) * d)
    (hodd : m % 2 = 1 → 2 * m * d < 2 * n + d ∧ 2 * n < (2 * m + 1) * d) : roundDiv n d = m := by
  have hdiv : d * (n / d) + n % d = n := Nat.div_add_mod n d
  have hmod : n % d < d := Nat.mod_lt n hd
  have hle : n / d ≤ m := by
    have h : 2 * (n / d) * d < (2 * m + 2) * d := by
      calc 2 * (n / d) * d = 2 * (d * (n / d)) := by ring
        _ ≤ 2 * n := by omega
        _ ≤ (2 * m + 1) * d := hhigh
        _ < (2 * m + 2) * d := Nat.mul_lt_mul_of_pos_right (by omega) hd
    have := Nat.lt_of_mul_lt_mul_right h
    omega
  have hge : m ≤ n / d + 1 := by
    have h : 2 * m * d < (2 * (n / d) + 3) * d := by
      calc 2 * m * d ≤ 2 * n + d := hlow
        _ < 2 * (d * (n / d)) + 3 * d := by omega
        _ = (2 * (n / d) + 3) * d := by ring
    have := Nat.lt_of_mul_lt_mul_right h
    omega
  unfold roundDiv
  simp only
  generalize n / d = q at *
  generalize n % d = r at *
  obtain rfl | rfl : m = q ∨ m = q + 1 := by omega
  · have hexp : (2 * m + 1) * d = 2 * (d * m) + d := by ring
    rw [hexp] at hhigh hodd
    repeat' split
    all_goals omega
  · have hexp : 2 * (q + 1) * d = 2 * (d * q) + 2 * d := by ring
    rw [hexp] at hlow hodd
    repeat' split
    all_goals omega

theorem scaled_spec (num : Nat) (hden : den ≠ 0) (e : Int) :
    (scaled num den e).2 ≠ 0 ∧
      ((scaled num den e).1 : ℚ) / (scaled num den e).2 = num / den / 2 ^ e := by
  unfold scaled
  split
  · rename_i he
    obtain ⟨k, rfl⟩ : ∃ k : Nat, e = -k := ⟨e.natAbs, by omega⟩
    refine ⟨hden, ?_⟩
    simp only [Int.natAbs_neg, Int.natAbs_natCast, Nat.shiftLeft_eq, Nat.cast_mul, Nat.cast_pow,
      Nat.cast_ofNat, zpow_neg, zpow_natCast]
    field_simp
  · rename_i he
    obtain ⟨k, rfl⟩ : ∃ k : Nat, e = k := ⟨e.toNat, by omega⟩
    refine ⟨?_, ?_⟩
    · simp [Nat.shiftLeft_eq, hden]
    · simp only [Int.toNat_natCast, Nat.shiftLeft_eq, Nat.cast_mul, Nat.cast_pow, Nat.cast_ofNat,
        zpow_natCast]
      field_simp

theorem div_lt_iff_scaled {n d k : Nat} (hd : d ≠ 0) : n / d < k ↔ (n : ℚ) / d < k := by
  rw [Nat.div_lt_iff_lt_mul (Nat.pos_of_ne_zero hd),
    div_lt_iff₀ (by exact_mod_cast Nat.pos_of_ne_zero hd)]
  exact_mod_cast Iff.rfl

/-! ## Exponents -/

/-- Two logarithms give a fraction up to a factor of two in either direction. -/
theorem ratio_bounds (hnum : num ≠ 0) (hden : den ≠ 0) :
    (2 : ℚ) ^ ((num.log2 : Int) - den.log2 - 1) < num / den ∧
      (num : ℚ) / den < 2 ^ ((num.log2 : Int) - den.log2 + 1) := by
  have hnlow : (2 : ℚ) ^ num.log2 ≤ num := by exact_mod_cast Nat.log2_self_le hnum
  have hnhigh : (num : ℚ) < 2 ^ (num.log2 + 1) := by exact_mod_cast Nat.lt_log2_self (n := num)
  have hdlow : (2 : ℚ) ^ den.log2 ≤ den := by exact_mod_cast Nat.log2_self_le hden
  have hdhigh : (den : ℚ) < 2 ^ (den.log2 + 1) := by exact_mod_cast Nat.lt_log2_self (n := den)
  have hpos : (0 : ℚ) < den := by exact_mod_cast Nat.pos_of_ne_zero hden
  have hlog : (0 : ℚ) < 2 ^ den.log2 := by positivity
  constructor
  · have hexp : (2 : ℚ) ^ ((num.log2 : Int) - den.log2 - 1) =
        2 ^ num.log2 / 2 ^ (den.log2 + 1) := by
      rw [show (num.log2 : Int) - den.log2 - 1 = num.log2 - ((den.log2 + 1 : Nat) : Int) by omega,
        zpow_sub₀ two_ne_zero, zpow_natCast, zpow_natCast]
    rw [hexp, div_lt_div_iff₀ (by positivity) hpos]
    exact mul_lt_mul' hnlow hdhigh hpos.le (by positivity) |>.trans_le (by linarith)
  · have hexp : (2 : ℚ) ^ ((num.log2 : Int) - den.log2 + 1) =
        2 ^ (num.log2 + 1) / 2 ^ den.log2 := by
      rw [show (num.log2 : Int) - den.log2 + 1 = ((num.log2 + 1 : Nat) : Int) - den.log2 by omega,
        zpow_sub₀ two_ne_zero, zpow_natCast, zpow_natCast]
    rw [hexp, div_lt_div_iff₀ hpos hlog]
    exact mul_lt_mul hnhigh hdlow hlog (by positivity)

/-- At the exponent of a fraction its mantissa has at most 53 bits, and no fewer unless the
exponent is the least one. -/
theorem exponentFor_spec (hnum : num ≠ 0) (hden : den ≠ 0) :
    -1074 ≤ exponentFor num den ∧
      (num : ℚ) / den < 2 ^ 53 * 2 ^ exponentFor num den ∧
      (2 ^ 52 * 2 ^ exponentFor num den ≤ (num : ℚ) / den ∨ exponentFor num den = -1074) := by
  obtain ⟨hlow, hhigh⟩ := ratio_bounds hnum hden
  set g : Int := (num.log2 : Int) - den.log2 - 52 with hg
  obtain ⟨hd, hvalue⟩ := scaled_spec num hden g
  have htest : (scaled num den g).1 / (scaled num den g).2 < Number.pow2 52 ↔
      (num : ℚ) / den < 2 ^ 52 * 2 ^ g := by
    rw [div_lt_iff_scaled hd, hvalue, div_lt_iff₀ (by positivity)]
    norm_num
  set exact : Int := if (scaled num den g).1 / (scaled num den g).2 < Number.pow2 52
    then g - 1 else g with hexact
  have hfor : exponentFor num den = max exact (-1074) := rfl
  have hbounds : 2 ^ 52 * 2 ^ exact ≤ (num : ℚ) / den ∧ (num : ℚ) / den < 2 ^ 53 * 2 ^ exact := by
    by_cases h : (num : ℚ) / den < 2 ^ 52 * 2 ^ g
    · rw [hexact, if_pos (htest.mpr h), zpow_sub_one₀ two_ne_zero]
      refine ⟨?_, by linarith⟩
      rw [show (num.log2 : Int) - den.log2 - 1 = 51 + g by omega, zpow_add₀ two_ne_zero] at hlow
      norm_num at hlow ⊢
      linarith
    · rw [hexact, if_neg (mt htest.mp h)]
      refine ⟨not_lt.mp h, ?_⟩
      rw [show (num.log2 : Int) - den.log2 + 1 = 53 + g by omega, zpow_add₀ two_ne_zero] at hhigh
      exact_mod_cast hhigh
  rw [hfor]
  refine ⟨le_max_right .., hbounds.2.trans_le ?_, ?_⟩
  · gcongr
    · norm_num
    · exact le_max_left ..
  · rcases le_total exact (-1074) with h | h
    · exact Or.inr (max_eq_right h)
    · rw [max_eq_left h]
      exact Or.inl hbounds.1

/-! ## Rounding -/

theorem ofParts_of_canonical (hc : Canonical m e) :
    ofParts negative m e = .finite negative m e hc := by
  rw [ofParts, dif_pos hc]

/-- A fraction that lies in the interval of a mantissa at the exponent of rounding is rounded to
that mantissa. -/
theorem roundDiv_of_near (hden : den ≠ 0) (hlow : (m - 1 / 2) * 2 ^ e ≤ (num : ℚ) / den)
    (hhigh : (num : ℚ) / den ≤ (m + 1 / 2) * 2 ^ e)
    (hodd : m % 2 = 1 →
      (m - 1 / 2) * 2 ^ e < (num : ℚ) / den ∧ (num : ℚ) / den < (m + 1 / 2) * 2 ^ e) :
    roundDiv (scaled num den e).1 (scaled num den e).2 = m := by
  obtain ⟨hd, hvalue⟩ := scaled_spec num hden e
  generalize (scaled num den e).1 = n at *
  generalize (scaled num den e).2 = d at *
  have hunit : (0 : ℚ) < 2 ^ e := by positivity
  have hpos : (0 : ℚ) < d := by exact_mod_cast Nat.pos_of_ne_zero hd
  have hx : (num : ℚ) / den = n / d * 2 ^ e := by
    rw [hvalue]
    field_simp
  rw [hx] at hlow hhigh hodd
  simp only [mul_le_mul_iff_left₀ hunit, mul_lt_mul_iff_left₀ hunit, le_div_iff₀ hpos,
    lt_div_iff₀ hpos, div_le_iff₀ hpos, div_lt_iff₀ hpos] at hlow hhigh hodd
  refine roundDiv_eq (Nat.pos_of_ne_zero hd) ?_ ?_ fun hm => ?_
  · have h : (2 * m * d : ℚ) ≤ 2 * n + d := by linarith
    exact_mod_cast h
  · have h : (2 * n : ℚ) ≤ (2 * m + 1) * d := by linarith
    exact_mod_cast h
  · obtain ⟨hl, hh⟩ := hodd hm
    have h1 : (2 * m * d : ℚ) < 2 * n + d := by linarith
    have h2 : (2 * n : ℚ) < (2 * m + 1) * d := by linarith
    exact ⟨by exact_mod_cast h1, by exact_mod_cast h2⟩

theorem two_zpow_le {a b : Int} (h : a ≤ b) : (2 : ℚ) ^ a ≤ 2 ^ b :=
  zpow_le_zpow_right₀ (by norm_num) h

/-- A greater exponent than that of the number belongs to values beyond its interval. -/
theorem exponentFor_le_of_near (hnum : num ≠ 0) (hden : den ≠ 0) (hc : Canonical m e)
    (h : Near m e (num / den)) : exponentFor num den ≤ e := by
  obtain ⟨hm53, hmin, -, -⟩ := hc
  obtain ⟨-, -, hEnormal⟩ := exponentFor_spec hnum hden
  generalize exponentFor num den = E at *
  by_contra hgt
  have hge := hEnormal.resolve_right (by omega)
  have hm : (m : ℚ) + 1 ≤ 2 ^ 53 := by exact_mod_cast hm53
  have hunit : (0 : ℚ) < 2 ^ e := by positivity
  have habove : (2 : ℚ) ^ 53 * 2 ^ e ≤ num / den := by
    calc (2 : ℚ) ^ 53 * 2 ^ e = 2 ^ 52 * 2 ^ (e + 1) := by
          rw [zpow_add_one₀ two_ne_zero]
          ring
      _ ≤ 2 ^ 52 * 2 ^ E := mul_le_mul_of_nonneg_left (two_zpow_le (by omega)) (by positivity)
      _ ≤ num / den := hge
  have hinside : ((m : ℚ) + 1 / 2) * 2 ^ e < 2 ^ 53 * 2 ^ e := by
    gcongr
    linarith
  linarith [h.high]

/-- A value in the interval of a number is rounded at the exponent of the number, or at the one
before if it lies below a power of two. -/
theorem exponentFor_of_near (hnum : num ≠ 0) (hden : den ≠ 0) (hc : Canonical m e)
    (h : Near m e (num / den)) :
    exponentFor num den = e ∨ exponentFor num den = e - 1 ∧ m = 2 ^ 52 ∧ -1074 < e := by
  have hle := exponentFor_le_of_near hnum hden hc h
  obtain ⟨hm53, hmin, -, hnormal⟩ := hc
  obtain ⟨hEmin, hElow, -⟩ := exponentFor_spec hnum hden
  generalize exponentFor num den = E at *
  rcases hle.eq_or_lt with heq | hlt
  · exact Or.inl heq
  · have hbig : 2 ^ 52 ≤ m := hnormal.resolve_right (by omega)
    have hbelow : (num : ℚ) / den < 2 ^ 52 * 2 ^ e := by
      calc (num : ℚ) / den < 2 ^ 53 * 2 ^ E := hElow
        _ ≤ 2 ^ 53 * 2 ^ (e - 1) :=
            mul_le_mul_of_nonneg_left (two_zpow_le (by omega)) (by positivity)
        _ = 2 ^ 52 * 2 ^ e := by
            rw [zpow_sub_one₀ two_ne_zero]
            ring
    have hm : m = 2 ^ 52 := by
      by_contra hne
      have hge : (2 : ℚ) ^ 52 + 1 ≤ m := by exact_mod_cast Nat.lt_of_le_of_ne hbig (Ne.symm hne)
      linarith [h.le_of_le (c := 2 ^ 52) (by linarith)]
    refine Or.inr ⟨?_, hm, by omega⟩
    by_contra hne
    have hfar : (2 : ℚ) ^ 53 * 2 ^ E ≤ 2 ^ 51 * 2 ^ e := by
      calc (2 : ℚ) ^ 53 * 2 ^ E ≤ 2 ^ 53 * 2 ^ (e - 1 - 1) :=
            mul_le_mul_of_nonneg_left (two_zpow_le (by omega)) (by positivity)
        _ = 2 ^ 51 * 2 ^ e := by
            rw [zpow_sub_one₀ two_ne_zero, zpow_sub_one₀ two_ne_zero]
            ring
    linarith [h.le_of_le (c := 2 ^ 51) (by rw [hm]; norm_num)]

theorem eq_zero_of_near_zero (h : Near m e 0) : m = 0 := by
  by_contra hne
  have hone : (1 : ℚ) ≤ m := by exact_mod_cast Nat.one_le_iff_ne_zero.mpr hne
  have hpos : (0 : ℚ) < 1 / 2 * 2 ^ e := by positivity
  linarith [h.le_of_le (c := 1 / 2) (by linarith)]

/-- A fraction is rounded to the number in whose interval its value lies. -/
theorem ofRatio_of_near (hden : den ≠ 0) (hc : Canonical m e) (h : Near m e (num / den)) :
    ofRatio negative num den = .finite negative m e hc := by
  by_cases hnum : num = 0
  · subst hnum
    rw [Nat.cast_zero, zero_div] at h
    obtain rfl := eq_zero_of_near_zero h
    obtain rfl : e = -1074 := hc.2.2.2.resolve_left (by decide)
    rfl
  · have hround : ofRatio negative num den =
        let s := scaled num den (exponentFor num den)
        if roundDiv s.1 s.2 = 2 ^ 53 then ofParts negative (2 ^ 52) (exponentFor num den + 1)
        else ofParts negative (roundDiv s.1 s.2) (exponentFor num den) := by
      rw [ofRatio, if_neg hnum]
      rfl
    rw [hround]
    rcases exponentFor_of_near hnum hden hc h with hE | ⟨hE, rfl, hmin⟩
    · have hreach := reach_le (m := m) (e := e)
      have hle : ((m : ℚ) - 1 / 2) * 2 ^ e ≤ (m - reach m e) * 2 ^ e := by gcongr
      have hm := roundDiv_of_near hden (hle.trans h.low) h.high
        fun hodd => ⟨hle.trans_lt (h.inside hodd).1, (h.inside hodd).2⟩
      simp only [hE, hm]
      rw [if_neg (c := m = 2 ^ 53) (Nat.ne_of_lt hc.1)]
      exact ofParts_of_canonical hc
    -- A quarter of the last place is half of the one before, and the tie goes to the power of two.
    · have hlow := h.low
      have hbelow := (exponentFor_spec hnum hden).2.1
      have hhalf : (2 : ℚ) ^ e = 2 * 2 ^ (e - 1) := by
        rw [zpow_sub_one₀ two_ne_zero]
        ring
      rw [reach, if_pos ⟨rfl, hmin⟩, hhalf] at hlow
      rw [hE] at hbelow
      have hunit : (0 : ℚ) < 2 ^ (e - 1) := by positivity
      have htop : roundDiv (scaled num den (e - 1)).1 (scaled num den (e - 1)).2 = 2 ^ 53 := by
        refine roundDiv_of_near hden ?_ ?_ fun hodd => absurd hodd (by decide)
        · push_cast at hlow ⊢
          linarith
        · push_cast
          linarith
      simp only [hE, htop, if_true, sub_add_cancel]
      exact ofParts_of_canonical hc

/-! ## Decimals -/

theorem digits_bounds {n : Nat} (hn : n ≠ 0) :
    (10 : ℚ) ^ (((Nat.toDigits 10 n).length : Int) - 1) ≤ n ∧
      (n : ℚ) < 10 ^ ((Nat.toDigits 10 n).length : Int) := by
  have hpos : 0 < (Nat.toDigits 10 n).length := Nat.length_toDigits_pos
  obtain ⟨k, hk⟩ : ∃ k, (Nat.toDigits 10 n).length = k + 1 :=
    ⟨_, (Nat.succ_pred_eq_of_pos hpos).symm⟩
  rw [hk]
  constructor
  · have hle : 10 ^ k ≤ n := by
      rcases Nat.eq_zero_or_pos k with rfl | hk0
      · simpa using Nat.one_le_iff_ne_zero.mpr hn
      · by_contra hlt
        have := (Nat.length_toDigits_le_iff (b := 10) (by decide) hk0).mpr (Nat.lt_of_not_le hlt)
        omega
    rw [show ((k + 1 : Nat) : Int) - 1 = k by omega, zpow_natCast]
    exact_mod_cast hle
  · have hlt := (Nat.length_toDigits_le_iff (b := 10) (n := n) (by decide) hpos).mp le_rfl
    rw [hk] at hlt
    rw [zpow_natCast]
    exact_mod_cast hlt

/-- What rounds to a number other than zero is within the range of the format. -/
theorem Near.bounds (hc : Canonical m e) (hm : m ≠ 0) (h : Near m e x) :
    (10 : ℚ) ^ (-400 : Int) ≤ x ∧ x < 10 ^ (400 : Int) := by
  obtain ⟨hm53, hmin, hmax, -⟩ := hc
  have hone : (1 : ℚ) ≤ m := by exact_mod_cast Nat.one_le_iff_ne_zero.mpr hm
  have hm' : (m : ℚ) + 1 ≤ 2 ^ 53 := by exact_mod_cast hm53
  have hbase : (8 : ℚ) ^ (400 : Int) ≤ 10 ^ (400 : Int) :=
    zpow_le_zpow_left₀ (by decide) (by norm_num) (by norm_num)
  constructor
  · calc (10 : ℚ) ^ (-400 : Int) ≤ 8 ^ (-400 : Int) := by
          rw [zpow_neg, zpow_neg]
          exact inv_anti₀ (by positivity) hbase
      _ = 2 ^ (-1200 : Int) := by
          rw [show (8 : ℚ) = 2 ^ (3 : Int) by norm_num, ← zpow_mul]
          norm_num
      _ ≤ 2 ^ (e - 1) := two_zpow_le (by omega)
      _ = 1 / 2 * 2 ^ e := by
          rw [zpow_sub_one₀ two_ne_zero]
          ring
      _ ≤ x := h.le_of_le (by linarith)
  · calc x ≤ (m + 1 / 2) * 2 ^ e := h.high
      _ < 2 ^ 53 * 2 ^ e := by
          gcongr
          linarith
      _ = 2 ^ (53 + e) := by
          rw [zpow_add₀ two_ne_zero]
          norm_num
      _ ≤ 2 ^ (1200 : Int) := two_zpow_le (by omega)
      _ = 8 ^ (400 : Int) := by
          rw [show (8 : ℚ) = 2 ^ (3 : Int) by norm_num, ← zpow_mul]
          norm_num
      _ ≤ 10 ^ (400 : Int) := hbase

/-- A decimal is rounded to the number in whose interval its value lies, however its digits and
its power are set out. -/
theorem ofDecimal_of_near {digits : Nat} {power : Int} (hc : Canonical m e) (hm : m ≠ 0)
    (h : Near m e (digits * 10 ^ power)) :
    ofDecimal negative digits power = .finite negative m e hc := by
  obtain ⟨hbelow, habove⟩ := h.bounds hc hm
  have hdigits : digits ≠ 0 := by
    rintro rfl
    have hpos : (0 : ℚ) < 10 ^ (-400 : Int) := by positivity
    rw [Nat.cast_zero, zero_mul] at hbelow
    linarith
  obtain ⟨hleast, hgreatest⟩ := digits_bounds hdigits
  have hten : (0 : ℚ) < 10 ^ power := by positivity
  have hsmall : ((Nat.toDigits 10 digits).length : Int) + power ≤ 400 := by
    by_contra hlarge
    have hle : (10 : ℚ) ^ (400 : Int) ≤ digits * 10 ^ power := by
      calc (10 : ℚ) ^ (400 : Int)
          ≤ 10 ^ (((Nat.toDigits 10 digits).length : Int) - 1 + power) :=
            zpow_le_zpow_right₀ (by norm_num) (by omega)
        _ = 10 ^ (((Nat.toDigits 10 digits).length : Int) - 1) * 10 ^ power :=
            zpow_add₀ (by norm_num) ..
        _ ≤ digits * 10 ^ power := by gcongr
    linarith
  have hlarge : -400 ≤ ((Nat.toDigits 10 digits).length : Int) + power := by
    by_contra hsmall
    have hlt : digits * (10 : ℚ) ^ power < 10 ^ (-400 : Int) := by
      calc digits * (10 : ℚ) ^ power
          < 10 ^ ((Nat.toDigits 10 digits).length : Int) * 10 ^ power := by gcongr
        _ = 10 ^ (((Nat.toDigits 10 digits).length : Int) + power) :=
            (zpow_add₀ (by norm_num) ..).symm
        _ ≤ 10 ^ (-400 : Int) := zpow_le_zpow_right₀ (by norm_num) (by omega)
    linarith
  unfold ofDecimal
  simp only [if_neg hdigits]
  rw [if_neg (by omega), if_neg (by omega)]
  split
  · obtain ⟨k, rfl⟩ : ∃ k : Nat, power = -k := ⟨power.natAbs, by omega⟩
    refine ofRatio_of_near (by simp) hc ?_
    rw [zpow_neg, zpow_natCast, ← div_eq_mul_inv] at h
    simpa using h
  · obtain ⟨k, rfl⟩ : ∃ k : Nat, power = k := ⟨power.toNat, by omega⟩
    refine ofRatio_of_near one_ne_zero hc ?_
    rw [zpow_natCast] at h
    simpa using h

end Wirework.Double
