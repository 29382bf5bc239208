import Wirework.Number.Shortest
import Wirework.Proofs.Number.Rounding

/-!
# Shortest digits read back

The search for the shortest digits only ever stops inside the interval of the number, and it stops:
seventeen digits are finer than any interval. Main statement: the shortest decimal of a number lies
in the interval that is rounded to that number (`near_shortest`).
-/

namespace Wirework.Decimal

open Double (Near reach Canonical)

variable {m : Nat} {e : Int} {d : Decimal}

def value (d : Decimal) : ℚ := d.digits * 10 ^ d.power

/-! ## Fractions -/

theorem cross_le {a b c k : Nat} (hb : b ≠ 0) (hk : k ≠ 0) :
    a * k ≤ c * b ↔ (a : ℚ) / b ≤ c / k := by
  rw [div_le_div_iff₀ (by exact_mod_cast Nat.pos_of_ne_zero hb)
    (by exact_mod_cast Nat.pos_of_ne_zero hk)]
  exact_mod_cast Iff.rfl

theorem cross_lt {a b c k : Nat} (hb : b ≠ 0) (hk : k ≠ 0) :
    a * k < c * b ↔ (a : ℚ) / b < c / k := by
  rw [div_lt_div_iff₀ (by exact_mod_cast Nat.pos_of_ne_zero hb)
    (by exact_mod_cast Nat.pos_of_ne_zero hk)]
  exact_mod_cast Iff.rfl

/-- A power of ten as the fraction of two natural numbers, one of which is one. -/
theorem unit_eq (power : Int) :
    ((if 0 ≤ power then Number.pow10 power.toNat else 1 : Nat) : ℚ) /
      (if 0 ≤ power then 1 else Number.pow10 power.natAbs : Nat) = 10 ^ power := by
  split
  · obtain ⟨k, rfl⟩ : ∃ k : Nat, power = k := ⟨power.toNat, by omega⟩
    simp
  · obtain ⟨k, rfl⟩ : ∃ k : Nat, power = -k := ⟨power.natAbs, by omega⟩
    simp

/-! ## The interval of a number -/

theorem quarters_eq (n : Nat) (e : Int) :
    ((if 0 ≤ e then n <<< e.toNat else n : Nat) : ℚ) /
      (if 0 ≤ e then 4 else 4 <<< e.natAbs : Nat) = n / 4 * 2 ^ e := by
  split
  · obtain ⟨k, rfl⟩ : ∃ k : Nat, e = k := ⟨e.toNat, by omega⟩
    simp [Nat.shiftLeft_eq]
    ring
  · obtain ⟨k, rfl⟩ : ∃ k : Nat, e = -k := ⟨e.natAbs, by omega⟩
    simp [Nat.shiftLeft_eq]
    ring

theorem around_den_ne_zero : (Interval.around m e).den ≠ 0 := by
  simp only [Interval.around]
  split <;> simp [Nat.shiftLeft_eq]

theorem around_value :
    ((Interval.around m e).value : ℚ) / (Interval.around m e).den = m * 2 ^ e := by
  simp only [Interval.around, quarters_eq]
  push_cast
  ring

theorem around_high :
    ((Interval.around m e).high : ℚ) / (Interval.around m e).den = (m + 1 / 2) * 2 ^ e := by
  simp only [Interval.around, quarters_eq]
  push_cast
  ring

theorem around_low (hm : m ≠ 0) :
    ((Interval.around m e).low : ℚ) / (Interval.around m e).den = (m - reach m e) * 2 ^ e := by
  simp only [Interval.around, quarters_eq, reach]
  split
  · rw [if_pos (by assumption), Nat.cast_sub (by omega)]
    push_cast
    ring
  · rw [if_neg (by assumption), Nat.cast_sub (by omega)]
    push_cast
    ring

theorem contains_iff (hm : m ≠ 0) {n unitNum unitDen : Nat} (hden : unitDen ≠ 0) :
    (Interval.around m e).contains n unitNum unitDen = true ↔
      Near m e (n * ((unitNum : ℚ) / unitDen)) := by
  have hclosed : (Interval.around m e).closed = decide (m % 2 = 0) := rfl
  have hx : (n : ℚ) * ((unitNum : ℚ) / unitDen) = (n * unitNum : Nat) / (unitDen : ℚ) := by
    push_cast
    ring
  have hd := around_den_ne_zero (m := m) (e := e)
  rw [Interval.contains, hclosed, hx]
  by_cases heven : m % 2 = 0
  · simp only [heven, decide_true, if_true, Bool.and_eq_true, decide_eq_true_eq]
    rw [cross_le hd hden, cross_le hden hd, around_low hm, around_high]
    exact ⟨fun h => ⟨h.1, h.2, fun hodd => by omega⟩, fun h => ⟨h.low, h.high⟩⟩
  · simp only [heven, decide_false, if_false, Bool.and_eq_true, decide_eq_true_eq,
      Bool.false_eq_true]
    rw [cross_lt hd hden, cross_lt hden hd, around_low hm, around_high]
    exact ⟨fun h => ⟨h.1.le, h.2.le, fun _ => h⟩, fun h => h.inside (by omega)⟩

/-! ## Grids -/

theorem grid_den_ne_zero (power : Int) :
    (if 0 ≤ power then 1 else Number.pow10 power.natAbs) ≠ 0 := by
  split <;> simp

/-- The greatest multiple of a power of ten that is at most the value of the interval. -/
def below (i : Interval) (power : Int) : Nat :=
  i.value * (if 0 ≤ power then 1 else Number.pow10 power.natAbs) /
    (i.den * if 0 ≤ power then Number.pow10 power.toNat else 1)

/-- A neighbour of the value on the grid of a power of ten lies in the interval. -/
def Inside (i : Interval) (power : Int) (n : Nat) : Prop :=
  i.contains n (if 0 ≤ power then Number.pow10 power.toNat else 1)
    (if 0 ≤ power then 1 else Number.pow10 power.natAbs) = true

theorem inside_iff (hm : m ≠ 0) {power : Int} {n : Nat} :
    Inside (Interval.around m e) power n ↔ Near m e (n * 10 ^ power) := by
  rw [Inside, contains_iff hm (grid_den_ne_zero _), unit_eq]

/-- A grid is hit at one of the two neighbours, and missed only if neither is inside. -/
theorem hit?_spec (i : Interval) (top : Int) (count : Nat) :
    (∃ n, hit? i top count = some ⟨n, top - count⟩ ∧ Inside i (top - count) n) ∨
      hit? i top count = none ∧
        (below i (top - count) ≠ 0 → ¬Inside i (top - count) (below i (top - count))) ∧
        ¬Inside i (top - count) (below i (top - count) + 1) := by
  unfold hit? Inside below
  simp only
  generalize top - (count : Int) = power
  generalize (if 0 ≤ power then Number.pow10 power.toNat else 1) = num
  generalize (if 0 ≤ power then 1 else Number.pow10 power.natAbs) = den
  generalize i.value * den / (i.den * num) = n
  split
  · rename_i hlow hhigh
    rw [Bool.and_eq_true] at hlow
    refine Or.inl ?_
    repeat' split
    exacts [⟨n, rfl, hlow.2⟩, ⟨n + 1, rfl, hhigh⟩, ⟨n, rfl, hlow.2⟩, ⟨n + 1, rfl, hhigh⟩]
  · rename_i hlow hhigh
    rw [Bool.and_eq_true] at hlow
    exact Or.inl ⟨n, rfl, hlow.2⟩
  · rename_i hlow hhigh
    exact Or.inl ⟨n + 1, rfl, hhigh⟩
  · rename_i hlow hhigh
    refine Or.inr ⟨rfl, fun hn hin => ?_, by simp [hhigh]⟩
    simp [hn, hin] at hlow

/-! ## Powers of ten -/

theorem lt_pow10_iff {num den : Nat} (hden : den ≠ 0) (power : Int) :
    (if power < 0 then num * Number.pow10 power.natAbs < den
      else num < den * Number.pow10 power.toNat) ↔ (num : ℚ) / den < 10 ^ power := by
  rw [div_lt_iff₀ (by exact_mod_cast Nat.pos_of_ne_zero hden)]
  split
  · obtain ⟨k, rfl⟩ : ∃ k : Nat, power = -k := ⟨power.natAbs, by omega⟩
    rw [zpow_neg, zpow_natCast, ← div_eq_inv_mul, lt_div_iff₀ (by positivity), Int.natAbs_neg,
      Int.natAbs_natCast]
    exact_mod_cast Iff.rfl
  · obtain ⟨k, rfl⟩ : ∃ k : Nat, power = k := ⟨power.toNat, by omega⟩
    rw [zpow_natCast, mul_comm, Int.toNat_natCast]
    exact_mod_cast Iff.rfl

/-- The search upward keeps to powers of ten that are at most ten times the value. -/
theorem powerAbove_spec {num den : Nat} (hden : den ≠ 0) {start : Int} (fuel : Nat)
    (h : (10 : ℚ) ^ (start - 1) ≤ num / den) :
    (10 : ℚ) ^ (powerAbove num den start fuel - 1) ≤ num / den := by
  induction fuel generalizing start with
  | zero => exact h
  | succ fuel ih =>
    rw [powerAbove]
    by_cases hlt : (num : ℚ) / den < 10 ^ start
    · rw [if_pos ((lt_pow10_iff hden start).mpr hlt)]
      exact h
    · rw [if_neg (mt (lt_pow10_iff hden start).mp hlt)]
      refine ih ?_
      rw [add_sub_cancel_right]
      exact not_lt.mp hlt

/-- If `a / b` is just below the decimal logarithm of two, then it gives the power of ten below a
power of two, up to a factor of two. -/
theorem ten_zpow_fdiv_le {a b : Nat} (bits : Int) (hlow : -(b + 1 : Nat) ≤ bits)
    (hupper : (10 : ℚ) ^ a ≤ 2 ^ (b + 1)) (hlower : (2 : ℚ) ^ b ≤ 10 ^ a) :
    (10 : ℚ) ^ ((bits * a).fdiv (b + 1 : Nat)) ≤ 2 * 2 ^ bits := by
  have hfloor : (bits * a).fdiv (b + 1 : Nat) * (b + 1 : Nat) ≤ bits * a := by
    rw [Int.fdiv_eq_ediv_of_nonneg _ (by omega)]
    exact Int.ediv_mul_le _ (by omega)
  have hroot : ((10 : ℚ) ^ ((bits * a).fdiv (b + 1 : Nat))) ^ (b + 1) ≤ 10 ^ (bits * a) := by
    rw [← zpow_natCast, ← zpow_mul]
    exact zpow_le_zpow_right₀ (by norm_num) hfloor
  refine le_of_pow_le_pow_left₀ (n := b + 1) (by omega) (by positivity) (hroot.trans ?_)
  rcases le_total 0 bits with hpos | hneg
  · obtain ⟨k, rfl⟩ : ∃ k : Nat, bits = k := ⟨bits.toNat, by omega⟩
    calc (10 : ℚ) ^ ((k : Int) * a) = (10 ^ a) ^ k := by
          rw [mul_comm, zpow_mul, zpow_natCast, zpow_natCast]
      _ ≤ (2 ^ (b + 1)) ^ k := by gcongr
      _ = (2 ^ (k : Int)) ^ (b + 1) := by rw [zpow_natCast, ← pow_mul, ← pow_mul, mul_comm]
      _ ≤ (2 * 2 ^ (k : Int)) ^ (b + 1) := by
          gcongr
          linarith [show (0 : ℚ) < 2 ^ (k : Int) by positivity]
  · obtain ⟨k, rfl⟩ : ∃ k : Nat, bits = -k := ⟨bits.natAbs, by omega⟩
    calc (10 : ℚ) ^ (-(k : Int) * a) = ((10 ^ a) ^ k)⁻¹ := by
          rw [neg_mul, zpow_neg, mul_comm, zpow_mul, zpow_natCast, zpow_natCast]
      _ ≤ ((2 ^ b) ^ k)⁻¹ := by gcongr
      _ = 2 ^ (-(b * k : Nat) : Int) := by rw [zpow_neg, zpow_natCast, pow_mul]
      _ ≤ 2 ^ ((1 - k : Int) * (b + 1 : Nat)) := by
          refine Double.two_zpow_le ?_
          push_cast at hlow ⊢
          linarith
      _ = (2 * 2 ^ (-(k : Int))) ^ (b + 1) := by
          rw [zpow_mul, zpow_natCast, sub_eq_add_neg, zpow_add₀ two_ne_zero, zpow_one]

theorem powerGuess_spec {num den : Nat} (hnum : num ≠ 0) (hden : den ≠ 0)
    (hlow : (2 : ℚ) ^ (-4000 : Int) ≤ num / den) :
    (10 : ℚ) ^ (powerGuess num den - 1) ≤ num / den := by
  obtain ⟨habove, hbelow⟩ := Double.ratio_bounds hnum hden
  have hbits := (zpow_lt_zpow_iff_right₀ (a := (2 : ℚ)) (by norm_num)).mp (hlow.trans_lt hbelow)
  have hten := ten_zpow_fdiv_le (a := 1233) (b := 4095) ((num.log2 : Int) - den.log2) (by omega)
    (by exact_mod_cast (by decide +kernel : 10 ^ 1233 ≤ 2 ^ (4095 + 1)))
    (by exact_mod_cast (by decide +kernel : 2 ^ 4095 ≤ 10 ^ 1233))
  rw [zpow_sub_one₀ two_ne_zero] at habove
  rw [powerGuess, zpow_sub_one₀ (by norm_num), zpow_sub_one₀ (by norm_num)]
  have hpos : (0 : ℚ) < 2 ^ ((num.log2 : Int) - den.log2) := by positivity
  norm_num at hten habove ⊢
  linarith

/-! ## Seventeen digits -/

theorem below_spec (m : Nat) (e power : Int) :
    below (Interval.around m e) power * (10 : ℚ) ^ power ≤ m * 2 ^ e ∧
      m * (2 : ℚ) ^ e < (below (Interval.around m e) power + 1) * 10 ^ power := by
  rw [← around_value, ← unit_eq, below]
  have hd := around_den_ne_zero (m := m) (e := e)
  have hk := grid_den_ne_zero power
  have hn : (if 0 ≤ power then Number.pow10 power.toNat else 1) ≠ 0 := by split <;> simp
  generalize (if 0 ≤ power then Number.pow10 power.toNat else 1) = num at *
  generalize (if 0 ≤ power then 1 else Number.pow10 power.natAbs) = den at *
  generalize (Interval.around m e).value = v at *
  generalize (Interval.around m e).den = w at *
  have hle : v * den / (w * num) * num * w ≤ v * den := by
    rw [Nat.mul_assoc, Nat.mul_comm num w]
    exact Nat.div_mul_le_self ..
  have hlt : v * den < (v * den / (w * num) + 1) * num * w := by
    rw [Nat.mul_assoc, Nat.mul_comm num w]
    exact Nat.lt_mul_of_div_lt (Nat.lt_succ_self _) (Nat.pos_of_ne_zero (Nat.mul_ne_zero hd hn))
  rw [cross_le hk hd] at hle
  rw [cross_lt hd hk] at hlt
  push_cast at hle hlt
  rw [mul_div_assoc] at hle hlt
  exact ⟨hle, hlt⟩

/-- Seventeen digits are finer than the interval, so one of the neighbours is in it. -/
theorem hit?_seventeen (hc : Canonical m e) (hm : m ≠ 0) {top : Int}
    (htop : (10 : ℚ) ^ (top - 1) ≤ m * 2 ^ e) :
    hit? (Interval.around m e) top (17 : Nat) ≠ none := by
  intro hnone
  obtain ⟨n, hn, -⟩ | ⟨-, hlow, hhigh⟩ := hit?_spec (Interval.around m e) top 17
  · rw [hnone] at hn
    cases hn
  obtain ⟨hle, hlt⟩ := below_spec m e (top - (17 : Nat))
  rw [inside_iff hm] at hlow hhigh
  generalize below (Interval.around m e) (top - (17 : Nat)) = n at *
  set u : ℚ := 10 ^ (top - (17 : Nat)) with hu
  have hunit : 10 ^ 16 * u ≤ m * 2 ^ e := by
    rw [show top - (17 : Nat) = top - 1 - (16 : Nat) by omega, zpow_sub₀ (by norm_num),
      zpow_natCast] at hu
    rw [hu]
    field_simp
    exact htop
  have hupos : 0 < u := by positivity
  have hpos : (0 : ℚ) < 2 ^ e := by positivity
  -- Half a step of seventeen digits is shorter than the way to either end of the interval, so the
  -- nearer one of the two decimals around the number lies inside.
  have hreach : u / 2 < reach m e * 2 ^ e := by
    have hm53 : (m : ℚ) < 2 ^ 53 := by exact_mod_cast hc.1
    unfold reach
    split
    · rename_i h
      rw [h.1] at hunit
      push_cast at hunit
      nlinarith
    · nlinarith
  have hside : u / 2 < 1 / 2 * 2 ^ e := hreach.trans_le (by gcongr; exact Double.reach_le)
  rcases le_total (m * 2 ^ e - n * u) (u / 2) with h | h
  · have hn : n ≠ 0 := by
      rintro rfl
      norm_num at hlt hunit
      linarith
    refine hlow hn (Near.of_lt ?_ ?_) <;> linarith
  · push_cast at hhigh
    refine hhigh (Near.of_lt ?_ ?_) <;> linarith

/-! ## The search -/

theorem near_search (hm : m ≠ 0) {top : Int} {count fuel last : Nat}
    (hcount : count ≤ last) (hlast : last < count + fuel)
    (hhit : hit? (Interval.around m e) top last ≠ none) :
    Near m e (search (Interval.around m e) top count fuel).value := by
  induction fuel generalizing count with
  | zero => omega
  | succ fuel ih =>
    rw [search]
    rcases hit?_spec (Interval.around m e) top count with ⟨n, hn, hin⟩ | ⟨hnone, -⟩
    · rw [hn]
      exact (inside_iff hm).mp hin
    · rw [hnone]
      have hne : count ≠ last := by
        rintro rfl
        exact hhit hnone
      exact ih (by omega) (by omega)

theorem value_normalize (d : Decimal) (fuel : Nat) : (d.normalize fuel).value = d.value := by
  induction fuel generalizing d with
  | zero => rfl
  | succ fuel ih =>
    rw [normalize]
    split
    · rename_i h
      rw [Bool.and_eq_true, decide_eq_true_eq, decide_eq_true_eq] at h
      have hdigits : (d.digits : ℚ) = (d.digits / 10 : Nat) * 10 := by
        exact_mod_cast (Nat.div_mul_cancel (Nat.dvd_of_mod_eq_zero h.2)).symm
      rw [ih, value, value, zpow_add_one₀ (by norm_num), hdigits]
      ring
    · rfl

/-- The shortest decimal of a number lies in its interval. -/
theorem near_shortest (hc : Canonical m e) (hm : m ≠ 0) : Near m e (shortest m e).value := by
  have hden := around_den_ne_zero (m := m) (e := e)
  have hone : (1 : ℚ) ≤ m := by exact_mod_cast Nat.one_le_iff_ne_zero.mpr hm
  have hnum : (Interval.around m e).value ≠ 0 := by
    intro h0
    have hvalue := around_value (m := m) (e := e)
    rw [h0, Nat.cast_zero, zero_div] at hvalue
    have hpos : (0 : ℚ) < m * 2 ^ e := by positivity
    linarith
  have hleast : (2 : ℚ) ^ (-4000 : Int) ≤
      (Interval.around m e).value / (Interval.around m e).den := by
    rw [around_value]
    calc (2 : ℚ) ^ (-4000 : Int) ≤ 2 ^ e := Double.two_zpow_le (by have := hc.2.1; omega)
      _ ≤ m * 2 ^ e := le_mul_of_one_le_left (by positivity) hone
  have htop := powerAbove_spec hden 8 (powerGuess_spec hnum hden hleast)
  rw [around_value] at htop
  rw [shortest, if_neg hm, value_normalize]
  exact near_search hm (by decide) (by decide) (hit?_seventeen hc hm htop)

theorem digits_shortest_ne_zero (hc : Canonical m e) (hm : m ≠ 0) : (shortest m e).digits ≠ 0 := by
  intro h0
  have hnear := near_shortest hc hm
  rw [value, h0, Nat.cast_zero, zero_mul] at hnear
  exact hm (Double.eq_zero_of_near_zero hnear)

end Wirework.Decimal
