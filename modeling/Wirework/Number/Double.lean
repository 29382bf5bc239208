/-!
# Binary floating-point numbers

The 64-bit binary format as data: a number is not-a-number, an infinity, or a signed mantissa times
a power of two. `Double.Canonical` leaves one representation for each number, so equality of terms
tells the two zeros apart and nothing else. Every operation computes the exact rational result and
rounds once, to the nearest number and to the even mantissa on a tie.
-/

namespace Wirework.Number

/-! ## Powers of two and of ten -/

abbrev pow2 (n : Nat) : Nat := Nat.pow 2 n

abbrev pow10 (n : Nat) : Nat := Nat.pow 10 n

end Wirework.Number

namespace Wirework

/-- The one pair of mantissa and exponent that stands for a magnitude. -/
def Double.Canonical (mantissa : Nat) (exponent : Int) : Prop :=
  mantissa < Number.pow2 53 ∧ -1074 ≤ exponent ∧ exponent ≤ 971 ∧
    (Number.pow2 52 ≤ mantissa ∨ exponent = -1074)

instance (m : Nat) (e : Int) : Decidable (Double.Canonical m e) :=
  inferInstanceAs (Decidable (_ ∧ _))

/-- A 64-bit binary floating-point number; `finite` stands for `± mantissa · 2 ^ exponent`. -/
inductive Double where
  | nan
  | infinity (negative : Bool)
  | finite (negative : Bool) (mantissa : Nat) (exponent : Int)
      (canonical : Double.Canonical mantissa exponent)
  deriving DecidableEq

namespace Double

def zero (negative : Bool) : Double := .finite negative 0 (-1074) (by decide)

instance : Inhabited Double := ⟨zero false⟩

/-- A number from its parts; a magnitude outside the format is an infinity. -/
def ofParts (negative : Bool) (mantissa : Nat) (exponent : Int) : Double :=
  if h : Canonical mantissa exponent then .finite negative mantissa exponent h
  else .infinity negative

/-! ## Rounding -/

/-- The quotient rounded to the nearest natural number, a tie to the even one. -/
def roundDiv (num den : Nat) : Nat :=
  let q := num / den
  let r := num % den
  if 2 * r < den then q
  else if den < 2 * r then q + 1
  else if q % 2 = 0 then q else q + 1

/-- Numerator and denominator of `num / den / 2 ^ exponent`. -/
def scaled (num den : Nat) (exponent : Int) : Nat × Nat :=
  if exponent < 0 then (num <<< exponent.natAbs, den) else (num, den <<< exponent.toNat)

/-- The exponent at which `num / den` has a mantissa of 53 bits, or the least one there is. -/
def exponentFor (num den : Nat) : Int :=
  let guess : Int := (num.log2 : Int) - (den.log2 : Int) - 52
  let (n, d) := scaled num den guess
  let exact := if n / d < Number.pow2 52 then guess - 1 else guess
  max exact (-1074)

/-- The number nearest to `± num / den`, for a positive `den`. -/
def ofRatio (negative : Bool) (num den : Nat) : Double :=
  if num = 0 then zero negative
  else
    let e := exponentFor num den
    let (n, d) := scaled num den e
    let m := roundDiv n d
    if m = Number.pow2 53 then ofParts negative (Number.pow2 52) (e + 1) else ofParts negative m e

/-- The number nearest to `± num · 2 ^ exponent`. -/
def ofScaled (negative : Bool) (num : Nat) (exponent : Int) : Double :=
  let (n, d) := scaled num 1 (-exponent)
  ofRatio negative n d

/-- The number nearest to `± digits · 10 ^ power`. The bounds on the power keep the arithmetic small
where the result is an infinity or zero anyway. -/
def ofDecimal (negative : Bool) (digits : Nat) (power : Int) : Double :=
  if digits = 0 then zero negative
  else
    let magnitude : Int := (Nat.toDigits 10 digits).length + power
    if 400 < magnitude then .infinity negative
    else if magnitude < -400 then zero negative
    else if power < 0 then ofRatio negative digits (Number.pow10 power.natAbs)
    else ofRatio negative (digits * Number.pow10 power.toNat) 1

/-- The number nearest to an integer, unless that is beyond the largest finite number. -/
def ofInt? (n : Int) : Option Double :=
  match ofRatio (n < 0) n.natAbs 1 with
  | .finite s m e h => some (.finite s m e h)
  | _ => none

/-! ## Queries -/

def isNan : Double → Bool
  | .nan => true
  | _ => false

def isFinite : Double → Bool
  | .finite .. => true
  | _ => false

/-- The exact integer value of a finite number, if it has one. -/
def toInt? : Double → Option Int
  | .finite negative m e _ =>
    let magnitude? : Option Nat :=
      if 0 ≤ e then some (m <<< e.toNat)
      else if m % Number.pow2 e.natAbs = 0 then some (m >>> e.natAbs) else none
    magnitude?.map fun n => if negative then -(n : Int) else n
  | _ => none

def truncate? : Double → Option Int
  | .finite negative m e _ =>
    let n := if 0 ≤ e then m <<< e.toNat else m >>> e.natAbs
    some (if negative then -(n : Int) else n)
  | _ => none

/-- The greatest integer that is not above a finite number. -/
def floor? : Double → Option Int
  | .finite negative m e _ =>
    let n : Int := if negative then -(m : Int) else m
    some (if 0 ≤ e then n * Number.pow2 e.toNat else n.fdiv (Number.pow2 e.natAbs))
  | _ => none

def magnitude : Double → Double
  | .nan => .nan
  | .infinity _ => .infinity false
  | .finite _ m e h => .finite false m e h

/-- The natural number nearest to a magnitude, the greater one on a tie. -/
def roundMagnitude? : Double → Option Nat
  | .finite _ m e _ =>
    some (if 0 ≤ e then m <<< e.toNat else (2 * m + Number.pow2 e.natAbs) >>> (e.natAbs + 1))
  | _ => none

/-- The signed integer `± m · 2 ^ (exponent - unit)`, for `unit` at most `exponent`. -/
def signedAt (unit : Int) (negative : Bool) (m : Nat) (exponent : Int) : Int :=
  let n : Int := m <<< (exponent - unit).toNat
  if negative then -n else n

/-- The order of two numbers; there is none with not-a-number. The two zeros are equal. -/
def compare? : Double → Double → Option Ordering
  | .nan, _ | _, .nan => none
  | .infinity a, .infinity b => some (compare b.toNat a.toNat)
  | .infinity a, .finite .. => some (if a then .lt else .gt)
  | .finite .., .infinity b => some (if b then .gt else .lt)
  | .finite s m e _, .finite t n f _ =>
    let unit := min e f
    some (compare (signedAt unit s m e) (signedAt unit t n f))

/-- `a ≤ b`, false where there is no order. -/
def le (a b : Double) : Bool :=
  match compare? a b with
  | some .lt | some .eq => true
  | _ => false

/-- `a < b`, false where there is no order. -/
def lt (a b : Double) : Bool := compare? a b = some .lt

def same (a b : Double) : Bool := compare? a b = some .eq

/-! ## Arithmetic -/

/-- The number with the other sign. -/
def opposite : Double → Double
  | .nan => .nan
  | .infinity negative => .infinity !negative
  | .finite negative m e h => .finite (!negative) m e h

def add : Double → Double → Double
  | .nan, _ | _, .nan => .nan
  | .infinity a, .infinity b => if a = b then .infinity a else .nan
  | .infinity a, .finite .. => .infinity a
  | .finite .., .infinity b => .infinity b
  | .finite s m e _, .finite t n f _ =>
    if m = 0 ∧ n = 0 then zero (s && t)
    else
      let unit := min e f
      let sum := signedAt unit s m e + signedAt unit t n f
      ofScaled (sum < 0) sum.natAbs unit

/-- The rounded product with a natural number. -/
def scale (n : Nat) : Double → Double
  | .finite s m e _ => ofScaled s (m * n) e
  | x => x

def quotient (n : Nat) : Double → Double
  | .finite s m e _ => let (num, den) := scaled m n (-e); ofRatio s num den
  | x => x

/-- The quotient by a positive natural number, rounded down to an integer. -/
def floorQuotient (n : Nat) : Double → Double
  | .finite s m e _ =>
    let (num, den) := scaled m n (-e)
    let whole : Int := Int.fdiv (if s then -(num : Int) else num) den
    ofRatio s whole.natAbs 1
  | _ => .nan

def half : Double → Double
  | .finite s m e _ => ofScaled s m (e - 1)
  | x => x

end Double

end Wirework
