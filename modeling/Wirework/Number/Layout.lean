import Wirework.Number.Shortest

/-!
# Layout of floating-point text

A `Layout` records how a number's shortest digits are set out: which decimal exponents are written
positionally, how wide an exponent is, and the texts of the values without digits. Positional text
always has a fraction, so that it reads as a floating-point number.
-/

namespace Wirework

/-- The decisions of one number format. -/
structure Layout where
  /-- The least decimal exponent that is written positionally. -/
  leastExponent : Int
  /-- The first decimal exponent that is not written positionally any more. -/
  exponentLimit : Int
  /-- The least number of digits in a written exponent. -/
  exponentWidth : Nat
  nan : String
  infinity : String
  negativeInfinity : String

namespace Layout

/-- Zeros in front, up to a least length. -/
def padLeft (width : Nat) (cs : List Char) : List Char :=
  List.replicate (width - cs.length) '0' ++ cs

/-- The digits of a decimal whose leading digit has the given exponent, without exponent part. -/
def positional (digits : List Char) (exponent : Int) : List Char :=
  if exponent < 0 then
    '0' :: '.' :: (List.replicate (exponent.natAbs - 1) '0' ++ digits)
  else
    let whole := exponent.toNat + 1
    if digits.length ≤ whole then
      digits ++ List.replicate (whole - digits.length) '0' ++ ['.', '0']
    else digits.take whole ++ '.' :: digits.drop whole

/-- One digit, the fraction if there is one, and the exponent with its sign. -/
def scientific (width : Nat) (digits : List Char) (exponent : Int) : List Char :=
  let fraction := if digits.length ≤ 1 then [] else '.' :: digits.drop 1
  let sign := if exponent < 0 then '-' else '+'
  digits.take 1 ++ fraction ++ 'e' :: sign :: padLeft width (Nat.toDigits 10 exponent.natAbs)

def writeDecimal (l : Layout) (d : Decimal) : List Char :=
  let digits := Nat.toDigits 10 d.digits
  let exponent := d.power + digits.length - 1
  if l.leastExponent ≤ exponent ∧ exponent < l.exponentLimit then positional digits exponent
  else scientific l.exponentWidth digits exponent

def write (l : Layout) : Double → String
  | .nan => l.nan
  | .infinity negative => if negative then l.negativeInfinity else l.infinity
  | .finite negative m e _ =>
    String.ofList ((if negative then ['-'] else []) ++ l.writeDecimal (Decimal.shortest m e))

end Layout

/-- Numbers in messages and in generated source text: positional from one ten-thousandth up to
sixteen digits, exponents of at least two digits. -/
def Layout.display : Layout := ⟨-4, 16, 2, "nan", "inf", "-inf"⟩

/-- Numbers in reports: as in messages, with names for what has no digits. -/
def Layout.report : Layout := ⟨-4, 16, 2, "NaN", "Infinity", "-Infinity"⟩

/-- Numbers in project files: positional from one hundred-thousandth up to sixteen digits. What has
no digits is written as a null. -/
def Layout.document : Layout := ⟨-5, 16, 1, "null", "null", "null"⟩

end Wirework
