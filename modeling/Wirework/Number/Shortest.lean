import Wirework.Number.Double

/-!
# Shortest decimal digits

The fewest decimal digits that read back as a given finite number. The reals that round to
`m · 2 ^ e` form an interval, closed if `m` is even. For one digit, two digits and so on, the two
neighbours of the number on that decimal grid are tried; the first grid with a hit wins, and of two
hits the nearer one.
-/

namespace Wirework

/-- A positive decimal: its digits times ten to `power`. -/
structure Decimal where
  digits : Nat
  power : Int
  deriving DecidableEq

namespace Decimal

/-- Three ascending fractions with a common denominator: the least real that rounds to a number, the
number, and the greatest such real. -/
structure Interval where
  low : Nat
  value : Nat
  high : Nat
  den : Nat
  closed : Bool

/-- The reals that round to `m · 2 ^ e`. Below a power of two the grid is twice as fine. -/
def Interval.around (m : Nat) (e : Int) : Interval :=
  let below := if m = Number.pow2 52 ∧ -1074 < e then 1 else 2
  let shift := fun n : Nat => if 0 ≤ e then n <<< e.toNat else n
  let den := if 0 ≤ e then 4 else 4 <<< e.natAbs
  ⟨shift (4 * m - below), shift (4 * m), shift (4 * m + 2), den, m % 2 = 0⟩

/-- Whether the decimal `d · unitNum / unitDen` lies in the interval. -/
def Interval.contains (i : Interval) (d unitNum unitDen : Nat) : Bool :=
  let x := d * unitNum * i.den
  if i.closed then i.low * unitDen ≤ x && x ≤ i.high * unitDen
  else i.low * unitDen < x && x < i.high * unitDen

/-- The least power of ten above `num / den`, searched upward from `start`. -/
def powerAbove (num den : Nat) (start : Int) : Nat → Int
  | 0 => start
  | fuel + 1 =>
    let above :=
      if start < 0 then num * Number.pow10 start.natAbs < den else num < den * Number.pow10 start.toNat
    if above then start else powerAbove num den (start + 1) fuel

/-- A power of ten at most `num / den`, two at most below the greatest one. -/
def powerGuess (num den : Nat) : Int :=
  let bits : Int := (num.log2 : Int) - (den.log2 : Int)
  (bits * 1233).fdiv 4096 - 1

/-- The neighbours of the value on the grid of `count` digits, tried against the interval. -/
def hit? (i : Interval) (top : Int) (count : Nat) : Option Decimal :=
  let power := top - count
  let unitNum := if 0 ≤ power then Number.pow10 power.toNat else 1
  let unitDen := if 0 ≤ power then 1 else Number.pow10 power.natAbs
  let d := i.value * unitDen / (i.den * unitNum)
  let low := d ≠ 0 && i.contains d unitNum unitDen
  let high := i.contains (d + 1) unitNum unitDen
  let pick := fun n : Nat => some (⟨n, power⟩ : Decimal)
  match low, high with
  | true, true =>
    -- twice the value against the sum of the two neighbours
    let twice := 2 * i.value * unitDen
    let sum := (2 * d + 1) * unitNum * i.den
    if twice < sum then pick d
    else if sum < twice then pick (d + 1)
    else if d % 2 = 0 then pick d else pick (d + 1)
  | true, false => pick d
  | false, true => pick (d + 1)
  | false, false => none

/-- The first grid with a hit, from `count` digits on. -/
def search (i : Interval) (top : Int) (count : Nat) : Nat → Decimal
  | 0 => ⟨0, 0⟩
  | fuel + 1 =>
    match hit? i top count with
    | some d => d
    | none => search i top (count + 1) fuel

/-- Trailing zeros moved into the power; the fuel bounds their number. -/
def normalize (d : Decimal) : Nat → Decimal
  | 0 => d
  | fuel + 1 =>
    if d.digits ≠ 0 && d.digits % 10 = 0 then normalize ⟨d.digits / 10, d.power + 1⟩ fuel else d

/-- The shortest decimal that reads back as `m · 2 ^ e`. -/
def shortest (m : Nat) (e : Int) : Decimal :=
  if m = 0 then ⟨0, 0⟩
  else
    let i := Interval.around m e
    let top := powerAbove i.value i.den (powerGuess i.value i.den) 8
    (search i top 1 17).normalize 20

end Decimal

end Wirework
