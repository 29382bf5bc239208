import Wirework.Text.Alphanumeric
import Wirework.Text.Blank
import Wirework.Text.CaseMap

/-!
# Characters in search patterns

What a pattern asks of one character: `CharTest`. Characters are given by their code points, which may
also be code points that no character has. A test may leave case aside: then characters are compared
by their lower case, and some lower case letters with the same upper case count as one.
-/

namespace Wirework

/-! ## Case -/

inductive Casing where
  /-- Upper and lower case differ. -/
  | exact
  /-- The case of the letters from A to Z is left aside. -/
  | ascii
  /-- The case of all letters is left aside. -/
  | unicode
  deriving DecidableEq

namespace Casing

def asciiLower (n : Nat) : Nat := if 0x41 ≤ n && n ≤ 0x5A then n + 0x20 else n

/-- The lower case of a code point, as one code point. -/
def unicodeLower (n : Nat) : Nat :=
  if n < 0x80 then asciiLower n
  else if n.isValidChar then ((Text.lowerChar (Char.ofNat n)).head?.map Char.toNat).getD n
  else n

/-- The code point that a code point is compared by. -/
def lower : Casing → Nat → Nat
  | .exact, n => n
  | .ascii, n => asciiLower n
  | .unicode, n => unicodeLower n

/-- Lower case letters that are the same letter when case is left aside. -/
def kinships : List (List Nat) := [
  [0x69, 0x131], [0x73, 0x17F], [0xB5, 0x3BC], [0x345, 0x3B9, 0x1FBE], [0x390, 0x1FD3],
  [0x3B0, 0x1FE3], [0x3B2, 0x3D0], [0x3B5, 0x3F5], [0x3B8, 0x3D1], [0x3BA, 0x3F0], [0x3C0, 0x3D6],
  [0x3C1, 0x3F1], [0x3C2, 0x3C3], [0x3C6, 0x3D5], [0x432, 0x1C80], [0x434, 0x1C81], [0x43E, 0x1C82],
  [0x441, 0x1C83], [0x442, 0x1C84, 0x1C85], [0x44A, 0x1C86], [0x463, 0x1C87], [0x1C88, 0xA64B],
  [0x1E61, 0x1E9B], [0xFB05, 0xFB06]]

/-- The code points that count as one with a code point in lower case, which is among them. -/
def kin : Casing → Nat → List Nat
  | .unicode, n => (kinships.find? (·.contains n)).getD [n]
  | _, n => [n]

/-- The code points whose lower case is a code point in lower case. -/
def origins : Casing → Nat → List Nat
  | .exact, n => [n]
  | .ascii, n => if 0x61 ≤ n && n ≤ 0x7A then [n, n - 0x20] else [n]
  | .unicode, n =>
    let shifted := Text.lowerShifts.filterMap fun s =>
      let origin := ((n : Int) - s.distance).toNat
      if s.first ≤ origin && origin ≤ s.last && (origin - s.first) % s.stride = 0 then some origin
      else none
    let expanded := Text.lowerExpansions.filterMap fun (origin, expansion) =>
      if expansion.head? = some n then some origin else none
    n :: shifted ++ expanded

end Casing

/-! ## Sets -/

inductive CharClass where
  | digit | word | space
  deriving DecidableEq

/-- Whether a character belongs to a class. With `ascii`, ASCII characters alone do. -/
def CharClass.has (ascii : Bool) (c : Char) : CharClass → Bool
  | .digit => (!ascii || c.toNat < 0x80) && Text.isDecimalDigit c
  | .word => (!ascii || c.toNat < 0x80) && (c = '_' || Text.isAlphanumeric c)
  | .space => if ascii then c = ' ' || (9 ≤ c.toNat && c.toNat ≤ 13) else Text.isBlank c

inductive SetItem where
  | code (n : Nat)
  | range (low high : Nat)
  /-- The characters of a class, or all others. -/
  | inClass (ascii negated : Bool) (cls : CharClass)
  deriving DecidableEq

/-- Whether a code point in lower case, if case is left aside, is in a part of a set. -/
def SetItem.has (casing : Casing) (n : Nat) : SetItem → Bool
  | .code m => n = m
  | .range low high =>
    match casing with
    | .exact => low ≤ n && n ≤ high
    | _ => ((casing.kin n).flatMap casing.origins).any fun m => low ≤ m && m ≤ high
  | .inClass ascii negated cls => cls.has ascii (Char.ofNat n) ≠ negated

/-- What a pattern asks of a character: to be in a set, or not to be in it. -/
structure CharTest where
  casing : Casing := .exact
  negated : Bool := false
  items : List SetItem
  deriving DecidableEq

namespace CharTest

def passes (t : CharTest) (c : Char) : Bool :=
  t.items.any (·.has t.casing (t.casing.lower c.toNat)) ≠ t.negated

def ofCode (casing : Casing) (n : Nat) (negated : Bool := false) : CharTest where
  casing := casing
  negated := negated
  items := (casing.kin (casing.lower n)).map .code

/-- Asks for a character of a set. A single character in it that lies beyond the first plane is
compared as it stands. -/
def ofSet (casing : Casing) (negated : Bool) (items : List SetItem) : CharTest where
  casing := casing
  negated := negated
  items := items.flatMap fun item =>
    match item with
    | .code n =>
      if casing.lower n < 0x10000 then (casing.kin (casing.lower n)).map .code else [.code n]
    | item => [item]

def any (lineBreaks : Bool) : CharTest where
  negated := true
  items := if lineBreaks then [] else [.code 10]

end CharTest

end Wirework
