import Wirework.Number.Reading
import Wirework.Pattern.Source
import Wirework.Text.CharName

/-!
# Characters and sets in search patterns

How a pattern writes single characters by escapes, and sets of characters in brackets.
-/

namespace Wirework.Pattern

open Wirework.Pattern.Parser

/-! ## Escapes -/

def letterEscape? : Char → Option Nat
  | 'a' => some 7
  | 'f' => some 12
  | 'n' => some 10
  | 'r' => some 13
  | 't' => some 9
  | 'v' => some 11
  | _ => none

def classEscape? (ascii : Bool) : Char → Option SetItem
  | 'd' => some (.inClass ascii false .digit)
  | 'D' => some (.inClass ascii true .digit)
  | 's' => some (.inClass ascii false .space)
  | 'S' => some (.inClass ascii true .space)
  | 'w' => some (.inClass ascii false .word)
  | 'W' => some (.inClass ascii true .word)
  | _ => none

def anchorEscape? (ascii : Bool) : Char → Option Anchor
  | 'A' => some .textStart
  | 'Z' => some .textEnd
  | 'b' => some (.wordEdge ascii)
  | 'B' => some (.notWordEdge ascii)
  | _ => none

def isOctal (c : Char) : Bool := '0'.toNat ≤ c.toNat && c.toNat ≤ '7'.toNat

def isHex (c : Char) : Bool := c.toNat < 128 && (Number.digitValue? 16 c).isSome

def value (base : Nat) (ds : List Char) : Nat :=
  Number.ofDigits base (ds.filterMap (Number.digitValue? base))

/-- Exactly `count` hexadecimal digits as a code point. -/
def hexEscape (count : Nat) : Parser Nat := do
  let ds ← takeWhile isHex count
  if ds.length = count && value 16 ds < 0x110000 then return value 16 ds else fail

def octalEscape (ds : List Char) : Parser Nat :=
  if value 8 ds ≤ 0xFF then return value 8 ds else fail

def nameEscape : Parser Nat := do
  expect '\x7b'
  match Text.CharName.code? (← nameUntil '\x7d' (← size)) with
  | some n => return n
  | none => fail

/-- The code point of an escape that is neither a class, an anchor nor a number. -/
def plainEscape (c : Char) : Parser Nat :=
  match letterEscape? c with
  | some n => return n
  | none =>
    if c = 'x' then hexEscape 2
    else if c = 'u' then hexEscape 4
    else if c = 'U' then hexEscape 8
    else if c = 'N' then nameEscape
    else if c.isAlphanum then fail
    else return c.toNat

/-! ## Sets -/

/-- One member of a set, before it is known whether it starts a range. -/
def setMember (ascii : Bool) : Token → Parser SetItem
  | .plain c => return .code c.toNat
  | .escaped c =>
    match classEscape? ascii c with
    | some item => return item
    | none => do
      if c = 'b' then return .code 8
      else if isOctal c then return .code (← octalEscape (c :: (← takeWhile isOctal 2)))
      else return .code (← plainEscape c)
  | .stray => fail

/-- The members of a set up to its closing bracket, which cannot be the first member; `fuel` bounds
their number. -/
def setItems (ascii : Bool) (acc : List SetItem) : Nat → Parser (List SetItem)
  | 0 => fail
  | fuel + 1 => do
    match ← next with
    | none => fail
    | some t =>
      if t = .plain ']' && !acc.isEmpty then return acc.reverse
      let first ← setMember ascii t
      if ← accept '-' then
        match ← next with
        | none => fail
        | some t =>
          if t = .plain ']' then return (.code '-'.toNat :: first :: acc).reverse
          match first, ← setMember ascii t with
          | .code low, .code high =>
            if high < low then fail else setItems ascii (.range low high :: acc) fuel
          | _, _ => fail
      else setItems ascii (first :: acc) fuel

/-- A set after its opening bracket. A set of one character is that character. -/
def charSet (o : Options) : Parser Pattern := do
  let negated ← accept '^'
  match ← setItems o.ascii [] (← size) with
  | [.code n] => return .char (.ofCode o.casing n negated)
  | items => return .char (.ofSet o.casing negated items)

end Wirework.Pattern
