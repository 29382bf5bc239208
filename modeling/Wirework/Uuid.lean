import Wirework.Number.Double
import Wirework.Text.Quoted

/-!
# Unique ids

Ids in the form of random identifiers of version four, each of which is a function of a seed and a
number. Distinct numbers below the modulus are mixed into distinct words.
-/

namespace Wirework.Uuid

/-- The number of words of 128 bits. -/
def modulus : Nat := Number.pow2 128

/-- An odd number near the golden ratio of the words, so that its multiples are spread evenly. -/
def stride : Nat := 0x9E3779B97F4A7C15F39CC0605CEDC835

/-- Shifts the high bits of a word into its low ones and spreads the result. -/
def stir (word : Nat) : Nat := (word ^^^ (word >>> 67)) * stride % modulus

def word (seed n : Nat) : Nat := stir (stir ((seed + n * stride) % modulus))

def marked (word : Nat) : Nat :=
  let high := word >>> 64
  let low := word % Number.pow2 62 + Number.pow2 63
  (((high >>> 16) <<< 16) + 0x4000 + high % 0x1000) <<< 64 + low

/-- A word in hexadecimal digits, in five groups. -/
def text (word : Nat) : String :=
  let digits := Text.hex 32 word
  let group := fun start size => String.ofList ((digits.drop start).take size)
  "-".intercalate [group 0 8, group 8 4, group 12 4, group 16 4, group 20 12]

def fresh (seed n : Nat) : String := text (marked (word seed n))

end Wirework.Uuid
