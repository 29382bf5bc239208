/-!
# Runs of characters

Sets of characters given as a sorted list of runs. `Run.covers` is the membership test; it stops at
the first run that starts beyond the character.
-/

namespace Wirework.Text

/-- The characters `first`, `first + stride`, … up to `last`. -/
structure Run where
  first : Nat
  last : Nat
  stride : Nat
  deriving DecidableEq

namespace Run

def has (r : Run) (c : Char) : Bool :=
  r.first ≤ c.toNat && c.toNat ≤ r.last && (c.toNat - r.first) % r.stride == 0

/-- Whether a character belongs to a list of runs sorted by their first characters. -/
def covers : List Run → Char → Bool
  | [], _ => false
  | r :: rest, c => r.first ≤ c.toNat && (r.has c || covers rest c)

/-- Runs of neighbours, each given by its distance from the run before it, which ends at `code`, and
by the distance from its first character to its last. -/
def ofGaps (code : Nat) : List Nat → List Run
  | gap :: reach :: rest => ⟨code + gap, code + gap + reach, 1⟩ :: ofGaps (code + gap + reach) rest
  | _ => []

end Run

end Wirework.Text
