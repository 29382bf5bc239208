import Wirework.Data.Same

/-!
# Ordinals

An ordinal is the place of a thing in an order that an editor keeps. It is an integer, except that a
member of an enumeration may be given for it, whose value is kept as it stands.
-/

namespace Wirework

/-- A place in an order. -/
inductive Ordinal where
  | int (n : Int)
  /-- The value of a member that is no integer. -/
  | other (value : Data)

namespace Ordinal

instance : Inhabited Ordinal := ⟨.int 0⟩

instance (n : Nat) : OfNat Ordinal n := ⟨.int n⟩

/-- The ordinal that a member's value stands for. -/
def ofData : Data → Ordinal
  | .int n => .int n
  | value => .other value

def toData : Ordinal → Data
  | .int n => .int n
  | .other value => value

def int? : Ordinal → Option Int
  | .int n => some n
  | .other _ => none

/-- The ordinal as it stands in a file, where a truth value counts as a number. -/
def counted : Ordinal → Ordinal
  | .other (.bool b) => .int b.toNat
  | o => o

/-- Whether an ordinal stands before another one; nothing where there is no order between them. -/
def before? (a b : Ordinal) : Option Bool := a.toData.less? b.toData

/-- The number on the other side of zero, if the ordinal is a number. -/
def opposite? : Ordinal → Option Ordinal
  | .int n => some (.int (-n))
  | .other (.bool b) => some (.int (-(b.toNat : Int)))
  | .other (.float x) => some (.other (.float x.opposite))
  | .other _ => none

end Ordinal

end Wirework
