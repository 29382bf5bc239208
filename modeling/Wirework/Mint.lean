import Wirework.Calendar

/-!
# Fresh ids and the clock

New things in a project need an id and the time. A `Mint` hands out both: it counts the ids drawn of
each kind and spells them by a given scheme, so that everything built from it is a function of its
inputs.
-/

namespace Wirework

/-- What ids are drawn for. -/
inductive IdKind where
  | node | edge | group | field
  deriving DecidableEq

/-- A source of fresh ids, and the current time. -/
structure Mint where
  /-- The spelling of the id with a given number, counted from one. -/
  spell : IdKind → Nat → String
  now : Moment
  nodes : Nat := 0
  edges : Nat := 0
  groups : Nat := 0
  fields : Nat := 0

namespace Mint

instance : Inhabited Mint := ⟨{ spell := fun _ n => toString n, now := default }⟩

def draw (m : Mint) : IdKind → String × Mint
  | .node => (m.spell .node (m.nodes + 1), { m with nodes := m.nodes + 1 })
  | .edge => (m.spell .edge (m.edges + 1), { m with edges := m.edges + 1 })
  | .group => (m.spell .group (m.groups + 1), { m with groups := m.groups + 1 })
  | .field => (m.spell .field (m.fields + 1), { m with fields := m.fields + 1 })

end Mint

end Wirework
