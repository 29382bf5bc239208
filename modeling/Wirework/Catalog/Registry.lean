import Wirework.Catalog.Definition

/-!
# Registries

A registry holds component definitions under their ids, in the order in which they were registered.
-/

namespace Wirework

structure Registry where
  definitions : Dict Definition := .empty
  deriving Inhabited

namespace Registry

/-- The registry with a definition, in place of one with the same id. -/
def register (r : Registry) (d : Definition) : Registry := ⟨r.definitions.insert d.id d⟩

def unregister (r : Registry) (id : String) : Option Definition × Registry :=
  (r.definitions.get? id, ⟨r.definitions.erase id⟩)

def get? (r : Registry) (id : String) : Option Definition := r.definitions.get? id

def require (r : Registry) (id : String) : Except Failure Definition :=
  match r.get? id with
  | some d => .ok d
  | none => .error (.componentNotFound id)

def contains (r : Registry) (id : String) : Bool := r.definitions.contains id

def all (r : Registry) : List Definition := r.definitions.values

def ids (r : Registry) : List String := r.definitions.keys

def ofCategory (r : Registry) (category : Category) : List Definition :=
  r.all.filter (·.category = category)

/-- The categories with a definition, in the order of their first one. -/
def categories (r : Registry) : List Category := (r.all.map (·.category)).eraseDups

def search (r : Registry) (query : String) : List Definition := r.all.filter (·.matchesQuery query)

/-- A node of a registered component. -/
def instantiate (r : Registry) (id : String) (name : Option String) :
    ExceptT Failure (StateM Mint) Node := do
  match r.require id with
  | .ok d => d.instantiate name
  | .error f => throw f

end Registry

end Wirework
