import Wirework.Project.Node

/-!
# The order of entities

Tables are created after the tables that they refer to. Among the entities whose references are
met, the first one of the list goes first; entities that wait for a cycle of references keep their
order at the end.
-/

namespace Wirework.Migration

/-- The other entities of a list that an entity refers to, by name. -/
def references (entities : List Node) (e : Node) : List String :=
  let names := entities.map (·.name)
  (e.fields.filterMap (·.referencedEntity?)).filter fun r => names.contains r && r ≠ e.name

/-- The references that stand under each id; of two entities with one id the last one counts. -/
def referencesById (entities : List Node) : Dict (List String) :=
  .ofList (entities.map fun e => (e.id, references entities e))

/-- The first entity whose references are all placed, and the others. -/
def takeReady (waits : Node → List String) (placed : List String) :
    List Node → Option (Node × List Node)
  | [] => none
  | e :: rest =>
    if (waits e).all placed.contains then some (e, rest)
    else (takeReady waits placed rest).map fun (ready, others) => (ready, e :: others)

/-- Places the first ready entity until none is ready; the count bounds the steps. -/
def placeAll (waits : Node → List String) (placed : List String) (remaining : List Node) :
    Nat → List Node
  | 0 => remaining
  | count + 1 =>
    match takeReady waits placed remaining with
    | some (ready, others) => ready :: placeAll waits (ready.name :: placed) others count
    | none => remaining

def order (entities : List Node) : List Node :=
  let waits := referencesById entities
  placeAll (fun e => (waits.get? e.id).getD []) [] entities entities.length

end Wirework.Migration
