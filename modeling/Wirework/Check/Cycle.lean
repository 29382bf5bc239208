import Wirework.Project.Graph

/-!
# Cycles of data flow

A depth-first search along the data-flow edges of a graph. It stops at the first edge that leads back
to the path it is on.
-/

namespace Wirework.Graph

def flowTargets (g : Graph) (id : String) : List String :=
  if g.hasNode id then
    (g.edges.values.filter fun e => e.isDataFlow && e.fromNode = id).map (·.toNode)
  else []

/-- Follows all edges from the end of a path, whose last node comes first. The search fails with a
node of the path that an edge leads back to; otherwise it gives the nodes visited. The fuel bounds
the length of the path. -/
def searchFrom (next : String → List String) :
    Nat → List String → List String → String → Except String (List String)
  | 0, _, visited, _ => .ok visited
  | fuel + 1, path, visited, id =>
    (next id).foldlM
      (fun visited target =>
        if path.contains target then .error target
        else if visited.contains target then .ok visited
        else searchFrom next fuel (target :: path) (target :: visited) target)
      visited

/-- A node on a cycle of data flow, the first one that the search meets. -/
def cycleNode? (g : Graph) : Option String :=
  let fuel := g.nodes.size + g.edges.size + 1
  let search := g.nodes.keys.foldlM
    (fun visited start =>
      if visited.contains start then .ok visited
      else searchFrom g.flowTargets fuel [start] (start :: visited) start)
    []
  match search with
  | .ok _ => none
  | .error id => some id

end Wirework.Graph
