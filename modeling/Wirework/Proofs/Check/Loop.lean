import Wirework.Proofs.Check.Rules

/-!
# The search for cycles as a loop

The search is written as a recursion along a path. Here it is set against a loop that keeps the path
as a stack of frames, each with the targets that are still to be looked at (`Loop.step`). A frame is
worked off as the recursion goes over its targets (`Loop.follows_frame`), so the loop comes to an
end on every graph, and with the answer of the search (`ends_cycleNode?`). What the rule makes of
that answer is said by closed walks along the edges of data flow (`noCycles_exact`).
-/

namespace Wirework

namespace Graph

/-! ## The loop -/

/-- Where the loop stands: the nodes that it has not started from yet, the path with the targets
left at each of its nodes, last node first, and the nodes visited. -/
structure Loop where
  starts : List String
  stack : List (String × List String)
  visited : List String

namespace Loop

variable {next : String → List String} {starts visited targets U : List String}
  {stack : List (String × List String)} {id target : String} {fuel : Nat} {l l' : Loop}
  {answer : Option String}

def path (stack : List (String × List String)) : List String := stack.map Prod.fst

/-- One turn of the loop leads to another state or to an answer. -/
def step (next : String → List String) (l : Loop) : Loop ⊕ Option String :=
  match l.stack with
  | [] =>
    match l.starts with
    | [] => .inr none
    | start :: starts =>
      if start ∈ l.visited then .inl { l with starts }
      else .inl ⟨starts, [(start, next start)], start :: l.visited⟩
  | (_, []) :: stack => .inl { l with stack }
  | (id, target :: targets) :: stack =>
    if target ∈ id :: path stack then .inr (some target)
    else if target ∈ l.visited then .inl { l with stack := (id, targets) :: stack }
    else .inl ⟨l.starts, (target, next target) :: (id, targets) :: stack, target :: l.visited⟩

/-- After finitely many turns the loop ends with an answer. -/
inductive Ends (next : String → List String) : Loop → Option String → Prop where
  | here {l : Loop} {answer : Option String} (h : l.step next = .inr answer) : Ends next l answer
  | turn {l l' : Loop} {answer : Option String} (h : l.step next = .inl l')
      (hends : Ends next l' answer) : Ends next l answer

/-- The loop goes on from a state as a run over visited nodes does: where the run succeeds, the loop
comes to a given stack with what was visited, and where it fails, the loop ends with the failure. -/
def Follows (next : String → List String) (starts : List String)
    (stack : List (String × List String)) (l : Loop) : Except String (List String) → Prop
  | .ok visited => ∀ answer, Ends next ⟨starts, stack, visited⟩ answer → Ends next l answer
  | .error id => Ends next l (some id)

theorem Follows.turn {r : Except String (List String)} (h : l.step next = .inl l')
    (hl : Follows next starts stack l' r) : Follows next starts stack l r := by
  cases r with
  | ok visited => exact fun answer hends => Ends.turn h (hl answer hends)
  | error id => exact Ends.turn h hl

theorem Follows.bind {starts' : List String} {stack' : List (String × List String)}
    {r : Except String (List String)} {k : List String → Except String (List String)}
    (h : Follows next starts' stack' l r)
    (hk : ∀ visited, Follows next starts stack ⟨starts', stack', visited⟩ (k visited)) :
    Follows next starts stack l (r >>= k) := by
  cases r with
  | error id => exact h
  | ok visited =>
    change Follows next starts stack l (k visited)
    have hrest := hk visited
    cases hrun : k visited with
    | ok visited' =>
      rw [hrun] at hrest
      exact fun answer hends => h answer (hrest answer hends)
    | error id =>
      rw [hrun] at hrest
      exact h (some id) hrest

/-- The loop works off a frame as the recursion goes over its targets. The outer induction is over
the fuel, which bounds the room left for the path, the inner one over the targets of the frame. -/
theorem follows_frame (hU : ∀ v, ∀ w ∈ next v, w ∈ U) (hfuel : Fuelled U (id :: path stack) fuel)
    (htargets : targets ⊆ U) :
    Follows next starts stack ⟨starts, (id, targets) :: stack, visited⟩
      (targets.foldlM (visit next (fuel - 1) (id :: path stack)) visited) := by
  induction fuel generalizing id stack targets visited with
  | zero => exact absurd rfl hfuel.ne_zero
  | succ fuel ih =>
    rw [Nat.add_sub_cancel]
    induction targets generalizing visited with
    | nil => exact fun answer hends => .turn rfl hends
    | cons target rest ihrest =>
      obtain ⟨htarget, hrest⟩ := List.cons_subset.mp htargets
      rw [List.foldlM_cons]
      by_cases hback : target ∈ id :: path stack
      · rw [visit_of_mem_path hback]
        exact Ends.here (if_pos hback)
      · have hfirst : Follows next starts ((id, rest) :: stack)
            ⟨starts, (id, target :: rest) :: stack, visited⟩
            (visit next fuel (id :: path stack) visited target) := by
          by_cases hseen : target ∈ visited
          · rw [visit_of_mem_visited hback hseen]
            exact fun answer hends => .turn ((if_neg hback).trans (if_pos hseen)) hends
          · have hpush := hfuel.push htarget hback
            rw [visit_of_new hback hseen, searchFrom_of_ne_zero hpush.ne_zero]
            refine Follows.turn ((if_neg hback).trans (if_neg hseen)) ?_
            exact ih hpush (hU target)
        exact hfirst.bind fun visited => ihrest hrest

/-- The loop starts from the nodes of a list as the search sweeps through them. -/
theorem follows_starts (starts visited : List String) (hU : ∀ v, ∀ w ∈ next v, w ∈ U)
    (hfuel : ∀ start ∈ starts, Fuelled U [start] fuel) :
    Follows next [] [] ⟨starts, [], visited⟩ (starts.foldlM (sweep next fuel) visited) := by
  induction starts generalizing visited with
  | nil => exact fun answer hends => hends
  | cons start rest ih =>
    obtain ⟨hstart, hrest⟩ := List.forall_mem_cons.mp hfuel
    have hfirst : Follows next rest [] ⟨start :: rest, [], visited⟩
        (sweep next fuel visited start) := by
      by_cases hseen : start ∈ visited
      · rw [sweep_of_mem hseen]
        exact fun answer hends => .turn (if_pos hseen) hends
      · rw [sweep_of_new hseen, searchFrom_of_ne_zero hstart.ne_zero]
        refine Follows.turn (if_neg hseen) ?_
        exact follows_frame hU hstart (hU start)
    rw [List.foldlM_cons]
    exact hfirst.bind fun visited => ih visited hrest

end Loop

variable {g : Graph} {a b id : String}

/-- On every graph the loop ends, and with the node that the search reports. -/
theorem ends_cycleNode? (g : Graph) :
    Loop.Ends g.flowTargets ⟨g.nodes.keys, [], []⟩ g.cycleNode? := by
  have hrun : Loop.Follows g.flowTargets [] [] ⟨g.nodes.keys, [], []⟩ (g.search g.searchFuel) :=
    Loop.follows_starts _ _ flowTargets_subset_stations fun start hstart =>
      fuelled_start hstart length_stations_lt
  rcases cycleNode?_cases g with ⟨visited, hsearch, hnone⟩ | ⟨id, hsearch, hsome⟩
  · rw [hsearch] at hrun
    rw [hnone]
    exact hrun none (.here rfl)
  · rw [hsearch] at hrun
    rw [hsome]
    exact hrun

/-! ## Closed walks -/

/-- Along an edge data flows from a node of the graph. -/
structure IsFlow (g : Graph) (e : Edge) : Prop where
  edge : e ∈ g.edges.values
  dataFlow : e.isDataFlow = true
  source : g.hasNode e.fromNode = true

/-- Edges of data flow lead from one node to another, each on from where the last one ends. -/
inductive Walk (g : Graph) : String → List Edge → String → Prop where
  | nil (a : String) : Walk g a [] a
  | cons {e : Edge} {walk : List Edge} {b : String} (he : g.IsFlow e)
      (hwalk : Walk g e.toNode walk b) : Walk g e.fromNode (e :: walk) b

/-- A closed walk of at least one edge leads through a node. -/
def OnCycle (g : Graph) (id : String) : Prop := ∃ walk, walk ≠ [] ∧ g.Walk id walk id

theorem flows_iff_isFlow : g.Flows a b ↔ ∃ e, g.IsFlow e ∧ e.fromNode = a ∧ e.toNode = b := by
  rw [flows_iff]
  constructor
  · rintro ⟨hnode, k, e, hk, hflow, rfl, hto⟩
    exact ⟨e, ⟨Dict.mem_values_iff.mpr ⟨k, hk⟩, hflow, hnode⟩, rfl, hto⟩
  · rintro ⟨e, he, rfl, hto⟩
    obtain ⟨k, hk⟩ := Dict.mem_values_iff.mp he.edge
    exact ⟨he.source, k, e, hk, he.dataFlow, rfl, hto⟩

theorem exists_walk_iff : (∃ walk, g.Walk a walk b) ↔ Relation.ReflTransGen g.Flows a b := by
  constructor
  · rintro ⟨walk, hwalk⟩
    induction hwalk with
    | nil a => exact .refl
    | cons he _ ih => exact .head (flows_iff_isFlow.mpr ⟨_, he, rfl, rfl⟩) ih
  · intro hreach
    induction hreach using Relation.ReflTransGen.head_induction_on with
    | refl => exact ⟨[], .nil b⟩
    | head hstep _ ih =>
      obtain ⟨e, he, rfl, rfl⟩ := flows_iff_isFlow.mp hstep
      obtain ⟨walk, hwalk⟩ := ih
      exact ⟨e :: walk, .cons he hwalk⟩

theorem onCycle_iff : g.OnCycle id ↔ Relation.TransGen g.Flows id id := by
  rw [Relation.TransGen.head'_iff]
  constructor
  · rintro ⟨walk, hne, hwalk⟩
    cases hwalk with
    | nil => exact absurd rfl hne
    | @cons e walk _ he hwalk =>
      exact ⟨e.toNode, flows_iff_isFlow.mpr ⟨e, he, rfl, rfl⟩, exists_walk_iff.mp ⟨walk, hwalk⟩⟩
  · rintro ⟨c, hstep, hback⟩
    obtain ⟨e, he, rfl, rfl⟩ := flows_iff_isFlow.mp hstep
    obtain ⟨walk, hwalk⟩ := exists_walk_iff.mpr hback
    exact ⟨e :: walk, List.cons_ne_nil e walk, .cons he hwalk⟩

end Graph

/-! ## The rule -/

/-- **What the rule against cycles finds.** On every graph the loop behind it ends, and the rule
reports nothing exactly if no closed walk leads along edges of data flow. Otherwise it reports one
error, at a node on such a walk. -/
theorem ProjectRule.noCycles_exact (g : Graph) :
    Graph.Loop.Ends g.flowTargets ⟨g.nodes.keys, [], []⟩ g.cycleNode? ∧
    (noCycles.findings g = [] ↔ ∀ id, ¬ g.OnCycle id) ∧
    (noCycles.findings g ≠ [] → ∃ issue id, noCycles.findings g = [issue] ∧
      issue.severity = .error ∧ issue.kind = .cyclicDependency ∧ issue.nodeId = some id ∧
      g.OnCycle id) := by
  simp only [Graph.onCycle_iff]
  refine ⟨g.ends_cycleNode?, noCycles_eq_nil_iff, fun hfound => ?_⟩
  cases hid : g.cycleNode? with
  | none => exact absurd (by simp [noCycles, hid]) hfound
  | some id =>
    have hone : noCycles.findings g = [{
        kind := .cyclicDependency
        message := "Cyclic dependency detected in data flow"
        nodeId := some id }] := by
      simp only [noCycles, hid]
    exact ⟨_, id, hone, rfl, rfl, rfl, Graph.transGen_of_cycleNode? hid⟩

end Wirework
