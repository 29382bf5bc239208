import Mathlib.Data.List.Perm.Subperm
import Mathlib.Logic.Relation
import Wirework.Check.Cycle
import Wirework.Proofs.Graph.View

/-!
# Cycles of data flow, found and not found

The search keeps a path and the nodes visited so far. What it reports lies on a cycle, since every
node of the path reaches its last one (`transGen_of_searchFrom_error`). What it has visited and left
again is settled: data flows from there to settled nodes only, and none of them lies on a cycle
(`Settled`). A node is settled when it leaves the path (`Settled.pop`), so a search that ends without
a report has settled all nodes, and there is no cycle (`cycleNode?_eq_none_iff`).

The fuel never runs out: a path repeats no node, and its nodes are among those of the graph and the
ends of its edges. So more fuel than that changes nothing (`searchFrom_congr_fuel`).
-/

namespace Wirework

/-! ## Runs over a list -/

section FoldlM

variable {α β ε : Type} {f f' : β → α → Except ε β} {xs : List α} {b b' : β} {e : ε}

theorem foldlM_cons_eq_ok_iff {a : α} :
    (a :: xs).foldlM f b = .ok b' ↔ ∃ c, f b a = .ok c ∧ xs.foldlM f c = .ok b' := by
  rw [List.foldlM_cons]
  cases f b a with
  | ok c => simp [bind, Except.bind]
  | error e => simp [bind, Except.bind]

theorem exists_of_foldlM_error (h : xs.foldlM f b = .error e) : ∃ a ∈ xs, ∃ c, f c a = .error e := by
  induction xs generalizing b with
  | nil => cases h
  | cons a rest ih =>
    rw [List.foldlM_cons] at h
    cases hstep : f b a with
    | error e' =>
      rw [hstep] at h
      cases h
      exact ⟨a, List.mem_cons_self, b, hstep⟩
    | ok c =>
      rw [hstep] at h
      obtain ⟨a', ha', c', hc'⟩ := ih h
      exact ⟨a', List.mem_cons_of_mem _ ha', c', hc'⟩

theorem foldlM_congr_mem (h : ∀ a ∈ xs, ∀ c, f c a = f' c a) : xs.foldlM f b = xs.foldlM f' b := by
  induction xs generalizing b with
  | nil => rfl
  | cons a rest ih =>
    obtain ⟨hfirst, hrest⟩ := List.forall_mem_cons.mp h
    rw [List.foldlM_cons, List.foldlM_cons, hfirst b]
    congr 1
    funext c
    exact ih hrest

end FoldlM

namespace Graph

/-! ## One step of the search -/

section Search

variable {next : String → List String} {path visited visited' : List String} {id target : String}
  {fuel fuel' : Nat} {U : List String}

def Leads (next : String → List String) (a b : String) : Prop := b ∈ next a

/-- What the search does about a target of the last node of its path. -/
def visit (next : String → List String) (fuel : Nat) (path visited : List String)
    (target : String) : Except String (List String) :=
  if path.contains target then .error target
  else if visited.contains target then .ok visited
  else searchFrom next fuel (target :: path) (target :: visited) target

theorem searchFrom_succ : searchFrom next (fuel + 1) path visited id =
    (next id).foldlM (visit next fuel path) visited := rfl

theorem searchFrom_of_ne_zero (h : fuel ≠ 0) : searchFrom next fuel path visited id =
    (next id).foldlM (visit next (fuel - 1) path) visited := by
  obtain ⟨fuel, rfl⟩ := Nat.exists_eq_succ_of_ne_zero h
  exact searchFrom_succ

theorem visit_of_mem_path (h : target ∈ path) : visit next fuel path visited target = .error target := by
  rw [visit, if_pos (List.contains_iff_mem.mpr h)]

theorem visit_of_mem_visited (hpath : target ∉ path) (h : target ∈ visited) :
    visit next fuel path visited target = .ok visited := by
  rw [visit, if_neg (List.contains_iff_mem.not.mpr hpath), if_pos (List.contains_iff_mem.mpr h)]

theorem visit_of_new (hpath : target ∉ path) (h : target ∉ visited) :
    visit next fuel path visited target =
      searchFrom next fuel (target :: path) (target :: visited) target := by
  rw [visit, if_neg (List.contains_iff_mem.not.mpr hpath), if_neg (List.contains_iff_mem.not.mpr h)]

/-! ## What is reported -/

theorem transGen_of_searchFrom_error (hpath : ∀ v ∈ path, Relation.ReflTransGen (Leads next) v id)
    (h : searchFrom next fuel path visited id = .error target) :
    Relation.TransGen (Leads next) target target := by
  induction fuel generalizing path visited id with
  | zero => cases h
  | succ fuel ih =>
    rw [searchFrom_succ] at h
    obtain ⟨w, hw, visited', hvisit⟩ := exists_of_foldlM_error h
    have hstep : Leads next id w := hw
    by_cases hback : w ∈ path
    · rw [visit_of_mem_path hback] at hvisit
      obtain rfl := Except.error.inj hvisit
      exact .tail' (hpath w hback) hstep
    · by_cases hseen : w ∈ visited'
      · rw [visit_of_mem_visited hback hseen] at hvisit
        cases hvisit
      · rw [visit_of_new hback hseen] at hvisit
        refine ih (fun v hv => ?_) hvisit
        rcases List.mem_cons.mp hv with rfl | hv
        · exact .refl
        · exact (hpath v hv).tail hstep

/-! ## What is settled -/

/-- The nodes that were visited and are off the path lead to such nodes only, and lie on no cycle. -/
structure Settled (next : String → List String) (path visited : List String) : Prop where
  onPath : ∀ v ∈ path, v ∈ visited
  closed : ∀ v ∈ visited, v ∉ path → ∀ w ∈ next v, w ∈ visited ∧ w ∉ path
  acyclic : ∀ v ∈ visited, v ∉ path → ¬ Relation.TransGen (Leads next) v v

namespace Settled

theorem nil : Settled next [] [] where
  onPath _ hv := absurd hv List.not_mem_nil
  closed _ hv := absurd hv List.not_mem_nil
  acyclic _ hv := absurd hv List.not_mem_nil

/-- From a settled node only settled ones are reached. -/
theorem reach (h : Settled next path visited) {v w : String} (hv : v ∈ visited) (hpath : v ∉ path)
    (hreach : Relation.ReflTransGen (Leads next) v w) : w ∈ visited ∧ w ∉ path := by
  induction hreach with
  | refl => exact ⟨hv, hpath⟩
  | tail _ hstep ih => exact h.closed _ ih.1 ih.2 _ hstep

/-- A new node at the end of the path leaves settled what was. -/
theorem push (h : Settled next path visited) (hnew : target ∉ visited) :
    Settled next (target :: path) (target :: visited) := by
  have hold : ∀ v ∈ target :: visited, v ∉ target :: path → v ∈ visited ∧ v ∉ path := by
    intro v hv hpath
    exact ⟨(List.mem_cons.mp hv).resolve_left (List.ne_of_not_mem_cons hpath),
      List.not_mem_of_not_mem_cons hpath⟩
  refine ⟨fun v hv => ?_, fun v hv hpath w hw => ?_, fun v hv hpath => ?_⟩
  · rcases List.mem_cons.mp hv with rfl | hv
    · exact List.mem_cons_self
    · exact List.mem_cons_of_mem _ (h.onPath v hv)
  · obtain ⟨hv, hpath⟩ := hold v hv hpath
    obtain ⟨hw, hwpath⟩ := h.closed v hv hpath w hw
    refine ⟨List.mem_cons_of_mem _ hw, fun hmem => ?_⟩
    rcases List.mem_cons.mp hmem with rfl | hmem
    · exact hnew hw
    · exact hwpath hmem
  · obtain ⟨hv, hpath⟩ := hold v hv hpath
    exact h.acyclic v hv hpath

/-- A node whose targets are all settled is settled when it leaves the path: from the settled nodes
no way leads back to it. -/
theorem pop (h : Settled next (id :: path) visited)
    (hdone : ∀ w ∈ next id, w ∈ visited ∧ w ∉ id :: path) : Settled next path visited := by
  refine ⟨fun v hv => h.onPath v (List.mem_cons_of_mem _ hv), fun v hv hpath w hw => ?_,
    fun v hv hpath hcycle => ?_⟩
  · by_cases hid : v = id
    · subst hid
      obtain ⟨hw, hwpath⟩ := hdone w hw
      exact ⟨hw, fun hmem => hwpath (List.mem_cons_of_mem _ hmem)⟩
    · have hoff : v ∉ id :: path := List.not_mem_cons_of_ne_of_not_mem hid hpath
      obtain ⟨hw, hwpath⟩ := h.closed v hv hoff w hw
      exact ⟨hw, fun hmem => hwpath (List.mem_cons_of_mem _ hmem)⟩
  · by_cases hid : v = id
    · subst hid
      obtain ⟨w, hstep, hback⟩ := Relation.TransGen.head'_iff.mp hcycle
      obtain ⟨hw, hwpath⟩ := hdone w hstep
      exact (h.reach hw hwpath hback).2 List.mem_cons_self
    · exact h.acyclic v hv (List.not_mem_cons_of_ne_of_not_mem hid hpath) hcycle

end Settled

/-! ## Fuel -/

/-- A path that repeats no node, within some nodes, and the fuel to go on until there is none left. -/
structure Fuelled (U : List String) (path : List String) (fuel : Nat) : Prop where
  nodup : path.Nodup
  subset : path ⊆ U
  enough : U.length < fuel + path.length

theorem Fuelled.ne_zero (h : Fuelled U path fuel) : fuel ≠ 0 := by
  have hle : path.length ≤ U.length := (List.subperm_of_subset h.nodup h.subset).length_le
  have henough := h.enough
  omega

theorem Fuelled.push (h : Fuelled U path (fuel + 1)) (hU : target ∈ U) (hpath : target ∉ path) :
    Fuelled U (target :: path) fuel where
  nodup := List.nodup_cons.mpr ⟨hpath, h.nodup⟩
  subset := List.cons_subset.mpr ⟨hU, h.subset⟩
  enough := by
    have henough := h.enough
    rw [List.length_cons]
    omega

/-- Fuel beyond what is enough changes nothing. -/
theorem searchFrom_congr_fuel (hU : ∀ v, ∀ w ∈ next v, w ∈ U) (h : Fuelled U path fuel)
    (h' : Fuelled U path fuel') :
    searchFrom next fuel path visited id = searchFrom next fuel' path visited id := by
  induction fuel generalizing fuel' path visited id with
  | zero => exact absurd rfl h.ne_zero
  | succ fuel ih =>
    obtain ⟨fuel', rfl⟩ := Nat.exists_eq_succ_of_ne_zero h'.ne_zero
    rw [searchFrom_succ, searchFrom_succ]
    refine foldlM_congr_mem fun target htarget visited => ?_
    by_cases hpath : target ∈ path
    · rw [visit_of_mem_path hpath, visit_of_mem_path hpath]
    · by_cases hseen : target ∈ visited
      · rw [visit_of_mem_visited hpath hseen, visit_of_mem_visited hpath hseen]
      · rw [visit_of_new hpath hseen, visit_of_new hpath hseen]
        have htargetU := hU id target htarget
        exact ih (h.push htargetU hpath) (h'.push htargetU hpath)

/-! ## What a search settles -/

/-- After a run over targets that succeeds, all of them are settled. -/
structure Covers (path visited visited' targets : List String) : Prop where
  grows : visited ⊆ visited'
  targets : ∀ w ∈ targets, w ∈ visited' ∧ w ∉ path

/-- A search that succeeds settles whatever its path leads to. The inner induction is over the
targets of the last node, the outer one over the fuel, which the path never uses up. -/
theorem settled_of_searchFrom_ok (hU : ∀ v, ∀ w ∈ next v, w ∈ U) (hfuel : Fuelled U path fuel)
    (h : Settled next path visited) (hok : searchFrom next fuel path visited id = .ok visited') :
    Settled next path visited' ∧ Covers path visited visited' (next id) := by
  induction fuel generalizing path visited visited' id with
  | zero => exact absurd rfl hfuel.ne_zero
  | succ fuel ih =>
    rw [searchFrom_succ] at hok
    have htargets : next id ⊆ U := fun w hw => hU id w hw
    generalize next id = targets at hok htargets ⊢
    induction targets generalizing visited with
    | nil =>
      cases hok
      exact ⟨h, fun _ hv => hv, fun w hw => absurd hw List.not_mem_nil⟩
    | cons target rest ihrest =>
      obtain ⟨htargetU, hrestU⟩ := List.cons_subset.mp htargets
      obtain ⟨between, hvisit, hrun⟩ := foldlM_cons_eq_ok_iff.mp hok
      have hfirst : Settled next path between ∧ Covers path visited between [target] := by
        by_cases hpath : target ∈ path
        · rw [visit_of_mem_path hpath] at hvisit
          cases hvisit
        · by_cases hseen : target ∈ visited
          · rw [visit_of_mem_visited hpath hseen] at hvisit
            cases hvisit
            refine ⟨h, fun _ hv => hv, fun w hw => ?_⟩
            rw [List.mem_singleton.mp hw]
            exact ⟨hseen, hpath⟩
          · rw [visit_of_new hpath hseen] at hvisit
            obtain ⟨hsettled, hcovers⟩ := ih (hfuel.push htargetU hpath) (h.push hseen) hvisit
            refine ⟨hsettled.pop hcovers.targets,
              fun _ hv => hcovers.grows (List.mem_cons_of_mem _ hv), fun w hw => ?_⟩
            rw [List.mem_singleton.mp hw]
            exact ⟨hcovers.grows List.mem_cons_self, hpath⟩
      obtain ⟨hsettled, hcovers⟩ := hfirst
      obtain ⟨hsettled', hcovers'⟩ := ihrest hsettled hrun hrestU
      refine ⟨hsettled', fun _ hv => hcovers'.grows (hcovers.grows hv), fun w hw => ?_⟩
      rcases List.mem_cons.mp hw with rfl | hw
      · obtain ⟨hw, hwpath⟩ := hcovers.targets w (List.mem_singleton_self w)
        exact ⟨hcovers'.grows hw, hwpath⟩
      · exact hcovers'.targets w hw

end Search

/-! ## The search through a graph -/

variable {g g' : Graph} {fuel fuel' : Nat} {id : String}

/-- Data flows from a node of the graph to another one. -/
def Flows (g : Graph) : String → String → Prop := Leads g.flowTargets

theorem flows_iff {a b : String} : g.Flows a b ↔ g.hasNode a = true ∧
    ∃ k e, g.edge? k = some e ∧ e.isDataFlow = true ∧ e.fromNode = a ∧ e.toNode = b := by
  unfold Flows Leads flowTargets
  split
  · rename_i ha
    simp only [List.mem_map, List.mem_filter, Dict.mem_values_iff, Bool.and_eq_true,
      decide_eq_true_eq, ha, true_and]
    constructor
    · rintro ⟨e, ⟨⟨k, hk⟩, hflow, hfrom⟩, hto⟩
      exact ⟨k, e, hk, hflow, hfrom, hto⟩
    · rintro ⟨k, e, hk, hflow, hfrom, hto⟩
      exact ⟨e, ⟨⟨k, hk⟩, hflow, hfrom⟩, hto⟩
  · rename_i ha
    simp [ha]

def stations (g : Graph) : List String := g.nodes.keys ++ g.edges.values.map (·.toNode)

theorem length_stations : g.stations.length = g.nodes.size + g.edges.size := by
  simp [stations, Dict.keys, Dict.values, Dict.size]

theorem flowTargets_subset_stations : ∀ v, ∀ w ∈ g.flowTargets v, w ∈ g.stations := by
  intro v w hw
  unfold flowTargets at hw
  split at hw
  · obtain ⟨e, he, rfl⟩ := List.mem_map.mp hw
    exact List.mem_append_right _ (List.mem_map_of_mem (List.mem_filter.mp he).1)
  · exact absurd hw List.not_mem_nil

def sweep (next : String → List String) (fuel : Nat) (visited : List String) (start : String) :
    Except String (List String) :=
  if visited.contains start then .ok visited
  else searchFrom next fuel [start] (start :: visited) start

theorem sweep_of_mem {next : String → List String} {visited : List String} {start : String}
    (h : start ∈ visited) : sweep next fuel visited start = .ok visited := by
  rw [sweep, if_pos (List.contains_iff_mem.mpr h)]

theorem sweep_of_new {next : String → List String} {visited : List String} {start : String}
    (h : start ∉ visited) :
    sweep next fuel visited start = searchFrom next fuel [start] (start :: visited) start := by
  rw [sweep, if_neg (List.contains_iff_mem.not.mpr h)]

def search (g : Graph) (fuel : Nat) : Except String (List String) :=
  g.nodes.keys.foldlM (sweep g.flowTargets fuel) []

def searchFuel (g : Graph) : Nat := g.nodes.size + g.edges.size + 1

theorem cycleNode?_cases (g : Graph) :
    (∃ visited, g.search g.searchFuel = .ok visited ∧ g.cycleNode? = none) ∨
      ∃ id, g.search g.searchFuel = .error id ∧ g.cycleNode? = some id := by
  unfold cycleNode?
  dsimp only
  split
  · rename_i visited hsearch
    exact Or.inl ⟨visited, hsearch, rfl⟩
  · rename_i id hsearch
    exact Or.inr ⟨id, hsearch, rfl⟩

theorem fuelled_start (hstart : id ∈ g.nodes.keys) (h : g.stations.length < fuel) :
    Fuelled g.stations [id] fuel where
  nodup := List.pairwise_singleton ..
  subset := List.cons_subset.mpr ⟨List.mem_append_left _ hstart, List.nil_subset _⟩
  enough := Nat.lt_add_right _ h

theorem length_stations_lt : g.stations.length < g.searchFuel := by
  rw [length_stations]
  exact Nat.lt_succ_self _

theorem transGen_of_cycleNode? (h : g.cycleNode? = some id) : Relation.TransGen g.Flows id id := by
  rcases cycleNode?_cases g with ⟨visited, -, hnone⟩ | ⟨id', hsearch, hsome⟩
  · rw [hnone] at h
    cases h
  · obtain rfl := Option.some.inj (hsome.symm.trans h)
    obtain ⟨start, -, visited, hsweep⟩ := exists_of_foldlM_error hsearch
    by_cases hseen : start ∈ visited
    · rw [sweep_of_mem hseen] at hsweep
      cases hsweep
    · rw [sweep_of_new hseen] at hsweep
      refine transGen_of_searchFrom_error (fun v hv => ?_) hsweep
      rw [List.mem_singleton.mp hv]

theorem settled_of_sweeps {starts visited visited' : List String} (hstarts : starts ⊆ g.nodes.keys)
    (h : Settled g.flowTargets [] visited)
    (hok : starts.foldlM (sweep g.flowTargets g.searchFuel) visited = .ok visited') :
    Settled g.flowTargets [] visited' ∧ visited ⊆ visited' ∧ starts ⊆ visited' := by
  induction starts generalizing visited with
  | nil =>
    cases hok
    exact ⟨h, fun _ hv => hv, List.nil_subset _⟩
  | cons start rest ih =>
    obtain ⟨hstart, hrest⟩ := List.cons_subset.mp hstarts
    obtain ⟨between, hsweep, hrun⟩ := foldlM_cons_eq_ok_iff.mp hok
    have hfirst : Settled g.flowTargets [] between ∧ visited ⊆ between ∧ start ∈ between := by
      by_cases hseen : start ∈ visited
      · rw [sweep_of_mem hseen] at hsweep
        cases hsweep
        exact ⟨h, fun _ hv => hv, hseen⟩
      · rw [sweep_of_new hseen] at hsweep
        obtain ⟨hsettled, hcovers⟩ := settled_of_searchFrom_ok flowTargets_subset_stations
          (fuelled_start hstart length_stations_lt) (h.push hseen) hsweep
        exact ⟨hsettled.pop hcovers.targets,
          fun _ hv => hcovers.grows (List.mem_cons_of_mem _ hv),
          hcovers.grows List.mem_cons_self⟩
    obtain ⟨hsettled, hgrows, hmem⟩ := hfirst
    obtain ⟨hsettled', hgrows', hall⟩ := ih hrest hsettled hrun
    exact ⟨hsettled', fun _ hv => hgrows' (hgrows hv),
      List.cons_subset.mpr ⟨hgrows' hmem, hall⟩⟩

/-- The search reports nothing exactly if data flows in no cycle. -/
theorem cycleNode?_eq_none_iff :
    g.cycleNode? = none ↔ ∀ id, ¬ Relation.TransGen g.Flows id id := by
  rcases cycleNode?_cases g with ⟨visited, hsearch, hnone⟩ | ⟨id, -, hsome⟩
  · refine iff_of_true hnone fun id hcycle => ?_
    obtain ⟨hsettled, -, hall⟩ := settled_of_sweeps (List.Subset.refl _) Settled.nil hsearch
    -- A node on a cycle has a target, so it is a node of the graph.
    obtain ⟨w, hstep, -⟩ := Relation.TransGen.head'_iff.mp hcycle
    have hid : id ∈ g.nodes.keys := Dict.contains_iff_mem_keys.mp (flows_iff.mp hstep).1
    exact hsettled.acyclic id (hall hid) List.not_mem_nil hcycle
  · refine iff_of_false (by rw [hsome]; intro h; cases h) fun hacyclic => ?_
    exact hacyclic id (transGen_of_cycleNode? hsome)

/-- What the search reports depends on the nodes and on the flow between them. -/
theorem cycleNode?_congr (hkeys : g'.nodes.keys = g.nodes.keys)
    (hflow : g'.flowTargets = g.flowTargets) (hfuel : g.stations.length < g'.searchFuel) :
    g'.cycleNode? = g.cycleNode? := by
  have hsearch : g'.search g'.searchFuel = g.search g.searchFuel := by
    unfold search
    rw [hkeys, hflow]
    refine foldlM_congr_mem fun start hstart visited => ?_
    by_cases hseen : start ∈ visited
    · rw [sweep_of_mem hseen, sweep_of_mem hseen]
    · rw [sweep_of_new hseen, sweep_of_new hseen]
      exact searchFrom_congr_fuel flowTargets_subset_stations (fuelled_start hstart hfuel)
        (fuelled_start hstart length_stations_lt)
  rcases cycleNode?_cases g with ⟨visited, hok, hnone⟩ | ⟨id, herror, hsome⟩
  · rcases cycleNode?_cases g' with ⟨visited', -, hnone'⟩ | ⟨id', herror', -⟩
    · rw [hnone, hnone']
    · rw [hsearch, hok] at herror'
      cases herror'
  · rcases cycleNode?_cases g' with ⟨visited', hok', -⟩ | ⟨id', herror', hsome'⟩
    · rw [hsearch, herror] at hok'
      cases hok'
    · rw [hsearch, herror] at herror'
      cases herror'
      rw [hsome, hsome']

end Graph

end Wirework
