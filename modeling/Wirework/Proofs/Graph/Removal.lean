import Mathlib.Data.List.Perm.Subperm
import Wirework.Proofs.Check.Reports
import Wirework.Proofs.Graph.View
import Wirework.Proofs.ProjectFile.Failures

/-!
# Removal of a node from a graph out of a file

A file may keep an edge under a key that is not its id, and no rule looks at these keys. The removal
of a node erases its edges by their ids, one after the other, and stops at an id that is not there
(`eraseEdges_split`). Whatever has been erased by then is gone, and so is the node.

The edges of a node have as many keys as ids, so the removal takes all of them exactly if the keys
are the ids up to order (`removeNode_clears_iff`): every edge stands under its own id, or the edges
of the node stand under each other's. In every other case an edge without its node stays behind, in
a graph that was valid before; and where the removal stops, nothing marks the graph as changed
(`removeNode_of_read`).
-/

namespace Wirework.Graph

variable {g : Graph} {now : Moment} {id k : String} {n : Node} {e : Edge}

/-! ## Keys and ids of edges -/

def edgeKeysFor (g : Graph) (id : String) : List String :=
  (g.edges.entries.filter fun entry => entry.2.connectsTo id).map Prod.fst

def edgeIdsFor (g : Graph) (id : String) : List String := (g.edgesFor id).map (·.id)

theorem mem_edgeKeysFor :
    k ∈ g.edgeKeysFor id ↔ ∃ e, g.edge? k = some e ∧ e.connectsTo id = true := by
  simp only [edgeKeysFor, List.mem_map, List.mem_filter, Prod.exists, exists_and_right,
    exists_eq_right]
  exact exists_congr fun e => and_congr_left fun _ => Dict.mem_entries_iff

theorem nodup_edgeKeysFor : (g.edgeKeysFor id).Nodup :=
  g.edges.nodup.sublist (List.filter_sublist.map _)

theorem length_edgeIdsFor (g : Graph) (id : String) :
    (g.edgeIdsFor id).length = (g.edgeKeysFor id).length := by
  rw [edgeIdsFor, edgesFor, Dict.values, List.filter_map, edgeKeysFor]
  simp only [List.length_map]
  rfl

/-- Every edge of a node has its key among some keys, and these are no more than its ids. Then they
are its ids. -/
theorem perm_of_edgeKeysFor_subset {gone rest : List String} (hids : g.edgeIdsFor id = gone ++ rest)
    (hsub : g.edgeKeysFor id ⊆ gone) : (g.edgeKeysFor id).Perm (g.edgeIdsFor id) := by
  have hsubperm := List.subperm_of_subset nodup_edgeKeysFor hsub
  have hlength : (g.edgeKeysFor id).length ≤ gone.length := hsubperm.length_le
  have htotal : gone.length + rest.length = (g.edgeKeysFor id).length := by
    rw [← length_edgeIdsFor, hids, List.length_append]
  obtain rfl : rest = [] := List.eq_nil_of_length_eq_zero (by omega)
  rw [hids, List.append_nil]
  exact hsubperm.perm_of_length_le (by omega)

/-! ## Erasing edges one by one -/

/-- The removal of edges erases the ids up to the first one that is not there, either because it
never was or because it has been erased before. -/
theorem eraseEdges_split (es : List Edge) : ∃ gone rest, es.map (·.id) = gone ++ rest ∧
    (g.eraseEdges es).2 = { g with edges := g.edges.filter fun k _ => k ∉ gone } ∧
    ((rest = [] ∧ (g.eraseEdges es).1 = .ok ()) ∨
      ∃ key tail, rest = key :: tail ∧ (key ∈ gone ∨ g.edge? key = none) ∧
        (g.eraseEdges es).1 = .error (.strayEdge key)) := by
  induction es generalizing g with
  | nil => exact ⟨[], [], rfl, by simp [eraseEdges, Dict.filter_true], Or.inl ⟨rfl, rfl⟩⟩
  | cons e es ih =>
    by_cases hc : g.edges.contains e.id = true
    · rw [eraseEdges, if_pos hc]
      obtain ⟨gone, rest, hsplit, hgraph, hend⟩ :=
        ih (g := { g with edges := g.edges.erase e.id })
      refine ⟨e.id :: gone, rest, by simp [hsplit], ?_, hend.imp_right ?_⟩
      · have hfilter : ((g.edges.erase e.id).filter fun k _ => k ∉ gone) =
            g.edges.filter fun k _ => k ∉ e.id :: gone := by
          rw [Dict.erase, Dict.filter_filter]
          congr 1
          funext k _
          simp
        rw [hgraph, hfilter]
      · rintro ⟨key, tail, hrest, hkey, herror⟩
        refine ⟨key, tail, hrest, ?_, herror⟩
        have herase : (g.edges.erase e.id).get? key = if key = e.id then none else g.edge? key :=
          Dict.get?_erase
        rcases hkey with hgone | hnone
        · exact Or.inl (List.mem_cons_of_mem _ hgone)
        · by_cases hk : key = e.id
          · exact Or.inl (hk ▸ List.mem_cons_self ..)
          · rw [if_neg hk] at herase
            exact Or.inr (herase.symm.trans hnone)
    · rw [eraseEdges, if_neg hc]
      have hnone : g.edge? e.id = none := Dict.contains_eq_false_iff.mp (by simpa using hc)
      exact ⟨[], e.id :: es.map (·.id), rfl, by simp [Dict.filter_true],
        Or.inr ⟨e.id, _, rfl, Or.inr hnone, rfl⟩⟩

/-- What the removal of a node leaves: the node is gone, and with it the edges under its ids up to
one that is not there. Only a removal that gets through all ids marks the graph as changed. -/
theorem removeNode_split (now : Moment) (hn : g.node? id = some n) : ∃ gone rest,
    g.edgeIdsFor id = gone ++ rest ∧
    (g.removeNode now id).2.nodes = g.nodes.erase id ∧
    (g.removeNode now id).2.edges = g.edges.filter (fun k _ => k ∉ gone) ∧
    ((rest = [] ∧ (g.removeNode now id).1 = .ok (some { n with groupId := none })) ∨
      ∃ key tail, rest = key :: tail ∧ (key ∈ gone ∨ g.edge? key = none) ∧
        (g.removeNode now id).1 = .error (.strayEdge key) ∧
        (g.removeNode now id).2.dirty = g.dirty) := by
  obtain ⟨gone, rest, hsplit, hgraph, hend⟩ :=
    eraseEdges_split (g := { g with nodes := g.nodes.erase id }) (g.edgesFor id)
  refine ⟨gone, rest, hsplit, ?_⟩
  have hfor : { g with nodes := g.nodes.erase id }.edgesFor id = g.edgesFor id := rfl
  unfold removeNode
  rw [hn]
  simp only [removeEdgesFor, hfor]
  cases hes : g.edgesFor id with
  | nil =>
    obtain ⟨rfl, rfl⟩ : gone = [] ∧ rest = [] := by
      rw [hes] at hsplit
      simpa using hsplit.symm
    simp [markDirty, Dict.filter_true]
  | cons e es =>
    rw [hes] at hgraph hend
    rcases hrun : eraseEdges { g with nodes := g.nodes.erase id } (e :: es) with ⟨result, left⟩
    rw [hrun] at hgraph hend
    simp only at hgraph hend
    subst hgraph
    rcases hend with ⟨rfl, rfl⟩ | ⟨key, tail, rfl, hkey, rfl⟩
    · simp [hrun, markDirty]
    · have hkey' : key ∈ gone ∨ g.edge? key = none := hkey
      simp [hrun, hkey']

/-! ## What stays behind -/

theorem mem_edgeKeysFor_removeNode {gone : List String}
    (hedges : (g.removeNode now id).2.edges = g.edges.filter fun k _ => k ∉ gone) :
    k ∈ (g.removeNode now id).2.edgeKeysFor id ↔ k ∈ g.edgeKeysFor id ∧ k ∉ gone := by
  simp only [mem_edgeKeysFor, edge?, hedges, Dict.get?_filter_eq_some_iff, decide_eq_true_eq]
  constructor
  · rintro ⟨e, ⟨he, hk⟩, hto⟩
    exact ⟨⟨e, he, hto⟩, hk⟩
  · rintro ⟨⟨e, he, hto⟩, hk⟩
    exact ⟨e, ⟨he, hk⟩, hto⟩

theorem edgesFor_eq_nil_iff : g.edgesFor id = [] ↔ g.edgeKeysFor id = [] := by
  have hlength := length_edgeIdsFor g id
  rw [edgeIdsFor, List.length_map] at hlength
  rw [← List.length_eq_zero_iff, hlength, List.length_eq_zero_iff]

/-- A removal leaves no edge of the node exactly if it gets through the keys of all of them. -/
theorem edgesFor_removeNode_eq_nil_iff {gone : List String}
    (hedges : (g.removeNode now id).2.edges = g.edges.filter fun k _ => k ∉ gone) :
    (g.removeNode now id).2.edgesFor id = [] ↔ g.edgeKeysFor id ⊆ gone := by
  rw [edgesFor_eq_nil_iff, List.eq_nil_iff_forall_not_mem]
  constructor
  · intro hnone k hk
    by_contra hgone
    exact hnone k ((mem_edgeKeysFor_removeNode hedges).mpr ⟨hk, hgone⟩)
  · intro hsub k hk
    obtain ⟨hkey, hgone⟩ := (mem_edgeKeysFor_removeNode hedges).mp hk
    exact hgone (hsub hkey)

theorem edgesFor_ne_nil_of_error {f : Failure} (hn : g.node? id = some n)
    (hf : (g.removeNode now id).1 = .error f) : (g.removeNode now id).2.edgesFor id ≠ [] := by
  obtain ⟨gone, rest, hids, -, hedges, ⟨-, hok⟩ | ⟨key, tail, rfl, -⟩⟩ :=
    removeNode_split now hn
  · rw [hok] at hf
    cases hf
  · intro hnil
    have hsub := (edgesFor_removeNode_eq_nil_iff hedges).mp hnil
    -- The keys would be the ids, and yet no more than those erased before the failure.
    have hperm := (perm_of_edgeKeysFor_subset hids hsub).length_eq
    have hlength := (List.subperm_of_subset nodup_edgeKeysFor hsub).length_le
    rw [hids, List.length_append, List.length_cons] at hperm
    omega

/-- The removal of a node succeeds and leaves no edge of it exactly if the keys of its edges are
their ids up to order. -/
theorem removeNode_clears_iff (hn : g.node? id = some n) :
    (∃ m, (g.removeNode now id).1 = .ok m) ∧ (g.removeNode now id).2.edgesFor id = [] ↔
      (g.edgeKeysFor id).Perm (g.edgeIdsFor id) := by
  obtain ⟨gone, rest, hids, -, hedges, hend⟩ := removeNode_split now hn
  constructor
  · rintro ⟨-, hnil⟩
    exact perm_of_edgeKeysFor_subset hids ((edgesFor_removeNode_eq_nil_iff hedges).mp hnil)
  · intro hperm
    rcases hend with ⟨rfl, hok⟩ | ⟨key, tail, rfl, hkey, -⟩
    · rw [List.append_nil] at hids
      refine ⟨⟨_, hok⟩, (edgesFor_removeNode_eq_nil_iff hedges).mpr ?_⟩
      exact hids ▸ hperm.subset
    · exfalso
      have hnodup : (gone ++ key :: tail).Nodup := hids ▸ hperm.nodup_iff.mp nodup_edgeKeysFor
      rcases hkey with hgone | hnone
      · exact (List.nodup_append.mp hnodup).2.2 key hgone key (List.mem_cons_self ..) rfl
      · have hmem : key ∈ g.edgeKeysFor id := hperm.mem_iff.mpr (by simp [hids])
        obtain ⟨e, he, -⟩ := mem_edgeKeysFor.mp hmem
        rw [hnone] at he
        cases he

/-! ## Valid graphs -/

/-- The rule on nodes reports an edge that lacks an end as an error, so a valid graph has none. -/
theorem hasNode_of_isValid (hvalid : g.isValid = true) (he : g.edge? k = some e) :
    g.hasNode e.fromNode = true ∧ g.hasNode e.toNode = true := by
  have hrule : ProjectRule.nodesExist ∈ ({} : Validator).rules := List.mem_cons_self ..
  have hnone := Validator.isValid_iff.mp hvalid _ hrule
  have hmem : e ∈ g.edges.values := Dict.mem_values_iff.mpr ⟨k, he⟩
  simp only [ProjectRule.nodesExist, List.mem_append, List.mem_flatMap] at hnone
  constructor
  · by_contra hfrom
    have hfound := fun i hi => hnone i (Or.inl ⟨e, hmem, Or.inl hi⟩)
    rw [if_neg hfrom] at hfound
    cases hfound _ (List.mem_singleton_self _)
  · by_contra hto
    have hfound := fun i hi => hnone i (Or.inl ⟨e, hmem, Or.inr hi⟩)
    rw [if_neg hto] at hfound
    cases hfound _ (List.mem_singleton_self _)

theorem hasNode_removeNode (hn : g.node? id = some n) {other : String} :
    (g.removeNode now id).2.hasNode other = (other ≠ id && g.hasNode other) := by
  obtain ⟨gone, rest, -, hnodes, -⟩ := removeNode_split now hn
  rw [Bool.eq_iff_iff, hasNode_iff]
  simp only [node?, hnodes, Dict.get?_erase, ne_eq, decide_not, Bool.and_eq_true,
    Bool.not_eq_true', decide_eq_false_iff_not, hasNode_iff]
  by_cases h : other = id <;> simp [h]

/-- In a graph that was valid, the edges that a removal leaves without an end are those of the
removed node. -/
theorem dangling_removeNode_iff (hvalid : g.isValid = true) (hn : g.node? id = some n)
    (he : (g.removeNode now id).2.edge? k = some e) :
    (g.removeNode now id).2.hasNode e.fromNode = false ∨
      (g.removeNode now id).2.hasNode e.toNode = false ↔ e.connectsTo id = true := by
  obtain ⟨gone, rest, -, -, hedges, -⟩ := removeNode_split now hn
  have hbefore : g.edge? k = some e := by
    rw [edge?, hedges, Dict.get?_filter_eq_some_iff] at he
    exact he.1
  obtain ⟨hfrom, hto⟩ := hasNode_of_isValid hvalid hbefore
  simp [hasNode_removeNode hn, hfrom, hto, Edge.connectsTo]

theorem dirty_of_read {text : String} {mint mint' : Mint}
    (hread : ProjectFile.read text mint = .ok (g, mint')) : g.dirty = false := by
  unfold ProjectFile.read at hread
  split at hread
  · cases hread
  · split at hread
    · cases hread
    · cases hread
    · split at hread
      · cases hread
        rfl
      · cases hread

/-- **Removal from a file's graph.** In a valid graph out of a file, the removal of a node succeeds
and leaves no edge of it exactly if the keys of its edges are their ids up to order. The node is
gone in any case. What is left then are edges without an end, and a removal that fails leaves such
an edge in a graph that passes for saved. -/
theorem removeNode_of_read {text : String} {mint mint' : Mint} (now : Moment)
    (hread : ProjectFile.read text mint = .ok (g, mint')) (hvalid : g.isValid = true)
    (hid : g.hasNode id = true) :
    let outcome := g.removeNode now id
    ((∃ m, outcome.1 = .ok m) ∧ outcome.2.edgesFor id = [] ↔
      (g.edgeKeysFor id).Perm (g.edgeIdsFor id)) ∧
    outcome.2.hasNode id = false ∧
    (∀ k e, outcome.2.edge? k = some e →
      (outcome.2.hasNode e.fromNode = false ∨ outcome.2.hasNode e.toNode = false ↔
        e.connectsTo id = true)) ∧
    ∀ f, outcome.1 = .error f → outcome.2.edgesFor id ≠ [] ∧ outcome.2.dirty = false := by
  intro outcome
  obtain ⟨n, hn⟩ := hasNode_iff.mp hid
  refine ⟨removeNode_clears_iff hn, ?_, fun k e he => dangling_removeNode_iff hvalid hn he,
    fun f hf => ⟨edgesFor_ne_nil_of_error hn hf, ?_⟩⟩
  · simp [outcome, hasNode_removeNode hn]
  · obtain ⟨gone, rest, -, -, -, ⟨-, hok⟩ | ⟨key, tail, -, -, -, hdirty⟩⟩ :=
      removeNode_split now hn
    · rw [hok] at hf
      cases hf
    · rw [hdirty, dirty_of_read hread]

/-- A file that keeps the edge `e` from `a` to `b` under the key `k`. -/
def strayEdgeFile : String :=
  "\x7b\"project\":\x7b\"meta\":\x7b\"name\":\"p\"\x7d,\"nodes\":\x7b
    \"a\":\x7b\"component_type\":\"u\",\"name\":\"A\"\x7d,
    \"b\":\x7b\"component_type\":\"u\",\"name\":\"B\"\x7d\x7d,\"edges\":\x7b
    \"k\":\x7b\"id\":\"e\",\"from_node\":\"a\",\"from_port\":\"\",
    \"to_node\":\"b\",\"to_port\":\"\",\"connection_type\":\"dependency\"\x7d\x7d\x7d\x7d"

set_option maxRecDepth 2000 in
/-- The graph of that file is valid, and the removal of `a` fails and leaves the edge. -/
theorem removeNode_strands_edge :
    ∃ g mint, ProjectFile.read strayEdgeFile default = .ok (g, mint) ∧ g.isValid = true ∧
      g.hasNode "a" = true ∧ ¬ (g.edgeKeysFor "a").Perm (g.edgeIdsFor "a") ∧
      let outcome := g.removeNode default "a"
      (∃ f, outcome.1 = .error f) ∧ outcome.2.hasNode "a" = false ∧
        outcome.2.edgesFor "a" ≠ [] ∧ outcome.2.dirty = false := by
  obtain ⟨g, mint, hread, hrun⟩ := ProjectFile.exists_read_of_chars default
    (p := fun g => g.isValid && g.hasNode "a" && !(g.removeNode default "a").1.isOk)
    (rfl : strayEdgeFile = String.ofList _) (by decide +kernel)
  simp only [Bool.and_eq_true, Bool.not_eq_true'] at hrun
  obtain ⟨⟨hvalid, hid⟩, hfails⟩ := hrun
  obtain ⟨hclears, hgone, -, hleft⟩ := removeNode_of_read default hread hvalid hid
  cases hresult : (g.removeNode default "a").1 with
  | ok m => simp [hresult, Except.isOk, Except.toBool] at hfails
  | error f =>
    have hperm : ¬ (g.edgeKeysFor "a").Perm (g.edgeIdsFor "a") := by
      intro hperm
      obtain ⟨⟨m, hm⟩, -⟩ := hclears.mpr hperm
      cases hresult.symm.trans hm
    exact ⟨g, mint, hread, hvalid, hid, hperm, ⟨f, hresult⟩, hgone, hleft f hresult⟩

end Wirework.Graph
