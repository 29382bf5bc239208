import Wirework.Project.Graph.Edit
import Wirework.Proofs.Dict

/-!
# What an edit of a graph leaves to be found

Each operation on a graph is described by what `node?`, `edge?` and `group?` find afterwards. Later
proofs use these descriptions and leave the operations closed. The removal of edges goes through
their ids, so its description needs a graph that keeps every edge under its own id
(`removeEdgesFor_eq`).
-/

namespace Wirework

namespace Group

variable {x : Group} {id other : String}

@[simp] theorem addNode_id : (x.addNode id).id = x.id := by
  unfold addNode
  split <;> rfl

theorem mem_addNode : other ∈ (x.addNode id).nodeIds ↔ other ∈ x.nodeIds ∨ other = id := by
  unfold addNode
  split
  · rename_i h
    have hid : id ∈ x.nodeIds := List.contains_iff_mem.mp h
    exact ⟨Or.inl, fun hm => hm.elim (fun h => h) fun he => he ▸ hid⟩
  · simp

theorem nodup_addNode (h : x.nodeIds.Nodup) : (x.addNode id).nodeIds.Nodup := by
  unfold addNode
  split
  · exact h
  · rename_i hc
    rw [List.nodup_append]
    refine ⟨h, by simp, fun a ha b hb hab => ?_⟩
    obtain rfl := List.mem_singleton.mp hb
    exact hc (List.contains_iff_mem.mpr (hab ▸ ha))

@[simp] theorem removeNode_id : (x.removeNode id).id = x.id := rfl

@[simp] theorem removeNode_nodeIds : (x.removeNode id).nodeIds = x.nodeIds.erase id := rfl

end Group

namespace Graph

variable {g : Graph} {now : Moment} {id key k : String} {n : Node} {e : Edge} {x : Group}

/-! ## Marks -/

@[simp] theorem node?_markDirty : (g.markDirty now).node? k = g.node? k := rfl

/-! ## Nodes -/

theorem hasNode_iff : g.hasNode id = true ↔ ∃ n, g.node? id = some n := Dict.contains_iff

theorem hasNode_eq_false_iff : g.hasNode id = false ↔ g.node? id = none :=
  Dict.contains_eq_false_iff

theorem requireNode_of_some (h : g.node? id = some n) : g.requireNode id = .ok n := by
  rw [requireNode, h]

theorem requireNode_of_none (h : g.node? id = none) :
    g.requireNode id = .error (.nodeNotFound id) := by
  rw [requireNode, h]

/-- A node as a graph takes it in: it keeps the name of a group only if there is that group. -/
def settle (g : Graph) (n : Node) : Node := { n with groupId := n.groupId.filter g.groups.contains }

theorem node?_placeNode :
    (g.placeNode n).node? k = if k = n.id then some (g.settle n) else g.node? k := by
  unfold placeNode settle node?
  cases hg : n.groupId with
  | none =>
    have hn : { n with groupId := none } = n := by rw [← hg]
    simp only [Dict.get?_insert, Option.filter_none, hn]
  | some key =>
    by_cases hc : g.groups.contains key
    · have hn : { n with groupId := some key } = n := by rw [← hg]
      simp only [hc, if_true, Dict.get?_insert, Option.filter_some, hn]
    · simp only [hc, Dict.get?_insert, Option.filter_some, Bool.false_eq_true, if_false]

theorem edges_placeNode : (g.placeNode n).edges = g.edges := by
  unfold placeNode
  split
  · rfl
  · split <;> rfl

theorem group?_placeNode : (g.placeNode n).group? k =
    (g.group? k).map fun x => if n.groupId = some k then x.addNode n.id else x := by
  unfold placeNode group?
  cases hg : n.groupId with
  | none => simp
  | some key =>
    by_cases hc : g.groups.contains key
    · simp only [hc, if_true, Dict.get?_modify, Option.some.injEq]
      by_cases hk : k = key
      · simp [hk]
      · simp [hk, Ne.symm hk]
    · -- The named group is not there, so no look-up can tell the two sides apart.
      simp only [hc, Bool.false_eq_true, if_false]
      by_cases hk : key = k
      · have hnone : g.groups.get? k = none :=
          Dict.contains_eq_false_iff.mp (by simpa [hk] using hc)
        simp [hnone]
      · simp [hk]

theorem addNode_eq_ok_iff {g' : Graph} : g.addNode now n = .ok g' ↔
    g.node? n.id = none ∧ g' = (g.placeNode n).markDirty now := by
  unfold addNode
  cases hc : g.hasNode n.id with
  | true =>
    obtain ⟨m, hm⟩ := hasNode_iff.mp hc
    simp [hm]
  | false => simp [hasNode_eq_false_iff.mp hc, eq_comm]

/-! ## Edges -/

def EdgesKeyed (g : Graph) : Prop := ∀ {k e}, g.edge? k = some e → e.id = k

theorem addEdge_eq_ok_iff {g' : Graph} : g.addEdge now e = .ok g' ↔ g.edge? e.id = none ∧
    g.checkEnds e = .ok () ∧ g' = { g with edges := g.edges.insert e.id e }.markDirty now := by
  unfold addEdge
  cases hc : g.edges.contains e.id with
  | true =>
    obtain ⟨e', he'⟩ := Dict.contains_iff.mp hc
    simp [edge?, he']
  | false =>
    have hnone : g.edge? e.id = none := Dict.contains_eq_false_iff.mp hc
    cases g.checkEnds e with
    | error f => simp [Except.map]
    | ok _ => simp [Except.map, hnone, eq_comm]

theorem removeEdge_of_none (he : g.edge? id = none) : g.removeEdge now id = (none, g) := by
  rw [removeEdge, he]

theorem removeEdge_of_some (he : g.edge? id = some e) : g.removeEdge now id =
    (some e, { g with edges := g.edges.erase id }.markDirty now) := by
  rw [removeEdge, he]

theorem eraseEdges_eq {es : List Edge} (hnd : (es.map (·.id)).Nodup)
    (hin : ∀ e ∈ es, g.edges.contains e.id = true) :
    g.eraseEdges es =
      (.ok (), { g with edges := g.edges.filter fun k _ => k ∉ es.map (·.id) }) := by
  induction es generalizing g with
  | nil =>
    simp [eraseEdges, Dict.filter_true]
  | cons e rest ih =>
    rw [List.map_cons, List.nodup_cons] at hnd
    have hrest : ∀ e' ∈ rest,
        ({ g with edges := g.edges.erase e.id } : Graph).edges.contains e'.id = true := by
      intro e' he'
      have hne : e'.id ≠ e.id := fun h => hnd.1 (h ▸ List.mem_map_of_mem he')
      obtain ⟨v, hv⟩ := Dict.contains_iff.mp (hin e' (List.mem_cons_of_mem _ he'))
      exact Dict.contains_iff.mpr ⟨v, by rw [Dict.get?_erase, if_neg hne, hv]⟩
    have hfilter : ((g.edges.erase e.id).filter fun k _ => k ∉ rest.map (·.id)) =
        g.edges.filter fun k _ => k ∉ (e :: rest).map (·.id) := by
      rw [Dict.erase, Dict.filter_filter]
      congr 1
      funext k _
      simp
    rw [eraseEdges, if_pos (hin e (List.mem_cons_self ..)), ih hnd.2 hrest, hfilter]

theorem mem_edgesFor : e ∈ g.edgesFor id ↔ (∃ k, g.edge? k = some e) ∧ e.connectsTo id = true := by
  rw [edgesFor, List.mem_filter, Dict.mem_values_iff]
  rfl

theorem nodup_edgesFor (hk : g.EdgesKeyed) : ((g.edgesFor id).map (·.id)).Nodup := by
  have hkeys : g.edges.values.map (·.id) = g.edges.keys := by
    rw [Dict.values, Dict.keys, List.map_map]
    refine List.map_congr_left fun entry hm => ?_
    have hentry : g.edge? entry.1 = some entry.2 := Dict.mem_entries_iff.mp hm
    exact hk hentry
  have hnd : (g.edges.values.map (·.id)).Nodup := by
    rw [hkeys]
    exact g.edges.nodup
  exact hnd.sublist (List.filter_sublist.map _)

def withoutEdgesFor (g : Graph) (id : String) : Graph :=
  { g with edges := g.edges.filter fun _ e => !e.connectsTo id }

theorem edge?_withoutEdgesFor : (g.withoutEdgesFor id).edge? k = some e ↔
    g.edge? k = some e ∧ e.connectsTo id = false := by
  rw [← Bool.not_eq_true' (e.connectsTo id)]
  exact Dict.get?_filter_eq_some_iff

theorem withoutEdgesFor_of_nil (hes : g.edgesFor id = []) : g.withoutEdgesFor id = g := by
  have hall : (g.edges.filter fun _ e => !e.connectsTo id) = g.edges.filter fun _ _ => true := by
    refine Dict.filter_congr fun k e he => ?_
    rw [Bool.not_eq_true']
    refine Bool.eq_false_iff.mpr fun hto => ?_
    have hm := mem_edgesFor.mpr ⟨⟨k, he⟩, hto⟩
    rw [hes] at hm
    cases hm
  rw [withoutEdgesFor, hall, Dict.filter_true]

/-- The removal of a node's edges removes exactly these and does not fail. -/
theorem removeEdgesFor_eq (hk : g.EdgesKeyed) :
    g.removeEdgesFor now id = (.ok (g.edgesFor id),
      if g.edgesFor id = [] then g else (g.withoutEdgesFor id).markDirty now) := by
  have hin : ∀ e ∈ g.edgesFor id, g.edges.contains e.id = true := by
    intro e he
    obtain ⟨⟨k, hke⟩, -⟩ := mem_edgesFor.mp he
    exact Dict.contains_iff.mpr ⟨e, hk hke ▸ hke⟩
  have hfilter : (g.edges.filter fun k _ => k ∉ (g.edgesFor id).map (·.id)) =
      g.edges.filter fun _ e => !e.connectsTo id := by
    have hmem : ∀ k e, g.edge? k = some e →
        (k ∈ (g.edgesFor id).map (·.id) ↔ e.connectsTo id = true) := by
      intro k e hke
      constructor
      · intro hm
        obtain ⟨e', he', hid⟩ := List.mem_map.mp hm
        obtain ⟨⟨k', hke'⟩, hto⟩ := mem_edgesFor.mp he'
        obtain rfl : k' = k := (hk hke').symm.trans hid
        obtain rfl : e' = e := Option.some.inj (hke'.symm.trans hke)
        exact hto
      · intro hto
        exact List.mem_map.mpr ⟨e, mem_edgesFor.mpr ⟨⟨k, hke⟩, hto⟩, hk hke⟩
    exact Dict.filter_congr fun k e hke => by simp [hmem k e hke]
  unfold removeEdgesFor
  cases hes : g.edgesFor id with
  | nil => simp
  | cons e rest =>
    rw [hes] at hin hfilter
    have hnd : ((g.edgesFor id).map (·.id)).Nodup := nodup_edgesFor hk
    rw [hes] at hnd
    simp only [eraseEdges_eq hnd hin, hfilter, reduceCtorEq, if_false, withoutEdgesFor]

/-! ## Removal of a node -/

/-- The graph without a node and its edges, and with one mention of it less in every group. -/
def withoutNode (g : Graph) (id : String) : Graph :=
  { g.withoutEdgesFor id with
    nodes := g.nodes.erase id
    groups := g.groups.mapValues (·.removeNode id) }

theorem removeNode_of_some (hk : g.EdgesKeyed) (hn : g.node? id = some n) :
    g.removeNode now id =
      (.ok (some { n with groupId := none }), (g.withoutNode id).markDirty now) := by
  have hk' : { g with nodes := g.nodes.erase id }.EdgesKeyed := fun h => hk h
  unfold removeNode
  rw [hn]
  simp only [removeEdgesFor_eq hk']
  by_cases hes : g.edgesFor id = []
  · have hes' : { g with nodes := g.nodes.erase id }.edgesFor id = [] := hes
    rw [if_pos hes', withoutNode, withoutEdgesFor_of_nil hes]
  · have hes' : { g with nodes := g.nodes.erase id }.edgesFor id ≠ [] := hes
    rw [if_neg hes']
    rfl

theorem removeNode_of_none (hn : g.node? id = none) : g.removeNode now id = (.ok none, g) := by
  rw [removeNode, hn]

theorem node?_withoutNode :
    (g.withoutNode id).node? k = if k = id then none else g.node? k := Dict.get?_erase

theorem edge?_withoutNode : (g.withoutNode id).edge? k = some e ↔
    g.edge? k = some e ∧ e.connectsTo id = false := edge?_withoutEdgesFor

theorem group?_withoutNode :
    (g.withoutNode id).group? k = (g.group? k).map (·.removeNode id) := Dict.get?_mapValues _

/-! ## Groups -/

/-- What a group becomes when a node moves into the group under `key`: that one gains the node, and
the one it leaves loses it. -/
def regroup (n : Node) (id key k : String) (x : Group) : Group :=
  if k = key then x.addNode id else if n.groupId = some k then x.removeNode id else x

@[simp] theorem regroup_self : regroup n id key key x = x.addNode id := if_pos rfl

theorem regroup_left (hk : k ≠ key) (hg : n.groupId = some k) :
    regroup n id key k x = x.removeNode id := by
  rw [regroup, if_neg hk, if_pos hg]

theorem regroup_other (hk : k ≠ key) (hg : n.groupId ≠ some k) : regroup n id key k x = x := by
  rw [regroup, if_neg hk, if_neg hg]

theorem edges_attach : (g.attach id key).edges = g.edges := by
  unfold attach
  split <;> rfl

theorem node?_attach (hn : g.node? id = some n) (hx : g.group? key = some x) :
    (g.attach id key).node? k =
      if k = id then some { n with groupId := some x.id } else g.node? k := by
  unfold attach
  rw [hn, hx]
  refine (Dict.get?_modify _).trans ?_
  by_cases h : k = id
  · have hn' : g.nodes.get? k = some n := h ▸ hn
    simp [h ▸ hn', h]
  · rw [if_neg h, if_neg h]
    rfl

theorem group?_attach (hn : g.node? id = some n) (hx : g.group? key = some x) (hid : x.id = key) :
    (g.attach id key).group? k = (g.group? k).map (regroup n id key k) := by
  have hother : k ≠ key → n.groupId ≠ some k →
      g.groups.get? k = (g.groups.get? k).map (regroup n id key k) := fun hk hg => by
    rw [Option.map_congr fun y _ => regroup_other hk hg]
    simp
  unfold attach
  rw [hn, hx]
  subst hid
  unfold group?
  refine (Dict.get?_modify _).trans ?_
  by_cases hk : k = x.id
  · subst hk
    rw [if_pos rfl, Option.map_congr (g := regroup n id x.id x.id) fun y _ => regroup_self.symm]
    congr 1
    cases n.groupId with
    | none => rfl
    | some previous =>
      by_cases hp : previous = x.id
      · simp [hp]
      · simp [hp, Dict.get?_modify, Ne.symm hp]
  · rw [if_neg hk]
    cases hg : n.groupId with
    | none => exact hother hk (by simp [hg])
    | some previous =>
      by_cases hp : previous = x.id
      · simp only [hp, if_true]
        exact hother hk (by simp [hg, hp, Ne.symm hk])
      · simp only [hp, if_false, Dict.get?_modify]
        by_cases hkp : k = previous
        · rw [if_pos hkp]
          exact Option.map_congr fun y _ => (regroup_left hk (by rw [hg, hkp])).symm
        · rw [if_neg hkp]
          exact hother hk (by simp [hg, Ne.symm hkp])

theorem addToGroup_eq_ok_iff {g' : Graph} : g.addToGroup now id key = .ok g' ↔
    (∃ n, g.node? id = some n) ∧ (∃ x, g.group? key = some x) ∧
      g' = (g.attach id key).markDirty now := by
  unfold addToGroup
  cases hn : g.node? id with
  | none => simp [requireNode_of_none hn, bind, Except.bind]
  | some n =>
    cases hx : g.group? key with
    | none =>
      have hc : g.groups.contains key = false := Dict.contains_eq_false_iff.mpr hx
      simp [requireNode_of_some hn, bind, Except.bind, hc]
    | some x =>
      have hc : g.groups.contains key = true := Dict.contains_iff.mpr ⟨x, hx⟩
      simp [requireNode_of_some hn, bind, Except.bind, hc, eq_comm]

theorem group?_strike :
    ({ g with groups := g.groups.modify key (·.removeNode id) } : Graph).group? k =
      if k = key then (g.group? k).map (·.removeNode id) else g.group? k := Dict.get?_modify _

theorem group?_strike_cases {y : Group}
    (hy : ({ g with groups := g.groups.modify key (·.removeNode id) } : Graph).group? k = some y) :
    (k = key ∧ ∃ z, g.group? k = some z ∧ y = z.removeNode id) ∨
      (k ≠ key ∧ g.group? k = some y) := by
  rw [group?_strike] at hy
  by_cases hk : k = key
  · rw [if_pos hk, Option.map_eq_some_iff] at hy
    obtain ⟨z, hz, rfl⟩ := hy
    exact Or.inl ⟨hk, z, hz, rfl⟩
  · rw [if_neg hk] at hy
    exact Or.inr ⟨hk, hy⟩

def detach (g : Graph) (id key : String) : Graph :=
  { g with
    groups := g.groups.modify key (·.removeNode id)
    nodes := g.nodes.modify id fun n => { n with groupId := none } }

theorem node?_detach : (g.detach id key).node? k =
    if k = id then (g.node? k).map fun n => { n with groupId := none } else g.node? k :=
  Dict.get?_modify _

theorem group?_detach : (g.detach id key).group? k =
    if k = key then (g.group? k).map (·.removeNode id) else g.group? k := group?_strike

theorem removeFromGroup_of_none (hn : g.node? id = none) :
    g.removeFromGroup now id = .error (.nodeNotFound id) := by
  rw [removeFromGroup, requireNode_of_none hn]
  rfl

theorem removeFromGroup_of_outside (hn : g.node? id = some n) (hg : n.groupId = none) :
    g.removeFromGroup now id = .ok (false, g) := by
  rw [removeFromGroup, requireNode_of_some hn]
  simp only [bind, Except.bind, hg]

theorem removeFromGroup_of_inside (hn : g.node? id = some n) (hg : n.groupId = some key) :
    g.removeFromGroup now id = .ok (true, (g.detach id key).markDirty now) := by
  rw [removeFromGroup, requireNode_of_some hn]
  simp only [bind, Except.bind, hg]
  rfl

/-- A node without the name of a group, if it is that one. -/
def forget (key : String) (n : Node) : Node :=
  if n.groupId = some key then { n with groupId := none } else n

theorem forget_forget : forget key (forget key n) = forget key n := by
  unfold forget
  split <;> simp_all

theorem get?_foldl_forget (ids : List String) (nodes : Dict Node) :
    (ids.foldl (fun nodes member => nodes.modify member (forget key)) nodes).get? k =
      if k ∈ ids then (nodes.get? k).map (forget key) else nodes.get? k := by
  induction ids generalizing nodes with
  | nil => simp
  | cons id rest ih =>
    rw [List.foldl_cons, ih, Dict.get?_modify]
    by_cases hk : k = id
    · by_cases hm : k ∈ rest
      · simp [hk, hk ▸ hm, Function.comp_def, forget_forget]
      · simp [hk, hk ▸ hm]
    · simp [hk]

/-- A group outside of another one, if it lies inside it. -/
def orphan (key : String) (x : Group) : Group :=
  if x.parentId = some key then { x with parentId := none } else x

@[simp] theorem orphan_id : (orphan key x).id = x.id := by
  unfold orphan
  split <;> rfl

@[simp] theorem orphan_nodeIds : (orphan key x).nodeIds = x.nodeIds := by
  unfold orphan
  split <;> rfl

def withoutGroup (g : Graph) (key : String) (members : List String) : Graph :=
  { g with
    nodes := members.foldl (fun nodes member => nodes.modify member (forget key)) g.nodes
    groups := (g.groups.erase key).mapValues (orphan key) }

theorem node?_withoutGroup {members : List String} : (g.withoutGroup key members).node? k =
    if k ∈ members then (g.node? k).map (forget key) else g.node? k :=
  get?_foldl_forget members g.nodes

theorem group?_withoutGroup {members : List String} : (g.withoutGroup key members).group? k =
    if k = key then none else (g.group? k).map (orphan key) := by
  refine (Dict.get?_mapValues _).trans ?_
  rw [Dict.get?_erase]
  by_cases hk : k = key
  · simp [hk]
  · simp [hk, group?]

theorem removeGroup_of_none (hx : g.group? key = none) : g.removeGroup now key = (none, g) := by
  rw [removeGroup, hx]

theorem removeGroup_of_some (hx : g.group? key = some x) :
    g.removeGroup now key = (some x, (g.withoutGroup key x.nodeIds).markDirty now) := by
  rw [removeGroup, hx]
  rfl

theorem ungroup_of_none (hx : g.group? key = none) :
    g.ungroup now key = .error (.groupNotFound key) := by
  rw [ungroup, removeGroup_of_none hx]

theorem ungroup_of_some (hx : g.group? key = some x) :
    g.ungroup now key = .ok (x.nodeIds, (g.withoutGroup key x.nodeIds).markDirty now) := by
  rw [ungroup, removeGroup_of_some hx]

theorem addGroup_eq_ok_iff {g' : Graph} : g.addGroup now x = .ok g' ↔ g.group? x.id = none ∧
    g' = ({ g with groups := g.groups.insert x.id x }.enlist x.id x.nodeIds).markDirty now := by
  unfold addGroup
  by_cases hc : g.groups.contains x.id
  · have hsome : g.group? x.id ≠ none := fun h => by
      rw [Dict.contains_eq_false_iff.mpr h] at hc
      cases hc
    simp [hc, hsome]
  · have hnone : g.group? x.id = none := Dict.contains_eq_false_iff.mp (by simpa using hc)
    simp [hc, hnone, eq_comm]

end Graph

end Wirework
