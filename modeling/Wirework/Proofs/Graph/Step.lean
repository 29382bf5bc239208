import Mathlib.Logic.Relation
import Wirework.Proofs.Graph.View

/-!
# Sound graphs

A graph is sound if it keeps everything under its own id and every edge is anchored: its ends
exist and carry the ports that it runs between. Every edit of a graph comes down to a few
primitive steps (`Graph.Step`), and each of them leads from a sound graph to a sound graph
(`Sound.step`). A new group may list any members; steps are indexed by what is asked of such a
list, so that later invariants can ask more of it.
-/

namespace Wirework.Graph

variable {g g' : Graph} {now : Moment} {id key k : String} {n : Node} {e : Edge} {x : Group}

/-! ## Anchored edges -/

/-- The ends of an edge are nodes of the graph. If the edge runs between ports, its source has the
output port and its target the input port that it names. -/
def Anchors (g : Graph) (e : Edge) : Prop :=
  ∃ source target, g.node? e.fromNode = some source ∧ g.node? e.toNode = some target ∧
    (e.connection ∈ [.dataFlow, .trigger, .navigation] →
      e.fromPort ∈ source.ports.outputs.map (·.id) ∧ e.toPort ∈ target.ports.inputs.map (·.id))

theorem connectsPorts_iff {c : Connection} :
    c.connectsPorts = true ↔ c ∈ [.dataFlow, .trigger, .navigation] := by
  cases c <;> decide

theorem find?_id_eq_none_iff {ports : List Port} :
    ports.find? (fun p => p.id = k) = none ↔ k ∉ ports.map (·.id) := by
  simp only [List.find?_eq_none, decide_eq_true_eq, List.mem_map, not_exists, not_and]

theorem outputPort?_eq_none_iff : n.outputPort? k = none ↔ k ∉ n.ports.outputs.map (·.id) :=
  find?_id_eq_none_iff

theorem inputPort?_eq_none_iff : n.inputPort? k = none ↔ k ∉ n.ports.inputs.map (·.id) :=
  find?_id_eq_none_iff

theorem checkEnds_eq_ok_iff : g.checkEnds e = .ok () ↔ g.Anchors e := by
  unfold checkEnds Anchors
  cases hs : g.node? e.fromNode with
  | none => simp [requireNode_of_none hs, bind, Except.bind]
  | some source =>
    cases ht : g.node? e.toNode with
    | none => simp [requireNode_of_some hs, requireNode_of_none ht, bind, Except.bind]
    | some target =>
      simp only [requireNode_of_some hs, requireNode_of_some ht, bind, Except.bind,
        connectsPorts_iff, Option.isNone_iff_eq_none, outputPort?_eq_none_iff,
        inputPort?_eq_none_iff, Option.some.injEq, exists_and_left, exists_eq_left']
      by_cases hc : e.connection ∈ [.dataFlow, .trigger, .navigation]
      · by_cases ho : e.fromPort ∈ source.ports.outputs.map (·.id)
        · by_cases hi : e.toPort ∈ target.ports.inputs.map (·.id) <;> simp [hc, ho, hi]
        · simp [hc, ho]
      · simp [hc]

/-- An edge stays anchored where the nodes stay with their ports. -/
theorem Anchors.mono (h : g.Anchors e)
    (hkept : ∀ id n, g.node? id = some n → ∃ n', g'.node? id = some n' ∧ n'.ports = n.ports) :
    g'.Anchors e := by
  obtain ⟨source, target, hs, ht, hports⟩ := h
  obtain ⟨source', hs', hsp⟩ := hkept _ _ hs
  obtain ⟨target', ht', htp⟩ := hkept _ _ ht
  exact ⟨source', target', hs', ht', by rwa [hsp, htp]⟩

/-! ## Soundness -/

/-- Everything is kept under its own id, and every edge is anchored. -/
structure Sound (g : Graph) : Prop where
  nodeKeys : ∀ {k n}, g.node? k = some n → n.id = k
  edgeKeys : g.EdgesKeyed
  groupKeys : ∀ {k x}, g.group? k = some x → x.id = k
  anchored : ∀ {k e}, g.edge? k = some e → g.Anchors e

theorem sound_create (name : String) (now : Moment) : (Graph.create name now).Sound where
  nodeKeys h := nomatch h
  edgeKeys h := nomatch h
  groupKeys h := nomatch h
  anchored h := nomatch h

namespace Sound

/-- Soundness does not depend on what the project says about itself. -/
theorem congr (h : g.Sound) (hn : g'.nodes = g.nodes) (he : g'.edges = g.edges)
    (hx : g'.groups = g.groups) : g'.Sound := by
  obtain ⟨about, nodes, edges, groups, dirty⟩ := g
  obtain ⟨about', nodes', edges', groups', dirty'⟩ := g'
  obtain ⟨rfl, rfl, rfl⟩ : nodes' = nodes ∧ edges' = edges ∧ groups' = groups := ⟨hn, he, hx⟩
  exact ⟨h.nodeKeys, h.edgeKeys, h.groupKeys, h.anchored⟩

theorem place (h : g.Sound) (hn : g.node? n.id = none) : (g.placeNode n).Sound where
  nodeKeys {k m} hm := by
    rw [node?_placeNode] at hm
    by_cases hk : k = n.id
    · rw [if_pos hk] at hm
      rw [← Option.some.inj hm, hk]
      rfl
    · rw [if_neg hk] at hm
      exact h.nodeKeys hm
  edgeKeys {k e} he := h.edgeKeys (by rwa [edge?, edges_placeNode] at he)
  groupKeys {k x} hx := by
    rw [group?_placeNode, Option.map_eq_some_iff] at hx
    obtain ⟨y, hy, rfl⟩ := hx
    split
    · exact Group.addNode_id.trans (h.groupKeys hy)
    · exact h.groupKeys hy
  anchored {k e} he := by
    have he' : g.edge? k = some e := by rwa [edge?, edges_placeNode] at he
    refine (h.anchored he').mono fun id m hm => ⟨m, ?_, rfl⟩
    have hne : id ≠ n.id := fun heq => by
      rw [heq, hn] at hm
      cases hm
    rw [node?_placeNode, if_neg hne, hm]

theorem putEdge (h : g.Sound) (he : g.Anchors e) :
    ({ g with edges := g.edges.insert e.id e } : Graph).Sound where
  nodeKeys := h.nodeKeys
  edgeKeys {k e'} he' := by
    rcases Dict.get?_insert_cases he' with ⟨rfl, rfl⟩ | ⟨-, hold⟩
    · rfl
    · exact h.edgeKeys hold
  groupKeys := h.groupKeys
  anchored {k e'} he' := by
    rcases Dict.get?_insert_cases he' with ⟨-, rfl⟩ | ⟨-, hold⟩
    · exact he
    · exact h.anchored hold

theorem fewerEdges (h : g.Sound) (hn : g'.nodes = g.nodes) (hx : g'.groups = g.groups)
    (he : ∀ {k e}, g'.edge? k = some e → g.edge? k = some e) : g'.Sound := by
  obtain ⟨about, nodes, edges, groups, dirty⟩ := g
  obtain ⟨about', nodes', edges', groups', dirty'⟩ := g'
  obtain ⟨rfl, rfl⟩ : nodes' = nodes ∧ groups' = groups := ⟨hn, hx⟩
  exact ⟨h.nodeKeys, fun h' => h.edgeKeys (he h'), h.groupKeys, fun h' => h.anchored (he h')⟩

theorem withoutNode (h : g.Sound) : (g.withoutNode id).Sound where
  nodeKeys {k m} hm := by
    rw [node?_withoutNode] at hm
    split at hm
    · cases hm
    · exact h.nodeKeys hm
  edgeKeys he := h.edgeKeys (edge?_withoutNode.mp he).1
  groupKeys hx := by
    rw [group?_withoutNode, Option.map_eq_some_iff] at hx
    obtain ⟨y, hy, rfl⟩ := hx
    exact Group.removeNode_id.trans (h.groupKeys hy)
  anchored {k e} he := by
    obtain ⟨he', hto⟩ := edge?_withoutNode.mp he
    simp only [Edge.connectsTo, Bool.or_eq_false_iff, decide_eq_false_iff_not] at hto
    obtain ⟨source, target, hs, ht, hports⟩ := h.anchored he'
    refine ⟨source, target, ?_, ?_, hports⟩
    · rw [node?_withoutNode, if_neg hto.1, hs]
    · rw [node?_withoutNode, if_neg hto.2, ht]

end Sound

/-! ## Regrouping -/

/-- The second graph has the edges of the first, its nodes but for the groups that they name, and
groups of the ids that it had. -/
structure Regrouped (g g' : Graph) : Prop where
  edges : g'.edges = g.edges
  nodes : ∀ id, (g'.node? id).map (fun n => { n with groupId := none }) =
    (g.node? id).map fun n => { n with groupId := none }
  groups : ∀ {k y}, g'.group? k = some y → ∃ x, g.group? k = some x ∧ y.id = x.id

namespace Regrouped

theorem node_back (h : Regrouped g g') (hn : g'.node? id = some n) :
    ∃ m, g.node? id = some m ∧ n.id = m.id ∧ n.ports = m.ports := by
  have hmap := h.nodes id
  rw [hn, Option.map_some, eq_comm, Option.map_eq_some_iff] at hmap
  obtain ⟨m, hm, heq⟩ := hmap
  have hid : m.id = n.id := (congrArg Node.id heq :)
  have hports : m.ports = n.ports := (congrArg Node.ports heq :)
  exact ⟨m, hm, hid.symm, hports.symm⟩

theorem node_forth (h : Regrouped g g') (hn : g.node? id = some n) :
    ∃ m, g'.node? id = some m ∧ m.id = n.id ∧ m.ports = n.ports := by
  have hmap := h.nodes id
  rw [hn, Option.map_some, Option.map_eq_some_iff] at hmap
  obtain ⟨m, hm, heq⟩ := hmap
  exact ⟨m, hm, (congrArg Node.id heq :), (congrArg Node.ports heq :)⟩

theorem sound (h : Regrouped g g') (hs : g.Sound) : g'.Sound where
  nodeKeys hn := by
    obtain ⟨m, hm, hid, -⟩ := h.node_back hn
    exact hid.trans (hs.nodeKeys hm)
  edgeKeys {k e} he := hs.edgeKeys (by rwa [edge?, h.edges] at he)
  groupKeys hx := by
    obtain ⟨y, hy, hid⟩ := h.groups hx
    exact hid.trans (hs.groupKeys hy)
  anchored {k e} he := by
    have he' : g.edge? k = some e := by rwa [edge?, h.edges] at he
    refine (hs.anchored he').mono fun id n hn => ?_
    obtain ⟨m, hm, -, hports⟩ := h.node_forth hn
    exact ⟨m, hm, hports⟩

end Regrouped

theorem regrouped_of_map {f : String → Group → Group} (hf : ∀ k x, (f k x).id = x.id)
    (he : g'.edges = g.edges)
    (hn : ∀ id, (g'.node? id).map (fun n => { n with groupId := none }) =
      (g.node? id).map fun n => { n with groupId := none })
    (hx : ∀ k, g'.group? k = (g.group? k).map (f k)) : Regrouped g g' where
  edges := he
  nodes := hn
  groups {k y} hy := by
    rw [hx, Option.map_eq_some_iff] at hy
    obtain ⟨x, hx', rfl⟩ := hy
    exact ⟨x, hx', hf k x⟩

theorem regroup_id : (regroup n id key k x).id = x.id := by
  unfold regroup
  split
  · exact Group.addNode_id
  · split <;> rfl

theorem regrouped_attach (hn : g.node? id = some n) (hx : g.group? key = some x)
    (hid : x.id = key) : Regrouped g (g.attach id key) := by
  refine regrouped_of_map (fun _ _ => regroup_id) edges_attach (fun m => ?_)
    fun _ => group?_attach hn hx hid
  rw [node?_attach hn hx]
  by_cases hm : m = id
  · rw [if_pos hm, hm, hn]
    rfl
  · rw [if_neg hm]

theorem regrouped_strike :
    Regrouped g { g with groups := g.groups.modify key (·.removeNode id) } := by
  refine regrouped_of_map (f := fun k x => if k = key then x.removeNode id else x) ?_ rfl
    (fun _ => rfl) fun k => ?_
  · intro k x
    split <;> rfl
  · rw [group?_strike]
    by_cases hk : k = key <;> simp [hk]

theorem regrouped_detach : Regrouped g (g.detach id key) where
  edges := rfl
  nodes m := by
    rw [node?_detach]
    by_cases hm : m = id
    · simp [hm, Function.comp_def]
    · rw [if_neg hm]
  groups := regrouped_strike.groups

theorem regrouped_withoutGroup {members : List String} :
    Regrouped g (g.withoutGroup key members) where
  edges := rfl
  nodes m := by
    have hforget : ∀ n : Node, { forget key n with groupId := none } = { n with groupId := none } :=
      fun n => by
        unfold forget
        split <;> rfl
    rw [node?_withoutGroup]
    by_cases hm : m ∈ members
    · simp [hm, Function.comp_def, hforget]
    · rw [if_neg hm]
  groups {k y} hy := by
    rw [group?_withoutGroup] at hy
    split at hy
    · cases hy
    · obtain ⟨x, hx, rfl⟩ := Option.map_eq_some_iff.mp hy
      exact ⟨x, hx, orphan_id⟩

/-! ## Steps -/

/-- What an edit does to a graph, piece by piece. The members that a new group lists meet a
condition. -/
inductive Step (listed : List String → Prop) : Graph → Graph → Prop
  | mark {g : Graph} (about : About) (dirty : Bool) : Step listed g { g with about, dirty }
  | place {g : Graph} {n : Node} (hn : g.node? n.id = none) : Step listed g (g.placeNode n)
  | putEdge {g : Graph} {e : Edge} (he : g.Anchors e) :
      Step listed g { g with edges := g.edges.insert e.id e }
  | dropEdge {g : Graph} (id : String) : Step listed g { g with edges := g.edges.erase id }
  | dropEdges {g : Graph} (id : String) : Step listed g (g.withoutEdgesFor id)
  | dropNode {g : Graph} (id : String) : Step listed g (g.withoutNode id)
  | openGroup {g : Graph} {x : Group} (hx : g.group? x.id = none) (hl : listed x.nodeIds) :
      Step listed g ({ g with groups := g.groups.insert x.id x }.enlist x.id x.nodeIds)
  | attach {g : Graph} {id key : String} {n : Node} {x : Group} (hn : g.node? id = some n)
      (hx : g.group? key = some x) : Step listed g (g.attach id key)
  | detach {g : Graph} {id key : String} {n : Node} (hn : g.node? id = some n)
      (hg : n.groupId = some key) : Step listed g (g.detach id key)
  | dropGroup {g : Graph} {key : String} {x : Group} (hx : g.group? key = some x) :
      Step listed g (g.withoutGroup key x.nodeIds)
  | clear {g : Graph} : Step listed g { g with nodes := .empty, edges := .empty, groups := .empty }

abbrev Steps (listed : List String → Prop) : Graph → Graph → Prop :=
  Relation.ReflTransGen (Step listed)

variable {listed : List String → Prop}

theorem hasGroup_attach (hx : g.group? key = some x) (hs : g.Sound) (hn : g.node? id = some n) :
    ∃ y, (g.attach id key).group? key = some y := by
  rw [group?_attach hn hx (hs.groupKeys hx), hx]
  exact ⟨_, rfl⟩

theorem hasGroup_strike (hx : g.group? key = some x) :
    ({ g with groups := g.groups.modify key (·.removeNode id) } : Graph).group? key =
      some (x.removeNode id) := by
  rw [group?_strike, if_pos rfl, hx, Option.map_some]

/-- The members that a new group lists are attached to it or struck off one by one, which keeps a
graph sound. What holds of the graph and the members still to come is carried along. -/
theorem enlist_induction {P : List String → Graph → Prop} {ids : List String} (hs : g.Sound)
    (hx : g.group? key = some x) (h : P ids g)
    (hattach : ∀ {g id rest n x}, P (id :: rest) g → g.node? id = some n →
      g.group? key = some x → x.id = key → P rest (g.attach id key))
    (hstrike : ∀ {g id rest}, P (id :: rest) g → g.node? id = none →
      P rest { g with groups := g.groups.modify key (·.removeNode id) }) :
    (g.enlist key ids).Sound ∧ P [] (g.enlist key ids) := by
  induction ids generalizing g x with
  | nil => exact ⟨hs, h⟩
  | cons id rest ih =>
    rw [Graph.enlist]
    split
    · rename_i hc
      obtain ⟨n, hn⟩ := hasNode_iff.mp hc
      obtain ⟨y, hy⟩ := hasGroup_attach hx hs hn
      have hid := hs.groupKeys hx
      exact ih ((regrouped_attach hn hx hid).sound hs) hy (hattach h hn hx hid)
    · rename_i hc
      have hn := hasNode_eq_false_iff.mp (Bool.eq_false_iff.mpr hc)
      exact ih (regrouped_strike.sound hs) (hasGroup_strike hx) (hstrike h hn)

theorem Sound.enlist {ids : List String} (h : g.Sound) (hx : g.group? key = some x) :
    (g.enlist key ids).Sound :=
  (enlist_induction (P := fun _ _ => True) h hx trivial (fun _ _ _ _ => trivial)
    fun _ _ => trivial).1

theorem Sound.insertGroup (h : g.Sound) :
    ({ g with groups := g.groups.insert x.id x } : Graph).Sound where
  nodeKeys := h.nodeKeys
  edgeKeys := h.edgeKeys
  groupKeys {k y} hy := by
    rcases Dict.get?_insert_cases hy with ⟨rfl, rfl⟩ | ⟨-, hold⟩
    · rfl
    · exact h.groupKeys hold
  anchored := h.anchored

theorem Sound.step (h : g.Sound) (hstep : Step listed g g') : g'.Sound := by
  cases hstep with
  | mark about dirty => exact h.congr rfl rfl rfl
  | place hn => exact h.place hn
  | putEdge he => exact h.putEdge he
  | dropEdge id =>
    refine h.fewerEdges rfl rfl fun {k e} he => ?_
    have hget := Dict.get?_erase.symm.trans he
    split at hget
    · cases hget
    · exact hget
  | dropEdges id => exact h.fewerEdges rfl rfl fun he => (edge?_withoutEdgesFor.mp he).1
  | dropNode id => exact h.withoutNode
  | openGroup hx hl => exact h.insertGroup.enlist Dict.get?_insert_self
  | attach hn hx => exact (regrouped_attach hn hx (h.groupKeys hx)).sound h
  | detach hn hg => exact regrouped_detach.sound h
  | dropGroup hx => exact regrouped_withoutGroup.sound h
  | clear => exact (sound_create g.about.name default).congr rfl rfl rfl

theorem Sound.steps (h : g.Sound) (hsteps : Steps listed g g') : g'.Sound := by
  induction hsteps with
  | refl => exact h
  | tail _ hstep ih => exact ih.step hstep

/-- What each step keeps in a sound graph is kept along steps. -/
theorem Steps.keep {P : Graph → Prop} (hsteps : Steps listed g g') (hs : g.Sound) (h : P g)
    (hstep : ∀ {g g'}, P g → g.Sound → Step listed g g' → P g') : P g' := by
  induction hsteps with
  | refl => exact h
  | tail hpath hlast ih => exact hstep ih (hs.steps hpath) hlast

end Wirework.Graph
