import Wirework.Proofs.Graph.History

/-!
# Removal of a node

A node that is removed takes its edges and its memberships along. The edges go without exception.
A membership goes by one mention in the list of each group, so a group that mentions the node
twice still mentions it afterwards, and no other group does (`mem_withoutNode_iff`). Groups come
to mention a node twice in one way only: a group is handed over that already does
(`MentionsOnce.step`).
-/

namespace Wirework.Graph

variable {g g' : Graph} {now : Moment} {id other key k : String} {n : Node} {x : Group}

/-! ## Mentions of a node -/

def MentionsOnce (g : Graph) (id : String) : Prop :=
  ∀ k x, g.group? k = some x → x.nodeIds.count id ≤ 1

theorem count_addNode_le_one (h : x.nodeIds.count id ≤ 1) :
    (x.addNode other).nodeIds.count id ≤ 1 := by
  unfold Group.addNode
  split
  · exact h
  · rename_i hc
    have hnot : other ∉ x.nodeIds := fun hm => hc (List.contains_iff_mem.mpr hm)
    rw [List.count_append]
    by_cases ho : other = id
    · subst ho
      have hzero : x.nodeIds.count other = 0 := List.count_eq_zero.mpr hnot
      have hone : [other].count other = 1 := List.count_singleton_self
      omega
    · rw [List.count_singleton, if_neg (by simpa using ho)]
      exact h

theorem count_removeNode_le_one (h : x.nodeIds.count id ≤ 1) :
    (x.removeNode other).nodeIds.count id ≤ 1 :=
  Nat.le_trans (List.erase_sublist.count_le id) h

theorem count_regroup_le_one (h : x.nodeIds.count id ≤ 1) :
    (regroup n other key k x).nodeIds.count id ≤ 1 := by
  unfold regroup
  split
  · exact count_addNode_le_one h
  · split
    · exact count_removeNode_le_one h
    · exact h

namespace MentionsOnce

theorem of_map {f : String → Group → Group} (h : g.MentionsOnce id)
    (hf : ∀ k x, x.nodeIds.count id ≤ 1 → (f k x).nodeIds.count id ≤ 1)
    (hx : ∀ k, g'.group? k = (g.group? k).map (f k)) : g'.MentionsOnce id := by
  intro k y hy
  rw [hx, Option.map_eq_some_iff] at hy
  obtain ⟨x, hx', rfl⟩ := hy
  exact hf k x (h k x hx')

theorem strike (h : g.MentionsOnce id) :
    ({ g with groups := g.groups.modify key (·.removeNode other) } : Graph).MentionsOnce id := by
  intro k y hy
  rcases group?_strike_cases hy with ⟨-, z, hz, rfl⟩ | ⟨-, hy⟩
  · exact count_removeNode_le_one (h k z hz)
  · exact h k y hy

theorem attach (h : g.MentionsOnce id) (hn : g.node? other = some n) (hx : g.group? key = some x)
    (hid : x.id = key) : (g.attach other key).MentionsOnce id :=
  h.of_map (fun _ _ => count_regroup_le_one) fun _ => group?_attach hn hx hid

theorem enlist {ids : List String} (h : g.MentionsOnce id) (hs : g.Sound)
    (hx : g.group? key = some x) : (g.enlist key ids).MentionsOnce id :=
  (enlist_induction (P := fun _ g => g.MentionsOnce id) hs hx h
    (fun h hn hx hid => h.attach hn hx hid) fun h _ => h.strike).2

theorem insertGroup (h : g.MentionsOnce id) (hl : x.nodeIds.count id ≤ 1) :
    ({ g with groups := g.groups.insert x.id x } : Graph).MentionsOnce id := by
  intro k y hy
  rcases Dict.get?_insert_cases hy with ⟨-, rfl⟩ | ⟨-, hy⟩
  · exact hl
  · exact h k y hy

/-- Every step keeps groups from mentioning a node twice, if new groups do not. -/
theorem step (h : g.MentionsOnce id) (hs : g.Sound)
    (hstep : Step (fun ids => ids.count id ≤ 1) g g') : g'.MentionsOnce id := by
  cases hstep with
  | mark about dirty => exact h
  | place hn =>
    refine h.of_map (fun k x hx => ?_) fun _ => group?_placeNode
    split
    · exact count_addNode_le_one hx
    · exact hx
  | putEdge he => exact h
  | dropEdge => exact h
  | dropEdges => exact h
  | dropNode => exact h.of_map (fun _ _ => count_removeNode_le_one) fun _ => group?_withoutNode
  | openGroup hx hl => exact (h.insertGroup hl).enlist hs.insertGroup Dict.get?_insert_self
  | attach hn hx => exact h.attach hn hx (hs.groupKeys hx)
  | detach hn hg => exact h.strike
  | dropGroup hx =>
    intro k y hy
    rw [group?_withoutGroup] at hy
    split at hy
    · cases hy
    · obtain ⟨z, hz, rfl⟩ := Option.map_eq_some_iff.mp hy
      rw [orphan_nodeIds]
      exact h k z hz
  | clear => exact fun _ _ hx => nomatch hx

end MentionsOnce

theorem mentionsOnce_after {name : String} {turns : List Turn}
    (h : ∀ x mint, Turn.edit (.addGroup x) mint ∈ turns → x.nodeIds.count id ≤ 1) :
    ((Graph.create name now).after turns).MentionsOnce id := by
  have hnew : (Graph.create name now).MentionsOnce id := fun _ _ hx => nomatch hx
  exact holds_after (P := fun g => g.MentionsOnce id) hnew MentionsOnce.step (Nat.zero_le 1) h

/-! ## Removal -/

/-- A removed node is still a member of exactly those groups that mentioned it twice. -/
theorem mem_withoutNode_iff :
    (∃ x, (g.withoutNode id).group? k = some x ∧ id ∈ x.nodeIds) ↔
      ∃ x, g.group? k = some x ∧ 2 ≤ x.nodeIds.count id := by
  have hcount : ∀ x : Group, id ∈ (x.removeNode id).nodeIds ↔ 2 ≤ x.nodeIds.count id := by
    intro x
    rw [Group.removeNode_nodeIds, ← List.count_pos_iff, List.count_erase_self]
    omega
  rw [group?_withoutNode]
  constructor
  · rintro ⟨y, hy, hm⟩
    obtain ⟨x, hx, rfl⟩ := Option.map_eq_some_iff.mp hy
    exact ⟨x, hx, (hcount x).mp hm⟩
  · rintro ⟨x, hx, htwice⟩
    exact ⟨x.removeNode id, by rw [hx, Option.map_some], (hcount x).mpr htwice⟩

theorem run_removeNode {mint : Mint} (hs : g.Sound) (hn : g.node? id = some n) :
    (Edit.removeNode id).run ⟨g, mint⟩ =
      (.ok (.found (some id)), ⟨(g.withoutNode id).markDirty mint.now, mint⟩) := by
  have hremove : Store.update (fun g now => g.removeNode now id) ⟨g, mint⟩ =
      (.ok (some { n with groupId := none }), ⟨(g.withoutNode id).markDirty mint.now, mint⟩) := by
    rw [Store.update, removeNode_of_some hs.edgeKeys hn]
  rw [Edit.run, run_bind_of_ok hremove, run_pure, Option.map_some, hs.nodeKeys hn]

/-- **Removal cascades.** After any history, the removal of a node of the graph succeeds and leaves
neither the node nor an edge at it. It leaves the node in exactly those groups that mentioned it
twice, so in none if no group that was handed over mentions it twice. -/
theorem removeNode_cascades (name : String) (now : Moment) (turns : List Turn) (id : String)
    (mint : Mint) (hnode : ((Graph.create name now).after turns).hasNode id = true) :
    let g := (Graph.create name now).after turns
    let outcome := (Edit.removeNode id).run ⟨g, mint⟩
    let g' := outcome.2.graph
    outcome.1 = .ok (.found (some id)) ∧ g'.hasNode id = false ∧
    (∀ k e, g'.edge? k = some e → e.fromNode ≠ id ∧ e.toNode ≠ id) ∧
    (∀ k, (∃ x, g'.group? k = some x ∧ id ∈ x.nodeIds) ↔
      ∃ x, g.group? k = some x ∧ 2 ≤ x.nodeIds.count id) ∧
    ((∀ x mint, Turn.edit (.addGroup x) mint ∈ turns → x.nodeIds.count id ≤ 1) →
      ∀ k x, g'.group? k = some x → id ∉ x.nodeIds) := by
  intro g outcome g'
  have hs : g.Sound := sound_after (sound_create name now)
  obtain ⟨n, hn⟩ := hasNode_iff.mp hnode
  have hrun : outcome = _ := run_removeNode hs hn
  have hg' : g' = (g.withoutNode id).markDirty mint.now := congrArg (·.2.graph) hrun
  rw [hrun, hg']
  refine ⟨rfl, ?_, fun k e he => ?_, fun k => mem_withoutNode_iff, fun honce k x hx hm => ?_⟩
  · rw [hasNode_eq_false_iff, node?_markDirty, node?_withoutNode, if_pos rfl]
  · obtain ⟨-, hto⟩ := edge?_withoutNode.mp he
    simpa [Edge.connectsTo] using hto
  · obtain ⟨y, hy, htwice⟩ := mem_withoutNode_iff.mp ⟨x, hx, hm⟩
    have hle : y.nodeIds.count id ≤ 1 := mentionsOnce_after honce k y hy
    omega

/-- A group is handed over that lists a node twice, and the node is removed: the edge at it goes,
but the group still lists it. -/
theorem removeNode_leaves_second_mention :
    let node (id : String) : Node :=
      { id, componentType := "data.entity", name := id
        createdAt := default, modifiedAt := default }
    let turns : List Turn := [
      .edit (.addNode (node "a")) default,
      .edit (.addNode (node "b")) default,
      .edit (.addDependency "a" "b") default,
      .edit (.addGroup { id := "g", name := "Group", nodeIds := ["a", "a"] }) default]
    let g := (Graph.create "p" default).after turns
    let g' := ((Edit.removeNode "a").run ⟨g, default⟩).2.graph
    g.hasNode "a" = true ∧ g.edges.values.length = 1 ∧ g'.hasNode "a" = false ∧
      (∀ k e, g'.edge? k = some e → e.fromNode ≠ "a") ∧
      ∃ x, g'.group? "g" = some x ∧ "a" ∈ x.nodeIds := by
  intro node turns g g'
  have hnode : g.hasNode "a" = true := by decide +kernel
  have hedge : g.edges.values.length = 1 := by decide +kernel
  have hlist : (g.group? "g").map (·.nodeIds) = some ["a", "a"] := by decide +kernel
  -- The history has been evaluated; from here on it is any history with these three properties.
  clear_value turns
  obtain ⟨-, hgone, hedges, hgroups, -⟩ := removeNode_cascades "p" default turns "a" default hnode
  obtain ⟨x, hx, hids⟩ := Option.map_eq_some_iff.mp hlist
  have htwice : ∃ x, g.group? "g" = some x ∧ 2 ≤ x.nodeIds.count "a" :=
    ⟨x, hx, by rw [hids]; decide⟩
  exact ⟨hnode, hedge, hgone, fun k e he => (hedges k e he).1, (hgroups "g").mpr htwice⟩

end Wirework.Graph
