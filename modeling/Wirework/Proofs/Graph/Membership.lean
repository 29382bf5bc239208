import Wirework.Proofs.Graph.History

/-!
# Membership in groups

Membership is kept twice: a group lists its members, and a node names its group. A graph is
grouped if the two agree and no group lists a node twice. Every step keeps a sound graph grouped,
provided that new groups list no node twice (`Grouped.step`), so every graph with such a history
is grouped (`grouped_after`).

While a new group takes in the members that it lists, some of them are still pending: they are
listed, but do not name the group yet. `Enlisting` is the invariant of that phase. A graph is
grouped if nothing is pending, and a move of a node into a group is the same phase with one
pending node.
-/

namespace Wirework.Graph

variable {g g' : Graph} {id key k : String} {n : Node} {x : Group} {pending : List String}

/-- Groups and nodes agree on who is a member of what. -/
structure Grouped (g : Graph) : Prop where
  member : ∀ {k x id}, g.group? k = some x → id ∈ x.nodeIds →
    ∃ n, g.node? id = some n ∧ n.groupId = some k
  named : ∀ {id n k}, g.node? id = some n → n.groupId = some k →
    ∃ x, g.group? k = some x ∧ id ∈ x.nodeIds
  nodup : ∀ {k x}, g.group? k = some x → x.nodeIds.Nodup

/-- As `Grouped`, except that the group under a key may list nodes that are still pending. -/
structure Enlisting (g : Graph) (key : String) (pending : List String) : Prop where
  member : ∀ {k x id}, g.group? k = some x → id ∈ x.nodeIds →
    (k = key ∧ id ∈ pending) ∨ ∃ n, g.node? id = some n ∧ n.groupId = some k
  named : ∀ {id n k}, g.node? id = some n → n.groupId = some k →
    ∃ x, g.group? k = some x ∧ id ∈ x.nodeIds
  nodup : ∀ {k x}, g.group? k = some x → x.nodeIds.Nodup

theorem grouped_create (name : String) (now : Moment) : (Graph.create name now).Grouped where
  member hx := nomatch hx
  named hn := nomatch hn
  nodup hx := nomatch hx

theorem Grouped.enlisting (h : g.Grouped) : g.Enlisting key pending where
  member hx hm := Or.inr (h.member hx hm)
  named := h.named
  nodup := h.nodup

theorem Enlisting.grouped (h : g.Enlisting key []) : g.Grouped where
  member hx hm := (h.member hx hm).resolve_left fun hp => nomatch hp.2
  named := h.named
  nodup := h.nodup

/-! ## Taking in members -/

namespace Enlisting

/-- A pending node joins the group; it leaves the group that it named before. -/
theorem attach (h : g.Enlisting key (id :: pending)) (hn : g.node? id = some n)
    (hx : g.group? key = some x) (hid : x.id = key) : (g.attach id key).Enlisting key pending where
  member {k y other} hy hm := by
    rw [group?_attach hn hx hid, Option.map_eq_some_iff] at hy
    obtain ⟨z, hz, rfl⟩ := hy
    rw [node?_attach hn hx, hid]
    by_cases ho : other = id
    · refine Or.inr ⟨_, if_pos ho, ?_⟩
      subst ho
      by_cases hk : k = key
      · rw [hk]
      · -- A group that still lists the node is the one it named, and that one has lost it.
        exfalso
        by_cases hg : n.groupId = some k
        · rw [regroup_left hk hg] at hm
          exact (h.nodup hz).not_mem_erase hm
        · rw [regroup_other hk hg] at hm
          rcases h.member hz hm with ⟨hk', -⟩ | ⟨m, hm', hg'⟩
          · exact hk hk'
          · obtain rfl := Option.some.inj (hn.symm.trans hm')
            exact hg hg'
    · rw [if_neg ho]
      have hz' : other ∈ z.nodeIds := by
        unfold regroup at hm
        split at hm
        · exact (Group.mem_addNode.mp hm).resolve_right ho
        · split at hm
          · exact List.mem_of_mem_erase hm
          · exact hm
      rcases h.member hz hz' with ⟨hk, hp⟩ | hfound
      · exact Or.inl ⟨hk, (List.mem_cons.mp hp).resolve_left ho⟩
      · exact Or.inr hfound
  named {other m k} hm hg := by
    rw [node?_attach hn hx, hid] at hm
    rw [group?_attach hn hx hid]
    by_cases ho : other = id
    · rw [if_pos ho] at hm
      obtain rfl := Option.some.inj hm
      obtain rfl := Option.some.inj hg
      exact ⟨_, by rw [hx, Option.map_some, regroup_self], Group.mem_addNode.mpr (Or.inr ho)⟩
    · rw [if_neg ho] at hm
      obtain ⟨z, hz, hzm⟩ := h.named hm hg
      refine ⟨regroup n id key k z, by rw [hz, Option.map_some], ?_⟩
      unfold regroup
      split
      · exact Group.mem_addNode.mpr (Or.inl hzm)
      · split
        · exact (List.mem_erase_of_ne ho).mpr hzm
        · exact hzm
  nodup {k y} hy := by
    rw [group?_attach hn hx hid, Option.map_eq_some_iff] at hy
    obtain ⟨z, hz, rfl⟩ := hy
    unfold regroup
    split
    · exact Group.nodup_addNode (h.nodup hz)
    · split
      · exact (h.nodup hz).erase id
      · exact h.nodup hz

theorem strike (h : g.Enlisting key (id :: pending)) (hn : g.node? id = none) :
    ({ g with groups := g.groups.modify key (·.removeNode id) } : Graph).Enlisting key pending where
  member {k y other} hy hm := by
    rcases group?_strike_cases hy with ⟨hk, z, hz, rfl⟩ | ⟨hk, hy⟩
    · rw [Group.removeNode_nodeIds, (h.nodup hz).mem_erase_iff] at hm
      rcases h.member hz hm.2 with ⟨-, hp⟩ | hfound
      · exact Or.inl ⟨hk, (List.mem_cons.mp hp).resolve_left hm.1⟩
      · exact Or.inr hfound
    · exact Or.inr ((h.member hy hm).resolve_left fun hp => hk hp.1)
  named {other m k} hm hg := by
    obtain ⟨z, hz, hzm⟩ := h.named hm hg
    have ho : other ≠ id := fun heq => by
      have hm' : g.node? id = some m := heq ▸ hm
      rw [hn] at hm'
      cases hm'
    rw [group?_strike]
    by_cases hk : k = key
    · exact ⟨z.removeNode id, by rw [if_pos hk, hz, Option.map_some],
        (List.mem_erase_of_ne ho).mpr hzm⟩
    · exact ⟨z, by rw [if_neg hk, hz], hzm⟩
  nodup {k y} hy := by
    rcases group?_strike_cases hy with ⟨-, z, hz, rfl⟩ | ⟨-, hy⟩
    · exact (h.nodup hz).erase id
    · exact h.nodup hy

end Enlisting

/-- A sound graph in which nodes are pending is grouped once all of them are taken in. -/
theorem Enlisting.enlist {ids : List String} (h : g.Enlisting key ids) (hs : g.Sound)
    (hx : g.group? key = some x) : (g.enlist key ids).Grouped :=
  (enlist_induction (P := fun pending g => g.Enlisting key pending) hs hx h
    (fun h hn hx hid => h.attach hn hx hid) fun h hn => h.strike hn).2.grouped

/-! ## Steps -/

namespace Grouped

theorem congr (h : g.Grouped) (hn : g'.nodes = g.nodes) (hx : g'.groups = g.groups) :
    g'.Grouped := by
  obtain ⟨about, nodes, edges, groups, dirty⟩ := g
  obtain ⟨about', nodes', edges', groups', dirty'⟩ := g'
  obtain ⟨rfl, rfl⟩ : nodes' = nodes ∧ groups' = groups := ⟨hn, hx⟩
  exact ⟨h.member, h.named, h.nodup⟩

theorem place (h : g.Grouped) (hn : g.node? n.id = none) : (g.placeNode n).Grouped where
  member {k y id} hy hm := by
    rw [group?_placeNode, Option.map_eq_some_iff] at hy
    obtain ⟨z, hz, rfl⟩ := hy
    rw [node?_placeNode]
    have hold : id ∈ z.nodeIds → ∃ m,
        (if id = n.id then some (g.settle n) else g.node? id) = some m ∧ m.groupId = some k := by
      intro hzm
      obtain ⟨m, hm', hg⟩ := h.member hz hzm
      have hne : id ≠ n.id := fun heq => by
        rw [heq, hn] at hm'
        cases hm'
      exact ⟨m, by rw [if_neg hne, hm'], hg⟩
    split at hm
    · rename_i hg
      rcases Group.mem_addNode.mp hm with hzm | hid
      · exact hold hzm
      · refine ⟨g.settle n, if_pos hid, ?_⟩
        have hc : g.groups.contains k = true := Dict.contains_iff.mpr ⟨z, hz⟩
        rw [settle, hg, Option.filter_some, if_pos hc]
    · exact hold hm
  named {id m k} hm hg := by
    rw [node?_placeNode] at hm
    rw [group?_placeNode]
    by_cases hid : id = n.id
    · rw [if_pos hid] at hm
      obtain rfl := Option.some.inj hm
      obtain ⟨hg', hc⟩ := Option.filter_eq_some_iff.mp hg
      obtain ⟨z, hz⟩ := Dict.contains_iff.mp hc
      refine ⟨z.addNode n.id, ?_, Group.mem_addNode.mpr (Or.inr hid)⟩
      rw [show g.group? k = some z from hz, Option.map_some, if_pos hg']
    · rw [if_neg hid] at hm
      obtain ⟨z, hz, hzm⟩ := h.named hm hg
      refine ⟨_, by rw [hz, Option.map_some], ?_⟩
      split
      · exact Group.mem_addNode.mpr (Or.inl hzm)
      · exact hzm
  nodup {k y} hy := by
    rw [group?_placeNode, Option.map_eq_some_iff] at hy
    obtain ⟨z, hz, rfl⟩ := hy
    split
    · exact Group.nodup_addNode (h.nodup hz)
    · exact h.nodup hz

/-- A node that goes is listed nowhere afterwards, since it was listed at most once. -/
theorem withoutNode (h : g.Grouped) : (g.withoutNode id).Grouped where
  member {k y other} hy hm := by
    rw [group?_withoutNode, Option.map_eq_some_iff] at hy
    obtain ⟨z, hz, rfl⟩ := hy
    rw [Group.removeNode_nodeIds, (h.nodup hz).mem_erase_iff] at hm
    rw [node?_withoutNode, if_neg hm.1]
    exact h.member hz hm.2
  named {other m k} hm hg := by
    rw [node?_withoutNode] at hm
    split at hm
    · cases hm
    · rename_i ho
      obtain ⟨z, hz, hzm⟩ := h.named hm hg
      exact ⟨z.removeNode id, by rw [group?_withoutNode, hz, Option.map_some],
        (List.mem_erase_of_ne ho).mpr hzm⟩
  nodup {k y} hy := by
    rw [group?_withoutNode, Option.map_eq_some_iff] at hy
    obtain ⟨z, hz, rfl⟩ := hy
    exact (h.nodup hz).erase id

theorem detach (h : g.Grouped) (hn : g.node? id = some n) (hg : n.groupId = some key) :
    (g.detach id key).Grouped where
  member {k y other} hy hm := by
    rcases group?_strike_cases hy with ⟨-, z, hz, rfl⟩ | ⟨hk, hy⟩
    · rw [Group.removeNode_nodeIds, (h.nodup hz).mem_erase_iff] at hm
      rw [node?_detach, if_neg hm.1]
      exact h.member hz hm.2
    · obtain ⟨m, hm', hg'⟩ := h.member hy hm
      have ho : other ≠ id := fun heq => by
        subst heq
        obtain rfl := Option.some.inj (hn.symm.trans hm')
        exact hk (Option.some.inj (hg'.symm.trans hg))
      exact ⟨m, by rw [node?_detach, if_neg ho, hm'], hg'⟩
  named {other m k} hm hg' := by
    rw [node?_detach] at hm
    by_cases ho : other = id
    · rw [if_pos ho, Option.map_eq_some_iff] at hm
      obtain ⟨m', -, rfl⟩ := hm
      cases hg'
    · rw [if_neg ho] at hm
      obtain ⟨z, hz, hzm⟩ := h.named hm hg'
      rw [group?_detach]
      by_cases hk : k = key
      · exact ⟨z.removeNode id, by rw [if_pos hk, hz, Option.map_some],
          (List.mem_erase_of_ne ho).mpr hzm⟩
      · exact ⟨z, by rw [if_neg hk, hz], hzm⟩
  nodup {k y} hy := by
    rcases group?_strike_cases hy with ⟨-, z, hz, rfl⟩ | ⟨-, hy⟩
    · exact (h.nodup hz).erase id
    · exact h.nodup hy

/-- The members of a group that goes forget it, and no other node named it. -/
theorem withoutGroup (h : g.Grouped) (hx : g.group? key = some x) :
    (g.withoutGroup key x.nodeIds).Grouped where
  member {k y id} hy hm := by
    rw [group?_withoutGroup] at hy
    split at hy
    · cases hy
    · rename_i hk
      obtain ⟨z, hz, rfl⟩ := Option.map_eq_some_iff.mp hy
      rw [orphan_nodeIds] at hm
      obtain ⟨m, hm', hg⟩ := h.member hz hm
      have hforget : forget key m = m := by
        rw [forget, if_neg fun heq => hk (Option.some.inj (hg.symm.trans heq))]
      refine ⟨m, ?_, hg⟩
      rw [node?_withoutGroup, hm', Option.map_some, hforget, ite_self]
  named {id m k} hm hg := by
    rw [node?_withoutGroup] at hm
    -- Whoever still names a group is not changed: the members of the one that goes forgot it.
    have hold : g.node? id = some m ∧ k ≠ key := by
      split at hm
      · obtain ⟨m', hm', rfl⟩ := Option.map_eq_some_iff.mp hm
        unfold forget at hg ⊢
        split at hg
        · cases hg
        · rename_i hne
          rw [if_neg hne]
          exact ⟨hm', fun hk => hne (hk ▸ hg)⟩
      · rename_i hnot
        refine ⟨hm, fun hk => hnot ?_⟩
        obtain ⟨z, hz, hzm⟩ := h.named hm hg
        obtain rfl := Option.some.inj (hx.symm.trans (hk ▸ hz))
        exact hzm
    obtain ⟨z, hz, hzm⟩ := h.named hold.1 hg
    exact ⟨orphan key z, by rw [group?_withoutGroup, if_neg hold.2, hz, Option.map_some],
      by rwa [orphan_nodeIds]⟩
  nodup {k y} hy := by
    rw [group?_withoutGroup] at hy
    split at hy
    · cases hy
    · obtain ⟨z, hz, rfl⟩ := Option.map_eq_some_iff.mp hy
      rw [orphan_nodeIds]
      exact h.nodup hz

/-- A new group that lists no id twice makes its members pending. -/
theorem insertGroup (h : g.Grouped) (hx : g.group? x.id = none) (hl : x.nodeIds.Nodup) :
    ({ g with groups := g.groups.insert x.id x } : Graph).Enlisting x.id x.nodeIds where
  member {k y id} hy hm := by
    rcases Dict.get?_insert_cases hy with ⟨hk, rfl⟩ | ⟨-, hold⟩
    · exact Or.inl ⟨hk, hm⟩
    · exact Or.inr (h.member hold hm)
  named {id m k} hm hg := by
    obtain ⟨z, hz, hzm⟩ := h.named hm hg
    have hk : k ≠ x.id := fun heq => by
      rw [heq, hx] at hz
      cases hz
    exact ⟨z, (Dict.get?_insert_of_ne hk).trans hz, hzm⟩
  nodup {k y} hy := by
    rcases Dict.get?_insert_cases hy with ⟨-, rfl⟩ | ⟨-, hold⟩
    · exact hl
    · exact h.nodup hold

theorem step (h : g.Grouped) (hs : g.Sound) (hstep : Step List.Nodup g g') : g'.Grouped := by
  cases hstep with
  | mark about dirty => exact h.congr rfl rfl
  | place hn => exact h.place hn
  | putEdge he => exact h.congr rfl rfl
  | dropEdge id => exact h.congr rfl rfl
  | dropEdges id => exact h.congr rfl rfl
  | dropNode id => exact h.withoutNode
  | openGroup hx hl => exact (h.insertGroup hx hl).enlist hs.insertGroup Dict.get?_insert_self
  | attach hn hx => exact (h.enlisting.attach hn hx (hs.groupKeys hx)).grouped
  | detach hn hg => exact h.detach hn hg
  | dropGroup hx => exact h.withoutGroup hx
  | clear => exact (grouped_create g.about.name default).congr rfl rfl

end Grouped

/-! ## Histories -/

theorem grouped_after {name : String} {now : Moment} {turns : List Turn}
    (h : ∀ x mint, Turn.edit (.addGroup x) mint ∈ turns → x.nodeIds.Nodup) :
    ((Graph.create name now).after turns).Grouped :=
  holds_after (grouped_create name now) Grouped.step List.nodup_nil h

/-- **Membership is consistent.** If no group that is handed over lists a node twice, then after any
history the members of a group are nodes that name it, a node that names a group is a member of it,
no group lists a node twice, and no node is a member of two groups. -/
theorem membership_after (name : String) (now : Moment) (turns : List Turn)
    (h : ∀ x mint, Turn.edit (.addGroup x) mint ∈ turns → x.nodeIds.Nodup) :
    let g := (Graph.create name now).after turns
    (∀ k x, g.group? k = some x → x.nodeIds.Nodup ∧
      ∀ id ∈ x.nodeIds, ∃ n, g.node? id = some n ∧ n.id = id ∧ n.groupId = some x.id) ∧
    (∀ id n key, g.node? id = some n → n.groupId = some key →
      ∃ x, g.group? key = some x ∧ x.id = key ∧ n.id ∈ x.nodeIds) ∧
    ∀ k₁ k₂ x₁ x₂ id, g.group? k₁ = some x₁ → g.group? k₂ = some x₂ →
      id ∈ x₁.nodeIds → id ∈ x₂.nodeIds → k₁ = k₂ := by
  intro g
  have hs : g.Sound := sound_after (sound_create name now)
  have hg : g.Grouped := grouped_after h
  refine ⟨fun k x hx => ⟨hg.nodup hx, fun id hm => ?_⟩, fun id n key hn hkey => ?_, ?_⟩
  · obtain ⟨n, hn, hk⟩ := hg.member hx hm
    exact ⟨n, hn, hs.nodeKeys hn, by rw [hk, hs.groupKeys hx]⟩
  · obtain ⟨x, hx, hm⟩ := hg.named hn hkey
    exact ⟨x, hx, hs.groupKeys hx, by rwa [hs.nodeKeys hn]⟩
  · intro k₁ k₂ x₁ x₂ id hx₁ hx₂ hm₁ hm₂
    obtain ⟨n, hn, hk₁⟩ := hg.member hx₁ hm₁
    obtain ⟨m, hm, hk₂⟩ := hg.member hx₂ hm₂
    obtain rfl := Option.some.inj (hn.symm.trans hm)
    exact Option.some.inj (hk₁.symm.trans hk₂)

/-- A node that names no group of the project is taken in by one group and taken over by another,
which lists an unknown node as well. -/
theorem membership_after_takeover :
    let a : Node := { id := "a", componentType := "data.entity", name := "A", groupId := some "g0",
                      createdAt := default, modifiedAt := default }
    let turns : List Turn := [
      .edit (.addNode a) default,
      .edit (.addGroup { id := "g1", name := "First", nodeIds := ["a"] }) default,
      .save,
      .edit (.addGroup { id := "g2", name := "Second", nodeIds := ["b", "a"] }) default]
    let g := (Graph.create "p" default).after turns
    (∀ x mint, Turn.edit (.addGroup x) mint ∈ turns → x.nodeIds.Nodup) ∧
      (∃ n, g.node? "a" = some n ∧ n.groupId = some "g2") ∧
      ∀ k x, g.group? k = some x → "a" ∈ x.nodeIds → k = "g2" := by
  intro a turns g
  have h : ∀ x mint, Turn.edit (.addGroup x) mint ∈ turns → x.nodeIds.Nodup := by
    intro x mint hm
    simp only [turns, List.mem_cons, Turn.edit.injEq, Edit.addGroup.injEq, reduceCtorEq,
      List.not_mem_nil, false_and, false_or, or_false] at hm
    rcases hm with ⟨rfl, -⟩ | ⟨rfl, -⟩ <;> decide
  have hlist : (g.group? "g2").map (fun x => (x.id, x.nodeIds)) = some ("g2", ["a"]) := by
    decide +kernel
  -- The history has been evaluated; from here on it is any history with these two properties.
  clear_value turns
  obtain ⟨hmember, -, honly⟩ := membership_after "p" default turns h
  obtain ⟨x, hx, hxids⟩ := Option.map_eq_some_iff.mp hlist
  obtain ⟨hid, hids⟩ := Prod.mk.inj hxids
  have ha : "a" ∈ x.nodeIds := hids ▸ List.mem_singleton.mpr rfl
  obtain ⟨n, hn, -, hg⟩ := (hmember "g2" x hx).2 "a" ha
  exact ⟨h, ⟨n, hn, hid ▸ hg⟩, fun k y hy hmy => honly k "g2" y x "a" hy hx hmy ha⟩

end Wirework.Graph
