import Wirework.Proofs.Check.Rules
import Wirework.Proofs.Graph.Atomicity
import Wirework.Proofs.Graph.Membership

/-!
# Deletion makes nothing invalid

Every edit that deletes leaves a graph with fewer edges and with fewer nodes, which keep their ports
and their names (`Shrinks`, `shrinks_run`). In such a graph an edge joins ports that it joined before,
no name is new, and data flows along ways that it had; so what the rules on ports, names and cycles
do not find before they do not find afterwards. The rules on nodes and on the ends of edges find
nothing in any graph with a history whose groups list no node twice, so not after another edit
either. Together: no deletion makes a valid project invalid (`deletion_keeps_valid`).
-/

namespace Wirework

namespace Dict

variable {β γ : Type} {d : Dict β}

/-- A change in place that keeps what is looked at keeps it of all values. -/
theorem map_values_modify {k : String} {f : β → β} {p : β → γ} (hf : ∀ v, p (f v) = p v) :
    (d.modify k f).values.map p = d.values.map p := by
  simp only [values, modify, List.map_map]
  refine List.map_congr_left fun entry _ => ?_
  simp only [Function.comp_apply]
  split
  · exact hf entry.2
  · rfl

theorem values_filter_sublist {p : String → β → Bool} : (d.filter p).values.Sublist d.values :=
  List.filter_sublist.map Prod.snd

end Dict

/-- An edit that takes something away and adds nothing. -/
def Edit.isDeletion : Edit → Bool
  | .removeNode _ | .removeEdge _ | .removeEdgesFor _ | .removeGroup _ | .ungroup _
  | .removeFromGroup _ | .clear => true
  | _ => false

namespace Graph

open ProjectRule

variable {g g' : Graph} {now : Moment} {id key : String}

/-! ## Smaller graphs -/

/-- The second graph has nodes and edges of the first one only, the nodes with their names and their
ports. -/
structure Shrinks (g g' : Graph) : Prop where
  titles : (g'.nodes.values.map title).Sublist (g.nodes.values.map title)
  ports : ∀ {id n'}, g'.node? id = some n' → ∃ n, g.node? id = some n ∧ n'.ports = n.ports
  edges : ∀ {k e}, g'.edge? k = some e → g.edge? k = some e

namespace Shrinks

theorem refl (g : Graph) : Shrinks g g := ⟨.refl _, fun {_ n'} hn => ⟨n', hn, rfl⟩, fun he => he⟩

theorem mark (h : Shrinks g g') : Shrinks g (g'.markDirty now) := ⟨h.titles, h.ports, h.edges⟩

/-- An edge of the smaller graph joins the same ports in the larger one. -/
theorem portsOf? {e : Edge} {ends : Port × Port} (h : Shrinks g g')
    (hends : ProjectRule.portsOf? g' e = some ends) : ProjectRule.portsOf? g e = some ends := by
  unfold ProjectRule.portsOf? at hends ⊢
  simp only [Option.bind_eq_bind, Option.bind_eq_some_iff] at hends ⊢
  obtain ⟨source', hsource', target', htarget', output, houtput, input, hinput, hpair⟩ := hends
  obtain ⟨source, hsource, hout⟩ := h.ports hsource'
  obtain ⟨target, htarget, hin⟩ := h.ports htarget'
  rw [Node.outputPort?, hout] at houtput
  rw [Node.inputPort?, hin] at hinput
  exact ⟨source, hsource, target, htarget, output, houtput, input, hinput, hpair⟩

theorem flows {a b : String} (h : Shrinks g g') (hflow : g'.Flows a b) : g.Flows a b := by
  obtain ⟨hnode, k, e, he, hends⟩ := flows_iff.mp hflow
  obtain ⟨n', hn'⟩ := hasNode_iff.mp hnode
  obtain ⟨n, hn, -⟩ := h.ports hn'
  exact flows_iff.mpr ⟨hasNode_iff.mpr ⟨n, hn⟩, k, e, h.edges he, hends⟩

theorem portsFit_eq_nil (h : Shrinks g g') (hfit : portsFit.findings g = []) :
    portsFit.findings g' = [] := by
  rw [portsFit_eq_nil_iff] at hfit ⊢
  intro k e he hplain output input hports
  exact hfit k e (h.edges he) hplain output input (h.portsOf? hports)

theorem uniqueNames_eq_nil (h : Shrinks g g') (hunique : uniqueNames.findings g = []) :
    uniqueNames.findings g' = [] := by
  rw [uniqueNames_eq_nil_iff] at hunique ⊢
  exact hunique.sublist h.titles

theorem noCycles_eq_nil (h : Shrinks g g') (hacyclic : noCycles.findings g = []) :
    noCycles.findings g' = [] := by
  rw [noCycles_eq_nil_iff] at hacyclic ⊢
  intro id hcycle
  exact hacyclic id (.mono (fun _ _ hflow => h.flows hflow) _ _ hcycle)

end Shrinks

/-! ## Deletions -/

theorem shrinks_withoutEdge : Shrinks g { g with edges := g.edges.erase id } where
  titles := .refl _
  ports {_ n'} hn := ⟨n', hn, rfl⟩
  edges he := (Dict.get?_filter_eq_some_iff.mp he).1

theorem shrinks_withoutEdgesFor : Shrinks g (g.withoutEdgesFor id) where
  titles := .refl _
  ports {_ n'} hn := ⟨n', hn, rfl⟩
  edges he := (edge?_withoutEdgesFor.mp he).1

theorem shrinks_withoutNode : Shrinks g (g.withoutNode id) where
  titles := Dict.values_filter_sublist.map _
  ports {_ n'} hn := ⟨n', (Dict.get?_filter_eq_some_iff.mp hn).1, rfl⟩
  edges he := (edge?_withoutNode.mp he).1

theorem shrinks_detach : Shrinks g (g.detach id key) where
  titles := by
    have hkept : (g.detach id key).nodes.values.map title = g.nodes.values.map title :=
      Dict.map_values_modify fun _ => rfl
    rw [hkept]
  ports hn := by
    obtain ⟨n, hn, -, hports⟩ := regrouped_detach.node_back hn
    exact ⟨n, hn, hports⟩
  edges he := he

theorem shrinks_withoutGroup {members : List String} : Shrinks g (g.withoutGroup key members) where
  titles := by
    have hforget : ∀ n, title (forget key n) = title n := by
      intro n
      unfold forget
      split
      · rfl
      · rfl
    have hkept : ∀ nodes : Dict Node,
        (members.foldl (fun nodes member => nodes.modify member (forget key)) nodes).values.map title =
          nodes.values.map title := by
      induction members with
      | nil => exact fun _ => rfl
      | cons member rest ih =>
        intro nodes
        rw [List.foldl_cons, ih, Dict.map_values_modify hforget]
    exact (hkept g.nodes).symm ▸ .refl _
  ports hn := by
    obtain ⟨n, hn, -, hports⟩ := regrouped_withoutGroup.node_back hn
    exact ⟨n, hn, hports⟩
  edges he := he

theorem shrinks_clear :
    Shrinks g { g with nodes := .empty, edges := .empty, groups := .empty } where
  titles := List.nil_sublist _
  ports hn := by cases hn
  edges he := by cases he

theorem shrinks_removeEdge : Shrinks g (g.removeEdge now id).2 := by
  cases he : g.edge? id with
  | none =>
    rw [removeEdge_of_none he]
    exact .refl g
  | some e =>
    rw [removeEdge_of_some he]
    exact shrinks_withoutEdge.mark

theorem shrinks_removeEdgesFor (hs : g.Sound) : Shrinks g (g.removeEdgesFor now id).2 := by
  rw [removeEdgesFor_eq hs.edgeKeys]
  dsimp only
  split
  · exact .refl g
  · exact shrinks_withoutEdgesFor.mark

theorem shrinks_removeNode (hs : g.Sound) : Shrinks g (g.removeNode now id).2 := by
  cases hn : g.node? id with
  | none =>
    rw [removeNode_of_none hn]
    exact .refl g
  | some n =>
    rw [removeNode_of_some hs.edgeKeys hn]
    exact shrinks_withoutNode.mark

theorem shrinks_removeFromGroup {was : Bool} (h : g.removeFromGroup now id = .ok (was, g')) :
    Shrinks g g' := by
  cases hn : g.node? id with
  | none =>
    rw [removeFromGroup_of_none hn] at h
    cases h
  | some n =>
    cases hg : n.groupId with
    | none =>
      rw [removeFromGroup_of_outside hn hg] at h
      cases h
      exact .refl g
    | some key =>
      rw [removeFromGroup_of_inside hn hg] at h
      cases h
      exact shrinks_detach.mark

theorem shrinks_removeGroup : Shrinks g (g.removeGroup now key).2 := by
  cases hx : g.group? key with
  | none =>
    rw [removeGroup_of_none hx]
    exact .refl g
  | some x =>
    rw [removeGroup_of_some hx]
    exact shrinks_withoutGroup.mark

theorem shrinks_ungroup {members : List String} (h : g.ungroup now key = .ok (members, g')) :
    Shrinks g g' := by
  cases hx : g.group? key with
  | none =>
    rw [ungroup_of_none hx] at h
    cases h
  | some x =>
    rw [ungroup_of_some hx] at h
    cases h
    exact shrinks_withoutGroup.mark

/-- A deletion leaves a smaller graph, whether it fails or not. -/
theorem shrinks_run {e : Edit} (mint : Mint) (hs : g.Sound) (he : e.isDeletion = true) :
    Shrinks g (e.run ⟨g, mint⟩).2.graph := by
  cases e with
  | removeNode id =>
    rw [Edit.run, Store.answer_state]
    exact shrinks_removeNode hs
  | removeEdge id =>
    rw [Edit.run, Store.answer_state]
    exact shrinks_removeEdge
  | removeEdgesFor id =>
    rw [Edit.run, Store.answer_state]
    exact shrinks_removeEdgesFor hs
  | removeGroup id =>
    rw [Edit.run, Store.answer_state]
    exact shrinks_removeGroup
  | ungroup id =>
    rw [Edit.run, Store.answer_state, Store.update]
    dsimp only
    split
    · rename_i hungroup
      exact shrinks_ungroup hungroup
    · exact .refl g
  | removeFromGroup id =>
    rw [Edit.run, Store.answer_state, Store.update]
    dsimp only
    split
    · rename_i hremove
      exact shrinks_removeFromGroup hremove
    · exact .refl g
  | clear =>
    rw [Edit.run, Store.answer_state]
    exact shrinks_clear.mark
  | _ => cases he

/-! ## Validity -/

/-- In a sound graph with consistent groups, edges and groups lead to nodes. -/
theorem Grouped.nodesExist_eq_nil (hs : g.Sound) (hg : g.Grouped) : nodesExist.findings g = [] := by
  refine nodesExist_eq_nil_iff.mpr ⟨fun k e he => ?_, fun k x hx id hid => ?_⟩
  · obtain ⟨source, target, hsource, htarget, -⟩ := hs.anchored he
    exact ⟨hasNode_iff.mpr ⟨source, hsource⟩, hasNode_iff.mpr ⟨target, htarget⟩⟩
  · obtain ⟨n, hn, -⟩ := hg.member hx hid
    exact hasNode_iff.mpr ⟨n, hn⟩

/-- **Deletion makes nothing invalid.** After any history in which no group that is handed over
lists a node twice, if the built-in rules find no error, they find none after a deletion. -/
theorem deletion_keeps_valid (name : String) (now : Moment) (turns : List Turn) (e : Edit)
    (mint : Mint) (hgroups : ∀ x mint, Turn.edit (.addGroup x) mint ∈ turns → x.nodeIds.Nodup)
    (he : e.isDeletion = true)
    (hvalid : errorsAmong ((Graph.create name now).after turns).issues = []) :
    errorsAmong (e.run ⟨(Graph.create name now).after turns, mint⟩).2.graph.issues = [] := by
  have hs : ((Graph.create name now).after turns).Sound := sound_after (sound_create name now)
  have hshrinks := shrinks_run mint hs he
  -- The deletion is one more turn of the history.
  have hturn : (e.run ⟨(Graph.create name now).after turns, mint⟩).2.graph =
      (Graph.create name now).after (turns ++ [.edit e mint]) := by
    rw [after, after, List.foldl_append]
    rfl
  have hgroups' : ∀ x mint', Turn.edit (.addGroup x) mint' ∈ turns ++ [.edit e mint] →
      x.nodeIds.Nodup := by
    intro x mint' hmem
    rcases List.mem_append.mp hmem with hmem | hlast
    · exact hgroups x mint' hmem
    · obtain ⟨rfl, -⟩ := Turn.edit.inj (List.mem_singleton.mp hlast)
      cases he
  have hs' : (e.run ⟨(Graph.create name now).after turns, mint⟩).2.graph.Sound := by
    rw [hturn]
    exact sound_after (sound_create name now)
  have hg' : (e.run ⟨(Graph.create name now).after turns, mint⟩).2.graph.Grouped := by
    rw [hturn]
    exact grouped_after hgroups'
  rw [errorsAmong_issues] at hvalid ⊢
  simp only [List.append_eq_nil_iff] at hvalid ⊢
  obtain ⟨-, -, hfit, hunique, hacyclic⟩ := hvalid
  exact ⟨hg'.nodesExist_eq_nil hs', hs'.portsExist_eq_nil, hshrinks.portsFit_eq_nil hfit,
    hshrinks.uniqueNames_eq_nil hunique, hshrinks.noCycles_eq_nil hacyclic⟩

def relay (id : String) : Node where
  id := id
  componentType := "logic.relay"
  name := id
  ports := {
    inputs := [.dataIn "in" (.ofScalar .string)]
    outputs := [.dataOut "out" (.ofScalar .string)] }
  createdAt := default
  modifiedAt := default

/-- Three relays, two of them in a group, with data flowing from one to the next and from the first
to the last. -/
def relayTurns : List Turn := [
  .edit (.addNode (relay "a")) default,
  .edit (.addNode (relay "b")) default,
  .edit (.addNode (relay "c")) default,
  .edit (.addGroup { id := "g", name := "Pair", nodeIds := ["a", "b"] }) default,
  .edit (.addEdge { id := "ab", fromNode := "a", fromPort := "out", toNode := "b", toPort := "in" })
    default,
  .edit (.addEdge { id := "bc", fromNode := "b", fromPort := "out", toNode := "c", toPort := "in" })
    default,
  .edit (.addEdge { id := "ac", fromNode := "a", fromPort := "out", toNode := "c", toPort := "in" })
    default]

/-- The project of three relays has no error and three edges. Without the relay in the middle one
edge is left, and there is still no error. -/
theorem deletion_keeps_relays_valid :
    let g := (Graph.create "p" default).after relayTurns
    let g' := ((Edit.removeNode "b").run ⟨g, default⟩).2.graph
    errorsAmong g.issues = [] ∧ g.edges.size = 3 ∧ g'.edges.size = 1 ∧ errorsAmong g'.issues = [] := by
  intro g g'
  have hgroups : ∀ x mint, Turn.edit (.addGroup x) mint ∈ relayTurns → x.nodeIds.Nodup := by
    intro x mint hmem
    simp only [relayTurns, List.mem_cons, Turn.edit.injEq, Edit.addGroup.injEq, reduceCtorEq,
      List.not_mem_nil, false_and, false_or, or_false] at hmem
    obtain ⟨rfl, -⟩ := hmem
    decide
  have hvalid : errorsAmong g.issues = [] := by decide +kernel
  exact ⟨hvalid, by decide +kernel, by decide +kernel,
    deletion_keeps_valid "p" default relayTurns (.removeNode "b") default hgroups rfl hvalid⟩

end Graph

end Wirework
