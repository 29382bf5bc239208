import Wirework.Proofs.Copy
import Wirework.Proofs.Graph.Step

/-!
# Edits walk along steps

Every edit takes a sound graph along primitive steps, with any arguments and any source of ids,
and also if it fails on the way (`Edit.walks`). What is true of a graph and kept by each step is
then true after every edit. Two edits need more than their own operations: a copy of several nodes
inserts edges without looking at their ends, so what is known of the copied nodes has to be
carried along (`Copied`).
-/

namespace Wirework

open Wirework.Graph

namespace Store

variable {α β : Type} {listed : List String → Prop} {w w' : Workspace} {id : String}

/-! ## Actions -/

/-- An action takes the graph along steps, whether it fails or not. -/
def Walks (listed : List String → Prop) (act : Store α) (w : Workspace) : Prop :=
  Steps listed w.graph (act w).2.graph

theorem walks_of_eq {act : Store α} {r : Except Failure α} (h : act w = (r, w'))
    (hg : Steps listed w.graph w'.graph) : Walks listed act w := by
  rw [Walks, h]
  exact hg

theorem walks_pure (a : α) : Walks listed (pure a : Store α) w := .refl

theorem walks_bind {act : Store α} {f : α → Store β} (h : Walks listed act w)
    (hf : ∀ a w', act w = (.ok a, w') → Walks listed (f a) w') : Walks listed (act >>= f) w := by
  unfold Walks at h ⊢
  rw [run_bind]
  rcases hact : act w with ⟨_ | a, w'⟩
  · rwa [hact] at h
  · rw [hact] at h
    exact h.trans (hf a w' hact)

/-- An answer that is only put into words changes nothing. -/
theorem walks_answer {act : Store α} {f : α → β} (h : Walks listed act w) :
    Walks listed (act >>= fun a => pure (f a)) w :=
  walks_bind h fun a _ _ => walks_pure (f a)

theorem run_change_of_ok {f : Graph → Moment → Except Failure Graph} {g' : Graph}
    (h : f w.graph w.mint.now = .ok g') : change f w = (.ok (), { w with graph := g' }) := by
  rw [change, h]

theorem run_change_of_error {f : Graph → Moment → Except Failure Graph} {why : Failure}
    (h : f w.graph w.mint.now = .error why) : change f w = (.error why, w) := by
  rw [change, h]

theorem walks_change {f : Graph → Moment → Except Failure Graph}
    (h : ∀ g', f w.graph w.mint.now = .ok g' → Steps listed w.graph g') :
    Walks listed (change f) w := by
  cases hf : f w.graph w.mint.now with
  | error why => exact walks_of_eq (run_change_of_error hf) .refl
  | ok g' => exact walks_of_eq (run_change_of_ok hf) (h g' hf)

theorem walks_update {f : Graph → Moment → Except Failure α × Graph}
    (h : Steps listed w.graph (f w.graph w.mint.now).2) : Walks listed (update f) w := h

theorem walks_build (make : StateM Mint α) : Walks listed (build make) w := .refl

theorem mark_steps {g g' : Graph} {now : Moment} (h : Steps listed g g') :
    Steps listed g (g'.markDirty now) := h.tail (.mark _ _)

/-! ## Checks of several nodes -/

theorem requireAll_cases (ids : List String) (w : Workspace) :
    ((∀ id ∈ ids, ∃ n, w.graph.node? id = some n) ∧
      ids.forM (fun id => discard (require id)) w = (.ok (), w)) ∨
    ∃ id ∈ ids, w.graph.node? id = none ∧
      ids.forM (fun id => discard (require id)) w = (.error (.nodeNotFound id), w) := by
  induction ids with
  | nil => exact Or.inl ⟨by simp, rfl⟩
  | cons id rest ih =>
    rw [forM_cons]
    cases hn : w.graph.node? id with
    | none =>
      have hreq : discard (require id) w = (.error (.nodeNotFound id), w) := by
        rw [run_discard, require, requireNode_of_none hn]
      exact Or.inr ⟨id, List.mem_cons_self .., hn, run_bind_of_error hreq⟩
    | some n =>
      have hreq : discard (require id) w = (.ok (), w) := by
        rw [run_discard, require, requireNode_of_some hn]
      rw [run_bind_of_ok hreq]
      rcases ih with ⟨hall, hrun⟩ | ⟨other, hm, hnone, hrun⟩
      · exact Or.inl ⟨List.forall_mem_cons.mpr ⟨⟨n, hn⟩, hall⟩, hrun⟩
      · exact Or.inr ⟨other, List.mem_cons_of_mem _ hm, hnone, hrun⟩

theorem walks_requireAll (ids : List String) :
    Walks listed (ids.forM fun id => discard (require id)) w := by
  rcases requireAll_cases ids w with ⟨-, hrun⟩ | ⟨_, -, -, hrun⟩
  · exact walks_of_eq hrun .refl
  · exact walks_of_eq hrun .refl

/-! ## Copies of nodes -/

section DuplicateNode

variable {n twin : Node} {m : Mint}

theorem require_of_some (hn : w.graph.node? id = some n) : require id w = (.ok n, w) := by
  rw [require, requireNode_of_some hn]

theorem duplicateNode_of_error {why : Failure} (hn : w.graph.node? id = some n)
    (hdup : n.duplicate w.mint = (.error why, m)) :
    duplicateNode id w = (.error why, { w with mint := m }) := by
  have hcopy : copy n.duplicate w = (.error why, { w with mint := m }) := by rw [copy, hdup]
  rw [duplicateNode, run_bind_of_ok (require_of_some hn), run_bind_of_error hcopy]

theorem duplicateNode_of_taken (hn : w.graph.node? id = some n)
    (hdup : n.duplicate w.mint = (.ok twin, m)) (htaken : w.graph.hasNode twin.id = true) :
    duplicateNode id w = (.error (.nodeExists twin.id), { w with mint := m }) := by
  have hcopy : copy n.duplicate w = (.ok twin, { w with mint := m }) := by rw [copy, hdup]
  have hadd : w.graph.addNode m.now twin = .error (.nodeExists twin.id) := by
    rw [addNode, if_pos htaken]
  rw [duplicateNode, run_bind_of_ok (require_of_some hn), run_bind_of_ok hcopy]
  exact run_bind_of_error (run_change_of_error hadd)

theorem duplicateNode_of_new (hn : w.graph.node? id = some n)
    (hdup : n.duplicate w.mint = (.ok twin, m)) (hnew : w.graph.node? twin.id = none) :
    duplicateNode id w = (.ok twin.id, ⟨(w.graph.placeNode twin).markDirty m.now, m⟩) := by
  have hcopy : copy n.duplicate w = (.ok twin, { w with mint := m }) := by rw [copy, hdup]
  have hadd : w.graph.addNode m.now twin = .ok ((w.graph.placeNode twin).markDirty m.now) :=
    addNode_eq_ok_iff.mpr ⟨hnew, rfl⟩
  rw [duplicateNode, run_bind_of_ok (require_of_some hn), run_bind_of_ok hcopy]
  exact run_bind_of_ok (run_change_of_ok hadd)

end DuplicateNode

/-- The outcomes of a copy of a node: the node is missing, the copy is refused, its id is taken, or
it is placed. -/
theorem duplicateNode_cases (id : String) (w : Workspace) :
    (w.graph.node? id = none ∧ duplicateNode id w = (.error (.nodeNotFound id), w)) ∨
    (∃ why : Failure, why.IsRefusal ∧ duplicateNode id w = (.error why, w)) ∨
    ∃ n twin drawn, w.graph.node? id = some n ∧
      twin.id = w.mint.spell .node (w.mint.nodes + 1) ∧ twin.groupId = none ∧
      twin.ports.SameIds n.ports ∧
      ((w.graph.hasNode twin.id = true ∧ duplicateNode id w =
          (.error (.nodeExists twin.id), { w with mint := w.mint.spend drawn })) ∨
        (w.graph.node? twin.id = none ∧ duplicateNode id w =
          (.ok twin.id, ⟨(w.graph.placeNode twin).markDirty w.mint.now, w.mint.spend drawn⟩))) := by
  cases hn : w.graph.node? id with
  | none =>
    have hreq : require id w = (.error (.nodeNotFound id), w) := by
      rw [require, requireNode_of_none hn]
    exact Or.inl ⟨rfl, run_bind_of_error hreq⟩
  | some n =>
    rcases n.duplicate_cases w.mint with ⟨why, hwhy, hdup⟩ |
      ⟨twin, drawn, hdup, hid, hgroup, hports⟩
    · exact Or.inr (Or.inl ⟨why, hwhy, duplicateNode_of_error hn hdup⟩)
    · refine Or.inr (Or.inr ⟨n, twin, drawn, rfl, hid, hgroup, hports, ?_⟩)
      cases hc : w.graph.hasNode twin.id with
      | true => exact Or.inl ⟨rfl, duplicateNode_of_taken hn hdup hc⟩
      | false =>
        have hnone := hasNode_eq_false_iff.mp hc
        exact Or.inr ⟨hnone, duplicateNode_of_new hn hdup hnone⟩

/-- Every listed node and its copy are in the graph, with ports of the same ids. -/
def Copied (g : Graph) (copies : Dict String) : Prop :=
  ∀ a b, copies.get? a = some b → ∃ n twin, g.node? a = some n ∧ g.node? b = some twin ∧
    twin.ports.SameIds n.ports

theorem Copied.place {g : Graph} {copies : Dict String} {n twin : Node} {now : Moment}
    (h : Copied g copies) (hn : g.node? id = some n) (hnew : g.node? twin.id = none)
    (hports : twin.ports.SameIds n.ports) :
    Copied ((g.placeNode twin).markDirty now) (copies.insert id twin.id) := by
  have hold : ∀ {a m}, g.node? a = some m → (g.placeNode twin).node? a = some m := by
    intro a m hm
    have hne : a ≠ twin.id := fun heq => by
      rw [heq, hnew] at hm
      cases hm
    rw [node?_placeNode, if_neg hne, hm]
  have htwin : (g.placeNode twin).node? twin.id = some (g.settle twin) := by
    rw [node?_placeNode, if_pos rfl]
  intro a b hab
  rcases Dict.get?_insert_cases hab with ⟨rfl, rfl⟩ | ⟨-, hab⟩
  · exact ⟨n, g.settle twin, hold hn, htwin, hports⟩
  · obtain ⟨m, m', hm, hm', hsame⟩ := h a b hab
    exact ⟨m, m', hold hm, hold hm', hsame⟩

theorem duplicateEach_walks {ids : List String} {copies : Dict String} (h : Copied w.graph copies) :
    Walks listed (duplicateEach copies ids) w ∧
      ∀ all w', duplicateEach copies ids w = (.ok all, w') → Copied w'.graph all := by
  induction ids generalizing copies w with
  | nil =>
    refine ⟨.refl, fun all w' heq => ?_⟩
    obtain ⟨hall, rfl⟩ := Prod.mk.inj heq
    exact Except.ok.inj hall ▸ h
  | cons id rest ih =>
    have hstop : ∀ {f w'}, duplicateNode id w = (.error f, w') → Steps listed w.graph w'.graph →
        Walks listed (do
          let copy ← duplicateNode id
          duplicateEach (copies.insert id copy) rest) w ∧
        ∀ all w'', (do
          let copy ← duplicateNode id
          duplicateEach (copies.insert id copy) rest : Store (Dict String)) w = (.ok all, w'') →
            Copied w''.graph all := by
      intro f w' hrun hsteps
      refine ⟨walks_of_eq (run_bind_of_error hrun) hsteps, fun all w'' heq => ?_⟩
      rw [run_bind_of_error hrun] at heq
      cases heq
    rw [duplicateEach]
    split
    · exact ih h
    · rcases duplicateNode_cases id w with ⟨-, hrun⟩ | ⟨_, -, hrun⟩ |
        ⟨n, twin, drawn, hn, -, -, hports, ⟨-, hrun⟩ | ⟨hnew, hrun⟩⟩
      · exact hstop hrun .refl
      · exact hstop hrun .refl
      · exact hstop hrun .refl
      · obtain ⟨hwalk, hall⟩ := ih (w := ⟨(w.graph.placeNode twin).markDirty w.mint.now,
          w.mint.spend drawn⟩) (h.place hn hnew hports)
        have hplace : Steps listed w.graph ((w.graph.placeNode twin).markDirty w.mint.now) :=
          mark_steps (.single (.place hnew))
        refine ⟨?_, fun all w' heq => hall all w' ?_⟩
        · unfold Walks
          rw [run_bind_of_ok hrun]
          exact hplace.trans hwalk
        · rw [← heq, run_bind_of_ok hrun]

section CopyEdges

variable {copies : Dict String}

theorem copyEdges_of_outside {e : Edge} (rest : List Edge) (w : Workspace)
    (h : (copies.contains e.fromNode && copies.contains e.toNode) = false) :
    copyEdges copies (e :: rest) w = copyEdges copies rest w := by
  rw [copyEdges]
  rcases Bool.and_eq_false_iff.mp h with h | h
  · rw [Dict.contains_eq_false_iff.mp h]
  · rw [Dict.contains_eq_false_iff.mp h]
    cases copies.get? e.fromNode <;> rfl

theorem copyEdges_of_refused {e : Edge} {source target : String} {why : Failure} {m : Mint}
    (rest : List Edge) (hsource : copies.get? e.fromNode = some source)
    (htarget : copies.get? e.toNode = some target)
    (hdup : e.duplicate (some source) (some target) w.mint = (.error why, m)) :
    copyEdges copies (e :: rest) w = (.error why, { w with mint := m }) := by
  have hcopy : copy (e.duplicate (some source) (some target)) w =
      (.error why, { w with mint := m }) := by rw [copy, hdup]
  rw [copyEdges, hsource, htarget]
  exact run_bind_of_error hcopy

theorem copyEdges_of_inside {e twin : Edge} {source target : String} {m : Mint}
    (rest : List Edge) (hsource : copies.get? e.fromNode = some source)
    (htarget : copies.get? e.toNode = some target)
    (hdup : e.duplicate (some source) (some target) w.mint = (.ok twin, m)) :
    copyEdges copies (e :: rest) w = copyEdges copies rest
      ⟨{ w.graph with edges := w.graph.edges.insert twin.id twin }, m⟩ := by
  have hcopy : copy (e.duplicate (some source) (some target)) w =
      (.ok twin, { w with mint := m }) := by rw [copy, hdup]
  rw [copyEdges, hsource, htarget]
  exact run_bind_of_ok hcopy

end CopyEdges

/-- The outcomes for the first of some edges: it is passed over since not both of its ends are
copied, its copy is refused, or its copy is put between the copies of its ends. -/
theorem copyEdges_cons_cases (copies : Dict String) (e : Edge) (rest : List Edge) (w : Workspace) :
    copyEdges copies (e :: rest) w = copyEdges copies rest w ∨
    (∃ why : Failure, why.IsRefusal ∧ copyEdges copies (e :: rest) w = (.error why, w)) ∨
    ∃ source target twin w', copies.get? e.fromNode = some source ∧
      copies.get? e.toNode = some target ∧
      twin = { e with
        id := w.mint.spell .edge (w.mint.edges + 1), fromNode := source, toNode := target,
        metadata := twin.metadata, zIndex := twin.zIndex } ∧
      w'.graph = { w.graph with edges := w.graph.edges.insert twin.id twin } ∧
      copyEdges copies (e :: rest) w = copyEdges copies rest w' := by
  cases hinside : copies.contains e.fromNode && copies.contains e.toNode with
  | false => exact Or.inl (copyEdges_of_outside rest w hinside)
  | true =>
    obtain ⟨hfrom, hto⟩ := Bool.and_eq_true_iff.mp hinside
    obtain ⟨source, hsource⟩ := Dict.contains_iff.mp hfrom
    obtain ⟨target, htarget⟩ := Dict.contains_iff.mp hto
    rcases e.duplicate_cases source target w.mint with ⟨why, hwhy, hdup⟩ | ⟨twin, hdup, htwin⟩
    · exact Or.inr (Or.inl ⟨why, hwhy, copyEdges_of_refused rest hsource htarget hdup⟩)
    · exact Or.inr (Or.inr ⟨source, target, twin, _, hsource, htarget, htwin, rfl,
        copyEdges_of_inside rest hsource htarget hdup⟩)

theorem copyEdges_walks {copies : Dict String} {es : List Edge} (hc : Copied w.graph copies)
    (he : ∀ e ∈ es, w.graph.Anchors e) : Walks listed (copyEdges copies es) w := by
  induction es generalizing w with
  | nil => exact .refl
  | cons e rest ih =>
    obtain ⟨hfirst, hrest⟩ := List.forall_mem_cons.mp he
    unfold Walks
    rcases copyEdges_cons_cases copies e rest w with hrun | ⟨_, -, hrun⟩ |
      ⟨source, target, twin, w', hsource, htarget, htwin, hg, hrun⟩
    · rw [hrun]
      exact ih hc hrest
    · rw [hrun]
    · have hanchors : w.graph.Anchors twin := by
        obtain ⟨n, m, hn, hm, hports⟩ := hfirst
        obtain ⟨n', n'', hn', hn'', -, hout⟩ := hc _ _ hsource
        obtain ⟨m', m'', hm', hm'', hin, -⟩ := hc _ _ htarget
        obtain rfl := Option.some.inj (hn.symm.trans hn')
        obtain rfl := Option.some.inj (hm.symm.trans hm')
        rw [htwin]
        exact ⟨n'', m'', hn'', hm'', by rwa [hout, hin]⟩
      have hput : Step listed w.graph w'.graph := by
        rw [hg]
        exact .putEdge hanchors
      have hc' : Copied w'.graph copies := by
        rw [hg]
        exact hc
      have hrest' : ∀ e ∈ rest, w'.graph.Anchors e := by
        rw [hg]
        exact hrest
      rw [hrun]
      exact Relation.ReflTransGen.head hput (ih hc' hrest')

theorem duplicateNodes_walks (hs : w.graph.Sound) (ids : List String) :
    Walks listed (duplicateNodes ids) w := by
  unfold duplicateNodes
  refine walks_bind (walks_requireAll ids) fun _ w₁ hreq => ?_
  have hsame : w₁ = w := by
    rcases requireAll_cases ids w with ⟨-, hrun⟩ | ⟨_, -, -, hrun⟩
    · exact (Prod.mk.inj (hreq.symm.trans hrun)).2
    · cases hreq.symm.trans hrun
  subst hsame
  have hnone : Copied w₁.graph .empty := fun a b hab => nomatch hab
  obtain ⟨hwalk, hcopied⟩ : Walks listed (duplicateEach .empty ids) w₁ ∧ _ :=
    duplicateEach_walks hnone
  refine walks_bind hwalk fun copies w₂ heach => ?_
  -- The edges to copy are read off the graph with the new nodes, which is sound as well.
  have hsound : w₂.graph.Sound := by
    unfold Walks at hwalk
    rw [heach] at hwalk
    exact hs.steps hwalk
  refine walks_bind (walks_of_eq (run_get w₂) .refl) fun _ w₃ hget => ?_
  obtain ⟨hw, rfl⟩ := Prod.mk.inj ((run_get w₂).symm.trans hget)
  obtain rfl := Except.ok.inj hw
  have hanchored : ∀ e ∈ w₂.graph.edges.values, w₂.graph.Anchors e := by
    intro e he
    obtain ⟨k, hk⟩ := Dict.mem_values_iff.mp he
    exact hsound.anchored hk
  refine walks_bind (copyEdges_walks (hcopied copies w₂ heach) hanchored) fun _ w₄ _ => ?_
  exact walks_answer (walks_update (mark_steps .refl))

/-! ## Single operations -/

section Operations

variable {g g' : Graph} {now : Moment} {key : String}

theorem addNode_steps {n : Node} (h : g.addNode now n = .ok g') : Steps listed g g' := by
  obtain ⟨hn, rfl⟩ := addNode_eq_ok_iff.mp h
  exact mark_steps (.single (.place hn))

theorem addEdge_steps {e : Edge} (h : g.addEdge now e = .ok g') : Steps listed g g' := by
  obtain ⟨-, hc, rfl⟩ := addEdge_eq_ok_iff.mp h
  exact mark_steps (.single (.putEdge (checkEnds_eq_ok_iff.mp hc)))

theorem removeEdge_steps : Steps listed g (g.removeEdge now id).2 := by
  cases he : g.edge? id with
  | none => rw [removeEdge_of_none he]
  | some e =>
    rw [removeEdge_of_some he]
    exact mark_steps (.single (.dropEdge id))

theorem removeEdgesFor_steps (hs : g.Sound) : Steps listed g (g.removeEdgesFor now id).2 := by
  rw [removeEdgesFor_eq hs.edgeKeys]
  dsimp only
  split
  · exact .refl
  · exact mark_steps (.single (.dropEdges id))

theorem removeNode_steps (hs : g.Sound) : Steps listed g (g.removeNode now id).2 := by
  cases hn : g.node? id with
  | none => rw [removeNode_of_none hn]
  | some n =>
    rw [removeNode_of_some hs.edgeKeys hn]
    exact mark_steps (.single (.dropNode id))

theorem addGroup_steps {x : Group} (hl : listed x.nodeIds) (h : g.addGroup now x = .ok g') :
    Steps listed g g' := by
  obtain ⟨hx, rfl⟩ := addGroup_eq_ok_iff.mp h
  exact mark_steps (.single (.openGroup hx hl))

theorem addToGroup_steps (h : g.addToGroup now id key = .ok g') : Steps listed g g' := by
  obtain ⟨⟨n, hn⟩, ⟨x, hx⟩, rfl⟩ := addToGroup_eq_ok_iff.mp h
  exact mark_steps (.single (.attach hn hx))

theorem removeFromGroup_steps {b : Bool} (h : g.removeFromGroup now id = .ok (b, g')) :
    Steps listed g g' := by
  cases hn : g.node? id with
  | none =>
    rw [removeFromGroup_of_none hn] at h
    cases h
  | some n =>
    cases hg : n.groupId with
    | none =>
      rw [removeFromGroup_of_outside hn hg] at h
      cases h
      exact .refl
    | some key =>
      rw [removeFromGroup_of_inside hn hg] at h
      cases h
      exact mark_steps (.single (.detach hn hg))

theorem removeGroup_steps : Steps listed g (g.removeGroup now key).2 := by
  cases hx : g.group? key with
  | none => rw [removeGroup_of_none hx]
  | some x =>
    rw [removeGroup_of_some hx]
    exact mark_steps (.single (.dropGroup hx))

theorem ungroup_steps {members : List String} (h : g.ungroup now key = .ok (members, g')) :
    Steps listed g g' := by
  cases hx : g.group? key with
  | none =>
    rw [ungroup_of_none hx] at h
    cases h
  | some x =>
    rw [ungroup_of_some hx] at h
    cases h
    exact mark_steps (.single (.dropGroup hx))

end Operations

/-! ## Actions made of several operations -/

theorem duplicateNode_walks : Walks listed (duplicateNode id) w := by
  rcases duplicateNode_cases id w with ⟨-, hrun⟩ | ⟨_, -, hrun⟩ |
    ⟨n, twin, drawn, -, -, -, -, ⟨-, hrun⟩ | ⟨hnew, hrun⟩⟩
  · exact walks_of_eq hrun .refl
  · exact walks_of_eq hrun .refl
  · exact walks_of_eq hrun .refl
  · exact walks_of_eq hrun (mark_steps (.single (.place hnew)))

theorem addAllToGroup_walks {key : String} (ids : List String) :
    Walks listed (ids.forM fun id => change fun g now => g.addToGroup now id key) w := by
  induction ids generalizing w with
  | nil => exact .refl
  | cons id rest ih =>
    rw [forM_cons]
    exact walks_bind (walks_change fun g' h => addToGroup_steps h) fun _ _ _ => ih

theorem createGroup_walks (hl : listed []) (name : String) (ids : List String) :
    Walks listed (createGroup name ids) w := by
  unfold createGroup
  refine walks_bind (walks_requireAll ids) fun _ w₁ _ => ?_
  refine walks_bind (walks_build _) fun x w₂ hbuild => ?_
  have hx : x.nodeIds = [] := by
    obtain ⟨ha, -⟩ := Prod.mk.inj hbuild
    exact Except.ok.inj ha ▸ rfl
  refine walks_bind (walks_change fun g' h => addGroup_steps (hx ▸ hl) h) fun _ w₃ _ => ?_
  exact walks_answer (addAllToGroup_walks ids)

end Store

/-! ## Edits -/

/-- The members that an edit lists for a new group. A group that an edit makes by itself is new and
empty; its members join one by one. -/
def Edit.listed : Edit → List String
  | .addGroup x => x.nodeIds
  | _ => []

open Store in
theorem Edit.walks {listed : List String → Prop} {w : Workspace} (hs : w.graph.Sound) (e : Edit)
    (hl : listed e.listed) : Walks listed e.run w := by
  have hedge : ∀ make, Walks listed (Edit.run.addEdge make) w := by
    intro make
    refine walks_bind (walks_build make) fun _ _ _ => ?_
    exact walks_answer (walks_change fun _ h => addEdge_steps h)
  cases e with
  | addNode n => exact walks_answer (walks_change fun _ h => addNode_steps h)
  | createNode componentType name =>
    refine walks_bind (walks_build _) fun n w' _ => ?_
    exact walks_answer (walks_change fun _ h => addNode_steps h)
  | removeNode id => exact walks_answer (walks_update (removeNode_steps hs))
  | duplicateNode id => exact walks_answer duplicateNode_walks
  | duplicateNodes ids => exact walks_answer (duplicateNodes_walks hs ids)
  | addEdge e => exact hedge _
  | connect a p b q connection => exact hedge _
  | addRelationship a b relation => exact hedge _
  | addDependency a b => exact hedge _
  | removeEdge id => exact walks_answer (walks_update removeEdge_steps)
  | removeEdgesFor id => exact walks_answer (walks_update (removeEdgesFor_steps hs))
  | addGroup x => exact walks_answer (walks_change fun _ h => addGroup_steps hl h)
  | createGroup name ids => exact walks_answer (createGroup_walks hl name ids)
  | removeGroup id => exact walks_answer (walks_update removeGroup_steps)
  | addToGroup id key => exact walks_answer (walks_change fun _ h => addToGroup_steps h)
  | removeFromGroup id =>
    refine walks_answer (walks_update ?_)
    split
    · rename_i heq
      exact removeFromGroup_steps heq
    · exact .refl
  | ungroup id =>
    refine walks_answer (walks_update ?_)
    split
    · rename_i heq
      exact ungroup_steps heq
    · exact .refl
  | clear => exact walks_answer (walks_update (mark_steps (.single .clear)))

end Wirework
