import Wirework.Proofs.Graph.History

/-!
# Edits are all or nothing

An edit of a graph with a history either leaves the graph as it was, or it succeeds and leaves
unsaved changes behind (`Edit.atomic`). So a failure changes nothing, and nothing changes
unnoticed. Two edits write more than once. A new group takes its members in one by one, which
cannot fail after all of them have been looked up. Copies of several nodes are placed one by one,
which can fail in two ways: a fresh id may be taken, which is ruled out here (`Workspace.Fresh`),
and a node may refuse to be copied, which is the one exception.
-/

namespace Wirework

open Wirework.Graph

/-- The node ids that are drawn up to a number are new to the graph. Each draw finds the copies
under the ids drawn before it, so these ids also differ from each other. -/
structure Workspace.Fresh (w : Workspace) (last : Nat) : Prop where
  unused : ∀ i, w.mint.nodes < i → i ≤ last → w.graph.node? (w.mint.spell .node i) = none
  distinct : ∀ i j, w.mint.nodes < i → i < j → j ≤ last →
    w.mint.spell .node i ≠ w.mint.spell .node j

/-- A copy takes the next id; the ids after it stay fresh. -/
theorem Workspace.Fresh.place {w : Workspace} {last drawn : Nat} {twin : Node}
    (h : w.Fresh last) (hid : twin.id = w.mint.spell .node (w.mint.nodes + 1)) :
    Workspace.Fresh ⟨(w.graph.placeNode twin).markDirty w.mint.now, w.mint.spend drawn⟩ last where
  unused i hi hlast := by
    have hi' : w.mint.nodes + 1 < i := hi
    have hne : w.mint.spell .node i ≠ twin.id := by
      rw [hid]
      exact (h.distinct _ i (Nat.lt_succ_self _) hi' hlast).symm
    rw [node?_markDirty, node?_placeNode]
    exact (if_neg hne).trans (h.unused i (Nat.lt_of_succ_lt hi') hlast)
  distinct i j hi hij hlast := h.distinct i j (Nat.lt_of_succ_lt hi) hij hlast

namespace Store

variable {α β : Type} {w w' : Workspace} {id : String}

/-! ## Actions -/

/-- An action leaves the graph as it was, or it succeeds and leaves unsaved changes. -/
def Atomic (act : Store α) (w : Workspace) : Prop :=
  (act w).2.graph = w.graph ∨ (∃ a, (act w).1 = .ok a) ∧ (act w).2.graph.dirty = true

theorem atomic_of_kept {act : Store α} {r : Except Failure α} (h : act w = (r, w'))
    (hg : w'.graph = w.graph) : Atomic act w := by
  rw [Atomic, h]
  exact Or.inl hg

theorem atomic_of_done {act : Store α} {a : α} (h : act w = (.ok a, w'))
    (hd : w'.graph.dirty = true) : Atomic act w := by
  rw [Atomic, h]
  exact Or.inr ⟨⟨a, rfl⟩, hd⟩

theorem answer_state {act : Store α} {f : α → β} :
    ((act >>= fun a => pure (f a)) w).2 = (act w).2 := by
  rw [run_bind]
  rcases act w with ⟨_ | _, _⟩ <;> rfl

theorem answer_error {act : Store α} {f : α → β} {why : Failure} (h : (act w).1 = .error why) :
    ((act >>= fun a => pure (f a)) w).1 = .error why := by
  rw [run_bind]
  rcases hact : act w with ⟨other | a, w'⟩
  · rw [hact] at h
    exact congrArg Except.error (Except.error.inj h)
  · rw [hact] at h
    cases h

theorem answer_ok {act : Store α} {f : α → β} {a : α} (h : (act w).1 = .ok a) :
    ((act >>= fun a => pure (f a)) w).1 = .ok (f a) := by
  rw [run_bind]
  rcases hact : act w with ⟨why | b, w'⟩
  · rw [hact] at h
    cases h
  · rw [hact] at h
    exact congrArg (Except.ok ∘ f) (Except.ok.inj h)

theorem atomic_answer {act : Store α} {f : α → β} (h : Atomic act w) :
    Atomic (act >>= fun a => pure (f a)) w := by
  rw [Atomic, answer_state]
  rcases h with hg | ⟨⟨a, ha⟩, hd⟩
  · exact Or.inl hg
  · exact Or.inr ⟨⟨f a, answer_ok ha⟩, hd⟩

/-- What comes after an action that leaves the graph alone decides. -/
theorem atomic_bind {act : Store α} {f : α → Store β} (hkept : (act w).2.graph = w.graph)
    (hf : ∀ a w', act w = (.ok a, w') → Atomic (f a) w') : Atomic (act >>= f) w := by
  rcases hact : act w with ⟨why | a, w'⟩
  · rw [hact] at hkept
    exact atomic_of_kept (run_bind_of_error hact) hkept
  · rw [hact] at hkept
    have hrest := hf a w' hact
    unfold Atomic at hrest ⊢
    rwa [run_bind_of_ok hact, ← hkept]

theorem atomic_change {f : Graph → Moment → Except Failure Graph}
    (h : ∀ g', f w.graph w.mint.now = .ok g' → g'.dirty = true) : Atomic (change f) w := by
  cases hf : f w.graph w.mint.now with
  | error why => exact atomic_of_kept (run_change_of_error hf) rfl
  | ok g' => exact atomic_of_done (run_change_of_ok hf) (h g' hf)

theorem atomic_update {f : Graph → Moment → Except Failure α × Graph} {r : Except Failure α}
    {g' : Graph} (h : f w.graph w.mint.now = (r, g'))
    (hr : g' = w.graph ∨ (∃ a, r = .ok a) ∧ g'.dirty = true) : Atomic (update f) w := by
  have hrun : update f w = (r, { w with graph := g' }) := by rw [update, h]
  rw [Atomic, hrun]
  exact hr

/-! ## Single operations -/

theorem atomic_addNode {n : Node} : Atomic (change fun g now => g.addNode now n) w := by
  refine atomic_change fun g' h => ?_
  obtain ⟨-, rfl⟩ := addNode_eq_ok_iff.mp h
  rfl

theorem atomic_addEdge {e : Edge} : Atomic (change fun g now => g.addEdge now e) w := by
  refine atomic_change fun g' h => ?_
  obtain ⟨-, -, rfl⟩ := addEdge_eq_ok_iff.mp h
  rfl

theorem atomic_addGroup {x : Group} : Atomic (change fun g now => g.addGroup now x) w := by
  refine atomic_change fun g' h => ?_
  obtain ⟨-, rfl⟩ := addGroup_eq_ok_iff.mp h
  rfl

theorem atomic_addToGroup {key : String} :
    Atomic (change fun g now => g.addToGroup now id key) w := by
  refine atomic_change fun g' h => ?_
  obtain ⟨-, -, rfl⟩ := addToGroup_eq_ok_iff.mp h
  rfl

theorem atomic_removeNode (hs : w.graph.Sound) :
    Atomic (update fun g now => g.removeNode now id) w := by
  cases hn : w.graph.node? id with
  | none => exact atomic_update (removeNode_of_none hn) (Or.inl rfl)
  | some n => exact atomic_update (removeNode_of_some hs.edgeKeys hn) (Or.inr ⟨⟨_, rfl⟩, rfl⟩)

theorem atomic_removeEdge :
    Atomic (update fun g now => let (e, g) := g.removeEdge now id; (.ok e, g)) w := by
  cases he : w.graph.edge? id with
  | none => exact atomic_update (by rw [removeEdge_of_none he]) (Or.inl rfl)
  | some e => exact atomic_update (by rw [removeEdge_of_some he]) (Or.inr ⟨⟨_, rfl⟩, rfl⟩)

theorem atomic_removeEdgesFor (hs : w.graph.Sound) :
    Atomic (update fun g now => g.removeEdgesFor now id) w := by
  refine atomic_update (removeEdgesFor_eq hs.edgeKeys) ?_
  split
  · exact Or.inl rfl
  · exact Or.inr ⟨⟨_, rfl⟩, rfl⟩

theorem atomic_removeGroup :
    Atomic (update fun g now => let (x, g) := g.removeGroup now id; (.ok x, g)) w := by
  cases hx : w.graph.group? id with
  | none => exact atomic_update (by rw [removeGroup_of_none hx]) (Or.inl rfl)
  | some x => exact atomic_update (by rw [removeGroup_of_some hx]) (Or.inr ⟨⟨_, rfl⟩, rfl⟩)

theorem atomic_removeFromGroup :
    Atomic (update fun g now =>
      match g.removeFromGroup now id with
      | .ok (was, g) => (.ok was, g)
      | .error f => (.error f, g)) w := by
  cases hn : w.graph.node? id with
  | none => exact atomic_update (by rw [removeFromGroup_of_none hn]) (Or.inl rfl)
  | some n =>
    cases hg : n.groupId with
    | none => exact atomic_update (by rw [removeFromGroup_of_outside hn hg]) (Or.inl rfl)
    | some key =>
      exact atomic_update (by rw [removeFromGroup_of_inside hn hg]) (Or.inr ⟨⟨_, rfl⟩, rfl⟩)

theorem atomic_ungroup :
    Atomic (update fun g now =>
      match g.ungroup now id with
      | .ok (members, g) => (.ok members, g)
      | .error f => (.error f, g)) w := by
  cases hx : w.graph.group? id with
  | none => exact atomic_update (by rw [ungroup_of_none hx]) (Or.inl rfl)
  | some x => exact atomic_update (by rw [ungroup_of_some hx]) (Or.inr ⟨⟨_, rfl⟩, rfl⟩)

theorem atomic_duplicateNode : Atomic (duplicateNode id) w := by
  rcases duplicateNode_cases id w with ⟨-, hrun⟩ | ⟨_, -, hrun⟩ |
    ⟨n, twin, drawn, -, -, -, -, ⟨-, hrun⟩ | ⟨-, hrun⟩⟩
  · exact atomic_of_kept hrun rfl
  · exact atomic_of_kept hrun rfl
  · exact atomic_of_kept hrun rfl
  · exact atomic_of_done hrun rfl

/-! ## A group around nodes -/

theorem addAllToGroup_succeeds {key : String} {x : Group} {ids : List String} (hs : w.graph.Sound)
    (hx : w.graph.group? key = some x) (hin : ∀ id ∈ ids, ∃ n, w.graph.node? id = some n)
    (hd : w.graph.dirty = true) :
    ∃ w', ids.forM (fun id => change fun g now => g.addToGroup now id key) w = (.ok (), w') ∧
      w'.graph.dirty = true := by
  induction ids generalizing w x with
  | nil => exact ⟨w, rfl, hd⟩
  | cons id rest ih =>
    obtain ⟨⟨n, hn⟩, hrest⟩ := List.forall_mem_cons.mp hin
    have hadd : w.graph.addToGroup w.mint.now id key =
        .ok ((w.graph.attach id key).markDirty w.mint.now) :=
      addToGroup_eq_ok_iff.mpr ⟨⟨n, hn⟩, ⟨x, hx⟩, rfl⟩
    have hmoved := regrouped_attach hn hx (hs.groupKeys hx)
    obtain ⟨y, hy⟩ := hasGroup_attach hx hs hn
    rw [forM_cons, run_bind_of_ok (run_change_of_ok hadd)]
    refine ih ((hmoved.sound hs).congr rfl rfl rfl) hy (fun other hm => ?_) rfl
    obtain ⟨m, hm'⟩ := hrest other hm
    obtain ⟨m', hm'', -⟩ := hmoved.node_forth hm'
    exact ⟨m', hm''⟩

theorem atomic_fillGroup {x : Group} {ids : List String} (hs : w.graph.Sound) (hx : x.nodeIds = [])
    (hin : ∀ id ∈ ids, ∃ n, w.graph.node? id = some n) :
    Atomic (do
      change fun g now => g.addGroup now x
      ids.forM fun id => change fun g now => g.addToGroup now id x.id
      return x.id) w := by
  cases hadd : w.graph.addGroup w.mint.now x with
  | error why => exact atomic_of_kept (run_bind_of_error (run_change_of_error hadd)) rfl
  | ok g' =>
    -- Nothing is listed, so opening the group writes the group itself and nothing else.
    obtain ⟨-, rfl⟩ := addGroup_eq_ok_iff.mp hadd
    rw [hx] at hadd
    let opened : Graph := { w.graph with groups := w.graph.groups.insert x.id x }
    have hsound : (opened.markDirty w.mint.now).Sound := hs.insertGroup.congr rfl rfl rfl
    have hgroup : (opened.markDirty w.mint.now).group? x.id = some x := Dict.get?_insert_self
    obtain ⟨w', hall, hd⟩ := addAllToGroup_succeeds
      (w := { w with graph := opened.markDirty w.mint.now }) hsound hgroup hin rfl
    exact atomic_of_done ((run_bind_of_ok (run_change_of_ok hadd)).trans (run_bind_of_ok hall)) hd

theorem atomic_createGroup (hs : w.graph.Sound) (name : String) (ids : List String) :
    Atomic (createGroup name ids) w := by
  unfold createGroup
  rcases requireAll_cases ids w with ⟨hin, hrun⟩ | ⟨_, -, -, hrun⟩
  · refine atomic_bind (by rw [hrun]) fun _ w₁ hreq => ?_
    obtain ⟨-, rfl⟩ := Prod.mk.inj (hrun.symm.trans hreq)
    refine atomic_bind rfl fun x w₂ hbuild => ?_
    obtain ⟨hok, rfl⟩ := Prod.mk.inj hbuild
    obtain rfl := Except.ok.inj hok
    exact atomic_fillGroup hs rfl hin
  · exact atomic_of_kept (run_bind_of_error hrun) rfl

/-! ## Copies of several nodes -/

/-- With fresh ids, only a node that refuses to be copied can stop the copies. -/
theorem duplicateEach_error {ids : List String} {copies : Dict String} {why : Failure}
    (hin : ∀ id ∈ ids, ∃ n, w.graph.node? id = some n)
    (hrun : duplicateEach copies ids w = (.error why, w')) (hfresh : w.Fresh w'.mint.nodes) :
    why.IsRefusal := by
  induction ids generalizing copies w with
  | nil => cases hrun
  | cons id rest ih =>
    obtain ⟨⟨n, hn⟩, hrest⟩ := List.forall_mem_cons.mp hin
    rw [duplicateEach] at hrun
    split at hrun
    · exact ih hrest hrun hfresh
    · rcases duplicateNode_cases id w with ⟨hnone, -⟩ | ⟨why', hwhy, hdup⟩ |
        ⟨m, twin, drawn, -, hid, -, -, ⟨htaken, hdup⟩ | ⟨-, hdup⟩⟩
      · cases hn.symm.trans hnone
      · rw [run_bind_of_error hdup] at hrun
        cases hrun
        exact hwhy
      · -- The copy stopped at the id that was drawn last, and that one is not taken.
        rw [run_bind_of_error hdup] at hrun
        cases hrun
        obtain ⟨m, hm⟩ := hasNode_iff.mp htaken
        have hnew := hfresh.unused _ (Nat.lt_succ_self _) (Nat.le_refl _)
        rw [← hid, hm] at hnew
        cases hnew
      · rw [run_bind_of_ok hdup] at hrun
        refine ih (fun other hm => ?_) hrun (hfresh.place hid)
        obtain ⟨m, hm'⟩ := hrest other hm
        rw [node?_markDirty, node?_placeNode]
        by_cases ho : other = twin.id
        · exact ⟨_, if_pos ho⟩
        · exact ⟨m, by rw [if_neg ho, hm']⟩

theorem copyEdges_error {es : List Edge} {copies : Dict String} {why : Failure}
    (hrun : copyEdges copies es w = (.error why, w')) : why.IsRefusal := by
  induction es generalizing w with
  | nil => cases hrun
  | cons e rest ih =>
    rcases copyEdges_cons_cases copies e rest w with hfirst | ⟨why', hwhy, hfirst⟩ |
      ⟨_, _, _, w', -, -, -, -, hfirst⟩
    · exact ih (hfirst.symm.trans hrun)
    · cases hfirst.symm.trans hrun
      exact hwhy
    · exact ih (hfirst.symm.trans hrun)

/-- Copies of several nodes are all made, or nothing is written, or one of them is refused. -/
theorem atomic_duplicateNodes (ids : List String)
    (hfresh : w.Fresh (duplicateNodes ids w).2.mint.nodes) :
    Atomic (duplicateNodes ids) w ∨
      ∃ why : Failure, why.IsRefusal ∧ (duplicateNodes ids w).1 = .error why := by
  rcases requireAll_cases ids w with ⟨hin, hreq⟩ | ⟨_, -, -, hreq⟩
  · rcases heach : duplicateEach .empty ids w with ⟨why | copies, w₁⟩
    · have hrun : duplicateNodes ids w = (.error why, w₁) := by
        rw [duplicateNodes, run_bind_of_ok hreq, run_bind_of_error heach]
      rw [hrun] at hfresh ⊢
      exact Or.inr ⟨why, duplicateEach_error hin heach hfresh, rfl⟩
    · have hrest : duplicateNodes ids w = (do
          copyEdges copies w₁.graph.edges.values
          update fun g now => (.ok (), g.markDirty now)
          return copies : Store (Dict String)) w₁ := by
        rw [duplicateNodes, run_bind_of_ok hreq, run_bind_of_ok heach, run_bind_of_ok (run_get w₁)]
      rcases hedges : copyEdges copies w₁.graph.edges.values w₁ with ⟨why | _, w₂⟩
      · exact Or.inr ⟨why, copyEdges_error hedges, by rw [hrest, run_bind_of_error hedges]⟩
      · exact Or.inl (atomic_of_done (hrest.trans (run_bind_of_ok hedges)) rfl)
  · exact Or.inl (atomic_of_kept (run_bind_of_error hreq) rfl)

end Store

/-! ## Edits -/

open Store in
/-- An edit of a sound graph is atomic, unless it copies several nodes and one of the copies is
refused. -/
theorem Edit.atomic {w : Workspace} (hs : w.graph.Sound) (e : Edit)
    (hfresh : w.Fresh (e.run w).2.mint.nodes) :
    Atomic e.run w ∨
      ∃ ids, ∃ why : Failure, why.IsRefusal ∧ e = .duplicateNodes ids ∧ (e.run w).1 = .error why := by
  have hedge : ∀ make, Atomic (Edit.run.addEdge make) w := fun make =>
    atomic_bind rfl fun _ _ _ => atomic_answer atomic_addEdge
  cases e with
  | addNode n => exact Or.inl (atomic_answer atomic_addNode)
  | createNode componentType name =>
    exact Or.inl (atomic_bind rfl fun _ _ _ => atomic_answer atomic_addNode)
  | removeNode id => exact Or.inl (atomic_answer (atomic_removeNode hs))
  | duplicateNode id => exact Or.inl (atomic_answer atomic_duplicateNode)
  | duplicateNodes ids =>
    have hstate : ((Edit.duplicateNodes ids).run w).2 = (Store.duplicateNodes ids w).2 :=
      answer_state
    rw [hstate] at hfresh
    rcases atomic_duplicateNodes ids hfresh with h | ⟨why, hwhy, h⟩
    · exact Or.inl (atomic_answer h)
    · exact Or.inr ⟨ids, why, hwhy, rfl, answer_error h⟩
  | addEdge e => exact Or.inl (hedge _)
  | connect a p b q connection => exact Or.inl (hedge _)
  | addRelationship a b relation => exact Or.inl (hedge _)
  | addDependency a b => exact Or.inl (hedge _)
  | removeEdge id => exact Or.inl (atomic_answer atomic_removeEdge)
  | removeEdgesFor id => exact Or.inl (atomic_answer (atomic_removeEdgesFor hs))
  | addGroup x => exact Or.inl (atomic_answer atomic_addGroup)
  | createGroup name ids => exact Or.inl (atomic_answer (atomic_createGroup hs name ids))
  | removeGroup id => exact Or.inl (atomic_answer atomic_removeGroup)
  | addToGroup id key => exact Or.inl (atomic_answer atomic_addToGroup)
  | removeFromGroup id => exact Or.inl (atomic_answer atomic_removeFromGroup)
  | ungroup id => exact Or.inl (atomic_answer atomic_ungroup)
  | clear => exact Or.inl (atomic_answer (atomic_update rfl (Or.inr ⟨⟨(), rfl⟩, rfl⟩)))

namespace Graph

/-- **Edits are all or nothing.** Take any edit of a graph with any history, and let the node ids
that it draws be new. If it fails, then the graph is what it was, unless a copy of several nodes
was refused. If it succeeds, then the graph is what it was or has unsaved changes. -/
theorem edit_all_or_nothing (name : String) (now : Moment) (turns : List Turn) (e : Edit)
    (mint : Mint)
    (hfresh : Workspace.Fresh ⟨(Graph.create name now).after turns, mint⟩
      (e.run ⟨(Graph.create name now).after turns, mint⟩).2.mint.nodes) :
    let g := (Graph.create name now).after turns
    let outcome := e.run ⟨g, mint⟩
    let g' := outcome.2.graph
    (∀ why, outcome.1 = .error why →
      g' = g ∨ why.IsRefusal ∧ ∃ ids, e = .duplicateNodes ids) ∧
    ∀ answer, outcome.1 = .ok answer → g' = g ∨ g'.dirty = true := by
  intro g outcome g'
  have hs : g.Sound := sound_after (sound_create name now)
  rcases e.atomic hs hfresh with (hkept | ⟨⟨a, ha⟩, hd⟩) | ⟨ids, refusal, hrefusal, he, hrefused⟩
  · exact ⟨fun why _ => Or.inl hkept, fun answer _ => Or.inl hkept⟩
  · refine ⟨fun why hwhy => ?_, fun answer _ => Or.inr hd⟩
    cases ha.symm.trans hwhy
  · refine ⟨fun why hwhy => ?_, fun answer hok => ?_⟩
    · obtain rfl := Except.error.inj (hwhy.symm.trans hrefused)
      exact Or.inr ⟨hrefusal, ids, he⟩
    · cases hrefused.symm.trans hok

/-- Two nodes are copied after a save, which draws two ids and leaves unsaved changes. -/
theorem copies_leave_unsaved_changes :
    let node (id : String) : Node :=
      { id, componentType := "data.entity", name := id
        createdAt := default, modifiedAt := default }
    let turns : List Turn :=
      [.edit (.addNode (node "a")) default, .edit (.addNode (node "b")) default, .save]
    let g := (Graph.create "p" default).after turns
    let w := ((Edit.duplicateNodes ["a", "b"]).run ⟨g, default⟩).2
    g.dirty = false ∧ w.mint.nodes = 2 ∧ Workspace.Fresh ⟨g, default⟩ w.mint.nodes ∧
      w.graph.dirty = true := by
  intro node turns g w
  have hclean : g.dirty = false := by decide +kernel
  have hdrawn : w.mint.nodes = 2 := by decide +kernel
  have hsize : w.graph.nodes.values.length ≠ g.nodes.values.length := by decide +kernel
  have hok : (((Edit.duplicateNodes ["a", "b"]).run ⟨g, default⟩).1).toOption.isSome = true := by
    decide +kernel
  have hunused : ∀ i ≤ 2, g.hasNode ((default : Mint).spell .node i) = false := by decide +kernel
  have hdistinct : ∀ j ≤ 2, ∀ i < j,
      (default : Mint).spell .node i ≠ (default : Mint).spell .node j := by decide +kernel
  have hfresh : Workspace.Fresh ⟨g, default⟩ w.mint.nodes := by
    rw [hdrawn]
    exact ⟨fun i _ hi => hasNode_eq_false_iff.mp (hunused i hi),
      fun i j _ hij hj => hdistinct j hj i hij⟩
  -- The history has been evaluated; from here on it is any history with these properties.
  clear_value turns
  obtain ⟨-, hdone⟩ := edit_all_or_nothing "p" default turns _ default hfresh
  refine ⟨hclean, hdrawn, hfresh, ?_⟩
  rcases hout : ((Edit.duplicateNodes ["a", "b"]).run ⟨g, default⟩).1 with why | answer
  · rw [hout] at hok
    cases hok
  · rcases hdone answer hout with hkept | hdirty
    · exact absurd (congrArg (·.nodes.values.length) hkept) hsize
    · exact hdirty

end Graph

end Wirework
