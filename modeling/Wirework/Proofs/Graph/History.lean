import Wirework.Check.Rules
import Wirework.Proofs.Graph.Edit

/-!
# Histories of a project

A project starts empty and goes through turns: edits with any arguments, each with ids and a time
of its own, and saves. An edit that fails is a turn like any other. Every graph with such a
history is reached from the empty one along steps (`steps_after`), so it is sound, and neither the
rule on nodes nor the rule on ports finds fault with its edges (`edges_sound_after`).
-/

namespace Wirework

inductive Turn where
  /-- An edit, with the ids and the time that it finds. -/
  | edit (e : Edit) (mint : Mint)
  /-- The project is saved. -/
  | save

/-- The graph after a turn; what an edit changed before it failed stays changed. -/
def Turn.play (g : Graph) : Turn → Graph
  | .edit e mint => (e.run ⟨g, mint⟩).2.graph
  | .save => { g with dirty := false }

namespace Graph

variable {g : Graph} {listed : List String → Prop} {turns : List Turn}

def after (g : Graph) (turns : List Turn) : Graph := turns.foldl Turn.play g

theorem steps_after (hs : g.Sound)
    (hl : ∀ e mint, Turn.edit e mint ∈ turns → listed e.listed) :
    Steps listed g (g.after turns) := by
  induction turns generalizing g with
  | nil => exact .refl
  | cons turn rest ih =>
    have hfirst : Steps listed g (turn.play g) := by
      cases turn with
      | edit e mint =>
        have hw : (⟨g, mint⟩ : Workspace).graph.Sound := hs
        exact e.walks hw (hl e mint (List.mem_cons_self ..))
      | save => exact .single (.mark _ _)
    have hrest : Steps listed (turn.play g) ((turn.play g).after rest) :=
      ih (hs.steps hfirst) fun e mint hm => hl e mint (List.mem_cons_of_mem _ hm)
    exact hfirst.trans hrest

theorem sound_after (hs : g.Sound) : (g.after turns).Sound :=
  have hsteps : Steps (fun _ => True) g (g.after turns) := steps_after hs fun _ _ _ => trivial
  hs.steps hsteps

/-- What holds of a new project and is kept by each step holds after every history, provided that
the groups which are handed over list what the steps allow. -/
theorem holds_after {P : Graph → Prop} {name : String} {now : Moment}
    (hnew : P (Graph.create name now))
    (hstep : ∀ {g g'}, P g → g.Sound → Step listed g g' → P g') (hnil : listed [])
    (hgroups : ∀ x mint, Turn.edit (.addGroup x) mint ∈ turns → listed x.nodeIds) :
    P ((Graph.create name now).after turns) := by
  have hs := sound_create name now
  have hsteps : Steps listed (Graph.create name now) ((Graph.create name now).after turns) := by
    refine steps_after hs fun e mint hm => ?_
    cases e with
    | addGroup x => exact hgroups x mint hm
    | _ => exact hnil
  exact hsteps.keep hs hnew hstep

/-! ## What the rules find -/

/-- The rule on nodes reports members of groups only. -/
theorem Sound.nodesExist_kind (hs : g.Sound) :
    ∀ issue ∈ ProjectRule.nodesExist.findings g, issue.kind = .missingNode := by
  intro issue hm
  simp only [ProjectRule.nodesExist, List.mem_append, List.mem_flatMap] at hm
  rcases hm with ⟨e, he, hissue⟩ | ⟨x, -, hissue⟩
  · obtain ⟨k, hk⟩ := Dict.mem_values_iff.mp he
    obtain ⟨source, target, hsource, htarget, -⟩ := hs.anchored hk
    rw [if_pos (hasNode_iff.mpr ⟨source, hsource⟩), if_pos (hasNode_iff.mpr ⟨target, htarget⟩)]
      at hissue
    simp at hissue
  · obtain ⟨id, -, rfl⟩ := List.mem_map.mp hissue
    rfl

theorem Sound.portsExist_eq_nil (hs : g.Sound) : ProjectRule.portsExist.findings g = [] := by
  simp only [ProjectRule.portsExist, List.flatMap_eq_nil_iff, List.mem_filter]
  rintro e ⟨he, hports⟩
  obtain ⟨k, hk⟩ := Dict.mem_values_iff.mp he
  obtain ⟨source, target, hsource, htarget, hends⟩ := hs.anchored hk
  obtain ⟨hout, hin⟩ := hends (connectsPorts_iff.mp hports)
  have hout' : (source.outputPort? e.fromPort).isNone = false := by
    rw [Bool.eq_false_iff, ne_eq, Option.isNone_iff_eq_none, outputPort?_eq_none_iff]
    exact not_not_intro hout
  have hin' : (target.inputPort? e.toPort).isNone = false := by
    rw [Bool.eq_false_iff, ne_eq, Option.isNone_iff_eq_none, inputPort?_eq_none_iff]
    exact not_not_intro hin
  simp [hsource, htarget, Option.filter_some, hout', hin']

/-- **Edges stay anchored.** After any history everything is kept under its own id, every edge has
its ends and its ports, and the rules on nodes and ports find nothing wrong with any edge. -/
theorem edges_sound_after (name : String) (now : Moment) (turns : List Turn) :
    let g := (Graph.create name now).after turns
    g.Sound ∧ (∀ issue ∈ ProjectRule.nodesExist.findings g, issue.kind ≠ .danglingEdge) ∧
      ProjectRule.portsExist.findings g = [] := by
  intro g
  have hs : g.Sound := sound_after (sound_create name now)
  refine ⟨hs, fun issue hm hkind => ?_, hs.portsExist_eq_nil⟩
  rw [hs.nodesExist_kind issue hm] at hkind
  cases hkind

end Graph

end Wirework
