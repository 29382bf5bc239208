import Wirework.Proofs.Check.Rules
import Wirework.Proofs.Graph.Atomicity

/-!
# Errors about edges between whole nodes

A new edge comes last among the edges, so what each rule makes of it can be told apart from what the
rule found before. If the edge joins whole nodes, four of the strict rules find what they found: its
ends exist, it does not run between ports that have to exist, it names no node, and no data flows
along it. The rule on fitting ports passes over relationships, but not over dependencies. So a
relationship never changes the errors of a project, and a dependency adds an error exactly if its
nodes happen to have ports with the conventional ids and these do not fit (`errors_of_joined`).
-/

namespace Wirework

theorem Dict.values_insert_of_none {β : Type} {d : Dict β} {k : String} {v : β}
    (h : d.get? k = none) : (d.insert k v).values = d.values ++ [v] := by
  rw [values, entries_insert h, List.map_append]
  rfl

namespace Graph

open ProjectRule

variable {g g' : Graph} {now : Moment} {e : Edge} {a b : String} {mint : Mint}

/-! ## The rules after a new edge -/

theorem nodes_addEdge (h : g.addEdge now e = .ok g') : g'.nodes = g.nodes := by
  obtain ⟨-, -, rfl⟩ := addEdge_eq_ok_iff.mp h
  rfl

theorem groups_addEdge (h : g.addEdge now e = .ok g') : g'.groups = g.groups := by
  obtain ⟨-, -, rfl⟩ := addEdge_eq_ok_iff.mp h
  rfl

theorem edgeValues_addEdge (h : g.addEdge now e = .ok g') :
    g'.edges.values = g.edges.values ++ [e] := by
  obtain ⟨hfresh, -, rfl⟩ := addEdge_eq_ok_iff.mp h
  exact Dict.values_insert_of_none hfresh

theorem node?_addEdge (h : g.addEdge now e = .ok g') : g'.node? = g.node? := by
  funext id
  rw [node?, node?, nodes_addEdge h]

theorem hasNode_addEdge (h : g.addEdge now e = .ok g') : g'.hasNode = g.hasNode := by
  funext id
  rw [hasNode, hasNode, nodes_addEdge h]

theorem nodesExist_addEdge (h : g.addEdge now e = .ok g') :
    nodesExist.findings g' = nodesExist.findings g := by
  obtain ⟨-, hends, -⟩ := addEdge_eq_ok_iff.mp h
  obtain ⟨source, target, hsource, htarget, -⟩ := checkEnds_eq_ok_iff.mp hends
  have hfrom : g.hasNode e.fromNode = true := hasNode_iff.mpr ⟨source, hsource⟩
  have hto : g.hasNode e.toNode = true := hasNode_iff.mpr ⟨target, htarget⟩
  simp only [nodesExist, edgeValues_addEdge h, groups_addEdge h, hasNode_addEdge h,
    List.flatMap_append, List.flatMap_singleton, hfrom, hto, if_true, List.append_nil]

theorem portsExist_addEdge (h : g.addEdge now e = .ok g')
    (hwhole : e.connection.connectsPorts = false) :
    portsExist.findings g' = portsExist.findings g := by
  simp only [portsExist, edgeValues_addEdge h, node?_addEdge h, List.filter_append,
    List.filter_singleton, hwhole, cond_false, List.append_nil]

def misfits (g : Graph) (e : Edge) : List Issue :=
  if e.isRelationship then [] else (misfit? g e).toList

theorem portsFit_addEdge (h : g.addEdge now e = .ok g') :
    portsFit.findings g' = portsFit.findings g ++ misfits g e := by
  have hsame : misfit? g' = misfit? g := by
    funext e
    simp only [misfit?, portsOf?, node?_addEdge h]
  rw [portsFit_findings, portsFit_findings, hsame, edgeValues_addEdge h, List.filter_append,
    List.filterMap_append, misfits]
  cases hr : e.isRelationship with
  | true => simp [hr]
  | false => cases hm : misfit? g e <;> simp [hr, hm]

theorem uniqueNames_addEdge (h : g.addEdge now e = .ok g') :
    uniqueNames.findings g' = uniqueNames.findings g := by
  simp only [uniqueNames, nodes_addEdge h]

theorem noCycles_addEdge (h : g.addEdge now e = .ok g') (hdata : e.isDataFlow = false) :
    noCycles.findings g' = noCycles.findings g := by
  have hflow : g'.flowTargets = g.flowTargets := by
    funext id
    simp only [flowTargets, hasNode_addEdge h, edgeValues_addEdge h, List.filter_append,
      List.filter_singleton, hdata, Bool.false_and, cond_false, List.append_nil]
  -- The search has the fuel of one more edge and does not need it.
  have hfuel : g.stations.length < g'.searchFuel := by
    have hmore : g'.edges.values.length = g.edges.values.length + 1 := by
      rw [edgeValues_addEdge h, List.length_append, List.length_singleton]
    simp only [Dict.values, List.length_map] at hmore
    rw [length_stations, searchFuel, nodes_addEdge h]
    simp only [Dict.size]
    omega
  have hcycle : g'.cycleNode? = g.cycleNode? :=
    cycleNode?_congr (congrArg Dict.keys (nodes_addEdge h)) hflow hfuel
  simp only [noCycles, hcycle]

/-- A new edge between whole nodes adds to the errors what the rule on fitting ports makes of it. -/
theorem errors_addEdge (h : g.addEdge now e = .ok g')
    (hwhole : e.connection.connectsPorts = false) : ∃ before after,
      errorsAmong g.issues = before ++ after ∧
        errorsAmong g'.issues = before ++ (misfits g e ++ after) := by
  have hdata : e.isDataFlow = false := by
    rw [Edge.isDataFlow, decide_eq_false_iff_not]
    intro hflow
    rw [hflow] at hwhole
    cases hwhole
  refine ⟨nodesExist.findings g ++ (portsExist.findings g ++ portsFit.findings g),
    uniqueNames.findings g ++ noCycles.findings g, ?_, ?_⟩
  · rw [errorsAmong_issues]
    simp only [List.append_assoc]
  · rw [errorsAmong_issues, nodesExist_addEdge h, portsExist_addEdge h hwhole, portsFit_addEdge h,
      uniqueNames_addEdge h, noCycles_addEdge h hdata]
    simp only [List.append_assoc]

/-! ## Joining two nodes -/

def Joinable (g : Graph) (e : Edge) : Prop :=
  g.edge? e.id = none ∧ g.hasNode e.fromNode = true ∧ g.hasNode e.toNode = true

theorem addEdge_ok_iff (hwhole : e.connection.connectsPorts = false) :
    (∃ g', g.addEdge now e = .ok g') ↔ g.Joinable e := by
  have hports : e.connection ∉ [.dataFlow, .trigger, .navigation] := by
    rw [← connectsPorts_iff, hwhole]
    exact Bool.false_ne_true
  simp only [addEdge_eq_ok_iff, checkEnds_eq_ok_iff, Anchors, Joinable, hasNode_iff]
  constructor
  · rintro ⟨g', hfresh, ⟨source, target, hsource, htarget, -⟩, -⟩
    exact ⟨hfresh, ⟨source, hsource⟩, ⟨target, htarget⟩⟩
  · rintro ⟨hfresh, ⟨source, hsource⟩, ⟨target, htarget⟩⟩
    exact ⟨_, hfresh, ⟨source, target, hsource, htarget, fun hc => absurd hc hports⟩, rfl⟩

/-- An edge between whole nodes is put in and answered by its id, and the errors grow by what the rule
on fitting ports makes of it; or it is not joinable, and the graph stays as it was. -/
theorem run_addEdge_cases (make : StateM Mint Edge) (g : Graph) (mint : Mint)
    (hwhole : (make mint).1.connection.connectsPorts = false) :
    let e := (make mint).1
    let outcome := Edit.run.addEdge make ⟨g, mint⟩
    (g.Joinable e ∧ outcome.1 = .ok (.id e.id) ∧ ∃ before after,
        errorsAmong g.issues = before ++ after ∧
          errorsAmong outcome.2.graph.issues = before ++ (misfits g e ++ after)) ∨
      ¬ g.Joinable e ∧ outcome.2.graph = g := by
  intro e outcome
  let w : Workspace := ⟨g, (make mint).2⟩
  have hrun : outcome = (Store.change (fun g now => g.addEdge now e) >>= fun _ =>
      pure (.id e.id)) w := run_bind_of_ok rfl
  cases hadd : g.addEdge (make mint).2.now e with
  | ok g' =>
    have hchange : Store.change (fun g now => g.addEdge now e) w = (.ok (), { w with graph := g' }) :=
      Store.run_change_of_ok hadd
    rw [hrun, run_bind_of_ok hchange]
    exact Or.inl ⟨(addEdge_ok_iff hwhole).mp ⟨g', hadd⟩, rfl, errors_addEdge hadd hwhole⟩
  | error why =>
    have hchange : Store.change (fun g now => g.addEdge now e) w = (.error why, w) :=
      Store.run_change_of_error hadd
    rw [hrun, run_bind_of_error hchange]
    refine Or.inr ⟨fun hjoin => ?_, rfl⟩
    obtain ⟨g', hok⟩ := (addEdge_ok_iff hwhole).mpr hjoin
    rw [hadd] at hok
    cases hok

/-- The nodes have ports with the ids that a dependency gives its ends by convention, and these ports
cannot be connected. -/
def Clash (g : Graph) (a b : String) (output input : Port) : Prop :=
  ∃ source target, g.node? a = some source ∧ g.node? b = some target ∧
    source.outputPort? "out" = some output ∧ target.inputPort? "in" = some input ∧
      output.canConnectTo input = false

theorem portsOf?_dependency_iff {output input : Port} :
    portsOf? g (Edge.dependency a b mint).1 = some (output, input) ∧
      output.canConnectTo input = false ↔ g.Clash a b output input := by
  have hports : portsOf? g (Edge.dependency a b mint).1 = (g.node? a).bind fun source =>
      (g.node? b).bind fun target => (source.outputPort? "out").bind fun output =>
        (target.inputPort? "in").bind fun input => some (output, input) := rfl
  simp only [hports, Clash, Option.bind_eq_some_iff, Option.some.injEq, Prod.mk.injEq]
  constructor
  · rintro ⟨⟨source, hsource, target, htarget, output, hout, input, hin, rfl, rfl⟩, hfit⟩
    exact ⟨source, target, hsource, htarget, hout, hin, hfit⟩
  · rintro ⟨source, target, hsource, htarget, hout, hin, hfit⟩
    exact ⟨⟨source, hsource, target, htarget, output, hout, input, hin, rfl, rfl⟩, hfit⟩

theorem misfits_of_clash {output input : Port} (h : g.Clash a b output input) :
    misfits g (Edge.dependency a b mint).1 = [misfit (Edge.dependency a b mint).1 output input] := by
  obtain ⟨hports, hfit⟩ := portsOf?_dependency_iff.mpr h
  have hmisfit := misfit?_eq_some_iff.mpr ⟨output, input, hports, hfit, rfl⟩
  exact congrArg Option.toList hmisfit

theorem misfits_dependency_eq_nil_iff : misfits g (Edge.dependency a b mint).1 = [] ↔
    ¬ ∃ output input, g.Clash a b output input := by
  constructor
  · rintro hnil ⟨output, input, hclash⟩
    rw [misfits_of_clash hclash] at hnil
    cases hnil
  · intro hnone
    have hmisfit : misfit? g (Edge.dependency a b mint).1 = none := by
      refine Option.eq_none_iff_forall_ne_some.mpr fun issue hissue => hnone ?_
      obtain ⟨output, input, hports, hfit, -⟩ := misfit?_eq_some_iff.mp hissue
      exact ⟨output, input, portsOf?_dependency_iff.mp ⟨hports, hfit⟩⟩
    exact congrArg Option.toList hmisfit

theorem Clash.joinable {output input : Port} (h : g.Clash a b output input)
    (hfresh : g.edge? (mint.draw .edge).1 = none) : g.Joinable (Edge.dependency a b mint).1 := by
  obtain ⟨source, target, hsource, htarget, -⟩ := h
  exact ⟨hfresh, hasNode_iff.mpr ⟨source, hsource⟩, hasNode_iff.mpr ⟨target, htarget⟩⟩

theorem errors_addRelationship (relation : Relation) :
    errorsAmong ((Edit.addRelationship a b relation).run ⟨g, mint⟩).2.graph.issues =
      errorsAmong g.issues := by
  rcases run_addEdge_cases (Edge.relationship a b relation) g mint rfl with
    ⟨-, -, before, after, hbefore, hafter⟩ | ⟨-, hsame⟩
  · exact hafter.trans hbefore.symm
  · exact congrArg (fun g => errorsAmong (issues g)) hsame

theorem errors_addDependency_iff :
    errorsAmong ((Edit.addDependency a b).run ⟨g, mint⟩).2.graph.issues = errorsAmong g.issues ↔
      ¬ (g.edge? (mint.draw .edge).1 = none ∧ ∃ output input, g.Clash a b output input) := by
  rcases run_addEdge_cases (Edge.dependency a b) g mint rfl with
    ⟨⟨hfresh, -⟩, -, before, after, hbefore, hafter⟩ | ⟨hnot, hsame⟩
  · have hfresh : g.edge? (mint.draw .edge).1 = none := hfresh
    have hchange : errorsAmong ((Edit.addDependency a b).run ⟨g, mint⟩).2.graph.issues =
        errorsAmong g.issues ↔ misfits g (Edge.dependency a b mint).1 = [] := by
      rw [hbefore]
      exact (Eq.congr_left hafter).trans (by simp)
    rw [hchange, misfits_dependency_eq_nil_iff, and_iff_right hfresh]
  · refine iff_of_true (congrArg (fun g => errorsAmong (issues g)) hsame) ?_
    rintro ⟨hfresh, output, input, hclash⟩
    exact hnot (hclash.joinable hfresh)

/-- **Errors about edges between whole nodes.** Relationships and dependencies between nodes of the
graph are put in under a new id. A relationship never changes the list of errors. A dependency leaves
it as it was unless it is put in between an output port `out` and an input port `in` that cannot be
connected; then the report of these ports is added to the list. -/
theorem errors_of_joined (g : Graph) (a b : String) (relation : Relation) (mint : Mint) :
    let id := (mint.draw .edge).1
    let related := (Edit.addRelationship a b relation).run ⟨g, mint⟩
    let dependent := (Edit.addDependency a b).run ⟨g, mint⟩
    (g.edge? id = none → g.hasNode a = true → g.hasNode b = true →
      related.1 = .ok (.id id) ∧ dependent.1 = .ok (.id id)) ∧
    errorsAmong related.2.graph.issues = errorsAmong g.issues ∧
    (errorsAmong dependent.2.graph.issues = errorsAmong g.issues ↔
      ¬ (g.edge? id = none ∧ ∃ output input, g.Clash a b output input)) ∧
    ∀ output input, g.edge? id = none → g.Clash a b output input → ∃ before after,
      errorsAmong g.issues = before ++ after ∧
      errorsAmong dependent.2.graph.issues =
        before ++ misfit (Edge.dependency a b mint).1 output input :: after := by
  intro id related dependent
  refine ⟨fun hfresh ha hb => ⟨?_, ?_⟩, errors_addRelationship relation, errors_addDependency_iff,
    fun output input hfresh hclash => ?_⟩
  · rcases run_addEdge_cases (Edge.relationship a b relation) g mint rfl with
      ⟨-, hanswer, -⟩ | ⟨hnot, -⟩
    · exact hanswer
    · exact absurd ⟨hfresh, ha, hb⟩ hnot
  · rcases run_addEdge_cases (Edge.dependency a b) g mint rfl with ⟨-, hanswer, -⟩ | ⟨hnot, -⟩
    · exact hanswer
    · exact absurd ⟨hfresh, ha, hb⟩ hnot
  · rcases run_addEdge_cases (Edge.dependency a b) g mint rfl with
      ⟨-, -, before, after, hbefore, hafter⟩ | ⟨hnot, -⟩
    · rw [misfits_of_clash hclash] at hafter
      exact ⟨before, after, hbefore, hafter⟩
    · exact absurd (hclash.joinable hfresh) hnot

/-- Two nodes, the first with a text going out and the second with a number coming in. -/
def unlikeTurns : List Turn := [
  .edit (.addNode {
    id := "a", componentType := "logic.source", name := "A", createdAt := default
    modifiedAt := default, ports := { outputs := [.dataOut "out" (.ofScalar .string)] } }) default,
  .edit (.addNode {
    id := "b", componentType := "logic.sink", name := "B", createdAt := default
    modifiedAt := default, ports := { inputs := [.dataIn "in" (.ofScalar .int32)] } }) default]

/-- A project without errors has one after a dependency between such nodes, about ports that the
dependency does not connect. -/
theorem dependency_reports_ports :
    let g := (Graph.create "p" default).after unlikeTurns
    let g' := ((Edit.addDependency "a" "b").run ⟨g, default⟩).2.graph
    errorsAmong g.issues = [] ∧ (g'.edges.values.map (·.connection)) = [.dependency] ∧
      (errorsAmong g'.issues).map (·.message) =
        ["Port types are incompatible: out (String) -> in (Int32)"] := by
  decide +kernel

end Graph

end Wirework
