import Mathlib.Data.List.Basic
import Wirework.Proofs.Check.Cycle
import Wirework.Proofs.Check.Reports

/-!
# What the built-in rules find

Five of the rules find errors and nothing else, and the other three never find one. So the errors of
a project are the findings of those five one after the other (`errorsAmong_issues`), and a project is
without errors if each of the five finds nothing. For each of them that is a property of the graph:
edges and groups lead to nodes, edges between ports lead to ports, ports that an edge joins fit, no
two nodes share type and name, and data flows in no cycle.
-/

namespace Wirework

namespace ProjectRule

variable {g : Graph} {issue : Issue}

/-! ## Errors and lesser findings -/

def Strict (r : ProjectRule) : Prop := ∀ g, ∀ issue ∈ r.findings g, issue.isError = true

def Mild (r : ProjectRule) : Prop := ∀ g, ∀ issue ∈ r.findings g, issue.isError = false

theorem Strict.errorsAmong_eq {r : ProjectRule} (h : r.Strict) :
    errorsAmong (r.findings g) = r.findings g :=
  List.filter_eq_self.mpr (h g)

theorem Mild.errorsAmong_eq {r : ProjectRule} (h : r.Mild) : errorsAmong (r.findings g) = [] := by
  rw [errorsAmong, List.filter_eq_nil_iff]
  intro issue hissue
  rw [h g issue hissue]
  exact Bool.false_ne_true

theorem strict_nodesExist : nodesExist.Strict := by
  intro g issue hissue
  simp only [nodesExist, List.mem_append, List.mem_flatMap] at hissue
  rcases hissue with ⟨e, -, hsource | htarget⟩ | ⟨x, -, hmember⟩
  · split at hsource
    · exact absurd hsource List.not_mem_nil
    · rw [List.mem_singleton.mp hsource]
      rfl
  · split at htarget
    · exact absurd htarget List.not_mem_nil
    · rw [List.mem_singleton.mp htarget]
      rfl
  · obtain ⟨id, -, rfl⟩ := List.mem_map.mp hmember
    rfl

theorem strict_portsExist : portsExist.Strict := by
  intro g issue hissue
  simp only [portsExist, List.mem_flatMap, List.mem_append, Option.mem_toList,
    Option.map_eq_some_iff] at hissue
  obtain ⟨e, -, ⟨n, -, rfl⟩ | ⟨n, -, rfl⟩⟩ := hissue
  · rfl
  · rfl

def misfit (e : Edge) (output input : Port) : Issue where
  kind := .incompatiblePorts
  message := "Port types are incompatible: " ++ output.name ++ " (" ++ output.dataType.displayName
    ++ ") -> " ++ input.name ++ " (" ++ input.dataType.displayName ++ ")"
  edgeId := some e.id

def misfit? (g : Graph) (e : Edge) : Option Issue :=
  (portsOf? g e).bind fun ports =>
    if ports.1.canConnectTo ports.2 then none else some (misfit e ports.1 ports.2)

theorem portsFit_findings : portsFit.findings g =
    (g.edges.values.filter fun e => !e.isRelationship).filterMap (misfit? g) := rfl

theorem misfit?_eq_some_iff {e : Edge} : misfit? g e = some issue ↔ ∃ output input,
    portsOf? g e = some (output, input) ∧ output.canConnectTo input = false ∧
      issue = misfit e output input := by
  unfold misfit?
  rw [Option.bind_eq_some_iff]
  constructor
  · rintro ⟨⟨output, input⟩, hports, hmisfit⟩
    dsimp only at hmisfit
    split at hmisfit
    · cases hmisfit
    · rename_i hfit
      exact ⟨output, input, hports, Bool.eq_false_iff.mpr hfit, (Option.some.inj hmisfit).symm⟩
  · rintro ⟨output, input, hports, hfit, rfl⟩
    exact ⟨(output, input), hports, by simp [hfit]⟩

theorem strict_portsFit : portsFit.Strict := by
  intro g issue hissue
  rw [portsFit_findings] at hissue
  obtain ⟨e, -, hmisfit⟩ := List.mem_filterMap.mp hissue
  obtain ⟨output, input, -, -, rfl⟩ := misfit?_eq_some_iff.mp hmisfit
  rfl

theorem isError_of_mem_repeatedNames {seen nodes : List Node}
    (h : issue ∈ repeatedNames seen nodes) : issue.isError = true := by
  induction nodes generalizing seen with
  | nil => cases h
  | cons n rest ih =>
    rw [repeatedNames] at h
    split at h
    · rcases List.mem_cons.mp h with rfl | h
      · rfl
      · exact ih h
    · exact ih h

theorem strict_uniqueNames : uniqueNames.Strict := fun _ _ => isError_of_mem_repeatedNames

theorem strict_noCycles : noCycles.Strict := by
  intro g issue hissue
  simp only [noCycles] at hissue
  split at hissue
  · rw [List.mem_singleton.mp hissue]
    rfl
  · cases hissue

theorem mild_primaryKeys : primaryKeys.Mild := by
  intro g issue hissue
  obtain ⟨n, -, rfl⟩ := List.mem_map.mp hissue
  rfl

theorem mild_requiredFields : requiredFields.Mild := by
  intro g issue hissue
  simp only [requiredFields, List.mem_append, List.mem_flatMap, List.mem_map] at hissue
  obtain ⟨n, -, f, -, rfl⟩ | ⟨n, -, rfl⟩ := hissue
  · rfl
  · rfl

theorem mild_relationshipEnds : relationshipEnds.Mild := by
  intro g issue hissue
  obtain ⟨e, -, hissue⟩ := List.mem_flatMap.mp hissue
  split at hissue
  · obtain ⟨n, -, rfl⟩ := List.mem_map.mp hissue
    rfl
  · cases hissue

/-- The errors of a project are what the five strict rules find. -/
theorem errorsAmong_issues : errorsAmong g.issues = nodesExist.findings g ++
    (portsExist.findings g ++ (portsFit.findings g ++ (uniqueNames.findings g ++
      noCycles.findings g))) := by
  rw [Graph.issues, Validator.errorsAmong_validateAll, Validator.findings, builtin]
  simp only [List.flatMap_cons, List.flatMap_nil, errorsAmong, List.filter_append, List.filter_nil]
  simp only [← errorsAmong.eq_1, strict_nodesExist.errorsAmong_eq, strict_portsExist.errorsAmong_eq,
    strict_portsFit.errorsAmong_eq, strict_uniqueNames.errorsAmong_eq,
    strict_noCycles.errorsAmong_eq, mild_primaryKeys.errorsAmong_eq,
    mild_requiredFields.errorsAmong_eq, mild_relationshipEnds.errorsAmong_eq, List.nil_append,
    List.append_nil]

/-! ## When a rule finds nothing -/

theorem nodesExist_eq_nil_iff : nodesExist.findings g = [] ↔
    (∀ k e, g.edge? k = some e → g.hasNode e.fromNode = true ∧ g.hasNode e.toNode = true) ∧
      ∀ k x, g.group? k = some x → ∀ id ∈ x.nodeIds, g.hasNode id = true := by
  simp only [nodesExist, List.append_eq_nil_iff, List.flatMap_eq_nil_iff, List.map_eq_nil_iff,
    List.filter_eq_nil_iff, Dict.mem_values_iff, ite_eq_left_iff, List.cons_ne_nil, imp_false,
    Bool.not_eq_true, Bool.not_eq_true', Bool.not_eq_false, forall_exists_index]
  constructor
  · rintro ⟨hedges, hgroups⟩
    exact ⟨fun k e he => hedges e k he, fun k x hx => hgroups x k hx⟩
  · rintro ⟨hedges, hgroups⟩
    exact ⟨fun e k he => hedges k e he, fun x k hx => hgroups k x hx⟩

theorem portsFit_eq_nil_iff : portsFit.findings g = [] ↔
    ∀ k e, g.edge? k = some e → e.isRelationship = false → ∀ output input,
      portsOf? g e = some (output, input) → output.canConnectTo input = true := by
  rw [portsFit_findings, List.filterMap_eq_nil_iff]
  constructor
  · intro h k e he hplain output input hports
    have hmem : e ∈ g.edges.values.filter fun e => !e.isRelationship :=
      List.mem_filter.mpr ⟨Dict.mem_values_iff.mpr ⟨k, he⟩, by rw [hplain]; rfl⟩
    refine Bool.not_eq_false _ |>.mp fun hfit => ?_
    have hmisfit := misfit?_eq_some_iff.mpr ⟨output, input, hports, hfit, rfl⟩
    rw [h e hmem] at hmisfit
    cases hmisfit
  · intro h e he
    obtain ⟨hmem, hplain⟩ := List.mem_filter.mp he
    obtain ⟨k, hk⟩ := Dict.mem_values_iff.mp hmem
    refine Option.eq_none_iff_forall_ne_some.mpr fun issue hissue => ?_
    obtain ⟨output, input, hports, hfit, -⟩ := misfit?_eq_some_iff.mp hissue
    rw [h k e hk (by simpa using hplain) output input hports] at hfit
    cases hfit

/-- What the rule on names tells nodes apart by. -/
def title (n : Node) : String × String := (n.componentType, n.name)

theorem find?_title_eq_none_iff {seen : List Node} {n : Node} :
    (seen.find? fun s => s.componentType = n.componentType && s.name = n.name) = none ↔
      title n ∉ seen.map title := by
  simp only [List.find?_eq_none, List.mem_map, title, Prod.mk.injEq, Bool.and_eq_true,
    decide_eq_true_eq, not_exists, not_and]

theorem repeatedNames_eq_nil_iff {seen nodes : List Node} : repeatedNames seen nodes = [] ↔
    (nodes.map title).Nodup ∧ ∀ n ∈ nodes, title n ∉ seen.map title := by
  induction nodes generalizing seen with
  | nil => simp [repeatedNames]
  | cons n rest ih =>
    rw [repeatedNames]
    split
    · rename_i first hfirst
      have hseen : title n ∈ seen.map title := by
        refine Classical.not_not.mp fun hnew => ?_
        rw [find?_title_eq_none_iff.mpr hnew] at hfirst
        cases hfirst
      exact iff_of_false (List.cons_ne_nil _ _) fun h => h.2 n List.mem_cons_self hseen
    · rename_i hnone
      have hnew : title n ∉ seen.map title := find?_title_eq_none_iff.mp hnone
      rw [ih, List.forall_mem_cons]
      simp only [List.map_cons, List.nodup_cons, List.mem_cons, not_or]
      constructor
      · rintro ⟨hrest, hapart⟩
        refine ⟨⟨fun hmem => ?_, hrest⟩, hnew, fun m hm => (hapart m hm).2⟩
        obtain ⟨m, hm, htitle⟩ := List.mem_map.mp hmem
        exact (hapart m hm).1 htitle
      · rintro ⟨⟨hfresh, hrest⟩, -, hapart⟩
        refine ⟨hrest, fun m hm => ⟨fun htitle => hfresh ?_, hapart m hm⟩⟩
        exact htitle ▸ List.mem_map_of_mem hm

theorem uniqueNames_eq_nil_iff :
    uniqueNames.findings g = [] ↔ (g.nodes.values.map title).Nodup :=
  repeatedNames_eq_nil_iff.trans (and_iff_left fun _ _ => List.not_mem_nil)

theorem noCycles_eq_nil_iff :
    noCycles.findings g = [] ↔ ∀ id, ¬ Relation.TransGen g.Flows id id := by
  rw [← Graph.cycleNode?_eq_none_iff]
  simp only [noCycles]
  cases g.cycleNode? with
  | none => simp
  | some id => simp

end ProjectRule

end Wirework
