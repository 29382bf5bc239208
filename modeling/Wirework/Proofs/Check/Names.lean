import Mathlib.Data.Finset.Card
import Mathlib.Data.List.FinRange
import Wirework.Proofs.Check.Rules

/-!
# Repeated names

The rule on names goes over the nodes once and remembers of each title the first node that bears it.
What it remembers answers the same as a search of the nodes gone over (`Remembers`), and every step
keeps that up. So the findings are one for each place whose title stands at an earlier place, in the
order of the places, and each names the first of these (`uniqueNames_exact`).
-/

namespace Wirework

namespace ProjectRule

variable {seen before rest nodes : List Node} {m n s : Node} {issue : Issue}

/-! ## One step -/

/-- The first of some nodes that has the title of a node. -/
def namesake? (nodes : List Node) (n : Node) : Option Node :=
  nodes.find? fun s => s.componentType = n.componentType && s.name = n.name

theorem title_eq_iff :
    (decide (s.componentType = n.componentType) && decide (s.name = n.name)) = true ↔
      title s = title n := by
  simp [title]

def repetition (first n : Node) : Issue where
  kind := .duplicateNodeName
  message := "Duplicate node name '" ++ n.name ++ "' (conflicts with node " ++ first.id ++ ")"
  severity := .error
  nodeId := some n.id

theorem repeatedNames_of_some (h : namesake? seen n = some s) :
    repeatedNames seen (n :: rest) = repetition s n :: repeatedNames seen rest := by
  unfold namesake? at h
  rw [repeatedNames, h]
  rfl

theorem repeatedNames_of_none (h : namesake? seen n = none) :
    repeatedNames seen (n :: rest) = repeatedNames (n :: seen) rest := by
  unfold namesake? at h
  rw [repeatedNames, h]

theorem namesake?_congr (h : title m = title n) : namesake? nodes m = namesake? nodes n := by
  obtain ⟨htype, hname⟩ := Prod.mk.inj h
  unfold namesake?
  rw [htype, hname]

theorem namesake?_cons_of_title (h : title n = title m) : namesake? (n :: rest) m = some n :=
  List.find?_cons_of_pos (title_eq_iff.mpr h)

theorem namesake?_cons_of_ne (h : title n ≠ title m) :
    namesake? (n :: rest) m = namesake? rest m :=
  List.find?_cons_of_neg fun hsame => h (title_eq_iff.mp hsame)

theorem namesake?_append :
    namesake? (before ++ rest) m = (namesake? before m).or (namesake? rest m) :=
  List.find?_append

/-- What is remembered answers for the nodes gone over. -/
def Remembers (seen before : List Node) : Prop := ∀ m, namesake? seen m = namesake? before m

theorem Remembers.keep (h : Remembers seen before) (hs : namesake? seen n = some s) :
    Remembers seen (before ++ [n]) := by
  intro m
  rw [namesake?_append, ← h]
  by_cases htitle : title n = title m
  · rw [← namesake?_congr htitle, hs, Option.some_or]
  · rw [namesake?_cons_of_ne htitle]
    exact Option.or_none.symm

theorem Remembers.add (h : Remembers seen before) (hnone : namesake? seen n = none) :
    Remembers (n :: seen) (before ++ [n]) := by
  intro m
  rw [namesake?_append, ← h]
  by_cases htitle : title n = title m
  · rw [namesake?_cons_of_title htitle, namesake?_cons_of_title htitle,
      ← namesake?_congr htitle, hnone, Option.none_or]
  · rw [namesake?_cons_of_ne htitle, namesake?_cons_of_ne htitle]
    exact Option.or_none.symm

/-! ## The whole pass -/

/-- What the node at a place is reported as, told from the nodes before it. -/
def repetition? (nodes : List Node) (i : Nat) : Option Issue :=
  nodes[i]?.bind fun n => (namesake? (nodes.take i) n).map (repetition · n)

theorem repetition?_middle : repetition? (before ++ n :: rest) before.length =
    (namesake? before n).map (repetition · n) := by
  simp [repetition?]

/-- The findings from a place on, given what the pass remembers there. -/
theorem repeatedNames_eq (h : Remembers seen before) : repeatedNames seen rest =
    (List.range' before.length rest.length).filterMap (repetition? (before ++ rest)) := by
  induction rest generalizing seen before with
  | nil => rfl
  | cons n rest ih =>
    -- The place moves on by one, and `n` is among the nodes gone over from there.
    have hshift : before ++ n :: rest = (before ++ [n]) ++ rest := by simp
    have hlength : (before ++ [n]).length = before.length + 1 := by simp
    rw [List.length_cons, List.range'_succ]
    cases hseen : namesake? seen n with
    | some s =>
      have hhere : repetition? (before ++ n :: rest) before.length = some (repetition s n) := by
        rw [repetition?_middle, ← h, hseen, Option.map_some]
      rw [repeatedNames_of_some hseen, List.filterMap_cons_some hhere, ih (h.keep hseen),
        hlength, hshift]
    | none =>
      have hhere : repetition? (before ++ n :: rest) before.length = none := by
        rw [repetition?_middle, ← h, hseen, Option.map_none]
      rw [repeatedNames_of_none hseen, List.filterMap_cons_none hhere, ih (h.add hseen),
        hlength, hshift]

theorem uniqueNames_findings (g : Graph) : uniqueNames.findings g =
    (List.finRange g.nodes.values.length).filterMap
      fun i : Fin g.nodes.values.length => repetition? g.nodes.values i := by
  have hpass : uniqueNames.findings g =
      (List.range' 0 g.nodes.values.length).filterMap (repetition? g.nodes.values) :=
    repeatedNames_eq fun _ => rfl
  rw [hpass, ← List.range_eq_range', ← List.map_coe_finRange_eq_range, List.filterMap_map]
  rfl

/-! ## Places with the same title -/

/-- `first` is the first place with the title of place `i`, and comes before it. -/
structure FirstBefore (nodes : List Node) (first i : Fin nodes.length) : Prop where
  earlier : first < i
  same : title nodes[first] = title nodes[i]
  least : ∀ j < first, title nodes[j] ≠ title nodes[i]

theorem repetition?_eq {i : Fin nodes.length} :
    repetition? nodes i = (namesake? (nodes.take i) nodes[i]).map (repetition · nodes[i]) := by
  rw [repetition?, List.getElem?_eq_getElem i.isLt, Option.bind_some]
  rfl

theorem isSome_repetition?_iff {i : Fin nodes.length} :
    (repetition? nodes i).isSome ↔ ∃ j < i, title nodes[j] = title nodes[i] := by
  rw [repetition?_eq, Option.isSome_map, namesake?, List.find?_isSome]
  constructor
  · rintro ⟨s, hs, hsame⟩
    obtain ⟨j, hj, rfl⟩ := List.mem_take_iff_getElem.mp hs
    rw [Nat.lt_min] at hj
    exact ⟨⟨j, hj.2⟩, Fin.lt_def.mpr hj.1, title_eq_iff.mp hsame⟩
  · rintro ⟨j, hj, htitle⟩
    exact ⟨nodes[j], List.mem_take_iff_getElem.mpr ⟨j, by omega, rfl⟩, title_eq_iff.mpr htitle⟩

theorem firstBefore_of_repetition? {i : Fin nodes.length} (h : repetition? nodes i = some issue) :
    ∃ first, FirstBefore nodes first i ∧ issue = repetition nodes[first] nodes[i] := by
  rw [repetition?_eq] at h
  obtain ⟨s, hs, rfl⟩ := Option.map_eq_some_iff.mp h
  obtain ⟨hsame, k, hk, rfl, hleast⟩ := List.find?_eq_some_iff_getElem.mp hs
  rw [List.length_take, Nat.lt_min] at hk
  rw [List.getElem_take] at hsame ⊢
  refine ⟨⟨k, hk.2⟩, ⟨Fin.lt_def.mpr hk.1, title_eq_iff.mp hsame, ?_⟩, rfl⟩
  intro j hj htitle
  have hapart := hleast j hj
  rw [List.getElem_take, Bool.not_eq_true'] at hapart
  exact Bool.false_ne_true (hapart.symm.trans (title_eq_iff.mpr htitle))

theorem forall₂_filterMap {α β : Type} (f : α → Option β) (xs : List α) :
    List.Forall₂ (fun a b => f a = some b) (xs.filter fun a => (f a).isSome) (xs.filterMap f) := by
  induction xs with
  | nil => exact .nil
  | cons a rest ih =>
    cases ha : f a with
    | none => simpa [ha] using ih
    | some b => simpa [ha] using ih

/-! ## How many -/

/-- Every node is reported or brings a title that was not there before. -/
theorem length_repeatedNames (seen nodes : List Node) : (repeatedNames seen nodes).length +
    ((nodes.map title).toFinset \ (seen.map title).toFinset).card = nodes.length := by
  induction nodes generalizing seen with
  | nil => simp [repeatedNames]
  | cons n rest ih =>
    rw [List.map_cons, List.toFinset_cons, List.length_cons]
    cases hseen : namesake? seen n with
    | some s =>
      have hmem : title n ∈ (seen.map title).toFinset := by
        rw [List.mem_toFinset]
        refine Classical.not_not.mp fun hnew => ?_
        cases (find?_title_eq_none_iff.mpr hnew).symm.trans hseen
      rw [repeatedNames_of_some hseen, Finset.insert_sdiff_of_mem _ hmem, List.length_cons,
        ← ih seen]
      omega
    | none =>
      have hnew : title n ∉ (seen.map title).toFinset := by
        rw [List.mem_toFinset]
        exact find?_title_eq_none_iff.mp hseen
      -- Its title is counted here, and no longer among those that the rest brings.
      have hrest := ih (n :: seen)
      rw [List.map_cons, List.toFinset_cons, Finset.sdiff_insert,
        ← Finset.erase_insert_eq_erase] at hrest
      rw [repeatedNames_of_none hseen, Finset.insert_sdiff_of_notMem _ hnew,
        ← Finset.card_erase_add_one (Finset.mem_insert_self (title n) _), ← hrest]
      omega

theorem nodup_title_iff : (nodes.map title).Nodup ↔
    ∀ type, ((nodes.filter (·.componentType = type)).map (·.name)).Nodup := by
  simp only [List.Nodup, List.pairwise_map, List.pairwise_filter, decide_eq_true_eq]
  constructor
  · intro h type
    refine h.imp fun {m n} htitle hm hn hname => htitle ?_
    rw [title, title, hm, hn, hname]
  · intro h
    rw [List.pairwise_iff_getElem]
    intro i j hi hj hlt htitle
    obtain ⟨htype, hname⟩ := Prod.mk.inj htitle
    exact List.pairwise_iff_getElem.mp (h nodes[j].componentType) i j hi hj hlt htype rfl hname

/-- The rule on names reports, in the order of the nodes, each node whose type and name an earlier
node has, and refers to the first such node. So it makes as many findings as there are nodes more
than titles, and none if names are unique within every type. -/
theorem uniqueNames_exact (g : Graph) :
    (∃ places : List (Fin g.nodes.values.length), places.Pairwise (· < ·) ∧
      (∀ i, i ∈ places ↔ ∃ j < i, title g.nodes.values[j] = title g.nodes.values[i]) ∧
      List.Forall₂ (fun i issue => ∃ first, FirstBefore g.nodes.values first i ∧
        issue = repetition g.nodes.values[first] g.nodes.values[i]) places
        (uniqueNames.findings g)) ∧
    (uniqueNames.findings g).length + (g.nodes.values.map title).toFinset.card =
      g.nodes.values.length ∧
    (uniqueNames.findings g = [] ↔
      ∀ type, ((g.nodesOfType type).map (·.name)).Nodup) := by
  refine ⟨⟨(List.finRange g.nodes.values.length).filter fun i =>
    (repetition? g.nodes.values i).isSome, ?_, ?_, ?_⟩, ?_, ?_⟩
  · exact (List.pairwise_lt_finRange _).filter _
  · intro i
    rw [List.mem_filter, and_iff_right (List.mem_finRange i), isSome_repetition?_iff]
  · rw [uniqueNames_findings]
    exact (forall₂_filterMap (fun i : Fin _ => repetition? g.nodes.values i) _).imp
      fun _ _ h => firstBefore_of_repetition? h
  · have hcount := length_repeatedNames [] g.nodes.values
    rwa [List.map_nil, List.toFinset_nil, Finset.sdiff_empty] at hcount
  · exact uniqueNames_eq_nil_iff.trans nodup_title_iff

end ProjectRule

end Wirework
