import Mathlib.Data.Fintype.Card
import Mathlib.Data.Set.Finite.Basic
import Mathlib.Logic.Relation
import Wirework.Proofs.Migration.Essence
import Wirework.Proofs.Migration.ForeignKeys

/-!
# Which order the entities are put in

Entities are placed one by one, at each turn the first of those whose references are placed, until
none of the rest is ready (`Places`). What a turn does to the entities that remain is said once, in
`takeReady_eq_some`. From it follows, by induction over the turns, how a run splits them (`Splits`):
a front in which every entity has its turn after its references, in the first order of this kind, and
a tail in which every entity waits for another one of the tail.

Main statement: the tail is made of the entities that lead to a cycle of references (`order_least`).
An entity of the front leads to none, since the relation is well-founded below it (`acc_of_inTurn`);
one that leads to none is in the front, since among finitely many entities it is well-founded there
as well (`acc_of_not_leadsToCycle`).
-/

namespace Wirework.Migration

/-! ## Turns -/

section Turns

variable {waits : Node → List String} {placed : List String} {pos : Node → Nat}
  {remaining others front tail result : List Node} {ready : Node} {count : Nat}

theorem all_contains_iff {xs ys : List String} : xs.all ys.contains = true ↔ xs ⊆ ys := by
  simp [List.subset_def]

theorem takeReady_eq_none (h : takeReady waits placed remaining = none) :
    ∀ e ∈ remaining, ¬ waits e ⊆ placed := by
  induction remaining with
  | nil => exact fun e he => absurd he List.not_mem_nil
  | cons first rest ih =>
    rw [takeReady] at h
    split at h
    · cases h
    · rename_i hfirst
      rw [all_contains_iff] at hfirst
      exact List.forall_mem_cons.mpr ⟨hfirst, ih (Option.map_eq_none_iff.mp h)⟩

/-- A turn takes an entity that is ready out of the list, and no entity before it is. -/
theorem takeReady_eq_some (h : takeReady waits placed remaining = some (ready, others)) :
    waits ready ⊆ placed ∧ ∃ before after, remaining = before ++ ready :: after ∧
      others = before ++ after ∧ ∀ e ∈ before, ¬ waits e ⊆ placed := by
  induction remaining generalizing others with
  | nil => cases h
  | cons first rest ih =>
    rw [takeReady] at h
    split at h
    · rename_i hfirst
      cases h
      exact ⟨all_contains_iff.mp hfirst, [], rest, rfl, rfl, fun e he => absurd he List.not_mem_nil⟩
    · rename_i hfirst
      rw [all_contains_iff] at hfirst
      obtain ⟨⟨ready', others'⟩, hrest, heq⟩ := Option.map_eq_some_iff.mp h
      cases heq
      obtain ⟨hready, before, after, rfl, rfl, hbefore⟩ := ih hrest
      exact ⟨hready, first :: before, after, rfl, rfl,
        List.forall_mem_cons.mpr ⟨hfirst, hbefore⟩⟩

/-- A run of turns, from the names placed and the entities that remain to the list that it gives.
There is no bound on the turns; a run that comes to an end is finite. -/
inductive Places (waits : Node → List String) : List String → List Node → List Node → Prop where
  | stuck {placed : List String} {remaining : List Node}
      (h : takeReady waits placed remaining = none) : Places waits placed remaining remaining
  | turn {placed : List String} {remaining others result : List Node} {ready : Node}
      (h : takeReady waits placed remaining = some (ready, others))
      (hrest : Places waits (ready.name :: placed) others result) :
      Places waits placed remaining (ready :: result)

/-- Each turn takes one entity, so as many turns as entities are enough. -/
theorem places_placeAll (h : remaining.length ≤ count) :
    Places waits placed remaining (placeAll waits placed remaining count) := by
  induction count generalizing placed remaining with
  | zero =>
    obtain rfl := List.length_eq_zero_iff.mp (Nat.le_zero.mp h)
    exact Places.stuck rfl
  | succ count ih =>
    rw [placeAll]
    cases hready : takeReady waits placed remaining with
    | none => exact Places.stuck hready
    | some found =>
      have hlength := (takeReady_perm hready).length_eq
      rw [List.length_cons] at hlength
      exact Places.turn hready (ih (by omega))

/-- Every entity of a list has its references placed when its turn comes. -/
def InTurn (waits : Node → List String) : List String → List Node → Prop
  | _, [] => True
  | placed, e :: rest => waits e ⊆ placed ∧ InTurn waits (e.name :: placed) rest

/-- How a run splits the entities that remain. -/
structure Splits (waits : Node → List String) (pos : Node → Nat) (placed : List String)
    (remaining front tail : List Node) : Prop where
  perm : (front ++ tail).Perm remaining
  inTurn : InTurn waits placed front
  kept : tail.Sublist remaining
  stuck : ∀ e ∈ tail, ¬ waits e ⊆ front.map (·.name) ++ placed
  least : ∀ other, other.Perm front → InTurn waits placed other →
    other = front ∨ List.Lex (· < ·) (front.map pos) (other.map pos)

theorem Splits.nil (h : ∀ e ∈ remaining, ¬ waits e ⊆ placed) :
    Splits waits pos placed remaining [] remaining where
  perm := List.Perm.refl _
  inTurn := trivial
  kept := List.Sublist.refl _
  stuck := h
  least _ hother _ := Or.inl (List.perm_nil.mp hother)

/-- An entity taken in a turn stands before all that are split after it. Another order may start
with an entity that is ready as well, which then stood further back. -/
theorem Splits.turn (h : takeReady waits placed remaining = some (ready, others))
    (hpos : remaining.Pairwise fun a b => pos a < pos b)
    (hs : Splits waits pos (ready.name :: placed) others front tail) :
    Splits waits pos placed remaining (ready :: front) tail := by
  obtain ⟨hready, before, after, hremaining, hothers, hbefore⟩ := takeReady_eq_some h
  have hsub : others.Sublist remaining := by
    rw [hremaining, hothers]
    exact (List.sublist_cons_self ready after).append_left before
  constructor
  case perm => exact (hs.perm.cons ready).trans (takeReady_perm h)
  case inTurn => exact ⟨hready, hs.inTurn⟩
  case kept => exact hs.kept.trans hsub
  case stuck =>
    intro e he hwaits
    exact hs.stuck e he (List.Subset.trans hwaits List.perm_middle.symm.subset)
  case least =>
    intro other hperm hturn
    cases other with
    | nil => exact absurd hperm.symm (List.not_perm_cons_nil)
    | cons first rest =>
      by_cases hfirst : first = ready
      · subst hfirst
        rcases hs.least rest hperm.cons_inv hturn.2 with rfl | hlex
        · exact Or.inl rfl
        · exact Or.inr (List.Lex.cons hlex)
      · have hfront : first ∈ front :=
          (List.mem_cons.mp (hperm.subset List.mem_cons_self)).resolve_left hfirst
        have hmem : first ∈ before ++ after :=
          hothers ▸ hs.perm.subset (List.mem_append_left tail hfront)
        have hafter : first ∈ after :=
          (List.mem_append.mp hmem).resolve_left fun hb => hbefore first hb hturn.1
        rw [hremaining, List.pairwise_append, List.pairwise_cons] at hpos
        exact Or.inr (List.Lex.rel (hpos.2.1.1 first hafter))

theorem Places.splits (h : Places waits placed remaining result)
    (hpos : remaining.Pairwise fun a b => pos a < pos b) :
    ∃ front tail, result = front ++ tail ∧ Splits waits pos placed remaining front tail := by
  induction h with
  | stuck h => exact ⟨[], _, rfl, Splits.nil (takeReady_eq_none h)⟩
  | turn h hrest ih =>
    obtain ⟨-, before, after, hremaining, hothers, -⟩ := takeReady_eq_some h
    have hpos' := hpos
    rw [hremaining] at hpos'
    obtain ⟨front, tail, rfl, hs⟩ := ih <| by
      rw [hothers]
      exact hpos'.sublist ((List.sublist_cons_self _ after).append_left before)
    exact ⟨_, tail, rfl, hs.turn h hpos⟩

end Turns

/-! ## References -/

def Refers (entities : List Node) (e f : Node) : Prop :=
  f ∈ entities ∧ f ≠ e ∧ ∃ field ∈ e.fields, field.referencedEntity? = some f.name

/-- A cycle of references can be reached from an entity. -/
def LeadsToCycle (entities : List Node) (e : Node) : Prop :=
  ∃ f, Relation.ReflTransGen (Refers entities) e f ∧ Relation.TransGen (Refers entities) f f

/-- Every entity of a list comes after all those that it refers to. -/
def ReferencesFirst (entities list : List Node) : Prop :=
  ∀ before e after, list = before ++ e :: after → ∀ f, Refers entities e f → f ∈ before

def position (entities : List Node) (e : Node) : Nat := (entities.map (·.id)).idxOf e.id

section References

variable {entities done list : List Node} {waits : Node → List String} {e f : Node} {r : String}

theorem pairwise_position (hids : (entities.map (·.id)).Nodup) :
    entities.Pairwise fun a b => position entities a < position entities b := by
  have hposition : ∀ i (h : i < entities.length), position entities entities[i] = i := by
    intro i h
    have hi : i < (entities.map (·.id)).length := by rwa [List.length_map]
    have := hids.idxOf_getElem i hi
    rwa [List.getElem_map] at this
  rw [List.pairwise_iff_getElem]
  intro i j hi hj hij
  rwa [hposition, hposition]

variable (hnames : (entities.map (·.name)).Nodup)

include hnames

theorem eq_of_name_eq (he : e ∈ entities) (hf : f ∈ entities) (h : e.name = f.name) : e = f :=
  List.inj_on_of_nodup_map hnames he hf h

theorem mem_references_iff (he : e ∈ entities) :
    r ∈ references entities e ↔ ∃ f, Refers entities e f ∧ f.name = r := by
  simp only [references, List.mem_filter, List.mem_filterMap, Bool.and_eq_true,
    List.contains_iff_mem, List.mem_map, decide_eq_true_eq]
  constructor
  · rintro ⟨⟨field, hfield, href⟩, ⟨f, hf, rfl⟩, hne⟩
    exact ⟨f, ⟨hf, fun h => hne (h ▸ rfl), field, hfield, href⟩, rfl⟩
  · rintro ⟨f, ⟨hf, hne, field, hfield, href⟩, rfl⟩
    exact ⟨⟨field, hfield, href⟩, ⟨f, hf, rfl⟩, fun h => hne (eq_of_name_eq hnames hf he h)⟩

theorem references_subset_iff (he : e ∈ entities) (hlist : list ⊆ entities) :
    references entities e ⊆ list.map (·.name) ↔ ∀ f, Refers entities e f → f ∈ list := by
  constructor
  · intro h f hf
    obtain ⟨g, hg, hname⟩ := List.mem_map.mp (h ((mem_references_iff hnames he).mpr ⟨f, hf, rfl⟩))
    exact eq_of_name_eq hnames (hlist hg) hf.1 hname ▸ hg
  · intro h r hr
    obtain ⟨f, hf, rfl⟩ := (mem_references_iff hnames he).mp hr
    exact List.mem_map_of_mem (h f hf)

variable (hwaits : ∀ e ∈ entities, waits e = references entities e)

include hwaits

theorem inTurn_iff (hdone : done ⊆ entities) (hlist : list ⊆ entities) :
    InTurn waits (done.map (·.name)) list ↔ ∀ before e after, list = before ++ e :: after →
      ∀ f, Refers entities e f → f ∈ done ∨ f ∈ before := by
  induction list generalizing done with
  | nil => exact iff_of_true trivial fun before e after h => by simp at h
  | cons first rest ih =>
    obtain ⟨hfirst, hrest⟩ := List.cons_subset.mp hlist
    have hmore : first :: done ⊆ entities := List.cons_subset.mpr ⟨hfirst, hdone⟩
    have hturn : InTurn waits (first.name :: done.map (·.name)) rest ↔ _ := ih hmore hrest
    rw [InTurn, hwaits first hfirst, references_subset_iff hnames hfirst hdone, hturn]
    constructor
    · rintro ⟨hhead, hafter⟩ before e after heq f hf
      cases before with
      | nil =>
        obtain ⟨rfl, rfl⟩ := List.cons.inj heq
        exact Or.inl (hhead f hf)
      | cons _ before =>
        obtain ⟨rfl, rfl⟩ := List.cons.inj heq
        rcases hafter before e after rfl f hf with hd | hb
        · rcases List.mem_cons.mp hd with rfl | hd
          · exact Or.inr List.mem_cons_self
          · exact Or.inl hd
        · exact Or.inr (List.mem_cons_of_mem _ hb)
    · intro h
      refine ⟨fun f hf => (h [] first rest rfl f hf).resolve_right List.not_mem_nil, ?_⟩
      rintro before e after rfl f hf
      rcases h (first :: before) e after rfl f hf with hd | hb
      · exact Or.inl (List.mem_cons_of_mem _ hd)
      · rcases List.mem_cons.mp hb with rfl | hb
        · exact Or.inl List.mem_cons_self
        · exact Or.inr hb

theorem referencesFirst_iff (hlist : list ⊆ entities) :
    ReferencesFirst entities list ↔ InTurn waits [] list := by
  have h := inTurn_iff hnames hwaits (List.nil_subset entities) hlist
  simp only [List.not_mem_nil, false_or] at h
  exact h.symm

/-! ## Cycles -/

theorem acc_of_inTurn (hdone : done ⊆ entities) (hlist : list ⊆ entities)
    (hacc : ∀ e ∈ done, Acc (fun f e => Refers entities e f) e)
    (h : InTurn waits (done.map (·.name)) list) :
    ∀ e ∈ list, Acc (fun f e => Refers entities e f) e := by
  induction list generalizing done with
  | nil => exact fun e he => absurd he List.not_mem_nil
  | cons first rest ih =>
    obtain ⟨hfirst, hrest⟩ := List.cons_subset.mp hlist
    have href := h.1
    rw [hwaits first hfirst, references_subset_iff hnames hfirst hdone] at href
    have hacc' : Acc (fun f e => Refers entities e f) first :=
      Acc.intro first fun f hf => hacc f (href f hf)
    have hmore : first :: done ⊆ entities := List.cons_subset.mpr ⟨hfirst, hdone⟩
    exact List.forall_mem_cons.mpr
      ⟨hacc', ih hmore hrest (List.forall_mem_cons.mpr ⟨hacc', hacc⟩) h.2⟩

end References

section Cycles

variable {entities : List Node} {e f : Node}

theorem LeadsToCycle.of_refers (h : Refers entities e f) (hf : LeadsToCycle entities f) :
    LeadsToCycle entities e :=
  hf.imp fun _ hg => ⟨Relation.ReflTransGen.head h hg.1, hg.2⟩

theorem LeadsToCycle.exists_refers (h : LeadsToCycle entities e) :
    ∃ f, Refers entities e f ∧ LeadsToCycle entities f := by
  obtain ⟨g, hg, hcycle⟩ := h
  rcases Relation.ReflTransGen.cases_head hg with rfl | ⟨f, hf, hfg⟩
  · obtain ⟨f, hf, hfe⟩ := Relation.TransGen.head'_iff.mp hcycle
    exact ⟨f, hf, _, hfe, hcycle⟩
  · exact ⟨f, hf, g, hfg, hcycle⟩

theorem not_leadsToCycle_of_acc (h : Acc (fun f e => Refers entities e f) e) :
    ¬ LeadsToCycle entities e := by
  induction h with
  | intro e _ ih =>
    intro hcycle
    obtain ⟨f, hf, hfcycle⟩ := hcycle.exists_refers
    exact ih f hf hfcycle

/-- The entities that lead to no cycle are finitely many, and along references no path through them
comes back to where it was. -/
theorem acc_of_not_leadsToCycle (he : e ∈ entities) (h : ¬ LeadsToCycle entities e) :
    Acc (fun f e => Refers entities e f) e := by
  let Free := { e : Node // e ∈ entities ∧ ¬ LeadsToCycle entities e }
  let follows : Free → Free → Prop := fun f e => Relation.TransGen (Refers entities) e.1 f.1
  have hfinite : Finite Free := ((List.finite_toSet entities).subset fun _ he => he.1).to_subtype
  have htrans : IsTrans Free follows := ⟨fun _ _ _ hab hbc => hbc.trans hab⟩
  have hirrefl : Std.Irrefl follows := ⟨fun e hcycle => e.2.2 ⟨e.1, Relation.ReflTransGen.refl, hcycle⟩⟩
  have hwf : WellFounded follows := Finite.wellFounded_of_trans_of_irrefl follows
  have hacc : ∀ e : Free, Acc (fun f e => Refers entities e f) e.1 := by
    intro e
    induction e using hwf.induction with
    | _ e ih =>
      refine Acc.intro e.1 fun f hf => ?_
      exact ih ⟨f, hf.1, fun hcycle => e.2.2 (hcycle.of_refers hf)⟩ (Relation.TransGen.single hf)
  exact hacc ⟨e, he, h⟩

end Cycles

/-! ## The order -/

/-- A front and a tail of some entities: what comes first, what is left for the end, and why no
other order could have been taken. -/
structure Ordered (entities front tail : List Node) : Prop where
  perm : (front ++ tail).Perm entities
  referencesFirst : ReferencesFirst entities front
  /-- The tail keeps the order that was given. -/
  kept : tail.Sublist entities
  mem_tail : ∀ e, e ∈ tail ↔ e ∈ entities ∧ LeadsToCycle entities e
  tail_nil : tail = [] ↔ ∀ e, ¬ Relation.TransGen (Refers entities) e e
  least : ∀ other, other.Perm front → ReferencesFirst entities other →
    other = front ∨
      List.Lex (· < ·) (front.map (position entities)) (other.map (position entities))

/-- What waits for a reference that is not in the front waits for an entity of the tail. -/
theorem Splits.ordered {entities front tail : List Node} {waits : Node → List String}
    (hnames : (entities.map (·.name)).Nodup)
    (hwaits : ∀ e ∈ entities, waits e = references entities e)
    (h : Splits waits (position entities) [] entities front tail) : Ordered entities front tail := by
  have hfront : front ⊆ entities := fun e he => h.perm.subset (List.mem_append_left tail he)
  have hfree : ∀ e ∈ front, ¬ LeadsToCycle entities e := fun e he =>
    not_leadsToCycle_of_acc <| acc_of_inTurn hnames hwaits (List.nil_subset entities) hfront
      (fun e he => absurd he List.not_mem_nil) h.inTurn e he
  have hnext : ∀ e ∈ tail, ∃ f ∈ tail, Refers entities e f := by
    intro e he
    have hstuck := h.stuck e he
    rw [List.append_nil, hwaits e (h.kept.subset he),
      references_subset_iff hnames (h.kept.subset he) hfront] at hstuck
    obtain ⟨f, hf⟩ := not_forall.mp hstuck
    obtain ⟨href, hnot⟩ := Classical.not_imp.mp hf
    exact ⟨f, (List.mem_append.mp (h.perm.symm.subset href.1)).resolve_left hnot, href⟩
  have hcyclic : ∀ e, e ∈ tail ↔ e ∈ entities ∧ LeadsToCycle entities e := by
    intro e
    constructor
    · intro he
      refine ⟨h.kept.subset he, ?_⟩
      by_contra hnot
      induction acc_of_not_leadsToCycle (h.kept.subset he) hnot with
      | intro e _ ih =>
        obtain ⟨f, hf, href⟩ := hnext e he
        exact ih f href hf fun hcycle => hnot (hcycle.of_refers href)
    · rintro ⟨he, hcycle⟩
      exact (List.mem_append.mp (h.perm.symm.subset he)).resolve_left fun hf => hfree e hf hcycle
  constructor
  case perm => exact h.perm
  case referencesFirst => exact (referencesFirst_iff hnames hwaits hfront).mpr h.inTurn
  case kept => exact h.kept
  case mem_tail => exact hcyclic
  case tail_nil =>
    rw [List.eq_nil_iff_forall_not_mem]
    constructor
    · intro htail e hcycle
      obtain ⟨f, -, hfe⟩ := Relation.TransGen.tail'_iff.mp hcycle
      exact htail e ((hcyclic e).mpr ⟨hfe.1, e, Relation.ReflTransGen.refl, hcycle⟩)
    · intro hnone e he
      obtain ⟨f, -, hcycle⟩ := ((hcyclic e).mp he).2
      exact hnone f hcycle
  case least =>
    intro other hperm hfirst
    have hother : other ⊆ entities := fun e he => hfront (hperm.subset he)
    exact h.least other hperm ((referencesFirst_iff hnames hwaits hother).mp hfirst)

/-- **Entities are put in the first order that meets their references.** Placing them comes to an end.
Those that lead to no cycle of references come first, each after all that it refers to, and no other
such order of them is smaller by their places in the list; the others follow as they stood there. -/
theorem order_least (entities : List Node) (hids : (entities.map (·.id)).Nodup)
    (hnames : (entities.map (·.name)).Nodup) :
    Places (fun e => ((referencesById entities).get? e.id).getD []) [] entities (order entities) ∧
      ∃ front tail, order entities = front ++ tail ∧ Ordered entities front tail := by
  have hplaces : Places (fun e => ((referencesById entities).get? e.id).getD []) [] entities
      (order entities) := places_placeAll (Nat.le_refl _)
  obtain ⟨front, tail, heq, hs⟩ := hplaces.splits (pairwise_position hids)
  refine ⟨hplaces, front, tail, heq, hs.ordered hnames fun e he => ?_⟩
  rw [get?_referencesById hids he, Option.getD_some]

/-- Entities of which one refers to a later one, one to itself, two to each other and one to these. -/
def tangle : List Node := [
  entity "p" "Post" [{ id := "f", name := "author", dataType := .optional (.reference "User") }],
  entity "a" "Invoice" [{ id := "g", name := "payment", constraints := [.foreignKey "Payment"] }],
  entity "b" "Payment" [{ id := "h", name := "invoice", constraints := [.foreignKey "Invoice"] }],
  entity "c" "Refund" [{ id := "i", name := "payment", dataType := .entity "Payment" }],
  entity "u" "User" [{ id := "j", name := "team", dataType := .reference "Team" }],
  entity "t" "Category" [{ id := "l", name := "parent", dataType := .reference "Category" }]]

/-- The refund waits for the cycle and stays at the end with it. -/
theorem order_least_tangle :
    (tangle.map (·.id)).Nodup ∧ (tangle.map (·.name)).Nodup ∧
      (order tangle).map (·.name) =
        ["User", "Post", "Category", "Invoice", "Payment", "Refund"] ∧
      ∃ front tail, order tangle = front ++ tail ∧ Ordered tangle front tail := by
  have hids : (tangle.map (·.id)).Nodup := by decide
  have hnames : (tangle.map (·.name)).Nodup := by decide
  exact ⟨hids, hnames, by decide +kernel, (order_least tangle hids hnames).2⟩

end Wirework.Migration
