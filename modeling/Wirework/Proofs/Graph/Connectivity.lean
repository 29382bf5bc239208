import Mathlib.Data.List.TFAE
import Wirework.Project.Graph
import Wirework.Proofs.Dict

/-!
# Queries about connections

A graph is asked in several ways whether two nodes are connected, each way with a test of its own on
the edges and some with a list that is then rid of repeats. All of them ask whether some edge joins
the two nodes (`Joined`), so they agree on every graph: with loops, with parallel edges, with edges
in both directions, and with edges at nodes that are not there (`connections_agree`).
-/

namespace Wirework

namespace Edge

variable {e : Edge} {a b : String}

theorem connectsTo_iff : e.connectsTo a = true ↔ e.toNode = a ∨ e.fromNode = a := by
  simp [connectsTo, or_comm]

theorem isBetween_iff : e.isBetween a b = true ↔
    (e.fromNode = a ∧ e.toNode = b) ∨ (e.fromNode = b ∧ e.toNode = a) := by
  simp [isBetween, isFromTo]

/-- Seen from one of its ends, an edge leads to the nodes that it joins with that end. -/
theorem isBetween_iff_otherEnd :
    e.isBetween a b = true ↔ e.connectsTo a = true ∧ e.otherEnd a = b := by
  rw [isBetween_iff, connectsTo_iff, otherEnd]
  by_cases hfrom : e.fromNode = a
  · rw [if_pos hfrom]
    constructor
    · rintro (⟨-, hto⟩ | ⟨hfrom', hto⟩)
      · exact ⟨.inr hfrom, hto⟩
      · -- The edge is a loop.
        exact ⟨.inr hfrom, hto.trans (hfrom.symm.trans hfrom')⟩
    · rintro ⟨-, hto⟩
      exact .inl ⟨hfrom, hto⟩
  · rw [if_neg hfrom]
    constructor
    · rintro (⟨hfrom', -⟩ | ⟨hfrom', hto⟩)
      · exact absurd hfrom' hfrom
      · exact ⟨.inl hto, hfrom'⟩
    · rintro ⟨hto | hfrom', hother⟩
      · exact .inr ⟨hother, hto⟩
      · exact absurd hfrom' hfrom

end Edge

theorem nodup_eraseDups {α : Type} [BEq α] [LawfulBEq α] (xs : List α) : xs.eraseDups.Nodup := by
  -- What is left behind the first element is shorter, but no tail of the list.
  induction h : xs.length using Nat.strongRecOn generalizing xs with
  | ind length ih =>
    cases xs with
    | nil => exact List.nodup_nil
    | cons x rest =>
      rw [List.eraseDups_cons, List.nodup_cons]
      refine ⟨by simp [List.mem_eraseDups], ih _ ?_ _ rfl⟩
      rw [← h, List.length_cons]
      exact Nat.lt_succ_of_le (List.length_filter_le _ _)

namespace Graph

variable {g : Graph} {a b : String} {e : Edge}

/-! ## Edges -/

/-- Some edge of the graph joins two nodes, in either direction. -/
def Joined (g : Graph) (a b : String) : Prop :=
  ∃ key e, g.edge? key = some e ∧
    ((e.fromNode = a ∧ e.toNode = b) ∨ (e.fromNode = b ∧ e.toNode = a))

/-- A list consists of the edges of the graph with some property, each once and in the order of the
graph. Edges are told apart by their keys. -/
def Lists (g : Graph) (p : Edge → Prop) (edges : List Edge) : Prop :=
  ∃ entries : List (String × Edge), entries.Sublist g.edges.entries ∧ entries.map Prod.snd = edges ∧
    ∀ entry ∈ g.edges.entries, entry ∈ entries ↔ p entry.2

theorem lists_filter (p : Edge → Bool) : g.Lists (p · = true) (g.edges.values.filter p) := by
  refine ⟨g.edges.entries.filter (p ∘ Prod.snd), List.filter_sublist, ?_, fun entry hentry => ?_⟩
  · rw [Dict.values, List.filter_map]
  · rw [List.mem_filter]
    exact and_iff_right hentry

theorem Lists.congr {p q : Edge → Prop} {edges : List Edge} (h : g.Lists p edges)
    (hpq : ∀ e ∈ g.edges.values, p e ↔ q e) : g.Lists q edges := by
  obtain ⟨entries, hsub, hedges, hmem⟩ := h
  refine ⟨entries, hsub, hedges, fun entry hentry => ?_⟩
  rw [hmem entry hentry]
  exact hpq _ (List.mem_map_of_mem hentry)

theorem mem_incoming : e ∈ g.incoming a ↔ e ∈ g.edges.values ∧ e.toNode = a := by
  simp [incoming]

theorem mem_outgoing : e ∈ g.outgoing a ↔ e ∈ g.edges.values ∧ e.fromNode = a := by
  simp [outgoing]

/-- The edges at a node are those that come in and those that go out. A loop does both and is
listed once. -/
theorem lists_edgesFor (g : Graph) (a : String) :
    g.Lists (fun e => e ∈ g.incoming a ∨ e ∈ g.outgoing a) (g.edgesFor a) := by
  refine (lists_filter _).congr fun e he => ?_
  rw [Edge.connectsTo_iff, mem_incoming, mem_outgoing, ← and_or_left]
  exact (and_iff_right he).symm

/-! ## Nodes -/

theorem joined_comm : g.Joined a b ↔ g.Joined b a := by
  unfold Joined
  simp only [or_comm]

theorem joined_iff_isBetween : g.Joined a b ↔ ∃ e ∈ g.edges.values, e.isBetween a b = true := by
  simp only [Edge.isBetween_iff, Dict.mem_values_iff]
  constructor
  · rintro ⟨key, e, he, hends⟩
    exact ⟨e, ⟨key, he⟩, hends⟩
  · rintro ⟨e, ⟨key, he⟩, hends⟩
    exact ⟨key, e, he, hends⟩

theorem areConnected_iff : g.areConnected a b = true ↔ g.Joined a b := by
  rw [areConnected, List.any_eq_true, joined_iff_isBetween]

theorem edgesBetween_ne_nil_iff : g.edgesBetween a b ≠ [] ↔ g.Joined a b := by
  rw [edgesBetween, ne_eq, List.filter_eq_nil_iff, joined_iff_isBetween]
  simp

theorem mem_neighbours_iff : b ∈ g.neighbours a ↔ g.Joined a b := by
  rw [neighbours, List.mem_eraseDups, joined_iff_isBetween]
  simp [edgesFor, Edge.isBetween_iff_otherEnd, and_assoc]

theorem mem_sources_or_targets_iff : b ∈ g.sources a ∨ b ∈ g.targets a ↔ g.Joined a b := by
  have hsources : b ∈ g.sources a ↔ ∃ e ∈ g.edges.values, e.fromNode = b ∧ e.toNode = a := by
    simp [sources, mem_incoming, and_assoc, and_comm]
  have htargets : b ∈ g.targets a ↔ ∃ e ∈ g.edges.values, e.fromNode = a ∧ e.toNode = b := by
    simp [targets, mem_outgoing, and_assoc]
  rw [hsources, htargets, joined_iff_isBetween, ← exists_or]
  simp only [Edge.isBetween_iff, ← and_or_left, or_comm]

/-- **The queries agree.** Whether two nodes are joined by an edge can be asked in either order, by
the edges between them, by the neighbours of either one, and by the sources and targets of one. No
list of nodes has repeats, and the edges at a node are those that come in and those that go out,
each once and in the order of the graph. -/
theorem connections_agree (g : Graph) (a b : String) :
    [g.Joined a b, g.areConnected a b = true, g.areConnected b a = true, g.edgesBetween a b ≠ [],
      b ∈ g.neighbours a, a ∈ g.neighbours b, b ∈ g.sources a ∨ b ∈ g.targets a].TFAE ∧
    ((g.neighbours a).Nodup ∧ (g.sources a).Nodup ∧ (g.targets a).Nodup) ∧
    g.Lists (fun e => e ∈ g.incoming a ∨ e ∈ g.outgoing a) (g.edgesFor a) := by
  refine ⟨List.tfae_of_forall (g.Joined a b) _ ?_, ?_, lists_edgesFor g a⟩
  · simp only [List.forall_mem_cons]
    exact ⟨trivial, areConnected_iff, areConnected_iff.trans joined_comm, edgesBetween_ne_nil_iff,
      mem_neighbours_iff, mem_neighbours_iff.trans joined_comm, mem_sources_or_targets_iff,
      List.forall_mem_nil _⟩
  · exact ⟨nodup_eraseDups _, nodup_eraseDups _, nodup_eraseDups _⟩

end Graph

end Wirework
