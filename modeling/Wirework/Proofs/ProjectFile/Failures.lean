import Wirework.Proofs.Json.Document
import Wirework.Proofs.Record.Tracks
import Wirework.ProjectFile

/-!
# How the reading of a project file fails

Main statement: reading a text gives a project or fails for one of two reasons. The text is no
project of this format, or it is a document with a setting that overflows at one of five places, and
exactly then the number is the reason (`read_outcomes`).
-/

namespace Wirework.ProjectFile

open Record.Source (fieldOr_inert field_halts)
open Tracked (tracks)

instance : Tracked ProjectFile where
  tracks := tracksOf [("project", tracks Graph)]
  halts path _ hd := readRecord_halts path hd fun _ hs => by
    iterate 2 refine (fieldOr_inert hs).skip fun _ => ?_
    refine (field_halts hs).step fun _ => ?_
    exact .done _

def settingTracks : List (List Step) := [
  [.entry "project", .entry "meta", .entry "domains", .entries, .entry "settings", .entries],
  [.entry "project", .entry "nodes", .entries, .entry "fields", .items, .entry "default_value"],
  [.entry "project", .entry "nodes", .entries, .entry "ports", .entry "inputs", .items,
    .entry "default_value"],
  [.entry "project", .entry "nodes", .entries, .entry "ports", .entry "outputs", .items,
    .entry "default_value"],
  [.entry "project", .entry "nodes", .entries, .entry "config", .entries]]

theorem tracks_eq : tracks ProjectFile = settingTracks := rfl

/-- Reading ends early exactly at a setting that overflows, and else gives a project or notes
faults. -/
theorem run_outcomes {d : Data} (hd : d.IsDocument) (mint : Mint) :
    (d.OverflowsIn settingTracks →
      (Record.read [] d : Reading ProjectFile).run mint true = .error (.halted .overflow)) ∧
    (¬d.OverflowsIn settingTracks →
      (∃ r, (Record.read [] d : Reading ProjectFile).run mint true = .ok r) ∨
        ∃ faults, (Record.read [] d : Reading ProjectFile).run mint true =
          .error (.complaints faults)) := by
  have hhalts := Tracked.halts (α := ProjectFile) [] hd { mint, inDocument := true } rfl
  rw [tracks_eq] at hhalts
  refine ⟨fun h => ?_, fun h => ?_⟩
  · rw [Reading.run, StateT.run, hhalts.1 h]
  · obtain ⟨f, s, hrun, -⟩ := hhalts.2 h
    rw [Reading.run, StateT.run, hrun]
    cases hclean : s.complaints.isEmpty with
    | true => exact .inl ⟨_, if_pos hclean⟩
    | false => exact .inr ⟨_, if_neg (by simp [hclean])⟩

variable {text : String} {mint : Mint}

/-- The project of a text that is given by its characters, with what a test tells of it. -/
theorem exists_read_of_chars (mint : Mint) {cs : List Char} {p : Graph → Bool}
    (htext : text = String.ofList cs)
    (hp : ((Json.value? Json.depthLimit cs (2 * cs.length + 2)).any fun r =>
      (Json.skipSpace r.2).isEmpty &&
        ((Record.read [] r.1 : Reading ProjectFile).run mint true).toOption.any fun f =>
          f.1.isCompatible && p { f.1.project with dirty := false }) = true) :
    ∃ g mint', read text mint = .ok (g, mint') ∧ p g = true := by
  cases hvalue : Json.value? Json.depthLimit cs (2 * cs.length + 2) with
  | none =>
    rw [hvalue] at hp
    cases hp
  | some r =>
    rw [hvalue, Option.any_some, Bool.and_eq_true] at hp
    have hparse : Json.parse? text = some r.1 := by
      unfold Json.parse? Json.parseWithin
      rw [htext, String.toList_ofList]
      dsimp only
      rw [hvalue]
      exact if_pos hp.1
    obtain ⟨⟨f, mint'⟩, hrun, hf⟩ := any_toOption_iff.mp hp.2
    obtain ⟨hcompatible, hf⟩ := Bool.and_eq_true_iff.mp hf
    refine ⟨_, mint', ?_, hf⟩
    unfold read
    rw [hparse]
    dsimp only
    rw [hrun]
    exact if_pos hcompatible

/-- The reading gives a project, or fails because the text is no project of this format. -/
def Settles (text : String) (mint : Mint) : Prop :=
  (∃ r, read text mint = .ok r) ∨
    ∃ failure, read text mint = .error failure ∧ failure.code = "Deserialization"

theorem ne_overflow_of_settles (h : Settles text mint) : read text mint ≠ .error .overflow := by
  rcases h with ⟨r, hr⟩ | ⟨failure, hfailure, hcode⟩
  · simp [hr]
  · rintro heq
    obtain rfl := Except.error.inj (hfailure.symm.trans heq)
    revert hcode
    decide

theorem settles_of_parse?_eq_none (h : Json.parse? text = none) : Settles text mint := by
  refine .inr ⟨.unreadableProject [⟨[], .notDocument⟩], ?_, rfl⟩
  rw [read, h]

theorem read_of_overflows {d : Data} (h : Json.parse? text = some d)
    (hover : d.OverflowsIn settingTracks) : read text mint = .error .overflow := by
  have hrun := (run_outcomes (Json.isDocument_of_parse? h) mint).1 hover
  simp only [read, h, hrun]
  rfl

theorem settles_of_not_overflows {d : Data} (h : Json.parse? text = some d)
    (hover : ¬d.OverflowsIn settingTracks) : Settles text mint := by
  rcases (run_outcomes (Json.isDocument_of_parse? h) mint).2 hover with
    ⟨⟨f, m⟩, hrun⟩ | ⟨faults, hrun⟩
  · cases hcompatible : f.isCompatible with
    | true =>
      refine .inl ⟨({ f.project with dirty := false }, m), ?_⟩
      simp only [read, h, hrun, if_pos hcompatible]
    | false =>
      refine .inr ⟨.incompatibleFile f.format f.version formatVersion, ?_, rfl⟩
      simp [read, h, hrun, hcompatible]
  · refine .inr ⟨.unreadableProject faults, ?_, rfl⟩
    simp only [read, h, hrun]

/-- Reading fails because of a number exactly if there is one beyond the format where a setting of
the kind `float` stands; else it gives a project, or the text is no project of this format. -/
theorem read_outcomes (text : String) (mint : Mint) :
    (read text mint = .error .overflow ↔
      ∃ d, Json.parse? text = some d ∧ d.OverflowsIn settingTracks) ∧
    (read text mint = .error .overflow ∨ (∃ r, read text mint = .ok r) ∨
      ∃ failure, read text mint = .error failure ∧ failure.code = "Deserialization") := by
  cases hparse : Json.parse? text with
  | none =>
    have hsettles : Settles text mint := settles_of_parse?_eq_none hparse
    exact ⟨iff_of_false (ne_overflow_of_settles hsettles) (by simp), .inr hsettles⟩
  | some d =>
    by_cases hover : d.OverflowsIn settingTracks
    · have hread : read text mint = .error .overflow := read_of_overflows hparse hover
      exact ⟨iff_of_true hread ⟨d, rfl, hover⟩, .inl hread⟩
    · have hsettles : Settles text mint := settles_of_not_overflows hparse hover
      exact ⟨iff_of_false (ne_overflow_of_settles hsettles) (by simpa using hover), .inr hsettles⟩

/-- A document in which the least integer beyond the format stands in the settings of a node. -/
def overflowing : Data :=
  .object [("project", .object [
    ("meta", .object [("name", .text "Demo")]),
    ("nodes", .object [("a", .object [
      ("component_type", .text "ui.page"), ("name", .text "Page"),
      ("config", .object [("limit", .object [
        ("kind", .text "float"), ("value", .int Double.limit)])])])])])]

theorem overflowsIn_overflowing : overflowing.OverflowsIn settingTracks :=
  ⟨_, List.mem_of_getElem? (i := 4) rfl, _, rfl, _, rfl, _, rfl, _, rfl, _, rfl, _,
    List.mem_cons_self, _, rfl, _, rfl, _, rfl, _, List.mem_cons_self,
    .here rfl rfl (Nat.le_refl _)⟩

theorem parse?_overflowing : ∃ text, Json.parse? text = some overflowing := by
  have hwritten : (Json.document? (.file true) overflowing).isSome = true := rfl
  obtain ⟨text, htext⟩ := Option.isSome_iff_exists.mp hwritten
  have hfits : overflowing.printed.fits Json.depthLimit = true := by decide +kernel
  have hparse := Json.parse?_document? htext
  rw [if_pos hfits] at hparse
  exact ⟨text, hparse⟩

/-- There is a document whose reading fails because of a number. -/
theorem read_overflowing : ∃ text, ∀ mint, read text mint = .error .overflow := by
  obtain ⟨text, htext⟩ := parse?_overflowing
  exact ⟨text, fun mint => (read_outcomes text mint).1.mpr ⟨_, htext, overflowsIn_overflowing⟩⟩

end Wirework.ProjectFile
