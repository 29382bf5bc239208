import Wirework.Proofs.Json.Document
import Wirework.Proofs.Record.Project
import Wirework.ProjectFile

/-!
# Project files read back

What becomes of a project that is written to a file and read from it again. A file holds every
ordinal that is a truth value as a number; all else is in the records. Main statements: a project
comes back as it was exactly if it is faithful and lies within the limits of writing and of reading
(`read_write_iff`), and a file that was written is read again exactly if its project reopens and
lies within the limits of reading (`read_isOk_iff`).
-/

namespace Wirework

open Restorable

/-! ## Counted ordinals -/

namespace ProjectFile

theorem counted_of_faithful {o : Ordinal} (h : Faithful o) : o.counted = o := by
  obtain ⟨n, rfl⟩ := h
  rfl

theorem countedField_of_faithful {f : Field} (h : Faithful f) : countedField f = f := by
  obtain ⟨-, -, -, horder, -⟩ := h
  rw [countedField, counted_of_faithful horder]

theorem countedPort_of_faithful {p : Port} (h : Faithful p) : countedPort p = p := by
  rw [countedPort, counted_of_faithful h.2.2]

theorem map_eq_self {α : Type} {f : α → α} {xs : List α} (h : ∀ a ∈ xs, f a = a) :
    xs.map f = xs :=
  (List.map_congr_left h).trans (List.map_id xs)

theorem countedNode_of_faithful {n : Node} (h : Faithful n) : countedNode n = n := by
  obtain ⟨-, -, hfields, ⟨hinputs, houtputs⟩, -, -, hindex, -, -⟩ := h
  rw [countedNode, counted_of_faithful hindex,
    map_eq_self fun f hf => countedField_of_faithful (hfields f hf),
    map_eq_self fun p hp => countedPort_of_faithful (hinputs p hp),
    map_eq_self fun p hp => countedPort_of_faithful (houtputs p hp)]

theorem countedAbout_of_faithful {a : About} (h : Faithful a) : countedAbout a = a := by
  obtain ⟨hdomains, -, -, -⟩ := h
  rw [countedAbout, Dict.mapValues_eq_self_iff.mpr]
  intro d hd
  rw [counted_of_faithful (hdomains d hd).2]

/-- A project that comes back has nothing to count. -/
theorem counted_eq_self {g : Graph} (h : Faithful { g with dirty := false }) : counted g = g := by
  obtain ⟨habout, hnodes, hedges, hgroups, -⟩ := h
  rw [counted, countedAbout_of_faithful habout,
    Dict.mapValues_eq_self_iff.mpr fun n hn => countedNode_of_faithful (hnodes n hn),
    Dict.mapValues_eq_self_iff.mpr fun e he => ?_, Dict.mapValues_eq_self_iff.mpr fun x hx => ?_]
  · rw [counted_of_faithful (hgroups x hx).2.2.2.1]
  · rw [counted_of_faithful (hedges e he).2.2.2]

theorem reopens_map {α : Type} [Record α] [Restorable α] {f : α → α}
    (hf : ∀ a, Reopens (f a) ↔ Reopens a) (xs : List α) : Reopens (xs.map f) ↔ Reopens xs :=
  List.forall_mem_map.trans (forall₂_congr fun a _ => hf a)

theorem reopens_mapValues {α : Type} [Record α] [Restorable α] {f : α → α}
    (hf : ∀ a, Reopens (f a) ↔ Reopens a) (d : Dict α) : Reopens (d.mapValues f) ↔ Reopens d := by
  change (∀ a ∈ (d.mapValues f).values, Reopens a) ↔ _
  rw [Dict.values_mapValues]
  exact reopens_map hf d.values

theorem reopens_counted (o : Ordinal) : Reopens o.counted ↔ Reopens o := by
  cases o with
  | int n => rfl
  | other value =>
    cases value with
    | bool b => exact iff_of_true rfl rfl
    | _ => rfl

theorem reopens_countedField (f : Field) : Reopens (countedField f) ↔ Reopens f :=
  and_congr_right fun _ => and_congr_right fun _ => and_congr_right fun _ =>
    reopens_counted f.hints.order

theorem reopens_countedPort (p : Port) : Reopens (countedPort p) ↔ Reopens p :=
  and_congr_right fun _ => and_congr_right fun _ => reopens_counted p.order

theorem reopens_countedNode (n : Node) : Reopens (countedNode n) ↔ Reopens n := by
  refine and_congr_right fun _ => and_congr_right fun _ =>
    and_congr (reopens_map reopens_countedField n.fields) <| and_congr ?_ <|
      and_congr_right fun _ => and_congr_left fun _ => reopens_counted n.zIndex
  exact and_congr (reopens_map reopens_countedPort n.ports.inputs)
    (reopens_map reopens_countedPort n.ports.outputs)

theorem reopens_countedAbout (a : About) : Reopens (countedAbout a) ↔ Reopens a :=
  and_congr_left fun _ => reopens_mapValues (fun d => and_congr_right fun _ =>
    reopens_counted d.priority) a.domains

/-- Counting decides nothing about whether a project reopens. -/
theorem reopens_counted_graph (g : Graph) : Reopens (counted g) ↔ Reopens g := by
  refine and_congr (reopens_countedAbout g.about) <|
    and_congr (reopens_mapValues reopens_countedNode g.nodes) <|
      and_congr (reopens_mapValues (fun e => ?_) g.edges)
        (reopens_mapValues (fun x => ?_) g.groups)
  · exact and_congr_right fun _ => and_congr_right fun _ => reopens_counted e.zIndex
  · exact and_congr_right fun _ => and_congr_right fun _ => and_congr_left fun _ =>
      reopens_counted x.zIndex

/-! ## Written and read -/

noncomputable instance : Restorable ProjectFile where
  restored f := do return { f with project := ← restored f.project }
  Reopens f := Reopens f.project
  Faithful f := Faithful f.project
  yields path f := by
    refine readRecord_yields path (by simp) ?_
    rintro s - ⟨hversion, hformat, hproject⟩
    exact (fieldOr_yields hversion).keep <| (fieldOr_yields hformat).keep <|
      (field_yields hproject).bind fun _ => Reading.yields_pure _
  isSome_restored f := by simp [Option.isSome_bind, isSome_restored]
  restored_of_faithful h := by simp [restored_of_faithful h]
  faithful_of_restored h := by
    simp only [bind, pure, Option.bind_eq_some_iff, Option.some.injEq] at h
    obtain ⟨g, hg, rfl⟩ := h
    exact faithful_of_restored hg
  writable h := Data.writable_object <| by simp [writable h]

def document (g : Graph) : Data := Record.toData ({ project := counted g } : ProjectFile)

def fits (g : Graph) : Bool := (document g).printed.fits Json.depthLimit

variable {g : Graph} {compact : Bool} {text : String}

theorem write_eq_ok_iff : write g compact = .ok text ↔
    Json.document? (.file compact) (document g) = some text ∧ g.isShallow = true := by
  have hdocument : Record.toData ({ project := counted g } : ProjectFile) = document g := rfl
  unfold write
  rw [hdocument]
  cases Json.document? (.file compact) (document g) with
  | none => simp
  | some written => by_cases hshallow : g.isShallow = true <;> simp [hshallow]

theorem parse?_of_write (h : write g compact = .ok text) :
    Json.parse? text = if fits g then some (document g).printed else none :=
  Json.parse?_document? (write_eq_ok_iff.mp h).1

theorem restored_file (g : Graph) :
    restored ({ project := g } : ProjectFile) = (restored g).map ({ project := · }) := by
  change (restored g).bind _ = _
  cases restored g <;> rfl

/-- Reading a file that was written gives what comes back of the counted project, or faults. -/
theorem read_of_write (h : write g compact = .ok text) (mint : Mint) :
    (∃ g', fits g = true ∧ restored (counted g) = some g' ∧ read text mint = .ok (g', mint)) ∨
      (fits g = true → restored (counted g) = none) ∧
        ∃ faults, read text mint = .error (.unreadableProject faults) := by
  have hparse := parse?_of_write h
  cases hfits : fits g with
  | false =>
    rw [hfits] at hparse
    refine .inr ⟨nofun, [⟨[], .notDocument⟩], ?_⟩
    rw [read, hparse]
    rfl
  | true =>
    rw [if_pos hfits] at hparse
    have hrun := (yields [] ({ project := counted g } : ProjectFile)).run mint
    rw [restored_file] at hrun
    cases hback : restored (counted g) with
    | none =>
      obtain ⟨faults, hfaults⟩ := hrun.2 (by rw [hback]; rfl)
      refine .inr ⟨fun _ => rfl, faults, ?_⟩
      rw [read, hparse]
      simp only [document, hfaults]
    | some g' =>
      have hclean : g'.dirty = false := (faithful_of_restored hback).2.2.2.2
      have hok := hrun.1 { project := g' } (by rw [hback]; rfl)
      have hcompatible : isCompatible { project := g' } = true := by
        simp [isCompatible]
      refine .inl ⟨g', rfl, rfl, ?_⟩
      rw [read, hparse]
      simp only [document, hok, if_pos hcompatible, ← hclean]

/-! ## Main statements -/

/-- A project is written, and comes back from its file as it was, without unsaved changes, exactly
if it is faithful and lies within the limits of writing and of reading. -/
theorem read_write_iff (g : Graph) (compact : Bool) :
    (∃ text, write g compact = .ok text ∧
        ∀ mint, read text mint = .ok ({ g with dirty := false }, mint)) ↔
      Faithful { g with dirty := false } ∧ g.isShallow = true ∧ fits g = true := by
  constructor
  · rintro ⟨text, hwrite, hread⟩
    have hshallow := (write_eq_ok_iff.mp hwrite).2
    rcases read_of_write hwrite default with ⟨g', hfits, hback, hread'⟩ | ⟨-, faults, hfaults⟩
    · rw [hread default, Except.ok.injEq, Prod.mk.injEq] at hread'
      exact ⟨faithful_of_restored (hread'.1 ▸ hback), hshallow, hfits⟩
    · rw [hread default] at hfaults
      cases hfaults
  · rintro ⟨hfaithful, hshallow, hfits⟩
    have hcounted := counted_eq_self hfaithful
    have hwritable : (document g).Writable := by
      rw [document, hcounted]
      exact writable (a := ({ project := { g with dirty := false } } : ProjectFile)) hfaithful
    have hback : restored (counted g) = some { g with dirty := false } := by
      rw [hcounted]
      exact restored_of_faithful hfaithful
    obtain ⟨text, htext⟩ := Option.isSome_iff_exists.mp (hwritable (.file compact) 0)
    have hwrite := write_eq_ok_iff.mpr ⟨htext, hshallow⟩
    refine ⟨text, hwrite, fun mint => ?_⟩
    rcases read_of_write hwrite mint with ⟨g', -, hback', hread⟩ | ⟨hlost, -⟩
    · rwa [← Option.some.inj (hback.symm.trans hback')] at hread
    · cases hback.symm.trans (hlost hfits)

def nested : Nat → Data
  | 0 => .null
  | depth + 1 => .list [nested depth]

theorem isJson_nested (depth : Nat) : (nested depth).IsJson := by
  induction depth with
  | zero => exact .null
  | succ depth ih => exact .list (by simpa using ih)

/-- A project with one node and one entry of free-form data, nested deeper than can be written. -/
def overnested : Graph where
  about := .create "Demo" default
  nodes := .ofList [("a", {
    id := "a", componentType := "ui.page", name := "Page", createdAt := default,
    modifiedAt := default, metadata := .ofList [("tree", nested nestingLimit)] })]

theorem isShallow_overnested : overnested.isShallow = false := by decide +kernel

theorem faithful_empty {α : Type} [Record α] [Restorable α] : Faithful (Dict.empty : Dict α) :=
  fun _ h => nomatch h

theorem faithful_nil {α : Type} [Record α] [Restorable α] : Faithful ([] : List α) :=
  fun _ h => nomatch h

theorem faithful_overnested : Faithful overnested := by
  have hmoment : Faithful (default : Moment) := by
    rintro _ ⟨⟩
    decide
  refine ⟨⟨faithful_empty, faithful_empty, hmoment, hmoment⟩, ?_, faithful_empty, faithful_empty,
    rfl⟩
  intro n hn
  obtain rfl := List.mem_singleton.mp hn
  have hsize : (default : Size).width.isFinite = true ∧
      (default : Size).height.isFinite = true := by
    decide +kernel
  refine ⟨⟨rfl, rfl⟩, hsize, faithful_nil, ⟨faithful_nil, faithful_nil⟩, faithful_empty, ?_,
    ⟨0, rfl⟩, hmoment, hmoment⟩
  intro d hd
  obtain rfl := List.mem_singleton.mp hd
  exact isJson_nested nestingLimit

/-- Nothing but its nesting keeps the project from coming back, yet it cannot be written. -/
theorem write_overnested : Faithful overnested ∧
    ∀ compact, ∃ failure, write overnested compact = .error failure := by
  refine ⟨faithful_overnested, fun compact => ?_⟩
  cases hwrite : write overnested compact with
  | error failure => exact ⟨failure, rfl⟩
  | ok text =>
    have hshallow := (write_eq_ok_iff.mp hwrite).2
    rw [isShallow_overnested] at hshallow
    cases hshallow

/-- A file that was written is read again exactly if its project reopens and lies within the limits
of reading; else faults are reported. -/
theorem read_isOk_iff (h : write g compact = .ok text) (mint : Mint) :
    ((∃ r, read text mint = .ok r) ↔ Reopens g ∧ fits g = true) ∧
      ((¬∃ r, read text mint = .ok r) →
        ∃ faults, read text mint = .error (.unreadableProject faults)) := by
  have hsome := (isSome_restored (counted g)).trans (reopens_counted_graph g)
  rcases read_of_write h mint with ⟨g', hfits, hback, hread⟩ | ⟨hlost, faults, hread⟩
  · have hreopens : Reopens g := hsome.mp (by rw [hback]; rfl)
    exact ⟨iff_of_true ⟨_, hread⟩ ⟨hreopens, hfits⟩, fun hnone => absurd ⟨_, hread⟩ hnone⟩
  · refine ⟨iff_of_false ?_ ?_, fun _ => ⟨faults, hread⟩⟩
    · rintro ⟨r, hr⟩
      cases hread.symm.trans hr
    · rintro ⟨hreopens, hfits⟩
      have := hsome.mpr hreopens
      rw [hlost hfits] at this
      cases this

/-- A project with one node, infinitely far to the right. -/
def farAway : Graph where
  about := .create "Demo" default
  nodes := .ofList [("a", {
    id := "a", componentType := "ui.page", name := "Page", createdAt := default,
    modifiedAt := default, position := { x := .infinity false } })]

theorem write_farAway : ∃ text, write farAway true = .ok text := by
  have hsome : (Json.document? (.file true) (document farAway)).isSome = true := by decide +kernel
  obtain ⟨text, htext⟩ := Option.isSome_iff_exists.mp hsome
  exact ⟨text, write_eq_ok_iff.mpr ⟨htext, by decide +kernel⟩⟩

theorem not_reopens_farAway : ¬Reopens farAway := by
  rintro ⟨-, hnodes, -⟩
  have hx : (Double.infinity false).isFinite = true := (hnodes _ List.mem_cons_self).1.1
  cases hx

/-- The project is written, and its file cannot be read. -/
theorem read_farAway : ∃ text, write farAway true = .ok text ∧
    ∀ mint, ∃ faults, read text mint = .error (.unreadableProject faults) := by
  obtain ⟨text, hwrite⟩ := write_farAway
  refine ⟨text, hwrite, fun mint => ?_⟩
  obtain ⟨hok, herror⟩ := read_isOk_iff hwrite mint
  exact herror fun hread => not_reopens_farAway (hok.mp hread).1

end ProjectFile

end Wirework
