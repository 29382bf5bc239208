import Wirework.Proofs.Command.Act

/-!
# Steps of commands

What the commands on a project have in common. Reading leaves the tree as it is, so they find the
project and the manifest that are in the tree when they start (`load_of_opens`,
`manifestOf_of_opens`), and the options of that manifest are known ones (`options_of_load`). What
they show in a table has to be well-formed markup in every cell (`Table.shown_of_lines`). The one
thing that the writing of a service reports is a file that could not be written (`ends_writeTo`).
-/

namespace Wirework

open Act

variable {α : Type} {t : Tree} {project : Path} {mint : Mint} {g : Graph} {mf : Manifest}
  {s : Session}

/-! ## Manifests -/

theorem Manifest.options_of_ofData {d : Data} (h : Manifest.ofData d = .ok mf) :
    ∃ o, mf.options = .ok o := by
  unfold ofData at h
  split at h
  · cases h
  · cases h
  · rename_i m _ _
    cases ho : m.options with
    | error f =>
      rw [ho] at h
      cases h
    | ok o =>
      rw [ho] at h
      cases h
      exact ⟨o, ho⟩

theorem Manifest.options_of_load {p : Path}
    (h : (Manifest.load (m := StateM Tree) p t).1 = .ok mf) : ∃ o, mf.options = .ok o := by
  have hgives : Tree.Gives (fun r => ∀ mf, r = .ok mf → ∃ o, mf.options = .ok o)
      (Manifest.load (m := StateM Tree) p) := by
    refine Tree.Gives.bind fun e => Tree.Gives.bind fun e => Tree.Gives.bind fun text => ?_
    split
    · exact fun t mf hmf => nomatch hmf
    · intro t mf hmf
      cases hmf
      exact ⟨_, rfl⟩
    · exact fun t mf hmf => nomatch hmf
    · split
      · exact fun t mf hmf => nomatch hmf
      · exact fun t mf hmf => nomatch hmf
      · exact fun t mf hmf => nomatch hmf
      · exact fun t mf hmf => options_of_ofData hmf
  exact hgives t mf h

/-! ## Opening a project -/

namespace Command

/-- A project is at a path of a tree, and a manifest is beside it. -/
structure Opens (t : Tree) (project : Path) (mint : Mint) (g : Graph) (mf : Manifest) : Prop where
  graph : ∃ mint', (ProjectFile.load (m := StateM Tree) project mint t).1 = .ok (g, mint')
  manifest : (Manifest.load (m := StateM Tree) (Path.absolute t.here project).parent t).1 = .ok mf

theorem load_of_opens (h : Opens t project mint g mf) :
    ∃ mint', (load project : Act (StateM Tree) Graph) { mint } t =
      ((.ok g, { mint := mint' }), t) := by
  obtain ⟨mint', hload⟩ := h.graph
  have hget : (get : Act (StateM Tree) Session) { mint } t = ((.ok { mint }, { mint }), t) := rfl
  have hwithin : (within (ProjectFile.load project mint) :
      Act (StateM Tree) (Except Failure (Graph × Mint))) { mint } t =
        ((.ok (.ok (g, mint')), { mint }), t) := by
    rw [within_apply, hload, Tree.reads_loadProject]
  refine ⟨mint', ?_⟩
  unfold load
  rw [bind_of_ok hget, bind_of_ok hwithin]
  rfl

theorem manifestOf_of_opens (h : Opens t project mint g mf) :
    (manifestOf project : Act (StateM Tree) Manifest) s t = ((.ok mf, s), t) := by
  have hfolder : (folderOf project : Act (StateM Tree) Path) s t =
      ((.ok (Path.absolute t.here project).parent, s), t) := rfl
  have hwithin : (within (Manifest.load (Path.absolute t.here project).parent) :
      Act (StateM Tree) (Except Failure Manifest)) s t = ((.ok (.ok mf), s), t) := by
    rw [within_apply, h.manifest, Tree.reads_loadManifest]
  unfold manifestOf
  rw [bind_of_ok hfolder, bind_of_ok hwithin]
  rfl

theorem chosen_of_ok [Labelled α] {noun : String} {value : Option String} {choice : Option α}
    (h : value.mapM (choose noun) = .ok choice) :
    (chosen? noun value : Act (StateM Tree) (Option α)) s t = ((.ok choice, s), t) := by
  cases value with
  | none =>
    cases h
    rfl
  | some x =>
    unfold chosen?
    simp only [Option.mapM_some] at h ⊢
    cases hc : (choose noun x : Except Failure α) with
    | error f =>
      rw [hc] at h
      cases h
    | ok a =>
      rw [hc] at h
      cases h
      rfl

end Command

/-! ## Tables -/

theorem Table.shown_of_lines {t : Table} (h : t.lines.isOk = true) {row : List String}
    (hrow : row ∈ t.rows) {i : Nat} (hi : i < t.columns.length) :
    (Markup.shown (row.getD i "")).isOk = true := by
  cases hlines : t.lines with
  | error e =>
    rw [hlines] at h
    cases h
  | ok lines =>
    obtain ⟨cells, hcells, -⟩ := bind_eq_ok_iff.mp hlines
    obtain ⟨columns, hcolumns, -⟩ := bind_eq_ok_iff.mp hcells
    obtain ⟨column, -, hcolumn⟩ := forall_of_mapM_ok hcolumns i (List.mem_range.mpr hi)
    obtain ⟨cell, -, hcell⟩ := forall_of_mapM_ok hcolumn row hrow
    rw [hcell]
    rfl

/-! ## Writing a service -/

/-- A failure that is unexpected, or one to write a file. -/
def Unwritten (f : Failure) : Prop :=
  f.isReportable = true → ∃ path detail, f = .unwritable path detail

theorem unwritten_failure (e : StorageError) (path : String) :
    Unwritten (e.failure (.unwritable path)) := by
  unfold StorageError.failure
  split
  · exact fun h => nomatch h
  · exact fun _ => ⟨path, _, rfl⟩

theorem gives_writeFiles (root : Path) (files : List (String × String)) :
    Tree.Gives (FailsOnly Unwritten) (Output.writeFiles (m := StateM Tree) root files) := by
  induction files with
  | nil => exact fun _ => failsOnly_ok _
  | cons file rest ih =>
    obtain ⟨path, text⟩ := file
    refine Tree.Gives.bind fun r => ?_
    cases r with
    | error e => exact fun _ => failsOnly_error (unwritten_failure e _)
    | ok _ => exact fun t => (ih t).map _

theorem nonEmpty_place {path place : String}
    (h : nonEmpty? (some (Context.text { path := some path })) = some place) :
    place = "file " ++ path := by
  rcases Bool.eq_false_or_eq_true path.isEmpty with hpath | hpath
  · have hcontext : Context.text { path := some path } = "" := by
      simp [Context.text, nonEmpty?, hpath]
    rw [hcontext] at h
    cases h
  · have hcontext : Context.text { path := some path } = "file " ++ path := by
      simp [Context.text, nonEmpty?, hpath]
    rw [hcontext, nonEmpty?] at h
    split at h
    · cases h
    · exact (Option.some.inj h).symm

theorem Failure.text_of_place {f : Failure} {place : String}
    (h : nonEmpty? (f.context?.map Context.text) = some place) :
    f.text = place ++ ": " ++ f.message := by
  rw [Failure.text, h]

theorem Failure.text_of_no_place {f : Failure}
    (h : nonEmpty? (f.context?.map Context.text) = none) : f.text = f.message := by
  rw [Failure.text, h]

theorem head_text_unwritable (path detail : String) :
    ∃ c, (c = 'f' ∨ c = 'F') ∧ (Failure.unwritable path detail).text.toList.head? = some c := by
  have hmessage : (Failure.unwritable path detail).message = "Failed to write file: " ++ detail :=
    rfl
  cases hplace : nonEmpty? (some (Context.text { path := some path })) with
  | none =>
    refine ⟨'F', Or.inr rfl, ?_⟩
    rw [Failure.text_of_no_place (f := .unwritable path detail) hplace, hmessage,
      String.toList_append]
    rfl
  | some place =>
    refine ⟨'f', Or.inl rfl, ?_⟩
    rw [Failure.text_of_place (f := .unwritable path detail) hplace, hmessage,
      nonEmpty_place hplace]
    simp only [String.toList_append, List.append_assoc]
    rfl

namespace Command

def ReportsFile (e : String) : Prop :=
  ∃ path detail, e = report (Failure.unwritable path detail).text

theorem ends_writeTo (out : Output) (target : Path) : Ends ReportsFile (fun _ => True) (do
    require (← within (out.writeTo target)) : Act (StateM Tree) (List Path)) := by
  refine (ends_within (gives_writeFiles target out.sortedFiles)).bind fun r hr => ?_
  refine ends_require (hr.mono fun f hf hreportable => ?_)
  obtain ⟨path, detail, rfl⟩ := hf hreportable
  exact ⟨path, detail, rfl⟩

end Command

end Wirework
