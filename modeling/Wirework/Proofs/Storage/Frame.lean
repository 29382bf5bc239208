import Wirework.Storage.Project
import Wirework.Storage.Tree

/-!
# What writing leaves alone

Following a path through a tree ends at its full path, whatever stands on the way
(`Tree.locate_full`), so a step that sets a file changes no text but the one at that full path.
`Tree.Confined P` says this of any step: it keeps the current folder and all texts but those at full
paths in `P`. Making folders changes no text at all, and a run of steps changes what its steps do;
so the writing of an output changes texts at the places of its files only (`confined_writeTo`).

Where a path goes on from a folder without `..`, its full path goes on from that of the folder
(`Path.absolute_join`).
-/

namespace Wirework

/-! ## Paths that go on from a folder -/

namespace Path

variable {p q here root : Path} {done parts rest : List String}

theorem join_of_relative (hq : q.isAbsolute = false) : p.join q = ⟨p.root, p.parts ++ q.parts⟩ := by
  simp [join, hq]

theorem join_join (hq : q.isAbsolute = false) : here.join (root.join q) = (here.join root).join q := by
  rw [join_of_relative hq, join_of_relative hq]
  cases hroot : root.isAbsolute with
  | true =>
    have hlong : isAbsolute ⟨root.root, root.parts ++ q.parts⟩ = true := hroot
    simp [join, hroot, hlong]
  | false =>
    have hlong : isAbsolute ⟨root.root, root.parts ++ q.parts⟩ = false := hroot
    simp [join, hroot, hlong]

theorem resolve_of_not_mem (h : ".." ∉ rest) : resolve done rest = done ++ rest := by
  induction rest generalizing done with
  | nil => simp [resolve]
  | cons part rest ih =>
    have hpart : part ≠ ".." := fun heq => h (heq ▸ List.mem_cons_self)
    have hrest : ".." ∉ rest := fun hmem => h (List.mem_cons_of_mem _ hmem)
    rw [resolve, if_neg hpart, ih hrest, List.append_assoc]
    rfl

theorem resolve_append (h : ".." ∉ rest) :
    resolve done (parts ++ rest) = resolve done parts ++ rest := by
  induction parts generalizing done with
  | nil => exact resolve_of_not_mem h
  | cons part parts ih =>
    rw [List.cons_append, resolve, resolve]
    split
    · exact ih
    · exact ih

/-- What goes on from a folder without leaving it goes on from the full path of the folder. -/
theorem absolute_join (hq : q.isAbsolute = false) (hup : ".." ∉ q.parts) :
    absolute here (root.join q) = (absolute here root).join q := by
  rw [absolute, join_join hq, join_of_relative hq, join_of_relative hq]
  simp only [resolve_append hup, absolute]

theorem mem_ancestors_join (hq : q.isAbsolute = false) (hne : q.parts ≠ []) :
    p ∈ (p.join q).ancestors := by
  rw [join_of_relative hq, ancestors, List.mem_map]
  refine ⟨p.parts.length, ?_, by simp⟩
  have hpos : 0 < q.parts.length := List.length_pos_iff.mpr hne
  simpa using hpos

end Path

namespace Tree

variable {t t' : Tree} {p full : Path} {place : Place} {α β : Type} {P Q : Path → Path → Prop}

/-! ## Places -/

theorem walk_full {root : String} {done parts : List String}
    (h : t.walk ⟨root, done⟩ parts = .ok place) : place.full = ⟨root, Path.resolve done parts⟩ := by
  induction parts generalizing done with
  | nil =>
    cases h
    rfl
  | cons part rest ih =>
    rw [walk] at h
    rw [Path.resolve]
    split at h
    next hup =>
      rw [if_pos hup]
      exact ih h
    next hdown =>
      rw [if_neg hdown]
      split at h
      · cases h
      · dsimp only at h
        split at h
        · cases h
          rfl
        · exact ih h
        · cases h
        · cases h

theorem locate_full (h : t.locate p = .ok place) : place.full = Path.absolute t.here p := by
  unfold locate at h
  split at h
  · cases h
  · split at h
    · cases h
    · exact walk_full h

/-! ## Steps -/

theorem lookup_map_of_ne {files : List (Path × String)} {text : String} (h : full ≠ p) :
    (files.map fun f => if f.1 = p then (f.1, text) else f).lookup full = files.lookup full := by
  induction files with
  | nil => rfl
  | cons f rest ih =>
    obtain ⟨path, old⟩ := f
    by_cases hpath : path = p
    · subst hpath
      have hne : (full == path) = false := beq_eq_false_iff_ne.mpr h
      simp only [List.map_cons, if_true, List.lookup_cons, hne, ih]
    · simp only [List.map_cons, if_neg hpath, List.lookup_cons, ih]

/-- Setting a file keeps the current folder and all texts elsewhere. -/
theorem setText_spec {text : String} (h : t.setText p text = .ok t') :
    t'.here = t.here ∧ ∀ full, full ≠ Path.absolute t.here p → t'.text? full = t.text? full := by
  unfold setText at h
  cases hplace : t.locate p with
  | error o =>
    rw [hplace] at h
    cases h
  | ok place =>
    rw [hplace] at h
    rw [← locate_full hplace]
    obtain ⟨at', entry⟩ := place
    cases entry with
    | none =>
      cases h
      refine ⟨rfl, fun full hne => ?_⟩
      have hbeq : (full == at') = false := beq_eq_false_iff_ne.mpr hne
      simp only [text?, List.lookup_append, List.lookup_cons, hbeq, List.lookup_nil,
        Option.or_none]
    | some entry =>
      cases entry with
      | folder => cases h
      | file =>
        cases h
        exact ⟨rfl, fun full hne => lookup_map_of_ne hne⟩

theorem addFolder_spec (h : t.addFolder p = .ok t') : t'.here = t.here ∧ t'.files = t.files := by
  unfold addFolder at h
  cases hplace : t.locate p with
  | error o =>
    rw [hplace] at h
    cases h
  | ok place =>
    rw [hplace] at h
    obtain ⟨at', entry⟩ := place
    cases entry with
    | none =>
      cases h
      exact ⟨rfl, rfl⟩
    | some entry => cases h

/-! ## Steps within bounds -/

/-- A step stays in the current folder and keeps all texts but those at some full paths, which may
depend on the current folder. -/
structure Confined (P : Path → Path → Prop) (step : StateM Tree α) : Prop where
  here_eq : ∀ t, (step t).2.here = t.here
  text_eq : ∀ t full, ¬ P t.here full → (step t).2.text? full = t.text? full

namespace Confined

theorem pure (a : α) : Confined P (Pure.pure a : StateM Tree α) := ⟨fun _ => rfl, fun _ _ _ => rfl⟩

theorem mono {step : StateM Tree α} (h : Confined P step) (hPQ : ∀ here full, P here full → Q here full) :
    Confined Q step :=
  ⟨h.here_eq, fun t full hfull => h.text_eq t full fun hP => hfull (hPQ _ _ hP)⟩

theorem bind {step : StateM Tree α} {next : α → StateM Tree β} (h : Confined P step)
    (hnext : ∀ a, Confined P (next a)) : Confined P (step >>= next) where
  here_eq t := by
    have hrun : (step >>= next) t = next (step t).1 (step t).2 := rfl
    rw [hrun, (hnext _).here_eq, h.here_eq]
  text_eq t full hfull := by
    have hrun : (step >>= next) t = next (step t).1 (step t).2 := rfl
    have hfull' : ¬ P (step t).2.here full := by rwa [h.here_eq]
    rw [hrun, (hnext _).text_eq _ _ hfull', h.text_eq t full hfull]

theorem attempt {step : Tree → Except Obstacle Tree}
    (h : ∀ t t', step t = .ok t' →
      t'.here = t.here ∧ ∀ full, ¬ P t.here full → t'.text? full = t.text? full) :
    Confined P (Tree.attempt p step) := by
  have hrun : ∀ t, (Tree.attempt p step t).2.here = t.here ∧
      ∀ full, ¬ P t.here full → (Tree.attempt p step t).2.text? full = t.text? full := by
    intro t
    unfold Tree.attempt
    cases hstep : step t with
    | ok t' => exact h t t' hstep
    | error o => exact ⟨rfl, fun _ _ => rfl⟩
  exact ⟨fun t => (hrun t).1, fun t => (hrun t).2⟩

end Confined

theorem confined_look (p : Path) : Confined P (Storage.look p : StateM Tree _) :=
  ⟨fun _ => rfl, fun _ _ _ => rfl⟩

theorem confined_makeFolder (p : Path) : Confined P (Storage.makeFolder p : StateM Tree _) := by
  refine .attempt fun t t' h => ?_
  obtain ⟨hhere, hfiles⟩ := addFolder_spec h
  exact ⟨hhere, fun full _ => by rw [text?, text?, hfiles]⟩

/-- The full path of a path is the one that is written. -/
def FullOf (p : Path) (here full : Path) : Prop := full = Path.absolute here p

theorem confined_setFile (p : Path) (text : String) :
    Confined (FullOf p) (Storage.setFile p text : StateM Tree _) :=
  .attempt fun _ _ h => setText_spec h

theorem confined_ensureFolder (p : Path) : Confined P (Storage.ensureFolder p : StateM Tree _) := by
  refine (confined_makeFolder p).bind fun made => ?_
  cases made with
  | ok _ => exact .pure _
  | error e =>
    refine (confined_look p).bind fun found => ?_
    split
    · exact .pure _
    · exact .pure _

theorem confined_ensureFolders (p : Path) (n : Nat) :
    Confined P (Storage.ensureFolders p n : StateM Tree _) := by
  induction n generalizing p with
  | zero => exact confined_ensureFolder p
  | succ n ih =>
    refine (confined_ensureFolder p).bind fun made => ?_
    cases made with
    | ok _ => exact .pure _
    | error e =>
      dsimp only
      split
      · refine (ih p.parent).bind fun above => ?_
        cases above with
        | ok _ => exact confined_ensureFolder p
        | error e => exact .pure _
      · exact .pure _

theorem confined_writeFile (p : Path) (text : String) :
    Confined (FullOf p) (Storage.writeFile p text : StateM Tree _) := by
  refine (confined_ensureFolders _ _).bind fun above => ?_
  cases above with
  | ok _ => exact confined_setFile p text
  | error e => exact .pure _

/-! ## Writing an output -/

def FullAmong (root : Path) (paths : List String) (here full : Path) : Prop :=
  ∃ path ∈ paths, full = Path.absolute here (root.join (.ofText path))

theorem confined_writeFiles (root : Path) (files : List (String × String)) :
    Confined (FullAmong root (files.map Prod.fst)) (Output.writeFiles root files : StateM Tree _) := by
  induction files with
  | nil => exact .pure _
  | cons file rest ih =>
    obtain ⟨path, text⟩ := file
    have hfirst : Confined (FullAmong root (path :: rest.map Prod.fst))
        (Storage.writeFile (root.join (.ofText path)) text : StateM Tree _) :=
      (confined_writeFile _ text).mono fun _ _ h => ⟨path, List.mem_cons_self, h⟩
    refine hfirst.bind fun written => ?_
    cases written with
    | error e => exact .pure _
    | ok _ =>
      have hrest : Confined (FullAmong root (path :: rest.map Prod.fst))
          (Output.writeFiles root rest : StateM Tree _) :=
        ih.mono fun _ _ h => by
          obtain ⟨path', hpath', hfull⟩ := h
          exact ⟨path', List.mem_cons_of_mem _ hpath', hfull⟩
      exact hrest.bind fun _ => .pure _

/-- Writing an output changes texts at the places of its files only. -/
theorem confined_writeTo (out : Output) (root : Path) :
    Confined (FullAmong root out.files.keys) (out.writeTo root : StateM Tree _) := by
  refine (confined_writeFiles root out.sortedFiles).mono fun here full h => ?_
  obtain ⟨_, hwritten, hfull⟩ := h
  obtain ⟨file, hfile, rfl⟩ := List.mem_map.mp hwritten
  obtain ⟨path, hpath, hfile⟩ := List.mem_filterMap.mp hfile
  obtain ⟨content, -, rfl⟩ := Option.map_eq_some_iff.mp hfile
  exact ⟨path, List.mem_mergeSort.mp hpath, hfull⟩

end Tree

end Wirework
